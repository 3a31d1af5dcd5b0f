import LineCommand.Catalog.Dispatch
import LineCommand.Console.Help
import LineCommand.Console.Log
import LineCommand.Console.Request
import LineCommand.Settings.Report

/-!
A run of the program: what it prints and logs, and the code it ends with, given what lies at every
path, the environment, and the words of the command line. All that is logged comes before what is
printed on the same channel.
-/
namespace LineCommand.Console

/-- What a task comes to: lines to print, lines to complain with, and a code. -/
structure Answer where
  out : List String
  complaints : List String
  code : Nat
  deriving DecidableEq, Repr

namespace Answer

def success (out : List String) : Answer := ⟨out, [], 0⟩

def failure (complaints : List String) : Answer := ⟨[], complaints, 1⟩

end Answer

/-! ### Tasks -/

/-- Whether a fault means that there is no catalog, and not that the program cannot go on. -/
def isCatalogFault (f : Fault) : Bool := f.kind == .noFile || f.kind == .badValue

/-- Does something with the catalog at a path, or says why there is none. -/
def withCatalog (reader : Catalog.Reader) (look : Path → Entry) (path : Path)
    (task : Catalog → Act Answer) : Act Answer := do
  match ← (Catalog.load reader path (look path)).attempt with
  | .ok catalog => task catalog
  | .error fault =>
    if isCatalogFault fault then do
      let message ← Act.ofExcept fault.said
      pure (.failure [s!"Error loading catalog: {message}"])
    else .raise fault

def listed (heading : String) (problems : List String) : Answer :=
  .failure (heading :: problems.map fun problem => s!"  - {problem}")

/-- Checks that all templates compile and that all examples match. -/
def check (s : Settings) (catalog : Catalog) : Act Answer := do
  match ← catalog.compile s.unknownFields.toValue with
  | .error failure => pure (listed "Catalog has errors:" (Text.lines failure.message))
  | .ok grammars => do
    let problems ← catalog.checkExamples grammars
    if problems.isEmpty then
      let fields := catalog.fields.size
      pure (.success [s!"OK: {grammars.length} commands, {fields} fields"])
    else pure (listed "Examples that do not match their command:" problems)

def failed (f : Failure) : Answer := .failure [s!"Error: {f.message}"]

def showGrammar (s : Settings) (name : String) (catalog : Catalog) : Act Answer :=
  match catalog.command? name with
  | none => pure (.failure [s!"Unknown command: {name}"])
  | some spec => do
    match ← Act.ofExcept (catalog.builder s.unknownFields.toValue) with
    | .error failure => pure (failed failure)
    | .ok b => do
      match ← b.buildSource (.text spec.template) with
      | .error failure => pure (failed failure)
      | .ok source => pure (.success [source])

def messageOf : Value → Except Fault String
  | .execution _ _ message => .ok message
  | v => .error (.noAttribute v "message")

def dispatched (g : Group) (policy : MatchPolicy) (line : String) : Act (Outcome (List Value)) :=
  let single (a : Act (Outcome Value)) := a.map (Except.map fun v => [v])
  match policy with
  | .all => g.processAll (.text line) .none
  | .first => single (g.processFirst (.text line) .none)
  | .one => single (g.processOne (.text line) .none)

def parse (policy : MatchPolicy) (target : FormatTarget) (s : Settings) (line : String)
    (catalog : Catalog) : Act Answer := do
  match ← catalog.buildGroup s.unknownFields.toValue none target.toValue with
  | .error failure => pure (failed failure)
  | .ok group => do
    match ← dispatched group policy line with
    | .error failure => pure (failed failure)
    | .ok results => do
      let messages ← Act.ofExcept (results.mapM messageOf)
      pure (.success messages)

def Request.answer (reader : Catalog.Reader) (s : Settings) (look : Path → Entry) (r : Request) :
    Act Answer :=
  let onCatalog := withCatalog reader look (r.catalogPath s)
  match r with
  | check _ => onCatalog (Console.check s)
  | grammar name _ => onCatalog (showGrammar s name)
  | parse line _ policy target =>
    onCatalog (Console.parse (policy.getD s.policy) (target.getD s.target) s line)
  | settings => pure (.success (s.summary look))

/-! ### Runs -/

/-- What users see of a run, and the code or the fault that it ends with. -/
structure Run where
  out : List String
  err : List String
  ended : Except Fault Nat

/-- A run that stops before it does anything: to help, or with a complaint. -/
def Stop.run : Stop → Run
  | help i => ⟨i.help, [], .ok 0⟩
  | complaint i c => ⟨[], i.usage ++ [s!"{i.program}: error: {c.message}"], .ok 2⟩

def logged {α : Type} (format : LogFormat) (threshold : Int) (time : String) (a : Act α) :
    List String :=
  let entries := a.notes.map LogEntry.ofNote
  (entries.filter fun e => threshold ≤ e.level).map (LogEntry.line format time)

/-- The run for a request. `clock` tells the time as log lines have it. -/
def Request.run (reader : Catalog.Reader) (s : Settings) (look : Path → Entry)
    (clock : LogFormat → String) (r : Request) : Run :=
  match s.threshold with
  | .error fault => ⟨[], [], .error fault⟩
  | .ok threshold =>
    let act := r.answer reader s look
    let log := logged s.logFormat threshold (clock s.logFormat) act
    match act.answer with
    | .ok answer => ⟨answer.out, log ++ answer.complaints, .ok answer.code⟩
    | .error fault => ⟨[], log, .error fault⟩

/-- A run of the program. The settings come first; without a request the run helps. -/
def run (reader : Catalog.Reader) (look : Path → Entry) (environment : String → Option String)
    (clock : LogFormat → String) (arguments : List String) : Run :=
  match Settings.load look environment with
  | .error fault => ⟨[], [], .error fault⟩
  | .ok s =>
    match Request.ofArguments arguments with
    | .error stop => stop.run
    | .ok none => (Stop.help program).run
    | .ok (some r) => r.run reader s look clock

/-- The path of the catalog that a run looks at, if it gets so far. -/
def catalogPath? (look : Path → Entry) (environment : String → Option String)
    (arguments : List String) : Option Path :=
  match Settings.load look environment, Request.ofArguments arguments with
  | .ok s, .ok (some r) => some (r.catalogPath s)
  | _, _ => none

end LineCommand.Console
