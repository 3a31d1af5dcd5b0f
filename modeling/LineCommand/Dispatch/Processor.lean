import LineCommand.Dispatch.Command

/-!
A processor tries its commands on a line in the order of their registration. Three policies say what
comes of several commands that accept a line: all of their results, the first one, or a failure.
A validator may turn results down, which only takes the command out of the running.
-/
namespace LineCommand

/-- A table of commands, with a validator for results and a destination for messages. -/
structure Processor where
  commands : NameTable Command := NameTable.empty
  validator : Option Callback
  target : FormatTarget

inductive Evaluation
  | notMatched
  | accepted (result : Value)
  /-- The validator turned the result down. -/
  | rejected (reason : Failure)
  /-- Matching, converting, running or wording failed. -/
  | failed (reason : Failure)

/-- The results that were accepted, in order, and the last reason for turning one down. -/
structure Sweep where
  accepted : List Value := []
  rejection : Option Failure := none

namespace Processor

/-! ### Registration -/

def add (p : Processor) (c : Command) : Act Processor :=
  match p.commands.add (.text c.name) c with
  | .error failure => .raise (.badValue failure.message)
  | .ok commands => do
    .note .debug .processor s!"Registered command {c.name}"
    pure { p with commands }

def addSupplied (p : Processor) : Supplied Command → Act Processor
  | .usable c => p.add c
  | .plain v => .raise (.wrongType s!"Expected CommandDefinition, got {v.typeName}.")

def empty (validator : Option Callback) (target : Value) : Except Fault Processor :=
  (FormatTarget.ofValue target).map fun target => { validator, target }

def create (commands : List Command) (validator : Option Callback) (target : Value) :
    Act Processor := do
  let p ← Act.ofExcept (empty validator target)
  commands.foldlM add p

/-- The destination for messages, if an absent one stands for that of the processor. -/
def resolveTarget (p : Processor) (target : Value) : Except Fault (Outcome FormatTarget) :=
  if target.isNone then .ok (.ok p.target) else FormatTarget.resolve target

/-! ### Validation -/

/-- What the commands validate, in order, and the messages of those that fail to. -/
def validateEach (line : Value) : List Command → Act (List ValidatedCommand × List String)
  | [] => pure ([], [])
  | c :: rest => do
    let outcome ← c.validate line
    let (validated, problems) ← validateEach line rest
    match outcome with
    | .ok (some v) => pure (v :: validated, problems)
    | .ok none => pure (validated, problems)
    | .error failure => pure (validated, s!"{c.name}: {failure.message}" :: problems)

/-- Matches and converts a line without running anything. Commands that fail to are passed over as
long as one of them succeeds. -/
def validateAll (p : Processor) (line : Value) : Act (Outcome (List ValidatedCommand)) := do
  let (validated, problems) ← validateEach line p.commands.values
  if validated.isEmpty && !problems.isEmpty then
    pure (fail .conversion (Text.joined "\n" problems))
  else pure (.ok validated)

def noMatch (line : Value) : Except Fault Failure :=
  line.said.map fun said => .of .noMatch s!"No command matched \"{said}\""

def unmatched {α : Type} (line : Value) : Act (Outcome α) :=
  Act.ofExcept ((noMatch line).map .error)

/-- Fails because no command matches a line, for a reason that is told as well. -/
def unmatchedFor {α : Type} (line : Value) (reason : String) (detail : Value) : Act (Outcome α) :=
  Act.ofExcept ((noMatch line).map fun failure => .error ⟨failure.message ++ "\n" ++ reason, detail⟩)

/-- Fails because several commands match a line. -/
def ambiguous {α : Type} (line : Value) (names : List String) : Act (Outcome α) := do
  let candidates := Text.joined ", " names
  .note .warning .processor s!"Ambiguous command {line.written} matched {candidates}"
  let said ← Act.ofExcept line.said
  pure (fail .ambiguous s!"Ambiguous command \"{said}\" could be any of: [{candidates}]")

/-- Matches and converts a line, which only one command may do. -/
def validateOne (p : Processor) (line : Value) : Act (Outcome ValidatedCommand) := do
  match ← p.validateAll line with
  | .error failure => unmatchedFor line failure.message failure.detail
  | .ok [] => unmatched line
  | .ok [v] => pure (.ok v)
  | .ok several => ambiguous line (several.map (·.command.name))

/-! ### Evaluation -/

def judge (result reply : Value) : Evaluation :=
  match Outcome.ofValue? reply with
  | none => .failed (.of .validation "Validator did not return a Result.")
  | some (.error failure) =>
    .rejected { failure with detail := failure.detail.orElse (.kind .validation) }
  | some (.ok replaced) => .accepted (if replaced.isNone then result else replaced)

/-- Asks the validator about a result. Without a validator every result is accepted. -/
def check (p : Processor) (name : String) (result : Value) : Act Evaluation :=
  match p.validator with
  | none => pure (.accepted result)
  | some validator =>
    match Outcome.capture (validator result) with
    | .error fault => .raise fault
    | .ok (.error failure) =>
      pure (.failed (.of .validation s!"Validator raised: {failure.message}"))
    | .ok (.ok reply) =>
      match judge result reply with
      | .rejected failure => do
        .note .debug .processor s!"Validator rejected {name}: {failure.message}"
        pure (.rejected failure)
      | evaluation => pure evaluation

def evaluateFor (p : Processor) (t : FormatTarget) (line : Value) (c : Command) :
    Act Evaluation := do
  match ← c.execute line t.toValue with
  | .error failure => do
    .note .debug .processor s!"Command {c.name} failed on {line.written}: {failure.message}"
    pure (.failed failure)
  | .ok none => pure .notMatched
  | .ok (some execution) => p.check c.name execution.toValue

/-- Takes one command through all stages for a line and a destination. -/
def evaluate (p : Processor) (c : Command) (line target : Value) : Act Evaluation := do
  match ← Act.ofExcept (p.resolveTarget target) with
  | .error failure => pure (.failed failure)
  | .ok t => p.evaluateFor t line c

/-! ### Policies -/

/-- Evaluates commands in order, up to the first one that fails. -/
def sweep (p : Processor) (t : FormatTarget) (line : Value) :
    List Command → Act (Outcome Sweep)
  | [] => pure (.ok {})
  | c :: rest => do
    match ← p.evaluateFor t line c with
    | .failed failure => pure (.error failure)
    | .notMatched => p.sweep t line rest
    | .rejected failure => do
      let others ← p.sweep t line rest
      pure (others.map fun h => { h with rejection := h.rejection.or (some failure) })
    | .accepted result => do
      let others ← p.sweep t line rest
      pure (others.map fun h => { h with accepted := result :: h.accepted })

/-- All results for a line. If there is none, the last reason for turning one down is the
failure. -/
def processAll (p : Processor) (line target : Value) : Act (Outcome (List Value)) := do
  match ← Act.ofExcept (p.resolveTarget target) with
  | .error failure => pure (.error failure)
  | .ok t => do
    match ← p.sweep t line p.commands.values with
    | .error failure => pure (.error failure)
    | .ok ⟨[], some rejection⟩ => pure (.error rejection)
    | .ok h => pure (.ok h.accepted)

/-- The first result that is accepted. `rejection` is the last reason so far for turning one
down. -/
def firstAccepted (p : Processor) (t : FormatTarget) (line : Value) (rejection : Option Failure) :
    List Command → Act (Outcome Value)
  | [] =>
    match rejection with
    | some reason => pure (.error reason)
    | none => unmatched line
  | c :: rest => do
    match ← p.evaluateFor t line c with
    | .failed failure => pure (.error failure)
    | .notMatched => p.firstAccepted t line rejection rest
    | .rejected failure => p.firstAccepted t line (some failure) rest
    | .accepted result => pure (.ok result)

def processFirst (p : Processor) (line target : Value) : Act (Outcome Value) := do
  match ← Act.ofExcept (p.resolveTarget target) with
  | .error failure => pure (.error failure)
  | .ok t => p.firstAccepted t line none p.commands.values

def validateStrictly (line : Value) : List Command → Act (Outcome (List ValidatedCommand))
  | [] => pure (.ok [])
  | c :: rest => do
    match ← c.validate line with
    | .error failure => pure (.error failure)
    | .ok found? => do
      let others ← validateStrictly line rest
      pure (others.map (found?.toList ++ ·))

/-- The names of the commands that results say they come from; a validator may have put in results
that do not say so. -/
def commandNames : List Value → Except Fault (List Value)
  | [] => .ok []
  | v :: rest =>
    match v.member? "command" with
    | none => .error (.noAttribute v "command")
    | some name => (commandNames rest).map (name :: ·)

/-- Names as texts. `position` counts the names before. -/
def nameTexts (position : Nat) : List Value → Except Fault (List String)
  | [] => .ok []
  | v :: rest =>
    match v.text? with
    | none => .error (.wrongType
        s!"sequence item {position}: expected str instance, {v.typeName} found")
    | some s => (nameTexts (position + 1) rest).map (s :: ·)

/-- The only result for a line. Without a validator, whether it is the only one is known before
anything runs. -/
def processOne (p : Processor) (line target : Value) : Act (Outcome Value) := do
  match ← Act.ofExcept (p.resolveTarget target) with
  | .error failure => pure (.error failure)
  | .ok t =>
    match p.validator with
    | none => do
      match ← validateStrictly line p.commands.values with
      | .error failure => pure (.error failure)
      | .ok [] => unmatched line
      | .ok [v] => do
        let executed ← v.execute t.toValue
        pure (executed.map Execution.toValue)
      | .ok several => ambiguous line (several.map (·.command.name))
    | some _ => do
      match ← p.sweep t line p.commands.values with
      | .error failure => pure (.error failure)
      | .ok ⟨[], none⟩ => unmatched line
      | .ok ⟨[], some rejection⟩ => unmatchedFor line rejection.message (.kind .validation)
      | .ok ⟨[result], _⟩ => pure (.ok result)
      | .ok ⟨several, _⟩ => do
        let names ← Act.ofExcept ((commandNames several).bind (nameTexts 0))
        ambiguous line names

/-! ### Formatting and help -/

/-- The text of a result, worded by the command that it says it comes from. -/
def format (p : Processor) (execution target : Value) : Except Fault (Outcome String) :=
  match execution.member? "command" with
  | none => .error (.noAttribute execution "command")
  | some name =>
    match p.commands.get? name with
    | none => do .ok (fail .format s!"Unknown command {← name.said}")
    | some c => do
      match ← p.resolveTarget target with
      | .error failure => .ok (.error failure)
      | .ok t =>
        match execution.member? "result" with
        | none => .error (.noAttribute execution "result")
        | some result => c.format result t.toValue

/-- The formatter of every command for a destination, by name. -/
def defaultFormatters (p : Processor) (target : Value) :
    Except Fault (Outcome (List (String × Callback))) := do
  match ← p.resolveTarget target with
  | .error failure => .ok (.error failure)
  | .ok t =>
    let found ← p.commands.values.mapM fun c =>
      (c.defaultFormatter t.toValue).map fun o => o.map fun formatter => (c.name, formatter)
    .ok ((Outcome.all found).withKind .format)

def helpLines (p : Processor) : Except Fault (List String) :=
  (p.commands.values.mapM Command.helpLines).map List.flatten

end Processor
end LineCommand
