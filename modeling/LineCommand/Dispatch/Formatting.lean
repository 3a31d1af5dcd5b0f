import LineCommand.Conversion.Basic
import LineCommand.Dispatch.Target

/-!
Formatters turn results into texts, one for each destination. The one for plain text also serves the
destinations that have none of their own.
-/
namespace LineCommand

/-- A part that a user hands over, which may turn out to be of no use. -/
inductive Supplied (α : Type)
  | usable (part : α)
  | plain (v : Value)

/-- Formatters by destination, in the order in which they were given. -/
structure FormatterSet where
  entries : List (FormatTarget × Callback) := []

namespace FormatterSet

/-- The set with a formatter for a destination, in place of an earlier one. -/
def insert (s : FormatterSet) (t : FormatTarget) (f : Callback) : FormatterSet :=
  if s.entries.any (·.1 == t) then
    ⟨s.entries.map fun (u, g) => (u, if u = t then f else g)⟩
  else ⟨s.entries ++ [(t, f)]⟩

/-- The set of the formatters given under names of destinations. -/
def ofEntries (entries : List (Value × Supplied Callback)) : Except Fault FormatterSet :=
  entries.foldlM (fun s (name, formatter) =>
    match formatter with
    | .plain _ => do .error (.wrongType s!"Formatter for {← name.shown} is not callable.")
    | .usable f => (FormatTarget.ofValue name).map fun t => s.insert t f) {}

def create (entries : List (Value × Supplied Callback)) : Except Fault (Outcome FormatterSet) :=
  (Outcome.capture (ofEntries entries)).map (.withKind .configuration)

def targets (s : FormatterSet) : List FormatTarget := s.entries.map (·.1)

def get? (s : FormatterSet) (t : FormatTarget) : Option Callback :=
  (s.entries.lookup t).or (s.entries.lookup .text)

def getNamed? (s : FormatterSet) (target : Value) : Except Fault (Option Callback) :=
  (FormatTarget.resolve target).map fun resolved => resolved.toOption.bind s.get?

/-- Whether a value names a destination with a formatter of its own. -/
def holds (s : FormatterSet) (target : Value) : Bool :=
  (FormatTarget.ofValue? target).any fun t => s.targets.contains t

/-- The formatter for a destination; without any it gives the text that a value is said as. -/
def formatter (s : FormatterSet) (t : FormatTarget) : Callback :=
  (s.get? t).getD fun v => v.said.map .text

def rendered (t : FormatTarget) : Outcome Value → Outcome String
  | .error failure => fail .format s!"Cannot format result: {failure.message}"
  | .ok v =>
    match v.text? with
    | some text => .ok text
    | none => fail .format s!"Formatter for {t.word} returned {v.typeName}, not str."

def formatFor (s : FormatterSet) (v : Value) (t : FormatTarget) : Except Fault (Outcome String) :=
  (Outcome.capture (s.formatter t v)).map (rendered t)

theorem formatFor_of_shown {s : FormatterSet} {v : Value} {t : FormatTarget} {f : Callback}
    {text : String} (found : s.get? t = some f) (shown : f v = .ok (.text text)) :
    s.formatFor v t = .ok (.ok text) := by
  simp only [formatFor, formatter, found, Option.getD_some, shown, Outcome.capture_ok]
  rfl

/-- The text of a value for the destination that another value names. -/
def format (s : FormatterSet) (v target : Value) : Except Fault (Outcome String) := do
  match ← FormatTarget.resolve target with
  | .error failure => .ok (.error failure)
  | .ok t => s.formatFor v t

end FormatterSet
end LineCommand
