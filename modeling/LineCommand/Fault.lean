import LineCommand.Number.Integer
import LineCommand.Value.Basic

/-! Faults: what stops a computation that has no failure to return. Faults come from functions that
users supply, from requests that make no sense, and from numbers of too many digits. What users
raise may hold such a number itself; then nothing can be said about it but that. -/
namespace LineCommand

inductive FaultKind
  | run
  | badValue
  | missingKey
  | wrongType
  | zeroDivision
  | noAttribute
  | badIndex
  | failedOutcome
  | noFile
  | isDirectory
  | badCatalogText
  | noSectionHeader
  | badSettingsText
  | duplicateSection
  | duplicateOption
  | missingInterpolation
  | deepInterpolation
  | badInterpolation
  deriving DecidableEq, Repr, Inhabited

/-- The name of a sort, which stands for a message that is empty. -/
def FaultKind.label : FaultKind → String
  | .run => "RuntimeError"
  | .badValue => "ValueError"
  | .missingKey => "KeyError"
  | .wrongType => "TypeError"
  | .zeroDivision => "ZeroDivisionError"
  | .noAttribute => "AttributeError"
  | .badIndex => "IndexError"
  | .failedOutcome => "ResultError"
  | .noFile => "FileNotFoundError"
  | .isDirectory => "IsADirectoryError"
  | .badCatalogText => "YAMLError"
  | .noSectionHeader => "MissingSectionHeaderError"
  | .badSettingsText => "ParsingError"
  | .duplicateSection => "DuplicateSectionError"
  | .duplicateOption => "DuplicateOptionError"
  | .missingInterpolation => "InterpolationMissingOptionError"
  | .deepInterpolation => "InterpolationDepthError"
  | .badInterpolation => "InterpolationSyntaxError"

/-- A fault. There is no message where it would cite a number that has too many digits. -/
structure Fault where
  kind : FaultKind
  message : Option String
  deriving DecidableEq, Repr, Inhabited

namespace Fault

def of (kind : FaultKind) (message : String) : Fault := ⟨kind, some message⟩

def badValue (message : String) : Fault := .of .badValue message

def wrongType (message : String) : Fault := .of .wrongType message

def tooManyDigits (count : Nat) : Fault :=
  .badValue (s!"Exceeds the limit ({digitLimit} digits) for integer string conversion: "
    ++ s!"value has {count} digits; use sys.set_int_max_str_digits() to increase the limit")

def tooLong : Fault :=
  .badValue (s!"Exceeds the limit ({digitLimit} digits) for integer string conversion; "
    ++ "use sys.set_int_max_str_digits() to increase the limit")

/-- The message, if there is one. Asking for another is a fault of its own. -/
def said (f : Fault) : Except Fault String :=
  match f.message with
  | some message => .ok message
  | none => .error tooLong

/-- What a failure says about a fault: its message, or its sort where that is empty. -/
def summary (f : Fault) : Except Fault String :=
  f.said.map fun message => if message.isEmpty then f.kind.label else message

@[simp] theorem said_badValue (message : String) : (badValue message).said = .ok message := rfl

def noAttribute (v : Value) (name : String) : Fault :=
  let owner :=
    match v with
    | .record _ => "types.SimpleNamespace"
    | .moment m => if m.clock.isSome then "datetime.datetime" else "datetime.date"
    | .zone _ => "datetime.timezone"
    | v => v.typeName
  .of .noAttribute s!"'{owner}' object has no attribute '{name}'"

end Fault
end LineCommand
