/-! The reasons for which a step can fail. -/
namespace LineCommand

/-- A reason for a failure, for callers that act on it without reading the message. -/
inductive FailureKind
  | noMatch
  | ambiguous
  | mismatchedCaptures
  | unrecognizedField
  | conversion
  | execution
  | validation
  | duplicateName
  | format
  | configuration
  deriving DecidableEq, Repr, Inhabited

namespace FailureKind

def all : List FailureKind :=
  [noMatch, ambiguous, mismatchedCaptures, unrecognizedField, conversion, execution, validation,
   duplicateName, format, configuration]

def text : FailureKind → String
  | noMatch => "no_match"
  | ambiguous => "ambiguous"
  | mismatchedCaptures => "mismatched_captures"
  | unrecognizedField => "unrecognized_field"
  | conversion => "conversion"
  | execution => "execution"
  | validation => "validation"
  | duplicateName => "duplicate_name"
  | format => "format"
  | configuration => "configuration"

def label : FailureKind → String
  | noMatch => "NO_MATCH"
  | ambiguous => "AMBIGUOUS"
  | mismatchedCaptures => "MISMATCHED_CAPTURES"
  | unrecognizedField => "UNRECOGNIZED_FIELD"
  | conversion => "CONVERSION"
  | execution => "EXECUTION"
  | validation => "VALIDATION"
  | duplicateName => "DUPLICATE_NAME"
  | format => "FORMAT"
  | configuration => "CONFIGURATION"

def ofText? (s : String) : Option FailureKind := all.find? (·.text == s)

end FailureKind
end LineCommand
