import LineCommand.Fault
import LineCommand.Number.Shortest
import LineCommand.Text.Quoted

/-! The text of values: `written` shows a value so that its type can be told, `plain` gives texts as
they are. A value is `writable` if no integer in it has too many digits to be written. Messages cite
values by `shown` and `said`, which are the two texts where they can be written, and else a fault. -/
namespace LineCommand.Value

/-- Texts between two brackets, separated by commas. -/
def enclosed (start stop : String) (parts : List String) : String :=
  start ++ ", ".intercalate parts ++ stop

def boolText (b : Bool) : String := if b then "True" else "False"

mutual

def written : Value → String
  | none => "None"
  | bool b => boolText b
  | int n => toString n
  | float x => x.written
  | text s => Text.quoted s
  | kind k => s!"<FailureKind.{k.label}: '{k.text}'>"
  | bytes bs => Text.quotedBytes bs
  | moment m => m.written
  | zone seconds => Moment.zoneText seconds
  | list items => enclosed "[" "]" (writtenList items)
  | tuple [x] => "(" ++ written x ++ ",)"
  | tuple items => enclosed "(" ")" (writtenList items)
  | set [] => "set()"
  | set items => enclosed "\x7b" "\x7d" (writtenList items)
  | dict entries => enclosed "\x7b" "\x7d" (writtenEntries entries)
  | record members => enclosed "namespace(" ")" (writtenMembers members)
  | execution command result message =>
    s!"ExecutionResult(command={Text.quoted command}, result={written result}, "
      ++ s!"message={Text.quoted message})"
  | literal s => s!"Literal(text={Text.quoted s})"
  | reference name optional raw =>
    s!"FieldReference(name={Text.quoted name}, optional={boolText optional}, "
      ++ s!"raw={Text.quoted raw})"
  | success v => s!"Success(value={written v})"
  | failure message detail => s!"Failure(message={Text.quoted message}, detail={written detail})"

def writtenList : List Value → List String
  | [] => []
  | x :: xs => written x :: writtenList xs

def writtenEntries : List (Value × Value) → List String
  | [] => []
  | (k, v) :: xs => (written k ++ ": " ++ written v) :: writtenEntries xs

def writtenMembers : List (String × Value) → List String
  | [] => []
  | (k, v) :: xs => (k ++ "=" ++ written v) :: writtenMembers xs

end

mutual

def writable : Value → Bool
  | int n => withinDigitLimit n
  | list items => writableItems items
  | tuple items => writableItems items
  | set items => writableItems items
  | dict entries => writableEntries entries
  | record members => writableMembers members
  | execution _ result _ => writable result
  | success v => writable v
  | failure _ detail => writable detail
  | _ => true

def writableItems : List Value → Bool
  | [] => true
  | x :: xs => writable x && writableItems xs

def writableEntries : List (Value × Value) → Bool
  | [] => true
  | (k, v) :: xs => writable k && writable v && writableEntries xs

def writableMembers : List (String × Value) → Bool
  | [] => true
  | (_, v) :: xs => writable v && writableMembers xs

end

/-- The text of a value that is to be read by itself: a text is not quoted, and a failure is its
message. -/
def plain : Value → String
  | text s => s
  | kind k => "FailureKind." ++ k.label
  | moment m => m.plain
  | zone seconds => Moment.zoneName seconds
  | failure message _ => message
  | v => v.written

/-- Whether the text of a value that is to be read by itself can be written. -/
def sayable : Value → Bool
  | failure .. => true
  | v => v.writable

/-- The text that shows the type of a value, if all integers in it can be written. -/
def shown (v : Value) : Except Fault String :=
  if v.writable then .ok v.written else .error .tooLong

/-- The text of a value that is to be read by itself, if all integers in it can be written. -/
def said (v : Value) : Except Fault String :=
  if v.sayable then .ok v.plain else .error .tooLong

end LineCommand.Value
