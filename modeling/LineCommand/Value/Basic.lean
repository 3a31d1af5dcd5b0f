import LineCommand.Moment
import LineCommand.Number.Double
import LineCommand.Outcome.Kind

/-!
Values without a fixed type. Field texts, parameters, results of commands and settings of a catalog
are all values, and converting them into something more definite is what converters are for.
-/
namespace LineCommand

/-- A value. Dictionaries and records keep the order in which their entries were made. -/
inductive Value
  | none
  | bool (b : Bool)
  | int (n : Int)
  | float (x : Double)
  | text (s : String)
  /-- A failure kind, which is a text in all but type. -/
  | kind (k : FailureKind)
  | bytes (bs : List UInt8)
  | moment (m : Moment)
  /-- A zone of time, by the seconds that it is ahead of universal time. -/
  | zone (seconds : Int)
  | list (items : List Value)
  | tuple (items : List Value)
  | set (items : List Value)
  | dict (entries : List (Value × Value))
  /-- An object with named members. -/
  | record (members : List (String × Value))
  /-- What a command that ran has left: its name, its result, and the message for the user. -/
  | execution (command : String) (result : Value) (message : String)
  /-- A literal of a template. -/
  | literal (text : String)
  /-- A reference of a template. -/
  | reference (name : String) (optional : Bool) (raw : String)
  | success (value : Value)
  | failure (message : String) (detail : Value)
  deriving Repr, Inhabited

namespace Value

def typeName : Value → String
  | none => "NoneType"
  | bool _ => "bool"
  | int _ => "int"
  | float _ => "float"
  | text _ => "str"
  | kind _ => "FailureKind"
  | bytes _ => "bytes"
  | moment m => if m.clock.isSome then "datetime" else "date"
  | zone _ => "timezone"
  | list _ => "list"
  | tuple _ => "tuple"
  | set _ => "set"
  | dict _ => "dict"
  | record _ => "SimpleNamespace"
  | execution .. => "ExecutionResult"
  | literal _ => "Literal"
  | reference .. => "FieldReference"
  | success _ => "Success"
  | failure .. => "Failure"

/-- Whether a value counts as true: zeros and empty collections do not. -/
def isTrue : Value → Bool
  | none => false
  | bool b => b
  | int n => n != 0
  | float x => !x.isZero
  | text s => !s.isEmpty
  | bytes bs => !bs.isEmpty
  | list items => !items.isEmpty
  | tuple items => !items.isEmpty
  | set items => !items.isEmpty
  | dict entries => !entries.isEmpty
  | _ => true

def isNone : Value → Bool
  | none => true
  | _ => false

/-- The value itself, or another one where it does not count as true. -/
def orElse (v other : Value) : Value := if v.isTrue then v else other

/-- The text of a value that is one; failure kinds are texts. -/
def text? : Value → Option String
  | text s => some s
  | kind k => some k.text
  | _ => Option.none

/-! ### Equality -/

def ofBool (b : Bool) : Int := if b then 1 else 0

def sameInt (n : Int) : Value → Bool
  | bool b => ofBool b == n
  | int m => m == n
  | float x => x.sameInt n
  | _ => false

mutual

/-- Equality of values: numbers are equal across their types, failure kinds equal their texts, and
dictionaries are equal whatever the order of their entries. -/
def same : Value → Value → Bool
  | none, w => w.isNone
  | bool b, w => sameInt (ofBool b) w
  | int n, w => sameInt n w
  | float x, .bool b => x.sameInt (ofBool b)
  | float x, .int n => x.sameInt n
  | float x, .float y => x.same y
  | text s, w => w.text? == some s
  | kind k, w => w.text? == some k.text
  | bytes bs, .bytes cs => bs == cs
  | moment m, .moment n => m.same n
  | zone s, .zone t => s == t
  | list xs, .list ys => sameList xs ys
  | tuple xs, .tuple ys => sameList xs ys
  | set xs, .set ys => xs.length == ys.length && inSet xs ys
  | dict xs, .dict ys => xs.length == ys.length && inDict xs ys
  | record xs, .record ys => xs.length == ys.length && inRecord xs ys
  | execution c r m, .execution c' r' m' => c == c' && same r r' && m == m'
  | literal s, .literal t => s == t
  | reference n o r, .reference n' o' r' => n == n' && o == o' && r == r'
  | success v, .success w => same v w
  | failure m d, .failure m' d' => m == m' && same d d'
  | _, _ => false

def sameList : List Value → List Value → Bool
  | [], [] => true
  | x :: xs, y :: ys => same x y && sameList xs ys
  | _, _ => false

def inSet : List Value → List Value → Bool
  | [], _ => true
  | x :: xs, ys => ys.any (same x) && inSet xs ys

def inDict : List (Value × Value) → List (Value × Value) → Bool
  | [], _ => true
  | (k, v) :: xs, ys => ys.any (fun (k', v') => same k k' && same v v') && inDict xs ys

def inRecord : List (String × Value) → List (String × Value) → Bool
  | [], _ => true
  | (k, v) :: xs, ys => ys.any (fun (k', v') => k == k' && same v v') && inRecord xs ys

end

def sameType (v w : Value) : Bool := v.typeName == w.typeName

/-! ### Dictionaries and members -/

def lookup? (entries : List (Value × Value)) (key : Value) : Option Value :=
  (entries.find? fun (k, _) => k.same key).map (·.2)

def get? (entries : List (Value × Value)) (key : String) : Option Value :=
  lookup? entries (.text key)

/-- Entries with one more: a key that is there already keeps its place and gets the new value. -/
def insert (entries : List (Value × Value)) (key value : Value) : List (Value × Value) :=
  match entries with
  | [] => [(key, value)]
  | (k, v) :: rest => if k.same key then (k, value) :: rest else (k, v) :: insert rest key value

def ofEntries (entries : List (Value × Value)) : Value :=
  .dict (entries.foldl (fun made (k, v) => insert made k v) [])

/-- The members of a moment: those of its day, and of its time if it has one. -/
def momentMembers (m : Moment) : List (String × Value) :=
  let ofDay : List (String × Value) :=
    [("year", .int m.day.year), ("month", .int m.day.month), ("day", .int m.day.day)]
  match m.clock with
  | Option.none => ofDay
  | some c =>
    ofDay ++
      [("hour", .int c.hour), ("minute", .int c.minute), ("second", .int c.second),
       ("microsecond", .int c.micro), ("tzinfo", (c.offset.map zone).getD none), ("fold", .int 0)]

def member? : Value → String → Option Value
  | record members, name => members.lookup name
  | moment m, name => (momentMembers m).lookup name
  | execution command result message, name =>
    [("command", .text command), ("result", result), ("message", .text message)].lookup name
  | literal s, name => [("text", Value.text s)].lookup name
  | reference n o r, name =>
    [("name", .text n), ("optional", .bool o), ("raw", .text r)].lookup name
  | success v, name => [("value", v)].lookup name
  | failure m d, name => [("message", .text m), ("detail", d)].lookup name
  | _, _ => Option.none

end Value
end LineCommand
