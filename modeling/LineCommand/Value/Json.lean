import LineCommand.Value.Written

/-!
Values as JSON text. Values that JSON has no form for are refused; `describe` then falls back on the
text that shows their type. Neither text is there of a value with an integer that is too long.
-/
namespace LineCommand

namespace Json

def escapeUnit (n : Nat) : List Char := '\\' :: 'u' :: Text.hexDigits 4 n

/-- A character as one escape, or as two where one cannot hold it. -/
def escapeChar (c : Char) : List Char :=
  let n := c.toNat
  if n < 0x10000 then escapeUnit n
  else escapeUnit (0xD800 + (n - 0x10000) / 0x400) ++ escapeUnit (0xDC00 + (n - 0x10000) % 0x400)

def shortEscape? (c : Char) : Option (List Char) :=
  if c = '"' ∨ c = '\\' then some ['\\', c]
  else if c = '\n' then some ['\\', 'n']
  else if c = '\r' then some ['\\', 'r']
  else if c = '\t' then some ['\\', 't']
  else if c.toNat = 8 then some ['\\', 'b']
  else if c.toNat = 12 then some ['\\', 'f']
  else none

/-- A text in JSON, with or without escapes for all that is not ASCII. -/
def text (ascii : Bool) (s : String) : String :=
  let escape (c : Char) : List Char :=
    match shortEscape? c with
    | some e => e
    | none =>
      if c.toNat < 32 ∨ (ascii ∧ 126 < c.toNat) then escapeChar c else [c]
  String.ofList ('"' :: s.toList.flatMap escape ++ ['"'])

def integer (n : Int) : Except Fault String :=
  if withinDigitLimit n then .ok (toString n) else .error .tooLong

/-- A number in JSON. What is not finite has a name. -/
def float : Double → String
  | .nan => "NaN"
  | .infinite negative => if negative then "-Infinity" else "Infinity"
  | x => x.written

end Json

namespace Value

def jsonKey : Value → Except Fault String
  | text s => .ok s
  | kind k => .ok k.text
  | none => .ok "null"
  | bool b => .ok (if b then "true" else "false")
  | int n => Json.integer n
  | float x => .ok (Json.float x)
  | v => .error (.wrongType
      s!"keys must be str, int, float, bool or None, not {v.typeName}")

mutual

def json : Value → Except Fault String
  | none => .ok "null"
  | bool b => .ok (if b then "true" else "false")
  | int n => Json.integer n
  | float x => .ok (Json.float x)
  | text s => .ok (Json.text true s)
  | kind k => .ok (Json.text true k.text)
  | list items => (jsonList items).map (enclosed "[" "]")
  | tuple items => (jsonList items).map (enclosed "[" "]")
  | dict entries => (jsonEntries entries).map (enclosed "\x7b" "\x7d")
  | v => .error (.wrongType s!"Object of type {v.typeName} is not JSON serializable")

def jsonList : List Value → Except Fault (List String)
  | [] => .ok []
  | x :: xs => do
    let first ← json x
    let rest ← jsonList xs
    .ok (first :: rest)

def jsonEntries : List (Value × Value) → Except Fault (List String)
  | [] => .ok []
  | (k, v) :: xs => do
    let key ← jsonKey k
    let value ← json v
    let rest ← jsonEntries xs
    .ok ((Json.text true key ++ ": " ++ value) :: rest)

end

def describe (v : Value) : Except Fault String :=
  match v.json with
  | .ok s => .ok s
  | .error _ => v.shown

end Value
end LineCommand
