import LineCommand.Conversion.Basic
import LineCommand.Number.Decimal
import LineCommand.Text.Case
import LineCommand.Text.Lines

/-! The converters that take single values: texts, numbers, truth values, members of a list, and
texts that list pieces between delimiters. -/
namespace LineCommand.Converter

def string : Converter where
  convert v := if v.text?.isSome then .ok (.ok v) else reject "Not a string: " v

/-- The number that a text denotes, an integer where it has neither fraction nor exponent. There is
none that is not finite. -/
def numberOf? (cs : List Char) : Except Fault (Option Value) :=
  let text := Text.trim cs
  match canonicalInt? text with
  | some n =>
    let count := (takeSign text).2.length
    if digitLimit < count then .error (.tooManyDigits count) else .ok (some (.int n))
  | none =>
    .ok (((DecimalParts.ofText? text).map DecimalParts.toDouble).filter Double.isFinite
      |>.map Value.float)

/-- Accepts numbers, and texts that denote one. Truth values are no numbers. -/
def number : Converter where
  convert v :=
    match v with
    | .int n => .ok (.ok (.int n))
    | .float x => .ok (.ok (.float x))
    | v => do
      match ← (v.text?.map fun s => numberOf? s.toList).getD (.ok none) with
      | some found => .ok (.ok found)
      | none => reject "Not a number: " v

/-- Accepts truth values, and the words for them in any letter case. -/
def boolean : Converter where
  convert v :=
    match v with
    | .bool b => .ok (.ok (.bool b))
    | v =>
      match v.text?.map Text.lowered with
      | some "true" => .ok (.ok (.bool true))
      | some "false" => .ok (.ok (.bool false))
      | _ => reject "Not a boolean: " v

/-- Accepts the members of a list. A member is of the same type as what it equals. -/
def enumerated (members : List Value) : Converter where
  convert v :=
    match members.find? fun m => m.same v && m.sameType v with
    | some m => .ok (.ok m)
    | none => reject "Invalid enumerated value " v

/-- Cuts a text at a delimiter. Blank pieces are dropped unless they are to be kept. -/
def delimited (delimiter : String) (keepEmpty : Bool := false) : Converter where
  convert v :=
    match v.text? with
    | none => reject "Not a string: " v
    | some text =>
      if delimiter.isEmpty then .error (.badValue "empty separator")
      else
        let pieces := Text.splitAt delimiter text
        let kept := if keepEmpty then pieces else pieces.filter fun p => !(Text.trimmed p).isEmpty
        .ok (.ok (.list (kept.map .text)))

end LineCommand.Converter
