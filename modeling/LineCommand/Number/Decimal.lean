import LineCommand.Number.Double
import LineCommand.Number.Integer

/-!
Reading decimal numbers. The canonical form has digits of ASCII only, an optional sign, an optional
fraction and an optional exponent. The free form also has digits of any script, low lines between
digits, blanks around, and names for what is not finite.
-/
namespace LineCommand

def isAsciiDigit (c : Char) : Bool := '0' ≤ c && c ≤ '9'

/-- The parts of a number in canonical form: the sign, all digits in a row, and the exponent of the
last one. -/
structure DecimalParts where
  negative : Bool
  digits : List Char
  exponent : Int
  deriving DecidableEq, Repr

namespace DecimalParts

/-- The exponent that a text gives after its digits; there is none at the end of a text. -/
def exponent? (cs : List Char) : Option Int :=
  match cs with
  | [] => some 0
  | mark :: rest =>
    if mark = 'e' ∨ mark = 'E' then
      let (negative, digits) := takeSign rest
      if digits.isEmpty || !digits.all isAsciiDigit then none
      else
        let size := natIn 10 digits
        some (if negative then -(size : Int) else size)
    else none

/-- The parts of a text in canonical form. The fraction may be empty after a point, but there is at
least one digit. -/
def ofText? (cs : List Char) : Option DecimalParts :=
  let (negative, unsigned) := takeSign cs
  let whole := unsigned.takeWhile isAsciiDigit
  let afterWhole := unsigned.dropWhile isAsciiDigit
  let (fraction, rest) :=
    match afterWhole with
    | '.' :: more => (more.takeWhile isAsciiDigit, more.dropWhile isAsciiDigit)
    | _ => ([], afterWhole)
  if whole.isEmpty && fraction.isEmpty then none
  else (exponent? rest).map fun e => ⟨negative, whole ++ fraction, e - fraction.length⟩

/-- The number of double precision nearest to the one that the parts denote. -/
def toDouble (p : DecimalParts) : Double := .ofDecimal p.negative (natIn 10 p.digits) p.exponent

end DecimalParts

/-- The integer that a text in canonical form denotes: an optional sign and digits of ASCII. -/
def canonicalInt? (cs : List Char) : Option Int :=
  let (negative, digits) := takeSign cs
  if digits.isEmpty || !digits.all isAsciiDigit then none
  else some (if negative then -(natIn 10 digits : Int) else natIn 10 digits)

/-- The character that a number in free form has in canonical form. -/
def plainDigit (c : Char) : Char :=
  match Text.digitValue? c with
  | some d => Char.ofNat (48 + d)
  | none => c

/-- A text without its low lines, each of which stands between two digits; `none` where one does
not. `afterDigit` says what the character before was. -/
def dropLowLines (afterDigit : Bool) : List Char → Option (List Char)
  | [] => some []
  | ['_'] => none
  | '_' :: c :: rest =>
    if afterDigit && isAsciiDigit c then (dropLowLines true rest).map (c :: ·) else none
  | c :: rest => (dropLowLines (isAsciiDigit c) rest).map (c :: ·)

def Double.named? (negative : Bool) (name : String) : Option Double :=
  if name = "inf" ∨ name = "infinity" then some (.infinite negative)
  else if name = "nan" then some .nan
  else none

def Double.ofText? (cs : List Char) : Option Double :=
  (dropLowLines false ((Text.trim cs).map plainDigit)).bind fun plain =>
    match DecimalParts.ofText? plain with
    | some parts => some parts.toDouble
    | none =>
      let (negative, name) := takeSign plain
      named? negative (String.ofList (name.map Char.toLower))

end LineCommand
