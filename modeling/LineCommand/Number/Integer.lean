import LineCommand.Text.Blank
import LineCommand.Text.Numeral

/-! Reading whole numbers: plain digits, and the freer form with a sign, blanks around it, digits of
any script and single low lines between digits. Numbers of too many digits are neither read nor
written. -/
namespace LineCommand

/-- The number that digits of a base denote, `none` where one of them is no digit. -/
def digitsIn? (base : Nat) (digit? : Char → Option Nat) (cs : List Char) : Option Nat :=
  cs.foldl (fun total c => total.bind fun n => (digit? c).bind fun d =>
    if d < base then some (base * n + d) else none) (some 0)

def baseDigit? (c : Char) : Option Nat :=
  if '0' ≤ c ∧ c ≤ '9' then some (c.toNat - 48)
  else if 'a' ≤ c ∧ c ≤ 'z' then some (c.toNat - 87)
  else if 'A' ≤ c ∧ c ≤ 'Z' then some (c.toNat - 55)
  else none

def natIn (base : Nat) (cs : List Char) : Nat := (digitsIn? base baseDigit? cs).getD 0

/-- How many decimal digits a text may have to be read as a number, and a number to be written. -/
def digitLimit : Nat := 4300

def withinDigitLimit (n : Int) : Bool := n.natAbs < Nat.pow 10 digitLimit

/-- Digits without the low lines that stand singly between two of them; `none` where one stands
elsewhere. -/
def withoutLowLines : List Char → Option (List Char)
  | [] => some []
  | ['_'] => none
  | '_' :: '_' :: _ => none
  | '_' :: c :: rest => (withoutLowLines rest).map (c :: ·)
  | c :: rest => (withoutLowLines rest).map (c :: ·)

def takeSign : List Char → Bool × List Char
  | '-' :: rest => (true, rest)
  | '+' :: rest => (false, rest)
  | cs => (false, cs)

/-- Digits with single low lines between them, without those. -/
def looseDigits? (cs : List Char) : Option (List Char) :=
  match cs with
  | [] => none
  | '_' :: _ => none
  | _ => withoutLowLines cs

/-- The digits of a number after the mark of its base, if it has that mark. -/
def afterBaseMark (base : Nat) (cs : List Char) : List Char :=
  match cs with
  | '0' :: mark :: rest =>
    let marks := if base = 2 then ['b', 'B'] else if base = 8 then ['o', 'O'] else
      if base = 16 then ['x', 'X'] else []
    if marks.contains mark then rest else cs
  | _ => cs

/-- The value of a digit of any base, in any script. -/
def looseDigit? (c : Char) : Option Nat := (Text.digitValue? c).or (baseDigit? c)

/-- A text in the free form: the sign, and the digits without low lines. -/
def looseParts? (base : Nat) (cs : List Char) : Option (Bool × List Char) :=
  let (negative, rest) := takeSign (Text.trim cs)
  (looseDigits? (afterBaseMark base rest)).map fun digits => (negative, digits)

/-- The integer that a text denotes in the free form, whatever the number of its digits. -/
def integerIn? (base : Nat) (cs : List Char) : Option Int :=
  (looseParts? base cs).bind fun (negative, digits) =>
    (digitsIn? base looseDigit? digits).map fun n => if negative then -(n : Int) else n

/-- The integer that a text denotes in the free form in base ten, if it is not too long. -/
def integer? (cs : List Char) : Option Int :=
  if (looseParts? 10 cs).any fun (_, digits) => digitLimit < digits.length then none
  else integerIn? 10 cs

end LineCommand
