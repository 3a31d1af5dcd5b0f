import LineCommand.Number.Double

/-!
The text of a number of double precision: the fewest decimal digits that read back as the number,
and of those the nearest. Between 10⁻⁴ and 10¹⁶ the digits are written in place, elsewhere with an
exponent.
-/
namespace LineCommand.Double

/-- Four times the bounds between which texts read back as the number of `units`, and whether the
bounds themselves do. -/
structure Reach where
  low : Nat
  high : Nat
  closed : Bool

/-- Halfway to the neighbours, each of which may be nearer on the side of a power of two. -/
def reach (units : Nat) : Reach :=
  let shift := units.log2 - 52
  let step := Nat.pow 2 shift
  let place := units / step
  let below := if place = Nat.pow 2 52 ∧ 0 < shift then step else 2 * step
  ⟨4 * units - below, 4 * units + 2 * step, place % 2 == 0⟩

/-- Whether `digits` times a power of ten reads back. -/
def Reach.holds (r : Reach) (digits : Nat) (exponent : Int) : Bool :=
  let value := digits * Nat.pow 10 exponent.toNat * 4 * unitsPerOne
  let low := r.low * Nat.pow 10 (-exponent).toNat
  let high := r.high * Nat.pow 10 (-exponent).toNat
  if r.closed then low ≤ value && value ≤ high else low < value && value < high

/-- The exponent of the first digit of `units`, which is not zero. -/
def leadingExponent (units : Nat) : Int :=
  if unitsPerOne ≤ units then ((Nat.toDigits 10 (units / unitsPerOne)).length : Int) - 1
  else
    let inverse := (unitsPerOne + units - 1) / units
    Int.negOfNat (Nat.toDigits 10 (inverse - 1)).length

/-- The multiple of a power of ten nearest to `units` that reads back, among the two that enclose
it. -/
def nearestHit? (units : Nat) (exponent : Int) : Option Nat :=
  let numerator := units * Nat.pow 10 (-exponent).toNat
  let denominator := unitsPerOne * Nat.pow 10 exponent.toNat
  let lower := numerator / denominator
  let r := reach units
  let twice := 2 * (numerator % denominator)
  let upperNearer := twice > denominator || (twice == denominator && lower % 2 == 1)
  let first := if upperNearer then lower + 1 else lower
  let second := if upperNearer then lower else lower + 1
  if r.holds first exponent then some first
  else if r.holds second exponent then some second
  else none

/-- Tries one digit more at a time, `left` times at most. -/
def shortestFrom (units : Nat) (exponent : Int) : (left : Nat) → Nat × Int
  | 0 => ((nearestHit? units exponent).getD 0, exponent)
  | left + 1 =>
    match nearestHit? units exponent with
    | some digits => (digits, exponent)
    | none => shortestFrom units (exponent - 1) left

/-- Digits without the zeros that end them, and the exponent that makes up for those. `left` bounds
the number of zeros. -/
def dropZeros (digits : Nat) (exponent : Int) : (left : Nat) → Nat × Int
  | 0 => (digits, exponent)
  | left + 1 =>
    if digits % 10 = 0 ∧ digits ≠ 0 then dropZeros (digits / 10) (exponent + 1) left
    else (digits, exponent)

/-- The shortest digits of `units`, and the exponent of the last of them. Seventeen digits always
read back. -/
def shortest (units : Nat) : Nat × Int :=
  let (digits, exponent) := shortestFrom units (leadingExponent units) 17
  dropZeros digits exponent 20

def layOut (digits : Nat) (exponent : Int) : String :=
  let ds := Nat.toDigits 10 digits
  let point := (ds.length : Int) + exponent
  if -4 < point ∧ point ≤ 16 then
    if point ≤ 0 then "0." ++ String.ofList (List.replicate (-point).toNat '0' ++ ds)
    else if exponent < 0 then
      String.ofList (ds.take point.toNat) ++ "." ++ String.ofList (ds.drop point.toNat)
    else String.ofList (ds ++ List.replicate exponent.toNat '0') ++ ".0"
  else
    let power := point - 1
    let fraction := if ds.length = 1 then [] else '.' :: ds.drop 1
    let powerDigits := Nat.toDigits 10 power.natAbs
    let powerText := if powerDigits.length < 2 then '0' :: powerDigits else powerDigits
    String.ofList (ds.take 1 ++ fraction ++ ['e', if power < 0 then '-' else '+'] ++ powerText)

def written : Double → String
  | .nan => "nan"
  | .infinite negative => if negative then "-inf" else "inf"
  | .finite negative units =>
    let text :=
      if units = 0 then "0.0" else let (digits, exponent) := shortest units; layOut digits exponent
    if negative then "-" ++ text else text

/-- The text of a number with two decimal places, the last one rounded to the nearest. -/
def twoPlaces : Double → String
  | .nan => "nan"
  | .infinite negative => if negative then "-inf" else "inf"
  | .finite negative units =>
    let hundredths := roundDiv (units * 100) unitsPerOne
    let tail := Nat.toDigits 10 (hundredths % 100)
    let places := if tail.length < 2 then '0' :: tail else tail
    let text := s!"{hundredths / 100}." ++ String.ofList places
    if negative then "-" ++ text else text

end LineCommand.Double
