/-!
Numbers of double precision. A finite number counts units of the smallest positive one, so that
order and equality are those of the integers; `ofRatio` rounds any fraction to the nearest number.
-/
namespace LineCommand

/-- A number of double precision. A finite one is `units` times 2 to the power −1074, with the sign
apart so that there are two zeros. -/
inductive Double
  | nan
  | infinite (negative : Bool)
  | finite (negative : Bool) (units : Nat)
  deriving DecidableEq, Repr, Inhabited

namespace Double

/-- How many units make one. -/
def unitsPerOne : Nat := Nat.pow 2 1074

/-- The count of units at which numbers are too large to be finite. -/
def limit : Nat := Nat.pow 2 2098

/-- The nearest whole number to a fraction; of two equally near ones the even one. -/
def roundDiv (numerator denominator : Nat) : Nat :=
  let quotient := numerator / denominator
  let twice := 2 * (numerator % denominator)
  if twice < denominator then quotient
  else if twice > denominator then quotient + 1
  else quotient + quotient % 2

/-- The number nearest to a fraction. Fifty-three binary places are kept, fewer among the smallest
numbers; a tie goes to the number whose last place is even. -/
def ofRatio (negative : Bool) (numerator denominator : Nat) : Double :=
  let scaled := numerator * unitsPerOne
  let step := Nat.pow 2 ((scaled / denominator).log2 + 1 - 53)
  let units := roundDiv scaled (denominator * step) * step
  if limit ≤ units then .infinite negative else .finite negative units

def ofInt (n : Int) : Double := ofRatio (n < 0) n.natAbs 1

/-- The number nearest to `digits` times a power of ten. Exponents far outside the range are settled
by the number of digits alone. -/
def ofDecimal (negative : Bool) (digits : Nat) (exponent : Int) : Double :=
  let size := ((Nat.toDigits 10 digits).length : Int) + exponent
  if digits = 0 then .finite negative 0
  else if size > 400 then .infinite negative
  else if size < -400 then .finite negative 0
  else if 0 ≤ exponent then ofRatio negative (digits * Nat.pow 10 exponent.toNat) 1
  else ofRatio negative digits (Nat.pow 10 (-exponent).toNat)

def units? : Double → Option Int
  | .finite negative units => some (if negative then -units else units)
  | _ => none

def isFinite : Double → Bool
  | .finite .. => true
  | _ => false

/-- Equal as numbers: the two zeros are equal, and nothing equals what is undefined. -/
def same : Double → Double → Bool
  | .finite n u, .finite m v => u == v && (n == m || u == 0)
  | .infinite n, .infinite m => n == m
  | _, _ => false

/-- Below as numbers; nothing is below what is undefined, or above it. -/
def below : Double → Double → Bool
  | .nan, _ => false
  | _, .nan => false
  | .infinite n, .infinite m => n && !m
  | .infinite n, .finite .. => n
  | .finite .., .infinite m => !m
  | .finite n u, .finite m v =>
    decide ((if n then -(u : Int) else u) < (if m then -(v : Int) else v))

def sameInt (x : Double) (n : Int) : Bool := x.units? == some (n * unitsPerOne)

def belowInt : Double → Int → Bool
  | .nan, _ => false
  | .infinite negative, _ => negative
  | .finite negative units, n =>
    decide ((if negative then -(units : Int) else units) < n * unitsPerOne)

def aboveInt : Double → Int → Bool
  | .nan, _ => false
  | .infinite negative, _ => !negative
  | .finite negative units, n =>
    decide (n * unitsPerOne < (if negative then -(units : Int) else units))

def isZero : Double → Bool
  | .finite _ units => units == 0
  | _ => false

def negate : Double → Double
  | .nan => .nan
  | .infinite negative => .infinite !negative
  | .finite negative units => .finite (!negative) units

def add : Double → Double → Double
  | .nan, _ => .nan
  | _, .nan => .nan
  | .infinite n, .infinite m => if n = m then .infinite n else .nan
  | .infinite n, .finite .. => .infinite n
  | .finite .., .infinite m => .infinite m
  | .finite n u, .finite m v =>
    let total := (if n then -(u : Int) else u) + (if m then -(v : Int) else v)
    if total = 0 then .finite (n && m) 0 else ofRatio (total < 0) total.natAbs unitsPerOne

/-- The product with an integer that is not zero, rounded to the nearest number. -/
def scale : Double → Nat → Double
  | .nan, _ => .nan
  | .infinite n, _ => .infinite n
  | .finite n u, k => ofRatio n (u * k) unitsPerOne

end Double
end LineCommand
