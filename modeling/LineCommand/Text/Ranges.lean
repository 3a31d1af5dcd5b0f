/-! Sets of characters written as ranges of code points. -/
namespace LineCommand.Text

/-- Closed ranges of code points, each above the one before it. -/
abbrev Ranges := List (Nat × Nat)

/-- Membership stops at the first range that starts above the code point, so a small code point is
settled by the first few ranges. -/
def Ranges.holds : Ranges → Nat → Bool
  | [], _ => false
  | (low, high) :: rest, n => if n < low then false else n ≤ high || Ranges.holds rest n

end LineCommand.Text
