import Mathlib
import LineCommand.Number.Double

/-! The order of numbers of double precision. Apart from the undefined one they are ordered as their
counts of units, with an infinite number at either end. -/
namespace LineCommand.Double

def signed (negative : Bool) (units : Nat) : Int := if negative then -units else units

/-- The place of a number among the others. The undefined one has no place of its own. -/
def place : Double → WithBot (WithTop Int)
  | .nan => ⊥
  | .infinite true => ⊥
  | .infinite false => ⊤
  | .finite negative units => ((signed negative units : WithTop Int) : WithBot (WithTop Int))

variable {x y : Double}

theorem below_iff (hx : x ≠ .nan) (hy : y ≠ .nan) : x.below y = true ↔ x.place < y.place := by
  cases x with
  | nan => exact absurd rfl hx
  | infinite n =>
    cases y with
    | nan => exact absurd rfl hy
    | infinite m => cases n <;> cases m <;> simp [below, place]
    | finite m v => cases n <;> simp [below, place]
  | finite n u =>
    cases y with
    | nan => exact absurd rfl hy
    | infinite m =>
      have bounded : ((signed n u : WithTop Int) : WithBot (WithTop Int)) < ⊤ :=
        WithBot.coe_lt_coe.mpr (WithTop.coe_lt_top _)
      cases m <;> simp [below, place, bounded]
    | finite m v => simp [below, place, signed]

theorem same_iff (hx : x ≠ .nan) (hy : y ≠ .nan) : x.same y = true ↔ x.place = y.place := by
  cases x with
  | nan => exact absurd rfl hx
  | infinite n =>
    cases y with
    | nan => exact absurd rfl hy
    | infinite m => cases n <;> cases m <;> simp [same, place]
    | finite m v => cases n <;> simp [same, place]
  | finite n u =>
    cases y with
    | nan => exact absurd rfl hy
    | infinite m => cases m <;> simp [same, place]
    | finite m v =>
      have counts : (u = v ∧ (n = m ∨ u = 0)) ↔ signed n u = signed m v := by
        unfold signed
        cases n <;> cases m <;> simp only [Bool.false_eq_true, if_true, if_false] <;> grind
      rw [place, place, WithBot.coe_inj, WithTop.coe_inj, ← counts]
      simp [same]

end LineCommand.Double
