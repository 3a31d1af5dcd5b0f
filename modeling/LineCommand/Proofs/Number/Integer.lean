import LineCommand.Number.Decimal

/-! How large the integers are that are read of digits: what has few enough digits to be read has few
enough to be written. -/
namespace LineCommand

variable {base : Nat} {digit? : Char → Option Nat} {cs : List Char}

/-- Digits behind a number that is read already make less of it than the next number would begin with. -/
theorem foldl_digits_lt {before : Option Nat} {n : Nat}
    (read : cs.foldl (fun total c => total.bind fun n => (digit? c).bind fun d =>
      if d < base then some (base * n + d) else none) before = some n) :
    ∃ m, before = some m ∧ n < (m + 1) * Nat.pow base cs.length := by
  induction cs generalizing before with
  | nil => exact ⟨n, read, by simp⟩
  | cons c cs ih =>
    obtain ⟨m, next, below⟩ := ih read
    simp only [Option.bind_eq_some_iff] at next
    obtain ⟨k, rfl, d, _, next⟩ := next
    split at next
    case isFalse => cases next
    case isTrue small =>
      cases next
      refine ⟨k, rfl, Nat.lt_of_lt_of_le below ?_⟩
      calc (base * k + d + 1) * Nat.pow base cs.length
          ≤ (k + 1) * base * Nat.pow base cs.length := by
            apply Nat.mul_le_mul_right
            rw [Nat.add_one_mul, Nat.mul_comm]
            omega
        _ = (k + 1) * Nat.pow base (c :: cs).length := by
            rw [Nat.mul_assoc, Nat.mul_comm base]
            rfl

theorem natIn_lt (positive : 0 < base) (cs : List Char) : natIn base cs < Nat.pow base cs.length := by
  unfold natIn
  cases read : digitsIn? base baseDigit? cs with
  | none => exact Nat.pow_pos positive
  | some n =>
    obtain ⟨m, ⟨⟩, below⟩ := foldl_digits_lt read
    simpa using below

/-- A text in canonical form is an integer just if digits and nothing else follow its sign. -/
theorem canonicalInt?_eq_none_iff : canonicalInt? cs = none ↔
    (takeSign cs).2 = [] ∨ ∃ c ∈ (takeSign cs).2, isAsciiDigit c = false := by
  simp [canonicalInt?, Decidable.or_iff_not_imp_left]

theorem natAbs_canonicalInt?_lt {n : Int} (read : canonicalInt? cs = some n) :
    n.natAbs < Nat.pow 10 (takeSign cs).2.length := by
  unfold canonicalInt? at read
  simp only at read
  split at read
  case isTrue => cases read
  case isFalse =>
    have below := natIn_lt (by decide : 0 < 10) (takeSign cs).2
    obtain rfl := Option.some.inj read
    split <;> simpa using below

/-- What has few enough digits can be written. -/
theorem withinDigitLimit_of_lt {n : Int} {count : Nat} (few : count ≤ digitLimit)
    (below : n.natAbs < Nat.pow 10 count) : withinDigitLimit n = true := by
  rw [withinDigitLimit, decide_eq_true_iff]
  -- The bound is a power that must not be computed.
  generalize digitLimit = limit at few ⊢
  exact Nat.lt_of_lt_of_le below (Nat.pow_le_pow_right (by decide) few)

theorem withinDigitLimit_of_canonicalInt? {n : Int} (read : canonicalInt? cs = some n)
    (short : (takeSign cs).2.length ≤ digitLimit) : withinDigitLimit n = true :=
  withinDigitLimit_of_lt short (natAbs_canonicalInt?_lt read)

@[irreducible]
def overlong : Int := (Nat.pow 10 digitLimit : Nat)

theorem withinDigitLimit_overlong : withinDigitLimit overlong = false := by
  unfold overlong withinDigitLimit
  simp only [Int.natAbs_natCast, Nat.lt_irrefl, decide_false]

end LineCommand
