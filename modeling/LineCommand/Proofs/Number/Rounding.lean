import Mathlib
import LineCommand.Number.Double

/-! Rounding to double precision. Exact numbers are counted in units of the smallest positive one, as
fractions. The count nearest to such a one is told from all others by its distance, and by its last place
where two of them are equally near; the arithmetic finds that count. -/
namespace LineCommand.Double

/-- A count of units that has fifty-three binary places at most, zeros at its end apart. -/
def Fits (units : Nat) : Prop := ∃ m k, m < 2 ^ 53 ∧ units = m * 2 ^ k

/-- The count nearest to an exact one. Of two that are equally near it is the one whose last place is
even, which more twos divide. -/
structure Nearest (exact : ℚ) (units : Nat) : Prop where
  fits : Fits units
  near : ∀ other, Fits other → |(units : ℚ) - exact| ≤ |(other : ℚ) - exact|
  even : ∀ other, Fits other → other ≠ units →
    |(other : ℚ) - exact| = |(units : ℚ) - exact| → ∃ k, 2 ^ k ∣ units ∧ ¬ 2 ^ k ∣ other

variable {exact : ℚ} {units other : Nat}

theorem Nearest.eq (nearest : Nearest exact units) (nearest' : Nearest exact other) :
    units = other := by
  by_contra apart
  have same : |(units : ℚ) - exact| = |(other : ℚ) - exact| :=
    le_antisymm (nearest.near other nearest'.fits) (nearest'.near units nearest.fits)
  obtain ⟨k, divides, fails⟩ := nearest.even other nearest'.fits (Ne.symm apart) same.symm
  obtain ⟨l, divides', fails'⟩ := nearest'.even units nearest.fits apart same
  obtain least | least := le_total k l
  · exact fails ((pow_dvd_pow 2 least).trans divides')
  · exact fails' ((pow_dvd_pow 2 least).trans divides)

/-! ### Quotients -/

section Quotient

variable {a b : Nat}

/-- A quotient is rounded by a half at most, and to an even number where it is a half. -/
theorem roundDiv_cases (positive : 0 < b) :
    2 * (roundDiv a b * b) ≤ 2 * a + b ∧ 2 * a ≤ 2 * (roundDiv a b * b) + b ∧
      (2 * (roundDiv a b * b) = 2 * a + b ∨ 2 * a = 2 * (roundDiv a b * b) + b →
        roundDiv a b % 2 = 0) := by
  have whole : b * (a / b) + a % b = a := Nat.div_add_mod a b
  have below : a % b < b := Nat.mod_lt a positive
  have parity : a / b % 2 = 0 ∨ a / b % 2 = 1 := Nat.mod_two_eq_zero_or_one _
  have up : (a / b + 1) * b = b * (a / b) + b := by ring
  have level : a / b * b = b * (a / b) := Nat.mul_comm _ _
  unfold roundDiv
  dsimp only
  split
  case isTrue => rw [level]; omega
  case isFalse =>
    split
    case isTrue => rw [up]; omega
    case isFalse =>
      obtain even | odd := parity
      · rw [even, Nat.add_zero, level]; omega
      · rw [odd, up]; omega

theorem roundDiv_error (positive : 0 < b) : |(roundDiv a b : ℚ) - a / b| ≤ 1 / 2 := by
  obtain ⟨upper, lower, _⟩ := @roundDiv_cases a b positive
  have some : (0 : ℚ) < b := by exact_mod_cast positive
  have upper' : 2 * ((roundDiv a b : ℚ) * b) ≤ 2 * a + b := by exact_mod_cast upper
  have lower' : 2 * (a : ℚ) ≤ 2 * (roundDiv a b * b) + b := by exact_mod_cast lower
  have scaled : (a : ℚ) / b * b = a := div_mul_cancel₀ _ some.ne'
  rw [abs_le]
  constructor <;> nlinarith

theorem roundDiv_even (positive : 0 < b) (half : |(roundDiv a b : ℚ) - a / b| = 1 / 2) :
    roundDiv a b % 2 = 0 := by
  obtain ⟨_, _, even⟩ := @roundDiv_cases a b positive
  have some : (b : ℚ) ≠ 0 := by exact_mod_cast positive.ne'
  have scaled : (a : ℚ) / b * b = a := div_mul_cancel₀ _ some
  apply even
  obtain up | down := (abs_eq (by norm_num)).mp half
  · left
    have same : 2 * ((roundDiv a b : ℚ) * b) = 2 * a + b := by
      rw [← scaled]
      linear_combination 2 * b * up
    exact_mod_cast same
  · right
    have same : 2 * (a : ℚ) = 2 * (roundDiv a b * b) + b := by
      rw [← scaled]
      linear_combination -2 * b * down
    exact_mod_cast same

/-- No whole number is nearer to a quotient, and one that is as near is odd. -/
theorem roundDiv_nearest (positive : 0 < b) {c : Nat} (apart : c ≠ roundDiv a b) :
    |(roundDiv a b : ℚ) - a / b| ≤ |(c : ℚ) - a / b| ∧
      (|(c : ℚ) - a / b| = |(roundDiv a b : ℚ) - a / b| → roundDiv a b % 2 = 0 ∧ c % 2 = 1) := by
  have error := @roundDiv_error a b positive
  have gap : (1 : ℚ) ≤ |(c : ℚ) - roundDiv a b| := by
    have whole : (1 : ℤ) ≤ |(c : ℤ) - roundDiv a b| := Int.one_le_abs (by omega)
    exact_mod_cast whole
  have triangle : |(c : ℚ) - roundDiv a b| ≤ |(c : ℚ) - a / b| + |(roundDiv a b : ℚ) - a / b| := by
    have split := abs_sub (c - a / b : ℚ) (roundDiv a b - a / b)
    rwa [sub_sub_sub_cancel_right] at split
  refine ⟨by linarith, fun tie => ?_⟩
  rw [tie] at triangle
  have half : |(roundDiv a b : ℚ) - a / b| = 1 / 2 := by linarith
  have even := roundDiv_even positive half
  -- A tie leaves no room between the two numbers.
  have next : |(c : ℤ) - roundDiv a b| = 1 := by
    have near : |(c : ℚ) - roundDiv a b| = 1 := by linarith
    exact_mod_cast near
  refine ⟨even, ?_⟩
  obtain up | down := (abs_eq (by norm_num)).mp next <;> omega

/-- The last of the fifty-three places of a quotient. Where there are places below it, the quotient has a
digit in the first one. -/
structure LastPlace (a b place : Nat) : Prop where
  positive : 0 < b
  high : (a : ℚ) / b < 2 ^ (53 + place)
  low : 0 < place → (2 : ℚ) ^ (52 + place) ≤ a / b

def rounded (a b place : Nat) : Nat := roundDiv a (b * 2 ^ place) * 2 ^ place

theorem cast_pow (base k : Nat) : ((Nat.pow base k : ℕ) : ℚ) = base ^ k := by
  rw [Nat.pow_eq, Nat.cast_pow]

theorem cast_mul_two_pow (m k : Nat) : ((m * 2 ^ k : ℕ) : ℚ) = m * 2 ^ k := by
  push_cast
  rfl

namespace LastPlace

variable {place : Nat} (last : LastPlace a b place)
include last

theorem positive_scaled : 0 < b * 2 ^ place := Nat.mul_pos last.positive (by positivity)

/-- Distances are those between whole numbers of the last place. -/
theorem distance_eq (c : Nat) : |((c * 2 ^ place : ℕ) : ℚ) - a / b| =
    |(c : ℚ) - a / (b * 2 ^ place : ℕ)| * 2 ^ place := by
  have power : (0 : ℚ) < 2 ^ place := by positivity
  have scaled : (a : ℚ) / (b * 2 ^ place : ℕ) * 2 ^ place = a / b := by
    have some : (b : ℚ) ≠ 0 := by exact_mod_cast last.positive.ne'
    rw [cast_mul_two_pow]
    field_simp
  rw [cast_mul_two_pow, ← scaled, ← sub_mul, abs_mul, abs_of_pos power]

theorem rounded_le (c : Nat) :
    |(rounded a b place : ℚ) - a / b| ≤ |((c * 2 ^ place : ℕ) : ℚ) - a / b| := by
  unfold rounded
  by_cases same : c = roundDiv a (b * 2 ^ place)
  · rw [same]
  · rw [last.distance_eq, last.distance_eq]
    exact mul_le_mul_of_nonneg_right (roundDiv_nearest last.positive_scaled same).1 (by positivity)

theorem even_of_tie {c : Nat} (apart : c * 2 ^ place ≠ rounded a b place)
    (tie : |((c * 2 ^ place : ℕ) : ℚ) - a / b| = |(rounded a b place : ℚ) - a / b|) :
    2 ^ (place + 1) ∣ rounded a b place ∧ ¬ 2 ^ (place + 1) ∣ c * 2 ^ place := by
  unfold rounded at *
  have other : c ≠ roundDiv a (b * 2 ^ place) := fun same => apart (by rw [same])
  rw [last.distance_eq, last.distance_eq] at tie
  obtain ⟨even, odd⟩ := (roundDiv_nearest last.positive_scaled other).2
    (mul_right_cancel₀ (by positivity) tie)
  rw [pow_succ', Nat.mul_dvd_mul_iff_right (by positivity), Nat.mul_dvd_mul_iff_right (by positivity)]
  exact ⟨Nat.dvd_of_mod_eq_zero even, by omega⟩

/-- A count that has places below the last one lies below the first place of the quotient, and so farther
away than this. -/
theorem rounded_lt {m k : Nat} (small : m < 2 ^ 53) (before : k < place) :
    |(rounded a b place : ℚ) - a / b| < |((m * 2 ^ k : ℕ) : ℚ) - a / b| := by
  have first := last.low (Nat.zero_lt_of_lt before)
  have less : ((m * 2 ^ k : ℕ) : ℚ) < 2 ^ (52 + place) := by
    have below : m * 2 ^ k < 2 ^ (52 + place) :=
      calc m * 2 ^ k < 2 ^ 53 * 2 ^ k := Nat.mul_lt_mul_of_pos_right small (by positivity)
        _ = 2 ^ (53 + k) := (Nat.pow_add ..).symm
        _ ≤ 2 ^ (52 + place) := Nat.pow_le_pow_right (by decide) (by omega)
    exact_mod_cast below
  have nearer := last.rounded_le (2 ^ 52)
  rw [← Nat.pow_add, Nat.cast_pow, Nat.cast_two, abs_of_nonpos (sub_nonpos.mpr first)] at nearer
  rw [abs_of_nonpos (sub_nonpos.mpr (less.le.trans first))]
  linarith

theorem fits : Fits (rounded a b place) := by
  have nearer := last.rounded_le (2 ^ 53)
  have most : rounded a b place ≤ 2 ^ 53 * 2 ^ place := by
    have room : (0 : ℚ) < ((2 ^ 53 * 2 ^ place : ℕ) : ℚ) - a / b := by
      rw [← Nat.pow_add, Nat.cast_pow, Nat.cast_two, sub_pos]
      exact last.high
    rw [abs_of_pos room] at nearer
    exact_mod_cast (sub_le_sub_iff_right _).mp ((le_abs_self _).trans nearer)
  unfold rounded at *
  obtain less | full := (Nat.le_of_mul_le_mul_right most (by positivity)).lt_or_eq
  · exact ⟨_, place, less, rfl⟩
  · exact ⟨1, 53 + place, by norm_num, by rw [full, ← Nat.pow_add, Nat.one_mul]⟩

theorem nearest : Nearest (a / b) (rounded a b place) := by
  have split {m k : Nat} (behind : place ≤ k) : m * 2 ^ k = m * 2 ^ (k - place) * 2 ^ place := by
    rw [Nat.mul_assoc, ← Nat.pow_add, Nat.sub_add_cancel behind]
  constructor
  case fits => exact last.fits
  case near =>
    rintro _ ⟨m, k, small, rfl⟩
    obtain before | behind := Nat.lt_or_ge k place
    · exact (last.rounded_lt small before).le
    · rw [split behind]
      exact last.rounded_le _
  case even =>
    rintro _ ⟨m, k, small, rfl⟩ apart tie
    obtain before | behind := Nat.lt_or_ge k place
    · exact absurd tie (last.rounded_lt small before).ne'
    · rw [split behind] at apart tie ⊢
      exact ⟨place + 1, last.even_of_tie apart tie⟩

end LastPlace

theorem lastPlace_log2 (positive : 0 < b) : LastPlace a b ((a / b).log2 + 1 - 53) := by
  have some : (0 : ℚ) < b := by exact_mod_cast positive
  constructor
  case positive => exact positive
  case high =>
    have below : a / b < 2 ^ (53 + ((a / b).log2 + 1 - 53)) :=
      Nat.lt_log2_self.trans_le (Nat.pow_le_pow_right (by decide) (by omega))
    rw [Nat.div_lt_iff_lt_mul positive] at below
    rw [div_lt_iff₀ some]
    exact_mod_cast below
  case low =>
    intro further
    have log : 52 + ((a / b).log2 + 1 - 53) = (a / b).log2 := by omega
    have filled : a / b ≠ 0 := by
      intro none
      rw [none] at further
      exact absurd further (by decide)
    have first := Nat.log2_self_le filled
    rw [Nat.le_div_iff_mul_le positive] at first
    rw [log, le_div_iff₀ some]
    exact_mod_cast first

end Quotient

/-! ### The range -/

theorem Fits.le_of_lt {last : Nat} (fits : Fits units) (below : units < 2 ^ (53 + last)) :
    units ≤ (2 ^ 53 - 1) * 2 ^ last := by
  obtain ⟨m, k, small, rfl⟩ := fits
  obtain before | behind := Nat.lt_or_ge k last
  · exact Nat.mul_le_mul (by omega) (Nat.pow_le_pow_right (by decide) before.le)
  · have split : m * 2 ^ k = m * 2 ^ (k - last) * 2 ^ last := by
      rw [Nat.mul_assoc, ← Nat.pow_add, Nat.sub_add_cancel behind]
    rw [split, Nat.pow_add] at below
    rw [split]
    exact Nat.mul_le_mul_right _ (Nat.le_sub_one_of_lt (Nat.lt_of_mul_lt_mul_right below))

theorem fits_two_pow (k : Nat) : Fits (2 ^ k) := ⟨1, k, by norm_num, by rw [Nat.one_mul]⟩

theorem fits_greatest (k : Nat) : Fits ((2 ^ 53 - 1) * 2 ^ k) := ⟨2 ^ 53 - 1, k, by norm_num, rfl⟩

/-- The last place of the greatest count below a power of two is odd, that of the power is not. -/
theorem two_pow_dvd_of_dvd_greatest {last k : Nat} (divides : 2 ^ k ∣ (2 ^ 53 - 1) * 2 ^ last) :
    2 ^ k ∣ 2 ^ (53 + last) := by
  obtain further | short := Nat.lt_or_ge last k
  · have twice := (pow_dvd_pow 2 further).trans divides
    rw [pow_succ', Nat.mul_dvd_mul_iff_right (by positivity)] at twice
    exact absurd twice (by norm_num)
  · exact pow_dvd_pow 2 (by omega)

section Range

variable {last : Nat}

theorem cast_two_pow_last : ((2 ^ (53 + (last + 1)) : ℕ) : ℚ) = 2 ^ 54 * 2 ^ last := by
  push_cast
  ring

theorem cast_greatest : (((2 ^ 53 - 1) * 2 ^ (last + 1) : ℕ) : ℚ) = (2 ^ 54 - 2) * 2 ^ last := by
  rw [cast_mul_two_pow, pow_succ]
  norm_num
  ring

/-- What is not nearer to the power than to the greatest count below it is halfway at most, and there the
power has the more even last place. -/
theorem Nearest.lt_of_lt (nearest : Nearest exact units) (below : units < 2 ^ (53 + (last + 1))) :
    exact < (2 ^ 54 - 1) * 2 ^ last := by
  have power : (0 : ℚ) < 2 ^ last := by positivity
  by_contra above
  have most : (units : ℚ) ≤ (2 ^ 54 - 2) * 2 ^ last := by
    rw [← cast_greatest]
    exact_mod_cast nearest.fits.le_of_lt below
  have nearer := nearest.near _ (fits_two_pow (53 + (last + 1)))
  rw [cast_two_pow_last, abs_of_neg (by linarith : (units : ℚ) - exact < 0)] at nearer
  have level : exact ≤ 2 ^ 54 * 2 ^ last := by
    by_contra beyond
    rw [abs_of_neg (by linarith : 2 ^ 54 * 2 ^ last - exact < 0)] at nearer
    linarith
  rw [abs_of_nonneg (by linarith : 0 ≤ 2 ^ 54 * 2 ^ last - exact)] at nearer
  have tie : |((2 ^ (53 + (last + 1)) : ℕ) : ℚ) - exact| = |(units : ℚ) - exact| := by
    rw [cast_two_pow_last, abs_of_nonneg (by linarith : 0 ≤ 2 ^ 54 * 2 ^ last - exact),
      abs_of_neg (by linarith : (units : ℚ) - exact < 0)]
    linarith
  have same : units = (2 ^ 53 - 1) * 2 ^ (last + 1) := by
    have equal : (units : ℚ) = ((2 ^ 53 - 1) * 2 ^ (last + 1) : ℕ) := by
      rw [cast_greatest]
      linarith
    exact_mod_cast equal
  obtain ⟨k, divides, fails⟩ := nearest.even _ (fits_two_pow _) below.ne' tie
  rw [same] at divides
  exact fails (two_pow_dvd_of_dvd_greatest divides)

theorem Nearest.lt_of_exact_lt (nearest : Nearest exact units)
    (below : exact < (2 ^ 54 - 1) * 2 ^ last) : units < 2 ^ (53 + (last + 1)) := by
  have power : (0 : ℚ) < 2 ^ last := by positivity
  by_contra above
  have least : (2 : ℚ) ^ 54 * 2 ^ last ≤ units := by
    rw [← cast_two_pow_last]
    exact_mod_cast Nat.not_lt.mp above
  have nearer := nearest.near _ (fits_greatest (last + 1))
  rw [cast_greatest, abs_of_pos (by linarith : 0 < (units : ℚ) - exact)] at nearer
  obtain ⟨size, _⟩ | ⟨size, _⟩ := abs_cases ((2 ^ 54 - 2) * 2 ^ last - exact) <;>
    · rw [size] at nearer
      linarith

/-- Rounding stays below a power of two just if what is rounded is nearer to what fits below it. -/
theorem Nearest.lt_iff (nearest : Nearest exact units) :
    units < 2 ^ (53 + (last + 1)) ↔ exact < (2 ^ 54 - 1) * 2 ^ last :=
  ⟨nearest.lt_of_lt, nearest.lt_of_exact_lt⟩

end Range

/-- What an exact magnitude comes to in double precision: the nearest number, or an infinite one where
that has more places in front than there are. -/
inductive Rounds (negative : Bool) (magnitude : ℚ) : Double → Prop
  | finite {units : Nat} (nearest : Nearest (magnitude * 2 ^ 1074) units) (below : units < 2 ^ 2098) :
    Rounds negative magnitude (.finite negative units)
  | infinite {units : Nat} (nearest : Nearest (magnitude * 2 ^ 1074) units)
    (beyond : 2 ^ 2098 ≤ units) : Rounds negative magnitude (.infinite negative)

variable {negative : Bool} {magnitude : ℚ} {x y : Double}

theorem Rounds.eq (rounds : Rounds negative magnitude x) (rounds' : Rounds negative magnitude y) :
    x = y := by
  cases rounds with
  | finite nearest below =>
    cases rounds' with
    | finite nearest' _ => rw [nearest.eq nearest']
    | infinite nearest' beyond => exact absurd below (nearest.eq nearest' ▸ Nat.not_lt.mpr beyond)
  | infinite nearest beyond =>
    cases rounds' with
    | finite nearest' below => exact absurd below (nearest.eq nearest' ▸ Nat.not_lt.mpr beyond)
    | infinite => rfl

/-- A magnitude is out of range from halfway between the greatest finite number and the power of two
behind it. -/
theorem Rounds.isFinite_iff (rounds : Rounds negative magnitude x) :
    x.isFinite = true ↔ magnitude < 2 ^ 1024 - 2 ^ 970 := by
  have range {units : Nat} (nearest : Nearest (magnitude * 2 ^ 1074) units) :
      units < 2 ^ 2098 ↔ magnitude < 2 ^ 1024 - 2 ^ 970 := by
    have scale : ((2 : ℚ) ^ 54 - 1) * 2 ^ 2044 = (2 ^ 1024 - 2 ^ 970) * 2 ^ 1074 := by
      rw [sub_mul, sub_mul, ← pow_add, ← pow_add, ← pow_add, one_mul]
    have places : 2098 = 53 + (2044 + 1) := rfl
    rw [← mul_lt_mul_iff_of_pos_right (by positivity : (0 : ℚ) < 2 ^ 1074), ← scale, places]
    exact nearest.lt_iff
  cases rounds with
  | finite nearest below => exact iff_of_true rfl ((range nearest).mp below)
  | infinite nearest beyond =>
    exact iff_of_false nofun fun less => Nat.not_lt.mpr beyond ((range nearest).mpr less)

-- These powers must not be computed.
theorem cast_unitsPerOne : ((unitsPerOne : ℕ) : ℚ) = 2 ^ 1074 := by
  unfold unitsPerOne
  generalize 1074 = places
  rw [cast_pow, Nat.cast_two]

theorem limit_eq : limit = 2 ^ 2098 := by
  unfold limit
  generalize 2098 = places
  exact Nat.pow_eq

theorem rounds_ofRatio {numerator denominator : Nat} (positive : 0 < denominator) :
    Rounds negative (numerator / denominator) (ofRatio negative numerator denominator) := by
  have nearest := (@lastPlace_log2 (numerator * unitsPerOne) denominator positive).nearest
  have scale : ((numerator * unitsPerOne : ℕ) : ℚ) / denominator =
      numerator / denominator * 2 ^ 1074 := by
    rw [Nat.cast_mul, cast_unitsPerOne, mul_div_right_comm]
  rw [scale] at nearest
  unfold ofRatio
  dsimp only
  rw [limit_eq]
  split
  case isTrue beyond => exact .infinite nearest beyond
  case isFalse below => exact .finite nearest (Nat.not_le.mp below)

theorem exists_rounds (negative : Bool) (positive : 0 ≤ magnitude) :
    ∃ x, Rounds negative magnitude x := by
  have fraction : ((magnitude.num.natAbs : ℕ) : ℚ) / magnitude.den = magnitude := by
    conv_rhs => rw [← Rat.num_div_den magnitude]
    have whole : ((magnitude.num.natAbs : ℕ) : ℤ) = magnitude.num :=
      Int.natAbs_of_nonneg (Rat.num_nonneg.mpr positive)
    rw [← whole]
    rfl
  have rounds := @rounds_ofRatio negative magnitude.num.natAbs magnitude.den magnitude.den_pos
  rw [fraction] at rounds
  exact ⟨_, rounds⟩

theorem nearest_zero (positive : 0 ≤ exact) (small : exact < 1 / 2) : Nearest exact 0 := by
  have far {other : Nat} (apart : other ≠ 0) : |((0 : ℕ) : ℚ) - exact| < |(other : ℚ) - exact| := by
    have least : (1 : ℚ) ≤ other := by exact_mod_cast Nat.one_le_iff_ne_zero.mpr apart
    rw [Nat.cast_zero, zero_sub, abs_neg, abs_of_nonneg positive,
      abs_of_pos (by linarith : (0 : ℚ) < other - exact)]
    linarith
  constructor
  case fits => exact ⟨0, 0, by norm_num, rfl⟩
  case near =>
    intro other _
    obtain rfl | apart := eq_or_ne other 0
    · exact le_rfl
    · exact (far apart).le
  case even => exact fun other _ apart tie => absurd tie (far apart).ne'

/-- A number with so many digits before its point is out of range. -/
theorem rounds_infinite (large : 10 ^ 400 ≤ magnitude) :
    Rounds negative magnitude (.infinite negative) := by
  have beyond : (2 : ℚ) ^ 1024 ≤ 10 ^ 400 := by
    calc (2 : ℚ) ^ 1024 = (2 ^ 256) ^ 4 := by rw [← pow_mul]
      _ ≤ (10 ^ 100) ^ 4 := pow_le_pow_left₀ (by positivity) (by norm_num) 4
      _ = 10 ^ 400 := by rw [← pow_mul]
  have positive : (0 : ℚ) ≤ magnitude := le_trans (by positivity) large
  obtain ⟨x, rounds⟩ := exists_rounds negative positive
  have range := rounds.isFinite_iff
  cases rounds with
  | infinite nearest beyond => exact .infinite nearest beyond
  | finite =>
    have least : (2 : ℚ) ^ 1024 - 2 ^ 970 ≤ 2 ^ 1024 := sub_le_self _ (by positivity)
    exact absurd (range.mp rfl) (not_lt.mpr (least.trans (beyond.trans large)))

/-! ### Decimals -/

section Decimal

variable {digits : Nat} {exponent : Int}

/-- A number lies between the powers of ten that its count of digits gives. -/
theorem digits_bounds (some : digits ≠ 0) :
    (10 : ℚ) ^ (((Nat.toDigits 10 digits).length : ℤ) + exponent - 1) ≤ digits * 10 ^ exponent ∧
      digits * (10 : ℚ) ^ exponent < 10 ^ (((Nat.toDigits 10 digits).length : ℤ) + exponent) := by
  have power : (0 : ℚ) < 10 ^ exponent := by positivity
  have filled : 0 < (Nat.toDigits 10 digits).length := Nat.length_toDigits_pos
  generalize count : (Nat.toDigits 10 digits).length = size at filled ⊢
  have above : digits < 10 ^ size :=
    (Nat.length_toDigits_le_iff (by decide) filled).mp count.le
  have least : 10 ^ (size - 1) ≤ digits := by
    obtain single | more := Nat.eq_or_lt_of_le filled
    · rw [← single]
      exact Nat.one_le_iff_ne_zero.mpr some
    · by_contra less
      have short := (Nat.length_toDigits_le_iff (by decide : 1 < 10) (by omega)).mpr (Nat.not_le.mp less)
      omega
  constructor
  · rw [show (size : ℤ) + exponent - 1 = (size - 1 : ℕ) + exponent by omega, zpow_add₀ (by norm_num),
      zpow_natCast]
    exact mul_le_mul_of_nonneg_right (by exact_mod_cast least) power.le
  · rw [zpow_add₀ (by norm_num), zpow_natCast]
    exact mul_lt_mul_of_pos_right (by exact_mod_cast above) power

/-- A number with so many zeros behind its point is nearest to zero. -/
theorem rounds_finite_zero (positive : 0 ≤ magnitude) (small : magnitude < 10 ^ (-400 : ℤ)) :
    Rounds negative magnitude (.finite negative 0) := by
  have below : (2 : ℚ) ^ 1074 * 2 ≤ 10 ^ 400 := by
    calc (2 : ℚ) ^ 1074 * 2 = (2 ^ 215) ^ 5 := by rw [← pow_succ, ← pow_mul]
      _ ≤ (10 ^ 80) ^ 5 := pow_le_pow_left₀ (by positivity) (by norm_num) 5
      _ = 10 ^ 400 := by rw [← pow_mul]
  refine .finite (nearest_zero (by positivity) ?_) (by positivity)
  rw [zpow_neg, zpow_ofNat] at small
  calc magnitude * 2 ^ 1074
      < (10 ^ 400)⁻¹ * 2 ^ 1074 := mul_lt_mul_of_pos_right small (by positivity)
    _ ≤ 1 / 2 := by
      rw [inv_mul_le_iff₀ (by positivity), mul_one_div, le_div_iff₀ (by norm_num)]
      exact below

theorem rounds_ofDecimal (negative : Bool) (digits : Nat) (exponent : Int) :
    Rounds negative (digits * 10 ^ exponent) (ofDecimal negative digits exponent) := by
  unfold ofDecimal
  dsimp only
  split
  case isTrue none =>
    refine rounds_finite_zero (by positivity) ?_
    rw [none, Nat.cast_zero, zero_mul]
    positivity
  case isFalse some =>
    obtain ⟨least, most⟩ := @digits_bounds digits exponent some
    split
    case isTrue large =>
      refine rounds_infinite (le_trans ?_ least)
      rw [← zpow_natCast]
      exact zpow_le_zpow_right₀ (by norm_num) (by omega)
    case isFalse =>
      split
      case isTrue small =>
        refine rounds_finite_zero (by positivity) (most.trans_le ?_)
        exact zpow_le_zpow_right₀ (by norm_num) small.le
      case isFalse =>
        split
        case isTrue whole =>
          obtain ⟨e, rfl⟩ := Int.eq_ofNat_of_zero_le whole
          have rounds := @rounds_ofRatio negative (digits * Nat.pow 10 e) 1 (by decide)
          rw [Nat.cast_one, div_one, Nat.cast_mul, cast_pow] at rounds
          rw [zpow_natCast]
          exact rounds
        case isFalse fraction =>
          obtain ⟨e, rfl⟩ := Int.eq_negSucc_of_lt_zero (Int.not_le.mp fraction)
          have rounds := @rounds_ofRatio negative digits (Nat.pow 10 (e + 1)) (Nat.pow_pos (by decide))
          rw [cast_pow] at rounds
          rw [zpow_negSucc, ← div_eq_mul_inv]
          exact rounds

end Decimal
end LineCommand.Double
