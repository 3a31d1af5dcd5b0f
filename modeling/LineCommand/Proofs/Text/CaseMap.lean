import LineCommand.Proofs.Text.Words
import LineCommand.Text.CaseMap

/-! Tables of code points, asked about runs of code points and not about one at a time. A set of ranges
holds all of a run or none of it, and a map moves all points of a run by one distance, wherever that is
seen from the ends of the run and its step. The tables are long, so that the questions are put with the
comparisons that the kernel computes by itself. -/
namespace LineCommand.Text

/-! ### Ranges -/

/-- Whether one of the ranges holds everything from `first` to `last`. -/
def Ranges.covers : Ranges → Nat → Nat → Bool
  | [], _, _ => false
  | (low, high) :: rest, first, last =>
    low.ble first && (last.ble high || Ranges.covers rest first last)

/-- Whether a range meets none of a set, before the next ranges are asked about what is behind it. -/
def Ranges.passes (range : Nat × Nat) (next : Ranges → Bool) : Ranges → Bool
  | [] => true
  | other :: others =>
    bif range.1.ble other.2 then !other.1.ble range.2 && next (other :: others)
    else Ranges.passes range next others

/-- Whether no range of one set meets a range of the other, where the first one is in order. -/
def Ranges.apart : Ranges → Ranges → Bool
  | [], _ => true
  | range :: rest, others => Ranges.passes range (Ranges.apart rest) others

variable {ranges others : Ranges} {first last n : Nat}

theorem Ranges.holds_of_covers (covers : ranges.covers first last) (low : first ≤ n) (high : n ≤ last) :
    ranges.holds n = true := by
  induction ranges with
  | nil => cases covers
  | cons range rest ih =>
    simp only [Ranges.covers, Bool.and_eq_true, Bool.or_eq_true, Nat.ble_eq] at covers
    obtain ⟨starts, ends⟩ := covers
    have begun : ¬ n < range.1 := by omega
    simp only [Ranges.holds, if_neg begun, Bool.or_eq_true, decide_eq_true_eq]
    rcases ends with here | further
    · exact .inl (by omega)
    · exact .inr (ih further)

/-- What is in a range, or behind it, is in none of those that the range has passed. -/
theorem Ranges.not_holds_of_passes {range : Nat × Nat} {next : Ranges → Bool}
    (passes : Ranges.passes range next others = true) (low : range.1 ≤ n)
    (within : n ≤ range.2 ∨ ∀ others, next others = true → others.holds n = false) :
    others.holds n = false := by
  induction others with
  | nil => rfl
  | cons other others ih =>
    simp only [Ranges.passes, cond_eq_ite, Nat.ble_eq] at passes
    split at passes
    case isTrue =>
      obtain ⟨behind, further⟩ := Bool.and_eq_true_iff.mp passes
      rcases within with here | beyond
      · have ahead : ¬ other.1 ≤ range.2 := by simpa [← Nat.ble_eq] using behind
        rw [Ranges.holds, if_pos (by omega)]
      · exact beyond _ further
    case isFalse passed =>
      have past : ¬ n ≤ other.2 := by omega
      rw [Ranges.holds, ih passes, decide_eq_false past]
      exact ite_self _

theorem Ranges.not_holds_of_apart {range : Nat × Nat} (apart : ranges.apart others = true)
    (ordered : ranges.Pairwise fun a b => a.1 ≤ b.1) (listed : range ∈ ranges) (low : range.1 ≤ n)
    (high : n ≤ range.2) : others.holds n = false := by
  induction ranges generalizing others with
  | nil => cases listed
  | cons first rest ih =>
    obtain ⟨earlier, ordered⟩ := List.pairwise_cons.mp ordered
    rcases List.mem_cons.mp listed with rfl | member
    · exact Ranges.not_holds_of_passes apart low (.inl high)
    · have begun := earlier range member
      exact Ranges.not_holds_of_passes apart (by omega) (.inr fun _ apart => ih apart ordered member)

/-! ### Runs -/

namespace CaseRun

variable {run row : CaseRun}

theorem moves_iff : run.moves n = true ↔
    run.first ≤ n ∧ n ≤ run.last ∧ (n - run.first) % run.step = 0 := by
  simp [moves, and_assoc]

def points (run : CaseRun) : List Nat :=
  List.range' run.first ((run.last - run.first) / run.step + 1) run.step

theorem mem_points (moves : run.moves n) : n ∈ run.points := by
  obtain ⟨low, high, aligned⟩ := moves_iff.mp moves
  obtain ⟨k, far⟩ := Nat.dvd_of_mod_eq_zero aligned
  rw [points, List.mem_range']
  rcases Nat.eq_zero_or_pos run.step with still | steps
  · exact ⟨0, Nat.succ_pos _, by rw [still] at far ⊢; omega⟩
  · refine ⟨k, ?_, by omega⟩
    rw [Nat.lt_succ_iff, Nat.le_div_iff_mul_le steps, Nat.mul_comm]
    omega

def within (run : CaseRun) (ranges : Ranges) : Bool :=
  ranges.covers run.first run.last || run.points.all ranges.holds

theorem holds_of_within (within : run.within ranges = true) (moves : run.moves n) :
    ranges.holds n = true := by
  obtain ⟨low, high, _⟩ := moves_iff.mp moves
  obtain covers | each := Bool.or_eq_true_iff.mp within
  · exact Ranges.holds_of_covers covers low high
  · exact List.all_eq_true.mp each n (mem_points moves)

def image (run : CaseRun) : CaseRun :=
  ⟨(run.first + run.distance).toNat, (run.last + run.distance).toNat, run.step, 0⟩

theorem image_moves (grounded : 0 ≤ run.first + run.distance) (moves : run.moves n) :
    run.image.moves (n + run.distance).toNat = true := by
  obtain ⟨low, high, aligned⟩ := moves_iff.mp moves
  have apart : (n + run.distance).toNat - (run.first + run.distance).toNat = n - run.first := by
    omega
  rw [moves_iff]
  refine ⟨?_, ?_, by simpa only [image, apart] using aligned⟩ <;> simp only [image] <;> omega

/-- The points of `row` lie `run.step` apart from one another, or a multiple of it. -/
def paces (run row : CaseRun) : Bool :=
  row.first == row.last || row.step % run.step == 0

theorem mod_eq_of_paces (paces : run.paces row) (begun : run.first ≤ row.first)
    (moves : row.moves n) : (n - run.first) % run.step = (row.first - run.first) % run.step := by
  obtain ⟨low, high, aligned⟩ := moves_iff.mp moves
  have divides : run.step ∣ n - row.first := by
    obtain single | multiple := Bool.or_eq_true _ _ ▸ paces
    · have same : row.first = row.last := by simpa using single
      have still : n - row.first = 0 := by omega
      exact still ▸ Nat.dvd_zero _
    · have multiple : row.step % run.step = 0 := by simpa using multiple
      exact Nat.dvd_trans (Nat.dvd_of_mod_eq_zero multiple) (Nat.dvd_of_mod_eq_zero aligned)
  obtain ⟨k, far⟩ := divides
  have split : n - run.first = row.first - run.first + run.step * k := by omega
  rw [split, Nat.add_mul_mod_self_left]

end CaseRun

/-! ### Maps -/

namespace CaseMap

variable {map : CaseMap} {row : CaseRun} {distance : Int}

/-- A point is moved by one of the runs, or it stays. -/
theorem apply_cases (map : CaseMap) (n : Nat) :
    map.apply n = n ∨ ∃ run ∈ map, run.moves n = true ∧ map.apply n = (n + run.distance).toNat := by
  induction map with
  | nil => exact .inl rfl
  | cons run rest ih =>
    rw [apply]
    split
    · exact .inl rfl
    · split
      case isTrue moves => exact .inr ⟨run, List.mem_cons_self, moves, rfl⟩
      case isFalse =>
        obtain stays | ⟨other, listed, moves, moved⟩ := ih
        · exact .inl stays
        · exact .inr ⟨other, .tail _ listed, moves, moved⟩

/-- The distance by which a map moves every point of a run, if it is seen to be one distance. -/
def shift? : CaseMap → CaseRun → Option Int
  | [], _ => some 0
  | run :: rest, row =>
    bif run.first.ble row.first then
      bif row.first.ble run.last then
        bif run.paces row then
          bif (row.first - run.first) % run.step != 0 then shift? rest row
          else bif row.last.ble run.last then some run.distance
          else none
        else none
      else shift? rest row
    else bif run.first.ble row.last then none
    else some 0

theorem apply_of_shift? (shifts : map.shift? row = some distance) (moves : row.moves n) :
    map.apply n = (n + distance).toNat := by
  obtain ⟨low, high, _⟩ := CaseRun.moves_iff.mp moves
  induction map with
  | nil =>
    obtain rfl := Option.some.inj shifts
    simp [apply]
  | cons run rest ih =>
    simp only [shift?, cond_eq_ite, Nat.ble_eq, bne_iff_ne] at shifts
    rw [apply]
    split at shifts
    case isFalse =>
      split at shifts
      case isTrue => cases shifts
      case isFalse ends =>
        obtain rfl := Option.some.inj shifts
        simp [show n < run.first by omega]
    case isTrue begun =>
    rw [if_neg (show ¬ n < run.first by omega)]
    split at shifts
    case isFalse passed =>
      have still : ¬ run.moves n = true := by
        rw [CaseRun.moves_iff]
        omega
      rw [if_neg still, ih shifts]
    case isTrue =>
    split at shifts
    case isFalse => cases shifts
    case isTrue paces =>
    have residue := CaseRun.mod_eq_of_paces paces begun moves
    split at shifts
    case isTrue between =>
      have still : ¬ run.moves n = true := by
        rw [CaseRun.moves_iff, residue]
        exact fun moved => between moved.2.2
      rw [if_neg still, ih shifts]
    case isFalse aligned =>
    split at shifts
    case isFalse => cases shifts
    case isTrue ends =>
      obtain rfl := Option.some.inj shifts
      have moved : run.moves n = true := by
        rw [CaseRun.moves_iff, residue]
        exact ⟨by omega, by omega, not_not.mp aligned⟩
      rw [if_pos moved]

def spot? (map : CaseMap) (n : Nat) : Option Nat :=
  (map.shift? ⟨n, n, 1, 0⟩).map fun distance => ((n : Int) + distance).toNat

theorem apply_of_spot? {m : Nat} (spot : map.spot? n = some m) : map.apply n = m := by
  obtain ⟨distance, shifts, rfl⟩ := Option.map_eq_some_iff.mp spot
  have moves : (⟨n, n, 1, 0⟩ : CaseRun).moves n = true := CaseRun.moves_iff.mpr (by simp)
  exact apply_of_shift? shifts moves

end CaseMap
end LineCommand.Text
