import LineCommand.Proofs.Text.Case
import LineCommand.Proofs.Text.CaseMap

/-! Lowering a text that is in lower case. No character is moved twice, and none is moved to the capital
sigma, so that what a text is lowered to stays as it is, whatever is left out of it. -/
namespace LineCommand.Text

/-! ### Characters of a map -/

theorem toNat_ofNat {n : Nat} (valid : n.isValidChar) : (Char.ofNat n).toNat = n := by
  rw [Char.ofNat, dif_pos valid]
  rfl

def CaseRun.lands (run : CaseRun) : Bool :=
  decide (0 ≤ run.first + run.distance) && (run.image.last.blt 0xD800 ||
    (Nat.ble 0xE000 run.image.first && run.image.last.blt 0x110000))

theorem CaseRun.grounded_of_lands {run : CaseRun} (lands : run.lands = true) :
    0 ≤ run.first + run.distance := by
  rw [CaseRun.lands, Bool.and_eq_true, decide_eq_true_eq] at lands
  exact lands.1

theorem CaseRun.isValidChar_of_lands {run : CaseRun} {n : Nat} (lands : run.lands = true)
    (moves : run.moves n = true) : (n + run.distance).toNat.isValidChar := by
  obtain ⟨low, high, _⟩ := moves_iff.mp (image_moves (grounded_of_lands lands) moves)
  simp only [CaseRun.lands, Bool.and_eq_true, Bool.or_eq_true, Nat.blt_eq, Nat.ble_eq] at lands
  rcases lands.2 with below | ⟨above, last⟩
  · exact .inl (by omega)
  · exact .inr ⟨by omega, by omega⟩

namespace CaseMap

variable {map : CaseMap} {c : Char}

def char (map : CaseMap) (c : Char) : Char := Char.ofNat (map.apply c.toNat)

theorem toNat_char (lands : map.all CaseRun.lands = true) (c : Char) :
    (map.char c).toNat = map.apply c.toNat := by
  have valid : (map.apply c.toNat).isValidChar := by
    obtain stays | ⟨run, listed, moves, moved⟩ := apply_cases map c.toNat
    · rw [stays]
      exact c.valid
    · rw [moved]
      exact CaseRun.isValidChar_of_lands (List.all_eq_true.mp lands run listed) moves
  rw [char, toNat_ofNat valid]

/-- A run that a map moves by one distance, after another map has moved it there. -/
theorem apply_image {run : CaseRun} {n : Nat} {distance : Int} (lands : run.lands = true)
    (moves : run.moves n = true) (shifts : map.shift? run.image = some distance) :
    map.apply (n + run.distance).toNat = (n + run.distance + distance).toNat := by
  obtain ⟨low, _⟩ := CaseRun.moves_iff.mp moves
  have grounded := CaseRun.grounded_of_lands lands
  rw [apply_of_shift? shifts (CaseRun.image_moves grounded moves), Int.toNat_of_nonneg (by omega)]

end CaseMap

/-! ### Lower case -/

theorem lowerMap_lands : lowerMap.all CaseRun.lands = true := by decide +kernel

/-- No run moves what a run has moved. -/
theorem lowerMap_shift?_image :
    lowerMap.all (fun run => lowerMap.shift? run.image == some 0) = true := by decide +kernel

theorem lowerMap_apply_apply (n : Nat) : lowerMap.apply (lowerMap.apply n) = lowerMap.apply n := by
  obtain stays | ⟨run, listed, moves, moved⟩ := lowerMap.apply_cases n
  · rw [stays, stays]
  · have lands := List.all_eq_true.mp lowerMap_lands run listed
    have settled : lowerMap.shift? run.image = some 0 := by
      simpa using List.all_eq_true.mp lowerMap_shift?_image run listed
    rw [moved, CaseMap.apply_image lands moves settled, Int.add_zero]

variable {c x : Char} {cs before : List Char}

theorem lowerChar_eq (other : c ≠ 'İ') : lowerChar c = [lowerMap.char c] := if_neg other

/-- Lowering leaves the character as it is, wherever it stands. -/
def Low (c : Char) : Prop := c ≠ 'Σ' ∧ lowerChar c = [c]

instance (c : Char) : Decidable (Low c) := inferInstanceAs (Decidable (_ ∧ _))

theorem low_of_fixed (fixed : lowerMap.apply x.toNat = x.toNat) : Low x := by
  have capital : x ≠ 'Σ' ∧ x ≠ 'İ' := by
    constructor
    · rintro rfl
      exact absurd fixed (by decide +kernel)
    · rintro rfl
      exact absurd fixed (by decide +kernel)
  refine ⟨capital.1, ?_⟩
  rw [lowerChar_eq capital.2, CaseMap.char, fixed, Char.ofNat_toNat]

theorem low_of_mem_lowerChar (member : x ∈ lowerChar c) : Low x := by
  by_cases dotted : c = 'İ'
  · subst dotted
    have dot : (Char.ofNat 0x307).toNat = 0x307 := rfl
    have parts : lowerChar 'İ' = ['i', Char.ofNat 0x307] := if_pos rfl
    rw [parts, List.mem_cons, List.mem_singleton] at member
    rcases member with rfl | rfl
    · exact low_of_fixed (by decide +kernel)
    · exact low_of_fixed (by rw [dot]; decide +kernel)
  · rw [lowerChar_eq dotted, List.mem_singleton] at member
    subst member
    apply low_of_fixed
    rw [CaseMap.toNat_char lowerMap_lands, lowerMap_apply_apply]

theorem low_of_mem_lowerFrom (member : x ∈ lowerFrom before cs) : Low x := by
  induction cs generalizing before with
  | nil => cases member
  | cons c cs ih =>
    rw [lowerFrom, List.mem_append] at member
    rcases member with here | further
    · split at here
      · have forms : Low 'ς' ∧ Low 'σ' := by decide +kernel
        rw [List.mem_singleton] at here
        split at here
        · exact here ▸ forms.1
        · exact here ▸ forms.2
      · exact low_of_mem_lowerChar here
    · exact ih further

theorem lowerFrom_low (low : ∀ c ∈ cs, Low c) (before : List Char) : lowerFrom before cs = cs := by
  induction cs generalizing before with
  | nil => rfl
  | cons c cs ih =>
    obtain ⟨⟨other, fixed⟩, others⟩ := List.forall_mem_cons.mp low
    rw [lowerFrom, if_neg other, fixed, ih others, List.singleton_append]

theorem lower_lower (cs : List Char) : lower (lower cs) = lower cs :=
  lowerFrom_low (fun _ => low_of_mem_lowerFrom) []

end LineCommand.Text
