import LineCommand.Proofs.Grammar.Layout
import LineCommand.Proofs.Grammar.Leading

/-! Fragments among blanks. Where nothing but blanks is left of a line, fragments that end with no blank
can only be left out, and what matches a line begins with its first character that is none. -/
namespace LineCommand
open Pattern

namespace Fragment

/-- A fragment that looks at nothing but the text ahead, passes no blanks where it settles on what it
passes, and is text without a special meaning if it is no field. -/
structure Steady (x : Fragment) : Prop where
  forward : x.Forward
  exact : (x.body {}).Exact
  plain : x.slot? = none → Plain x.text.toList

/-- A fragment that is not empty and begins with no blank, if it ends in front of one or of nothing. -/
def Starts (x : Fragment) : Prop := ∀ text rest, Text.Edge rest →
  (x.body {}).Leaves (text ++ rest) rest → text ≠ [] ∧ Text.Clear text

/-- A fragment that is not empty and ends with no blank, if it ends in front of one or of nothing. -/
def Stops (x : Fragment) : Prop := ∀ text rest, Text.Edge rest →
  (x.body {}).Leaves (text ++ rest) rest → text ≠ [] ∧ Text.Closed text

/-- Fragments of which the first one on a line begins with no blank. -/
def Begins : List Fragment → Prop
  | [] => True
  | x :: xs => x.Starts ∧ (x.optional → Begins xs)

def Finishes : List Fragment → Prop
  | [] => True
  | x :: xs => ((∀ y ∈ xs, y.optional) → x.Stops) ∧ Finishes xs

/-- The pattern of a fragment behind `k` groups with the separator before it, if one is pending. -/
def spaced (pending : Bool) (k : Nat) (x : Fragment) : Pattern :=
  sequence (gapParts {} pending ++ [x.core k])

variable {pending : Bool} {k : Nat} {x : Fragment} {xs : List Fragment} {goal : Goal}
  {st last : MatchState} {text rest : List Char}

/-! ### The parts of a fragment -/

theorem Steady.insertable (steady : x.Steady) : x.Insertable {} := by
  cases slot : x.slot? with
  | none => exact insertable_of_plain rfl (steady.plain slot)
  | some _ => exact steady.forward.insertable (slot ▸ Option.some_ne_none _)

theorem core_plain (plain : Plain x.text.toList) (slot : x.slot? = none) (k : Nat) :
    x.core k = sequence (x.text.toList.map (character {})) := by
  rw [core, slot, body_plain plain, shift_sequence, List.map_map]
  rfl

theorem run_single (p : Pattern) (goal : Goal) : (sequence [p]).run goal = p.run goal := rfl

/-- A fragment is tried with the separators around it, and left out if it may be. -/
theorem run_parts (steady : x.Steady) (goal : Goal) (st : MatchState) :
    (sequence (x.parts {} pending k)).run goal st =
      let taken := (x.spaced pending k).run ((sequence (x.rearParts pending)).run goal) st
      if x.optional then taken.or (goal st) else taken := by
  have literal : x.slot? = none →
      (sequence (gapParts {} pending ++ x.text.toList.map (character {}))).run goal st =
        (x.spaced pending k).run goal st := by
    intro slot
    rw [spaced, run_sequence_append, run_sequence_append, run_single,
      core_plain (steady.plain slot) slot]
  cases x with
  | plain | unknown => exact literal rfl
  | field f optional =>
    cases optional with
    | false => rfl
    | true =>
      rw [parts, run_single, run_optional, List.append_cons, run_sequence_append]
      cases pending <;> rfl

theorem reaches_spaced (forward : x.Forward) : (x.spaced pending k).Reaches fun text rest =>
    ∃ here, Gapped pending text here ∧ (x.body {}).Leaves here rest :=
  (reaches_gap pending).append (reaches_core forward k).single

theorem exists_text (forward : x.Forward) (member : last ∈ (x.spaced pending k).outcomes st) :
    ∃ gap text, st.cursor.Passes (gap ++ text) last.cursor ∧
      (x.body {}).Leaves (text ++ last.cursor.ahead) last.cursor.ahead := by
  obtain ⟨here, before, after⟩ := mem_outcomes_append.mp member
  rw [mem_outcomes_single] at after
  obtain ⟨gap, passes⟩ := exists_passes before
  obtain ⟨text, inside⟩ := exists_passes after
  refine ⟨gap, text, passes.trans inside, ?_⟩
  rw [← inside.ahead]
  exact (reaches_core forward k here _).mp ⟨last, after, rfl⟩

/-! ### Lines of blanks -/

theorem Stops.not_leaves (stops : x.Stops) {here : List Char} (blanks : Text.Blanks here) :
    ¬ (x.body {}).Leaves here rest := by
  intro leaves
  obtain ⟨text, rfl⟩ := leaves.exists_front
  obtain ⟨inside, behind⟩ := List.forall_mem_append.mp blanks
  obtain ⟨some, closed⟩ := stops text rest (Text.Blanks.edge behind) leaves
  exact some (closed.eq_nil inside)

theorem Gapped.exists_front {here : List Char} (gap : Gapped pending text here) :
    ∃ w, text = w ++ here := by
  cases pending with
  | false => exact ⟨[], gap.symm⟩
  | true =>
    obtain ⟨w, _, _, rfl⟩ := gap
    exact ⟨w, rfl⟩

/-- A fragment that stops behind its last character has no place among blanks. -/
theorem Stops.outcomes_eq_nil (stops : x.Stops) (forward : x.Forward)
    (blanks : Text.Blanks st.cursor.ahead) : (x.spaced pending k).outcomes st = [] := by
  refine List.eq_nil_iff_forall_not_mem.mpr fun last member => ?_
  obtain ⟨here, gap, leaves⟩ := (reaches_spaced forward st _).mp ⟨last, member, rfl⟩
  obtain ⟨w, split⟩ := gap.exists_front
  rw [split] at blanks
  exact stops.not_leaves (List.forall_mem_append.mp blanks).2 leaves

theorem reaches_parts (steady : x.Steady) :
    (sequence (x.parts {} pending k)).Reaches (x.Takes pending) := by
  have literal (slot : x.slot? = none) :
      (sequence (gapParts {} pending ++ x.text.toList.map (character {}))).Reaches fun text rest =>
        ∃ here, Gapped pending text here ∧ (x.body {}).Leaves here rest := by
    refine (reaches_gap pending).append ?_
    rw [← core_plain (steady.plain slot) slot k]
    exact reaches_core steady.forward k
  cases x with
  | plain | unknown => exact literal rfl
  | field => exact reaches_field steady.forward k

theorem exists_reaches_allParts (pending : Bool) (k : Nat) (steady : ∀ x ∈ xs, x.Steady) :
    ∃ R, (sequence (allParts {} pending k xs)).Reaches R ∧
      ∀ text, (∃ rest, R text rest) ↔ Fits pending xs text := by
  induction xs generalizing pending k with
  | nil => exact ⟨Ended, reaches_ending, fun text => exists_ended_iff⟩
  | cons x xs ih =>
    obtain ⟨here, rests⟩ := List.forall_mem_cons.mp steady
    obtain ⟨R, reaches, fits⟩ := ih (x.leaves pending) (k + x.groups {}) rests
    refine ⟨_, (reaches_parts here).append reaches, fun text => ?_⟩
    constructor
    · rintro ⟨rest, mid, taken, left⟩
      exact ⟨mid, taken, (fits mid).mp ⟨rest, left⟩⟩
    · rintro ⟨mid, taken, others⟩
      obtain ⟨rest, left⟩ := (fits mid).mpr others
      exact ⟨rest, mid, taken, left⟩

/-- What is left of the pattern of a grammar matches what its fragments can take one after the other. -/
theorem isSome_run_allParts (steady : ∀ x ∈ xs, x.Steady) :
    ((sequence (allParts {} pending k xs)).run some st).isSome ↔ Fits pending xs st.cursor.ahead := by
  obtain ⟨R, reaches, fits⟩ := exists_reaches_allParts pending k steady
  rw [reaches.isSome_run, fits]

/-- Fragments of which the last one ends with no blank can all be left out, if blanks are matched. -/
theorem optional_of_fits (steady : ∀ x ∈ xs, x.Steady) (finishes : Finishes xs)
    (fits : Fits pending xs text) (blanks : Text.Blanks text) : ∀ x ∈ xs, x.optional := by
  induction xs generalizing pending text with
  | nil => exact nofun
  | cons x xs ih =>
    obtain ⟨here, rests⟩ := List.forall_mem_cons.mp steady
    obtain ⟨rest, taken, others⟩ := fits
    obtain ⟨w, rfl⟩ := ((reaches_parts (k := 0) here).exists_front taken)
    obtain ⟨inside, behind⟩ := List.forall_mem_append.mp blanks
    have optional := ih rests finishes.2 others behind
    refine List.forall_mem_cons.mpr ⟨?_, optional⟩
    by_contra required
    obtain ⟨start, gap, leaves⟩ := (takes_of_required (by simpa using required)).mp taken
    obtain ⟨v, split⟩ := gap.exists_front
    rw [split] at blanks
    exact (finishes.1 optional).not_leaves (List.forall_mem_append.mp blanks).2 leaves

/-- Fragments of which the first one begins with no blank match no line that begins with one, unless
there is nothing but blanks. -/
theorem opening_of_fits (begins : Begins xs) (fits : Fits false xs text) : Text.Opening text := by
  have opening : ∀ {x : Fragment} {rest}, x.Starts → (x.body {}).Leaves text rest → Text.Edge rest →
      Text.Opening text := by
    intro x rest starts leaves edge
    obtain ⟨w, rfl⟩ := leaves.exists_front
    obtain ⟨some, clear⟩ := starts w rest edge leaves
    exact .inl (clear.append some rest)
  induction xs with
  | nil => exact .inr fits
  | cons x xs ih =>
    obtain ⟨starts, begins⟩ := begins
    obtain ⟨rest, taken, others⟩ := fits
    rw [leaves_eq, Bool.false_or] at others
    cases optional : x.optional with
    | false =>
      rw [optional] at others
      obtain ⟨_, rfl, leaves⟩ := (takes_of_required optional).mp taken
      exact opening starts leaves (edge_of_fits others)
    | true =>
      rw [optional] at others
      cases x with
      | plain | unknown => cases optional
      | field f _ =>
        obtain rfl : _ = true := optional
        obtain ⟨_, behind, rfl, leaves, parted | ⟨blanks, _⟩⟩ | rfl := taken
        · obtain ⟨w, blanks, some, rfl⟩ := parted
          exact opening starts leaves (blanks.edge_append some rest)
        · exact opening starts leaves blanks.edge
        · exact ih (begins rfl) others

theorem run_blanks (steady : ∀ x ∈ xs, x.Steady) (stops : ∀ x ∈ xs, x.Stops)
    (optional : ∀ x ∈ xs, x.optional) (blanks : Text.Blanks st.cursor.ahead) :
    ((sequence (allParts {} pending k xs)).run some st).map MatchState.spans = some st.spans := by
  induction xs generalizing pending k with
  | nil => exact (run_ending st).trans (if_pos (wordsOf_eq_nil_iff.mpr blanks))
  | cons x xs ih =>
    obtain ⟨here, rests⟩ := List.forall_mem_cons.mp steady
    obtain ⟨ends, others⟩ := List.forall_mem_cons.mp stops
    obtain ⟨skips, optionals⟩ := List.forall_mem_cons.mp optional
    rw [allParts, run_sequence_append, run_parts here, if_pos skips, run_eq (x.spaced _ _),
      ends.outcomes_eq_nil here.forward blanks]
    exact ih rests others optionals

theorem Finishes.stops (finishes : Finishes xs) (optional : ∀ x ∈ xs, x.optional) :
    ∀ x ∈ xs, x.Stops := by
  induction xs with
  | nil => exact nofun
  | cons x xs ih =>
    obtain ⟨_, optionals⟩ := List.forall_mem_cons.mp optional
    exact List.forall_mem_cons.mpr ⟨finishes.1 optionals, ih finishes.2 optionals⟩

/-- Among blanks nothing is matched but the end of the line, if everything before it may be left out. -/
theorem map_run_blanks (pending : Bool) (k : Nat) (steady : ∀ x ∈ xs, x.Steady)
    (finishes : Finishes xs) (st : MatchState) (blanks : Text.Blanks st.cursor.ahead) :
    ((sequence (allParts {} pending k xs)).run some st).map MatchState.spans =
      if ∀ x ∈ xs, x.optional then some st.spans else none := by
  split
  · rename_i optional
    exact run_blanks steady (finishes.stops optional) optional blanks
  · rename_i required
    rw [Option.map_eq_none_iff, ← Option.not_isSome_iff_eq_none, isSome_run_allParts steady]
    exact fun fits => required (optional_of_fits steady finishes fits blanks)

/-- Among blanks, what keeps a field apart from the text behind it makes no difference. -/
theorem run_apart_blanks {v : Option (List (Option Span))} (blanks : Text.Blanks st.cursor.ahead)
    (same : ∀ d, Text.Blanks d.ahead → (goal ⟨d, st.spans⟩).map MatchState.spans = v) :
    ((apart {}).run goal st).map MatchState.spans = v := by
  have still := run_lookahead goal st
  rw [if_pos (wordsOf_eq_nil_iff.mpr blanks)] at still
  rw [apart, run_alt, run_single, run_single, still]
  cases ran : (separator {}).run goal st with
  | none => exact same st.cursor blanks
  | some last =>
    obtain ⟨w, d, _, passes, reached⟩ := exists_of_run forgetful_blanks ran
    rw [passes.ahead] at blanks
    have found := same d (List.forall_mem_append.mp blanks).2
    rw [reached] at found
    exact found

/-- Behind a fragment there is nothing more to find among blanks than before it. -/
theorem map_run_rear_blanks (x : Fragment) (pending pending' : Bool) (k : Nat)
    (steady : ∀ x ∈ xs, x.Steady) (finishes : Finishes xs) (blanks : Text.Blanks st.cursor.ahead) :
    ((sequence (x.rearParts pending)).run ((sequence (allParts {} pending' k xs)).run some) st).map
      MatchState.spans = if ∀ x ∈ xs, x.optional then some st.spans else none := by
  rw [rearParts]
  split
  · exact run_apart_blanks blanks fun d behind =>
      map_run_blanks pending' k steady finishes ⟨d, st.spans⟩ behind
  · exact map_run_blanks pending' k steady finishes st blanks

end Fragment
end LineCommand
