import Mathlib.Data.List.DropRight
import LineCommand.Text.Blank

/-! Words of a text: cutting at blanks depends on nothing but where words end. -/
namespace LineCommand.Text

def Blanks (cs : List Char) : Prop := ∀ c ∈ cs, isBlank c = true

/-- A text without blanks. -/
def Solid (cs : List Char) : Prop := ∀ c ∈ cs, isBlank c = false

/-- A text that no word before it goes on in. -/
def Edge (cs : List Char) : Prop := ∀ c ∈ cs.head?, isBlank c = true

/-- A text that no blank starts. -/
def Clear (cs : List Char) : Prop := ∀ c ∈ cs.head?, isBlank c = false

/-- A text that no blank ends. -/
def Closed (cs : List Char) : Prop := Clear cs.reverse

/-- A text with its first word at its start, if it has words. -/
def Opening (cs : List Char) : Prop := Clear cs ∨ Blanks cs

-- Decided over the text, and not over all characters that there are.
instance (cs : List Char) : Decidable (Blanks cs) := List.decidableBAll _ cs

instance (cs : List Char) : Decidable (Solid cs) := List.decidableBAll _ cs

def blanks : List Char :=
  blankRanges.flatMap fun (low, high) => (List.range' low (high + 1 - low)).map Char.ofNat

theorem Ranges.exists_of_holds {ranges : Ranges} {n : Nat} (holds : ranges.holds n) :
    ∃ range ∈ ranges, range.1 ≤ n ∧ n ≤ range.2 := by
  induction ranges with
  | nil => cases holds
  | cons range rest ih =>
    simp only [Ranges.holds] at holds
    split at holds
    · cases holds
    · rename_i low
      obtain high | further := Bool.or_eq_true _ _ ▸ holds
      · exact ⟨range, List.mem_cons_self, Nat.not_lt.mp low, of_decide_eq_true high⟩
      · obtain ⟨other, listed, bounds⟩ := ih further
        exact ⟨other, .tail _ listed, bounds⟩

theorem mem_blanks_iff {c : Char} : c ∈ blanks ↔ isBlank c = true := by
  constructor
  · intro listed
    exact List.all_eq_true.mp (show blanks.all isBlank = true by decide) c listed
  · intro blank
    obtain ⟨range, listed, low, high⟩ := Ranges.exists_of_holds blank
    refine List.mem_flatMap.mpr ⟨range, listed, List.mem_map.mpr ⟨c.toNat, ?_, Char.ofNat_toNat c⟩⟩
    rw [List.mem_range'_1]
    omega

variable {bs cs rest v w : List Char}

theorem Blanks.edge (blanks : Blanks cs) : Edge cs :=
  fun c first => blanks c (List.mem_of_head? first)

theorem Blanks.edge_append (blanks : Blanks bs) (some : bs ≠ []) (cs : List Char) :
    Edge (bs ++ cs) := by
  obtain ⟨b, bs, rfl⟩ := List.exists_cons_of_ne_nil some
  rintro c ⟨⟩
  exact blanks b List.mem_cons_self

theorem Edge.eq_nil (edge : Edge cs) (clear : Clear cs) : cs = [] := by
  cases cs with
  | nil => rfl
  | cons c cs =>
    have blank := edge c rfl
    rw [clear c rfl] at blank
    cases blank

theorem Edge.of_prefix (edge : Edge cs) (front : v <+: cs) : Edge v := by
  obtain ⟨rest, rfl⟩ := front
  intro c first
  exact edge c (by simp [Option.mem_def.mp first])

theorem exists_front (p : Char → Bool) (cs : List Char) :
    ∃ front rest, cs = front ++ rest ∧ (∀ c ∈ front, p c = true) ∧
      ∀ c ∈ rest.head?, p c = false := by
  refine ⟨cs.takeWhile p, cs.dropWhile p, List.takeWhile_append_dropWhile.symm,
    List.all_eq_true.mp List.all_takeWhile, ?_⟩
  intro c first
  have outside := List.head?_dropWhile_not p cs
  rw [Option.mem_def.mp first] at outside
  simpa using outside

/-- The longest front is cut off where the character behind it is none of its kind. -/
theorem span_front {p : Char → Bool} (inside : ∀ c ∈ v, p c = true)
    (stops : ∀ c ∈ rest.head?, p c = false) :
    (v ++ rest).takeWhile p = v ∧ (v ++ rest).dropWhile p = rest := by
  rw [List.takeWhile_append_of_pos inside, List.dropWhile_append_of_pos inside]
  cases rest with
  | nil => simp
  | cons c cs =>
    have stop : ¬ p c = true := by simp [stops c rfl]
    rw [List.takeWhile_cons_of_neg stop, List.dropWhile_cons_of_neg stop, List.append_nil]
    exact ⟨rfl, rfl⟩

theorem trimStart_blanks (blanks : Blanks bs) (clear : Clear cs) : trimStart (bs ++ cs) = cs :=
  (span_front blanks clear).2

theorem exists_blanks (cs : List Char) : ∃ bs rest, cs = bs ++ rest ∧ Blanks bs ∧ Clear rest :=
  exists_front isBlank cs

theorem exists_word (cs : List Char) : ∃ w rest, cs = w ++ rest ∧ Solid w ∧ Edge rest := by
  simpa [Solid, Edge] using exists_front (!isBlank ·) cs

/-- A text without blanks in front of another text ends before its first word does. -/
theorem Solid.of_append (solid : Solid v) (edge : Edge rest) (same : v ++ cs = w ++ rest) :
    ∃ u, w = v ++ u ∧ cs = u ++ rest := by
  obtain longer | ⟨u, rfl, rfl⟩ := List.append_eq_append_iff.mp same
  · exact longer
  · cases u with
    | nil => exact ⟨[], by simp⟩
    | cons c u =>
      have blank := edge c rfl
      rw [solid c (by simp)] at blank
      cases blank

/-- Where texts without blanks end is seen from what lies behind them. -/
theorem Solid.append_inj (solid : Solid v) (solid' : Solid w) (edge : Edge cs) (edge' : Edge rest)
    (same : v ++ cs = w ++ rest) : v = w ∧ cs = rest := by
  obtain ⟨u, longer, _⟩ := solid.of_append edge' same
  obtain ⟨u', shorter, _⟩ := solid'.of_append edge same.symm
  have lengths := congrArg List.length longer
  have lengths' := congrArg List.length shorter
  rw [List.length_append] at lengths lengths'
  exact List.append_inj same (by omega)

theorem Clear.eq_nil_of_blanks (clear : Clear (bs ++ cs)) (blanks : Blanks bs) : bs = [] := by
  cases bs with
  | nil => rfl
  | cons b bs =>
    have blank := blanks b List.mem_cons_self
    rw [clear b rfl] at blank
    cases blank

theorem Clear.append (clear : Clear v) (some : v ≠ []) (cs : List Char) : Clear (v ++ cs) := by
  obtain ⟨c, v, rfl⟩ := List.exists_cons_of_ne_nil some
  rintro d ⟨⟩
  exact clear c rfl

theorem Closed.eq_nil_of_blanks (closed : Closed (cs ++ bs)) (blanks : Blanks bs) : bs = [] := by
  rw [Closed, List.reverse_append] at closed
  have none := closed.eq_nil_of_blanks fun c member => blanks c (List.mem_reverse.mp member)
  exact List.reverse_eq_nil_iff.mp none

theorem Closed.eq_nil (closed : Closed cs) (blanks : Blanks cs) : cs = [] := by
  have reversed : Blanks cs.reverse := fun c member => blanks c (List.mem_reverse.mp member)
  exact List.reverse_eq_nil_iff.mp (reversed.edge.eq_nil closed)

theorem Closed.append (closed : Closed w) (some : w ≠ []) (cs : List Char) : Closed (cs ++ w) := by
  rw [Closed, List.reverse_append]
  exact Clear.append closed (by simpa using some) _

theorem Solid.clear (solid : Solid cs) : Clear cs := fun c first => solid c (List.mem_of_head? first)

theorem Solid.reverse (solid : Solid cs) : Solid cs.reverse :=
  fun c member => solid c (List.mem_reverse.mp member)

/-! ### Cutting -/

theorem wordsFrom_blanks (blanks : Blanks bs) (cs : List Char) :
    wordsFrom [] (bs ++ cs) = wordsFrom [] cs := by
  induction bs with
  | nil => rfl
  | cons b bs ih =>
    obtain ⟨blank, rests⟩ := List.forall_mem_cons.mp blanks
    simp [wordsFrom, blank, ih rests]

theorem wordsFrom_solid (word : List Char) (solid : Solid w) (edge : Edge rest)
    (some : word ≠ [] ∨ w ≠ []) :
    wordsFrom word (w ++ rest) = (word.reverse ++ w) :: wordsFrom [] rest := by
  induction w generalizing word with
  | nil =>
    have filled : word.isEmpty = false := by simpa using some
    cases rest with
    | nil => simp [wordsFrom, filled]
    | cons c rest => simp [wordsFrom, filled, edge c rfl]
  | cons c w ih =>
    obtain ⟨plain, rests⟩ := List.forall_mem_cons.mp solid
    have next := ih (c :: word) rests (.inl (List.cons_ne_nil _ _))
    simp [wordsFrom, plain, next]

theorem wordsFrom_eq_nil_iff : wordsFrom [] cs = [] ↔ Blanks cs := by
  obtain ⟨bs, rest, rfl, blanks, clear⟩ := exists_blanks cs
  rw [wordsFrom_blanks blanks]
  constructor
  · intro none
    obtain ⟨w, rest', rfl, solid, edge⟩ := exists_word rest
    cases w with
    | nil =>
      cases rest' with
      | nil => simpa using blanks
      | cons c rest' =>
        have blank := edge c rfl
        rw [clear c rfl] at blank
        cases blank
    | cons c w =>
      rw [wordsFrom_solid _ solid edge (.inr (List.cons_ne_nil _ _))] at none
      cases none
  · intro all
    cases rest with
    | nil => rfl
    | cons c rest =>
      have blank := all c (by simp)
      rw [clear c rfl] at blank
      cases blank

theorem solid_of_mem_wordsFrom {word : List Char} (solid : Solid word)
    (member : w ∈ wordsFrom word cs) : Solid w := by
  induction cs generalizing word with
  | nil =>
    simp only [wordsFrom] at member
    split at member
    · cases member
    · obtain rfl := List.mem_singleton.mp member
      exact solid.reverse
  | cons c cs ih =>
    simp only [wordsFrom] at member
    split at member
    · split at member
      · exact ih (List.forall_mem_nil _) member
      · obtain rfl | member := List.mem_cons.mp member
        · exact solid.reverse
        · exact ih (List.forall_mem_nil _) member
    · rename_i plain
      refine ih (List.forall_mem_cons.mpr ⟨?_, solid⟩) member
      simpa using plain

theorem ne_nil_of_mem_wordsFrom {word : List Char} (member : w ∈ wordsFrom word cs) : w ≠ [] := by
  induction cs generalizing word with
  | nil =>
    simp only [wordsFrom] at member
    split at member
    · cases member
    · rename_i filled
      obtain rfl := List.mem_singleton.mp member
      simpa using filled
  | cons c cs ih =>
    simp only [wordsFrom] at member
    split at member
    · split at member
      · exact ih member
      · rename_i filled
        obtain rfl | member := List.mem_cons.mp member
        · simpa using filled
        · exact ih member
    · exact ih member

theorem trimStart_clear (clear : Clear cs) : trimStart cs = cs := by
  cases cs with
  | nil => rfl
  | cons c cs => exact List.dropWhile_cons_of_neg (by simp [clear c rfl])

theorem trim_eq_self (clear : Clear cs) (closed : Closed cs) : trim cs = cs := by
  have kept : cs.reverse.dropWhile isBlank = cs.reverse := trimStart_clear closed
  rw [trim, trimStart_clear clear, trimEnd, kept, List.reverse_reverse]

theorem trim_solid (solid : Solid cs) : trim cs = cs :=
  trim_eq_self solid.clear solid.reverse.clear

theorem trimEnd_append (solid : Solid w) (cs : List Char) : trimEnd (w ++ cs) = w ++ trimEnd cs := by
  have kept : w.reverse.dropWhile isBlank = w.reverse := trimStart_clear solid.reverse.clear
  simp only [trimEnd, List.reverse_append, List.dropWhile_append, kept]
  split
  case isTrue none => simp [List.isEmpty_iff.mp none]
  case isFalse => simp

/-- Trimming takes nothing from a word, but blanks from both sides of it. -/
theorem trim_append (blanks : Blanks bs) (solid : Solid w) (some : w ≠ []) (cs : List Char) :
    trim (bs ++ (w ++ cs)) = w ++ trimEnd cs := by
  obtain ⟨c, v, rfl⟩ := List.exists_cons_of_ne_nil some
  have front : trimStart (bs ++ (c :: v ++ cs)) = c :: v ++ cs := by
    rw [trimStart, List.dropWhile_append_of_pos blanks, List.cons_append]
    exact List.dropWhile_cons_of_neg (by simp [solid c])
  rw [trim, front, trimEnd_append solid]

/-- What is trimmed begins with no blank. -/
theorem trimStart_trim (cs : List Char) : trimStart (trim cs) = trim cs := by
  have front : trim cs <+: trimStart cs := List.rdropWhile_prefix isBlank _
  cases trimmed : trim cs with
  | nil => rfl
  | cons c rest =>
    rw [trimmed] at front
    obtain ⟨_, begun⟩ := front
    have plain := List.head?_dropWhile_not isBlank cs
    rw [← trimStart, ← begun] at plain
    exact List.dropWhile_cons_of_neg (by simpa using plain)

theorem trim_trim (cs : List Char) : trim (trim cs) = trim cs := by
  rw [trim, trimStart_trim]
  exact List.rdropWhile_idempotent isBlank (trimStart cs)

theorem clear_of_trim (same : trim cs = cs) : Clear cs := by
  have front := trimStart_trim cs
  rw [same] at front
  intro c first
  have begun := List.head?_dropWhile_not isBlank cs
  rw [← trimStart, front, Option.mem_def.mp first] at begun
  simpa using begun

/-- A text that is trimmed already ends with no blank. -/
theorem eq_nil_of_trim (same : trim (cs ++ bs) = cs ++ bs) (blanks : Blanks bs) : bs = [] := by
  by_contra some
  have back : (cs ++ bs).rdropWhile isBlank = cs ++ bs := by
    have twice := List.rdropWhile_idempotent isBlank (trimStart (cs ++ bs))
    change (trim (cs ++ bs)).rdropWhile isBlank = trim (cs ++ bs) at twice
    rwa [same] at twice
  have last := List.rdropWhile_eq_self_iff.mp back (by simp [some])
  rw [List.getLast_append_of_ne_nil _ some] at last
  exact last (blanks _ (List.getLast_mem some))

theorem closed_of_trim (same : trim cs = cs) : Closed cs := by
  intro c last
  have ends : cs.getLast? = some c := by rwa [List.head?_reverse] at last
  obtain ⟨front, rfl⟩ := List.getLast?_eq_some_iff.mp ends
  cases blank : isBlank c with
  | false => rfl
  | true => cases eq_nil_of_trim same (List.forall_mem_singleton.mpr blank)

end LineCommand.Text
