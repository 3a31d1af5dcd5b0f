import LineCommand.Proofs.Pattern.Numbering
import LineCommand.Proofs.Pattern.Reach
import LineCommand.Proofs.Text.Words

/-! Matching a stretch of a text by itself. What a pattern does as far as the stretch goes does not
depend on what lies behind it, unless the pattern settles on something that lies there. Where a blank
comes next, it does not if what it settles on has no blanks. -/
namespace LineCommand

/-- A set without blanks. -/
def CharSet.Solid (set : CharSet) : Prop := ∀ c, Text.isBlank c → set.holds c = false

-- Decided over the blanks, and not over all characters that there are.
instance (set : CharSet) : Decidable set.Solid :=
  have all : Decidable (∀ c ∈ Text.blanks, set.holds c = false) := List.decidableBAll _ Text.blanks
  @decidable_of_iff _ _ (forall_congr' fun _ => imp_congr_left Text.mem_blanks_iff) all

/-- The same places, `n` characters further on. -/
def Span.further (n : Nat) (span : Span) : Span := ⟨span.start + n, span.stop + n⟩

theorem MatchState.span?_remember {st : MatchState} {index : Nat} (positive : 0 < index)
    (room : index ≤ st.spans.length) (span : Span) (i : Nat) :
    (st.remember index span).span? i = if i = index then some span else st.span? i := by
  unfold span? remember
  by_cases none : i = 0
  · rw [if_pos none, if_pos none, if_neg (by omega)]
  · rw [if_neg none, if_neg none, List.getElem?_set]
    by_cases same : i = index
    · rw [if_pos same, if_pos (by omega), if_pos (by omega)]
      rfl
    · rw [if_neg same, if_neg (by omega)]

theorem MatchState.span?_replicate (cursor : Cursor) (m i : Nat) :
    (⟨cursor, List.replicate m none⟩ : MatchState).span? i = none := by
  unfold span?
  split
  · rfl
  · rw [List.getElem?_replicate]
    split <;> rfl

namespace Pattern

/-! ### What a pattern settles on -/

/-- A pattern of sets without blanks, and of nothing that is matched once more. -/
def Solid : Pattern → Prop
  | empty | anchor _ => True
  | one set => set.Solid
  | back .. => False
  | seq first rest | alt first rest | cond _ first rest => first.Solid ∧ rest.Solid
  | group _ body | again _ _ _ body | atomic body | look _ _ body => body.Solid

/-- A pattern that looks at nothing but what it passes, and has no choices made for good but those of
a class of patterns. -/
def Guarded (Settled : Pattern → Prop) : Pattern → Prop
  | empty | one _ | back .. => True
  | anchor _ | look .. => False
  | seq first rest | alt first rest | cond _ first rest =>
    first.Guarded Settled ∧ rest.Guarded Settled
  | group _ body => body.Guarded Settled
  | again _ _ manner body => (manner = .possessive → Settled body) ∧ body.Guarded Settled
  | atomic body => Settled body ∧ body.Guarded Settled

/-- A pattern that looks at nothing but what it passes, and passes no blanks where it settles on what
it passes. -/
def Exact (p : Pattern) : Prop := p.Guarded Solid

/-- A pattern that looks at nothing but what it passes, and passes no blanks where it settles on what
it passes inside of what it settles on. -/
def Shallow (p : Pattern) : Prop := p.Guarded Exact

instance Solid.decidable : (p : Pattern) → Decidable p.Solid
  | empty | anchor _ => .isTrue trivial
  | one set => inferInstanceAs (Decidable set.Solid)
  | back .. => .isFalse id
  | seq first rest | alt first rest | cond _ first rest =>
    have := decidable first
    have := decidable rest
    inferInstanceAs (Decidable (first.Solid ∧ rest.Solid))
  | group _ body | again _ _ _ body | atomic body | look _ _ body => decidable body

instance Guarded.decidable {Settled : Pattern → Prop} [DecidablePred Settled] :
    (p : Pattern) → Decidable (p.Guarded Settled)
  | empty | one _ | back .. => .isTrue trivial
  | anchor _ | look .. => .isFalse id
  | seq first rest | alt first rest | cond _ first rest =>
    have : Decidable (first.Guarded Settled) := decidable first
    have : Decidable (rest.Guarded Settled) := decidable rest
    inferInstanceAs (Decidable (first.Guarded Settled ∧ rest.Guarded Settled))
  | group _ body => decidable body
  | again _ _ manner body =>
    have : Decidable (body.Guarded Settled) := decidable body
    inferInstanceAs (Decidable ((manner = .possessive → Settled body) ∧ body.Guarded Settled))
  | atomic body =>
    have : Decidable (body.Guarded Settled) := decidable body
    inferInstanceAs (Decidable (Settled body ∧ body.Guarded Settled))

instance : DecidablePred Exact := fun p => inferInstanceAs (Decidable (p.Guarded Solid))

instance : DecidablePred Shallow := fun p => inferInstanceAs (Decidable (p.Guarded Exact))

theorem solid_shift {p : Pattern} (k : Nat) : (p.shift k).Solid ↔ p.Solid := by
  induction p with
  | empty | one | anchor | back => exact Iff.rfl
  | seq first rest first_ih rest_ih | alt first rest first_ih rest_ih => exact and_congr first_ih rest_ih
  | cond index yes no yes_ih no_ih => exact and_congr yes_ih no_ih
  | group index body ih | again low high manner body ih | atomic body ih | look side negated body ih =>
    exact ih

theorem guarded_sequence {Settled : Pattern → Prop} {ps : List Pattern}
    (guarded : ∀ p ∈ ps, p.Guarded Settled) : (sequence ps).Guarded Settled := by
  induction ps with
  | nil => trivial
  | cons p ps ih =>
    obtain ⟨here, rests⟩ := List.forall_mem_cons.mp guarded
    exact ⟨here, ih rests⟩

theorem guarded_shift {Settled : Pattern → Prop} {k : Nat}
    (settles : ∀ q : Pattern, Settled (q.shift k) ↔ Settled q) {p : Pattern} :
    (p.shift k).Guarded Settled ↔ p.Guarded Settled := by
  induction p with
  | empty | one | anchor | look | back => exact Iff.rfl
  | seq first rest first_ih rest_ih | alt first rest first_ih rest_ih => exact and_congr first_ih rest_ih
  | cond index yes no yes_ih no_ih => exact and_congr yes_ih no_ih
  | group index body ih => exact ih
  | again low high manner body ih => exact and_congr (imp_congr_right fun _ => settles body) ih
  | atomic body ih => exact and_congr (settles body) ih

theorem exact_shift {p : Pattern} (k : Nat) : (p.shift k).Exact ↔ p.Exact :=
  guarded_shift fun _ => solid_shift k

theorem Solid.component {p q : Pattern} (solid : p.Solid) (part : q ∈ p.components) : q.Solid := by
  cases p with
  | empty | one | anchor | back => cases part
  | seq | alt | cond =>
    obtain rfl | part := List.mem_cons.mp part
    · exact solid.1
    · obtain rfl := List.mem_singleton.mp part
      exact solid.2
  | group | again | atomic | look =>
    obtain rfl := List.mem_singleton.mp part
    exact solid

/-- A pattern of sets without blanks passes none. -/
theorem exists_passes_solid {p : Pattern} (solid : p.Solid) {st last : MatchState}
    (member : last ∈ p.outcomes st) : ∃ w, st.cursor.Passes w last.cursor ∧ Text.Solid w := by
  refine outcomes_keep (fun st last => ∃ w, st.cursor.Passes w last.cursor ∧ Text.Solid w)
    (fun st => ⟨[], .refl _, nofun⟩) ?_ ?_ (fun solid _ => solid.elim) ?_
    (fun solid _ => solid.component) (fun solid _ inner => inner solid) solid member
  · rintro a b c ⟨v, first, solid⟩ ⟨w, second, solid'⟩
    exact ⟨v ++ w, first.trans second, List.forall_mem_append.mpr ⟨solid, solid'⟩⟩
  · intro set st c rest solid holds ahead
    refine ⟨[c], Cursor.passes_of_ahead ahead, List.forall_mem_singleton.mpr ?_⟩
    by_contra blank
    have outside := solid c (by simpa using blank)
    rw [holds] at outside
    cases outside
  · -- What is looked at leaves the place where it was.
    exact fun _ => ⟨[], .refl _, nofun⟩

/-! ### More rounds than are needed -/

section Rounds

variable {f : MatchState → List MatchState} (advances : Advances f)

/-- How many more rounds can be made at a place, where `began` is the place of the last one. -/
def roundsAhead (began : Option Nat) (st : MatchState) : Nat :=
  if began = some st.cursor.position then 0 else st.cursor.ahead.length + 1

theorem began_of_enough {began : Option Nat} {st : MatchState} (enough : roundsAhead began st ≤ 0) :
    began = some st.cursor.position := by
  by_contra further
  simp [roundsAhead, further] at enough

include advances

theorem roundsAhead_next {st next : MatchState} (member : next ∈ f st) :
    roundsAhead (some st.cursor.position) next ≤ st.cursor.ahead.length := by
  obtain ⟨w, passes⟩ := advances st next member
  have position := passes.position
  have ahead := congrArg List.length passes.ahead
  rw [List.length_append] at ahead
  unfold roundsAhead
  split
  · exact Nat.zero_le _
  · rename_i further
    have some : 0 < w.length := by
      by_contra none
      exact further (congrArg Option.some (by omega))
    omega

theorem next_enough {began : Option Nat} {n : Nat} {st next : MatchState}
    (enough : roundsAhead began st ≤ n + 1) (further : began ≠ some st.cursor.position)
    (member : next ∈ f st) : roundsAhead (some st.cursor.position) next ≤ n := by
  have here := roundsAhead_next advances member
  rw [roundsAhead, if_neg further] at enough
  omega

theorem moreOutcomes_of_le {n m : Nat} {began : Option Nat} {st : MatchState}
    (enough : roundsAhead began st ≤ n) (le : n ≤ m) :
    moreOutcomes f m began st = moreOutcomes f n began st := by
  induction n generalizing m began st with
  | zero =>
    have still := began_of_enough enough
    cases m <;> simp [moreOutcomes, still]
  | succ n ih =>
    obtain ⟨m, rfl⟩ := Nat.exists_eq_succ_of_ne_zero (Nat.ne_zero_of_lt le)
    simp only [moreOutcomes]
    split
    · rfl
    · rename_i further
      congr 1
      exact List.flatMap_congr fun next member =>
        ih (next_enough advances enough further member) (Nat.le_of_succ_le_succ le)

theorem fewerOutcomes_of_le {n m : Nat} {began : Option Nat} {st : MatchState}
    (enough : roundsAhead began st ≤ n) (le : n ≤ m) :
    fewerOutcomes f m began st = fewerOutcomes f n began st := by
  induction n generalizing m began st with
  | zero =>
    have still := began_of_enough enough
    cases m <;> simp [fewerOutcomes, still]
  | succ n ih =>
    obtain ⟨m, rfl⟩ := Nat.exists_eq_succ_of_ne_zero (Nat.ne_zero_of_lt le)
    simp only [fewerOutcomes]
    split
    · rfl
    · rename_i further
      congr 1
      exact List.flatMap_congr fun next member =>
        ih (next_enough advances enough further member) (Nat.le_of_succ_le_succ le)

theorem lastOutcome_of_le {n m : Nat} {began : Option Nat} {st : MatchState}
    (enough : roundsAhead began st ≤ n) (le : n ≤ m) :
    lastOutcome f m began st = lastOutcome f n began st := by
  induction n generalizing m began st with
  | zero =>
    have still := began_of_enough enough
    cases m <;> simp [lastOutcome, still]
  | succ n ih =>
    obtain ⟨m, rfl⟩ := Nat.exists_eq_succ_of_ne_zero (Nat.ne_zero_of_lt le)
    simp only [lastOutcome]
    split
    · rfl
    · rename_i further
      cases first : (f st).head? with
      | none => rfl
      | some next =>
        exact ih (next_enough advances enough further (List.mem_of_head? first))
          (Nat.le_of_succ_le_succ le)

end Rounds

/-- With more text ahead, more rounds may follow only where there are enough without. -/
theorem roundsLeft_of_le {st st' : MatchState}
    (longer : st.cursor.ahead.length ≤ st'.cursor.ahead.length) (low : Nat) (high : Option Nat) :
    roundsLeft low high st' = roundsLeft low high st ∨
      roundsAhead none st ≤ roundsLeft low high st ∧
        roundsLeft low high st ≤ roundsLeft low high st' := by
  have all : roundsAhead none st = st.cursor.ahead.length + 1 := if_neg nofun
  rw [all]
  cases high with
  | none =>
    simp only [roundsLeft]
    omega
  | some high =>
    simp only [roundsLeft]
    omega

/-! ### A stretch of a text -/

/-- Two states of which one is in a stretch of the text of the other, `n` characters further on and
behind `k` groups. The stretch has `m` groups of its own, and `rest` lies behind it. -/
structure Excerpt (n k m : Nat) (rest : List Char) (st st' : MatchState) : Prop where
  ahead : st'.cursor.ahead = st.cursor.ahead ++ rest
  behind : ∃ front, st'.cursor.behind = st.cursor.behind ++ front
  position : st'.cursor.position = st.cursor.position + n
  counted : st.cursor.behind.length = st.cursor.position
  groups : st.spans.length = m
  room : m + k ≤ st'.spans.length
  spans : ∀ i, st'.span? (i + k) = (st.span? i).map (·.further n)
  stops : ∀ i, ∀ span ∈ st.span? i, span.stop ≤ st.cursor.position

variable {n k m : Nat} {rest : List Char} {st st' : MatchState}

namespace Excerpt

theorem pass (excerpt : Excerpt n k m rest st st') (c : Char) (cs : List Char) :
    Excerpt n k m rest (pass st c cs) (pass st' c (cs ++ rest)) where
  ahead := rfl
  behind := excerpt.behind.imp fun _ behind => congrArg (c :: ·) behind
  position := by
    simp only [Pattern.pass, excerpt.position]
    omega
  counted := congrArg Nat.succ excerpt.counted
  groups := excerpt.groups
  room := excerpt.room
  spans := excerpt.spans
  stops i span found := Nat.le_succ_of_le (excerpt.stops i span found)

theorem remember (excerpt : Excerpt n k m rest st st') {index : Nat} (positive : 0 < index)
    (own : index ≤ m) (start : Nat) :
    Excerpt n k m rest (st.remember index ⟨start, st.cursor.position⟩)
      (st'.remember (index + k) ⟨start + n, st'.cursor.position⟩) where
  ahead := excerpt.ahead
  behind := excerpt.behind
  position := excerpt.position
  counted := excerpt.counted
  groups := List.length_set.trans excerpt.groups
  room := excerpt.room.trans_eq List.length_set.symm
  spans i := by
    have groups := excerpt.groups
    have room := excerpt.room
    rw [MatchState.span?_remember (by omega) (by omega),
      MatchState.span?_remember positive (by omega), excerpt.spans, excerpt.position]
    by_cases same : i = index
    · rw [if_pos same, if_pos (by omega)]
      rfl
    · rw [if_neg same, if_neg (by omega)]
  stops i span found := by
    rw [MatchState.span?_remember positive (by rw [excerpt.groups]; exact own)] at found
    split at found
    · cases found
      exact Nat.le_refl _
    · exact excerpt.stops i span found

theorem longer (excerpt : Excerpt n k m rest st st') :
    st.cursor.ahead.length ≤ st'.cursor.ahead.length := by
  rw [excerpt.ahead, List.length_append]
  exact Nat.le_add_right _ _

/-- What a group has matched is the same text. -/
theorem between (excerpt : Excerpt n k m rest st st') {i : Nat} {span : Span}
    (found : span ∈ st.span? i) : st'.between (span.further n) = st.between span := by
  have stop := excerpt.stops i span found
  obtain ⟨front, behind⟩ := excerpt.behind
  have inside : st.cursor.position - span.start ≤ st.cursor.behind.length := by
    rw [excerpt.counted]
    exact Nat.sub_le _ _
  simp only [MatchState.between, Span.further, excerpt.position, behind, Nat.add_sub_add_right,
    List.take_append_of_le_length inside, Nat.sub_eq_zero_of_le stop, List.take_zero]

end Excerpt

/-! ### Staying before what lies behind -/

def before (rest : List Char) (st : MatchState) : Bool := rest.length ≤ st.cursor.ahead.length

theorem Excerpt.before (excerpt : Excerpt n k m rest st st') : before rest st' := by
  simp [Pattern.before, excerpt.ahead]

theorem before_of_passes {last : MatchState} {w : List Char} (passes : st.cursor.Passes w last.cursor)
    (late : before rest last) : before rest st := by
  simp only [before, passes.ahead, List.length_append, decide_eq_true_eq] at late ⊢
  omega

theorem filter_flatMap {xs : List MatchState} {f : MatchState → List MatchState}
    (advances : Advances f) :
    (xs.flatMap f).filter (before rest) =
      (xs.filter (before rest)).flatMap fun st => (f st).filter (before rest) := by
  induction xs with
  | nil => rfl
  | cons st xs ih =>
    rw [List.flatMap_cons, List.filter_append, ih, List.filter_cons]
    split
    · rfl
    · rename_i late
      have none : (f st).filter (before rest) = [] := by
        refine List.filter_eq_nil_iff.mpr fun last member found => late ?_
        obtain ⟨w, passes⟩ := advances st last member
        exact before_of_passes passes found
      rw [none, List.nil_append]

/-- The ways to match in a stretch are those to match in the whole text which stay in the stretch. -/
def Framed (n k m : Nat) (rest : List Char) (xs ys : List MatchState) : Prop :=
  List.Forall₂ (Excerpt n k m rest) xs (ys.filter (before rest))

/-- Every way to match in the whole text that stays in a stretch is one to match in the stretch. -/
def Covered (n k m : Nat) (rest : List Char) (xs ys : List MatchState) : Prop :=
  ∀ y ∈ ys, before rest y → ∃ x ∈ xs, Excerpt n k m rest x y

theorem Framed.covered {xs ys : List MatchState} (framed : Framed n k m rest xs ys) :
    Covered n k m rest xs ys := by
  intro y member late
  obtain ⟨x, found, excerpt⟩ :=
    (exists_of_forall₂ framed).2 y (List.mem_filter.mpr ⟨member, late⟩)
  exact ⟨x, found, excerpt⟩

theorem framed_of_forall₂ {xs ys : List MatchState}
    (related : List.Forall₂ (Excerpt n k m rest) xs ys) : Framed n k m rest xs ys := by
  have all : ys.filter (before rest) = ys := by
    refine List.filter_eq_self.mpr fun y member => ?_
    obtain ⟨x, _, excerpt⟩ := (exists_of_forall₂ related).2 y member
    exact excerpt.before
  rwa [Framed, all]

theorem findSome?_filter {α β : Type} {p : α → Bool} {f : α → Option β} {xs : List α}
    (none : ∀ x ∈ xs, ¬ p x → f x = none) : (xs.filter p).findSome? f = xs.findSome? f := by
  induction xs with
  | nil => rfl
  | cons x xs ih =>
    obtain ⟨here, rests⟩ := List.forall_mem_cons.mp none
    rw [List.filter_cons, List.findSome?_cons, ← ih rests]
    split
    · rw [List.findSome?_cons]
    · rename_i outside
      rw [here outside]

/-- Searching both lists for the same comes to the same, if there is nothing to find where a match has
gone on into what lies behind. -/
theorem Framed.findSome?_eq {α : Type} {f f' : MatchState → Option α} {xs ys : List MatchState}
    (framed : Framed n k m rest xs ys)
    (same : ∀ x ∈ xs, ∀ y ∈ ys, Excerpt n k m rest x y → f x = f' y)
    (late : ∀ y ∈ ys, ¬ before rest y → f' y = none) : xs.findSome? f = ys.findSome? f' := by
  rw [← findSome?_filter late]
  have inside : ∀ y ∈ ys.filter (before rest), y ∈ ys := fun y member => (List.mem_filter.mp member).1
  unfold Framed at framed
  generalize ys.filter (before rest) = zs at framed inside
  induction framed with
  | nil => rfl
  | cons here _ ih =>
    rw [List.findSome?_cons, List.findSome?_cons,
      same _ List.mem_cons_self _ (inside _ List.mem_cons_self) here,
      ih (fun x member => same x (.tail _ member)) fun y member => inside y (.tail _ member)]

theorem lifts_framed : Lifts (Excerpt n k m rest) (Framed n k m rest) where
  nil := .nil
  single excerpt := framed_of_forall₂ (.cons excerpt .nil)
  append first second := by
    rw [Framed, List.filter_append]
    exact List.rel_append first second
  flatMap advances lists bodies := by
    rw [Framed, filter_flatMap advances]
    exact List.rel_flatMap lists fun _ _ excerpt => bodies excerpt

theorem lifts_covered : Lifts (Excerpt n k m rest) (Covered n k m rest) where
  nil := nofun
  single {st st'} excerpt y member _ := by
    obtain rfl := List.mem_singleton.mp member
    exact ⟨st, List.mem_singleton_self st, excerpt⟩
  append first second y member late := by
    obtain front | back := List.mem_append.mp member
    · obtain ⟨x, found, excerpt⟩ := first y front late
      exact ⟨x, List.mem_append_left _ found, excerpt⟩
    · obtain ⟨x, found, excerpt⟩ := second y back late
      exact ⟨x, List.mem_append_right _ found, excerpt⟩
  flatMap advances lists bodies y member late := by
    obtain ⟨next', before', after⟩ := List.mem_flatMap.mp member
    obtain ⟨w, passes⟩ := advances next' y after
    obtain ⟨next, found, excerpt⟩ := lists next' before' (before_of_passes passes late)
    obtain ⟨x, reached, last⟩ := bodies excerpt y after late
    exact ⟨x, List.mem_flatMap.mpr ⟨next, found, reached⟩, last⟩

/-! ### One pattern in a stretch and in the whole text -/

/-- At its end, a stretch has no way to match that goes on into what lies behind. -/
theorem framed_nil {ys : List MatchState} (ended : st'.cursor.ahead = rest)
    (further : ∀ last ∈ ys, ∃ c w, st'.cursor.Passes (c :: w) last.cursor) :
    Framed n k m rest [] ys := by
  have none : ys.filter (before rest) = [] := by
    refine List.filter_eq_nil_iff.mpr fun last member late => ?_
    obtain ⟨c, w, passes⟩ := further last member
    have longer := congrArg List.length passes.ahead
    rw [ended, List.length_append, List.length_cons] at longer
    simp only [before, decide_eq_true_eq] at late
    omega
  rw [Framed, none]
  exact .nil

theorem oneOutcomes_framed (set : CharSet) (excerpt : Excerpt n k m rest st st') :
    Framed n k m rest (oneOutcomes set st) (oneOutcomes set st') := by
  have ahead' := excerpt.ahead
  cases ahead : st.cursor.ahead with
  | cons c cs =>
    rw [ahead, List.cons_append] at ahead'
    simp only [oneOutcomes, ahead, ahead']
    split
    · exact lifts_framed.single (excerpt.pass c cs)
    · exact lifts_framed.nil
  | nil =>
    rw [ahead, List.nil_append] at ahead'
    have stuck : oneOutcomes set st = [] := by simp [oneOutcomes, ahead]
    rw [stuck]
    refine framed_nil ahead' fun last member => ?_
    simp only [oneOutcomes] at member
    split at member
    · cases member
    · rename_i c cs here
      split at member
      · obtain rfl := List.mem_singleton.mp member
        exact ⟨c, [], Cursor.passes_of_ahead here⟩
      · cases member

theorem textOutcomes_framed (fold : Fold) (text : List Char) (excerpt : Excerpt n k m rest st st') :
    Framed n k m rest (textOutcomes fold text st) (textOutcomes fold text st') := by
  induction text generalizing st st' with
  | nil => exact lifts_framed.single excerpt
  | cons t text ih =>
    have ahead' := excerpt.ahead
    cases ahead : st.cursor.ahead with
    | cons c cs =>
      rw [ahead, List.cons_append] at ahead'
      simp only [textOutcomes, ahead, ahead']
      split
      · exact ih (excerpt.pass c cs)
      · exact lifts_framed.nil
    | nil =>
      rw [ahead, List.nil_append] at ahead'
      have stuck : textOutcomes fold (t :: text) st = [] := by simp [textOutcomes, ahead]
      rw [stuck]
      refine framed_nil ahead' fun last member => ?_
      simp only [textOutcomes] at member
      split at member
      · cases member
      · rename_i c cs here
        split at member
        · have first : st'.cursor.Passes [c] _ := Cursor.passes_of_ahead here
          obtain ⟨w, passes⟩ := advances_text fold text _ last member
          exact ⟨c, w, first.trans passes⟩
        · cases member

section Lists

variable {L : List MatchState → List MatchState → Prop} (lifts : Lifts (Excerpt n k m rest) L)
include lifts

section Rounds

variable {f g : MatchState → List MatchState} (advances : Advances f) (advances' : Advances g)
  (bodies : ∀ {st st'}, Excerpt n k m rest st st' → L (f st) (g st'))
include advances advances' bodies

theorem moreOutcomes_excerpt (low : Nat) (high : Option Nat) (excerpt : Excerpt n k m rest st st') :
    L (moreOutcomes f (roundsLeft low high st) none st)
      (moreOutcomes g (roundsLeft low high st') none st') := by
  have related := moreOutcomes_lift Excerpt.position lifts advances' bodies
    (roundsLeft low high st') none excerpt
  obtain same | ⟨enough, le⟩ := roundsLeft_of_le excerpt.longer low high
  · rwa [same] at related ⊢
  · rwa [moreOutcomes_of_le advances enough le] at related

theorem fewerOutcomes_excerpt (low : Nat) (high : Option Nat) (excerpt : Excerpt n k m rest st st') :
    L (fewerOutcomes f (roundsLeft low high st) none st)
      (fewerOutcomes g (roundsLeft low high st') none st') := by
  have related := fewerOutcomes_lift Excerpt.position lifts advances' bodies
    (roundsLeft low high st') none excerpt
  obtain same | ⟨enough, le⟩ := roundsLeft_of_le excerpt.longer low high
  · rwa [same] at related ⊢
  · rwa [fewerOutcomes_of_le advances enough le] at related

end Rounds

/-- A pattern in a stretch of a text and in the whole text, if the same holds where it settles on
something. -/
theorem outcomes_excerpt {Settled : Pattern → Prop}
    (framed : ∀ {xs ys}, Framed n k m rest xs ys → L xs ys)
    (settles : ∀ {body : Pattern} {st st'}, Settled body → body.Guarded Settled →
      (∀ i ∈ body.numbers, 0 < i ∧ i ≤ m) →
      (∀ {st st'}, Excerpt n k m rest st st' → L (body.outcomes st) ((body.shift k).outcomes st')) →
      Excerpt n k m rest st st' →
      L ((atomic body).outcomes st) ((atomic (body.shift k)).outcomes st') ∧
        ∀ low high, L ((again low high .possessive body).outcomes st)
          ((again low high .possessive (body.shift k)).outcomes st'))
    {p : Pattern} (guarded : p.Guarded Settled) (numbered : ∀ i ∈ p.numbers, 0 < i ∧ i ≤ m)
    (excerpt : Excerpt n k m rest st st') : L (p.outcomes st) ((p.shift k).outcomes st') := by
  induction p generalizing st st' with
  | empty => exact lifts.single excerpt
  | one set => exact framed (oneOutcomes_framed set excerpt)
  | anchor | look => exact guarded.elim
  | seq first rest first_ih rest_ih =>
    obtain ⟨firstNumbered, restNumbered⟩ := List.forall_mem_append.mp numbered
    exact lifts.flatMap (advances_outcomes _) (first_ih guarded.1 firstNumbered excerpt)
      fun next => rest_ih guarded.2 restNumbered next
  | alt left right left_ih right_ih =>
    obtain ⟨leftNumbered, rightNumbered⟩ := List.forall_mem_append.mp numbered
    exact lifts.append (left_ih guarded.1 leftNumbered excerpt)
      (right_ih guarded.2 rightNumbered excerpt)
  | group index body ih =>
    obtain ⟨⟨positive, own⟩, inside⟩ := List.forall_mem_cons.mp numbered
    have still : Advances fun last =>
        [last.remember (index + k) ⟨st'.cursor.position, last.cursor.position⟩] := by
      intro st last member
      obtain rfl := List.mem_singleton.mp member
      exact ⟨[], .refl _⟩
    simp only [shift, outcomes, List.map_eq_flatMap]
    refine lifts.flatMap still (ih guarded inside excerpt) fun last => lifts.single ?_
    rw [excerpt.position]
    exact last.remember positive own _
  | again low high manner body ih =>
    have bodies : ∀ {st st'}, Excerpt n k m rest st st' →
        L (body.outcomes st) ((body.shift k).outcomes st') := fun excerpt =>
      ih guarded.2 numbered excerpt
    have advances := advances_outcomes body
    have advances' := advances_outcomes (body.shift k)
    cases manner with
    | greedy =>
      exact lifts.flatMap (fun st => advances'.more _ _ st)
        (roundsOutcomes_lift lifts advances' bodies low excerpt)
        fun next => moreOutcomes_excerpt lifts advances advances' bodies low high next
    | lazy =>
      exact lifts.flatMap (fun st => advances'.fewer _ _ st)
        (roundsOutcomes_lift lifts advances' bodies low excerpt)
        fun next => fewerOutcomes_excerpt lifts advances advances' bodies low high next
    | possessive => exact (settles (guarded.1 rfl) guarded.2 numbered bodies excerpt).2 low high
  | atomic body ih =>
    have bodies : ∀ {st st'}, Excerpt n k m rest st st' →
        L (body.outcomes st) ((body.shift k).outcomes st') := fun excerpt =>
      ih guarded.2 numbered excerpt
    exact (settles guarded.1 guarded.2 numbered bodies excerpt).1
  | back index fold =>
    simp only [shift, outcomes, excerpt.spans]
    cases found : st.span? index with
    | none => exact lifts.nil
    | some span =>
      simp only [Option.map_some, excerpt.between found]
      exact framed (textOutcomes_framed fold _ excerpt)
  | cond index yes no yes_ih no_ih =>
    obtain ⟨yesNumbered, noNumbered⟩ := List.forall_mem_append.mp numbered
    simp only [shift, outcomes, excerpt.spans, Option.isSome_map]
    split
    · exact yes_ih guarded.1 yesNumbered excerpt
    · exact no_ih guarded.2 noNumbered excerpt

end Lists

/-- What is settled on first in a stretch is the same in the whole text, if only ways that stay in the
stretch are there. -/
theorem settles_framed {f g : MatchState → List MatchState} (advances : Advances f)
    (bodies : ∀ {st st'}, Excerpt n k m rest st st' →
      List.Forall₂ (Excerpt n k m rest) (f st) (g st'))
    (low : Nat) (high : Option Nat) (excerpt : Excerpt n k m rest st st') :
    Option.Rel (Excerpt n k m rest)
      ((settledOutcome? f low st).map fun st => lastOutcome f (roundsLeft low high st) none st)
      ((settledOutcome? g low st').map fun st => lastOutcome g (roundsLeft low high st) none st) := by
  have settled := settledOutcome?_lift bodies low excerpt
  generalize settledOutcome? f low st = x at settled
  generalize settledOutcome? g low st' = y at settled
  cases settled with
  | none => exact .none
  | @some last last' next =>
    refine .some ?_
    dsimp only
    have related := lastOutcome_lift Excerpt.position bodies (roundsLeft low high last') none next
    obtain same | ⟨enough, le⟩ := roundsLeft_of_le next.longer low high
    · rwa [same] at related ⊢
    · rwa [lastOutcome_of_le advances enough le] at related

/-- A pattern that settles on texts without blanks matches in a stretch as it does in the whole text,
as far as the stretch goes, if a blank comes next or nothing does. -/
theorem outcomes_framed (edge : Text.Edge rest) {p : Pattern} (exact : p.Exact)
    (numbered : ∀ i ∈ p.numbers, 0 < i ∧ i ≤ m) (excerpt : Excerpt n k m rest st st') :
    Framed n k m rest (p.outcomes st) ((p.shift k).outcomes st') := by
  refine outcomes_excerpt lifts_framed id ?_ exact numbered excerpt
  intro body st st' solid _ _ framed excerpt
  have bodies : ∀ {st st'}, Excerpt n k m rest st st' →
      List.Forall₂ (Excerpt n k m rest) (body.outcomes st) ((body.shift k).outcomes st') := by
    intro st st' excerpt
    have all : ((body.shift k).outcomes st').filter (before rest) = (body.shift k).outcomes st' := by
      refine List.filter_eq_self.mpr fun last member => ?_
      obtain ⟨w, passes, solid⟩ := exists_passes_solid ((solid_shift k).mpr solid) member
      have split := passes.ahead.symm.trans excerpt.ahead
      obtain ⟨u, _, ahead⟩ := solid.of_append edge split
      simp [before, ahead]
    rw [← all]
    exact framed excerpt
  refine ⟨?_, fun low high => ?_⟩
  · exact framed_of_forall₂ (forall₂_toList (rel_head? (bodies excerpt)))
  · exact framed_of_forall₂
      (forall₂_toList (settles_framed (advances_outcomes body) bodies low high excerpt))

/-! ### What is settled on -/

section Settled

variable {f g : MatchState → List MatchState} (advances : Advances f) (advances' : Advances g)
  (bodies : ∀ {st st'}, Excerpt n k m rest st st' → Framed n k m rest (f st) (g st'))

theorem Framed.head? {xs ys : List MatchState} (framed : Framed n k m rest xs ys) {y : MatchState}
    (first : ys.head? = some y) (late : before rest y) :
    ∃ x, xs.head? = some x ∧ Excerpt n k m rest x y := by
  cases ys with
  | nil => cases first
  | cons z ys =>
    obtain rfl := Option.some.inj first
    rw [Framed, List.filter_cons_of_pos late] at framed
    cases framed with
    | cons here _ => exact ⟨_, rfl, here⟩

theorem Framed.head?_none {xs ys : List MatchState} (framed : Framed n k m rest xs ys)
    (none : ys.head? = none) : xs.head? = .none := by
  rw [List.head?_eq_none_iff] at none
  subst none
  cases framed
  rfl

include advances' bodies

theorem settledOutcome?_covered (low : Nat) {last' : MatchState}
    (excerpt : Excerpt n k m rest st st') (settled : settledOutcome? g low st' = some last')
    (late : before rest last') :
    ∃ last, settledOutcome? f low st = some last ∧ Excerpt n k m rest last last' := by
  induction low generalizing st st' with
  | zero =>
    obtain rfl := Option.some.inj settled
    exact ⟨st, rfl, excerpt⟩
  | succ low ih =>
    obtain ⟨next', first, others⟩ := Option.bind_eq_some_iff.mp settled
    obtain ⟨w, passes⟩ := advances'.settled others
    obtain ⟨next, found, related⟩ :=
      (bodies excerpt).head? first (before_of_passes passes late)
    obtain ⟨last, reached, final⟩ := ih related others
    exact ⟨last, Option.bind_eq_some_iff.mpr ⟨next, found, reached⟩, final⟩

theorem lastOutcome_covered (rounds : Nat) (began : Option Nat)
    (excerpt : Excerpt n k m rest st st')
    (late : before rest (lastOutcome g rounds (began.map (· + n)) st')) :
    Excerpt n k m rest (lastOutcome f rounds began st)
      (lastOutcome g rounds (began.map (· + n)) st') := by
  induction rounds generalizing began st st' with
  | zero => exact excerpt
  | succ rounds ih =>
    simp only [lastOutcome, began_iff Excerpt.position excerpt] at late ⊢
    split
    · exact excerpt
    · rename_i further
      rw [if_neg further] at late
      cases first : (g st').head? with
      | none =>
        rw [(bodies excerpt).head?_none first]
        exact excerpt
      | some next' =>
        rw [first] at late
        dsimp only at late
        obtain ⟨w, passes⟩ := advances'.last rounds (some st'.cursor.position) next'
        obtain ⟨next, found, related⟩ :=
          (bodies excerpt).head? first (before_of_passes passes late)
        rw [found]
        rw [excerpt.position] at late ⊢
        exact ih (some st.cursor.position) related late

include advances

/-- What is settled on in the whole text is what is settled on in a stretch, if it does not go on into
what lies behind. -/
theorem settles_covered (low : Nat) (high : Option Nat) (excerpt : Excerpt n k m rest st st') :
    Covered n k m rest
      ((settledOutcome? f low st).map fun st => lastOutcome f (roundsLeft low high st) none st).toList
      ((settledOutcome? g low st').map fun st =>
        lastOutcome g (roundsLeft low high st) none st).toList := by
  intro y member late
  obtain ⟨next', settled, rfl⟩ := Option.map_eq_some_iff.mp (Option.mem_toList.mp member)
  obtain ⟨w, passes⟩ := advances'.last (roundsLeft low high next') none next'
  obtain ⟨next, found, related⟩ := settledOutcome?_covered advances' bodies low excerpt settled
    (before_of_passes passes late)
  have final := lastOutcome_covered advances' bodies (roundsLeft low high next') none related late
  refine ⟨_, Option.mem_toList.mpr (Option.map_eq_some_iff.mpr ⟨next, found, rfl⟩), ?_⟩
  obtain same | ⟨enough, le⟩ := roundsLeft_of_le related.longer low high
  · rwa [same] at final ⊢
  · rwa [lastOutcome_of_le advances enough le] at final

end Settled

/-- Every way in which a pattern matches in a text and does not go on beyond a stretch is one in which
it matches in the stretch, if it passes no blanks where it settles on something inside of what it
settles on, and if a blank comes next or nothing does. -/
theorem outcomes_covered (edge : Text.Edge rest) {p : Pattern} (shallow : p.Shallow)
    (numbered : ∀ i ∈ p.numbers, 0 < i ∧ i ≤ m) (excerpt : Excerpt n k m rest st st') :
    Covered n k m rest (p.outcomes st) ((p.shift k).outcomes st') := by
  refine outcomes_excerpt lifts_covered Framed.covered ?_ shallow numbered excerpt
  intro body st st' exact _ inside _ excerpt
  have bodies : ∀ {st st'}, Excerpt n k m rest st st' →
      Framed n k m rest (body.outcomes st) ((body.shift k).outcomes st') := fun excerpt =>
    outcomes_framed edge exact inside excerpt
  refine ⟨fun y member late => ?_, fun low high => ?_⟩
  · obtain ⟨x, first, related⟩ := (bodies excerpt).head? (Option.mem_toList.mp member) late
    exact ⟨x, Option.mem_toList.mpr first, related⟩
  · exact settles_covered (advances_outcomes body) (advances_outcomes _) bodies low high excerpt

/-! ### Texts that are matched by themselves -/

/-- A text with what lies behind it, as a stretch where no group of its own has matched. -/
theorem excerpt_start {text : List Char} (split : st'.cursor.ahead = text ++ rest)
    (room : m + k ≤ st'.spans.length) (fresh : ∀ i, st'.span? (i + k) = none) :
    Excerpt st'.cursor.position k m rest ⟨.start text, List.replicate m none⟩ st' where
  ahead := split
  behind := ⟨_, rfl⟩
  position := (Nat.zero_add _).symm
  counted := rfl
  groups := List.length_replicate
  room := room
  spans i := by rw [fresh, MatchState.span?_replicate, Option.map_none]
  stops i span found := by
    rw [MatchState.span?_replicate] at found
    cases found

end Pattern

namespace Expression
open Pattern

variable {flags : PatternFlags} {source : String} {e : Expression}
  (read : Expression.read flags source = .ok e) {k : Nat} {st : MatchState} {text rest : List Char}
  (split : st.cursor.ahead = text ++ rest) (edge : Text.Edge rest)
  (room : e.groups + k ≤ st.spans.length) (fresh : ∀ i, st.span? (i + k) = none)
include read split edge room fresh

omit split edge room fresh in
theorem number_bounds : ∀ i ∈ e.pattern.numbers, 0 < i ∧ i ≤ e.groups := by
  intro i member
  rw [numbers_of_read read, List.mem_range'_1] at member
  omega

/-- What an expression matches up to a blank or the end of a text, it matches by itself. -/
theorem fullMatches_of_mem (shallow : e.pattern.Shallow) {last : MatchState}
    (member : last ∈ (e.pattern.shift k).outcomes st) (left : last.cursor.ahead = rest) :
    e.fullMatches text := by
  have late : before rest last := by simp [before, left]
  obtain ⟨alone, found, excerpt⟩ := outcomes_covered edge shallow (number_bounds read)
    (excerpt_start split room fresh) last member late
  refine fullMatches_iff_mem.mpr ⟨alone, found, ?_⟩
  have ahead := excerpt.ahead
  rwa [left, List.self_eq_append_left] at ahead

/-- An expression matches by itself what it can match up to a blank or the end of a text. -/
theorem fullMatches_iff_exists (exact : e.pattern.Exact) :
    e.fullMatches text ↔ ∃ last ∈ (e.pattern.shift k).outcomes st, last.cursor.ahead = rest := by
  have framed := outcomes_framed edge exact (number_bounds read) (excerpt_start split room fresh)
  rw [fullMatches_iff_mem]
  constructor
  · rintro ⟨alone, found, ended⟩
    obtain ⟨last, member, excerpt⟩ := (exists_of_forall₂ framed).1 alone found
    exact ⟨last, (List.mem_filter.mp member).1, by rw [excerpt.ahead, ended, List.nil_append]⟩
  · rintro ⟨last, member, left⟩
    have late : before rest last := by simp [before, left]
    obtain ⟨alone, found, excerpt⟩ :=
      (exists_of_forall₂ framed).2 last (List.mem_filter.mpr ⟨member, late⟩)
    have ahead := excerpt.ahead
    rw [left, List.self_eq_append_left] at ahead
    exact ⟨alone, found, ahead⟩

omit split room fresh in
/-- What an expression that looks at nothing but the text ahead leaves in front of a blank or the end of
a text. -/
theorem leaves_iff (onward : e.pattern.Within Construct.Onward) (exact : e.pattern.Exact) :
    e.pattern.Leaves (text ++ rest) rest ↔ e.fullMatches text := by
  let start : MatchState := ⟨.start (text ++ rest), List.replicate e.groups none⟩
  have split : start.cursor.ahead = text ++ rest := rfl
  have room : e.groups + 0 ≤ start.spans.length := List.length_replicate.ge
  have whole := fullMatches_iff_exists read split edge room (MatchState.span?_replicate _ _) exact
  exact (reaches_shift onward 0 start rest).symm.trans whole.symm

end Expression
end LineCommand
