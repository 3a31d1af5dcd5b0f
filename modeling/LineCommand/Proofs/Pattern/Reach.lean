import Mathlib.Data.List.Forall2
import LineCommand.Proofs.Pattern.Language
import LineCommand.Proofs.Pattern.Splicing

/-! What patterns leave of the text ahead. A pattern that looks at nothing else leaves the same of it
wherever it stands, and whatever number its groups have; what patterns leave one after the other, or
in turn, is put together from what each of them leaves. -/
namespace LineCommand.Pattern

/-- A construct that looks at nothing but the text ahead, and goes on through it. -/
def Construct.Onward (c : Construct) : Prop := c = .group ∨ c = .atomic ∨ ∃ manner, c = .again manner

/-! ### The same ways to match -/

theorem rel_head? {α β : Type} {R : α → β → Prop} {xs : List α} {ys : List β}
    (related : List.Forall₂ R xs ys) : Option.Rel R xs.head? ys.head? := by
  cases related with
  | nil => exact .none
  | cons here _ => exact .some here

theorem exists_of_forall₂ {α β : Type} {R : α → β → Prop} {xs : List α} {ys : List β}
    (related : List.Forall₂ R xs ys) :
    (∀ x ∈ xs, ∃ y ∈ ys, R x y) ∧ ∀ y ∈ ys, ∃ x ∈ xs, R x y := by
  induction related with
  | nil => exact ⟨nofun, nofun⟩
  | cons here _ ih =>
    obtain ⟨left, right⟩ := ih
    refine ⟨List.forall_mem_cons.mpr ⟨⟨_, List.mem_cons_self, here⟩, fun x member => ?_⟩,
      List.forall_mem_cons.mpr ⟨⟨_, List.mem_cons_self, here⟩, fun y member => ?_⟩⟩
    · obtain ⟨y, found, there⟩ := left x member
      exact ⟨y, .tail _ found, there⟩
    · obtain ⟨x, found, there⟩ := right y member
      exact ⟨x, .tail _ found, there⟩

theorem forall₂_toList {α β : Type} {R : α → β → Prop} {x : Option α} {y : Option β}
    (related : Option.Rel R x y) : List.Forall₂ R x.toList y.toList := by
  cases related with
  | none => exact .nil
  | some here => exact .cons here .nil

/-- A relation of lists that comes from one of their members: what is made of related lists in the
same way is related again. -/
structure Lifts (R : MatchState → MatchState → Prop)
    (L : List MatchState → List MatchState → Prop) : Prop where
  nil : L [] []
  single : ∀ {st st'}, R st st' → L [st] [st']
  append : ∀ {xs xs' ys ys'}, L xs xs' → L ys ys' → L (xs ++ ys) (xs' ++ ys')
  flatMap : ∀ {xs xs' : List MatchState} {f g : MatchState → List MatchState}, Advances g →
    L xs xs' → (∀ {st st'}, R st st' → L (f st) (g st')) → L (xs.flatMap f) (xs'.flatMap g)

theorem lifts_forall₂ (R : MatchState → MatchState → Prop) : Lifts R (List.Forall₂ R) where
  nil := .nil
  single here := .cons here .nil
  append first rest := List.rel_append first rest
  flatMap _ lists bodies := List.rel_flatMap lists fun _ _ here => bodies here

section Rounds

variable {R : MatchState → MatchState → Prop} {n : Nat}
  (position : ∀ {st st'}, R st st' → st'.cursor.position = st.cursor.position + n)
  {f g : MatchState → List MatchState} {st st' : MatchState}
include position

theorem began_iff (related : R st st') (began : Option Nat) :
    began.map (· + n) = some st'.cursor.position ↔ began = some st.cursor.position := by
  rw [position related]
  cases began with
  | none => simp
  | some place => simp

section Lists

variable {L : List MatchState → List MatchState → Prop} (lifts : Lifts R L) (advances : Advances g)
  (bodies : ∀ {st st'}, R st st' → L (f st) (g st'))
include lifts advances bodies

omit position in
theorem roundsOutcomes_lift (m : Nat) (related : R st st') :
    L (roundsOutcomes f m st) (roundsOutcomes g m st') := by
  induction m generalizing st st' with
  | zero => exact lifts.single related
  | succ m ih => exact lifts.flatMap (advances.rounds m) (bodies related) ih

theorem moreOutcomes_lift (m : Nat) (began : Option Nat) (related : R st st') :
    L (moreOutcomes f m began st) (moreOutcomes g m (began.map (· + n)) st') := by
  induction m generalizing began st st' with
  | zero => exact lifts.single related
  | succ m ih =>
    simp only [moreOutcomes, began_iff position related]
    split
    · exact lifts.single related
    · refine lifts.append (lifts.flatMap (advances.more m _) (bodies related) fun next => ?_)
        (lifts.single related)
      rw [position related]
      exact ih (some st.cursor.position) next

theorem fewerOutcomes_lift (m : Nat) (began : Option Nat) (related : R st st') :
    L (fewerOutcomes f m began st) (fewerOutcomes g m (began.map (· + n)) st') := by
  induction m generalizing began st st' with
  | zero => exact lifts.single related
  | succ m ih =>
    have here : ∀ {xs xs'}, L xs xs' → L (st :: xs) (st' :: xs') :=
      fun rest => lifts.append (lifts.single related) rest
    simp only [fewerOutcomes, began_iff position related]
    refine here ?_
    split
    · exact lifts.nil
    · refine lifts.flatMap (advances.fewer m _) (bodies related) fun next => ?_
      rw [position related]
      exact ih (some st.cursor.position) next

end Lists

variable (bodies : ∀ {st st'}, R st st' → List.Forall₂ R (f st) (g st'))
include bodies

omit position in
theorem settledOutcome?_lift (m : Nat) (related : R st st') :
    Option.Rel R (settledOutcome? f m st) (settledOutcome? g m st') := by
  induction m generalizing st st' with
  | zero => exact .some related
  | succ m ih =>
    have first := rel_head? (bodies related)
    simp only [settledOutcome?]
    generalize (f st).head? = x at first
    generalize (g st').head? = y at first
    cases first with
    | none => exact .none
    | some next => exact ih next

theorem lastOutcome_lift (m : Nat) (began : Option Nat) (related : R st st') :
    R (lastOutcome f m began st) (lastOutcome g m (began.map (· + n)) st') := by
  induction m generalizing began st st' with
  | zero => exact related
  | succ m ih =>
    have first := rel_head? (bodies related)
    simp only [lastOutcome, began_iff position related]
    split
    · exact related
    · generalize (f st).head? = x at first
      generalize (g st').head? = y at first
      cases first with
      | none => exact related
      | some next =>
        rw [position related]
        exact ih (some st.cursor.position) next

end Rounds

/-! ### The same text at another place -/

/-- Two states with the same text ahead, the second one `n` characters further on. -/
structure Alike (n : Nat) (st st' : MatchState) : Prop where
  ahead : st'.cursor.ahead = st.cursor.ahead
  position : st'.cursor.position = st.cursor.position + n

variable {n : Nat} {st st' : MatchState}

theorem Alike.roundsLeft (alike : Alike n st st') (low : Nat) (high : Option Nat) :
    roundsLeft low high st' = roundsLeft low high st := by
  simp only [Pattern.roundsLeft, alike.ahead]

/-- A pattern that goes on through the text ahead can be matched in the same ways wherever that text
lies, behind any number of groups. -/
theorem outcomes_alike {p : Pattern} (onward : p.Within Construct.Onward) (k : Nat)
    (alike : Alike n st st') :
    List.Forall₂ (Alike n) (p.outcomes st) ((p.shift k).outcomes st') := by
  induction p generalizing st st' with
  | empty => exact .cons alike .nil
  | one set =>
    simp only [shift, outcomes, oneOutcomes, alike.ahead]
    split
    · exact .nil
    · split
      · refine .cons ⟨rfl, ?_⟩ .nil
        rw [alike.position, Nat.add_right_comm]
      · exact .nil
  | seq first rest first_ih rest_ih =>
    have parts := List.forall_mem_append.mp onward
    exact List.rel_flatMap (first_ih parts.1 alike) fun _ _ next => rest_ih parts.2 next
  | alt left right left_ih right_ih =>
    have parts := List.forall_mem_append.mp onward
    exact List.rel_append (left_ih parts.1 alike) (right_ih parts.2 alike)
  | group index body ih =>
    have inner := (List.forall_mem_cons.mp onward).2
    exact List.rel_map (fun _ _ last => ⟨last.ahead, last.position⟩) (ih inner alike)
  | again low high manner body ih =>
    have inner := (List.forall_mem_cons.mp onward).2
    have bodies : ∀ {st st'}, Alike n st st' →
        List.Forall₂ (Alike n) (body.outcomes st) ((body.shift k).outcomes st') := fun alike =>
      ih inner alike
    have advances := advances_outcomes (body.shift k)
    have lifts := lifts_forall₂ (Alike n)
    cases manner with
    | greedy =>
      refine lifts.flatMap (fun st => advances.more _ _ st)
        (roundsOutcomes_lift lifts advances bodies low alike) fun same => ?_
      rw [same.roundsLeft]
      exact moreOutcomes_lift Alike.position lifts advances bodies _ none same
    | lazy =>
      refine lifts.flatMap (fun st => advances.fewer _ _ st)
        (roundsOutcomes_lift lifts advances bodies low alike) fun same => ?_
      rw [same.roundsLeft]
      exact fewerOutcomes_lift Alike.position lifts advances bodies _ none same
    | possessive =>
      have settled := settledOutcome?_lift bodies low alike
      simp only [shift, outcomes]
      generalize settledOutcome? body.outcomes low st = x at settled
      generalize settledOutcome? (body.shift k).outcomes low st' = y at settled
      cases settled with
      | none => exact .nil
      | some same =>
        refine .cons ?_ .nil
        dsimp only
        rw [same.roundsLeft]
        exact lastOutcome_lift Alike.position bodies _ none same
  | atomic body ih =>
    have inner := (List.forall_mem_cons.mp onward).2
    exact forall₂_toList (rel_head? (ih inner alike))
  | anchor | look | back | cond =>
    exact absurd (onward _ List.mem_cons_self) (by simp [Construct.Onward])

/-! ### What is left -/

/-- What a pattern may leave of a text that it starts. -/
def Leaves (p : Pattern) (text rest : List Char) : Prop :=
  ∃ last ∈ p.outcomes ⟨.start text, []⟩, last.cursor.ahead = rest

theorem Leaves.exists_front {p : Pattern} {text rest : List Char} (leaves : p.Leaves text rest) :
    ∃ w, text = w ++ rest := by
  obtain ⟨last, member, rfl⟩ := leaves
  obtain ⟨w, passes⟩ := exists_passes member
  exact ⟨w, passes.ahead⟩

/-- Of the text ahead, and by nothing else, a pattern leaves what `R` says. -/
def Reaches (p : Pattern) (R : List Char → List Char → Prop) : Prop :=
  ∀ st rest, (∃ last ∈ p.outcomes st, last.cursor.ahead = rest) ↔ R st.cursor.ahead rest

theorem reaches_shift {p : Pattern} (onward : p.Within Construct.Onward) (k : Nat) :
    (p.shift k).Reaches p.Leaves := by
  intro st rest
  have alike : Alike st.cursor.position ⟨.start st.cursor.ahead, []⟩ st :=
    ⟨rfl, (Nat.zero_add _).symm⟩
  have same := outcomes_alike onward k alike
  have left : (p.outcomes ⟨.start st.cursor.ahead, []⟩).map (·.cursor.ahead) =
      ((p.shift k).outcomes st).map (·.cursor.ahead) := by
    rw [← List.forall₂_eq_eq_eq, List.forall₂_map_left_iff, List.forall₂_map_right_iff]
    exact same.imp fun _ _ pair => pair.ahead.symm
  rw [Leaves, ← List.mem_map, ← left, List.mem_map]

theorem outcomes_optional (p : Pattern) (st : MatchState) :
    (again 0 (some 1) .greedy p).outcomes st = p.outcomes st ++ [st] := by
  have room : roundsLeft 0 (some 1) st = 1 := by simp [roundsLeft]
  simp [outcomes, roundsOutcomes, room, moreOutcomes, List.flatMap_singleton']

section Reaches

variable {p q : Pattern} {R S : List Char → List Char → Prop}

theorem Reaches.congr (reaches : p.Reaches R) (same : ∀ text rest, R text rest ↔ S text rest) :
    p.Reaches S := fun st rest => (reaches st rest).trans (same _ rest)

theorem reaches_empty : empty.Reaches fun text rest => rest = text := by
  intro st rest
  simp [outcomes, eq_comm]

theorem reaches_anchor_lastLineEnd :
    (anchor .lastLineEnd).Reaches fun text rest => (text = [] ∨ text = ['\n']) ∧ rest = text := by
  intro st rest
  simp only [outcomes, Anchor.holds, Bool.or_eq_true, List.isEmpty_iff, beq_iff_eq]
  split
  · rename_i ended
    simp [ended, eq_comm]
  · rename_i inside
    simp [inside]

theorem Reaches.seq (first : p.Reaches R) (second : q.Reaches S) :
    (seq p q).Reaches fun text rest => ∃ mid, R text mid ∧ S mid rest := by
  intro st rest
  constructor
  · rintro ⟨last, member, left⟩
    obtain ⟨next, before, after⟩ := List.mem_flatMap.mp member
    exact ⟨next.cursor.ahead, (first st _).mp ⟨next, before, rfl⟩,
      (second next rest).mp ⟨last, after, left⟩⟩
  · rintro ⟨mid, before, after⟩
    obtain ⟨next, found, rfl⟩ := (first st mid).mpr before
    obtain ⟨last, reached, left⟩ := (second next rest).mpr after
    exact ⟨last, List.mem_flatMap.mpr ⟨next, found, reached⟩, left⟩

theorem Reaches.cons {ps : List Pattern} (first : p.Reaches R) (rest : (sequence ps).Reaches S) :
    (sequence (p :: ps)).Reaches fun text rest => ∃ mid, R text mid ∧ S mid rest :=
  first.seq rest

theorem Reaches.single (reaches : p.Reaches R) : (sequence [p]).Reaches R :=
  (reaches.seq reaches_empty).congr fun _ _ => exists_eq_right'

theorem Reaches.alt (left : p.Reaches R) (right : q.Reaches S) :
    (alt p q).Reaches fun text rest => R text rest ∨ S text rest := by
  intro st rest
  dsimp only
  rw [← left st rest, ← right st rest, ← exists_or]
  refine exists_congr fun last => ?_
  rw [outcomes, List.mem_append, or_and_right]

theorem Reaches.group (body : p.Reaches R) (index : Nat) : (group index p).Reaches R := by
  intro st rest
  rw [← body st rest, outcomes]
  constructor
  · rintro ⟨last, member, left⟩
    obtain ⟨inner, found, rfl⟩ := List.mem_map.mp member
    exact ⟨inner, found, left⟩
  · rintro ⟨inner, found, left⟩
    exact ⟨_, List.mem_map_of_mem found, left⟩

/-- What may be left out. -/
theorem Reaches.optional (body : p.Reaches R) :
    (again 0 (some 1) .greedy p).Reaches fun text rest => R text rest ∨ rest = text := by
  intro st rest
  dsimp only
  rw [outcomes_optional, ← body st rest]
  constructor
  · rintro ⟨last, member, left⟩
    obtain found | same := List.mem_append.mp member
    · exact .inl ⟨last, found, left⟩
    · obtain rfl := List.mem_singleton.mp same
      exact .inr left.symm
  · rintro (⟨last, found, left⟩ | rfl)
    · exact ⟨last, List.mem_append_left _ found, left⟩
    · exact ⟨st, List.mem_append_right _ (List.mem_singleton_self st), rfl⟩

theorem Reaches.ahead (body : p.Reaches R) :
    (look .ahead false p).Reaches fun text rest => (∃ last, R text last) ∧ rest = text := by
  intro st rest
  simp only [outcomes, Option.bind_some, Bool.false_eq_true, if_false]
  constructor
  · rintro ⟨last, member, left⟩
    obtain ⟨inner, first, rfl⟩ := Option.map_eq_some_iff.mp (Option.mem_toList.mp member)
    exact ⟨⟨_, (body st _).mp ⟨inner, List.mem_of_head? first, rfl⟩⟩, left.symm⟩
  · rintro ⟨⟨last, found⟩, rfl⟩
    obtain ⟨inner, member, _⟩ := (body st last).mpr found
    cases first : (p.outcomes st).head? with
    | none =>
      rw [List.head?_eq_none_iff.mp first] at member
      cases member
    | some inner => exact ⟨{ st with spans := inner.spans }, by simp, rfl⟩

theorem Reaches.isSome_run (reaches : p.Reaches R) {st : MatchState} :
    (p.run some st).isSome ↔ ∃ rest, R st.cursor.ahead rest := by
  rw [run_eq, findSome?_some, List.isSome_head?, Ne, List.eq_nil_iff_forall_not_mem, not_forall_not]
  constructor
  · rintro ⟨last, member⟩
    exact ⟨_, (reaches st _).mp ⟨last, member, rfl⟩⟩
  · rintro ⟨rest, left⟩
    obtain ⟨last, member, _⟩ := (reaches st rest).mpr left
    exact ⟨last, member⟩

theorem Reaches.exists_front (reaches : p.Reaches R) {text rest : List Char} (left : R text rest) :
    ∃ w, text = w ++ rest := by
  obtain ⟨last, member, rfl⟩ := (reaches ⟨.start text, []⟩ rest).mpr left
  obtain ⟨w, passes⟩ := exists_passes member
  exact ⟨w, passes.ahead⟩

/-- A regular pattern leaves what lies behind a text that it accepts. -/
theorem reaches_of_regular (regular : p.Within Construct.Regular) :
    p.Reaches fun text rest => ∃ w, p.Accepts w ∧ text = w ++ rest := by
  intro st rest
  constructor
  · rintro ⟨last, member, rfl⟩
    obtain ⟨w, accepts, passes⟩ := accepts_of_mem regular member
    exact ⟨w, accepts, passes.ahead⟩
  · rintro ⟨w, accepts, ahead⟩
    obtain ⟨last, member, reached⟩ := mem_of_accepts regular accepts (Cursor.passes_of_ahead ahead)
    exact ⟨last, member, by rw [reached]⟩

theorem outcomes_sequence_append (ps qs : List Pattern) : (sequence (ps ++ qs)).outcomes =
    fun st => ((sequence ps).outcomes st).flatMap (sequence qs).outcomes := by
  induction ps with
  | nil =>
    funext st
    exact (List.flatMap_singleton ..).symm
  | cons p ps ih =>
    funext st
    change (p.outcomes st).flatMap (sequence (ps ++ qs)).outcomes =
      ((p.outcomes st).flatMap (sequence ps).outcomes).flatMap (sequence qs).outcomes
    rw [ih, List.flatMap_assoc]

theorem Reaches.append {ps qs : List Pattern} (first : (sequence ps).Reaches R)
    (second : (sequence qs).Reaches S) :
    (sequence (ps ++ qs)).Reaches fun text rest => ∃ mid, R text mid ∧ S mid rest := by
  intro st rest
  rw [outcomes_sequence_append]
  exact first.seq second st rest

end Reaches

end LineCommand.Pattern
