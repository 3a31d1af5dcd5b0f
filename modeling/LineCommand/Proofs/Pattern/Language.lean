import LineCommand.Proofs.Pattern.Outcomes

/-! The texts that a pattern matches. A pattern of characters, groups and repetitions that give back
what they took matches a text whatever stands around it, and every way to match it at a place passes
such a text. -/
namespace LineCommand

namespace Cursor

/-- A place reached from another by passing a text. -/
structure Passes (c : Cursor) (text : List Char) (d : Cursor) : Prop where
  position : d.position = c.position + text.length
  behind : d.behind = text.reverse ++ c.behind
  ahead : c.ahead = text ++ d.ahead

variable {c d e : Cursor} {v w : List Char}

theorem Passes.refl (c : Cursor) : c.Passes [] c := ⟨rfl, rfl, rfl⟩

theorem Passes.trans (first : c.Passes v d) (second : d.Passes w e) : c.Passes (v ++ w) e where
  position := by rw [second.position, first.position, List.length_append, Nat.add_assoc]
  behind := by rw [second.behind, first.behind, List.reverse_append, List.append_assoc]
  ahead := by rw [first.ahead, second.ahead, List.append_assoc]

theorem Passes.unique (first : c.Passes w d) (second : c.Passes w e) : d = e := by
  have ahead : d.ahead = e.ahead := List.append_cancel_left (first.ahead.symm.trans second.ahead)
  have position : d.position = e.position := first.position.trans second.position.symm
  have behind : d.behind = e.behind := first.behind.trans second.behind.symm
  cases d
  cases e
  cases position
  cases behind
  cases ahead
  rfl

theorem passes_of_ahead {rest : List Char} (ahead : c.ahead = w ++ rest) :
    c.Passes w ⟨c.position + w.length, w.reverse ++ c.behind, rest⟩ :=
  ⟨rfl, rfl, ahead⟩

/-- What passes a text passes the parts of it in turn. -/
theorem Passes.split (passes : c.Passes (v ++ w) e) : ∃ d, c.Passes v d ∧ d.Passes w e := by
  have first := passes_of_ahead (passes.ahead.trans (List.append_assoc v w e.ahead))
  refine ⟨_, first, ?_, ?_, rfl⟩
  · rw [passes.position, List.length_append, Nat.add_assoc]
  · rw [passes.behind, List.reverse_append, List.append_assoc]

/-- A place reached by passing texts of a kind, one after the other. -/
structure Rounds (accepted : List Char → Prop) (c : Cursor) (texts : List (List Char))
    (d : Cursor) : Prop where
  each : ∀ v ∈ texts, accepted v
  passes : c.Passes texts.flatten d

variable {accepted : List Char → Prop} {vs ws : List (List Char)}

theorem Rounds.refl (c : Cursor) : c.Rounds accepted [] c := ⟨nofun, .refl c⟩

theorem Rounds.cons (here : accepted w) (first : c.Passes w d) (rest : d.Rounds accepted ws e) :
    c.Rounds accepted (w :: ws) e :=
  ⟨List.forall_mem_cons.mpr ⟨here, rest.each⟩, first.trans rest.passes⟩

theorem Rounds.append (first : c.Rounds accepted vs d) (second : d.Rounds accepted ws e) :
    c.Rounds accepted (vs ++ ws) e where
  each := List.forall_mem_append.mpr ⟨first.each, second.each⟩
  passes := by
    rw [List.flatten_append]
    exact first.passes.trans second.passes

end Cursor

namespace Pattern

/-- The texts that a pattern accepts, as far as that does not depend on the text around. -/
def Accepts : Pattern → List Char → Prop
  | empty, w => w = []
  | one set, w => ∃ c, set.holds c ∧ w = [c]
  | seq first rest, w => ∃ u v, first.Accepts u ∧ rest.Accepts v ∧ w = u ++ v
  | alt left right, w => left.Accepts w ∨ right.Accepts w
  | group _ body, w => body.Accepts w
  | again low high _ body, w =>
    ∃ vs : List (List Char), (∀ v ∈ vs, body.Accepts v) ∧ low ≤ vs.length ∧
      (∀ n ∈ high, vs.length ≤ max low n) ∧ w = vs.flatten
  | _, _ => False

/-- A construct that leaves every choice open and looks at nothing but what it passes. -/
def Construct.Regular (c : Construct) : Prop := c = .group ∨ c = .again .greedy ∨ c = .again .lazy

/-! ### Rounds -/

section Rounds

variable {accepted : List Char → Prop} {body : MatchState → List MatchState}

/-- A round that is not empty begins at another place than the round before. -/
theorem began_ne {st next : MatchState} {v : List Char} (some : v ≠ [])
    (passes : st.cursor.Passes v next.cursor) :
    Option.some st.cursor.position ≠ Option.some next.cursor.position := by
  have length := List.length_pos_iff.mpr some
  have position := passes.position
  intro same
  have same := Option.some.inj same
  omega

section Sound

variable (sound : ∀ st, ∀ next ∈ body st, ∃ w, accepted w ∧ st.cursor.Passes w next.cursor)
include sound

theorem rounds_sound {n : Nat} {st last : MatchState} (member : last ∈ roundsOutcomes body n st) :
    ∃ vs, st.cursor.Rounds accepted vs last.cursor ∧ vs.length = n := by
  induction n generalizing st with
  | zero =>
    obtain rfl := List.mem_singleton.mp member
    exact ⟨[], .refl _, rfl⟩
  | succ n ih =>
    obtain ⟨next, first, rest⟩ := List.mem_flatMap.mp member
    obtain ⟨w, here, passes⟩ := sound st next first
    obtain ⟨vs, others, count⟩ := ih rest
    exact ⟨w :: vs, others.cons here passes, congrArg Nat.succ count⟩

theorem more_sound {n : Nat} {began : Option Nat} {st last : MatchState}
    (member : last ∈ moreOutcomes body n began st) :
    ∃ vs, st.cursor.Rounds accepted vs last.cursor ∧ vs.length ≤ n := by
  induction n generalizing began st with
  | zero =>
    obtain rfl := List.mem_singleton.mp member
    exact ⟨[], .refl _, Nat.le_refl _⟩
  | succ n ih =>
    simp only [moreOutcomes] at member
    split at member
    · obtain rfl := List.mem_singleton.mp member
      exact ⟨[], .refl _, Nat.zero_le _⟩
    · obtain member | member := List.mem_append.mp member
      · obtain ⟨next, first, rest⟩ := List.mem_flatMap.mp member
        obtain ⟨w, here, passes⟩ := sound st next first
        obtain ⟨vs, others, count⟩ := ih rest
        exact ⟨w :: vs, others.cons here passes, Nat.succ_le_succ count⟩
      · obtain rfl := List.mem_singleton.mp member
        exact ⟨[], .refl _, Nat.zero_le _⟩

theorem fewer_sound {n : Nat} {began : Option Nat} {st last : MatchState}
    (member : last ∈ fewerOutcomes body n began st) :
    ∃ vs, st.cursor.Rounds accepted vs last.cursor ∧ vs.length ≤ n := by
  induction n generalizing began st with
  | zero =>
    obtain rfl := List.mem_singleton.mp member
    exact ⟨[], .refl _, Nat.le_refl _⟩
  | succ n ih =>
    simp only [fewerOutcomes, List.mem_cons] at member
    obtain rfl | member := member
    · exact ⟨[], .refl _, Nat.zero_le _⟩
    · split at member
      · cases member
      · obtain ⟨next, first, rest⟩ := List.mem_flatMap.mp member
        obtain ⟨w, here, passes⟩ := sound st next first
        obtain ⟨vs, others, count⟩ := ih rest
        exact ⟨w :: vs, others.cons here passes, Nat.succ_le_succ count⟩

end Sound

section Complete

variable (complete : ∀ st w d, accepted w → st.cursor.Passes w d →
  ∃ next ∈ body st, next.cursor = d)
include complete

theorem rounds_complete {vs : List (List Char)} {st : MatchState} {d : Cursor}
    (made : st.cursor.Rounds accepted vs d) :
    ∃ last ∈ roundsOutcomes body vs.length st, last.cursor = d := by
  induction vs generalizing st with
  | nil => exact ⟨st, List.mem_singleton_self st, (Cursor.Passes.refl _).unique made.passes⟩
  | cons v vs ih =>
    obtain ⟨here, others⟩ := List.forall_mem_cons.mp made.each
    obtain ⟨between, first, rest⟩ := made.passes.split
    obtain ⟨next, member, rfl⟩ := complete st v between here first
    obtain ⟨last, found, reached⟩ := ih ⟨others, rest⟩
    exact ⟨last, List.mem_flatMap.mpr ⟨next, member, found⟩, reached⟩

theorem more_complete {vs : List (List Char)} {st : MatchState} {d : Cursor}
    (made : st.cursor.Rounds accepted vs d) (some : ∀ v ∈ vs, v ≠ []) {n : Nat}
    (room : vs.length ≤ n) {began : Option Nat} (began_ne_here : began ≠ st.cursor.position) :
    ∃ last ∈ moreOutcomes body n began st, last.cursor = d := by
  induction vs generalizing n began st with
  | nil =>
    refine ⟨st, ?_, (Cursor.Passes.refl _).unique made.passes⟩
    cases n with
    | zero => exact List.mem_singleton_self st
    | succ n => simp [moreOutcomes, began_ne_here]
  | cons v vs ih =>
    obtain ⟨here, others⟩ := List.forall_mem_cons.mp made.each
    obtain ⟨filled, rests⟩ := List.forall_mem_cons.mp some
    obtain ⟨between, first, rest⟩ := made.passes.split
    obtain ⟨next, member, rfl⟩ := complete st v between here first
    cases n with
    | zero => simp at room
    | succ n =>
      obtain ⟨last, found, reached⟩ := ih ⟨others, rest⟩ rests (Nat.le_of_succ_le_succ room)
        (began_ne filled first)
      refine ⟨last, ?_, reached⟩
      simp only [moreOutcomes, began_ne_here, if_false]
      exact List.mem_append_left _ (List.mem_flatMap.mpr ⟨next, member, found⟩)

theorem fewer_complete {vs : List (List Char)} {st : MatchState} {d : Cursor}
    (made : st.cursor.Rounds accepted vs d) (some : ∀ v ∈ vs, v ≠ []) {n : Nat}
    (room : vs.length ≤ n) {began : Option Nat} (began_ne_here : began ≠ st.cursor.position) :
    ∃ last ∈ fewerOutcomes body n began st, last.cursor = d := by
  induction vs generalizing n began st with
  | nil =>
    refine ⟨st, ?_, (Cursor.Passes.refl _).unique made.passes⟩
    cases n <;> exact List.mem_cons_self
  | cons v vs ih =>
    obtain ⟨here, others⟩ := List.forall_mem_cons.mp made.each
    obtain ⟨filled, rests⟩ := List.forall_mem_cons.mp some
    obtain ⟨between, first, rest⟩ := made.passes.split
    obtain ⟨next, member, rfl⟩ := complete st v between here first
    cases n with
    | zero => simp at room
    | succ n =>
      obtain ⟨last, found, reached⟩ := ih ⟨others, rest⟩ rests (Nat.le_of_succ_le_succ room)
        (began_ne filled first)
      refine ⟨last, ?_, reached⟩
      simp only [fewerOutcomes, began_ne_here, if_false]
      exact .tail _ (List.mem_flatMap.mpr ⟨next, member, found⟩)

end Complete

end Rounds

theorem length_le_flatten {vs : List (List Char)} (some : ∀ v ∈ vs, v ≠ []) :
    vs.length ≤ vs.flatten.length := by
  induction vs with
  | nil => exact Nat.le_refl 0
  | cons v vs ih =>
    obtain ⟨filled, rests⟩ := List.forall_mem_cons.mp some
    have here := List.length_pos_iff.mpr filled
    have there := ih rests
    rw [List.flatten_cons, List.length_append, List.length_cons]
    omega

/-- The rounds that must be, and no more further ones than may follow, fit the bounds of a
repetition. -/
theorem join_rounds {accepted : List Char → Prop} {c d : Cursor} {between : MatchState}
    {first more : List (List Char)} (must : c.Rounds accepted first between.cursor)
    (may : between.cursor.Rounds accepted more d) {low : Nat} {high : Option Nat}
    (count : first.length = low) (room : more.length ≤ roundsLeft low high between) :
    ∃ vs, c.Rounds accepted vs d ∧ low ≤ vs.length ∧ ∀ n ∈ high, vs.length ≤ max low n := by
  refine ⟨first ++ more, must.append may, ?_, ?_⟩
  · rw [List.length_append]
    omega
  · rintro n ⟨⟩
    rw [List.length_append]
    simp only [roundsLeft] at room
    omega

/-- Rounds that fit the bounds of a repetition can be made as those that must be and further ones,
none of these empty and no more than may follow. -/
theorem split_rounds {accepted : List Char → Prop} {c d : Cursor} {vs : List (List Char)}
    (made : c.Rounds accepted vs d) {low : Nat} {high : Option Nat} (least : low ≤ vs.length)
    (most : ∀ n ∈ high, vs.length ≤ max low n) :
    ∃ first between more, first.length = low ∧ c.Rounds accepted first between ∧
      between.Rounds accepted more d ∧ (∀ v ∈ more, v ≠ []) ∧
      ∀ spans, more.length ≤ roundsLeft low high ⟨between, spans⟩ := by
  have each := made.each
  have passes := made.passes
  rw [← List.take_append_drop low vs] at each passes
  obtain ⟨must, may⟩ := List.forall_mem_append.mp each
  rw [List.flatten_append] at passes
  obtain ⟨between, first, rest⟩ := passes.split
  -- Further rounds that are empty change nothing, and a repetition does not make them.
  let more := (vs.drop low).filter (· ≠ [])
  have filled : ∀ v ∈ more, v ≠ [] := fun v listed => by simpa using (List.mem_filter.mp listed).2
  have same : more.flatten = (vs.drop low).flatten := List.flatten_filter_ne_nil
  rw [← same] at rest
  refine ⟨vs.take low, between, more, List.length_take_of_le least, ⟨must, first⟩,
    ⟨fun v listed => may v (List.mem_filter.mp listed).1, rest⟩, filled, fun spans => ?_⟩
  have count : more.length ≤ vs.length - low := by
    have := List.length_filter_le (· ≠ []) (vs.drop low)
    rwa [List.length_drop] at this
  have room : more.length ≤ between.ahead.length := by
    rw [rest.ahead, List.length_append]
    exact Nat.le_add_right_of_le (length_le_flatten filled)
  cases high with
  | none => exact Nat.le_succ_of_le room
  | some n =>
    have bound := most n rfl
    simp only [roundsLeft]
    omega

/-! ### Accepted texts -/

/-- Whatever a pattern looks at, it goes on through the text and never back. -/
theorem exists_passes {p : Pattern} {st last : MatchState} (member : last ∈ p.outcomes st) :
    ∃ w, st.cursor.Passes w last.cursor := by
  refine outcomes_keep (fun st last => ∃ w, st.cursor.Passes w last.cursor)
    (fun st => ⟨[], .refl _⟩) ?_ ?_ ?_ ?_ (fun _ _ _ => trivial) ?_ trivial member
  · rintro a b c ⟨v, first⟩ ⟨w, second⟩
    exact ⟨v ++ w, first.trans second⟩
  · exact fun _ _ ahead => ⟨[_], Cursor.passes_of_ahead ahead⟩
  · exact fun _ ahead => ⟨[_], Cursor.passes_of_ahead ahead⟩
  · -- What is looked at leaves the place where it was.
    exact fun _ => ⟨[], .refl _⟩
  · exact fun _ _ inner => inner trivial

/-- Ways to match something that go on through the text. -/
def Advances (body : MatchState → List MatchState) : Prop :=
  ∀ st, ∀ last ∈ body st, ∃ w, st.cursor.Passes w last.cursor

/-- The second state is at a place further along the text, or at the same one. -/
def Along (st last : MatchState) : Prop := ∃ w, st.cursor.Passes w last.cursor

theorem Along.refl (st : MatchState) : Along st st := ⟨[], .refl st.cursor⟩

theorem Along.trans {a b c : MatchState} : Along a b → Along b c → Along a c :=
  fun ⟨v, first⟩ ⟨w, second⟩ => ⟨v ++ w, first.trans second⟩

theorem advances_text (fold : Fold) (text : List Char) : Advances (textOutcomes fold text) :=
  fun _ _ => textOutcomes_keep Along.refl Along.trans
    fun _ c _ ahead => ⟨[c], Cursor.passes_of_ahead ahead⟩

theorem advances_outcomes (p : Pattern) : Advances p.outcomes := fun _ _ => exists_passes

namespace Advances

variable {body : MatchState → List MatchState} (advances : Advances body)
include advances

theorem rounds (n : Nat) : Advances (roundsOutcomes body n) :=
  roundsOutcomes_keep Along.refl Along.trans advances n

theorem more (n : Nat) (began : Option Nat) : Advances (moreOutcomes body n began) :=
  moreOutcomes_keep Along.refl Along.trans advances n began

theorem fewer (n : Nat) (began : Option Nat) : Advances (fewerOutcomes body n began) :=
  fewerOutcomes_keep Along.refl Along.trans advances n began

theorem settled {n : Nat} {st last : MatchState}
    (settled : settledOutcome? body n st = some last) : Along st last :=
  settledOutcome?_keep Along.refl Along.trans advances settled

theorem last (n : Nat) (began : Option Nat) (st : MatchState) :
    Along st (lastOutcome body n began st) :=
  lastOutcome_keep Along.refl Along.trans advances n began st

end Advances

/-- Every way to match a regular pattern passes a text that it accepts. -/
theorem accepts_of_mem {p : Pattern} (regular : p.Within Construct.Regular) {st last : MatchState}
    (member : last ∈ p.outcomes st) : ∃ w, p.Accepts w ∧ st.cursor.Passes w last.cursor := by
  induction p generalizing st last with
  | empty =>
    obtain rfl := List.mem_singleton.mp member
    exact ⟨[], rfl, .refl _⟩
  | one set =>
    simp only [outcomes, oneOutcomes] at member
    split at member
    · cases member
    · rename_i c rest ahead
      split at member
      · rename_i holds
        obtain rfl := List.mem_singleton.mp member
        exact ⟨[c], ⟨c, holds, rfl⟩, rfl, rfl, ahead⟩
      · cases member
  | seq first rest first_ih rest_ih =>
    have parts := List.forall_mem_append.mp regular
    obtain ⟨next, before, after⟩ := List.mem_flatMap.mp member
    obtain ⟨u, first_accepts, first_passes⟩ := first_ih parts.1 before
    obtain ⟨v, rest_accepts, rest_passes⟩ := rest_ih parts.2 after
    exact ⟨u ++ v, ⟨u, v, first_accepts, rest_accepts, rfl⟩, first_passes.trans rest_passes⟩
  | alt left right left_ih right_ih =>
    have parts := List.forall_mem_append.mp regular
    obtain before | after := List.mem_append.mp member
    · obtain ⟨w, accepts, passes⟩ := left_ih parts.1 before
      exact ⟨w, .inl accepts, passes⟩
    · obtain ⟨w, accepts, passes⟩ := right_ih parts.2 after
      exact ⟨w, .inr accepts, passes⟩
  | group index body ih =>
    obtain ⟨inner, inside, rfl⟩ := List.mem_map.mp member
    obtain ⟨w, accepts, passes⟩ := ih (List.forall_mem_cons.mp regular).2 inside
    exact ⟨w, accepts, passes⟩
  | again low high manner body ih =>
    obtain ⟨asked, inner⟩ := List.forall_mem_cons.mp regular
    have sound : ∀ st, ∀ next ∈ body.outcomes st,
        ∃ w, body.Accepts w ∧ st.cursor.Passes w next.cursor := fun st next => ih inner
    cases manner with
    | greedy =>
      obtain ⟨between, before, after⟩ := List.mem_flatMap.mp member
      obtain ⟨first, must, count⟩ := rounds_sound sound before
      obtain ⟨more, may, room⟩ := more_sound sound after
      obtain ⟨vs, made, least, most⟩ := join_rounds must may count room
      exact ⟨_, ⟨vs, made.each, least, most, rfl⟩, made.passes⟩
    | lazy =>
      obtain ⟨between, before, after⟩ := List.mem_flatMap.mp member
      obtain ⟨first, must, count⟩ := rounds_sound sound before
      obtain ⟨more, may, room⟩ := fewer_sound sound after
      obtain ⟨vs, made, least, most⟩ := join_rounds must may count room
      exact ⟨_, ⟨vs, made.each, least, most, rfl⟩, made.passes⟩
    | possessive => simp [Construct.Regular] at asked
  | anchor | back => exact absurd (regular _ List.mem_cons_self) (by simp [Construct.Regular])
  | atomic | look | cond =>
    exact absurd (regular _ List.mem_cons_self) (by simp [Construct.Regular])

/-- Every text that a regular pattern accepts is passed by one of the ways to match it. -/
theorem mem_of_accepts {p : Pattern} (regular : p.Within Construct.Regular) {st : MatchState}
    {w : List Char} {d : Cursor} (accepts : p.Accepts w) (passes : st.cursor.Passes w d) :
    ∃ last ∈ p.outcomes st, last.cursor = d := by
  induction p generalizing st w d with
  | empty =>
    obtain rfl := accepts
    exact ⟨st, List.mem_singleton_self st, (Cursor.Passes.refl _).unique passes⟩
  | one set =>
    obtain ⟨c, holds, rfl⟩ := accepts
    refine ⟨⟨⟨st.cursor.position + 1, c :: st.cursor.behind, d.ahead⟩, st.spans⟩, ?_, ?_⟩
    · simp [outcomes, oneOutcomes, passes.ahead, holds]
    · exact (Cursor.passes_of_ahead passes.ahead).unique passes
  | seq first rest first_ih rest_ih =>
    have parts := List.forall_mem_append.mp regular
    obtain ⟨u, v, first_accepts, rest_accepts, rfl⟩ := accepts
    obtain ⟨between, first_passes, rest_passes⟩ := passes.split
    obtain ⟨next, member, rfl⟩ := first_ih parts.1 first_accepts first_passes
    obtain ⟨last, found, reached⟩ := rest_ih parts.2 rest_accepts rest_passes
    exact ⟨last, List.mem_flatMap.mpr ⟨next, member, found⟩, reached⟩
  | alt left right left_ih right_ih =>
    have parts := List.forall_mem_append.mp regular
    obtain accepts | accepts := accepts
    · obtain ⟨last, found, reached⟩ := left_ih parts.1 accepts passes
      exact ⟨last, List.mem_append_left _ found, reached⟩
    · obtain ⟨last, found, reached⟩ := right_ih parts.2 accepts passes
      exact ⟨last, List.mem_append_right _ found, reached⟩
  | group index body ih =>
    obtain ⟨inner, found, reached⟩ := ih (List.forall_mem_cons.mp regular).2 accepts passes
    exact ⟨_, List.mem_map_of_mem found, reached⟩
  | again low high manner body ih =>
    obtain ⟨asked, inner⟩ := List.forall_mem_cons.mp regular
    have complete : ∀ st w d, body.Accepts w → st.cursor.Passes w d →
        ∃ next ∈ body.outcomes st, next.cursor = d := fun st w d => ih inner
    obtain ⟨vs, each, least, most, rfl⟩ := accepts
    obtain ⟨first, between, more, count, must, may, filled, room⟩ :=
      split_rounds ⟨each, passes⟩ least most
    obtain ⟨next, member, rfl⟩ := rounds_complete complete must
    rw [count] at member
    have start : none ≠ some next.cursor.position := (Option.some_ne_none _).symm
    cases manner with
    | greedy =>
      obtain ⟨last, found, reached⟩ := more_complete complete may filled (room next.spans) start
      exact ⟨last, List.mem_flatMap.mpr ⟨next, member, found⟩, reached⟩
    | lazy =>
      obtain ⟨last, found, reached⟩ := fewer_complete complete may filled (room next.spans) start
      exact ⟨last, List.mem_flatMap.mpr ⟨next, member, found⟩, reached⟩
    | possessive => simp [Construct.Regular] at asked
  | anchor | atomic | look | back | cond => exact accepts.elim

theorem accepts_rounds_one {set : CharSet} {vs : List (List Char)}
    (each : ∀ v ∈ vs, (one set).Accepts v) :
    (∀ c ∈ vs.flatten, set.holds c) ∧ vs.flatten.length = vs.length := by
  induction vs with
  | nil => exact ⟨nofun, rfl⟩
  | cons v vs ih =>
    obtain ⟨⟨c, holds, rfl⟩, others⟩ := List.forall_mem_cons.mp each
    obtain ⟨rests, count⟩ := ih others
    exact ⟨List.forall_mem_cons.mpr ⟨holds, rests⟩, congrArg Nat.succ count⟩

/-- A repeated set of characters accepts the texts of such characters. -/
theorem accepts_again_one {set : CharSet} {low : Nat} {manner : Manner} {w : List Char} :
    (again low none manner (one set)).Accepts w ↔ (∀ c ∈ w, set.holds c) ∧ low ≤ w.length := by
  constructor
  · rintro ⟨vs, each, least, _, rfl⟩
    obtain ⟨holds, count⟩ := accepts_rounds_one each
    exact ⟨holds, count ▸ least⟩
  · rintro ⟨holds, least⟩
    refine ⟨w.map fun c => [c], ?_, by simpa using least, nofun, ?_⟩
    · intro v member
      obtain ⟨c, inside, rfl⟩ := List.mem_map.mp member
      exact ⟨c, holds c inside, rfl⟩
    · rw [← List.flatMap_def, List.flatMap_singleton']

/-! ### Matching as a search for an accepted text -/

/-- A regular construct that remembers nothing. -/
def Construct.Forgetful (c : Construct) : Prop := c.Regular ∧ c ≠ .group

variable {p : Pattern} {goal : Goal} {st last : MatchState} {w : List Char} {d : Cursor}

theorem Forgetful.regular (forgetful : p.Within Construct.Forgetful) : p.Within Construct.Regular :=
  fun c used => (forgetful c used).1

/-- What is found behind a pattern is found behind a text that it accepts. -/
theorem exists_of_run (forgetful : p.Within Construct.Forgetful) (ran : p.run goal st = some last) :
    ∃ w d, p.Accepts w ∧ st.cursor.Passes w d ∧ goal ⟨d, st.spans⟩ = some last := by
  rw [run_eq] at ran
  obtain ⟨next, member, reached⟩ := List.exists_of_findSome?_eq_some ran
  obtain ⟨w, accepts, passes⟩ := accepts_of_mem (Forgetful.regular forgetful) member
  have spans := spans_of_within (fun c used => (forgetful c used).2) member
  exact ⟨w, next.cursor, accepts, passes, by rw [← spans, reached]⟩

/-- Something is found behind a pattern if it is found behind any text that the pattern accepts. -/
theorem isSome_run (forgetful : p.Within Construct.Forgetful) (accepts : p.Accepts w)
    (passes : st.cursor.Passes w d) (reaches : (goal ⟨d, st.spans⟩).isSome) :
    (p.run goal st).isSome := by
  obtain ⟨next, member, rfl⟩ := mem_of_accepts (Forgetful.regular forgetful) accepts passes
  have spans := spans_of_within (fun c used => (forgetful c used).2) member
  rw [← spans] at reaches
  rw [run_eq, List.findSome?_isSome_iff]
  exact ⟨next, member, reaches⟩

/-- Where everything found behind accepted texts comes to the same, that is what is found. -/
theorem map_run {α : Type} {f : MatchState → α} {v : Option α}
    (forgetful : p.Within Construct.Forgetful)
    (agrees : ∀ w d last, p.Accepts w → st.cursor.Passes w d → goal ⟨d, st.spans⟩ = some last →
      v = some (f last))
    (found : v.isSome → ∃ w d, p.Accepts w ∧ st.cursor.Passes w d ∧ (goal ⟨d, st.spans⟩).isSome) :
    (p.run goal st).map f = v := by
  cases ran : p.run goal st with
  | some last =>
    obtain ⟨w, d, accepts, passes, reached⟩ := exists_of_run forgetful ran
    exact (agrees w d last accepts passes reached).symm
  | none =>
    cases v with
    | none => rfl
    | some a =>
      obtain ⟨w, d, accepts, passes, reaches⟩ := found rfl
      have reached := isSome_run forgetful accepts passes reaches
      rw [ran] at reached
      cases reached

theorem run_sequence_append (ps qs : List Pattern) (goal : Goal) :
    (sequence (ps ++ qs)).run goal = (sequence ps).run ((sequence qs).run goal) := by
  induction ps with
  | nil => rfl
  | cons p ps ih => exact congrArg p.run ih

theorem run_alt (p q : Pattern) (goal : Goal) (st : MatchState) :
    (alt p q).run goal st = (p.run goal st).or (q.run goal st) := by
  simp only [run]
  cases p.run goal st <;> rfl

/-- What may be left out is tried first. -/
theorem run_optional (p : Pattern) (goal : Goal) (st : MatchState) :
    (again 0 (some 1) .greedy p).run goal st = (p.run goal st).or (goal st) := by
  have room : roundsLeft 0 (some 1) st = 1 := by simp [roundsLeft]
  simp only [run, rounds, room, moreRounds, reduceCtorEq, if_false]
  have rest : (fun next => moreRounds p.run goal 0 (some st.cursor.position) next) = goal := rfl
  cases p.run goal st <;> rfl

end Pattern

/-- Whether an expression matches a text from its start to its end. -/
def Expression.fullMatches (e : Expression) (text : List Char) : Bool :=
  (e.pattern.run (fun st => if st.cursor.ahead.isEmpty then some st else none)
    ⟨.start text, List.replicate e.groups none⟩).isSome

/-- An expression matches a text if there is a way to match its pattern that leaves nothing. -/
theorem Expression.fullMatches_iff_mem {e : Expression} {text : List Char} : e.fullMatches text ↔
    ∃ last ∈ e.pattern.outcomes ⟨.start text, List.replicate e.groups none⟩,
      last.cursor.ahead = [] := by
  unfold fullMatches
  rw [Pattern.run_eq, List.findSome?_isSome_iff]
  refine exists_congr fun last => and_congr_right fun _ => ?_
  cases last.cursor.ahead <;> simp

/-- A regular expression matches the texts that its pattern accepts. -/
theorem Expression.fullMatches_iff {e : Expression}
    (regular : e.pattern.Within Pattern.Construct.Regular) {text : List Char} :
    e.fullMatches text ↔ e.pattern.Accepts text := by
  rw [fullMatches_iff_mem]
  constructor
  · rintro ⟨last, member, ended⟩
    obtain ⟨w, accepts, passes⟩ := Pattern.accepts_of_mem regular member
    have ahead : text = w ++ last.cursor.ahead := passes.ahead
    rw [ended, List.append_nil] at ahead
    exact ahead ▸ accepts
  · intro accepts
    let start : MatchState := ⟨.start text, List.replicate e.groups none⟩
    have passes : start.cursor.Passes text _ := Cursor.passes_of_ahead (List.append_nil text).symm
    obtain ⟨last, member, reached⟩ := Pattern.mem_of_accepts regular accepts passes
    exact ⟨last, member, by rw [reached]⟩
end LineCommand
