import LineCommand.Proofs.Pattern.Nesting
import LineCommand.Proofs.Pattern.Outcomes

/-! Groups inside of groups in a match. A group inside another one takes part only if that one
does. -/
namespace LineCommand.Pattern

/-- Every group numbered `inner` stands inside one numbered `outer`. -/
def Guards (outer inner : Nat) : Pattern → Prop
  | group index body => index = outer ∨ index ≠ inner ∧ body.Guards outer inner
  | seq first rest => first.Guards outer inner ∧ rest.Guards outer inner
  | alt left right => left.Guards outer inner ∧ right.Guards outer inner
  | again _ _ _ body => body.Guards outer inner
  | atomic body => body.Guards outer inner
  | look _ _ body => body.Guards outer inner
  | cond _ yes no => yes.Guards outer inner ∧ no.Guards outer inner
  | _ => True

variable {outer inner : Nat} {p q : Pattern}

theorem Guards.component (guards : p.Guards outer inner) (plain : ∀ index body, p ≠ .group index body)
    (part : q ∈ p.components) : q.Guards outer inner := by
  cases p with
  | empty | one | anchor | back => cases part
  | group index body => exact absurd rfl (plain index body)
  | seq | alt | cond =>
    obtain rfl | part := List.mem_cons.mp part
    · exact guards.1
    · obtain rfl := List.mem_singleton.mp part
      exact guards.2
  | again | atomic | look =>
    obtain rfl := List.mem_singleton.mp part
    exact guards

theorem guards_of_not_mem (outer : Nat) (absent : inner ∉ p.numbers) : p.Guards outer inner := by
  induction p with
  | empty | one | anchor | back => trivial
  | seq first rest first_ih rest_ih | alt first rest first_ih rest_ih
  | cond index first rest first_ih rest_ih =>
    rw [numbers, List.mem_append, not_or] at absent
    exact ⟨first_ih absent.1, rest_ih absent.2⟩
  | group index body ih =>
    rw [numbers, List.mem_cons, not_or] at absent
    exact .inr ⟨Ne.symm absent.1, ih absent.2⟩
  | again low high manner body ih | atomic body ih | look side negated body ih => exact ih absent

theorem numbers_subpattern (inside : q ∈ p.subpatterns) : q.numbers ⊆ p.numbers := by
  intro n member
  induction p with
  | empty | one | anchor | back =>
    obtain rfl := List.mem_singleton.mp inside
    exact member
  | seq first rest first_ih rest_ih | alt first rest first_ih rest_ih
  | cond index first rest first_ih rest_ih =>
    obtain rfl | inside := List.mem_cons.mp inside
    · exact member
    · obtain here | there := List.mem_append.mp inside
      · exact List.mem_append_left _ (first_ih here)
      · exact List.mem_append_right _ (rest_ih there)
  | group index body ih =>
    obtain rfl | inside := List.mem_cons.mp inside
    · exact member
    · exact .tail _ (ih inside)
  | again low high manner body ih | atomic body ih | look side negated body ih =>
    obtain rfl | inside := List.mem_cons.mp inside
    · exact member
    · exact ih inside

theorem numbers_component (part : q ∈ p.components) : q.numbers ⊆ p.numbers := by
  refine numbers_subpattern ?_
  have self := mem_subpatterns_self q
  cases p with
  | empty | one | anchor | back => cases part
  | seq | alt | cond =>
    refine .tail _ (List.mem_append.mpr ?_)
    obtain rfl | part := List.mem_cons.mp part
    · exact .inl self
    · obtain rfl := List.mem_singleton.mp part
      exact .inr self
  | group | again | atomic | look =>
    obtain rfl := List.mem_singleton.mp part
    exact .tail _ self

/-- If all numbers are different, a group guards the groups inside it. -/
theorem guards_of_subpattern {body : Pattern} (inside : .group outer body ∈ p.subpatterns)
    (member : inner ∈ body.numbers) (different : p.numbers.Nodup) : p.Guards outer inner := by
  have listed : ∀ {q : Pattern}, .group outer body ∈ q.subpatterns → inner ∈ q.numbers :=
    fun inside => numbers_subpattern inside (.tail _ member)
  induction p with
  | empty | one | anchor | back => trivial
  | seq first rest first_ih rest_ih | alt first rest first_ih rest_ih
  | cond index first rest first_ih rest_ih =>
    obtain ⟨left, right, apart⟩ := List.nodup_append.mp different
    obtain same | inside := List.mem_cons.mp inside
    · cases same
    · obtain here | there := List.mem_append.mp inside
      · exact ⟨first_ih here left,
          guards_of_not_mem outer fun also => apart _ (listed here) _ also rfl⟩
      · exact ⟨guards_of_not_mem outer fun also => apart _ also _ (listed there) rfl,
          rest_ih there right⟩
  | group index inner' ih =>
    obtain ⟨fresh, rest⟩ := List.nodup_cons.mp different
    obtain same | inside := List.mem_cons.mp inside
    · cases same
      exact .inl rfl
    · refine .inr ⟨?_, ih inside rest⟩
      rintro rfl
      exact fresh (listed inside)
  | again low high manner body' ih | atomic body' ih | look side negated body' ih =>
    obtain same | inside := List.mem_cons.mp inside
    · cases same
    · exact ih inside different

/-! ### Matching -/

/-- A group has taken part only if the group around it has. The groups are counted from zero. -/
def Follows (outer inner : Nat) (spans : List (Option Span)) : Prop :=
  spans[outer]?.join = none → spans[inner]?.join = none

theorem follows_keep {outer inner : Nat} (guards : p.Guards (outer + 1) (inner + 1))
    (positive : 0 ∉ p.numbers) {st last : MatchState} (member : last ∈ p.outcomes st)
    (room : outer < st.spans.length) (follows : Follows outer inner st.spans) :
    Follows outer inner last.spans := by
  let Good (p : Pattern) : Prop := p.Guards (outer + 1) (inner + 1) ∧ 0 ∉ p.numbers
  let Kept (a b : List (Option Span)) : Prop :=
    b.length = a.length ∧ (outer < a.length → Follows outer inner a → Follows outer inner b)
  have trans : ∀ {a b c}, Kept a b → Kept b c → Kept a c := by
    rintro a b c ⟨size, first⟩ ⟨size', second⟩
    refine ⟨size'.trans size, fun room follows => second ?_ (first room follows)⟩
    rwa [size]
  have inside : ∀ {p q}, Good p → (∀ index body, p ≠ .group index body) → q ∈ p.components →
      Good q := fun good plain part =>
    ⟨good.1.component plain part, fun zero => good.2 (numbers_component part zero)⟩
  refine (spans_keep_of Kept (fun _ => ⟨rfl, fun _ => id⟩) trans inside ?_ ⟨guards, positive⟩
    member).2 room follows
  rintro index body st inner' span ⟨guards, positive⟩ found kept
  rw [numbers, List.mem_cons, not_or] at positive
  have size : inner'.spans.length = st.spans.length := length_spans found
  refine ⟨by rw [List.length_set, size], fun room follows => ?_⟩
  have itself : (inner'.spans.set outer (some span))[outer]? = some (some span) :=
    List.getElem?_set_self (by rw [size]; exact room)
  unfold Follows
  by_cases same : index - 1 = outer
  -- The group around has taken part, whatever has happened inside it.
  · rw [same, itself]
    intro untaken
    cases untaken
  · obtain rfl | ⟨other, within⟩ := guards
    · exact absurd (Nat.add_sub_cancel ..) same
    · have before := (kept ⟨within, positive.2⟩).2 room follows
      rwa [List.getElem?_set_ne same, List.getElem?_set_ne (by omega)]

end LineCommand.Pattern

namespace LineCommand.Expression

/-- The text of a group in a match is that between the places which the group remembers. -/
theorem exists_of_match? {e : Expression} {line : List Char}
    {captures : List (Option (List Char))} (matched : e.match? line = some captures) :
    ∃ last, e.pattern.run some ⟨.start line, List.replicate e.groups none⟩ = some last ∧
      ∀ i : Nat, captures[i]?.join = last.spans[i]?.join.map fun span =>
        (line.drop span.start).take (span.stop - span.start) := by
  obtain ⟨last, ran, rfl⟩ := Option.map_eq_some_iff.mp matched
  refine ⟨last, ran, fun i => ?_⟩
  rw [List.getElem?_map]
  cases last.spans[i]? <;> rfl

end LineCommand.Expression
