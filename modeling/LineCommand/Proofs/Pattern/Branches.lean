import Mathlib.Data.List.Nodup
import LineCommand.Proofs.Pattern.Participation

/-! The alternatives of a whole pattern. A match goes through one of them, the first that matches.
The groups in that one are all that can take part, and those among its own parts do. -/
namespace LineCommand.Pattern

/-- The alternatives that a pattern offers, in the order in which they are tried. -/
def branches : Pattern → List Pattern
  | alt left right => left :: right.branches
  | p => [p]

def branch? (p : Pattern) (st : MatchState) : Option Nat :=
  p.branches.findIdx? fun q => (q.run some st).isSome

variable {p q : Pattern} {st last : MatchState} {i : Nat}

theorem branches_sequence (ps : List Pattern) : (sequence ps).branches = [sequence ps] := by
  cases ps <;> rfl

theorem branches_choice {ps : List Pattern} (some : ps ≠ [])
    (plain : ∀ p ∈ ps, p.branches = [p]) : (choice ps).branches = ps := by
  induction ps with
  | nil => exact absurd rfl some
  | cons p ps ih =>
    obtain ⟨here, rests⟩ := List.forall_mem_cons.mp plain
    cases ps with
    | nil => exact here
    | cons q ps => exact congrArg (p :: ·) (ih (List.cons_ne_nil _ _) rests)

theorem numbers_branches (p : Pattern) : p.branches.flatMap numbers = p.numbers := by
  induction p with
  | alt left right left_ih right_ih =>
    rw [branches, List.flatMap_cons, right_ih]
    rfl
  | _ => exact List.flatMap_singleton _ _

/-- Alternatives are tried one after the other. -/
theorem run_branches (p : Pattern) (goal : Goal) (st : MatchState) :
    p.run goal st = p.branches.findSome? fun q => q.run goal st := by
  induction p with
  | alt left right left_ih right_ih =>
    simp only [run, branches, List.findSome?_cons, right_ih]
    cases left.run goal st <;> rfl
  | _ => simp [branches]

theorem exists_of_findSome? {α β : Type} {f : α → Option β} {xs : List α} {b : β}
    (found : xs.findSome? f = some b) :
    ∃ i a, xs.findIdx? (fun a => (f a).isSome) = some i ∧ xs[i]? = some a ∧ f a = some b := by
  induction xs with
  | nil => cases found
  | cons x xs ih =>
    rw [List.findSome?_cons] at found
    cases here : f x with
    | some b' =>
      rw [here] at found
      cases found
      exact ⟨0, x, by simp [List.findIdx?_cons, here], rfl, here⟩
    | none =>
      rw [here] at found
      obtain ⟨i, a, index, listed, value⟩ := ih found
      exact ⟨i + 1, a, by simp [List.findIdx?_cons, here, index], listed, value⟩

/-- A match goes through the first alternative that matches. -/
theorem exists_branch (ran : p.run some st = some last) :
    ∃ i q, p.branch? st = some i ∧ p.branches[i]? = some q ∧ last ∈ q.outcomes st := by
  rw [run_branches] at ran
  obtain ⟨i, q, index, listed, matched⟩ := exists_of_findSome? ran
  exact ⟨i, q, index, listed, mem_outcomes_of_run matched⟩

/-! ### Groups that take part -/

/-- What a group has matched stays as it is where the pattern has no group of that number. -/
theorem getElem?_spans_of_not_mem (absent : i + 1 ∉ p.numbers) (positive : 0 ∉ p.numbers)
    (member : last ∈ p.outcomes st) : last.spans[i]? = st.spans[i]? := by
  let Good (p : Pattern) : Prop := i + 1 ∉ p.numbers ∧ 0 ∉ p.numbers
  let Kept (a b : List (Option Span)) : Prop := b[i]? = a[i]?
  have inside : ∀ {p q}, Good p → (∀ index body, p ≠ .group index body) → q ∈ p.components →
      Good q := fun good _ part =>
    ⟨fun also => good.1 (numbers_component part also),
      fun zero => good.2 (numbers_component part zero)⟩
  refine spans_keep_of Kept (fun _ => rfl) (fun first second => second.trans first) inside ?_
    ⟨absent, positive⟩ member
  rintro index body st inner span ⟨absent, positive⟩ found kept
  rw [numbers, List.mem_cons, not_or] at absent positive
  change (inner.spans.set _ _)[i]? = _
  rw [List.getElem?_set_ne (by omega)]
  exact kept ⟨absent.2, positive.2⟩

theorem span?_of_not_mem (absent : i ∉ p.numbers) (positive : 0 ∉ p.numbers)
    (member : last ∈ p.outcomes st) : last.span? i = st.span? i := by
  cases i with
  | zero => rfl
  | succ i => exact congrArg Option.join (getElem?_spans_of_not_mem absent positive member)

/-- A group that has taken part does not get lost. -/
theorem isSome_spans_keep (member : last ∈ p.outcomes st) (taken : st.spans[i]?.join.isSome) :
    last.spans[i]?.join.isSome := by
  let Good (_ : Pattern) : Prop := True
  let Kept (a b : List (Option Span)) : Prop := a[i]?.join.isSome → b[i]?.join.isSome
  have inside : ∀ {p q}, Good p → (∀ index body, p ≠ .group index body) → q ∈ p.components →
      Good q := fun _ _ _ => trivial
  refine spans_keep_of Kept (fun _ => id) (fun first second => second ∘ first) inside ?_
    (show Good p from trivial) member taken
  intro index body st inner span _ _ kept taken
  have before := kept trivial taken
  by_cases same : index - 1 = i
  · have room : i < inner.spans.length := by
      by_contra beyond
      rw [List.getElem?_eq_none (by omega)] at before
      cases before
    rw [same, List.getElem?_set_self room]
    rfl
  · rwa [List.getElem?_set_ne same]

/-- Every group among the parts of a sequence takes part. -/
theorem isSome_span_of_sequence {ps : List Pattern} {body : Pattern}
    (part : .group (i + 1) body ∈ ps) (room : i < st.spans.length)
    (member : last ∈ (sequence ps).outcomes st) : last.spans[i]?.join.isSome := by
  induction ps generalizing st with
  | nil => cases part
  | cons q ps ih =>
    obtain ⟨next, first, rest⟩ := List.mem_flatMap.mp member
    rcases List.mem_cons.mp part with rfl | part
    · obtain ⟨inner, found, rfl⟩ := List.mem_map.mp first
      apply isSome_spans_keep rest
      rw [← length_spans found] at room
      simp [MatchState.remember, room]
    · apply ih part _ rest
      rwa [length_spans first]

/-- Alternatives have no group in common. -/
theorem numbers_apart {j k n : Nat} {r : Pattern} (different : p.numbers.Nodup)
    (one : p.branches[j]? = some q) (other : p.branches[k]? = some r) (apart : j ≠ k)
    (member : n ∈ r.numbers) : n ∉ q.numbers := by
  rw [← numbers_branches, List.nodup_flatMap] at different
  obtain ⟨first, rfl⟩ := List.getElem?_eq_some_iff.mp one
  obtain ⟨second, rfl⟩ := List.getElem?_eq_some_iff.mp other
  have pairs := List.pairwise_iff_getElem.mp different.2
  intro also
  rcases Nat.lt_or_gt_of_ne apart with before | behind
  · exact pairs j k first second before also member
  · exact pairs k j second first behind member also

theorem numbers_branch {k : Nat} (listed : p.branches[k]? = some q) : q.numbers ⊆ p.numbers := by
  intro n member
  rw [← numbers_branches, List.mem_flatMap]
  exact ⟨q, List.mem_of_getElem? listed, member⟩

/-- A group among the parts of an alternative takes part in a match exactly if the match goes
through that alternative. -/
theorem isSome_span_iff {n k : Nat} {ps : List Pattern} {body : Pattern}
    (fresh : st.spans = List.replicate n none) (room : i < n) (different : p.numbers.Nodup)
    (positive : 0 ∉ p.numbers) (stands : p.branches[k]? = some (sequence ps))
    (part : .group (i + 1) body ∈ ps) (ran : p.run some st = some last) :
    last.spans[i]?.join.isSome ↔ p.branch? st = some k := by
  obtain ⟨j, q, index, listed, member⟩ := exists_branch ran
  rw [index]
  constructor
  · intro taken
    by_contra other
    have apart : j ≠ k := fun same => other (congrArg some same)
    have numbered : i + 1 ∈ (sequence ps).numbers := by
      rw [numbers_sequence, List.mem_flatMap]
      exact ⟨_, part, List.mem_cons_self⟩
    have kept := getElem?_spans_of_not_mem (numbers_apart different listed stands apart numbered)
      (fun zero => positive (numbers_branch listed zero)) member
    rw [kept, fresh, List.getElem?_replicate, if_pos room] at taken
    cases taken
  · intro same
    obtain rfl := Option.some.inj same
    rw [stands] at listed
    obtain rfl := Option.some.inj listed
    exact isSome_span_of_sequence part (by rw [fresh, List.length_replicate]; exact room) member

end LineCommand.Pattern
