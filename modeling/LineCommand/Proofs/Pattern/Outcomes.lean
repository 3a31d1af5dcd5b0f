import LineCommand.Pattern.Matching
import LineCommand.Proofs.Pattern.Constructs

/-! All ways to match a pattern at a place, in the order in which they are tried. What is still to
be matched takes the first of them that it can go on from, so that matching is a search of this
list. -/
namespace LineCommand.Pattern

/-! ### Rounds -/

section Rounds

variable (body : MatchState → List MatchState)

def roundsOutcomes : Nat → MatchState → List MatchState
  | 0, st => [st]
  | n + 1, st => (body st).flatMap (roundsOutcomes n)

/-- The ways to make up to a number of further rounds, more of them first. -/
def moreOutcomes : Nat → Option Nat → MatchState → List MatchState
  | 0, _, st => [st]
  | n + 1, began, st =>
    let here := some st.cursor.position
    if began = here then [st] else (body st).flatMap (moreOutcomes n here) ++ [st]

/-- The ways to make up to a number of further rounds, fewer of them first. -/
def fewerOutcomes : Nat → Option Nat → MatchState → List MatchState
  | 0, _, st => [st]
  | n + 1, began, st =>
    let here := some st.cursor.position
    st :: if began = here then [] else (body st).flatMap (fewerOutcomes n here)

/-- The first way to make a number of rounds, each settled before the next. -/
def settledOutcome? : Nat → MatchState → Option MatchState
  | 0, st => some st
  | n + 1, st => (body st).head?.bind (settledOutcome? n)

/-- Where as many further rounds as there are lead to, each settled before the next. -/
def lastOutcome : Nat → Option Nat → MatchState → MatchState
  | 0, _, st => st
  | n + 1, began, st =>
    let here := some st.cursor.position
    if began = here then st
    else
      match (body st).head? with
      | some next => lastOutcome n here next
      | none => st

end Rounds

def oneOutcomes (set : CharSet) (st : MatchState) : List MatchState :=
  match st.cursor.ahead with
  | [] => []
  | c :: rest =>
    if set.holds c then
      [{ st with cursor := ⟨st.cursor.position + 1, c :: st.cursor.behind, rest⟩ }]
    else []

def textOutcomes (fold : Fold) : List Char → MatchState → List MatchState
  | [], st => [st]
  | t :: text, st =>
    match st.cursor.ahead with
    | [] => []
    | c :: rest =>
      if fold.common c.toNat == fold.common t.toNat then
        textOutcomes fold text
          { st with cursor := ⟨st.cursor.position + 1, c :: st.cursor.behind, rest⟩ }
      else []

/-- The ways to match a pattern, in order. -/
def outcomes : Pattern → MatchState → List MatchState
  | empty, st => [st]
  | one set, st => oneOutcomes set st
  | anchor a, st => if a.holds st.cursor then [st] else []
  | seq first rest, st => (first.outcomes st).flatMap rest.outcomes
  | alt left right, st => left.outcomes st ++ right.outcomes st
  | group index body, st =>
    (body.outcomes st).map fun last =>
      last.remember index ⟨st.cursor.position, last.cursor.position⟩
  | again low high .greedy body, st =>
    (roundsOutcomes body.outcomes low st).flatMap fun st =>
      moreOutcomes body.outcomes (roundsLeft low high st) none st
  | again low high .lazy body, st =>
    (roundsOutcomes body.outcomes low st).flatMap fun st =>
      fewerOutcomes body.outcomes (roundsLeft low high st) none st
  | again low high .possessive body, st =>
    ((settledOutcome? body.outcomes low st).map fun settled =>
      lastOutcome body.outcomes (roundsLeft low high settled) none settled).toList
  | atomic body, st => (body.outcomes st).head?.toList
  | look side negated body, st =>
    let from? :=
      match side with
      | .ahead => some st.cursor
      | .behind width => st.cursor.backBy width.least
    let found := from?.bind fun cursor => (body.outcomes { st with cursor }).head?
    if negated then if found.isSome then [] else [st]
    else (found.map fun last => { st with spans := last.spans }).toList
  | back index fold, st =>
    match st.span? index with
    | none => []
    | some span => textOutcomes fold (st.between span) st
  | cond index yes no, st =>
    if (st.span? index).isSome then yes.outcomes st else no.outcomes st

/-! ### Matching is a search -/

theorem findSome?_flatMap {α β γ : Type} (xs : List α) (f : α → List β) (g : β → Option γ) :
    (xs.flatMap f).findSome? g = xs.findSome? fun x => (f x).findSome? g := by
  induction xs with
  | nil => rfl
  | cons x xs ih =>
    rw [List.flatMap_cons, List.findSome?_append, ih, List.findSome?_cons]
    cases (f x).findSome? g <;> rfl

theorem findSome?_some {α : Type} (xs : List α) : xs.findSome? some = xs.head? := by
  cases xs <;> rfl

def Searches (match? : Goal → Goal) (outcomes : MatchState → List MatchState) : Prop :=
  ∀ goal st, match? goal st = (outcomes st).findSome? goal

section Searches

variable {match? : Goal → Goal} {body : MatchState → List MatchState}
  (searches : Searches match? body)
include searches

theorem rounds_eq (goal : Goal) (n : Nat) (st : MatchState) :
    rounds match? goal n st = (roundsOutcomes body n st).findSome? goal := by
  induction n generalizing st with
  | zero => simp [rounds, roundsOutcomes]
  | succ n ih => rw [rounds, searches, roundsOutcomes, findSome?_flatMap, funext ih]

theorem moreRounds_eq (goal : Goal) (n : Nat) (began : Option Nat) (st : MatchState) :
    moreRounds match? goal n began st = (moreOutcomes body n began st).findSome? goal := by
  induction n generalizing began st with
  | zero => simp [moreRounds, moreOutcomes]
  | succ n ih =>
    simp only [moreRounds, moreOutcomes]
    split
    · simp
    · rw [searches, List.findSome?_append, findSome?_flatMap, funext (ih (some st.cursor.position))]
      cases (body st).findSome? _ <;> simp

theorem fewerRounds_eq (goal : Goal) (n : Nat) (began : Option Nat) (st : MatchState) :
    fewerRounds match? goal n began st = (fewerOutcomes body n began st).findSome? goal := by
  induction n generalizing began st with
  | zero => simp [fewerRounds, fewerOutcomes]
  | succ n ih =>
    simp only [fewerRounds, fewerOutcomes, List.findSome?_cons]
    cases goal st with
    | some last => rfl
    | none =>
      dsimp only
      split
      · rfl
      · rw [searches, findSome?_flatMap, funext (ih (some st.cursor.position))]

theorem settledRounds_eq (n : Nat) (st : MatchState) :
    settledRounds match? n st = settledOutcome? body n st := by
  induction n generalizing st with
  | zero => rfl
  | succ n ih =>
    rw [settledRounds, settledOutcome?, searches, findSome?_some]
    congr 1
    funext next
    exact ih next

theorem allRounds_eq (n : Nat) (began : Option Nat) (st : MatchState) :
    allRounds match? n began st = lastOutcome body n began st := by
  induction n generalizing began st with
  | zero => rfl
  | succ n ih =>
    simp only [allRounds, lastOutcome, searches some, findSome?_some]
    by_cases same : began = some st.cursor.position
    · rw [if_pos same, if_pos same]
    · rw [if_neg same, if_neg same]
      cases (body st).head? with
      | none => rfl
      | some next => exact ih _ next

end Searches

theorem runText_eq (fold : Fold) (goal : Goal) (text : List Char) (st : MatchState) :
    runText fold goal text st = (textOutcomes fold text st).findSome? goal := by
  induction text generalizing st with
  | nil => simp [runText, textOutcomes]
  | cons t text ih =>
    simp only [runText, textOutcomes]
    cases st.cursor.ahead with
    | nil => rfl
    | cons c rest =>
      dsimp only
      split
      · exact ih _
      · rfl

/-- Matching takes the first way that what follows can go on from. -/
theorem run_eq (p : Pattern) : Searches p.run p.outcomes := by
  intro goal st
  induction p generalizing goal st with
  | empty => simp [run, outcomes]
  | one set =>
    simp only [run, outcomes, runOne, oneOutcomes]
    cases st.cursor.ahead with
    | nil => rfl
    | cons c rest =>
      dsimp only
      split <;> simp
  | anchor a =>
    simp only [run, outcomes]
    split <;> simp
  | seq first rest first_ih rest_ih =>
    rw [run, first_ih, outcomes, findSome?_flatMap, funext (rest_ih goal)]
  | alt left right left_ih right_ih =>
    simp only [run, outcomes, List.findSome?_append, left_ih, right_ih]
    cases (left.outcomes st).findSome? goal <;> rfl
  | group index body ih =>
    simp only [run, outcomes, ih, List.findSome?_map]
    rfl
  | again low high manner body ih =>
    cases manner with
    | greedy =>
      rw [run, rounds_eq ih, outcomes, findSome?_flatMap]
      simp only [moreRounds_eq ih]
    | lazy =>
      rw [run, rounds_eq ih, outcomes, findSome?_flatMap]
      simp only [fewerRounds_eq ih]
    | possessive =>
      simp only [run, settledRounds_eq ih, allRounds_eq ih, outcomes]
      cases settledOutcome? body.outcomes low st <;> simp
  | atomic body ih =>
    simp only [run, outcomes, ih, findSome?_some]
    cases (body.outcomes st).head? <;> simp
  | look side negated body ih =>
    simp only [run, outcomes, ih, findSome?_some]
    generalize Option.bind _ _ = found
    cases found <;> cases negated <;> simp
  | back index fold =>
    simp only [run, outcomes]
    cases st.span? index with
    | none => rfl
    | some span => exact runText_eq fold goal _ st
  | cond index yes no yes_ih no_ih =>
    simp only [run, outcomes]
    split
    · exact yes_ih goal st
    · exact no_ih goal st

theorem mem_outcomes_of_run {p : Pattern} {st last : MatchState} (ran : p.run some st = some last) :
    last ∈ p.outcomes st := by
  rw [run_eq, findSome?_some] at ran
  exact List.mem_of_head? ran

/-! ### What matching keeps -/

def pass (st : MatchState) (c : Char) (rest : List Char) : MatchState :=
  { st with cursor := ⟨st.cursor.position + 1, c :: st.cursor.behind, rest⟩ }

section Keeps

variable {Kept : MatchState → MatchState → Prop} {body : MatchState → List MatchState}
  (refl : ∀ st, Kept st st) (trans : ∀ {a b c}, Kept a b → Kept b c → Kept a c)
include refl trans

theorem textOutcomes_keep {fold : Fold} {text : List Char} {st last : MatchState}
    (step : ∀ st c rest, st.cursor.ahead = c :: rest → Kept st (pass st c rest))
    (member : last ∈ textOutcomes fold text st) : Kept st last := by
  induction text generalizing st with
  | nil =>
    obtain rfl := List.mem_singleton.mp member
    exact refl _
  | cons t text ih =>
    simp only [textOutcomes] at member
    split at member
    · cases member
    · rename_i c rest ahead
      split at member
      · exact trans (step st c rest ahead) (ih member)
      · cases member

variable (keeps : ∀ st, ∀ last ∈ body st, Kept st last)
include keeps

theorem roundsOutcomes_keep (n : Nat) (st : MatchState) :
    ∀ last ∈ roundsOutcomes body n st, Kept st last := by
  induction n generalizing st with
  | zero => simp [roundsOutcomes, refl]
  | succ n ih =>
    intro last member
    obtain ⟨next, first, rest⟩ := List.mem_flatMap.mp member
    exact trans (keeps st next first) (ih next last rest)

theorem moreOutcomes_keep (n : Nat) (began : Option Nat) (st : MatchState) :
    ∀ last ∈ moreOutcomes body n began st, Kept st last := by
  induction n generalizing began st with
  | zero => simp [moreOutcomes, refl]
  | succ n ih =>
    intro last member
    simp only [moreOutcomes] at member
    split at member
    · simp_all
    · obtain member | member := List.mem_append.mp member
      · obtain ⟨next, first, rest⟩ := List.mem_flatMap.mp member
        exact trans (keeps st next first) (ih _ next last rest)
      · simp_all

theorem fewerOutcomes_keep (n : Nat) (began : Option Nat) (st : MatchState) :
    ∀ last ∈ fewerOutcomes body n began st, Kept st last := by
  induction n generalizing began st with
  | zero => simp [fewerOutcomes, refl]
  | succ n ih =>
    intro last member
    simp only [fewerOutcomes, List.mem_cons] at member
    obtain rfl | member := member
    · exact refl _
    · split at member
      · cases member
      · obtain ⟨next, first, rest⟩ := List.mem_flatMap.mp member
        exact trans (keeps st next first) (ih _ next last rest)

theorem settledOutcome?_keep {n : Nat} {st last : MatchState}
    (settled : settledOutcome? body n st = some last) : Kept st last := by
  induction n generalizing st with
  | zero =>
    cases settled
    exact refl _
  | succ n ih =>
    obtain ⟨next, first, rest⟩ := Option.bind_eq_some_iff.mp settled
    exact trans (keeps st next (List.mem_of_head? first)) (ih rest)

theorem lastOutcome_keep (n : Nat) (began : Option Nat) (st : MatchState) :
    Kept st (lastOutcome body n began st) := by
  induction n generalizing began st with
  | zero => exact refl _
  | succ n ih =>
    simp only [lastOutcome]
    split
    · exact refl _
    · split
      · rename_i next first
        exact trans (keeps st next (List.mem_of_head? first)) (ih _ next)
      · exact refl _

end Keeps

def components : Pattern → List Pattern
  | seq first rest => [first, rest]
  | alt left right => [left, right]
  | group _ body => [body]
  | again _ _ _ body => [body]
  | atomic body => [body]
  | look _ _ body => [body]
  | cond _ yes no => [yes, no]
  | _ => []

theorem constructs_component {p q : Pattern} (part : q ∈ p.components) {c : Construct}
    (used : c ∈ q.constructs) : c ∈ p.constructs := by
  cases p with
  | empty | one | anchor | back => cases part
  | seq | alt =>
    obtain rfl | part := List.mem_cons.mp part
    · exact List.mem_append_left _ used
    · obtain rfl := List.mem_singleton.mp part
      exact List.mem_append_right _ used
  | group | again | atomic | look =>
    obtain rfl := List.mem_singleton.mp part
    exact .tail _ used
  | cond =>
    obtain rfl | part := List.mem_cons.mp part
    · exact .tail _ (List.mem_append_left _ used)
    · obtain rfl := List.mem_singleton.mp part
      exact .tail _ (List.mem_append_right _ used)

/-- What matching keeps, if passing a character keeps it. `Good` holds for the patterns that keep it,
a set of characters or a reference back by itself, and a group perhaps because of what is inside. -/
theorem outcomes_keep (Kept : MatchState → MatchState → Prop)
    (refl : ∀ st, Kept st st) (trans : ∀ {a b c}, Kept a b → Kept b c → Kept a c)
    {Good : Pattern → Prop}
    (passed : ∀ {set st c rest}, Good (.one set) → set.holds c → st.cursor.ahead = c :: rest →
      Kept st (pass st c rest))
    (repeated : ∀ {index fold st c rest}, Good (.back index fold) → st.cursor.ahead = c :: rest →
      Kept st (pass st c rest))
    (looked : ∀ {st inner : MatchState} {cursor : Cursor}, Kept { st with cursor } inner →
      Kept st { st with spans := inner.spans })
    (inside : ∀ {p q}, Good p → (∀ index body, p ≠ .group index body) → q ∈ p.components → Good q)
    (group : ∀ {index body} {st inner : MatchState} {span : Span}, Good (.group index body) →
      inner ∈ body.outcomes st → (Good body → Kept st inner) → Kept st (inner.remember index span))
    {p : Pattern} {st last : MatchState} (good : Good p) (member : last ∈ p.outcomes st) :
    Kept st last := by
  induction p generalizing st last with
  | empty =>
    obtain rfl := List.mem_singleton.mp member
    exact refl _
  | one set =>
    simp only [outcomes, oneOutcomes] at member
    split at member
    · cases member
    · rename_i c rest ahead
      split at member
      · rename_i holds
        obtain rfl := List.mem_singleton.mp member
        exact passed good holds ahead
      · cases member
  | anchor a =>
    simp only [outcomes] at member
    split at member
    · obtain rfl := List.mem_singleton.mp member
      exact refl _
    · cases member
  | seq first rest first_ih rest_ih =>
    obtain ⟨next, before, after⟩ := List.mem_flatMap.mp member
    exact trans (first_ih (inside good nofun (by simp [components])) before)
      (rest_ih (inside good nofun (by simp [components])) after)
  | alt left right left_ih right_ih =>
    obtain before | after := List.mem_append.mp member
    · exact left_ih (inside good nofun (by simp [components])) before
    · exact right_ih (inside good nofun (by simp [components])) after
  | group index body ih =>
    obtain ⟨inner, found, rfl⟩ := List.mem_map.mp member
    exact group good found fun good => ih good found
  | again low high manner body ih =>
    have within : Good body := inside good nofun (by simp [components])
    have keeps : ∀ st, ∀ last ∈ body.outcomes st, Kept st last := fun st last => ih within
    cases manner with
    | greedy =>
      obtain ⟨next, before, after⟩ := List.mem_flatMap.mp member
      exact trans (roundsOutcomes_keep refl trans keeps _ _ _ before)
        (moreOutcomes_keep refl trans keeps _ _ _ _ after)
    | lazy =>
      obtain ⟨next, before, after⟩ := List.mem_flatMap.mp member
      exact trans (roundsOutcomes_keep refl trans keeps _ _ _ before)
        (fewerOutcomes_keep refl trans keeps _ _ _ _ after)
    | possessive =>
      simp only [outcomes, Option.mem_toList, Option.map_eq_some_iff] at member
      obtain ⟨next, before, rfl⟩ := member
      exact trans (settledOutcome?_keep refl trans keeps before)
        (lastOutcome_keep refl trans keeps _ _ _)
  | atomic body ih =>
    have within : Good body := inside good nofun (by simp [components])
    exact ih within (List.mem_of_head? (Option.mem_toList.mp member))
  | look side negated body ih =>
    have within : Good body := inside good nofun (by simp [components])
    simp only [outcomes] at member
    cases negated with
    | true =>
      simp only [if_true] at member
      generalize Option.isSome _ = found at member
      cases found with
      | true => cases member
      | false =>
        obtain rfl := List.mem_singleton.mp member
        exact refl _
    | false =>
      simp only [Bool.false_eq_true, if_false, Option.mem_toList, Option.map_eq_some_iff] at member
      obtain ⟨inner, found, rfl⟩ := member
      obtain ⟨cursor, _, first⟩ := Option.bind_eq_some_iff.mp found
      exact looked (ih within (List.mem_of_head? first))
  | back index fold =>
    simp only [outcomes] at member
    split at member
    · cases member
    · exact textOutcomes_keep refl trans (fun _ _ _ => repeated good) member
  | cond index yes no yes_ih no_ih =>
    simp only [outcomes] at member
    split at member
    · exact yes_ih (inside good nofun (by simp [components])) member
    · exact no_ih (inside good nofun (by simp [components])) member

/-- Matching changes what the groups have matched through groups alone. -/
theorem spans_keep_of (Kept : List (Option Span) → List (Option Span) → Prop)
    (refl : ∀ spans, Kept spans spans) (trans : ∀ {a b c}, Kept a b → Kept b c → Kept a c)
    {Good : Pattern → Prop}
    (inside : ∀ {p q}, Good p → (∀ index body, p ≠ .group index body) → q ∈ p.components → Good q)
    (group : ∀ {index body} {st inner : MatchState} {span : Span}, Good (.group index body) →
      inner ∈ body.outcomes st → (Good body → Kept st.spans inner.spans) →
      Kept st.spans (inner.spans.set (index - 1) (some span)))
    {p : Pattern} {st last : MatchState} (good : Good p) (member : last ∈ p.outcomes st) :
    Kept st.spans last.spans := by
  exact outcomes_keep (fun st last => Kept st.spans last.spans) (fun st => refl st.spans) trans
    (fun _ _ _ => refl _) (fun _ _ => refl _) id inside group good member

theorem spans_keep (Kept : List (Option Span) → List (Option Span) → Prop)
    (refl : ∀ spans, Kept spans spans) (trans : ∀ {a b c}, Kept a b → Kept b c → Kept a c)
    {p : Pattern} {st last : MatchState}
    (group : p.Within fun c => c = .group → ∀ spans index span?, Kept spans (spans.set index span?))
    (member : last ∈ p.outcomes st) : Kept st.spans last.spans := by
  refine spans_keep_of Kept refl trans ?_ ?_ group member
  · intro p q good _ part c used
    exact good c (constructs_component part used)
  · intro index body st inner span good _ kept
    have parts := List.forall_mem_cons.mp good
    exact trans (kept parts.2) (parts.1 rfl _ _ _)

/-- Matching keeps the number of groups. -/
theorem length_spans {p : Pattern} {st last : MatchState} (member : last ∈ p.outcomes st) :
    last.spans.length = st.spans.length :=
  spans_keep (fun spans spans' => spans'.length = spans.length) (fun _ => rfl)
    (fun first second => second.trans first) (fun _ _ _ _ _ _ => List.length_set) member

/-- A pattern without groups leaves what they have matched. -/
theorem spans_of_within {p : Pattern} {st last : MatchState} (within : p.Within (· ≠ .group))
    (member : last ∈ p.outcomes st) : last.spans = st.spans :=
  (spans_keep Eq (fun _ => rfl) Eq.trans
    (fun c used asked => absurd asked (within c used)) member).symm

end LineCommand.Pattern

namespace LineCommand.Expression
open Pattern

/-- A match has a text, or none, for every group. -/
theorem length_match {e : Expression} {line : List Char} {captures : List (Option (List Char))}
    (matched : e.match? line = some captures) : captures.length = e.groups := by
  obtain ⟨last, ran, rfl⟩ := Option.map_eq_some_iff.mp matched
  rw [List.length_map, length_spans (mem_outcomes_of_run ran), List.length_replicate]

end LineCommand.Expression
