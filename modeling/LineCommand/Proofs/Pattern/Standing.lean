import LineCommand.Proofs.Pattern.Branches

/-! Where a part ends up while a text is read. Only the last part of a sequence can still be
repeated; a part behind which something stands stays as it is, in the alternative in which it was
read. Which alternative that is depends on the bars that stand between no parentheses alone. -/
namespace LineCommand.Pattern

/-- A pattern is a part of the `k`-th alternative, given the closed ones, backwards, and the parts
of the open one that stay. -/
def Stands (k : Nat) (q : Pattern) (closed : List Pattern) (stay : List Part) : Prop :=
  (∃ ps, closed.reverse[k]? = some (sequence ps) ∧ q ∈ ps) ∨
    k = closed.length ∧ ∃ part ∈ stay, part.pattern = q

section Stands

variable {k : Nat} {q : Pattern} {closed : List Pattern} {stay parts : List Part}

theorem Stands.mono (stands : Stands k q closed stay) (more : stay ⊆ parts) :
    Stands k q closed parts := by
  rcases stands with closed | ⟨last, part, member, same⟩
  · exact .inl closed
  · exact .inr ⟨last, part, more member, same⟩

/-- What stands in the open alternative stands in it once it is closed. -/
theorem Stands.close (stands : Stands k q closed stay) (all : stay ⊆ parts) :
    ∃ ps, (sequence (parts.reverse.map Part.pattern) :: closed).reverse[k]? =
      some (sequence ps) ∧ q ∈ ps := by
  rw [List.reverse_cons]
  rcases stands with ⟨ps, listed, member⟩ | ⟨rfl, part, member, rfl⟩
  · have room := (List.getElem?_eq_some_iff.mp listed).1
    exact ⟨ps, by rw [List.getElem?_append_left room, listed], member⟩
  · have last : (closed.reverse ++ [sequence (parts.reverse.map Part.pattern)])[closed.length]? =
        some (sequence (parts.reverse.map Part.pattern)) := by
      rw [← List.length_reverse]
      exact List.getElem?_concat_length
    exact ⟨_, last, List.mem_map_of_mem (List.mem_reverse.mpr (all member))⟩

end Stands

/-- The outermost one of several scopes, the innermost of which is given apart. -/
def Scope.floor (s : Scope) : List Scope → Scope
  | [] => s
  | around :: outer => around.floor outer

namespace Progress

variable {r s t next : Progress} {k : Nat} {q : Pattern} {flags : PatternFlags} {xs : List Lexeme}

/-! ### The outermost scope -/

def floor (r : Progress) : Scope := r.scope.floor r.outer

/-- The parts of the outermost scope that no repetition can reach: while an inner scope is open all
of them, else all but the last one. -/
def settled (r : Progress) : List Part :=
  match r.outer with
  | [] => r.floor.parts.tail
  | _ :: _ => r.floor.parts

theorem settled_subset (r : Progress) : r.settled ⊆ r.floor.parts := by
  unfold settled
  split
  · exact (List.tail_sublist _).subset
  · exact List.Subset.refl _

/-- Reading on keeps what is settled in the outermost scope, or closes an alternative of it. -/
theorem Moves.floor {opened : Nat} (moves : r.Moves next opened) :
    next.floor.role = r.floor.role ∧
      (next.floor.closed = r.floor.closed ∧ r.settled ⊆ next.settled ∨
        next.floor.closed =
          sequence (r.floor.parts.reverse.map Part.pattern) :: r.floor.closed) := by
  have fewer : ∀ parts : List Part, parts.tail ⊆ parts := fun _ => (List.tail_sublist _).subset
  unfold settled Progress.floor
  cases above : r.outer with
  | nil =>
    cases moves with
    | stay flags kept scope outer =>
      rw [outer, above, scope]
      exact ⟨rfl, .inl ⟨rfl, List.Subset.refl _⟩⟩
    | add p form bare scope outer =>
      rw [outer, above, scope]
      exact ⟨rfl, .inl ⟨rfl, fewer _⟩⟩
    | again low high manner last rest parts scope outer =>
      rw [outer, above, scope]
      refine ⟨rfl, .inl ⟨rfl, ?_⟩⟩
      change r.scope.parts.tail ⊆ rest
      rw [parts]
      exact List.Subset.refl _
    | alternative scope outer =>
      rw [outer, above, scope]
      exact ⟨rfl, .inr rfl⟩
    | enter role start flags bare scope outer | group start flags scope outer =>
      rw [outer, above]
      exact ⟨rfl, .inl ⟨rfl, fewer _⟩⟩
    | leave around enclosed scope =>
      rw [above] at enclosed
      cases enclosed
  | cons around outer' =>
    cases moves with
    | stay flags kept scope outer | add p form bare scope outer
    | again low high manner last rest parts scope outer | alternative scope outer
    | enter role start flags bare scope outer | group start flags scope outer =>
      rw [outer, above]
      exact ⟨rfl, .inl ⟨rfl, List.Subset.refl _⟩⟩
    | leave around' enclosed scope =>
      rw [above] at enclosed
      obtain ⟨rfl, rfl⟩ := List.cons.inj enclosed
      rw [scope]
      cases next.outer with
      | nil => exact ⟨rfl, .inl ⟨rfl, List.Subset.refl _⟩⟩
      | cons outermost others => exact ⟨rfl, .inl ⟨rfl, List.Subset.refl _⟩⟩

/-- The outermost scope is the whole text, its alternatives being sequences. -/
def Rooted (r : Progress) : Prop :=
  r.floor.role = .whole ∧ ∀ p ∈ r.floor.closed, p.branches = [p]

theorem Rooted.run (rooted : r.Rooted) (ran : r.run xs = .ok next) : next.Rooted := by
  induction xs generalizing r with
  | nil =>
    cases ran
    exact rooted
  | cons x xs ih =>
    obtain ⟨between, stepped, rest⟩ := run_cons.mp ran
    refine ih ?_ rest
    obtain ⟨role, ⟨closed, _⟩ | closed⟩ := (step_moves stepped).floor
    all_goals
      refine ⟨role.trans rooted.1, ?_⟩
      rw [closed]
    · exact rooted.2
    · exact List.forall_mem_cons.mpr ⟨branches_sequence _, rooted.2⟩

theorem rooted_start (flags : PatternFlags) : (start flags).Rooted := ⟨rfl, nofun⟩

/-- Once all parentheses are closed, what has been read has the alternatives of the outermost
scope. -/
theorem Rooted.branches (rooted : r.Rooted) (outer : r.outer = []) :
    (r.scope.toPattern r.widths).branches = r.scope.alternatives := by
  have bottom : r.floor = r.scope := by
    rw [floor, outer]
    rfl
  rw [Rooted, bottom] at rooted
  rw [Scope.toPattern, rooted.1]
  apply branches_choice
  · simp [Scope.alternatives]
  · intro p member
    rw [Scope.alternatives, List.mem_reverse] at member
    rcases List.mem_cons.mp member with rfl | closed
    · exact branches_sequence _
    · exact rooted.2 p closed

theorem length_alternatives (s : Scope) : s.alternatives.length = s.closed.length + 1 := by
  rw [Scope.alternatives, List.length_reverse, List.length_cons]

/-! ### Parts that stay -/

/-- A pattern is for good a part of the `k`-th alternative of the outermost scope. -/
def Stands (k : Nat) (q : Pattern) (r : Progress) : Prop :=
  Pattern.Stands k q r.floor.closed r.settled

/-- What stands is not changed by reading on. -/
theorem Stands.run (stands : r.Stands k q) (ran : r.run xs = .ok next) : next.Stands k q := by
  induction xs generalizing r with
  | nil =>
    cases ran
    exact stands
  | cons x xs ih =>
    obtain ⟨between, stepped, rest⟩ := run_cons.mp ran
    refine ih ?_ rest
    unfold Stands at stands ⊢
    obtain ⟨_, ⟨closed, kept⟩ | closed⟩ := (step_moves stepped).floor
    · rw [closed]
      exact stands.mono kept
    · rw [closed]
      exact .inl (stands.close r.settled_subset)

/-- A part stands once a parenthesis or a set is read behind it. -/
theorem stands_of_step {x : Lexeme} {part : Part} (outer : r.outer = [])
    (member : part ∈ r.scope.parts)
    (parted : x.token = .openPlain ∨ ∃ items negated, x.token = .set items negated)
    (stepped : r.step x = .ok next) : next.Stands r.scope.closed.length part.pattern := by
  obtain ⟨taken, took, rfl⟩ := step_eq_ok stepped
  rcases parted with token | ⟨items, negated, token⟩
  all_goals
    rw [token] at took
    cases took
    refine .inr ⟨?_, part, ?_, rfl⟩
    · simp [floor, enter, Progress.add, Scope.add, outer, Scope.floor]
    · simpa [floor, settled, enter, Progress.add, Scope.add, outer, Scope.floor] using member

/-- What stands when all parentheses are closed is a part of an alternative. -/
theorem Stands.alternatives (stands : r.Stands k q) (outer : r.outer = []) :
    ∃ ps, r.scope.alternatives[k]? = some (sequence ps) ∧ q ∈ ps := by
  have closed := stands.close r.settled_subset
  simp only [floor, outer, Scope.floor] at closed
  exact closed

/-! ### Counting alternatives -/

/-- The numbers for a text that is read alone, and for the same text where it stands behind `c`
alternatives of a scope, the ones around which are numbered by `base`. -/
def Lifted (c : Nat) (base ns ms : List Nat) : Prop :=
  ∃ front n, ns = front ++ [n] ∧ ms = front ++ (n + c) :: base

theorem Lifted.tally {c : Nat} {base ns ms : List Nat} (lifted : Lifted c base ns ms)
    {token : Token} (inside : token.tally ns ≠ []) :
    Lifted c base (token.tally ns) (token.tally ms) := by
  obtain ⟨front, n, rfl, rfl⟩ := lifted
  cases token with
  | bar =>
    cases front with
    | nil => exact ⟨[], n + 1, rfl, by simp [Token.tally, Nat.add_right_comm]⟩
    | cons m front => exact ⟨(m + 1) :: front, n, rfl, rfl⟩
  | openGroup | openPlain | openAtomic | openLook | openNumbered | openNamed | openFlags =>
    exact ⟨0 :: front, n, rfl, rfl⟩
  | close =>
    cases front with
    | nil => exact absurd rfl inside
    | cons m front => exact ⟨front, n, rfl, rfl⟩
  | _ => exact ⟨front, n, rfl, rfl⟩

theorem run_lifted {c : Nat} {base : List Nat} {alone : Progress}
    (lifted : Lifted c base r.closings s.closings) (ranAlone : r.run xs = .ok alone)
    (ran : s.run xs = .ok t) : Lifted c base alone.closings t.closings := by
  induction xs generalizing r s with
  | nil =>
    cases ranAlone
    cases ran
    exact lifted
  | cons x xs ih =>
    obtain ⟨between, stepped, rest⟩ := run_cons.mp ranAlone
    obtain ⟨between', stepped', rest'⟩ := run_cons.mp ran
    have here := (step_took stepped).closings
    have inside : x.token.tally r.closings ≠ [] := by
      rw [← here]
      exact List.cons_ne_nil _ _
    refine ih ?_ rest rest'
    rw [here, (step_took stepped').closings]
    exact lifted.tally inside

/-- A text that is balanced by itself closes as many alternatives in the scope where it is read as
it does alone. -/
theorem length_closed_of_run {alone : Progress} (ranAlone : (start flags).run xs = .ok alone)
    (balanced : alone.outer = []) (ran : s.run xs = .ok t) :
    t.scope.closed.length = s.scope.closed.length + alone.scope.closed.length := by
  have start : Lifted s.scope.closed.length (s.outer.map (·.closed.length)) (start flags).closings
      s.closings := ⟨[], 0, rfl, by rw [Nat.zero_add]; rfl⟩
  obtain ⟨front, n, here, there⟩ := run_lifted start ranAlone ran
  rw [closings, balanced] at here
  cases front with
  | nil =>
    obtain rfl : alone.scope.closed.length = n := (List.cons.inj here).1
    rw [Nat.add_comm]
    exact (List.cons.inj there).1
  | cons m front =>
    have sizes := congrArg List.length here
    simp at sizes

end Progress
end LineCommand.Pattern
