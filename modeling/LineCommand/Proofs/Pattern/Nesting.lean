import Mathlib.Data.List.Basic
import LineCommand.Proofs.Pattern.Numbering

/-! Groups of a text that is a part of a longer one. What is read between parentheses stays between
them, so that the group around it has just the groups of that text inside. This holds for every
pattern, whatever it refers back to. -/
namespace LineCommand.Pattern

def subpatterns : Pattern → List Pattern
  | seq first rest => seq first rest :: (first.subpatterns ++ rest.subpatterns)
  | alt left right => alt left right :: (left.subpatterns ++ right.subpatterns)
  | group index body => group index body :: body.subpatterns
  | again low high manner body => again low high manner body :: body.subpatterns
  | atomic body => atomic body :: body.subpatterns
  | look side negated body => look side negated body :: body.subpatterns
  | cond index yes no => cond index yes no :: (yes.subpatterns ++ no.subpatterns)
  | p => [p]

variable {p q : Pattern}

theorem mem_subpatterns_self (p : Pattern) : p ∈ p.subpatterns := by
  cases p <;> exact List.mem_cons_self

theorem mem_subpatterns_sequence {ps : List Pattern} (member : p ∈ ps) (inside : q ∈ p.subpatterns) :
    q ∈ (sequence ps).subpatterns := by
  induction ps with
  | nil => cases member
  | cons r ps ih =>
    refine List.mem_cons_of_mem _ (List.mem_append.mpr ?_)
    obtain rfl | member := List.mem_cons.mp member
    · exact .inl inside
    · exact .inr (ih member)

theorem mem_subpatterns_choice {ps : List Pattern} (member : p ∈ ps) (inside : q ∈ p.subpatterns) :
    q ∈ (choice ps).subpatterns := by
  induction ps with
  | nil => cases member
  | cons r ps ih =>
    cases ps with
    | nil =>
      obtain rfl := List.mem_singleton.mp member
      exact inside
    | cons r' ps =>
      refine List.mem_cons_of_mem _ (List.mem_append.mpr ?_)
      obtain rfl | member := List.mem_cons.mp member
      · exact .inl inside
      · exact .inr (ih member)

/-! ### Patterns stay -/

namespace Scope

/-- A pattern is somewhere in what a scope has read. -/
def Holds (q : Pattern) (s : Scope) : Prop :=
  (∃ p ∈ s.closed, q ∈ p.subpatterns) ∨ ∃ part ∈ s.parts, q ∈ part.pattern.subpatterns

variable {s : Scope}

theorem Holds.sequence (parts : ∃ part ∈ s.parts, q ∈ part.pattern.subpatterns) :
    q ∈ (Pattern.sequence (s.parts.reverse.map Part.pattern)).subpatterns := by
  obtain ⟨part, member, inside⟩ := parts
  exact mem_subpatterns_sequence
    (List.mem_map_of_mem (f := Part.pattern) (List.mem_reverse.mpr member)) inside

theorem Holds.alternatives (holds : s.Holds q) : ∃ p ∈ s.alternatives, q ∈ p.subpatterns := by
  simp only [Scope.alternatives, List.mem_reverse]
  obtain ⟨p, member, inside⟩ | parts := holds
  · exact ⟨p, .tail _ member, inside⟩
  · exact ⟨_, List.mem_cons_self, Holds.sequence parts⟩

theorem Holds.toPattern (holds : s.Holds q) (widths : Nat → Width) :
    q ∈ (s.toPattern widths).subpatterns := by
  obtain ⟨p, member, inside⟩ := holds.alternatives
  have body := mem_subpatterns_choice member inside
  unfold Scope.toPattern
  cases s.role with
  | whole | plain => exact body
  | capture | atomic | look => exact .tail _ body
  | condition index =>
    dsimp only
    split
    · rename_i yes no both
      rw [both] at member
      refine .tail _ (List.mem_append.mpr ?_)
      obtain rfl | member := List.mem_cons.mp member
      · exact .inl inside
      · obtain rfl := List.mem_singleton.mp member
        exact .inr inside
    · exact .tail _ (List.mem_append_left _ body)

theorem Holds.add (holds : s.Holds q) (p : Pattern) (form : PartForm) : (s.add p form).Holds q := by
  obtain closed | ⟨part, member, inside⟩ := holds
  · exact .inl closed
  · exact .inr ⟨part, .tail _ member, inside⟩

theorem holds_add (inside : q ∈ p.subpatterns) (form : PartForm) : (s.add p form).Holds q :=
  .inr ⟨_, List.mem_cons_self, inside⟩

end Scope

namespace Progress

variable {r next : Progress}

/-- A pattern is somewhere in what has been read. -/
def Holds (q : Pattern) (r : Progress) : Prop := ∃ s ∈ r.scope :: r.outer, s.Holds q

/-- What has been read stays. -/
theorem Holds.move (holds : r.Holds q) {opened : Nat} (moves : r.Moves next opened) :
    next.Holds q := by
  unfold Holds at holds ⊢
  rw [List.exists_mem_cons_iff] at holds ⊢
  cases moves with
  | stay flags same scope outer =>
    rw [scope, outer]
    exact holds
  | add p form bare scope outer =>
    rw [scope, outer]
    exact holds.imp_left (·.add _ _)
  | again low high manner last rest parts scope outer =>
    rw [scope, outer]
    refine holds.imp_left fun held => held.imp_right fun held => ?_
    rw [parts, List.exists_mem_cons_iff] at held
    exact (List.exists_mem_cons_iff _ _ _).mpr (held.imp_left (.tail _))
  | alternative scope outer =>
    rw [scope, outer]
    refine holds.imp_left fun held => .inl ?_
    rw [List.exists_mem_cons_iff]
    exact held.symm.imp_left Scope.Holds.sequence
  | enter role start flags bare scope outer | group start flags scope outer =>
    rw [outer, List.exists_mem_cons_iff]
    exact .inr holds
  | leave around enclosed scope =>
    rw [enclosed, List.exists_mem_cons_iff] at holds
    rw [scope]
    obtain here | there | further := holds
    · exact .inl (Scope.holds_add (here.toPattern _) _)
    · exact .inl (there.add _ _)
    · exact .inr further

theorem Holds.run (holds : r.Holds q) {xs : List Lexeme} (ran : r.run xs = .ok next) :
    next.Holds q := by
  induction xs generalizing r with
  | nil =>
    cases ran
    exact holds
  | cons x xs ih =>
    obtain ⟨between, stepped, rest⟩ := run_cons.mp ran
    exact ih (holds.move (step_moves stepped)) rest

/-! ### Scopes stay -/

/-- Reading inside a scope for `role` under `flags`, around which are the scopes `base`. -/
def Inside (role : Role) (flags : PatternFlags) (base : List Scope) (r : Progress) : Prop :=
  ∃ front top, r.scope :: r.outer = front ++ top :: base ∧ top.role = role ∧ top.flags = flags

/-- Reading stays inside a scope as long as it does not close it. -/
theorem Inside.move {role : Role} {flags : PatternFlags} {base : List Scope}
    (inside : r.Inside role flags base) (begun : r.Begun) {opened : Nat}
    (moves : r.Moves next opened) (deep : base.length ≤ next.outer.length) :
    next.Inside role flags base := by
  obtain ⟨front, top, scopes, same⟩ := inside
  have kept : next.scope.role = r.scope.role ∧ next.scope.flags = r.scope.flags →
      next.outer = r.outer → next.Inside role flags base := by
    rintro ⟨role, flags⟩ outer
    cases front with
    | nil =>
      obtain ⟨rfl, rfl⟩ := List.cons.inj scopes
      exact ⟨[], next.scope, by rw [outer]; rfl, role.trans same.1, flags.trans same.2⟩
    | cons s front =>
      obtain ⟨rfl, below⟩ := List.cons.inj scopes
      exact ⟨next.scope :: front, top, by rw [outer, below]; rfl, same⟩
  cases moves with
  | stay flags unchanged scope outer => exact kept (by rw [scope, unchanged begun]; simp) outer
  | alternative scope outer => exact kept (by rw [scope]; simp) outer
  | add p form bare scope outer => exact kept (by rw [scope]; simp [Scope.add]) outer
  | again low high manner last rest parts scope outer => exact kept (by rw [scope]; simp) outer
  | enter role start flags bare scope outer | group start flags scope outer =>
    exact ⟨next.scope :: front, top, by rw [outer, scopes]; rfl, same⟩
  | leave around enclosed scope =>
    rw [enclosed] at scopes
    have around' : next.scope.role = around.role ∧ next.scope.flags = around.flags := by
      rw [scope]
      exact ⟨rfl, rfl⟩
    cases front with
    | nil =>
      have size := congrArg List.length scopes
      simp only [List.length_cons, List.nil_append] at size
      omega
    | cons s front =>
      obtain ⟨_, below⟩ := List.cons.inj scopes
      cases front with
      | nil =>
        obtain ⟨rfl, rfl⟩ := List.cons.inj below
        exact ⟨[], next.scope, rfl, around'.1.trans same.1, around'.2.trans same.2⟩
      | cons s' front =>
        obtain ⟨_, below⟩ := List.cons.inj below
        exact ⟨next.scope :: front, top, by rw [below]; rfl, same⟩

/-- How deep a token leads depends on nothing but the token and the depth before it. -/
theorem length_nest (token : Token) {vs ws : List Bool} (inside : vs ≠ []) {n : Nat}
    (deeper : ws.length = vs.length + n) :
    (token.nest ws).length = (token.nest vs).length + n := by
  have positive : 0 < vs.length := List.length_pos_of_ne_nil inside
  cases token <;> simp only [Token.nest, List.length_cons, List.length_tail] <;> omega

theorem step_deeper {x : Lexeme} {r s r' s' : Progress} {n : Nat}
    (deeper : s.outer.length = r.outer.length + n) (alone : r.step x = .ok r')
    (stepped : s.step x = .ok s') : s'.outer.length = r'.outer.length + n := by
  have size : ∀ r : Progress, r.verbosity.length = r.outer.length + 1 := by
    intro r
    rw [verbosity, List.length_map, List.length_cons]
  have before : s.verbosity.length = r.verbosity.length + n := by
    rw [size, size]
    omega
  have inside : r.verbosity ≠ [] := List.cons_ne_nil _ _
  have after := length_nest x.token inside before
  rw [← (step_took alone).verbosity, ← (step_took stepped).verbosity, size, size] at after
  omega

theorem run_inside {xs : List Lexeme} {role : Role} {flags : PatternFlags} {base : List Scope}
    {r s r' s' : Progress} (inside : s.Inside role flags base) (begun : s.Begun)
    (deeper : s.outer.length = r.outer.length + base.length) (alone : r.run xs = .ok r')
    (ran : s.run xs = .ok s') :
    s'.Inside role flags base ∧ s'.outer.length = r'.outer.length + base.length := by
  induction xs generalizing r s with
  | nil =>
    cases alone
    cases ran
    exact ⟨inside, deeper⟩
  | cons x xs ih =>
    obtain ⟨between, stepped, rest⟩ := run_cons.mp alone
    obtain ⟨between', stepped', rest'⟩ := run_cons.mp ran
    have still := step_deeper deeper stepped stepped'
    have goesOn := ((step_took stepped').begun begun).1
    exact ih (inside.move begun (step_moves stepped') (by omega)) goesOn still rest rest'

/-- Reading has come back to the scope where it was before. -/
structure SameScope (s t : Progress) : Prop where
  outer : t.outer = s.outer
  role : t.scope.role = s.scope.role
  flags : t.scope.flags = s.scope.flags

theorem SameScope.trans {r s t : Progress} (first : r.SameScope s) (second : s.SameScope t) :
    r.SameScope t :=
  ⟨second.outer.trans first.outer, second.role.trans first.role, second.flags.trans first.flags⟩

def Balanced (flags : PatternFlags) (xs : List Lexeme) : Prop :=
  ∃ alone, (start flags).run xs = .ok alone ∧ alone.outer = []

/-- Reading a text that is balanced by itself comes back to the scope where it began. -/
theorem Balanced.run {xs : List Lexeme} {flags : PatternFlags} {s t : Progress}
    (balanced : Balanced flags xs) (begun : s.Begun) (ran : s.run xs = .ok t) :
    s.SameScope t := by
  obtain ⟨alone, ranAlone, closed⟩ := balanced
  have within : s.Inside s.scope.role s.scope.flags s.outer := ⟨[], s.scope, rfl, rfl, rfl⟩
  have deeper : s.outer.length = (start flags).outer.length + s.outer.length :=
    (Nat.zero_add _).symm
  obtain ⟨⟨front, top, scopes, same⟩, size⟩ := run_inside within begun deeper ranAlone ran
  have sizes := congrArg List.length scopes
  simp only [closed, List.length_append, List.length_cons, List.length_nil] at size sizes
  obtain rfl : front = [] := List.eq_nil_of_length_eq_zero (by omega)
  obtain ⟨rfl, outer⟩ := List.cons.inj scopes
  exact ⟨outer, same.1, same.2⟩

/-! ### A text in a group -/

/-- Between parentheses that make a group, a text that is balanced by itself makes the inside of that
group, and its groups are numbered on from there. The group is one more part of the scope around. -/
theorem run_group {xs : List Lexeme} {flags : PatternFlags} {s t : Progress}
    (balanced : Balanced flags xs)
    (ran : s.run (⟨.openGroup none, 1⟩ :: (xs ++ [⟨.close, 1⟩])) = .ok t) :
    ∃ opened inside : Progress, opened.scope.flags = s.scope.flags ∧
      opened.groups.length = s.groups.length + 1 ∧ opened.run xs = .ok inside ∧
      (choice inside.scope.alternatives).numbers = List.range' (s.groups.length + 2) (opens xs) ∧
      t.outer = s.outer ∧ t.scope =
        s.scope.add (.group (s.groups.length + 1) (choice inside.scope.alternatives)) .plain := by
  obtain ⟨opened, stepped, ran⟩ := run_cons.mp ran
  have scope : opened.scope = ⟨.capture (s.groups.length + 1), s.position, s.scope.flags, [], []⟩ ∧
      opened.outer = s.scope :: s.outer := by
    cases stepped
    exact ⟨rfl, rfl⟩
  obtain ⟨scope, outer⟩ := scope
  have count : opened.groups.length = s.groups.length + 1 := (step_took stepped).groups
  have before := (step_moves stepped).numbers
  obtain ⟨inside, ranText, ran⟩ := run_append.mp ran
  have begun : opened.Begun := .inl (outer ▸ List.cons_ne_nil _ _)
  obtain ⟨outer', role, _⟩ := balanced.run begun ranText
  have after := run_numbers ranText
  obtain ⟨closed, stepped, done⟩ := run_cons.mp ran
  cases done
  obtain ⟨left, took, rfl⟩ := step_eq_ok stepped
  obtain ⟨around, below, groups, limit, enclosed, _, rfl⟩ := leave_eq_ok took
  rw [outer', outer] at enclosed
  obtain ⟨rfl, rfl⟩ := List.cons.inj enclosed
  refine ⟨opened, inside, by rw [scope], count, ranText, ?_, rfl, ?_⟩
  · -- The scopes around the group are the same before and after its text.
    have here : inside.numbers =
        s.numbers ++ (s.groups.length + 1) :: inside.scope.inside := by
      have own : inside.scope.numbers = (s.groups.length + 1) :: inside.scope.inside := by
        rw [Scope.numbers, role, scope]
        rfl
      rw [numbers, outer', outer, own, numbers, List.reverse_cons, List.flatMap_append,
        List.flatMap_singleton]
    rw [here, before, count, List.append_assoc, List.append_cancel_left_eq] at after
    rw [Scope.numbers_alternatives]
    exact (List.cons.inj after).2
  · change s.scope.add (inside.scope.toPattern inside.widths) .plain = _
    rw [Scope.toPattern, role, scope]

end Progress
end LineCommand.Pattern
