import LineCommand.Proofs.Pattern.Progress

/-! How groups are numbered: each one is given the next number where it is opened. From the left, and
outer groups before the ones inside, the numbers of a pattern run from one on. -/
namespace LineCommand.Pattern

/-- The numbers of the groups, from the left, outer groups before the ones inside. -/
def numbers : Pattern → List Nat
  | seq first rest => first.numbers ++ rest.numbers
  | alt left right => left.numbers ++ right.numbers
  | group index body => index :: body.numbers
  | again _ _ _ body => body.numbers
  | atomic body => body.numbers
  | look _ _ body => body.numbers
  | cond _ yes no => yes.numbers ++ no.numbers
  | _ => []

theorem numbers_sequence (ps : List Pattern) : (sequence ps).numbers = ps.flatMap numbers := by
  induction ps with
  | nil => rfl
  | cons p ps ih => exact congrArg (p.numbers ++ ·) ih

theorem numbers_choice (ps : List Pattern) : (choice ps).numbers = ps.flatMap numbers := by
  induction ps with
  | nil => rfl
  | cons p ps ih =>
    cases ps with
    | nil => simp [choice]
    | cons q qs => exact congrArg (p.numbers ++ ·) ih

def Role.number? : Role → Option Nat
  | .capture index => some index
  | _ => none

namespace Scope

def inside (s : Scope) : List Nat :=
  s.closed.reverse.flatMap Pattern.numbers ++ s.parts.reverse.flatMap (·.pattern.numbers)

def numbers (s : Scope) : List Nat := s.role.number?.toList ++ s.inside

theorem numbers_alternatives (s : Scope) : (choice s.alternatives).numbers = s.inside := by
  rw [numbers_choice, alternatives, List.reverse_cons, List.flatMap_append, List.flatMap_singleton,
    numbers_sequence, List.flatMap_map, inside]

theorem numbers_toPattern (s : Scope) (widths : Nat → Width) :
    (s.toPattern widths).numbers = s.numbers := by
  have body := s.numbers_alternatives
  unfold toPattern numbers
  cases s.role with
  | whole | plain | atomic | look => exact body
  | capture index => exact congrArg (index :: ·) body
  | condition index =>
    dsimp only
    split
    · rename_i yes no both
      rw [both] at body
      exact body
    · exact (List.append_nil _).trans body

theorem inside_add (s : Scope) (p : Pattern) (form : PartForm) :
    (s.add p form).inside = s.inside ++ p.numbers := by
  simp [inside, add]

theorem numbers_add (s : Scope) (p : Pattern) (form : PartForm) :
    (s.add p form).numbers = s.numbers ++ p.numbers := by
  rw [numbers, inside_add, ← List.append_assoc]
  rfl

end Scope

namespace Progress

variable {r next : Progress}

/-! ### Moves -/

/-- What a token that opens `opened` groups can do to the scopes. -/
inductive Moves (r next : Progress) : (opened : Nat) → Prop
  | stay (flags : PatternFlags) (kept : r.Begun → flags = r.scope.flags)
    (scope : next.scope = { r.scope with flags }) (outer : next.outer = r.outer) : Moves r next 0
  | add (p : Pattern) (form : PartForm) (bare : p.numbers = [])
    (scope : next.scope = r.scope.add p form) (outer : next.outer = r.outer) : Moves r next 0
  | again (low : Nat) (high : Option Nat) (manner : Manner) (last : Part) (rest : List Part)
    (parts : r.scope.parts = last :: rest)
    (scope : next.scope =
      { r.scope with parts := ⟨.again low high manner last.pattern, .repeated⟩ :: rest })
    (outer : next.outer = r.outer) : Moves r next 0
  | alternative
    (scope : next.scope = { r.scope with
      closed := sequence (r.scope.parts.reverse.map Part.pattern) :: r.scope.closed
      parts := [] })
    (outer : next.outer = r.outer) : Moves r next 0
  | enter (role : Role) (start : Nat) (flags : PatternFlags) (bare : role.number? = none)
    (scope : next.scope = ⟨role, start, flags, [], []⟩)
    (outer : next.outer = r.scope :: r.outer) : Moves r next 0
  | group (start : Nat) (flags : PatternFlags)
    (scope : next.scope = ⟨.capture (r.groups.length + 1), start, flags, [], []⟩)
    (outer : next.outer = r.scope :: r.outer) : Moves r next 1
  | leave (around : Scope) (enclosed : r.outer = around :: next.outer)
    (scope : next.scope = around.add (r.scope.toPattern r.widths) .plain) : Moves r next 0

theorem take_moves {stop : Nat} {token : Token} (taken : r.take stop token = .ok next) :
    r.Moves next token.opens := by
  cases token with
  | nothing =>
    cases taken
    exact .stay _ (fun _ => rfl) rfl rfl
  | literal | anyChar | set | lineStart | lineEnd | textStart | textEnd | boundary =>
    cases taken
    exact .add _ _ rfl rfl rfl
  | back index =>
    simp only [take] at taken
    split at taken
    · cases taken
    · split at taken
      · cases taken
      · cases refer_eq_ok taken
        exact .add _ _ rfl rfl rfl
  | namedBack name =>
    simp only [take] at taken
    split at taken
    · cases taken
    · split at taken
      · cases taken
      · cases refer_eq_ok taken
        exact .add _ _ rfl rfl rfl
  | again low high manner =>
    obtain ⟨last, rest, parts, _, rfl⟩ := repeatLast_eq_ok taken
    exact .again low high manner last rest parts rfl rfl
  | bar =>
    cases nextAlternative_eq_ok taken
    exact .alternative rfl rfl
  | openGroup name =>
    obtain ⟨_, rfl⟩ := enterGroup_eq_ok taken
    exact .group _ _ rfl rfl
  | openPlain | openFlags | openAtomic =>
    cases taken
    exact .enter _ _ _ rfl rfl rfl
  | openLook behind negated =>
    cases taken
    split <;> exact .enter _ _ _ rfl rfl rfl
  | openNumbered index =>
    cases enterCondition_eq_ok taken
    exact .enter _ _ _ rfl rfl rfl
  | openNamed name =>
    simp only [take] at taken
    split at taken
    · cases taken
    · cases enterCondition_eq_ok taken
      exact .enter _ _ _ rfl rfl rfl
  | flags on =>
    obtain ⟨start, unicodeAsked, rfl⟩ := setFlags_eq_ok taken
    exact .stay _ (fun begun => absurd begun start) rfl rfl
  | close =>
    obtain ⟨around, outer, groups, limit, enclosed, _, rfl⟩ := leave_eq_ok taken
    exact .leave around enclosed rfl
  | bad => cases taken

theorem step_moves {x : Lexeme} (stepped : r.step x = .ok next) : r.Moves next x.token.opens := by
  obtain ⟨taken, took, rfl⟩ := step_eq_ok stepped
  have moves := take_moves took
  generalize x.token.opens = opened at moves ⊢
  cases moves with
  | stay flags kept scope outer => exact .stay flags kept scope outer
  | add p form bare scope outer => exact .add p form bare scope outer
  | again low high manner last rest parts scope outer =>
    exact .again low high manner last rest parts scope outer
  | alternative scope outer => exact .alternative scope outer
  | enter role start flags bare scope outer => exact .enter role start flags bare scope outer
  | group start flags scope outer => exact .group start flags scope outer
  | leave around enclosed scope => exact .leave around enclosed scope

/-! ### Numbers -/

def numbers (r : Progress) : List Nat := r.outer.reverse.flatMap Scope.numbers ++ r.scope.numbers

/-- A group that is opened gets the next number, and no other one changes. -/
theorem Moves.numbers {opened : Nat} (moves : r.Moves next opened) :
    next.numbers = r.numbers ++ List.range' (r.groups.length + 1) opened := by
  unfold Progress.numbers
  cases moves with
  | stay flags kept scope outer =>
    rw [scope, outer]
    exact (List.append_nil _).symm
  | add p form bare scope outer =>
    rw [scope, outer, Scope.numbers_add, bare, List.append_nil]
    exact (List.append_nil _).symm
  | again low high manner last rest parts scope outer =>
    simp [scope, outer, Scope.numbers, Scope.inside, parts, Pattern.numbers]
  | alternative scope outer =>
    simp [scope, outer, Scope.numbers, Scope.inside, numbers_sequence, List.flatMap_map,
      -List.map_reverse]
  | enter role start flags bare scope outer =>
    simp [scope, outer, Scope.numbers, Scope.inside, bare]
  | group start flags scope outer =>
    simp [scope, outer, Scope.numbers, Scope.inside, Role.number?]
  | leave around enclosed scope =>
    simp [scope, enclosed, Scope.numbers_add, Scope.numbers_toPattern]

theorem run_numbers {xs : List Lexeme} (ran : r.run xs = .ok next) :
    next.numbers = r.numbers ++ List.range' (r.groups.length + 1) (opens xs) := by
  induction xs generalizing r with
  | nil =>
    cases ran
    exact (List.append_nil _).symm
  | cons x xs ih =>
    obtain ⟨between, stepped, rest⟩ := run_cons.mp ran
    rw [ih rest, (step_moves stepped).numbers, (step_took stepped).groups, List.append_assoc,
      Nat.add_right_comm, List.range'_append_1]
    rfl

/-- At any time the numbers of the groups run from one on. -/
theorem numbers_of_run {flags : PatternFlags} {xs : List Lexeme}
    (ran : (start flags).run xs = .ok next) : next.numbers = List.range' 1 next.groups.length := by
  rw [run_numbers ran, run_groups ran]
  exact congrArg (List.range' 1) (Nat.zero_add _).symm

end Progress
end LineCommand.Pattern

/-- The groups of an expression are numbered from one on. -/
theorem LineCommand.Expression.numbers_of_read {flags : PatternFlags} {source : String}
    {e : Expression} (read : Expression.read flags source = .ok e) :
    e.pattern.numbers = List.range' 1 e.groups := by
  obtain ⟨r, ran, balanced, rfl⟩ := read_eq_ok read
  have numbers := Pattern.Progress.numbers_of_run ran
  rw [Pattern.Progress.numbers, balanced] at numbers
  rw [Pattern.Scope.numbers_toPattern, ← numbers]
  rfl
