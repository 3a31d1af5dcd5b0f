import Mathlib.Algebra.Order.Ring.Int
import LineCommand.Pattern.Reading

/-! What reading a token does to the progress of reading, whatever the token: how it changes the
places where comments are admitted, the number of groups, and that only the start of a text takes
flags for the whole. -/
namespace LineCommand.Pattern

def Token.opens : Token → Nat
  | .openGroup _ => 1
  | _ => 0

def Token.name? : Token → Option String
  | .openGroup name => name
  | _ => none

/-- Whether a token leaves nothing to be checked at the end of a text, as groups asked for by their
numbers and flags for the whole do. -/
def Token.quiet : Token → Bool
  | .openNumbered _ => false
  | .flags _ => false
  | _ => true

/-- What a token does to the numbers of closed alternatives, that of the innermost scope first. -/
def Token.tally (ns : List Nat) : Token → List Nat
  | .bar => ns.modifyHead (· + 1)
  | .openGroup _ | .openPlain | .openAtomic | .openLook .. | .openNumbered _ | .openNamed _
  | .openFlags _ => 0 :: ns
  | .close => ns.tail
  | _ => ns

namespace Progress

/-- Whether comments are admitted, in the innermost scope first. -/
def verbosity (r : Progress) : List Bool := (r.scope :: r.outer).map (·.flags.verbose)

/-- The numbers of alternatives closed in the open scopes, in the innermost one first. -/
def closings (r : Progress) : List Nat := (r.scope :: r.outer).map (·.closed.length)

/-- The names of groups so far, the last one first. -/
def known (r : Progress) : List String := r.names.map Prod.fst

/-- Something other than comments and flags has been read. -/
def Begun (r : Progress) : Prop := r.outer ≠ [] ∨ r.scope.closed ≠ [] ∨ r.scope.parts ≠ []

/-- What taking a token has done. -/
structure Took (r : Progress) (token : Token) (next : Progress) : Prop where
  verbosity : next.verbosity = token.nest r.verbosity
  groups : next.groups.length = r.groups.length + token.opens
  names : next.known = token.name?.toList ++ r.known
  fresh : ∀ name ∈ token.name?, name ∉ r.known
  asks : token.quiet → next.wanted = r.wanted ∧ next.unicodeAsked = r.unicodeAsked
  begun : r.Begun → next.Begun ∧ ∀ on, token ≠ .flags on
  sound : ∀ complaint offset, token ≠ .bad complaint offset
  closings : next.closings = token.tally r.closings

variable {r next : Progress}

theorem Took.of_add (p : Pattern) (form : PartForm) {token : Token}
    (still : token.nest r.verbosity = r.verbosity)
    (flat : token.tally r.closings = r.closings) (opens : token.opens = 0)
    (unnamed : token.name? = none) (sound : ∀ complaint offset, token ≠ .bad complaint offset)
    (inside : ∀ on, token ≠ .flags on) : r.Took token (r.add p form) where
  verbosity := still.symm
  groups := by rw [opens]; rfl
  names := by rw [unnamed]; rfl
  fresh := by simp [unnamed]
  asks _ := ⟨rfl, rfl⟩
  begun _ := ⟨.inr (.inr (List.cons_ne_nil _ _)), inside⟩
  sound := sound
  closings := flat.symm

theorem Took.of_enter {token : Token} {role : Role} {flags : PatternFlags}
    (scope : next.scope = ⟨role, r.position, flags, [], []⟩)
    (outer : next.outer = r.scope :: r.outer)
    (nested : token.nest r.verbosity = flags.verbose :: r.verbosity)
    (counted : token.tally r.closings = 0 :: r.closings)
    (groups : next.groups.length = r.groups.length + token.opens)
    (names : next.known = token.name?.toList ++ r.known)
    (fresh : ∀ name ∈ token.name?, name ∉ r.known)
    (asks : token.quiet → next.wanted = r.wanted ∧ next.unicodeAsked = r.unicodeAsked)
    (sound : ∀ complaint offset, token ≠ .bad complaint offset)
    (inside : ∀ on, token ≠ .flags on) : r.Took token next where
  verbosity := by
    rw [nested, Progress.verbosity, scope, outer]
    rfl
  groups := groups
  names := names
  fresh := fresh
  asks := asks
  begun _ := ⟨.inl (outer ▸ List.cons_ne_nil _ _), inside⟩
  sound := sound
  closings := by
    rw [counted, Progress.closings, scope, outer]
    rfl

theorem refer_eq_ok {index stop : Nat} (referred : r.refer index stop = .ok next) :
    next = r.add (.back index r.scope.flags.fold) := by
  unfold refer at referred
  cases checked : r.checkBehind index stop with
  | error misreading =>
    rw [checked] at referred
    cases referred
  | ok _ =>
    rw [checked] at referred
    cases referred
    rfl

theorem enterCondition_eq_ok {index stop : Nat} (entered : r.enterCondition index stop = .ok next) :
    next = r.enter (.condition index) r.scope.flags := by
  unfold enterCondition at entered
  cases checked : r.checkBehind index stop with
  | error misreading =>
    rw [checked] at entered
    cases entered
  | ok _ =>
    rw [checked] at entered
    cases entered
    rfl

theorem repeatLast_eq_ok {low : Nat} {high : Option Nat} {manner : Manner}
    (repeated : r.repeatLast low high manner = .ok next) :
    ∃ last rest, r.scope.parts = last :: rest ∧ last.form = .plain ∧
      next = { r with scope := { r.scope with
        parts := ⟨.again low high manner last.pattern, .repeated⟩ :: rest } } := by
  unfold repeatLast at repeated
  split at repeated
  · cases repeated
  · rename_i last rest parts
    split at repeated
    · cases repeated
    · cases repeated
    · rename_i form
      cases repeated
      exact ⟨last, rest, parts, form, rfl⟩

theorem nextAlternative_eq_ok (split? : r.nextAlternative = .ok next) :
    next = { r with scope := { r.scope with
      closed := sequence (r.scope.parts.reverse.map Part.pattern) :: r.scope.closed
      parts := [] } } := by
  unfold nextAlternative at split?
  split at split? <;> cases split?
  rfl

theorem enterGroup_eq_ok {name : Option String} (entered : r.enterGroup name = .ok next) :
    (∀ n ∈ name, n ∉ r.known) ∧ next =
      { r.enter (.capture (r.groups.length + 1)) r.scope.flags with
        groups := r.groups ++ [none]
        names := (name.map fun n => (n, r.groups.length + 1)).toList ++ r.names } := by
  unfold enterGroup at entered
  dsimp only at entered
  cases name with
  | none =>
    cases entered
    exact ⟨nofun, rfl⟩
  | some name =>
    dsimp only at entered
    cases former : r.names.lookup name with
    | some index =>
      rw [former] at entered
      cases entered
    | none =>
      rw [former] at entered
      cases entered
      refine ⟨?_, rfl⟩
      rintro n ⟨⟩ member
      obtain ⟨⟨n, index⟩, listed, rfl⟩ := List.mem_map.mp member
      simpa using List.lookup_eq_none_iff.mp former (n, index) listed

theorem leave_eq_ok (left : r.leave = .ok next) :
    ∃ around outer groups behindLimit, r.outer = around :: outer ∧
      groups.length = r.groups.length ∧
      next = { r with
        scope := around.add (r.scope.toPattern r.widths) .plain, outer, groups, behindLimit } := by
  unfold leave at left
  split at left
  · cases left
  · rename_i around outer enclosed
    cases left
    refine ⟨around, outer, _, _, enclosed, ?_, rfl⟩
    split <;> simp

theorem setFlags_eq_ok {on : List Char} (set? : r.setFlags on = .ok next) :
    ¬ r.Begun ∧ ∃ unicodeAsked, next = { r with
      scope := { r.scope with
        flags := FlagChange.apply ⟨on.filter (· != 'u'), []⟩ r.scope.flags }
      unicodeAsked } := by
  unfold setFlags at set?
  split at set?
  · rename_i start
    cases set?
    refine ⟨?_, _, rfl⟩
    simpa [Begun] using start
  · cases set?

/-- Every token that can be taken does this much. -/
theorem take_took {stop : Nat} {token : Token} (taken : r.take stop token = .ok next) :
    r.Took token next := by
  cases token with
  | nothing =>
    cases taken
    exact ⟨rfl, rfl, rfl, nofun, fun _ => ⟨rfl, rfl⟩, fun begun => ⟨begun, nofun⟩, nofun, rfl⟩
  | literal | anyChar | set | lineStart | lineEnd | textStart | textEnd | boundary =>
    cases taken
    exact .of_add _ _ rfl rfl rfl rfl nofun nofun
  | back index =>
    simp only [take] at taken
    split at taken
    · cases taken
    · split at taken
      · cases taken
      · cases refer_eq_ok taken
        exact .of_add _ _ rfl rfl rfl rfl nofun nofun
  | namedBack name =>
    simp only [take] at taken
    split at taken
    · cases taken
    · split at taken
      · cases taken
      · cases refer_eq_ok taken
        exact .of_add _ _ rfl rfl rfl rfl nofun nofun
  | again low high manner =>
    obtain ⟨last, rest, _, _, rfl⟩ := repeatLast_eq_ok taken
    exact ⟨rfl, rfl, rfl, nofun, fun _ => ⟨rfl, rfl⟩,
      fun _ => ⟨.inr (.inr (List.cons_ne_nil _ _)), nofun⟩, nofun, rfl⟩
  | bar =>
    cases nextAlternative_eq_ok taken
    exact ⟨rfl, rfl, rfl, nofun, fun _ => ⟨rfl, rfl⟩,
      fun _ => ⟨.inr (.inl (List.cons_ne_nil _ _)), nofun⟩, nofun, rfl⟩
  | openGroup name =>
    obtain ⟨fresh, rfl⟩ := enterGroup_eq_ok taken
    have listed : ((name.map fun n => (n, r.groups.length + 1)).toList ++ r.names).map Prod.fst =
        name.toList ++ r.known := by
      cases name <;> rfl
    exact .of_enter rfl rfl rfl rfl (by simp [Token.opens]) listed fresh (fun _ => ⟨rfl, rfl⟩) nofun
      nofun
  | openPlain | openAtomic =>
    cases taken
    exact .of_enter rfl rfl rfl rfl rfl rfl nofun (fun _ => ⟨rfl, rfl⟩) nofun nofun
  | openLook behind negated =>
    cases taken
    split <;> exact .of_enter rfl rfl rfl rfl rfl rfl nofun (fun _ => ⟨rfl, rfl⟩) nofun nofun
  | openNumbered index =>
    cases enterCondition_eq_ok taken
    exact .of_enter rfl rfl rfl rfl rfl rfl nofun nofun nofun nofun
  | openNamed name =>
    simp only [take] at taken
    split at taken
    · cases taken
    · cases enterCondition_eq_ok taken
      exact .of_enter rfl rfl rfl rfl rfl rfl nofun (fun _ => ⟨rfl, rfl⟩) nofun nofun
  | openFlags change =>
    cases taken
    exact .of_enter rfl rfl rfl rfl rfl rfl nofun (fun _ => ⟨rfl, rfl⟩) nofun nofun
  | flags on =>
    obtain ⟨start, unicodeAsked, rfl⟩ := setFlags_eq_ok taken
    refine ⟨?_, rfl, rfl, nofun, nofun, fun begun => absurd begun start, nofun, rfl⟩
    simp [verbosity, Token.nest, FlagChange.apply]
  | close =>
    obtain ⟨around, outer, groups, behindLimit, enclosed, count, rfl⟩ := leave_eq_ok taken
    refine ⟨?_, count, rfl, nofun, fun _ => ⟨rfl, rfl⟩,
      fun _ => ⟨.inr (.inr (List.cons_ne_nil _ _)), nofun⟩, nofun, ?_⟩
    · simp [verbosity, Token.nest, enclosed, Scope.add]
    · simp [closings, Token.tally, enclosed, Scope.add]
  | bad complaint offset => cases taken

theorem step_eq_ok {x : Lexeme} (stepped : r.step x = .ok next) :
    ∃ taken, r.take (r.position + x.size) x.token = .ok taken ∧
      next = { taken with position := r.position + x.size } := by
  unfold step at stepped
  cases taken : r.take (r.position + x.size) x.token with
  | error misreading =>
    rw [taken] at stepped
    cases stepped
  | ok found =>
    rw [taken] at stepped
    cases stepped
    exact ⟨found, rfl, rfl⟩

theorem step_took {x : Lexeme} (stepped : r.step x = .ok next) : r.Took x.token next := by
  obtain ⟨taken, took, rfl⟩ := step_eq_ok stepped
  obtain ⟨verbosity, groups, names, fresh, asks, begun, sound, closings⟩ := take_took took
  exact ⟨verbosity, groups, names, fresh, asks, begun, sound, closings⟩

/-! ### Runs -/

def run (r : Progress) (xs : List Lexeme) : Except Misreading Progress := xs.foldlM step r

theorem run_cons {x : Lexeme} {xs : List Lexeme} :
    r.run (x :: xs) = .ok next ↔ ∃ between, r.step x = .ok between ∧ between.run xs = .ok next := by
  unfold run
  rw [List.foldlM_cons]
  cases r.step x with
  | error misreading => simp [bind, Except.bind]
  | ok between => simp [bind, Except.bind]

theorem run_append {xs ys : List Lexeme} :
    r.run (xs ++ ys) = .ok next ↔
      ∃ between, r.run xs = .ok between ∧ between.run ys = .ok next := by
  unfold run
  rw [List.foldlM_append]
  cases xs.foldlM step r with
  | error misreading => simp [bind, Except.bind]
  | ok between => simp [bind, Except.bind]

def opens (xs : List Lexeme) : Nat := (xs.map (·.token.opens)).sum

theorem opens_append (xs ys : List Lexeme) : opens (xs ++ ys) = opens xs + opens ys := by
  simp [opens]

theorem run_groups {xs : List Lexeme} (ran : r.run xs = .ok next) :
    next.groups.length = r.groups.length + opens xs := by
  induction xs generalizing r with
  | nil =>
    cases ran
    rfl
  | cons x xs ih =>
    obtain ⟨between, stepped, rest⟩ := run_cons.mp ran
    rw [ih rest, (step_took stepped).groups, opens, opens, List.map_cons, List.sum_cons,
      Nat.add_assoc]

theorem run_begun {xs : List Lexeme} (begun : r.Begun) (ran : r.run xs = .ok next) :
    next.Begun := by
  induction xs generalizing r with
  | nil =>
    cases ran
    exact begun
  | cons x xs ih =>
    obtain ⟨between, stepped, rest⟩ := run_cons.mp ran
    exact ih ((step_took stepped).begun begun).1 rest

/-- Behind the start of a text, no token that can be read sets flags for the whole. -/
theorem run_unflagged {xs : List Lexeme} (begun : r.Begun) (ran : r.run xs = .ok next) :
    ∀ x ∈ xs, ∀ on, x.token ≠ .flags on := by
  induction xs generalizing r with
  | nil => exact nofun
  | cons x xs ih =>
    obtain ⟨between, stepped, rest⟩ := run_cons.mp ran
    obtain ⟨goesOn, plain⟩ := (step_took stepped).begun begun
    exact List.forall_mem_cons.mpr ⟨plain, ih goesOn rest⟩

def named (xs : List Lexeme) : List String := xs.filterMap (·.token.name?)

theorem named_append (xs ys : List Lexeme) : named (xs ++ ys) = named xs ++ named ys :=
  List.filterMap_append

theorem named_cons (x : Lexeme) (xs : List Lexeme) :
    named (x :: xs) = x.token.name?.toList ++ named xs := by
  cases name : x.token.name? <;> simp [named, name]

theorem run_names {xs : List Lexeme} (ran : r.run xs = .ok next) :
    next.known = (named xs).reverse ++ r.known := by
  induction xs generalizing r with
  | nil =>
    cases ran
    rfl
  | cons x xs ih =>
    obtain ⟨between, stepped, rest⟩ := run_cons.mp ran
    rw [ih rest, (step_took stepped).names, named_cons, List.reverse_append, List.append_assoc]
    cases x.token.name? <;> rfl

/-- A group is not given a name that another one has. -/
theorem run_fresh {xs : List Lexeme} (ran : r.run xs = .ok next) :
    ∀ name ∈ named xs, name ∉ r.known := by
  induction xs generalizing r with
  | nil => exact nofun
  | cons x xs ih =>
    obtain ⟨between, stepped, rest⟩ := run_cons.mp ran
    have took := step_took stepped
    intro name member known
    rw [named_cons] at member
    obtain here | there := List.mem_append.mp member
    · exact took.fresh name (Option.mem_toList.mp here) known
    · refine ih rest name there ?_
      rw [took.names]
      exact List.mem_append_right _ known

theorem run_nodup {xs : List Lexeme} (nodup : r.known.Nodup) (ran : r.run xs = .ok next) :
    next.known.Nodup := by
  induction xs generalizing r with
  | nil =>
    cases ran
    exact nodup
  | cons x xs ih =>
    obtain ⟨between, stepped, rest⟩ := run_cons.mp ran
    have took := step_took stepped
    refine ih ?_ rest
    rw [took.names]
    cases name : x.token.name? with
    | none => exact nodup
    | some name' => exact List.nodup_cons.mpr ⟨took.fresh name' name, nodup⟩

theorem run_asks {xs : List Lexeme} (quiet : ∀ x ∈ xs, x.token.quiet) (ran : r.run xs = .ok next) :
    next.wanted = r.wanted ∧ next.unicodeAsked = r.unicodeAsked := by
  induction xs generalizing r with
  | nil =>
    cases ran
    exact ⟨rfl, rfl⟩
  | cons x xs ih =>
    obtain ⟨between, stepped, rest⟩ := run_cons.mp ran
    obtain ⟨here, others⟩ := List.forall_mem_cons.mp quiet
    obtain ⟨wanted, asked⟩ := (step_took stepped).asks here
    obtain ⟨wantedRest, askedRest⟩ := ih others rest
    exact ⟨wantedRest.trans wanted, askedRest.trans asked⟩

theorem finish_eq_ok {pattern : Pattern} (finished : r.finish = .ok pattern) :
    r.outer = [] ∧ pattern = r.scope.toPattern r.widths := by
  unfold finish at finished
  split at finished
  · cases finished
  · rename_i closed
    split at finished
    · cases finished
    · split at finished <;> cases finished
      exact ⟨by simpa using closed, rfl⟩

end Progress
end LineCommand.Pattern

namespace LineCommand.Expression
open Pattern

/-- An expression is what reading has come to at the end of its text. -/
theorem read_eq_ok {flags : PatternFlags} {source : String} {e : Expression}
    (read : Expression.read flags source = .ok e) :
    ∃ r, (Progress.start flags).run (lexemes flags.verbose source.toList) = .ok r ∧
      r.outer = [] ∧ e = ⟨source, r.scope.toPattern r.widths, r.groups.length⟩ := by
  unfold Expression.read at read
  change ((Progress.start flags).run (lexemes flags.verbose source.toList)).bind _ = _ at read
  cases ran : (Progress.start flags).run (lexemes flags.verbose source.toList) with
  | error misreading =>
    rw [ran] at read
    cases read
  | ok r =>
    rw [ran] at read
    change r.finish.bind _ = _ at read
    cases finished : r.finish with
    | error misreading =>
      rw [finished] at read
      cases read
    | ok pattern =>
      rw [finished] at read
      obtain ⟨balanced, rfl⟩ := Progress.finish_eq_ok finished
      change (checkWidths _).bind _ = _ at read
      cases checked : checkWidths (r.scope.toPattern r.widths) with
      | error misreading =>
        rw [checked] at read
        cases read
      | ok _ =>
        rw [checked] at read
        cases read
        exact ⟨r, rfl, balanced, rfl⟩

/-- A text whose parentheses are closed is an expression, if nothing is left to be checked. -/
theorem read_of_run {flags : PatternFlags} {source : String} {r : Progress}
    (ran : (Progress.start flags).run (lexemes flags.verbose source.toList) = .ok r)
    (balanced : r.outer = []) (asked : r.unicodeAsked = false) (wanted : r.wanted = [])
    (widths : (r.scope.toPattern r.widths).behindWidths = []) :
    Expression.read flags source = .ok ⟨source, r.scope.toPattern r.widths, r.groups.length⟩ := by
  have finished : r.finish = .ok (r.scope.toPattern r.widths) := by
    simp [Progress.finish, balanced, asked, wanted]
  unfold Expression.read
  change ((Progress.start flags).run (lexemes flags.verbose source.toList)).bind _ = _
  rw [ran]
  change r.finish.bind _ = _
  rw [finished]
  change (checkWidths _).bind _ = _
  rw [checkWidths, widths]
  rfl

/-- An expression has a group for every parenthesis that opens one. -/
theorem groups_of_read {flags : PatternFlags} {source : String} {e : Expression}
    (read : Expression.read flags source = .ok e) :
    e.groups = Progress.opens (lexemes flags.verbose source.toList) := by
  obtain ⟨r, ran, _, rfl⟩ := read_eq_ok read
  simpa [Progress.start] using Progress.run_groups ran

end LineCommand.Expression
