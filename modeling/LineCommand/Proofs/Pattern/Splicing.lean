import LineCommand.Proofs.Pattern.Constructs
import LineCommand.Proofs.Pattern.Nesting

/-! Reading a text as a part of a longer one. What is read is the same, except that groups are
counted on from those in front. -/
namespace LineCommand.Pattern

def shift (k : Nat) : Pattern → Pattern
  | empty => empty
  | one set => one set
  | anchor a => anchor a
  | seq first rest => seq (first.shift k) (rest.shift k)
  | alt left right => alt (left.shift k) (right.shift k)
  | group index body => group (index + k) (body.shift k)
  | again low high manner body => again low high manner (body.shift k)
  | atomic body => atomic (body.shift k)
  | look side negated body => look side negated (body.shift k)
  | back index fold => back (index + k) fold
  | cond index yes no => cond (index + k) (yes.shift k) (no.shift k)

theorem shift_sequence (k : Nat) (ps : List Pattern) :
    (sequence ps).shift k = sequence (ps.map (shift k)) := by
  induction ps with
  | nil => rfl
  | cons p ps ih => exact congrArg (seq (p.shift k)) ih

theorem shift_choice (k : Nat) (ps : List Pattern) :
    (choice ps).shift k = choice (ps.map (shift k)) := by
  induction ps with
  | nil => rfl
  | cons p ps ih =>
    cases ps with
    | nil => rfl
    | cons q qs => exact congrArg (alt (p.shift k)) ih

theorem shift_zero (p : Pattern) : p.shift 0 = p := by
  induction p with
  | empty | one | anchor | back => rfl
  | seq first rest first_ih rest_ih | alt first rest first_ih rest_ih => rw [shift, first_ih, rest_ih]
  | group index body ih => rw [shift, ih, Nat.add_zero]
  | again low high manner body ih | atomic body ih | look side negated body ih => rw [shift, ih]
  | cond index yes no yes_ih no_ih => rw [shift, yes_ih, no_ih, Nat.add_zero]

theorem numbers_shift (p : Pattern) (k : Nat) : (p.shift k).numbers = p.numbers.map (· + k) := by
  induction p with
  | empty | one | anchor | back => rfl
  | seq first rest first_ih rest_ih | alt first rest first_ih rest_ih =>
    simp only [shift, numbers, first_ih, rest_ih, List.map_append]
  | group index body ih => simp only [shift, numbers, ih, List.map_cons]
  | again low high manner body ih | atomic body ih | look side negated body ih =>
    simp only [shift, numbers, ih]
  | cond index yes no yes_ih no_ih => simp only [shift, numbers, yes_ih, no_ih, List.map_append]

/-- Without references back, the width of a pattern does not depend on the groups around it. -/
theorem width_shift {p : Pattern} (within : p.Within (· ≠ .back)) (k : Nat)
    (groups others : Nat → Width) : (p.shift k).width others = p.width groups := by
  induction p with
  | empty | one | anchor | look => rfl
  | seq first rest first_ih rest_ih =>
    have parts := List.forall_mem_append.mp within
    simp only [shift, width, first_ih parts.1, rest_ih parts.2]
  | alt left right left_ih right_ih =>
    have parts := List.forall_mem_append.mp within
    simp only [shift, width, left_ih parts.1, right_ih parts.2]
  | group index body ih | again low high manner body ih | atomic body ih =>
    simp only [shift, width, ih (List.forall_mem_cons.mp within).2]
  | back index fold => exact absurd rfl (within .back List.mem_cons_self)
  | cond index yes no yes_ih no_ih =>
    have parts := List.forall_mem_append.mp (List.forall_mem_cons.mp within).2
    simp only [shift, width, yes_ih parts.1, no_ih parts.2]

theorem constructs_shift (p : Pattern) (k : Nat) : (p.shift k).constructs = p.constructs := by
  induction p with
  | empty | one | anchor | back => rfl
  | seq first rest first_ih rest_ih | alt first rest first_ih rest_ih =>
    simp only [shift, constructs, first_ih, rest_ih]
  | group index body ih | again low high manner body ih | atomic body ih | look side negated body ih =>
    simp only [shift, constructs, ih]
  | cond index yes no yes_ih no_ih => simp only [shift, constructs, yes_ih, no_ih]

/-! ### Scopes -/

def Part.shift (k : Nat) (p : Part) : Part := ⟨p.pattern.shift k, p.form⟩

/-- Parentheses for the same purpose, behind a number of further groups. -/
inductive Role.Shifted (k : Nat) : Role → Role → Prop
  | capture (index : Nat) : Shifted k (.capture index) (.capture (index + k))
  | plain : Shifted k .plain .plain
  | atomic : Shifted k .atomic .atomic
  | look (behind negated outermost outermost' : Bool) :
    Shifted k (.look behind negated outermost) (.look behind negated outermost')
  | condition (index : Nat) : Shifted k (.condition index) (.condition (index + k))

/-- Two scopes with the same contents, one of them behind a number of further groups, and behind
alternatives and parts of its own. Behind parts there are no alternatives to come. -/
structure Scope.Shifted (k : Nat) (others : List Pattern) (front : List Part) (s t : Scope) :
    Prop where
  flags : t.flags = s.flags
  closed : t.closed = s.closed.map (shift k) ++ others
  parts : t.parts = s.parts.map (Part.shift k) ++ front
  straight : front ≠ [] → s.closed = []

/-- The scopes of a text, and those of a longer text of which it is a part, both from the innermost.
`base` is the scope in which the part begins. -/
inductive Stacked (k : Nat) (base : Scope) (outer : List Scope) : List Scope → List Scope → Prop
  | bottom {s t : Scope} : s.role = .whole → t.role = base.role →
    Scope.Shifted k base.closed base.parts s t → Stacked k base outer [s] (t :: outer)
  | inner {s t : Scope} {ss ts : List Scope} : s.role.Shifted k t.role → Scope.Shifted k [] [] s t →
    Stacked k base outer ss ts → Stacked k base outer (s :: ss) (t :: ts)

namespace Scope.Shifted

variable {k : Nat} {others : List Pattern} {front : List Part} {s t : Scope}

theorem sequence (shifted : Scope.Shifted k others [] s t) :
    Pattern.sequence (t.parts.reverse.map Part.pattern) =
      (Pattern.sequence (s.parts.reverse.map Part.pattern)).shift k := by
  rw [shifted.parts, List.append_nil, shift_sequence, ← List.map_reverse, List.map_map,
    List.map_map]
  rfl

theorem alternatives (shifted : Scope.Shifted k [] [] s t) :
    t.alternatives = s.alternatives.map (shift k) := by
  rw [Scope.alternatives, Scope.alternatives, shifted.sequence, shifted.closed, List.append_nil,
    ← List.map_cons, ← List.map_reverse]

theorem choice (shifted : Scope.Shifted k [] [] s t) :
    Pattern.choice t.alternatives = (Pattern.choice s.alternatives).shift k := by
  rw [shifted.alternatives, shift_choice]

theorem toPattern {allowed : Construct → Prop} (shifted : Scope.Shifted k [] [] s t)
    (role : s.role.Shifted k t.role) (apart : allowed .look → ¬ allowed .back)
    (within : s.Within allowed) (widths others : Nat → Width) :
    t.toPattern others = (s.toPattern widths).shift k := by
  have body := shifted.choice
  have alternatives := shifted.alternatives
  have asked := within.role
  have inside := within_choice within.alternatives
  unfold Scope.toPattern
  generalize s.role = from' at role asked
  generalize t.role = to' at role
  cases role with
  | capture | plain | atomic => simp only [body, shift]
  | look behind negated =>
    have bare : (Pattern.choice s.alternatives).Within (· ≠ .back) := by
      rintro c used rfl
      exact apart (asked _ rfl) (inside _ used)
    simp only [body, shift, width_shift bare k widths others]
  | condition index =>
    rw [alternatives] at body ⊢
    dsimp only
    rw [body]
    match s.alternatives with
    | [] | [_] | [_, _] | _ :: _ :: _ :: _ => rfl

theorem add (shifted : Scope.Shifted k others front s t) {p q : Pattern} (part : q = p.shift k)
    (form : PartForm) : Scope.Shifted k others front (s.add p form) (t.add q form) where
  flags := shifted.flags
  closed := shifted.closed
  parts := by
    subst part
    exact congrArg (List.cons _) shifted.parts
  straight := shifted.straight

end Scope.Shifted

namespace Stacked

variable {k : Nat} {base : Scope} {outer : List Scope} {s t s' t' : Scope} {ss ts : List Scope}

theorem flags (stacked : Stacked k base outer (s :: ss) (t :: ts)) : t.flags = s.flags := by
  cases stacked with
  | bottom _ _ here => exact here.flags
  | inner _ here _ => exact here.flags

theorem parts (stacked : Stacked k base outer (s :: ss) (t :: ts)) {last : Part} {rest : List Part}
    (parts : s.parts = last :: rest) : ∃ more, t.parts = last.shift k :: more := by
  cases stacked with
  | bottom _ _ here | inner _ here _ => exact ⟨_, by rw [here.parts, parts]; rfl⟩

/-- Where the scope of the text can take another alternative, so can that of the longer text. -/
theorem free (stacked : Stacked k base outer (s :: ss) (t :: ts))
    (plain : ∀ index, base.role ≠ .condition index)
    (alone : ∀ index, s.role = .condition index → s.closed = []) :
    ∀ index, t.role = .condition index → t.closed = [] := by
  cases stacked with
  | bottom _ same _ =>
    intro index role
    exact absurd (same.symm.trans role) (plain index)
  | inner roles here _ =>
    rw [here.closed, List.append_nil, List.map_eq_nil_iff]
    generalize s.role = from' at roles alone
    generalize t.role = to' at roles
    cases roles with
    | condition index => exact fun _ _ => alone index rfl
    | _ => exact nofun

/-- What changes only the innermost scopes, and both alike, changes them wherever they are. -/
theorem replace (stacked : Stacked k base outer (s :: ss) (t :: ts)) (inside : s'.role = s.role)
    (around : t'.role = t.role)
    (shifted : ∀ {others front}, (front = [] ∨ ss = [] ∧ front = base.parts) →
      Scope.Shifted k others front s t → Scope.Shifted k others front s' t') :
    Stacked k base outer (s' :: ss) (t' :: ts) := by
  cases stacked with
  | bottom whole same here =>
    exact .bottom (inside.trans whole) (around.trans same) (shifted (.inr ⟨rfl, rfl⟩) here)
  | inner roles here below => exact .inner (inside ▸ around ▸ roles) (shifted (.inl rfl) here) below

theorem add (stacked : Stacked k base outer (s :: ss) (t :: ts)) {p q : Pattern}
    (part : q = p.shift k) (form : PartForm) :
    Stacked k base outer (s.add p form :: ss) (t.add q form :: ts) :=
  stacked.replace rfl rfl fun _ here => here.add part form

theorem enter (stacked : Stacked k base outer ss ts) {r r' : Role} (roles : r.Shifted k r')
    {flags flags' : PatternFlags} (same : flags' = flags) (start start' : Nat) :
    Stacked k base outer (⟨r, start, flags, [], []⟩ :: ss) (⟨r', start', flags', [], []⟩ :: ts) :=
  .inner roles ⟨same, rfl, rfl, fun some => absurd rfl some⟩ stacked

end Stacked

/-! ### Steps -/

/-- The progress of reading a text, and of reading a longer one as far as that. The text begins in
the longer one at `base`. -/
structure Progress.Spliced (base r s : Progress) : Prop where
  scopes : Stacked base.groups.length base.scope base.outer (r.scope :: r.outer) (s.scope :: s.outer)
  groups : s.groups.length = r.groups.length + base.groups.length
  known : s.known = r.known ++ base.known
  names : ∀ name index, r.names.lookup name = some index →
    s.names.lookup name = some (index + base.groups.length)

/-- A token that does not depend on the groups in front of it. -/
def Token.Settled (token : Token) : Prop := ∀ c ∈ token.construct?, c ≠ .back ∧ c ≠ .cond

def Token.numbered : Token → Bool
  | .back _ | .openNumbered _ => true
  | _ => false

/-- Tokens that mean the same behind other groups. They refer to groups by name only, and do not look
around if they repeat the text of a group. -/
structure Movable (xs : List Lexeme) : Prop where
  unnumbered : ∀ x ∈ xs, x.token.numbered = false
  apart : (∀ x ∈ xs, ∀ c ∈ x.token.construct?, c ≠ .look) ∨
    ∀ x ∈ xs, ∀ c ∈ x.token.construct?, c ≠ .back

theorem Token.Settled.unnumbered {token : Token} (settled : token.Settled) :
    token.numbered = false := by
  cases token with
  | back => exact absurd rfl (settled _ rfl).1
  | openNumbered => exact absurd rfl (settled _ rfl).2
  | _ => rfl

theorem movable_of_settled {xs : List Lexeme} (settled : ∀ x ∈ xs, x.token.Settled) :
    Movable xs where
  unnumbered x member := (settled x member).unnumbered
  apart := .inr fun x member c asked => (settled x member c asked).1

/-- Whether every bar of a text stands between parentheses of the text. `levels` are those open at its
start, with the text itself. -/
def straight (levels : List Bool) : List Lexeme → Bool
  | [] => true
  | x :: xs =>
    (x.token != .bar || decide (1 < levels.length)) && straight (x.token.nest levels) xs

namespace Progress

variable {r next : Progress}

theorem repeatLast_of_parts {last : Part} {rest : List Part} (parts : r.scope.parts = last :: rest)
    (form : last.form = .plain) (low : Nat) (high : Option Nat) (manner : Manner) :
    r.repeatLast low high manner = .ok { r with scope := { r.scope with
      parts := ⟨.again low high manner last.pattern, .repeated⟩ :: rest } } := by
  simp [repeatLast, parts, form]

theorem nextAlternative_of_free
    (free : ∀ index, r.scope.role = .condition index → r.scope.closed = []) :
    r.nextAlternative = .ok { r with scope := { r.scope with
      closed := sequence (r.scope.parts.reverse.map Part.pattern) :: r.scope.closed
      parts := [] } } := by
  unfold nextAlternative
  split
  · rename_i index _ _ role closed
    rw [free index role] at closed
    cases closed
  · rfl

theorem free_of_nextAlternative (split? : r.nextAlternative = .ok next) :
    ∀ index, r.scope.role = .condition index → r.scope.closed = [] := by
  intro index role
  unfold nextAlternative at split?
  rw [role] at split?
  cases closed : r.scope.closed with
  | nil => rfl
  | cons p ps =>
    rw [closed] at split?
    cases split?

theorem enterGroup_of_fresh {name : Option String} (fresh : ∀ n ∈ name, n ∉ r.known) :
    r.enterGroup name = .ok { r.enter (.capture (r.groups.length + 1)) r.scope.flags with
      groups := r.groups ++ [none]
      names := (name.map fun n => (n, r.groups.length + 1)).toList ++ r.names } := by
  cases name with
  | none => rfl
  | some n =>
    have unknown : r.names.lookup n = none := by
      refine List.lookup_eq_none_iff.mpr fun entry listed => ?_
      have other : entry.1 ≠ n := by
        rintro rfl
        exact fresh _ rfl (List.mem_map_of_mem listed)
      simpa using other.symm
    simp only [enterGroup, unknown]
    rfl

theorem leave_of_outer {around : Scope} {outer : List Scope} (enclosed : r.outer = around :: outer) :
    ∃ groups behindLimit, groups.length = r.groups.length ∧ r.leave = .ok { r with
      scope := around.add (r.scope.toPattern r.widths) .plain, outer, groups, behindLimit } := by
  unfold leave
  rw [enclosed]
  refine ⟨_, _, ?_, rfl⟩
  split <;> simp

theorem step_close {around : Scope} {outer : List Scope} (enclosed : r.outer = around :: outer) :
    ∃ next, r.step ⟨.close, 1⟩ = .ok next ∧
      next.scope = around.add (r.scope.toPattern r.widths) .plain := by
  obtain ⟨groups, limit, _, left⟩ := leave_of_outer enclosed
  have stepped : r.step ⟨.close, 1⟩ =
      r.leave.bind fun next => .ok { next with position := r.position + 1 } := rfl
  rw [left] at stepped
  exact ⟨_, stepped, rfl⟩

theorem step_again {last : Part} {rest : List Part} (parts : r.scope.parts = last :: rest)
    (form : last.form = .plain) (low : Nat) (high : Option Nat) (manner : Manner) :
    ∃ next, r.step ⟨.again low high manner, 1⟩ = .ok next := by
  have stepped : r.step ⟨.again low high manner, 1⟩ =
      (r.repeatLast low high manner).bind fun next =>
        .ok { next with position := r.position + 1 } := rfl
  rw [repeatLast_of_parts parts form] at stepped
  exact ⟨_, stepped⟩

namespace Spliced

variable {base s : Progress}

theorem add (spliced : Spliced base r s) {p q : Pattern} (part : q = p.shift base.groups.length)
    (form : PartForm) : Spliced base (r.add p form) (s.add q form) :=
  ⟨spliced.scopes.add part form, spliced.groups, spliced.known, spliced.names⟩

theorem enter (spliced : Spliced base r s) {role role' : Role}
    (roles : role.Shifted base.groups.length role') {flags flags' : PatternFlags}
    (same : flags' = flags) : Spliced base (r.enter role flags) (s.enter role' flags') :=
  ⟨spliced.scopes.enter roles same _ _, spliced.groups, spliced.known, spliced.names⟩

theorem set (spliced : Spliced base r s) (items : List SetItem) (negated : Bool) :
    s.scope.set items negated = (r.scope.set items negated).shift base.groups.length := by
  rw [Scope.set, Scope.set, spliced.scopes.flags]
  rfl

theorem repeatLast (spliced : Spliced base r s) {low : Nat} {high : Option Nat} {manner : Manner}
    (alone : r.repeatLast low high manner = .ok next) :
    ∃ next', s.repeatLast low high manner = .ok next' ∧ Spliced base next next' := by
  obtain ⟨last, rest, parts, form, rfl⟩ := repeatLast_eq_ok alone
  obtain ⟨more, found⟩ := spliced.scopes.parts parts
  refine ⟨_, repeatLast_of_parts found form low high manner, ?_, spliced.groups, spliced.known,
    spliced.names⟩
  refine spliced.scopes.replace rfl rfl fun _ shifted => ?_
  have same := shifted.parts
  rw [parts, found, List.map_cons, List.cons_append] at same
  obtain ⟨_, rfl⟩ := List.cons.inj same
  exact ⟨shifted.flags, shifted.closed, rfl, shifted.straight⟩

theorem nextAlternative (spliced : Spliced base r s)
    (plain : ∀ index, base.scope.role ≠ .condition index)
    (straight : r.outer ≠ [] ∨ base.scope.parts = []) (alone : r.nextAlternative = .ok next) :
    ∃ next', s.nextAlternative = .ok next' ∧ Spliced base next next' := by
  have free := spliced.scopes.free plain (free_of_nextAlternative alone)
  cases nextAlternative_eq_ok alone
  refine ⟨_, nextAlternative_of_free free, ?_, spliced.groups, spliced.known, spliced.names⟩
  refine spliced.scopes.replace rfl rfl fun place shifted => ?_
  rename_i others front
  obtain rfl : front = [] := by
    obtain none | ⟨bottom, same⟩ := place
    · exact none
    · exact same.trans (straight.resolve_left (not_not_intro bottom))
  refine ⟨shifted.flags, ?_, rfl, fun some => absurd rfl some⟩
  rw [shifted.sequence, shifted.closed]
  rfl

theorem enterGroup (spliced : Spliced base r s) {name : Option String}
    (fresh : ∀ n ∈ name, n ∉ base.known) (alone : r.enterGroup name = .ok next) :
    ∃ next', s.enterGroup name = .ok next' ∧ Spliced base next next' := by
  obtain ⟨unused, rfl⟩ := enterGroup_eq_ok alone
  have unknown : ∀ n ∈ name, n ∉ s.known := by
    intro n named member
    rw [spliced.known] at member
    exact (List.mem_append.mp member).elim (unused n named) (fresh n named)
  have index : s.groups.length + 1 = r.groups.length + 1 + base.groups.length := by
    rw [spliced.groups, Nat.add_right_comm]
  refine ⟨_, enterGroup_of_fresh unknown, ?_, ?_, ?_, ?_⟩
  · refine spliced.scopes.enter ?_ spliced.scopes.flags _ _
    rw [index]
    exact .capture _
  · simpa using index
  · have listed := spliced.known
    unfold Progress.known at listed ⊢
    rw [List.map_append, List.map_append, List.append_assoc, listed]
    cases name <;> rfl
  · intro n i found
    cases name with
    | none => exact spliced.names n i found
    | some m =>
      simp only [Option.map_some, Option.toList_some, List.singleton_append, List.lookup_cons]
        at found ⊢
      split at found
      · obtain rfl := Option.some.inj found
        rw [index]
      · exact spliced.names n i found

theorem leave {allowed : Construct → Prop} (spliced : Spliced base r s)
    (apart : allowed .look → ¬ allowed .back) (within : r.scope.Within allowed)
    (alone : r.leave = .ok next) : ∃ next', s.leave = .ok next' ∧ Spliced base next next' := by
  obtain ⟨around, below, groups, limit, enclosed, count, rfl⟩ := leave_eq_ok alone
  have scopes := spliced.scopes
  rw [enclosed] at scopes
  generalize outer : s.outer = outside at scopes
  cases scopes with
  | inner roles top rest =>
    cases outside with
    | nil => cases rest
    | cons around' below' =>
      obtain ⟨groups', limit', count', inside⟩ := leave_of_outer outer
      refine ⟨_, inside, rest.add (top.toPattern roles apart within _ _) _, ?_, spliced.known,
        spliced.names⟩
      rw [count, count', spliced.groups]

theorem namedBack (spliced : Spliced base r s) {name : String} {stop stop' : Nat} {next' : Progress}
    (alone : r.take stop (.namedBack name) = .ok next)
    (inside : s.take stop' (.namedBack name) = .ok next') : Spliced base next next' := by
  simp only [Progress.take] at alone inside
  cases found : r.names.lookup name with
  | none =>
    rw [found] at alone
    cases alone
  | some index =>
    rw [found] at alone
    rw [spliced.names name index found] at inside
    dsimp only at alone inside
    split at alone
    · cases alone
    · split at inside
      · cases inside
      · cases refer_eq_ok alone
        cases refer_eq_ok inside
        rw [spliced.scopes.flags]
        exact spliced.add rfl _

theorem openNamed (spliced : Spliced base r s) {name : String} {stop stop' : Nat} {next' : Progress}
    (alone : r.take stop (.openNamed name) = .ok next)
    (inside : s.take stop' (.openNamed name) = .ok next') : Spliced base next next' := by
  simp only [Progress.take] at alone inside
  cases found : r.names.lookup name with
  | none =>
    rw [found] at alone
    cases alone
  | some index =>
    rw [found] at alone
    rw [spliced.names name index found] at inside
    cases enterCondition_eq_ok alone
    cases enterCondition_eq_ok inside
    exact spliced.enter (.condition index) spliced.scopes.flags

/-- A token that is taken alone and in the longer text does the same to both. One that does not depend
on the groups in front of it can be taken in the longer text if it can be alone. -/
theorem take {allowed : Construct → Prop} (spliced : Spliced base r s) {stop : Nat} (stop' : Nat)
    {token : Token} (unnumbered : token.numbered = false) (unflagged : ∀ on, token ≠ .flags on)
    (fresh : ∀ name ∈ token.name?, name ∉ base.known)
    (plain : ∀ index, base.scope.role ≠ .condition index)
    (straight : token = .bar → r.outer ≠ [] ∨ base.scope.parts = [])
    (apart : allowed .look → ¬ allowed .back) (within : r.scope.Within allowed)
    (alone : r.take stop token = .ok next) :
    (∀ next', s.take stop' token = .ok next' → Spliced base next next') ∧
      (token.Settled → ∃ next', s.take stop' token = .ok next') := by
  have flags := spliced.scopes.flags
  have goesOn : (∃ next', s.take stop' token = .ok next' ∧ Spliced base next next') →
      (∀ next', s.take stop' token = .ok next' → Spliced base next next') ∧
        (token.Settled → ∃ next', s.take stop' token = .ok next') := by
    rintro ⟨next', took, both⟩
    refine ⟨fun other again => ?_, fun _ => ⟨next', took⟩⟩
    obtain rfl := Except.ok.inj (took.symm.trans again)
    exact both
  cases token with
  | nothing =>
    cases alone
    exact goesOn ⟨s, rfl, spliced⟩
  | literal | set =>
    cases alone
    exact goesOn ⟨_, rfl, spliced.add (spliced.set _ _) _⟩
  | anyChar =>
    cases alone
    refine goesOn ⟨_, rfl, ?_⟩
    rw [flags]
    exact spliced.add (spliced.set _ _) _
  | lineStart | lineEnd | boundary =>
    cases alone
    refine goesOn ⟨_, rfl, ?_⟩
    rw [flags]
    exact spliced.add rfl _
  | textStart | textEnd =>
    cases alone
    exact goesOn ⟨_, rfl, spliced.add rfl _⟩
  | back | openNumbered => cases unnumbered
  | namedBack =>
    exact ⟨fun _ inside => spliced.namedBack alone inside,
      fun settled => absurd rfl (settled _ rfl).1⟩
  | openNamed =>
    exact ⟨fun _ inside => spliced.openNamed alone inside,
      fun settled => absurd rfl (settled _ rfl).2⟩
  | again => exact goesOn (spliced.repeatLast alone)
  | bar => exact goesOn (spliced.nextAlternative plain (straight rfl) alone)
  | openGroup => exact goesOn (spliced.enterGroup fresh alone)
  | openPlain =>
    cases alone
    exact goesOn ⟨_, rfl, spliced.enter .plain flags⟩
  | openFlags change =>
    cases alone
    exact goesOn ⟨_, rfl, spliced.enter .plain (congrArg change.apply flags)⟩
  | openAtomic =>
    cases alone
    exact goesOn ⟨_, rfl, spliced.enter .atomic flags⟩
  | openLook behind negated =>
    cases alone
    have entered := fun outermost outermost' =>
      spliced.enter (.look behind negated outermost outermost') flags
    refine goesOn ⟨_, rfl, ?_, ?_, ?_, ?_⟩
    · split <;> split <;> exact (entered _ _).scopes
    · split <;> split <;> exact spliced.groups
    · split <;> split <;> exact spliced.known
    · split <;> split <;> exact spliced.names
  | flags on => exact absurd rfl (unflagged on)
  | close => exact goesOn (spliced.leave apart within alone)
  | bad => cases alone

/-- What is read alone and in a longer text is the same there. What does not depend on the groups in
front of it can be read in a longer text if it can be alone. -/
theorem run {allowed : Construct → Prop} {xs : List Lexeme} (spliced : Spliced base r s)
    (unnumbered : ∀ x ∈ xs, x.token.numbered = false)
    (unflagged : ∀ x ∈ xs, ∀ on, x.token ≠ .flags on)
    (fresh : ∀ name ∈ named xs, name ∉ base.known)
    (plain : ∀ index, base.scope.role ≠ .condition index)
    (bare : base.scope.parts = [] ∨ Pattern.straight r.verbosity xs)
    (apart : allowed .look → ¬ allowed .back)
    (asked : ∀ x ∈ xs, ∀ c ∈ x.token.construct?, allowed c) (within : r.Within allowed)
    (alone : r.run xs = .ok next) :
    (∀ next', s.run xs = .ok next' → Spliced base next next') ∧
      ((∀ x ∈ xs, x.token.Settled) → ∃ next', s.run xs = .ok next') := by
  induction xs generalizing r s with
  | nil =>
    cases alone
    refine ⟨fun next' same => ?_, fun _ => ⟨s, rfl⟩⟩
    cases same
    exact spliced
  | cons x xs ih =>
    obtain ⟨unnumberedHere, unnumbered⟩ := List.forall_mem_cons.mp unnumbered
    obtain ⟨unflaggedHere, unflagged⟩ := List.forall_mem_cons.mp unflagged
    obtain ⟨askedHere, asked⟩ := List.forall_mem_cons.mp asked
    rw [named_cons] at fresh
    obtain ⟨freshHere, fresh⟩ := List.forall_mem_append.mp fresh
    obtain ⟨between, stepped, rest⟩ := run_cons.mp alone
    have nests := (step_took stepped).verbosity
    obtain ⟨taken, took, rfl⟩ := step_eq_ok stepped
    have deep : x.token = .bar → r.outer ≠ [] ∨ base.scope.parts = [] := by
      intro bar
      refine bare.symm.imp_left fun straight => ?_
      simp only [Pattern.straight, bar, Bool.and_eq_true] at straight
      have levels := straight.1
      rintro flat
      simp [verbosity, flat] at levels
    have bare' : base.scope.parts = [] ∨
        Pattern.straight { taken with position := r.position + x.size }.verbosity xs := by
      refine bare.imp_right fun straight => ?_
      simp only [Pattern.straight, Bool.and_eq_true] at straight
      rw [nests]
      exact straight.2
    obtain ⟨both, goesOn⟩ := spliced.take (s.position + x.size) unnumberedHere unflaggedHere
      (fun name asked => freshHere name (Option.mem_toList.mpr asked)) plain deep apart
      (within _ List.mem_cons_self) took
    have following : ∀ taken', s.take (s.position + x.size) x.token = .ok taken' →
        let here : Progress := { taken' with position := s.position + x.size }
        (∀ next', here.run xs = .ok next' → Spliced base next next') ∧
          ((∀ x ∈ xs, x.token.Settled) → ∃ next', here.run xs = .ok next') := by
      intro taken' took'
      obtain ⟨scopes, groups, known, names⟩ := both taken' took'
      have kept : taken.Within allowed := take_within took askedHere within
      exact ih (r := { taken with position := r.position + x.size }) ⟨scopes, groups, known, names⟩
        unnumbered unflagged fresh bare' asked kept rest
    constructor
    · intro next' ran
      obtain ⟨between', stepped', ran⟩ := run_cons.mp ran
      obtain ⟨taken', took', rfl⟩ := step_eq_ok stepped'
      exact (following taken' took').1 next' ran
    · intro settled
      obtain ⟨settledHere, settled⟩ := List.forall_mem_cons.mp settled
      obtain ⟨taken', took'⟩ := goesOn settledHere
      obtain ⟨last, ran⟩ := (following taken' took').2 settled
      refine ⟨last, run_cons.mpr ⟨_, ?_, ran⟩⟩
      rw [step, took']
      rfl

end Spliced

section Parts

variable {xs : List Lexeme} {flags : PatternFlags} {s alone inside : Progress}
  (unflagged : ∀ x ∈ xs, ∀ on, x.token ≠ .flags on)
  (fresh : ∀ name ∈ named xs, name ∉ s.known)
  (plain : ∀ index, s.scope.role ≠ .condition index)
  (ran : (Progress.start flags).run xs = .ok alone)
  (same : s.scope.flags = flags)
include unflagged fresh plain ran same

theorem spliced_of_run (movable : Movable xs)
    (bare : s.scope.parts = [] ∨ Pattern.straight [flags.verbose] xs) :
    (∀ inside, s.run xs = .ok inside → Spliced s alone inside) ∧
      ((∀ x ∈ xs, x.token.Settled) → ∃ inside, s.run xs = .ok inside) := by
  have start : Spliced s (.start flags) s :=
    ⟨.bottom rfl rfl ⟨same, rfl, rfl, fun _ => rfl⟩, (Nat.zero_add _).symm, rfl, nofun⟩
  have within (allowed : Construct → Prop) : (Progress.start flags).Within allowed :=
    List.forall_mem_singleton.mpr ⟨nofun, nofun, nofun⟩
  obtain ⟨unnumbered, asked | asked⟩ := movable
  · exact start.run unnumbered unflagged fresh plain bare (fun look _ => absurd rfl look) asked
      (within _) ran
  · exact start.run unnumbered unflagged fresh plain bare (fun _ back => absurd rfl back) asked
      (within _) ran

/-- A text that does not depend on the groups in front of it can be read as a part of a longer one if
it can be read alone. -/
theorem exists_run_spliced (settled : ∀ x ∈ xs, x.token.Settled)
    (bare : s.scope.parts = [] ∨ Pattern.straight [flags.verbose] xs) :
    ∃ inside, s.run xs = .ok inside :=
  (spliced_of_run unflagged fresh plain ran same (movable_of_settled settled) bare).2 settled

variable (movable : Movable xs) (balanced : alone.outer = []) (ranInside : s.run xs = .ok inside)
include movable balanced ranInside

/-- What is read alone and as a part of a longer text is the same there, in the scope where it
begins. -/
theorem shifted_of_run (bare : s.scope.parts = [] ∨ Pattern.straight [flags.verbose] xs) :
    inside.outer = s.outer ∧ inside.scope.role = s.scope.role ∧ alone.scope.role = .whole ∧
      Scope.Shifted s.groups.length s.scope.closed s.scope.parts alone.scope inside.scope := by
  obtain ⟨scopes, _⟩ := (spliced_of_run unflagged fresh plain ran same movable bare).1 _ ranInside
  rw [balanced] at scopes
  generalize around : inside.scope :: inside.outer = ts at scopes
  cases scopes with
  | bottom whole role shifted =>
    obtain ⟨rfl, outer⟩ := List.cons.inj around
    exact ⟨outer, role, whole, shifted⟩
  | inner _ _ below => cases below

/-- Between parentheses of a longer text, the pattern of a text is what it is alone, behind the
groups in front of it. -/
theorem run_between (closed : s.scope.closed = []) (parts : s.scope.parts = []) :
    inside.outer = s.outer ∧ inside.scope.role = s.scope.role ∧
      choice inside.scope.alternatives =
        (alone.scope.toPattern alone.widths).shift s.groups.length := by
  obtain ⟨outer, role, whole, shifted⟩ :=
    shifted_of_run unflagged fresh plain ran same movable balanced ranInside (.inl parts)
  rw [closed, parts] at shifted
  refine ⟨outer, role, ?_⟩
  rw [shifted.choice, Scope.toPattern, whole]

/-- Behind other parts of a longer text, a text without alternatives adds what it is alone, behind the
groups in front of it. -/
theorem run_behind (parts : s.scope.parts ≠ []) (straight : Pattern.straight [flags.verbose] xs) :
    ∃ ps, s.SameScope inside ∧ inside.scope.closed = s.scope.closed ∧
      inside.scope.parts.reverse.map Part.pattern =
        s.scope.parts.reverse.map Part.pattern ++ ps ∧
      sequence ps = (alone.scope.toPattern alone.widths).shift s.groups.length := by
  obtain ⟨_, _, whole, shifted⟩ :=
    shifted_of_run unflagged fresh plain ran same movable balanced ranInside (.inr straight)
  have single := shifted.straight parts
  have sameScope : s.SameScope inside :=
    Balanced.run ⟨alone, ran, balanced⟩ (.inr (.inr parts)) ranInside
  refine ⟨(alone.scope.parts.map (Part.shift s.groups.length)).reverse.map Part.pattern,
    sameScope, ?_, ?_, ?_⟩
  · rw [shifted.closed, single]
    rfl
  · rw [shifted.parts, List.reverse_append, List.map_append]
  · rw [Scope.toPattern, whole]
    dsimp only
    rw [Scope.alternatives, single]
    change _ = (sequence (alone.scope.parts.reverse.map Part.pattern)).shift _
    rw [shift_sequence, ← List.map_reverse, List.map_map, List.map_map]
    rfl

end Parts

/-- A text that can be read alone can be read as a group of a longer one. -/
theorem exists_run_group {xs : List Lexeme} {flags : PatternFlags} {s alone : Progress}
    (settled : ∀ x ∈ xs, x.token.Settled) (unflagged : ∀ x ∈ xs, ∀ on, x.token ≠ .flags on)
    (fresh : ∀ name ∈ named xs, name ∉ s.known)
    (ran : (Progress.start flags).run xs = .ok alone) (balanced : alone.outer = [])
    (same : s.scope.flags = flags) :
    ∃ t, s.run (⟨.openGroup none, 1⟩ :: (xs ++ [⟨.close, 1⟩])) = .ok t := by
  let opened : Progress :=
    { s.enter (.capture (s.groups.length + 1)) s.scope.flags with
      groups := s.groups ++ [none]
      position := s.position + 1 }
  obtain ⟨inside, ranText⟩ :=
    exists_run_spliced (s := opened) unflagged fresh nofun ran same settled (.inl rfl)
  obtain ⟨outer, _⟩ := run_between (s := opened) unflagged fresh nofun ran same
    (movable_of_settled settled) balanced ranText rfl rfl
  obtain ⟨t, closed, _⟩ := step_close outer
  refine ⟨t, run_cons.mpr ⟨opened, rfl, run_append.mpr ⟨inside, ranText, ?_⟩⟩⟩
  exact run_cons.mpr ⟨t, closed, rfl⟩

/-- Tokens that come back to the scope where they begin can stand between parentheses that may be left
out. -/
theorem exists_run_optional {tokens : List Lexeme} {s : Progress}
    (inner : ∀ r : Progress, r.scope.flags = s.scope.flags → r.known = s.known →
      ∃ r', r.run tokens = .ok r' ∧ r'.outer = r.outer) :
    ∃ t, s.run (⟨.openPlain, 3⟩ :: (tokens ++ [⟨.close, 1⟩, ⟨.again 0 (some 1) .greedy, 1⟩])) =
      .ok t := by
  let opened : Progress := { s.enter .plain s.scope.flags with position := s.position + 3 }
  obtain ⟨inside, ranInner, outer⟩ := inner opened rfl rfl
  obtain ⟨closed, stepped, scope⟩ := step_close outer
  obtain ⟨t, again⟩ := step_again (congrArg Scope.parts scope) rfl 0 (some 1) .greedy
  refine ⟨t, run_cons.mpr ⟨opened, rfl, run_append.mpr ⟨inside, ranInner, ?_⟩⟩⟩
  exact run_cons.mpr ⟨closed, stepped, run_cons.mpr ⟨t, again, rfl⟩⟩

end Progress
end LineCommand.Pattern
