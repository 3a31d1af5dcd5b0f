import LineCommand.Proofs.Pattern.Progress

/-! What patterns are made of. A pattern that has been read uses no construct but those that the
tokens of its text ask for. -/
namespace LineCommand.Pattern

/-- A way of making patterns, other than of characters, one after another or in turn. -/
inductive Construct
  | anchor
  | group
  | again (manner : Manner)
  | atomic
  | look
  | back
  | cond
  deriving DecidableEq

def constructs : Pattern → List Construct
  | empty => []
  | one _ => []
  | anchor _ => [.anchor]
  | seq first rest => first.constructs ++ rest.constructs
  | alt left right => left.constructs ++ right.constructs
  | group _ body => .group :: body.constructs
  | again _ _ manner body => .again manner :: body.constructs
  | atomic body => .atomic :: body.constructs
  | look _ _ body => .look :: body.constructs
  | back _ _ => [.back]
  | cond _ yes no => .cond :: (yes.constructs ++ no.constructs)

/-- A pattern that uses only constructs of a class. -/
def Within (allowed : Construct → Prop) (p : Pattern) : Prop := ∀ c ∈ p.constructs, allowed c

def Token.construct? : Token → Option Construct
  | .lineStart | .lineEnd | .textStart | .textEnd | .boundary _ => some .anchor
  | .back _ | .namedBack _ => some .back
  | .again _ _ manner => some (.again manner)
  | .openGroup _ => some .group
  | .openAtomic => some .atomic
  | .openLook .. => some .look
  | .openNumbered _ | .openNamed _ => some .cond
  | _ => none

def Role.construct? : Role → Option Construct
  | .capture _ => some .group
  | .atomic => some .atomic
  | .look .. => some .look
  | .condition _ => some .cond
  | _ => none

variable {allowed : Construct → Prop}

/-- A scope in which only constructs of a class are used, itself included. -/
structure Scope.Within (allowed : Construct → Prop) (s : Scope) : Prop where
  role : ∀ c ∈ s.role.construct?, allowed c
  closed : ∀ p ∈ s.closed, p.Within allowed
  parts : ∀ part ∈ s.parts, part.pattern.Within allowed

theorem within_one (set : CharSet) : (one set).Within allowed := by
  intro c member
  cases member

theorem within_sequence {ps : List Pattern} (within : ∀ p ∈ ps, p.Within allowed) :
    (sequence ps).Within allowed := by
  induction ps with
  | nil => exact nofun
  | cons p ps ih =>
    intro c member
    obtain here | there := List.mem_append.mp member
    · exact within p List.mem_cons_self c here
    · exact ih (fun q listed => within q (.tail _ listed)) c there

theorem within_choice {ps : List Pattern} (within : ∀ p ∈ ps, p.Within allowed) :
    (choice ps).Within allowed := by
  induction ps with
  | nil => exact nofun
  | cons p ps ih =>
    cases ps with
    | nil => exact within p List.mem_cons_self
    | cons q qs =>
      intro c member
      obtain here | there := List.mem_append.mp member
      · exact within p List.mem_cons_self c here
      · exact ih (fun q listed => within q (.tail _ listed)) c there

namespace Scope.Within

variable {s : Scope}

theorem alternatives (within : s.Within allowed) : ∀ p ∈ s.alternatives, p.Within allowed := by
  intro p member
  simp only [Scope.alternatives, List.mem_reverse, List.mem_cons] at member
  obtain rfl | member := member
  · refine within_sequence fun q listed => ?_
    obtain ⟨part, inside, rfl⟩ := List.mem_map.mp listed
    exact within.parts part (List.mem_reverse.mp inside)
  · exact within.closed p member

theorem toPattern (within : s.Within allowed) (widths : Nat → Width) :
    (s.toPattern widths).Within allowed := by
  have body := within_choice within.alternatives
  have asked := within.role
  unfold Scope.toPattern
  cases role : s.role with
  | whole | plain => exact body
  | capture | atomic | look =>
    rw [role] at asked
    intro c member
    obtain rfl | inside := List.mem_cons.mp member
    · exact asked _ rfl
    · exact body c inside
  | condition index =>
    rw [role] at asked
    dsimp only
    split
    · rename_i yes no both
      have within := within.alternatives
      rw [both] at within
      intro c member
      obtain rfl | inside := List.mem_cons.mp member
      · exact asked _ rfl
      · obtain here | there := List.mem_append.mp inside
        · exact within yes (by simp) c here
        · exact within no (by simp) c there
    · intro c member
      obtain rfl | inside := List.mem_cons.mp member
      · exact asked _ rfl
      · rw [constructs, List.append_nil] at inside
        exact body c inside

theorem add (within : s.Within allowed) {p : Pattern} (part : p.Within allowed) (form : PartForm) :
    (s.add p form).Within allowed where
  role := within.role
  closed := within.closed
  parts := List.forall_mem_cons.mpr ⟨part, within.parts⟩

end Scope.Within

namespace Progress

variable {r next : Progress}

/-- Reading that has used only constructs of a class. -/
def Within (allowed : Construct → Prop) (r : Progress) : Prop :=
  ∀ s ∈ r.scope :: r.outer, s.Within allowed

theorem Within.add (within : r.Within allowed) {p : Pattern} (part : p.Within allowed)
    (form : PartForm) : (r.add p form).Within allowed := by
  obtain ⟨here, around⟩ := List.forall_mem_cons.mp within
  exact List.forall_mem_cons.mpr ⟨here.add part form, around⟩

theorem Within.enter (within : r.Within allowed) (role : Role)
    (asked : ∀ c ∈ role.construct?, allowed c) (flags : PatternFlags) :
    (r.enter role flags).Within allowed :=
  List.forall_mem_cons.mpr ⟨⟨asked, nofun, nofun⟩, within⟩

theorem take_within {stop : Nat} {token : Token} (taken : r.take stop token = .ok next)
    (asked : ∀ c ∈ token.construct?, allowed c) (within : r.Within allowed) :
    next.Within allowed := by
  have construct : ∀ {p : Pattern} {c}, token.construct? = some c → p.constructs = [c] →
      p.Within allowed := by
    intro p c found made d member
    rw [made, List.mem_singleton] at member
    exact member ▸ asked c found
  cases token with
  | nothing =>
    cases taken
    exact within
  | literal | anyChar | set =>
    cases taken
    exact within.add (within_one _) _
  | lineStart | lineEnd | textStart | textEnd | boundary =>
    cases taken
    exact within.add (construct rfl rfl) _
  | back index =>
    simp only [take] at taken
    split at taken
    · cases taken
    · split at taken
      · cases taken
      · cases refer_eq_ok taken
        exact within.add (construct rfl rfl) _
  | namedBack name =>
    simp only [take] at taken
    split at taken
    · cases taken
    · split at taken
      · cases taken
      · cases refer_eq_ok taken
        exact within.add (construct rfl rfl) _
  | again low high manner =>
    obtain ⟨last, rest, parts, _, rfl⟩ := repeatLast_eq_ok taken
    obtain ⟨here, around⟩ := List.forall_mem_cons.mp within
    obtain ⟨repeated, others⟩ := List.forall_mem_cons.mp (parts ▸ here.parts)
    refine List.forall_mem_cons.mpr ⟨⟨here.role, here.closed, ?_⟩, around⟩
    refine List.forall_mem_cons.mpr ⟨?_, others⟩
    intro c member
    obtain rfl | inside := List.mem_cons.mp member
    · exact asked _ rfl
    · exact repeated c inside
  | bar =>
    cases nextAlternative_eq_ok taken
    obtain ⟨here, around⟩ := List.forall_mem_cons.mp within
    refine List.forall_mem_cons.mpr ⟨⟨here.role, ?_, List.forall_mem_nil _⟩, around⟩
    refine List.forall_mem_cons.mpr ⟨within_sequence fun q listed => ?_, here.closed⟩
    obtain ⟨part, inside, rfl⟩ := List.mem_map.mp listed
    exact here.parts part (List.mem_reverse.mp inside)
  | openGroup name =>
    obtain ⟨_, rfl⟩ := enterGroup_eq_ok taken
    exact within.enter (.capture _) asked _
  | openPlain | openFlags =>
    cases taken
    exact within.enter .plain asked _
  | openAtomic =>
    cases taken
    exact within.enter .atomic asked _
  | openLook behind negated =>
    cases taken
    split <;> exact within.enter (.look ..) asked _
  | openNumbered index =>
    cases enterCondition_eq_ok taken
    exact within.enter (.condition _) asked _
  | openNamed name =>
    simp only [take] at taken
    split at taken
    · cases taken
    · cases enterCondition_eq_ok taken
      exact within.enter (.condition _) asked _
  | flags on =>
    obtain ⟨_, unicodeAsked, rfl⟩ := setFlags_eq_ok taken
    obtain ⟨here, around⟩ := List.forall_mem_cons.mp within
    exact List.forall_mem_cons.mpr ⟨⟨here.role, here.closed, here.parts⟩, around⟩
  | close =>
    obtain ⟨around, outer, groups, behindLimit, enclosed, _, rfl⟩ := leave_eq_ok taken
    obtain ⟨here, outside⟩ := List.forall_mem_cons.mp within
    rw [enclosed] at outside
    obtain ⟨there, others⟩ := List.forall_mem_cons.mp outside
    exact List.forall_mem_cons.mpr ⟨there.add (here.toPattern _) _, others⟩
  | bad complaint offset => cases taken

theorem run_within {xs : List Lexeme} (asked : ∀ x ∈ xs, ∀ c ∈ x.token.construct?, allowed c)
    (within : r.Within allowed) (ran : r.run xs = .ok next) : next.Within allowed := by
  induction xs generalizing r with
  | nil =>
    cases ran
    exact within
  | cons x xs ih =>
    obtain ⟨between, stepped, rest⟩ := run_cons.mp ran
    obtain ⟨taken, took, rfl⟩ := step_eq_ok stepped
    have between : taken.Within allowed := take_within took (asked x List.mem_cons_self) within
    exact ih (r := { taken with position := r.position + x.size })
      (fun y listed => asked y (.tail _ listed)) between rest

end Progress
end LineCommand.Pattern

namespace LineCommand.Expression
open Pattern

/-- A pattern that has been read uses only constructs that the tokens of its text ask for. -/
theorem within_of_read {allowed : Construct → Prop} {flags : PatternFlags} {source : String}
    {e : Expression} (read : Expression.read flags source = .ok e)
    (asked : ∀ x ∈ lexemes flags.verbose source.toList, ∀ c ∈ x.token.construct?, allowed c) :
    e.pattern.Within allowed := by
  obtain ⟨r, ran, balanced, rfl⟩ := read_eq_ok read
  have start : (Progress.start flags).Within allowed :=
    List.forall_mem_singleton.mpr ⟨nofun, nofun, nofun⟩
  have within := Progress.run_within asked start ran
  exact (within _ List.mem_cons_self).toPattern _

end LineCommand.Expression
