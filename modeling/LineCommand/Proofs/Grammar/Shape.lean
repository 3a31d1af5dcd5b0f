import LineCommand.Proofs.Grammar.Splicing
import LineCommand.Proofs.Pattern.Splicing

/-! The pattern that a template comes to: that of each fragment by itself, in a group if it is a
field, between the separators. -/
namespace LineCommand
open Pattern

namespace Pattern

theorem movable_literals (cs : List Char) : Movable (literals cs) := by
  refine movable_of_settled fun x member => ?_
  obtain ⟨c, _, rfl⟩ := List.mem_map.mp member
  exact nofun

theorem straight_literals (levels : List Bool) (cs : List Char) :
    straight levels (literals cs) := by
  induction cs with
  | nil => rfl
  | cons c cs ih => exact ih

end Pattern

namespace Pattern.Progress

/-- Reading has put patterns behind those of the innermost scope, and left everything else as it
was. -/
structure Extends (s : Progress) (ps : List Pattern) (t : Progress) : Prop where
  outer : t.outer = s.outer
  role : t.scope.role = s.scope.role
  flags : t.scope.flags = s.scope.flags
  closed : t.scope.closed = s.scope.closed
  parts : t.scope.parts.reverse.map Part.pattern = s.scope.parts.reverse.map Part.pattern ++ ps

variable {r s t : Progress} {ps qs : List Pattern}

theorem Extends.refl (s : Progress) : s.Extends [] s :=
  ⟨rfl, rfl, rfl, rfl, (List.append_nil _).symm⟩

theorem Extends.trans (first : r.Extends ps s) (second : s.Extends qs t) :
    r.Extends (ps ++ qs) t where
  outer := second.outer.trans first.outer
  role := second.role.trans first.role
  flags := second.flags.trans first.flags
  closed := second.closed.trans first.closed
  parts := by rw [second.parts, first.parts, List.append_assoc]

/-- What is read into the outermost scope is a sequence, as long as no alternative is closed. -/
theorem Extends.toPattern (extended : s.Extends ps t) (whole : s.scope.role = .whole)
    (closed : s.scope.closed = []) (widths : Nat → Width) :
    t.scope.toPattern widths = sequence (s.scope.parts.reverse.map Part.pattern ++ ps) := by
  rw [Scope.toPattern, extended.role, whole]
  dsimp only
  rw [Scope.alternatives, extended.closed, closed, extended.parts]
  rfl

end Pattern.Progress

namespace Fragment

/-- A fragment whose pattern stands in a longer one as it stands alone. It may have groups, and refer
to them by name; it has alternatives outside of parentheses only if it is a field. -/
structure Spliceable (flags : PatternFlags) (x : Fragment) : Prop extends Standalone flags x where
  movable : Movable (lexemes flags.verbose x.text.toList)
  straight : x.slot? = none →
    Pattern.straight [flags.verbose] (lexemes flags.verbose x.text.toList)

/-- A fragment whose pattern stands in a longer one as it stands alone, and which is text without a
special meaning if it is no field. -/
structure Insertable (flags : PatternFlags) (x : Fragment) : Prop extends Spliceable flags x where
  literal : x.slot? = none →
    lexemes flags.verbose x.text.toList = literals x.text.toList

theorem insertable_of_plain {flags : PatternFlags} {x : Fragment} (verbose : flags.verbose = false)
    (plain : Plain x.text.toList) : x.Insertable flags := by
  have cut : lexemes flags.verbose x.text.toList = literals x.text.toList := by
    rw [verbose]
    exact lexemes_plain plain
  refine ⟨⟨⟨exists_read_plain verbose plain, fun verbosely => ?_⟩, ?_, fun _ => ?_⟩, fun _ => cut⟩
  · rw [verbose] at verbosely
    cases verbosely
  · rw [cut]
    exact movable_literals _
  · rw [cut]
    exact straight_literals _ _

/-! ### Patterns of a fragment -/

def blank (flags : PatternFlags) : Pattern :=
  .one ⟨[.kind .blank false], false, flags.fold, flags.ascii⟩

def character (flags : PatternFlags) (c : Char) : Pattern :=
  .one ⟨[.code c.toNat], false, flags.fold, flags.ascii⟩

def lineEnd (flags : PatternFlags) : Pattern :=
  .anchor (if flags.multiline then .lineEnd else .lastLineEnd)

def separator (flags : PatternFlags) : Pattern := .again 1 none .greedy (blank flags)

def ending (flags : PatternFlags) : List Pattern :=
  [.again 0 none .greedy (blank flags), lineEnd flags]

def gapParts (flags : PatternFlags) (pending : Bool) : List Pattern :=
  if pending then [separator flags] else []

def body (flags : PatternFlags) (x : Fragment) : Pattern :=
  match Expression.read flags x.text with
  | .ok e => e.pattern
  | .error _ => .empty

/-- The group of a field behind `k` others. -/
def grouped (flags : PatternFlags) (k : Nat) (x : Fragment) : Pattern :=
  .group (k + 1) ((x.body flags).shift (k + 1))

/-- What keeps a field that may be left out apart from the text behind it, where no separator stands
before it. -/
def apart (flags : PatternFlags) : Pattern :=
  .alt (.sequence [separator flags]) (.sequence [.look .ahead false (.sequence (ending flags))])

/-- The patterns of a fragment behind `k` groups. -/
def parts (flags : PatternFlags) (pending : Bool) (k : Nat) (x : Fragment) : List Pattern :=
  match x with
  | .field _ false => gapParts flags pending ++ [x.grouped flags k]
  | .field _ true =>
    let rear := if pending then [] else [apart flags]
    let inner := gapParts flags pending ++ x.grouped flags k :: rear
    [.again 0 (some 1) .greedy (.sequence inner)]
  | _ => gapParts flags pending ++ x.text.toList.map (character flags)

def allParts (flags : PatternFlags) (pending : Bool) (k : Nat) : List Fragment → List Pattern
  | [] => ending flags
  | x :: xs => x.parts flags pending k ++ allParts flags (x.leaves pending) (k + x.groups flags) xs

/-! ### Reading a fragment -/

variable {flags : PatternFlags} {s t : Progress} {pending : Bool} {x : Fragment}
  {xs : List Fragment}

theorem extends_gap (ran : s.run (gapTokens pending) = .ok t) :
    s.Extends (gapParts s.scope.flags pending) t := by
  cases pending with
  | false =>
    cases ran
    exact .refl _
  | true =>
    cases ran
    refine ⟨rfl, rfl, rfl, rfl, ?_⟩
    simp [Scope.set, gapParts, separator, blank]

theorem extends_ending (ran : s.run endTokens = .ok t) : s.Extends (ending s.scope.flags) t := by
  cases ran
  refine ⟨rfl, rfl, rfl, rfl, ?_⟩
  simp [Progress.add, Scope.add, Scope.set, ending, blank, lineEnd]
  rfl

theorem extends_literal {cs : List Char} (ran : s.run (literals cs) = .ok t) :
    s.Extends (cs.map (character s.scope.flags)) t := by
  induction cs generalizing s with
  | nil =>
    cases ran
    exact .refl _
  | cons c cs ih =>
    obtain ⟨between, stepped, rest⟩ := Progress.run_cons.mp ran
    cases stepped
    have first : s.Extends [character s.scope.flags c]
        { s.add (s.scope.set [.code c.toNat] false) with position := s.position + 1 } := by
      refine ⟨rfl, rfl, rfl, rfl, ?_⟩
      simp [Progress.add, Scope.add, Scope.set, character]
    exact first.trans (ih rest)

theorem extends_group (spliceable : x.Spliceable s.scope.flags)
    (ran : s.run (⟨.openGroup none, 1⟩ :: (lexemes s.scope.flags.verbose x.text.toList ++
      [⟨.close, 1⟩])) = .ok t) :
    s.Extends [x.grouped s.scope.flags s.groups.length] t := by
  obtain ⟨opened, stepped, ran⟩ := Progress.run_cons.mp ran
  have scope : opened.scope = ⟨.capture (s.groups.length + 1), s.position, s.scope.flags, [], []⟩ ∧
      opened.outer = s.scope :: s.outer ∧ opened.groups.length = s.groups.length + 1 := by
    cases stepped
    exact ⟨rfl, rfl, List.length_append⟩
  obtain ⟨scope, outer, count⟩ := scope
  obtain ⟨inside, ranText, ran⟩ := Progress.run_append.mp ran
  obtain ⟨closed, stepped, done⟩ := Progress.run_cons.mp ran
  cases done
  obtain ⟨e, read⟩ := spliceable.reads
  have body : x.body s.scope.flags = e.pattern := by rw [Fragment.body, read]
  obtain ⟨alone, ranAlone, balanced, rfl⟩ := Expression.read_eq_ok read
  have begun : opened.Begun := .inl (outer ▸ List.cons_ne_nil _ _)
  obtain ⟨outer', role, pattern⟩ :=
    Progress.run_between (Progress.run_unflagged begun ranText) (Progress.run_fresh ranText)
      (by rw [scope]; exact nofun) ranAlone (by rw [scope]) spliceable.movable balanced ranText
      (by rw [scope]) (by rw [scope])
  obtain ⟨left, took, rfl⟩ := Progress.step_eq_ok stepped
  obtain ⟨around, below, groups, limit, enclosed, _, rfl⟩ := Progress.leave_eq_ok took
  rw [outer', outer] at enclosed
  obtain ⟨rfl, rfl⟩ := List.cons.inj enclosed
  rw [scope] at role
  have group : inside.scope.toPattern inside.widths = x.grouped s.scope.flags s.groups.length := by
    rw [Scope.toPattern, role, pattern, count, grouped, body]
  refine ⟨rfl, rfl, rfl, rfl, ?_⟩
  simp [Scope.add, group]

/-- What is between plain parentheses can be left out as a whole. -/
theorem extends_optional (tokens : List Lexeme) {ps : List Pattern}
    (inner : ∀ {r r' : Progress}, r.run tokens = .ok r' → r.scope.flags = s.scope.flags →
      r.groups.length = s.groups.length → r.Extends ps r')
    (ran : s.run (⟨.openPlain, 3⟩ :: (tokens ++ [⟨.close, 1⟩, ⟨.again 0 (some 1) .greedy, 1⟩])) =
      .ok t) :
    s.Extends [.again 0 (some 1) .greedy (.sequence ps)] t := by
  obtain ⟨opened, stepped, ran⟩ := Progress.run_cons.mp ran
  cases stepped
  obtain ⟨inside, ranInner, ran⟩ := Progress.run_append.mp ran
  have extended := inner ranInner rfl rfl
  obtain ⟨closed, stepped, ran⟩ := Progress.run_cons.mp ran
  obtain ⟨left, took, rfl⟩ := Progress.step_eq_ok stepped
  obtain ⟨around, below, groups, limit, enclosed, _, rfl⟩ := Progress.leave_eq_ok took
  rw [extended.outer] at enclosed
  obtain ⟨rfl, rfl⟩ := List.cons.inj enclosed
  have pattern : inside.scope.toPattern inside.widths = .sequence ps := by
    rw [Scope.toPattern, extended.role]
    dsimp only [Progress.enter]
    rw [Scope.alternatives, extended.closed, extended.parts]
    rfl
  obtain ⟨again, stepped, done⟩ := Progress.run_cons.mp ran
  cases done
  cases stepped
  refine ⟨rfl, rfl, rfl, rfl, ?_⟩
  simp [pattern]

theorem extends_rear (ran : s.run (if pending then [] else apartTokens) = .ok t) :
    s.Extends (if pending then [] else [apart s.scope.flags]) t := by
  cases pending with
  | true =>
    cases ran
    exact .refl _
  | false =>
    cases ran
    refine ⟨rfl, rfl, rfl, rfl, ?_⟩
    simp [Scope.add, Progress.add]
    rfl

theorem opens_gap (pending : Bool) : Progress.opens (gapTokens pending) = 0 := by
  cases pending <;> rfl

/-- A field between parentheses, behind a separator if one is pending. -/
theorem extends_field (spliceable : x.Spliceable flags) (same : s.scope.flags = flags)
    (ran : s.run (gapTokens pending ++ (⟨.openGroup none, 1⟩ ::
      (lexemes flags.verbose x.text.toList ++ [⟨.close, 1⟩]))) = .ok t) :
    s.Extends (gapParts flags pending ++ [x.grouped flags s.groups.length]) t := by
  subst same
  obtain ⟨between, ranGap, ranGroup⟩ := Progress.run_append.mp ran
  have gap := extends_gap ranGap
  have count : between.groups.length = s.groups.length := by
    rw [Progress.run_groups ranGap, opens_gap, Nat.add_zero]
  rw [← gap.flags] at spliceable ranGroup
  have group := extends_group spliceable ranGroup
  rw [gap.flags, count] at group
  exact gap.trans group

theorem extends_tokens (insertable : x.Insertable flags) (same : s.scope.flags = flags)
    (ran : s.run (x.tokens flags.verbose pending) = .ok t) :
    s.Extends (x.parts flags pending s.groups.length) t := by
  have inserted : x.slot? = none → s.run (gapTokens pending ++ lexemes flags.verbose x.text.toList) =
      .ok t → s.Extends (gapParts flags pending ++ x.text.toList.map (character flags)) t := by
    intro plain ran
    obtain ⟨between, ranGap, ranText⟩ := Progress.run_append.mp ran
    rw [insertable.literal plain] at ranText
    have gap := extends_gap ranGap
    have text := extends_literal ranText
    rw [gap.flags] at text
    exact same ▸ gap.trans text
  cases x with
  | plain content | unknown name content =>
    change s.run (gapTokens pending ++ (lexemes flags.verbose content.toList ++ [])) = .ok t at ran
    rw [List.append_nil] at ran
    exact inserted rfl ran
  | field f optional =>
    cases optional with
    | false =>
      change s.run (gapTokens pending ++ [⟨.openGroup none, 1⟩] ++
        (lexemes flags.verbose f.pattern.toList ++ [⟨.close, 1⟩])) = .ok t at ran
      rw [List.append_assoc] at ran
      exact extends_field insertable.toSpliceable same ran
    | true =>
      let field := gapTokens pending ++ (⟨.openGroup none, 1⟩ ::
        (lexemes flags.verbose (Fragment.field f true).text.toList ++ [⟨.close, 1⟩]))
      refine extends_optional (field ++ if pending then [] else apartTokens) ?_ ?_
      · intro r r' ran kept count
        obtain ⟨between, ranField, ranRear⟩ := Progress.run_append.mp ran
        have first := extends_field insertable.toSpliceable (kept.trans same) ranField
        have second := extends_rear ranRear
        rw [first.flags, kept, same] at second
        rw [← count, List.append_cons]
        exact first.trans second
      · simpa [tokens, frontTokens, rearTokens, field] using ran

/-- The tokens of fragments are read as their patterns. -/
theorem extends_allTokens (insertable : ∀ x ∈ xs, x.Insertable flags) (same : s.scope.flags = flags)
    (ran : s.run (allTokens flags.verbose pending xs) = .ok t) :
    s.Extends (allParts flags pending s.groups.length xs) t := by
  induction xs generalizing pending s with
  | nil => exact same ▸ extends_ending ran
  | cons x xs ih =>
    have here := insertable x List.mem_cons_self
    obtain ⟨between, ranHere, ran⟩ := Progress.run_append.mp ran
    have first := extends_tokens here same ranHere
    have count : between.groups.length = s.groups.length + x.groups flags := by
      rw [Progress.run_groups ranHere, opens_tokens here.toStandalone]
    have rest := ih (fun y listed => insertable y (.tail _ listed)) (first.flags.trans same) ran
    rw [count] at rest
    exact first.trans rest

end Fragment

namespace GrammarBuilder

/-- The pattern of a grammar is put together from the patterns of its fragments. -/
theorem Makes.pattern {flags : PatternFlags} {xs : List Fragment} {g : Grammar}
    (made : Makes flags xs g) (insertable : ∀ x ∈ xs, x.Insertable flags) :
    g.expression.pattern = .sequence
      (.anchor (if flags.multiline then .lineStart else .textStart) ::
        .again 0 none .greedy (Fragment.blank flags) :: Fragment.allParts flags false 0 xs) := by
  obtain ⟨last, ran, _, pattern, _⟩ := made.run fun x member => (insertable x member).toStandalone
  obtain ⟨begun, started, ran⟩ := Progress.run_append.mp ran
  cases started
  have extended := Fragment.extends_allTokens insertable rfl ran
  rw [pattern]
  exact extended.toPattern rfl rfl _

end GrammarBuilder
end LineCommand
