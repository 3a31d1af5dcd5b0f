import LineCommand.Proofs.Grammar.Blocks
import LineCommand.Proofs.Grammar.Tame
import LineCommand.Proofs.Pattern.Branches
import LineCommand.Proofs.Pattern.Excerpt

/-! How the fragments of a grammar lie on a line that it matches: each one takes a stretch of the line
behind those before it, with the separators around, or is left out. The ways to match the pattern of a
grammar are the ways to lay out its fragments, and the group of a field remembers its stretch. -/
namespace LineCommand
open Pattern

/-- In front of a blank or the end of a text, a field takes what its pattern matches. -/
theorem Field.leaves_iff {f : Field} (forward : (Fragment.field f false).Forward)
    (settles : ∀ e, Expression.read {} f.pattern = .ok e → e.pattern.Exact) {text rest : List Char}
    (edge : Text.Edge rest) : ((Fragment.field f false).body {}).Leaves (text ++ rest) rest ↔
      f.fullMatches (String.ofList text) := by
  obtain ⟨e, read⟩ := forward.reads
  have body : (Fragment.field f false).body {} = e.pattern := by rw [Fragment.body, read]
  have onward := forward.onward
  rw [body] at onward ⊢
  rw [Field.fullMatches_eq read, String.toList_ofList]
  exact Expression.leaves_iff read edge onward (settles e read)

namespace Fragment

def optional : Fragment → Bool
  | .field _ optional => optional
  | _ => false

/-- The pattern of the text of a fragment behind `k` groups, in one more if it is a field. -/
def core (k : Nat) (x : Fragment) : Pattern :=
  match x.slot? with
  | some _ => x.grouped {} k
  | none => (x.body {}).shift k

/-- The patterns behind the text of a fragment that keep it apart from the text there. -/
def rearParts (pending : Bool) (x : Fragment) : List Pattern :=
  if x.optional && !pending then [apart {}] else []

/-- How a fragment behind `k` groups lies on the line from one place on: from the end of the separator
before it, where one is pending, to the start of the one behind it. It may be left out if it is
optional. -/
inductive Placed (pending : Bool) (k : Nat) (x : Fragment) (st : MatchState) :
    Option Span → MatchState → Prop
  | taken {here there last : MatchState}
    (gap : here ∈ (sequence (gapParts {} pending)).outcomes st)
    (text : there ∈ (x.core k).outcomes here)
    (rear : last ∈ (sequence (x.rearParts pending)).outcomes there) :
    Placed pending k x st (some ⟨here.cursor.position, there.cursor.position⟩) last
  | skipped (optional : x.optional) : Placed pending k x st none st

/-- How fragments lie on the line from one place on, up to its end. -/
inductive Laid : Bool → Nat → List Fragment → MatchState → List (Option Span) → MatchState → Prop
  | ended {pending : Bool} {k : Nat} {st last : MatchState}
    (rest : last ∈ (sequence (ending {})).outcomes st) : Laid pending k [] st [] last
  | cons {pending : Bool} {k : Nat} {x : Fragment} {xs : List Fragment} {st next last : MatchState}
    {span? : Option Span} {spans : List (Option Span)} (here : x.Placed pending k st span? next)
    (rest : Laid (x.leaves pending) (k + x.groups {}) xs next spans last) :
    Laid pending k (x :: xs) st (span? :: spans) last

/-- How fragments lie on a line, of which blanks may stand before the first. -/
def LaidOut (xs : List Fragment) (line : List Char) (groups : Nat) (spans : List (Option Span))
    (last : MatchState) : Prop :=
  ∃ st ∈ (again 0 none .greedy (blank {})).outcomes ⟨.start line, List.replicate groups none⟩,
    Laid false 0 xs st spans last

variable {pending : Bool} {k : Nat} {x : Fragment} {xs : List Fragment} {s t : Progress}
  {st here there last : MatchState} {span? : Option Span} {spans : List (Option Span)}

/-! ### The pattern of a grammar -/

theorem mem_outcomes_append {ps qs : List Pattern} : last ∈ (sequence (ps ++ qs)).outcomes st ↔
    ∃ next ∈ (sequence ps).outcomes st, last ∈ (sequence qs).outcomes next := by
  rw [outcomes_sequence_append, List.mem_flatMap]

theorem mem_outcomes_single {p : Pattern} :
    last ∈ (sequence [p]).outcomes st ↔ last ∈ p.outcomes st := by
  change last ∈ (p.outcomes st).flatMap (fun st => [st]) ↔ _
  rw [List.flatMap_singleton']

theorem takes_of_required {text rest : List Char} (required : x.optional = false) :
    x.Takes pending text rest ↔ ∃ here, Gapped pending text here ∧ (x.body {}).Leaves here rest := by
  cases x with
  | plain | unknown => exact Iff.rfl
  | field f optional =>
    obtain rfl : optional = false := required
    exact Iff.rfl

theorem reaches_core (forward : x.Forward) (k : Nat) : (x.core k).Reaches (x.body {}).Leaves := by
  cases slot : x.slot? with
  | none =>
    rw [core, slot]
    exact reaches_shift forward.onward k
  | some _ =>
    rw [core, slot]
    exact forward.reaches_grouped k

theorem exists_placed_iff : (∃ span?, x.Placed pending k st span? last) ↔
    last ∈ (sequence (gapParts {} pending ++ x.core k :: x.rearParts pending)).outcomes st ∨
      x.optional ∧ last = st := by
  rw [mem_outcomes_append]
  constructor
  · rintro ⟨_, ⟨gap, text, rear⟩ | optional⟩
    · exact .inl ⟨_, gap, List.mem_flatMap.mpr ⟨_, text, rear⟩⟩
    · exact .inr ⟨optional, rfl⟩
  · rintro (⟨here, gap, further⟩ | ⟨optional, rfl⟩)
    · obtain ⟨there, text, rear⟩ := List.mem_flatMap.mp further
      exact ⟨_, .taken gap text rear⟩
    · exact ⟨none, .skipped optional⟩

/-- The tokens of a fragment are read as a pattern that is matched by placing the fragment. -/
theorem exists_extends_placed (spliceable : x.Spliceable {}) (begun : s.Begun)
    (same : s.scope.flags = {}) (plain : ∀ index, s.scope.role ≠ .condition index)
    (some : s.scope.parts ≠ []) (ran : s.run (x.tokens false pending) = .ok t) :
    ∃ ps, s.Extends ps t ∧ ∀ st last, last ∈ (sequence ps).outcomes st ↔
      ∃ span?, x.Placed pending s.groups.length st span? last := by
  have literal : x.slot? = none → x.optional = false →
      s.run (gapTokens pending ++ lexemes false x.text.toList) = .ok t →
      ∃ ps, s.Extends ps t ∧ ∀ st last, last ∈ (sequence ps).outcomes st ↔
        ∃ span?, x.Placed pending s.groups.length st span? last := by
    intro slot required ran
    obtain ⟨between, ranGap, ranText⟩ := Progress.run_append.mp ran
    have gap := extends_gap ranGap
    have count : between.groups.length = s.groups.length := by
      rw [Progress.run_groups ranGap, opens_gap, Nat.add_zero]
    have plain : ∀ index, between.scope.role ≠ .condition index := by
      rw [gap.role]
      exact plain
    obtain ⟨e, read⟩ := spliceable.reads
    have core : x.core s.groups.length = e.pattern.shift s.groups.length := by
      rw [core, slot, Fragment.body, read]
    obtain ⟨alone, ranAlone, balanced, rfl⟩ := Expression.read_eq_ok read
    obtain ⟨ps, scope, closed, parts, pattern⟩ :=
      Progress.run_behind (Progress.run_unflagged (Progress.run_begun begun ranGap) ranText)
        (Progress.run_fresh ranText) plain ranAlone (gap.flags.trans same) spliceable.movable
        balanced ranText (gap.parts_ne_nil some) (spliceable.straight slot)
    rw [count] at pattern
    have alike : sequence ps = x.core s.groups.length := pattern.trans core.symm
    rw [same] at gap
    refine ⟨_, gap.trans ⟨scope.outer, scope.role, scope.flags, closed, parts⟩, fun st last => ?_⟩
    have rear : x.rearParts pending = [] := by rw [rearParts, required]; rfl
    simp only [exists_placed_iff, required, rear, mem_outcomes_append, mem_outcomes_single, alike,
      Bool.false_eq_true, false_and, or_false]
  cases x with
  | plain content | unknown name content =>
    change s.run (gapTokens pending ++ (lexemes false content.toList ++ [])) = .ok t at ran
    rw [List.append_nil] at ran
    exact literal rfl rfl ran
  | field f optional =>
    have insertable : (field f optional).Insertable {} :=
      ⟨spliceable, fun none => absurd none (Option.some_ne_none _)⟩
    have extended := extends_tokens insertable same ran
    refine ⟨_, extended, fun st last => ?_⟩
    rw [exists_placed_iff]
    cases optional with
    | false => simp [parts, Fragment.optional, rearParts, core, slot?]
    | true =>
      rw [parts, mem_outcomes_single, outcomes_optional, List.mem_append, List.mem_singleton]
      cases pending <;> simp [Fragment.optional, rearParts, core, slot?]

/-- The tokens of fragments are read as a pattern that is matched by laying out the fragments. -/
theorem exists_extends_laid (spliceable : ∀ x ∈ xs, x.Spliceable {}) (begun : s.Begun)
    (same : s.scope.flags = {}) (plain : ∀ index, s.scope.role ≠ .condition index)
    (some : s.scope.parts ≠ []) (ran : s.run (allTokens false pending xs) = .ok t) :
    ∃ ps, s.Extends ps t ∧ ∀ st last, last ∈ (sequence ps).outcomes st ↔
      ∃ spans, Laid pending s.groups.length xs st spans last := by
  induction xs generalizing s pending with
  | nil =>
    refine ⟨_, same ▸ extends_ending ran, fun st last => ⟨fun member => ⟨[], .ended member⟩, ?_⟩⟩
    rintro ⟨_, ⟨member⟩⟩
    exact member
  | cons x xs ih =>
    obtain ⟨here, rests⟩ := List.forall_mem_cons.mp spliceable
    obtain ⟨between, ranHere, ran⟩ := Progress.run_append.mp ran
    obtain ⟨ps, extended, placed⟩ := exists_extends_placed here begun same plain some ranHere
    obtain ⟨qs, further, laid⟩ := ih rests (Progress.run_begun begun ranHere)
      (extended.flags.trans same) (by rw [extended.role]; exact plain)
      (extended.parts_ne_nil some) ran
    have count : between.groups.length = s.groups.length + x.groups {} := by
      rw [Progress.run_groups ranHere]
      exact congrArg _ (opens_tokens here.toStandalone)
    refine ⟨ps ++ qs, extended.trans further, fun st last => ?_⟩
    simp only [mem_outcomes_append, placed, laid, count]
    constructor
    · rintro ⟨next, ⟨span?, first⟩, spans, rest⟩
      exact ⟨span? :: spans, .cons first rest⟩
    · rintro ⟨_, all⟩
      cases all with
      | cons first rest => exact ⟨_, ⟨_, first⟩, _, rest⟩

end Fragment

/-- The ways to match the pattern of a grammar are the ways to lay out its fragments. -/
theorem GrammarBuilder.Makes.mem_outcomes_iff {xs : List Fragment} {g : Grammar}
    (made : Makes {} xs g) (spliceable : ∀ x ∈ xs, x.Spliceable {}) {line : List Char}
    {last : MatchState} :
    last ∈ g.expression.pattern.outcomes ⟨.start line, List.replicate g.expression.groups none⟩ ↔
      ∃ spans, Fragment.LaidOut xs line g.expression.groups spans last := by
  obtain ⟨final, ran, _, pattern, _⟩ := made.run fun x member => (spliceable x member).toStandalone
  obtain ⟨begun, started, ran⟩ := Progress.run_append.mp ran
  have start := run_startTokens started
  cases started
  obtain ⟨ps, extended, laid⟩ := Fragment.exists_extends_laid spliceable start.1 rfl nofun
    (List.cons_ne_nil _ _) ran
  have whole : g.expression.pattern =
      sequence (.anchor .textStart :: .again 0 none .greedy (Fragment.blank {}) :: ps) := by
    rw [pattern, extended.toPattern rfl rfl]
    rfl
  rw [whole, Fragment.outcomes_start]
  constructor
  · intro member
    obtain ⟨st, blanks, further⟩ := List.mem_flatMap.mp member
    obtain ⟨spans, rest⟩ := (laid st last).mp further
    exact ⟨spans, st, blanks, rest⟩
  · rintro ⟨spans, st, blanks, rest⟩
    exact List.mem_flatMap.mpr ⟨st, blanks, (laid st last).mpr ⟨spans, rest⟩⟩

namespace Fragment

variable {pending : Bool} {k n : Nat} {x : Fragment} {xs : List Fragment} {line : List Char}
  {st here there next last : MatchState} {span? : Option Span} {spans : List (Option Span)}

/-! ### Separators -/

theorem gap_passes (gap : here ∈ (sequence (gapParts {} pending)).outcomes st) :
    ∃ w, st.cursor.Passes w here.cursor ∧ here.spans = st.spans ∧ Text.Blanks w ∧
      (w = [] ↔ pending = false) := by
  obtain ⟨w, passes⟩ := exists_passes gap
  have ungrouped : (sequence (gapParts {} pending)).Within (· ≠ .group) := by
    cases pending <;> simp [Within, gapParts, separator, blank, Pattern.sequence, constructs]
  have gapped := (reaches_gap pending st _).mp ⟨here, gap, rfl⟩
  refine ⟨w, passes, spans_of_within ungrouped gap, ?_⟩
  have ahead := passes.ahead
  cases pending with
  | false =>
    rw [show here.cursor.ahead = st.cursor.ahead from gapped, List.self_eq_append_left] at ahead
    simp [ahead, Text.Blanks]
  | true =>
    obtain ⟨v, blanks, some, split⟩ := gapped
    rw [ahead, List.append_cancel_right_eq] at split
    subst split
    simp [blanks, some]

theorem leaves_eq (pending : Bool) (x : Fragment) : x.leaves pending = (pending || !x.optional) := by
  cases x with
  | plain | unknown => simp [leaves, optional]
  | field f optional => cases optional <;> cases pending <;> rfl

/-- Behind a fragment there is a separator of its own only where none will be pending. It may be
missing if nothing but blanks is left of the line. -/
theorem rear_passes (rear : last ∈ (sequence (x.rearParts pending)).outcomes there) :
    x.leaves pending = true ∧ last = there ∨
      x.leaves pending = false ∧ ∃ w, there.cursor.Passes w last.cursor ∧
        last.spans = there.spans ∧ Text.Blanks w ∧ (w = [] → Text.Blanks there.cursor.ahead) := by
  rw [rearParts, leaves_eq] at *
  cases apart : x.optional && !pending with
  | false =>
    refine .inl ⟨?_, ?_⟩
    · cases pending <;> simp_all
    · rw [apart] at rear
      exact List.mem_singleton.mp rear
  | true =>
    rw [apart, if_pos rfl, mem_outcomes_single] at rear
    refine .inr ⟨?_, ?_⟩
    · cases pending <;> simp_all
    · obtain ⟨w, passes⟩ := exists_passes rear
      have ungrouped : (Fragment.apart {}).Within (· ≠ .group) := by
        simp [Within, Fragment.apart, separator, blank, ending, lineEnd, Pattern.sequence, constructs]
      refine ⟨w, passes, spans_of_within ungrouped rear, ?_⟩
      have ahead := passes.ahead
      obtain ⟨v, blanks, some, split⟩ | ⟨blanks, still⟩ :=
        (reaches_apart there _).mp ⟨last, rear, rfl⟩
      · rw [ahead, List.append_cancel_right_eq] at split
        subst split
        exact ⟨blanks, fun none => absurd none some⟩
      · rw [still, List.self_eq_append_left] at ahead
        subst ahead
        exact ⟨List.forall_mem_nil _, fun _ => blanks⟩

/-! ### Groups -/

theorem span?_of_spans {i : Nat} (same : next.spans = st.spans) : next.span? i = st.span? i := by
  rw [MatchState.span?, MatchState.span?, same]

theorem span?_of_rear (rear : last ∈ (sequence (x.rearParts pending)).outcomes there) {i : Nat} :
    last.span? i = there.span? i := by
  obtain ⟨_, rfl⟩ | ⟨_, _, _, same, _⟩ := rear_passes rear
  · rfl
  · exact span?_of_spans same

/-- The groups of a fragment behind `k` others are numbered on from these. -/
theorem numbers_core (standalone : x.Standalone {}) (k : Nat) :
    (x.core k).numbers = List.range' (k + 1) (x.groups {}) := by
  obtain ⟨e, read⟩ := standalone.reads
  have numbers : (x.body {}).numbers = List.range' 1 (x.own {}) := by
    rw [body, own, read]
    exact Expression.numbers_of_read read
  have moved : ∀ k, ((x.body {}).shift k).numbers = List.range' (k + 1) (x.own {}) := by
    intro k
    rw [numbers_shift, numbers]
    simp only [Nat.add_comm _ k, List.map_add_range']
  cases slot : x.slot? with
  | none =>
    rw [core, groups, slot]
    simpa using moved k
  | some field =>
    rw [core, groups_eq_of_slot {} (by rw [slot]; exact Option.some_ne_none _), slot]
    exact congrArg ((k + 1) :: ·) (moved (k + 1))

/-- What groups have matched on the way does not change with a fragment, apart from its own. -/
theorem Placed.span?_eq (placed : x.Placed pending k st span? next) (standalone : x.Standalone {})
    {i : Nat} (other : i ≤ k ∨ k + x.groups {} < i) : next.span? i = st.span? i := by
  cases placed with
  | skipped => rfl
  | @taken here there _ gap text rear =>
    obtain ⟨_, _, before, _⟩ := gap_passes gap
    have numbers := numbers_core standalone k
    have inside : there.span? i = here.span? i :=
      span?_of_not_mem (by rw [numbers, List.mem_range'_1]; omega)
        (by rw [numbers, List.mem_range'_1]; omega) text
    rw [span?_of_rear rear, inside, span?_of_spans before]

theorem Laid.span?_eq (laid : Laid pending k xs st spans last)
    (standalone : ∀ x ∈ xs, x.Standalone {}) {i : Nat} (before : i ≤ k) :
    last.span? i = st.span? i := by
  induction laid with
  | ended rest =>
    have ungrouped : (sequence (ending {})).Within (· ≠ .group) := by
      simp [Within, blank, ending, lineEnd, Pattern.sequence, constructs]
    exact span?_of_spans (spans_of_within ungrouped rest)
  | cons here _ ih =>
    obtain ⟨first, rests⟩ := List.forall_mem_cons.mp standalone
    rw [ih rests (Nat.le_add_right_of_le before), here.span?_eq first (.inl before)]

/-! ### The way along a line -/

/-- A place of a line, on the way to which only the groups up to `k` of all `n` have taken part. -/
structure Stage (line : List Char) (n k : Nat) (st : MatchState) : Prop where
  ahead : st.cursor.ahead = line.drop st.cursor.position
  groups : st.spans.length = n
  fresh : ∀ i, k < i → st.span? i = none

theorem drop_of_passes {c d : Cursor} {w : List Char} (ahead : c.ahead = line.drop c.position)
    (passes : c.Passes w d) : d.ahead = line.drop d.position := by
  rw [passes.position, ← List.drop_drop, ← ahead, passes.ahead, List.drop_left]

theorem Placed.passes (placed : x.Placed pending k st span? next) :
    (∃ w, st.cursor.Passes w next.cursor) ∧ next.spans.length = st.spans.length := by
  cases placed with
  | skipped => exact ⟨⟨[], .refl _⟩, rfl⟩
  | taken gap text rear =>
    obtain ⟨u, first⟩ := exists_passes gap
    obtain ⟨v, second⟩ := exists_passes text
    obtain ⟨w, third⟩ := exists_passes rear
    refine ⟨⟨_, (first.trans second).trans third⟩, ?_⟩
    rw [length_spans rear, length_spans text, length_spans gap]

theorem Stage.placed (stage : Stage line n k st) (placed : x.Placed pending k st span? next)
    (standalone : x.Standalone {}) : Stage line n (k + x.groups {}) next := by
  obtain ⟨⟨w, passes⟩, groups⟩ := placed.passes
  refine ⟨drop_of_passes stage.ahead passes, groups.trans stage.groups, fun i further => ?_⟩
  rw [placed.span?_eq standalone (.inr further)]
  exact stage.fresh i (by omega)

/-- In a layout every fragment has its place, behind those before it. -/
theorem Laid.exists_placed (laid : Laid pending k xs st spans last) (stage : Stage line n k st)
    (standalone : ∀ x ∈ xs, x.Standalone {}) {before after : List Fragment}
    (split : xs = before ++ x :: after) :
    ∃ pending' here span? next back, spans[before.length]? = some span? ∧
      Stage line n (k + (before.map (groups {})).sum) here ∧
      x.Placed pending' (k + (before.map (groups {})).sum) here span? next ∧
      Laid (x.leaves pending') (k + (before.map (groups {})).sum + x.groups {}) after next back
        last := by
  induction before generalizing pending k xs st spans with
  | nil =>
    subst split
    cases laid with
    | cons here rest => exact ⟨_, _, _, _, _, rfl, stage, here, rest⟩
  | cons y before ih =>
    subst split
    obtain ⟨first, rests⟩ := List.forall_mem_cons.mp standalone
    cases laid with
    | cons here rest =>
      have found := ih rest (stage.placed here first) rests rfl
      rw [Nat.add_assoc] at found
      exact found

/-- The group of a field remembers where the field lies, and nothing if it is left out. -/
theorem Laid.span?_of_field (laid : Laid pending k xs st spans last) (stage : Stage line n k st)
    (standalone : ∀ x ∈ xs, x.Standalone {}) {before after : List Fragment}
    (split : xs = before ++ x :: after) (slot : x.slot? ≠ none)
    (room : k + (before.map (groups {})).sum < n) :
    spans[before.length]? = some (last.span? (k + (before.map (groups {})).sum + 1)) := by
  obtain ⟨pending', here, span?, next, back, listed, stage, placed, rest⟩ :=
    laid.exists_placed stage standalone split
  subst split
  obtain ⟨_, others⟩ := List.forall_mem_append.mp standalone
  obtain ⟨_, afters⟩ := List.forall_mem_cons.mp others
  generalize k + (before.map (groups {})).sum = k' at *
  have own := groups_eq_of_slot {} slot
  rw [listed, rest.span?_eq afters (by omega)]
  cases placed with
  | skipped => rw [stage.fresh _ (Nat.lt_succ_self _)]
  | @taken here' there _ gap text rear =>
    obtain ⟨_, _, before, _⟩ := gap_passes gap
    obtain ⟨field, some⟩ := Option.ne_none_iff_exists'.mp slot
    rw [core, some] at text
    obtain ⟨inner, found, rfl⟩ := List.mem_map.mp text
    have positive : k' + 1 ≤ inner.spans.length := by
      rw [length_spans found, before, stage.groups]
      exact room
    rw [span?_of_rear rear, MatchState.span?_remember (Nat.succ_pos k') positive, if_pos rfl]
    rfl

theorem LaidOut.exists_start {groups : Nat} (laid : LaidOut xs line groups spans last) :
    ∃ w st, Text.Blanks w ∧ line = w ++ st.cursor.ahead ∧ Stage line groups 0 st ∧
      Laid false 0 xs st spans last := by
  obtain ⟨st, member, rest⟩ := laid
  obtain ⟨w, ⟨blanks, _⟩, split⟩ := (reaches_blanks 0 _ _).mp ⟨st, member, rfl⟩
  obtain ⟨v, passes⟩ := exists_passes member
  have spans := spans_of_within (by simp [Within, blank, constructs]) member
  refine ⟨w, st, blanks, split, ⟨drop_of_passes rfl passes, ?_, fun i _ => ?_⟩, rest⟩
  · rw [spans, List.length_replicate]
  · rw [span?_of_spans spans, MatchState.span?_replicate]

/-! ### What lies behind a fragment -/

theorem blanks_of_ending (rest : last ∈ (sequence (ending {})).outcomes st) :
    Text.Blanks st.cursor.ahead :=
  exists_ended_iff.mp ⟨_, (reaches_ending _ _).mp ⟨_, rest, rfl⟩⟩

/-- Where a separator is pending, a blank comes next or the line has come to its end. -/
theorem Laid.edge (laid : Laid pending k xs st spans last) (waits : pending = true) :
    Text.Edge st.cursor.ahead := by
  induction laid with
  | ended rest => exact (blanks_of_ending rest).edge
  | cons here _ ih =>
    cases here with
    | taken gap text rear =>
      obtain ⟨w, passes, _, blanks, none_iff⟩ := gap_passes gap
      rw [passes.ahead]
      exact blanks.edge_append (fun none => by simp [none_iff.mp none] at waits) _
    | skipped => exact ih (by rw [leaves_eq, waits]; rfl)

/-- Behind a fragment there is a blank, or the end of the line. -/
theorem edge_behind (rear : next ∈ (sequence (x.rearParts pending)).outcomes there)
    (rest : Laid (x.leaves pending) k xs next spans last) : Text.Edge there.cursor.ahead := by
  obtain ⟨waits, rfl⟩ | ⟨_, w, passes, _, blanks, open'⟩ := rear_passes rear
  · exact rest.edge waits
  · by_cases none : w = []
    · exact (open' none).edge
    · rw [passes.ahead]
      exact blanks.edge_append none _

end Fragment
end LineCommand
