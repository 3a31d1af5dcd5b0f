import LineCommand.Proofs.Grammar.Blocks
import LineCommand.Proofs.Pattern.Standing

/-! Fields that may not be left out. The text of a fragment that is no field is put into the pattern
as it is, so a bar in it that stands between no parentheses splits the pattern around it as well. A
field then has a text in a match that goes through its own alternative, and in no other one. -/
namespace LineCommand
open Pattern

/-- The number of the alternative through which the match of a line goes, if it matches. -/
def Expression.branch? (e : Expression) (line : List Char) : Option Nat :=
  e.pattern.branch? ⟨.start line, List.replicate e.groups none⟩

namespace Fragment

variable {flags : PatternFlags} {s t : Progress} {pending : Bool} {x : Fragment} {f : Field}
  {xs before after : List Fragment}

/-! ### Alternatives -/

/-- By how many a fragment adds to the alternatives of the pattern around it. A field keeps its own
ones between parentheses. -/
def bars (flags : PatternFlags) (x : Fragment) : Nat :=
  if x.slot?.isNone then (x.body flags).branches.length - 1 else 0

theorem length_closed_text (standalone : x.Standalone flags)
    (ran : s.run (lexemes flags.verbose x.text.toList) = .ok t) :
    t.scope.closed.length = s.scope.closed.length + ((x.body flags).branches.length - 1) := by
  obtain ⟨e, read⟩ := standalone.reads
  have body : x.body flags = e.pattern := by rw [Fragment.body, read]
  obtain ⟨alone, ranAlone, balanced, rfl⟩ := Expression.read_eq_ok read
  have branches := ((Progress.rooted_start flags).run ranAlone).branches balanced
  rw [body, branches, Progress.length_alternatives, Nat.add_sub_cancel]
  exact Progress.length_closed_of_run ranAlone balanced ran

theorem length_closed_tokens (standalone : x.Standalone flags) (begun : s.Begun)
    (same : s.scope.flags = flags) (ran : s.run (x.tokens flags.verbose pending) = .ok t) :
    t.scope.closed.length = s.scope.closed.length + x.bars flags := by
  cases x with
  | plain content | unknown name content =>
    obtain ⟨between, ranGap, ranText⟩ := Progress.run_append.mp ran
    change between.run (lexemes flags.verbose content.toList ++ []) = .ok t at ranText
    rw [List.append_nil] at ranText
    have gap := extends_gap ranGap
    rw [length_closed_text standalone ranText, gap.closed]
    rfl
  | field f optional =>
    have slot : (Fragment.field f optional).slot? ≠ none := nofun
    obtain ⟨⟨ps, extended⟩, _⟩ := (run_tokens standalone begun same ran).2 slot
    rw [extended.closed]
    rfl

theorem length_closed_allTokens (standalone : ∀ x ∈ xs, x.Standalone flags) (begun : s.Begun)
    (same : s.scope.flags = flags) (ran : s.run (allTokens flags.verbose pending xs) = .ok t) :
    t.scope.closed.length = s.scope.closed.length + (xs.map (bars flags)).sum := by
  induction xs generalizing s pending with
  | nil =>
    rw [(extends_ending ran).closed]
    rfl
  | cons x xs ih =>
    obtain ⟨here, rests⟩ := List.forall_mem_cons.mp standalone
    obtain ⟨between, ranHere, ran⟩ := Progress.run_append.mp ran
    have kept := (run_tokens here begun same ranHere).1
    have begun' := Progress.run_begun begun ranHere
    rw [ih rests begun' (kept.flags.trans same) ran,
      length_closed_tokens here begun same ranHere, List.map_cons, List.sum_cons, Nat.add_assoc]

/-! ### Where a field stands -/

/-- Behind a pending separator the text goes on with a blank, or with a parenthesis around it. -/
theorem exists_allTokens_pending (verbose : Bool) (xs : List Fragment) :
    ∃ y ys, allTokens verbose true xs = y :: ys ∧
      (y.token = .openPlain ∨ ∃ items negated, y.token = .set items negated) := by
  have blank : ∃ items negated, blankToken.token = .set items negated := ⟨_, _, rfl⟩
  cases xs with
  | nil => exact ⟨_, _, rfl, .inr blank⟩
  | cons x xs =>
    cases x with
    | plain | unknown => exact ⟨_, _, rfl, .inr blank⟩
    | field f optional =>
      cases optional with
      | false => exact ⟨_, _, rfl, .inr blank⟩
      | true => exact ⟨_, _, rfl, .inl rfl⟩

/-- The group of a field that may not be left out stays in the alternative in which it is read, as
what is read next is never a repetition. -/
theorem stands_mandatory (standalone : (field f false).Standalone flags)
    (same : s.scope.flags = flags) (outer : s.outer = [])
    (ran : s.run (allTokens flags.verbose pending (.field f false :: after)) = .ok t) :
    ∃ body, t.Stands s.scope.closed.length (.group (s.groups.length + 1) body) := by
  obtain ⟨between, ranHere, ran⟩ := Progress.run_append.mp ran
  rw [tokens_mandatory] at ranHere
  obtain ⟨body, _, extended⟩ := run_field standalone same ranHere
  have listed : .group (s.groups.length + 1) body ∈
      between.scope.parts.reverse.map Part.pattern := by
    rw [extended.parts]
    simp
  obtain ⟨part, member, group⟩ := List.mem_map.mp listed
  obtain ⟨y, ys, next, parted⟩ := exists_allTokens_pending flags.verbose after
  change between.run (allTokens flags.verbose true after) = .ok t at ran
  rw [next] at ran
  obtain ⟨behind, stepped, rest⟩ := Progress.run_cons.mp ran
  have stands := Progress.stands_of_step (extended.outer.trans outer)
    (List.mem_reverse.mp member) parted stepped
  rw [group, extended.closed] at stands
  exact ⟨body, stands.run rest⟩

theorem stands_allTokens (standalone : ∀ x ∈ xs, x.Standalone flags) (begun : s.Begun)
    (same : s.scope.flags = flags) (outer : s.outer = [])
    (ran : s.run (allTokens flags.verbose pending xs) = .ok t)
    (split : xs = before ++ .field f false :: after) :
    ∃ body, t.Stands (s.scope.closed.length + (before.map (bars flags)).sum)
      (.group (s.groups.length + (before.map (groups flags)).sum + 1) body) := by
  induction before generalizing xs s pending with
  | nil =>
    subst split
    exact stands_mandatory (standalone _ List.mem_cons_self) same outer ran
  | cons y before ih =>
    subst split
    obtain ⟨here, rests⟩ := List.forall_mem_cons.mp standalone
    obtain ⟨between, ranHere, ran⟩ := Progress.run_append.mp ran
    have kept := (run_tokens here begun same ranHere).1
    obtain ⟨body, stands⟩ := ih rests (Progress.run_begun begun ranHere) (kept.flags.trans same)
      (kept.outer.trans outer) ran rfl
    rw [length_closed_tokens here begun same ranHere, Progress.run_groups ranHere,
      opens_tokens here, Nat.add_assoc, Nat.add_assoc s.groups.length] at stands
    exact ⟨body, stands⟩

/-! ### Texts -/

/-- The text of a field is looked up under its name. -/
theorem lookup_texts (flags : PatternFlags) {slot : Slot} (different : (xs.filterMap key?).Nodup)
    (split : xs = before ++ x :: after) (slotted : x.slot? = some slot)
    (captures : List (Option (List Char))) :
    (texts flags captures xs).lookup slot.name = some (fieldText
      ((captures.drop (before.map (groups flags)).sum).take (x.groups flags))) := by
  have named : ∀ {y : Fragment} {other : Slot}, y.slot? = some other →
      y.key? = some (nameKey other.name) := by
    intro y other slotted
    cases y with
    | plain | unknown => cases slotted
    | field f optional =>
      cases slotted
      rfl
  induction before generalizing xs captures with
  | nil =>
    subst split
    rw [List.nil_append, texts, slotted]
    exact List.lookup_cons_self
  | cons y before ih =>
    subst split
    rw [List.cons_append, List.filterMap_cons] at different
    rw [List.cons_append, texts, List.map_cons, List.sum_cons, ← List.drop_drop]
    cases other : y.slot? with
    | none =>
      have keyless : y.key? = none := by
        cases y with
        | plain | unknown => rfl
        | field => cases other
      rw [keyless] at different
      exact ih different rfl _
    | some other' =>
      rw [named other] at different
      obtain ⟨fresh, rest⟩ := List.nodup_cons.mp different
      have apart : slot.name ≠ other'.name := by
        intro same
        refine fresh (List.mem_filterMap.mpr ⟨x, by simp, ?_⟩)
        rw [named slotted, same]
      change List.lookup slot.name ((other'.name, _) :: _) = _
      rw [List.lookup_cons, beq_false_of_ne apart]
      exact ih rest rfl _

/-- A field has a text exactly if its group has taken part. -/
theorem isSome_fieldText_iff (flags : PatternFlags) (slot : x.slot? ≠ none)
    (captures : List (Option (List Char))) (k : Nat) :
    (fieldText ((captures.drop k).take (x.groups flags))).isSome ↔
      captures[k]?.join.isSome := by
  have some := groups_eq_of_slot flags slot
  rw [fieldText, Option.isSome_map, List.head?_eq_getElem?, List.getElem?_take,
    if_pos (by omega), List.getElem?_drop, Nat.add_zero]

end Fragment

namespace GrammarBuilder

variable {flags : PatternFlags} {xs before after : List Fragment} {g : Grammar} {f : Field}

/-- The alternatives of a grammar's pattern are one more than all bars. -/
theorem Makes.length_branches (made : Makes flags xs g)
    (standalone : ∀ x ∈ xs, x.Standalone flags) :
    g.expression.pattern.branches.length = (xs.map (Fragment.bars flags)).sum + 1 := by
  obtain ⟨last, ran, balanced, pattern, _⟩ := made.run standalone
  have branches := ((Progress.rooted_start flags).run ran).branches balanced
  obtain ⟨s, started, ran⟩ := Progress.run_append.mp ran
  obtain ⟨begun, same, _, _, closed⟩ := run_startTokens started
  have counted := Fragment.length_closed_allTokens standalone begun same ran
  rw [closed, List.length_nil, Nat.zero_add] at counted
  rw [pattern, branches, Progress.length_alternatives, counted]

/-- The group of a field that may not be left out is a part of the alternative behind the bars
before it. -/
theorem Makes.stands (made : Makes flags xs g) (standalone : ∀ x ∈ xs, x.Standalone flags)
    (split : xs = before ++ .field f false :: after) :
    ∃ ps body, g.expression.pattern.branches[(before.map (Fragment.bars flags)).sum]? =
        some (sequence ps) ∧
      .group ((before.map (Fragment.groups flags)).sum + 1) body ∈ ps := by
  obtain ⟨last, ran, balanced, pattern, _⟩ := made.run standalone
  have branches := ((Progress.rooted_start flags).run ran).branches balanced
  obtain ⟨s, started, ran⟩ := Progress.run_append.mp ran
  obtain ⟨begun, same, outer, groups, closed⟩ := run_startTokens started
  obtain ⟨body, stands⟩ := Fragment.stands_allTokens standalone begun same outer ran split
  simp only [closed, groups, List.length_nil, Nat.zero_add] at stands
  obtain ⟨ps, listed, member⟩ := stands.alternatives balanced
  rw [pattern, branches]
  exact ⟨ps, body, listed, member⟩

/-- The group of a field that may not be left out takes part exactly in the matches that go through
its alternative. -/
theorem Makes.isSome_capture_iff (made : Makes flags xs g)
    (standalone : ∀ x ∈ xs, x.Standalone flags) (split : xs = before ++ .field f false :: after)
    {line : List Char} {captures : List (Option (List Char))}
    (matched : g.expression.match? line = some captures) :
    captures[(before.map (Fragment.groups flags)).sum]?.join.isSome ↔
      g.expression.branch? line = some (before.map (Fragment.bars flags)).sum := by
  obtain ⟨last, ran, told⟩ := Expression.exists_of_match? matched
  obtain ⟨ps, body, stands, part⟩ := made.stands standalone split
  obtain ⟨different, positive⟩ := made.nodup_numbers
  have room := made.room standalone split nofun
  rw [told, Option.isSome_map]
  exact isSome_span_iff rfl room different positive stands part ran

/-- A template refers to a field that may not be left out: neither the field nor the reference says
that it is optional. -/
def Requires (b : GrammarBuilder) (t : Template) (f : Field) : Prop :=
  ∃ tokens name raw, t.tokens = .ok tokens ∧ TemplateToken.reference name false raw ∈ tokens ∧
    NameTable.get? b.fields (.text name) = some f ∧ f.optional = false

/-- Whatever line is read, the fields that may not be left out have a text. -/
def FillsRequired (b : GrammarBuilder) (t : Template) (g : Grammar) : Prop :=
  ∀ line texts, (g.parse (.text line)).answer = .ok (.ok (some texts)) →
    ∀ f, b.Requires t f → ∃ text, texts.lookup f.name = some (some text)

variable {b : GrammarBuilder} {t : Template}

theorem resolve_eq_mandatory_iff {token : TemplateToken} :
    b.resolve token = .ok (.field f false) ↔ ∃ name raw, token = .reference name false raw ∧
      NameTable.get? b.fields (.text name) = some f ∧ f.optional = false := by
  cases token with
  | literal text => simp [resolve]
  | reference name optional raw =>
    cases found : NameTable.get? b.fields (.text name) with
    | none => cases unknown : b.unknown <;> simp [resolve, found, unknown]
    | some f' =>
      simp only [resolve, found, Except.ok.injEq, Fragment.field.injEq, Bool.or_eq_false_iff]
      constructor
      · rintro ⟨rfl, plain, rfl⟩
        exact ⟨name, raw, rfl, found, plain⟩
      · rintro ⟨_, _, same, registered, plain⟩
        cases same
        obtain rfl : f' = f := Option.some.inj (found.symm.trans registered)
        exact ⟨rfl, plain, rfl⟩

theorem requires_iff (found : b.fragments? t = some xs) : b.Requires t f ↔ .field f false ∈ xs := by
  obtain ⟨tokens, read, mapped⟩ := Option.bind_eq_some_iff.mp found
  rw [toOption_eq_some_iff] at read
  simp only [mem_iff_of_mapM mapped, toOption_eq_some_iff, resolve_eq_mandatory_iff]
  constructor
  · rintro ⟨tokens', name, raw, read', member, registered⟩
    obtain rfl : tokens = tokens' := Except.ok.inj (read.symm.trans read')
    exact ⟨_, member, name, raw, rfl, registered⟩
  · rintro ⟨_, member, name, raw, rfl, registered⟩
    exact ⟨tokens, name, raw, read, member, registered⟩

/-- In a reading of a line, each field has a text exactly if its group has taken part, which for one
that may not be left out means that the match goes through its alternative. -/
def FillsTaken (flags : PatternFlags) (xs : List Fragment) (g : Grammar) (line : String)
    (texts : FieldTexts) : Prop :=
  ∃ captures, g.expression.match? line.toList = some captures ∧
    ∀ before x after slot, xs = before ++ x :: after → x.slot? = some slot →
      ∃ text?, texts.lookup slot.name = some text? ∧
        (text?.isSome ↔ captures[(before.map (Fragment.groups flags)).sum]?.join.isSome) ∧
        ∀ f, x = .field f false → (text?.isSome ↔ g.expression.branch? line.toList =
          some (before.map (Fragment.bars flags)).sum)

theorem Makes.fillsTaken (made : Makes flags xs g) (different : (xs.filterMap Fragment.key?).Nodup)
    (standalone : ∀ x ∈ xs, x.Standalone flags) (declared : ∀ x ∈ xs, x.excess flags = 0)
    {line : String} {texts : FieldTexts}
    (answered : (g.parse (.text line)).answer = .ok (.ok (some texts))) :
    FillsTaken flags xs g line texts := by
  obtain ⟨_, read⟩ | ⟨captures, matched, _, read⟩ := made.read standalone declared line
  · rw [Grammar.parse_of_noMatch read] at answered
    cases answered
  · rw [Grammar.parse_of_fields read] at answered
    cases answered
    refine ⟨captures, matched, ?_⟩
    intro before x after slot split slotted
    have some : x.slot? ≠ none := by
      rw [slotted]
      exact nofun
    have listed := Fragment.lookup_texts flags different split slotted captures
    have taken := Fragment.isSome_fieldText_iff flags some captures
      (before.map (Fragment.groups flags)).sum
    refine ⟨_, listed, taken, ?_⟩
    rintro f rfl
    exact taken.trans (made.isSome_capture_iff standalone split matched)

/-- Every match goes through the alternatives of all fields that may not be left out. -/
def Through (flags : PatternFlags) (xs : List Fragment) (g : Grammar) : Prop :=
  ∀ line : String, (g.expression.match? line.toList).isSome →
    ∀ before f after, xs = before ++ .field f false :: after →
      g.expression.branch? line.toList = some (before.map (Fragment.bars flags)).sum

/-- Bars between parentheses leave a pattern with a single alternative. -/
theorem Makes.through_of_barless (made : Makes flags xs g)
    (standalone : ∀ x ∈ xs, x.Standalone flags) (barless : ∀ x ∈ xs, x.bars flags = 0) :
    Through flags xs g := by
  intro line matched before f after split
  have none : ∀ ys ⊆ xs, (ys.map (Fragment.bars flags)).sum = 0 := by
    intro ys inside
    refine List.sum_eq_zero fun n member => ?_
    obtain ⟨x, listed, rfl⟩ := List.mem_map.mp member
    exact barless x (inside listed)
  have single := made.length_branches standalone
  rw [none xs (List.Subset.refl _), Nat.zero_add] at single
  obtain ⟨captures, matched⟩ := Option.isSome_iff_exists.mp matched
  obtain ⟨last, ran, _⟩ := Expression.exists_of_match? matched
  obtain ⟨i, q, index, listed, _⟩ := exists_branch ran
  have room := (List.getElem?_eq_some_iff.mp listed).1
  obtain rfl : i = 0 := by omega
  rw [none before (by rw [split]; exact List.subset_append_left _ _)]
  exact index

theorem Makes.fillsRequired_iff_through (made : Makes b.flags xs g)
    (found : b.fragments? t = some xs) (different : (xs.filterMap Fragment.key?).Nodup)
    (standalone : ∀ x ∈ xs, x.Standalone b.flags) (declared : ∀ x ∈ xs, x.excess b.flags = 0) :
    b.FillsRequired t g ↔ Through b.flags xs g := by
  constructor
  · intro fills line matched before f after split
    obtain ⟨none, _⟩ | ⟨captures, _, _, read⟩ := made.read standalone declared line
    · rw [none] at matched
      cases matched
    · have answered := Grammar.parse_of_fields read
      have required : b.Requires t f := (requires_iff found).mpr (by simp [split])
      obtain ⟨text, filled⟩ := fills line _ answered f required
      obtain ⟨_, _, texts⟩ := made.fillsTaken different standalone declared answered
      obtain ⟨text?, listed, _, takes⟩ := texts before _ after _ split rfl
      obtain rfl : text? = some text := Option.some.inj (listed.symm.trans filled)
      exact (takes f rfl).mp rfl
  · intro through line texts answered f required
    obtain ⟨before, after, split⟩ := List.append_of_mem ((requires_iff found).mp required)
    obtain ⟨captures, matched, fields⟩ := made.fillsTaken different standalone declared answered
    obtain ⟨text?, listed, _, takes⟩ := fields before _ after _ split rfl
    have taken := (takes f rfl).mpr (through line (by rw [matched]; rfl) before f after split)
    obtain ⟨text, rfl⟩ := Option.isSome_iff_exists.mp taken
    exact ⟨text, listed⟩

/-- Every field that a grammar reads has a text exactly if its group has taken part, which for one
that may not be left out means that the match goes through its alternative. So these fields always
have a text exactly if every match goes through the alternatives of all of them, as it does where no
fragment has a bar that stands between no parentheses: the pattern has one alternative more than
there are such bars. -/
theorem fillsRequired_iff (b : GrammarBuilder) (t : Template) (g : Grammar) (xs : List Fragment)
    (built : (b.build t).answer = .ok (.ok g)) (found : b.fragments? t = some xs)
    (standalone : ∀ x ∈ xs, x.Standalone b.flags) (declared : ∀ x ∈ xs, x.excess b.flags = 0) :
    (∀ line texts, (g.parse (.text line)).answer = .ok (.ok (some texts)) →
      FillsTaken b.flags xs g line texts) ∧
      (b.FillsRequired t g ↔ Through b.flags xs g) ∧
      g.expression.pattern.branches.length = (xs.map (Fragment.bars b.flags)).sum + 1 ∧
      ((∀ x ∈ xs, x.bars b.flags = 0) → b.FillsRequired t g) := by
  obtain ⟨xs', found', made, different, _⟩ := build_eq_ok_iff.mp built
  obtain rfl : xs = xs' := Option.some.inj (found.symm.trans found')
  have decided := made.fillsRequired_iff_through found different standalone declared
  refine ⟨?_, decided, made.length_branches standalone, ?_⟩
  · intro line texts answered
    exact made.fillsTaken different standalone declared answered
  · intro barless
    apply decided.mpr
    exact made.through_of_barless standalone barless

def word : Field := ⟨"n", "\\w+", false, 0⟩

theorem fillsRequired_grouped :
    let b : GrammarBuilder := { fields := ⟨[⟨"n", "n", word⟩]⟩ }
    let t : Template := .text ("(?:go|stop) " ++ Grammar.reference "n")
    ∃ g, (b.build t).answer = .ok (.ok g) ∧ b.Requires t word ∧
      (g.parse (.text "go x")).answer = .ok (.ok (some [("n", some "x")])) ∧
      b.FillsRequired t g := by
  intro b t
  let xs : List Fragment := [.plain "(?:go|stop)", .field word false]
  obtain ⟨g, built, read⟩ : ∃ g, (b.build t).answer = .ok (.ok g) ∧
      g.read "go x" = .ok (.fields [("n", some "x")]) := exists_read (by decide +kernel)
  have found : b.fragments? t = some xs := by decide +kernel
  have required : b.Requires t word := (requires_iff found).mpr (by simp [xs])
  refine ⟨g, built, required, Grammar.parse_of_fields read, ?_⟩
  have standalone : ∀ x ∈ xs, x.Standalone {} := by
    simp only [xs, List.forall_mem_cons]
    exact ⟨⟨⟨_, rfl⟩, nofun⟩, ⟨⟨_, rfl⟩, nofun⟩, nofun⟩
  have declared : ∀ x ∈ xs, x.excess {} = 0 := by decide +kernel
  have barless : ∀ x ∈ xs, x.bars {} = 0 := by decide +kernel
  exact (fillsRequired_iff b t g xs built found standalone declared).2.2.2 barless

/-- A bar that stands between no parentheses lets a line match without the field behind it. -/
theorem not_fillsRequired_split :
    let b : GrammarBuilder := { fields := ⟨[⟨"n", "n", word⟩]⟩ }
    let t : Template := .text ("go|stop " ++ Grammar.reference "n")
    ∃ g, (b.build t).answer = .ok (.ok g) ∧ b.Requires t word ∧
      (g.parse (.text "go")).answer = .ok (.ok (some [("n", none)])) ∧
      ¬ b.FillsRequired t g := by
  intro b t
  obtain ⟨g, built, read⟩ : ∃ g, (b.build t).answer = .ok (.ok g) ∧
      g.read "go" = .ok (.fields [("n", none)]) := exists_read (by decide +kernel)
  have found : b.fragments? t = some [.plain "go|stop", .field word false] := by decide +kernel
  have required : b.Requires t word := (requires_iff found).mpr (by simp)
  have given := Grammar.parse_of_fields read
  refine ⟨g, built, required, given, fun fills => ?_⟩
  obtain ⟨text, filled⟩ := fills "go" _ given word required
  cases filled

end GrammarBuilder
end LineCommand
