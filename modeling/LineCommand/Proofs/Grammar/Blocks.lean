import LineCommand.Proofs.Grammar.Declarations
import LineCommand.Proofs.Grammar.Shape
import LineCommand.Proofs.Pattern.Participation

/-! Fields get the texts of their own groups. Where every field declares the groups that its pattern
has, each one takes its own block of a match: the group around it, and those of its own inside. -/
namespace LineCommand
open Pattern

namespace Pattern.Progress

theorem Extends.sameScope {s t : Progress} {ps : List Pattern} (extended : s.Extends ps t) :
    s.SameScope t :=
  ⟨extended.outer, extended.role, extended.flags⟩

theorem extends_of_add {s t : Progress} {p : Pattern} {form : PartForm} (outer : t.outer = s.outer)
    (scope : t.scope = s.scope.add p form) : s.Extends [p] t := by
  refine ⟨outer, ?_, ?_, ?_, ?_⟩
  all_goals simp [scope, Scope.add]

/-- What has been put last is somewhere in what has been read. -/
theorem Extends.holds {s t : Progress} {ps : List Pattern} {p : Pattern}
    (extended : s.Extends ps t) (member : p ∈ ps) : t.Holds p := by
  have listed : p ∈ t.scope.parts.reverse.map Part.pattern := by
    rw [extended.parts]
    exact List.mem_append_right _ member
  obtain ⟨part, put, rfl⟩ := List.mem_map.mp listed
  have self := mem_subpatterns_self part.pattern
  exact ⟨_, List.mem_cons_self, .inr ⟨part, List.mem_reverse.mp put, self⟩⟩

/-- What can be left out as a whole is one more part of the scope where it began. -/
theorem run_optional {s t : Progress} (tokens : List Lexeme)
    (ran : s.run (⟨.openPlain, 3⟩ :: (tokens ++ [⟨.close, 1⟩, ⟨.again 0 (some 1) .greedy, 1⟩])) =
      .ok t)
    (inner : ∀ {r r' : Progress}, r.run tokens = .ok r' → r.scope.flags = s.scope.flags →
      r.SameScope r') :
    (∃ p, s.Extends [p] t) ∧ ∃ r r' : Progress, r.scope.flags = s.scope.flags ∧
      r.groups.length = s.groups.length ∧ r.run tokens = .ok r' ∧
      r'.run [⟨.close, 1⟩, ⟨.again 0 (some 1) .greedy, 1⟩] = .ok t := by
  obtain ⟨r, stepped, ran⟩ := run_cons.mp ran
  have entered : r.outer = s.scope :: s.outer ∧ r.scope.flags = s.scope.flags ∧
      r.groups = s.groups := by
    cases stepped
    exact ⟨rfl, rfl, rfl⟩
  obtain ⟨outer, flags, groups⟩ := entered
  obtain ⟨r', ranInner, ranRear⟩ := run_append.mp ran
  refine ⟨?_, r, r', flags, by rw [groups], ranInner, ranRear⟩
  have kept := inner ranInner flags
  obtain ⟨closed, stepped, ran⟩ := run_cons.mp ranRear
  obtain ⟨left, took, rfl⟩ := step_eq_ok stepped
  obtain ⟨around, below, groups, limit, enclosed, _, rfl⟩ := leave_eq_ok took
  rw [kept.outer, outer] at enclosed
  obtain ⟨rfl, rfl⟩ := List.cons.inj enclosed
  obtain ⟨again, stepped, done⟩ := run_cons.mp ran
  cases done
  cases stepped
  exact ⟨.again 0 (some 1) .greedy (r'.scope.toPattern r'.widths), extends_of_add rfl rfl⟩

end Pattern.Progress

namespace Fragment

variable {flags : PatternFlags} {s t : Progress} {pending : Bool} {x : Fragment}
  {xs : List Fragment}

/-! ### Where a field stands -/

/-- Behind `k` groups and in one of its own, the text of a field is read as a pattern, the groups of
which are numbered on. -/
structure ReadAs (flags : PatternFlags) (k : Nat) (x : Fragment) (body : Pattern) : Prop where
  reads : ∃ s t : Progress, s.scope.flags = flags ∧ s.groups.length = k + 1 ∧
    s.run (lexemes flags.verbose x.text.toList) = .ok t ∧ body = choice t.scope.alternatives
  numbers : body.numbers = List.range' (k + 2) (x.own flags)

theorem Standalone.balanced (standalone : x.Standalone flags) :
    Progress.Balanced flags (lexemes flags.verbose x.text.toList) := by
  obtain ⟨e, read⟩ := standalone.reads
  obtain ⟨alone, ran, closed, _⟩ := Expression.read_eq_ok read
  exact ⟨alone, ran, closed⟩

theorem tokens_mandatory (verbose pending : Bool) (f : Field) :
    (Fragment.field f false).tokens verbose pending = gapTokens pending ++
      (⟨.openGroup none, 1⟩ :: (lexemes verbose f.pattern.toList ++ [⟨.close, 1⟩])) := by
  rw [tokens, frontTokens, List.append_assoc]
  rfl

theorem run_field (standalone : x.Standalone flags) (same : s.scope.flags = flags)
    (ran : s.run (gapTokens pending ++ (⟨.openGroup none, 1⟩ ::
      (lexemes flags.verbose x.text.toList ++ [⟨.close, 1⟩]))) = .ok t) :
    ∃ body, x.ReadAs flags s.groups.length body ∧
      s.Extends (gapParts flags pending ++ [.group (s.groups.length + 1) body]) t := by
  obtain ⟨between, ranGap, ranGroup⟩ := Progress.run_append.mp ran
  have gap := extends_gap ranGap
  rw [same] at gap
  have count : between.groups.length = s.groups.length := by
    rw [Progress.run_groups ranGap, opens_gap, Nat.add_zero]
  obtain ⟨opened, inside, under, size, ranText, numbers, outer, scope⟩ :=
    Progress.run_group standalone.balanced ranGroup
  rw [count] at size numbers scope
  rw [opens_text standalone] at numbers
  refine ⟨_, ⟨⟨opened, inside, ?_, size, ranText, rfl⟩, numbers⟩, ?_⟩
  · exact under.trans (gap.flags.trans same)
  · exact gap.trans (Progress.extends_of_add outer scope)

/-- The tokens of a field are parts of the scope where they began, and its group stands in them; any
other fragment comes back to that scope. -/
theorem run_tokens (standalone : x.Standalone flags) (begun : s.Begun)
    (same : s.scope.flags = flags) (ran : s.run (x.tokens flags.verbose pending) = .ok t) :
    s.SameScope t ∧ (x.slot? ≠ none → (∃ ps, s.Extends ps t) ∧
      ∃ body, x.ReadAs flags s.groups.length body ∧
        t.Holds (.group (s.groups.length + 1) body)) := by
  have inserted : s.run (gapTokens pending ++ lexemes flags.verbose x.text.toList) = .ok t →
      s.SameScope t := by
    intro ran
    obtain ⟨between, ranGap, ranText⟩ := Progress.run_append.mp ran
    have begun' := Progress.run_begun begun ranGap
    exact (extends_gap ranGap).sameScope.trans (standalone.balanced.run begun' ranText)
  cases x with
  | plain content | unknown name content =>
    change s.run (gapTokens pending ++ (lexemes flags.verbose content.toList ++ [])) = .ok t at ran
    rw [List.append_nil] at ran
    exact ⟨inserted ran, fun slot => absurd rfl slot⟩
  | field f optional =>
    cases optional with
    | false =>
      rw [tokens_mandatory] at ran
      obtain ⟨body, reads, extended⟩ := run_field standalone same ran
      have holds := extended.holds (List.mem_append_right _ (List.mem_singleton_self _))
      exact ⟨extended.sameScope, fun _ => ⟨⟨_, extended⟩, body, reads, holds⟩⟩
    | true =>
      let field := gapTokens pending ++ (⟨.openGroup none, 1⟩ ::
        (lexemes flags.verbose (Fragment.field f true).text.toList ++ [⟨.close, 1⟩]))
      have text : s.run (⟨.openPlain, 3⟩ :: (field ++ (if pending then [] else apartTokens) ++
          [⟨.close, 1⟩, ⟨.again 0 (some 1) .greedy, 1⟩])) = .ok t := by
        simpa [tokens, frontTokens, rearTokens, field] using ran
      obtain ⟨⟨whole, extended⟩, r, r', under, count, ranInner, ranRear⟩ :=
        Progress.run_optional _ text fun ran under => by
          obtain ⟨between, ranField, ranApart⟩ := Progress.run_append.mp ran
          obtain ⟨body, _, extended⟩ := run_field standalone (under.trans same) ranField
          exact extended.sameScope.trans (extends_rear ranApart).sameScope
      refine ⟨extended.sameScope, fun _ => ⟨⟨_, extended⟩, ?_⟩⟩
      obtain ⟨between, ranField, ranApart⟩ := Progress.run_append.mp ranInner
      obtain ⟨body, reads, inner⟩ := run_field standalone (under.trans same) ranField
      have holds := inner.holds (List.mem_append_right _ (List.mem_singleton_self _))
      rw [count] at reads holds
      exact ⟨body, reads, (holds.run ranApart).run ranRear⟩

/-- Each field's group stands in the pattern behind the groups of the fragments before it. -/
theorem holds_allTokens (standalone : ∀ x ∈ xs, x.Standalone flags) (begun : s.Begun)
    (same : s.scope.flags = flags) (ran : s.run (allTokens flags.verbose pending xs) = .ok t)
    {before after : List Fragment} (split : xs = before ++ x :: after) (slot : x.slot? ≠ none) :
    ∃ body, x.ReadAs flags (s.groups.length + (before.map (groups flags)).sum) body ∧
      t.Holds (.group (s.groups.length + (before.map (groups flags)).sum + 1) body) := by
  induction before generalizing xs s pending with
  | nil =>
    subst split
    obtain ⟨between, ranHere, ran⟩ := Progress.run_append.mp ran
    have found := (run_tokens (standalone x List.mem_cons_self) begun same ranHere).2
    obtain ⟨_, body, reads, holds⟩ := found slot
    exact ⟨body, reads, holds.run ran⟩
  | cons y before ih =>
    subst split
    obtain ⟨here, rests⟩ := List.forall_mem_cons.mp standalone
    obtain ⟨between, ranHere, ran⟩ := Progress.run_append.mp ran
    have kept := (run_tokens here begun same ranHere).1
    obtain ⟨body, reads, holds⟩ := ih rests (Progress.run_begun begun ranHere)
      (kept.flags.trans same) ran rfl
    have count : between.groups.length + (before.map (groups flags)).sum =
        s.groups.length + ((y :: before).map (groups flags)).sum := by
      rw [Progress.run_groups ranHere, opens_tokens here, List.map_cons, List.sum_cons,
        Nat.add_assoc]
    rw [count] at reads holds
    exact ⟨body, reads, holds⟩

/-! ### Texts from groups -/

/-- The text of a field by its groups, the one around it in front: none if that one took no part,
else the text of the first group inside that did, or its own. -/
def fieldText (block : List (Option (List Char))) : Option String :=
  block.head?.join.map fun whole =>
    String.ofList (Text.trim ((block.tail.find? Option.isSome).join.getD whole))

/-- The texts of the fields by the groups of a match, of which every fragment takes its own off the
front. -/
def texts (flags : PatternFlags) : List (Option (List Char)) → List Fragment → FieldTexts
  | _, [] => []
  | captures, x :: xs =>
    let block := captures.take (x.groups flags)
    (x.slot?.map fun slot => (slot.name, fieldText block)).toList ++
      texts flags (captures.drop (x.groups flags)) xs

/-- Where no group inside takes part without the one around, a slot finds the text of its field. -/
theorem slotText_eq {block : List (Option (List Char))} (some : block ≠ [])
    (follows : block.head?.join = none → ∀ c ∈ block.tail, c = none) :
    Grammar.slotText block = .ok (fieldText block) := by
  cases block with
  | nil => contradiction
  | cons whole own =>
    simp only [Grammar.slotText, fieldText, List.head?_cons, Option.join_some, List.tail_cons]
    cases whole with
    | none =>
      have absent : own.find? Option.isSome = none :=
        List.find?_eq_none.mpr fun c member => by simp [follows rfl c member]
      rw [absent]
      rfl
    | some text =>
      cases found : own.find? Option.isSome with
      | none => rfl
      | some c =>
        obtain ⟨inner, rfl⟩ := Option.isSome_iff_exists.mp (List.find?_some found)
        rfl

/-- In a match, no group inside the group of a field takes part without it. -/
def Nested (flags : PatternFlags) (captures : List (Option (List Char))) (xs : List Fragment) :
    Prop :=
  ∀ before x after, xs = before ++ x :: after → x.slot? ≠ none →
    ∀ i < x.own flags, captures[(before.map (groups flags)).sum]?.join = none →
      captures[(before.map (groups flags)).sum + 1 + i]?.join = none

theorem Nested.tail {captures : List (Option (List Char))} (nested : Nested flags captures (x :: xs)) :
    Nested flags (captures.drop (x.groups flags)) xs := by
  intro before y after split slot i small none
  have here := nested (x :: before) y after (by rw [split]; rfl) slot i small
  simp only [List.map_cons, List.sum_cons, List.getElem?_drop] at here none ⊢
  rw [← Nat.add_assoc, ← Nat.add_assoc]
  exact here none

theorem groups_eq_of_slot (flags : PatternFlags) (slot : x.slot? ≠ none) :
    x.groups flags = x.own flags + 1 := by
  rw [groups, Nat.add_comm]
  cases x with
  | plain | unknown => exact absurd rfl slot
  | field => rfl

/-- A fragment that declares its groups has as many as its slot stands for. -/
theorem groups_of_declared (declared : x.excess flags = 0) :
    (x.groups flags : Int) = (x.slot?.map Slot.captures).getD 0 := by
  unfold excess at declared
  cases x with
  | plain | unknown =>
    simp only [Fragment.declared, groups, slot?, Option.toList_none, List.length_nil,
      Option.map_none, Option.getD_none] at declared ⊢
    omega
  | field f optional =>
    simp only [Fragment.declared, groups, slot?, Option.toList_some, List.length_singleton,
      Slot.captures, Option.map_some, Option.getD_some] at declared ⊢
    omega

theorem Nested.head {captures : List (Option (List Char))} (nested : Nested flags captures (x :: xs))
    (slot : x.slot? ≠ none) (none : (captures.take (x.groups flags)).head?.join = none) :
    ∀ c ∈ (captures.take (x.groups flags)).tail, c = .none := by
  intro c member
  obtain ⟨i, found⟩ := List.mem_iff_getElem?.mp member
  have size := groups_eq_of_slot flags slot
  rw [List.getElem?_tail, List.getElem?_take] at found
  split at found
  · rename_i small
    have first : captures[0]?.join = .none := by
      rw [List.head?_eq_getElem?, List.getElem?_take] at none
      rwa [if_pos (by omega)] at none
    have here := nested [] x xs rfl slot i (by omega) first
    rw [List.map_nil, List.sum_nil, Nat.zero_add, Nat.add_comm, found] at here
    exact here
  · cases found

/-- With the numbers of groups declared as they are, every slot is given the block of its field. -/
theorem assign_eq_texts (declared : ∀ x ∈ xs, x.excess flags = 0)
    {captures : List (Option (List Char))} {start : Nat}
    (size : captures.length = start + (xs.map (groups flags)).sum)
    (nested : Nested flags (captures.drop start) xs) :
    Grammar.assign captures start (xs.filterMap slot?) =
      .ok (texts flags (captures.drop start) xs) := by
  induction xs generalizing start with
  | nil => rfl
  | cons x xs ih =>
    obtain ⟨here, rests⟩ := List.forall_mem_cons.mp declared
    simp only [List.map_cons, List.sum_cons] at size
    have rest := nested.tail
    rw [List.drop_drop] at rest
    have others : Grammar.assign captures (start + x.groups flags : Nat) (xs.filterMap slot?) =
        .ok (texts flags (captures.drop (start + x.groups flags)) xs) :=
      ih rests (by omega) rest
    have count := groups_of_declared here
    cases slot : x.slot? with
    | none =>
      rw [slot] at count
      have none : x.groups flags = 0 := Int.ofNat_eq_zero.mp count
      rw [List.filterMap_cons_none slot, texts, slot, List.drop_drop]
      rw [none, Nat.add_zero] at others ⊢
      exact others
    | some s =>
      rw [slot] at count
      have some : x.slot? ≠ none := by
        rw [slot]
        exact nofun
      have stop : (start : Int) + s.captures = ((start + x.groups flags : Nat) : Int) := by
        rw [Int.natCast_add, count]
        rfl
      have block : stretch captures start (start + s.captures) =
          (captures.drop start).take (x.groups flags) := by
        rw [stop, stretch_natCast, List.drop_take, Nat.add_sub_cancel_left]
      have filled : (captures.drop start).take (x.groups flags) ≠ [] := by
        have positive := groups_eq_of_slot flags some
        intro empty
        have none := congrArg List.length empty
        rw [List.length_take, List.length_drop, List.length_nil] at none
        omega
      rw [List.filterMap_cons_some slot, texts, slot, List.drop_drop, Grammar.assign]
      rw [block, slotText_eq filled (nested.head some), stop, others]
      rfl

end Fragment
namespace GrammarBuilder

variable {flags : PatternFlags} {xs : List Fragment} {g : Grammar}

/-- The groups of a grammar's pattern are numbered from one on. -/
theorem Makes.numbers (made : Makes flags xs g) :
    g.expression.pattern.numbers = List.range' 1 g.expression.groups :=
  Expression.numbers_of_read made.expression

theorem run_startTokens {s : Progress}
    (started : (Progress.start flags).run Fragment.startTokens = .ok s) :
    s.Begun ∧ s.scope.flags = flags ∧ s.outer = [] ∧ s.groups = [] ∧ s.scope.closed = [] := by
  cases started
  exact ⟨.inr (.inr (List.cons_ne_nil _ _)), rfl, rfl, rfl, rfl⟩

/-- In a grammar's pattern the group of a field stands behind the groups of the fragments before
it. -/
theorem Makes.places (made : Makes flags xs g) (standalone : ∀ x ∈ xs, x.Standalone flags)
    {before after : List Fragment} {x : Fragment} (split : xs = before ++ x :: after)
    (slot : x.slot? ≠ none) :
    ∃ body, x.ReadAs flags (before.map (Fragment.groups flags)).sum body ∧
      .group ((before.map (Fragment.groups flags)).sum + 1) body ∈
        g.expression.pattern.subpatterns := by
  obtain ⟨last, ran, balanced, pattern, _⟩ := made.run standalone
  obtain ⟨s, started, ran⟩ := Progress.run_append.mp ran
  obtain ⟨begun, same, _, count, _⟩ := run_startTokens started
  obtain ⟨body, reads, holds⟩ := Fragment.holds_allTokens standalone begun same ran split slot
  rw [count, List.length_nil, Nat.zero_add] at reads holds
  refine ⟨body, reads, ?_⟩
  obtain ⟨scope, member, inside⟩ := holds
  rw [balanced, List.mem_singleton] at member
  rw [pattern, ← member]
  exact inside.toPattern _

theorem Makes.nodup_numbers (made : Makes flags xs g) :
    g.expression.pattern.numbers.Nodup ∧ 0 ∉ g.expression.pattern.numbers := by
  rw [made.numbers, List.mem_range'_1]
  exact ⟨List.nodup_range', by omega⟩

/-- The group of a field is one of those of the pattern. -/
theorem Makes.room (made : Makes flags xs g) (standalone : ∀ x ∈ xs, x.Standalone flags)
    {before after : List Fragment} {x : Fragment} (split : xs = before ++ x :: after)
    (slot : x.slot? ≠ none) : (before.map (Fragment.groups flags)).sum < g.expression.groups := by
  have filled := Fragment.groups_eq_of_slot flags slot
  rw [made.groups standalone, split, List.map_append, List.sum_append, List.map_cons, List.sum_cons]
  omega

/-- In every match of a grammar the groups inside a field take part only if the field does. -/
theorem Makes.nested (made : Makes flags xs g) (standalone : ∀ x ∈ xs, x.Standalone flags)
    {line : List Char} {captures : List (Option (List Char))}
    (matched : g.expression.match? line = some captures) :
    Fragment.Nested flags captures xs := by
  intro before x after split slot i small untaken
  obtain ⟨body, reads, inside⟩ := made.places standalone split slot
  have room := made.room standalone split slot
  obtain ⟨different, positive⟩ := made.nodup_numbers
  generalize place : (before.map (Fragment.groups flags)).sum = k at untaken reads inside room ⊢
  have member : k + 1 + i + 1 ∈ body.numbers := by
    rw [reads.numbers, List.mem_range'_1]
    omega
  obtain ⟨last, ran, told⟩ := Expression.exists_of_match? matched
  have start : Follows k (k + 1 + i) (List.replicate g.expression.groups none) := by
    intro _
    rw [List.getElem?_replicate]
    split <;> rfl
  have follows := follows_keep (guards_of_subpattern inside member different) positive
    (mem_outcomes_of_run ran) (by rw [List.length_replicate]; exact room) start
  rw [told, Option.map_eq_none_iff] at untaken ⊢
  exact follows untaken

theorem Makes.read (made : Makes flags xs g) (standalone : ∀ x ∈ xs, x.Standalone flags)
    (declared : ∀ x ∈ xs, x.excess flags = 0) (line : String) :
    (g.expression.match? line.toList = none ∧ g.read line = .ok .noMatch) ∨
      ∃ captures, g.expression.match? line.toList = some captures ∧
        captures.length = (xs.map (Fragment.groups flags)).sum ∧
        g.read line = .ok (.fields (Fragment.texts flags captures xs)) := by
  have total := made.groups standalone
  have balanced : Fragment.surplus flags xs = 0 := by
    refine List.sum_eq_zero fun n member => ?_
    obtain ⟨x, listed, rfl⟩ := List.mem_map.mp member
    exact declared x listed
  have expected : (g.expression.groups : Int) = g.expected := by
    rw [Fragment.groups_of_makes made standalone, balanced, add_zero]
  unfold Grammar.read
  cases matched : g.expression.match? line.toList with
  | none => exact .inl ⟨rfl, rfl⟩
  | some captures =>
    have size : captures.length = (xs.map (Fragment.groups flags)).sum :=
      (Expression.length_match matched).trans total
    have assigned : Grammar.assign captures 0 g.slots = .ok (Fragment.texts flags captures xs) := by
      rw [made.slots]
      have nested : Fragment.Nested flags (captures.drop 0) xs := made.nested standalone matched
      exact Fragment.assign_eq_texts declared (by rw [size, Nat.zero_add]) nested
    refine .inr ⟨captures, rfl, size, ?_⟩
    dsimp only
    rw [Expression.length_match matched, expected, assigned]
    exact if_neg (not_not_intro rfl)

/-- Where every field declares the groups that its pattern has, and nothing else has any, no line has
a wrong number of groups, and every field is given the text of its own block of groups. The block of
a field is the group in the pattern around its own text, and the groups inside. -/
theorem parse_eq_texts (b : GrammarBuilder) (t : Template) (g : Grammar) (xs : List Fragment)
    (built : (b.build t).answer = .ok (.ok g)) (found : b.fragments? t = some xs)
    (standalone : ∀ x ∈ xs, x.Standalone b.flags) (declared : ∀ x ∈ xs, x.excess b.flags = 0) :
    (∀ line : String,
      (g.expression.match? line.toList = none ∧
          (g.parse (.text line)).answer = .ok (.ok none)) ∨
        ∃ captures, g.expression.match? line.toList = some captures ∧
          captures.length = (xs.map (Fragment.groups b.flags)).sum ∧
          (g.parse (.text line)).answer =
            .ok (.ok (some (Fragment.texts b.flags captures xs)))) ∧
      (∀ line message, (g.parse line).answer ≠ .ok (.error (.of .mismatchedCaptures message))) ∧
      g.expression.pattern.numbers = List.range' 1 (xs.map (Fragment.groups b.flags)).sum ∧
      ∀ before x after, xs = before ++ x :: after → x.slot? ≠ none →
        ∃ body, x.ReadAs b.flags (before.map (Fragment.groups b.flags)).sum body ∧
          .group ((before.map (Fragment.groups b.flags)).sum + 1) body ∈
            g.expression.pattern.subpatterns := by
  obtain ⟨xs', found', made⟩ := build_eq_ok built
  obtain rfl : xs = xs' := Option.some.inj (found.symm.trans found')
  refine ⟨fun line => ?_, fun line message failed => ?_, ?_, fun before x after split slot =>
    made.places standalone split slot⟩
  · obtain ⟨none, read⟩ | ⟨captures, matched, size, read⟩ := made.read standalone declared line
    · exact .inl ⟨none, Grammar.parse_of_noMatch read⟩
    · exact .inr ⟨captures, matched, size, Grammar.parse_of_fields read⟩
  · cases text : line.text? with
    | none =>
      rw [g.answer_parse_of_not_text text] at failed
      cases shown : line.shown <;> rw [shown] at failed <;> cases failed
    | some line' =>
      rw [g.parse_of_text? text, Grammar.answer_parse_text] at failed
      obtain ⟨_, read⟩ | ⟨captures, _, _, read⟩ := made.read standalone declared line'
      all_goals
        rw [read] at failed
        cases failed
  · rw [made.numbers, made.groups standalone]

def alternating : Field := ⟨"a", "(\\d+)|(\\w+)", false, 2⟩

def trailing : Field := ⟨"b", "x(y)?", false, 1⟩

theorem parse_eq_texts_nested :
    let b : GrammarBuilder := { fields := ⟨[⟨"a", "a", alternating⟩, ⟨"b", "b", trailing⟩]⟩ }
    let xs : List Fragment := [.plain "go", .field alternating false, .field trailing true]
    ∃ g, (b.build (.text ("go " ++ Grammar.reference "a" ++ " \x7b\x7bb?\x7d\x7d"))).answer =
        .ok (.ok g) ∧
      (g.parse (.text "go ab x")).answer =
        .ok (.ok (some [("a", some "ab"), ("b", some "x")])) ∧
      ∀ line : String, (g.expression.match? line.toList = none ∧
          (g.parse (.text line)).answer = .ok (.ok none)) ∨
        ∃ captures, g.expression.match? line.toList = some captures ∧ captures.length = 5 ∧
          (g.parse (.text line)).answer = .ok (.ok (some (Fragment.texts {} captures xs))) := by
  intro b xs
  obtain ⟨g, built, read⟩ : ∃ g, (b.build
        (.text ("go " ++ Grammar.reference "a" ++ " \x7b\x7bb?\x7d\x7d"))).answer = .ok (.ok g) ∧
      g.read "go ab x" = .ok (.fields [("a", some "ab"), ("b", some "x")]) :=
    exists_read (by decide +kernel)
  refine ⟨g, built, Grammar.parse_of_fields read, ?_⟩
  have found : b.fragments? (.text ("go " ++ Grammar.reference "a" ++ " \x7b\x7bb?\x7d\x7d")) =
      some xs := by decide +kernel
  have standalone : ∀ x ∈ xs, x.Standalone {} := by
    simp only [xs, List.forall_mem_cons]
    exact ⟨⟨⟨_, rfl⟩, nofun⟩, ⟨⟨_, rfl⟩, nofun⟩, ⟨⟨_, rfl⟩, nofun⟩, nofun⟩
  have declared : ∀ x ∈ xs, x.excess {} = 0 := by decide +kernel
  have total : (xs.map (Fragment.groups {})).sum = 5 := by decide +kernel
  have blocks := (parse_eq_texts b _ g xs built found standalone declared).1
  rwa [total] at blocks

end GrammarBuilder
end LineCommand
