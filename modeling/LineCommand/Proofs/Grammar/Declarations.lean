import Mathlib.Algebra.Order.BigOperators.Group.List
import Mathlib.Algebra.Order.Group.Int
import LineCommand.Proofs.Grammar.Captures
import LineCommand.Proofs.Grammar.Splicing
import LineCommand.Proofs.Naming.Table
import LineCommand.Proofs.Pattern.Outcomes

/-! Declared numbers of groups against the groups that there are. A grammar compares their sums
alone, so it notices wrong declarations as long as they do not make up for each other. -/
namespace LineCommand
open Pattern Pattern.Progress

namespace Fragment

/-- How many groups of its own a fragment declares; only fields declare any. -/
def declared : Fragment → Int
  | .field f _ => f.embedded
  | _ => 0

/-- By how many groups a fragment has more than it declares. -/
def excess (flags : PatternFlags) (x : Fragment) : Int := x.own flags - x.declared

/-- The excess of several fragments taken together. -/
def surplus (flags : PatternFlags) (xs : List Fragment) : Int := (xs.map (excess flags)).sum

variable {flags : PatternFlags} {x : Fragment} {xs : List Fragment}

/-! ### Groups of a pattern -/

theorem surplus_cons (flags : PatternFlags) (x : Fragment) (xs : List Fragment) :
    surplus flags (x :: xs) = x.excess flags + surplus flags xs := rfl

theorem groups_eq (flags : PatternFlags) (xs : List Fragment) :
    ((xs.map (groups flags)).sum : Int) =
      ((xs.filterMap slot?).map Slot.captures).sum + surplus flags xs := by
  induction xs with
  | nil => rfl
  | cons x xs ih =>
    rw [List.map_cons, List.sum_cons, Int.natCast_add, ih, surplus_cons, List.filterMap_cons]
    cases x with
    | plain | unknown =>
      simp only [groups, slot?, excess, declared, Option.toList, List.length_nil]
      omega
    | field f optional =>
      simp only [groups, slot?, excess, declared, Option.toList, List.length_singleton,
        List.map_cons, List.sum_cons, Slot.captures]
      omega

/-- The pattern of a grammar has as many groups as its slots declare, and those that fragments have
beyond what they declare. -/
theorem groups_of_makes {g : Grammar} (made : GrammarBuilder.Makes flags xs g)
    (standalone : ∀ x ∈ xs, x.Standalone flags) :
    (g.expression.groups : Int) = g.expected + surplus flags xs := by
  rw [made.groups standalone, groups_eq, Grammar.expected_eq, made.slots]

/-- Declarations that err on one side alone do not make up for each other. -/
theorem surplus_ne_zero (wrong : ∃ x ∈ xs, x.excess flags ≠ 0)
    (side : (∀ x ∈ xs, 0 ≤ x.excess flags) ∨ ∀ x ∈ xs, x.excess flags ≤ 0) :
    surplus flags xs ≠ 0 := by
  intro balanced
  obtain ⟨x, member, differs⟩ := wrong
  have listed : x.excess flags ∈ xs.map (excess flags) := List.mem_map_of_mem member
  obtain more | fewer := side
  · exact differs (List.all_zero_of_le_zero_le_of_sum_eq_zero (List.forall_mem_map.mpr more)
      balanced listed)
  -- Numbers that are not positive are turned into numbers that are not negative.
  · have negated : ((xs.map (excess flags)).map (- ·)).sum = 0 := by
      rw [← List.sum_neg, ← surplus, balanced, neg_zero]
    have nonneg : ∀ n ∈ (xs.map (excess flags)).map (- ·), 0 ≤ n := by
      simpa [List.forall_mem_map] using fewer
    have zero := List.all_zero_of_le_zero_le_of_sum_eq_zero nonneg negated
      (List.mem_map_of_mem listed)
    exact differs (neg_eq_zero.mp zero)

end Fragment

namespace GrammarBuilder

variable {b : GrammarBuilder} {t : Template} {g : Grammar} {xs : List Fragment}

theorem registered_of_resolve {token : TemplateToken} {f : Field} {optional : Bool}
    (resolved : b.resolve token = .ok (.field f optional)) : f ∈ b.fields.values := by
  unfold resolve at resolved
  split at resolved
  · cases resolved
  · split at resolved
    · rename_i found
      cases resolved
      exact NameTable.mem_values_of_get? found
    · split at resolved <;> cases resolved

/-- The fields among the fragments of a template are registered. -/
theorem registered_of_fragments? (found : b.fragments? t = some xs) {f : Field} {optional : Bool}
    (member : Fragment.field f optional ∈ xs) : f ∈ b.fields.values := by
  obtain ⟨tokens, _, mapped⟩ := Option.bind_eq_some_iff.mp found
  obtain ⟨token, _, resolved⟩ := (mem_iff_of_mapM mapped).mp member
  cases same : b.resolve token with
  | error refusal =>
    rw [same] at resolved
    cases resolved
  | ok x =>
    rw [same] at resolved
    cases resolved
    exact registered_of_resolve same

/-- Where no field declares a negative number of groups, no slot does. -/
theorem counted_of_build (counted : ∀ f ∈ b.fields.values, 0 ≤ f.embedded)
    (found : b.fragments? t = some xs) (made : Makes b.flags xs g) : g.Counted := by
  intro s member
  rw [made.slots] at member
  obtain ⟨x, listed, slot⟩ := List.mem_filterMap.mp member
  cases x with
  | plain | unknown => cases slot
  | field f optional =>
    cases slot
    exact counted f (registered_of_fragments? found listed)

end GrammarBuilder

namespace Grammar

/-- A grammar that gives the fields of no line. -/
def GivesNothing (g : Grammar) : Prop :=
  ∀ (line : String) (texts : FieldTexts), (g.parse (.text line)).answer ≠ .ok (.ok (some texts))

/-- A grammar that gives the fields of no line, but says that the line does not match or that the
declared groups are wrong. -/
def NeverAssigns (g : Grammar) : Prop :=
  ∀ line : String, (g.parse (.text line)).answer = .ok (.ok none) ∨
    ∃ message, (g.parse (.text line)).answer = .ok (.error (.of .mismatchedCaptures message))

/-- What comes of a line: that it does not match, that the numbers of groups differ, or its
fields. -/
theorem answer_parse {g : Grammar} (counted : g.Counted) (line : String) :
    (g.expression.match? line.toList = none ∧ (g.parse (.text line)).answer = .ok (.ok none)) ∨
      (∃ captures, g.expression.match? line.toList = some captures) ∧
        (((g.expression.groups : Int) ≠ g.expected ∧ (g.parse (.text line)).answer =
            if withinDigitLimit g.expected then .ok (.error (g.mismatch g.expression.groups))
            else .error .tooLong) ∨
          (g.expression.groups : Int) = g.expected ∧
            ∃ texts, (g.parse (.text line)).answer = .ok (.ok (some texts))) := by
  obtain ⟨none, read⟩ | ⟨captures, matched, ⟨differ, read⟩ | ⟨same, texts, _, read⟩⟩ :=
    read_of_counted counted line
  · exact .inl ⟨none, parse_of_noMatch read⟩
  · rw [Expression.length_match matched] at differ read
    exact .inr ⟨⟨captures, matched⟩, .inl ⟨differ, by rw [answer_parse_text, read]⟩⟩
  · rw [Expression.length_match matched] at same
    exact .inr ⟨⟨captures, matched⟩, .inr ⟨same, texts, parse_of_fields read⟩⟩

/-- A grammar gives no fields exactly if the sums differ, or no line matches. -/
theorem givesNothing_iff_totals {g : Grammar} (counted : g.Counted) :
    g.GivesNothing ↔ (g.expression.groups : Int) ≠ g.expected ∨
      ∀ line : String, g.expression.match? line.toList = none := by
  constructor
  · intro nothing
    by_cases same : (g.expression.groups : Int) = g.expected
    · refine .inr fun line => ?_
      obtain ⟨none, _⟩ | ⟨_, ⟨differ, _⟩ | ⟨_, texts, given⟩⟩ := answer_parse counted line
      · exact none
      · exact absurd same differ
      · exact absurd given (nothing line texts)
    · exact .inl same
  · intro reason line texts given
    obtain ⟨_, answered⟩ | ⟨⟨captures, matched⟩, ⟨_, answered⟩ | ⟨same, _⟩⟩ :=
      answer_parse counted line
    · rw [answered] at given
      cases given
    · rw [answered] at given
      split at given <;> cases given
    · obtain differ | none := reason
      · exact absurd same differ
      · rw [none] at matched
        cases matched

theorem NeverAssigns.givesNothing {g : Grammar} (never : g.NeverAssigns) : g.GivesNothing := by
  intro line texts given
  obtain answered | ⟨_, answered⟩ := never line
  all_goals
    rw [given] at answered
    cases answered

/-- It says so exactly if the sum that is declared can be written as well, or no line matches. -/
theorem neverAssigns_iff_totals {g : Grammar} (counted : g.Counted) :
    g.NeverAssigns ↔
      ((g.expression.groups : Int) ≠ g.expected ∧ withinDigitLimit g.expected = true) ∨
        ∀ line : String, g.expression.match? line.toList = none := by
  constructor
  · intro never
    obtain differ | none := (givesNothing_iff_totals counted).mp never.givesNothing
    · cases declared : withinDigitLimit g.expected with
      | true => exact .inl ⟨differ, rfl⟩
      | false =>
        refine .inr fun line => ?_
        obtain ⟨none, _⟩ | ⟨_, ⟨_, raised⟩ | ⟨same, _⟩⟩ := answer_parse counted line
        · exact none
        · rw [declared] at raised
          obtain answered | ⟨_, answered⟩ := never line
          all_goals
            rw [raised] at answered
            cases answered
        · exact absurd same differ
    · exact .inr none
  · rintro reason line
    obtain ⟨_, answered⟩ | ⟨⟨captures, matched⟩, ⟨_, answered⟩ | ⟨same, _⟩⟩ :=
      answer_parse counted line
    · exact .inl answered
    · obtain ⟨_, declared⟩ | none := reason
      · exact .inr ⟨_, answered.trans (if_pos declared)⟩
      · rw [none] at matched
        cases matched
    · obtain ⟨differ, _⟩ | none := reason
      · exact absurd same differ
      · rw [none] at matched
        cases matched

end Grammar

namespace GrammarBuilder

/-- A grammar over fields that declare no negative number of groups gives no fields exactly if its
pattern has another number of groups than all slots declare together, or matches no line, and it
says so if the declared number can be written. The two numbers differ by the excess of all
fragments, so wrong declarations go unnoticed only where they err on both sides. -/
theorem neverAssigns_iff (b : GrammarBuilder) (t : Template) (g : Grammar)
    (built : (b.build t).answer = .ok (.ok g)) (counted : ∀ f ∈ b.fields.values, 0 ≤ f.embedded) :
    (g.GivesNothing ↔ (g.expression.groups : Int) ≠ g.expected ∨
        ∀ line : String, g.expression.match? line.toList = none) ∧
      (g.NeverAssigns ↔
        ((g.expression.groups : Int) ≠ g.expected ∧ withinDigitLimit g.expected = true) ∨
          ∀ line : String, g.expression.match? line.toList = none) ∧
      ∃ xs, b.fragments? t = some xs ∧ ((∀ x ∈ xs, x.Standalone b.flags) →
        (g.expression.groups : Int) = g.expected + Fragment.surplus b.flags xs ∧
        ((∃ x ∈ xs, x.excess b.flags ≠ 0) →
          ((∀ x ∈ xs, 0 ≤ x.excess b.flags) ∨ ∀ x ∈ xs, x.excess b.flags ≤ 0) →
          g.GivesNothing ∧ (withinDigitLimit g.expected = true → g.NeverAssigns))) := by
  obtain ⟨xs, found, made⟩ := build_eq_ok built
  have slots := counted_of_build counted found made
  have nothing := Grammar.givesNothing_iff_totals slots
  have never := Grammar.neverAssigns_iff_totals slots
  refine ⟨nothing, never, xs, found, fun standalone => ?_⟩
  have totals := Fragment.groups_of_makes made standalone
  refine ⟨totals, fun wrong side => ?_⟩
  have surplus := Fragment.surplus_ne_zero wrong side
  have differ : (g.expression.groups : Int) ≠ g.expected := by omega
  exact ⟨nothing.mpr (.inl differ), fun declared => never.mpr (.inl ⟨differ, declared⟩)⟩

/-- A field for a word that declares two groups it does not have. -/
def overdeclared : Field := ⟨"b", "\\w+", false, 2⟩

/-- A field for two letters, each in a group that it does not declare. -/
def undeclared : Field := ⟨"a", "(\\w)(\\w)", false, 0⟩

/-- One wrong declaration is noticed. -/
theorem neverAssigns_overdeclared :
    let b : GrammarBuilder := { fields := ⟨[⟨"b", "b", overdeclared⟩]⟩ }
    (∀ f ∈ b.fields.values, 0 ≤ f.embedded) ∧
      ∃ g, (b.build (.text (Grammar.reference "b"))).answer = .ok (.ok g) ∧ g.NeverAssigns := by
  intro b
  have counted : ∀ f ∈ b.fields.values, 0 ≤ f.embedded := by decide
  obtain ⟨g, built, declared⟩ : ∃ g,
      (b.build (.text (Grammar.reference "b"))).answer = .ok (.ok g) ∧
        some (withinDigitLimit g.expected) = some true :=
    exists_of_build (f := fun g => some (withinDigitLimit g.expected)) (by decide +kernel)
  refine ⟨counted, g, built, ?_⟩
  obtain ⟨_, never, xs, found, noticed⟩ :=
    neverAssigns_iff b (.text (Grammar.reference "b")) g built counted
  obtain rfl : [.field overdeclared false] = xs := by
    have known : b.fragments? (.text (Grammar.reference "b")) =
        some [.field overdeclared false] := by decide +kernel
    exact Option.some.inj (known.symm.trans found)
  have excess : (Fragment.field overdeclared false).excess {} = -2 := by decide +kernel
  have standalone : (Fragment.field overdeclared false).Standalone {} := ⟨⟨_, rfl⟩, nofun⟩
  refine ((noticed ?_).2 ⟨_, List.mem_singleton_self _, ?_⟩ (.inr ?_)).2 (Option.some.inj declared)
  · simpa using standalone
  · change Fragment.excess {} _ ≠ 0
    rw [excess]
    decide
  · intro x member
    obtain rfl := List.mem_singleton.mp member
    change Fragment.excess {} _ ≤ 0
    rw [excess]
    decide

/-- Two wrong declarations that make up for each other: the field that declares too much is given a
letter of the other field. -/
theorem not_neverAssigns_balanced :
    ∃ g, grammar? [undeclared, overdeclared]
        (Grammar.reference "a" ++ " " ++ Grammar.reference "b") = some g ∧
      Fragment.excess {} (.field undeclared false) = 2 ∧
      Fragment.excess {} (.field overdeclared false) = -2 ∧
      (g.parse (.text "xy z")).answer = .ok (.ok (some [("a", some "xy"), ("b", some "y")])) ∧
      ¬ g.NeverAssigns := by
  have read : (grammar? [undeclared, overdeclared]
      (Grammar.reference "a" ++ " " ++ Grammar.reference "b")).bind
        (fun g => (g.read "xy z").toOption) =
      some (.fields [("a", some "xy"), ("b", some "y")]) := by decide +kernel
  obtain ⟨g, built, read⟩ := Option.bind_eq_some_iff.mp read
  have given : (g.parse (.text "xy z")).answer =
      .ok (.ok (some [("a", some "xy"), ("b", some "y")])) := by
    cases answer : g.read "xy z" with
    | error fault =>
      rw [answer] at read
      cases read
    | ok reading =>
      rw [answer] at read
      cases read
      exact Grammar.parse_of_fields answer
  refine ⟨g, built, by decide +kernel, by decide +kernel, given, fun never => ?_⟩
  obtain answered | ⟨_, answered⟩ := never "xy z"
  all_goals
    rw [given] at answered
    cases answered

end GrammarBuilder
end LineCommand
