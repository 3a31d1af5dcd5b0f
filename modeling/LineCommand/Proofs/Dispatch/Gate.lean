import LineCommand.Dispatch.Group
import LineCommand.Proofs.Dispatch.Unmatched
import LineCommand.Proofs.Grammar.Leading
import LineCommand.Proofs.Grammar.Optional

/-! The gate of a group. It looks for the leading word without matching anything; where the templates
of all commands begin with that word, no line that it turns away would have been matched. -/
namespace LineCommand
open Pattern

theorem Text.dropStart?_append (start rest : List Char) :
    Text.dropStart? start (start ++ rest) = some rest := by
  induction start with
  | nil => cases rest <;> rfl
  | cons c start ih => simpa [Text.dropStart?] using ih

theorem Text.dropStart?_eq_some_iff {start cs rest : List Char} :
    Text.dropStart? start cs = some rest ↔ cs = start ++ rest := by
  constructor
  · intro dropped
    induction start generalizing cs with
    | nil =>
      cases cs <;> cases dropped <;> rfl
    | cons s start ih =>
      cases cs with
      | nil => cases dropped
      | cons c cs =>
        simp only [Text.dropStart?] at dropped
        split at dropped
        case isTrue same => rw [same, ih dropped, List.cons_append]
        case isFalse => cases dropped
  · rintro rfl
    exact Text.dropStart?_append start rest

/-- A grammar that does not match a line finds nothing in it. -/
theorem Grammar.parse_of_match?_none {g : Grammar} {text : String}
    (unmatched : g.expression.match? text.toList = none) :
    (g.parse (.text text)).answer = .ok (.ok none) := by
  apply Grammar.parse_of_noMatch
  rw [Grammar.read, unmatched]

namespace Processor

variable {p : Processor} {line target : Value} {t : FormatTarget}

theorem validateEach_of_unmatched {cs : List Command}
    (unmatched : ∀ c ∈ cs, (c.grammar.parse line).answer = .ok (.ok none)) :
    validateEach line cs = pure ([], []) := by
  induction cs with
  | nil => rfl
  | cons c rest ih =>
    obtain ⟨here, rests⟩ := List.forall_mem_cons.mp unmatched
    exact (validateEach_insert here [] rest).trans (ih rests)

theorem sweep_of_unmatched {cs : List Command}
    (unmatched : ∀ c ∈ cs, (c.grammar.parse line).answer = .ok (.ok none)) :
    p.sweep t line cs = pure (.ok {}) := by
  induction cs with
  | nil => rfl
  | cons c rest ih =>
    obtain ⟨here, rests⟩ := List.forall_mem_cons.mp unmatched
    exact (sweep_insert here p t [] rest).trans (ih rests)

section Unmatched

variable
  (unmatched : ∀ c ∈ p.commands.values, (c.grammar.parse line).answer = .ok (.ok none))
include unmatched

theorem validateAll_of_unmatched : p.validateAll line = pure (.ok []) := by
  rw [validateAll, validateEach_of_unmatched unmatched]
  rfl

theorem processAll_of_unmatched (resolved : p.resolveTarget target = .ok (.ok t)) :
    p.processAll line target = pure (.ok []) := by
  simp only [processAll, resolved, sweep_of_unmatched unmatched]
  rfl

end Unmatched
end Processor

namespace Group

variable {g : Group} {word : String}

/-- A text belongs to a word that it has behind blanks, and goes on after with a blank. -/
theorem startsWith_append {bs w rest : List Char} (blanks : Text.Blanks bs) (solid : Text.Solid w)
    (some : w ≠ []) (edge : Text.Edge rest) : startsWith w (bs ++ (w ++ rest)) = true := by
  rw [startsWith, Text.trim_append blanks solid some, Text.dropStart?_append]
  have kept : Text.Edge (Text.trimEnd rest) := edge.of_prefix (List.rdropWhile_prefix _ _)
  cases left : Text.trimEnd rest with
  | nil => rfl
  | cons c others =>
    rw [left] at kept
    exact kept c rfl

/-- The commands of the group are built, without flags, from templates that begin with the word, and
whose other fragments look at nothing but the text ahead. -/
def LedBy (g : Group) (word : String) : Prop :=
  ∀ c ∈ g.processor.commands.values, ∃ (b : GrammarBuilder) (t : Template),
    b.Leads t word ∧ (b.build t).answer = .ok (.ok c.grammar)

/-- The gate turns no line away that a command matches, and hides no results. -/
structure LosesNothing (g : Group) : Prop where
  belongs : ∀ text : String,
    (∃ c ∈ g.processor.commands.values, (c.grammar.expression.match? text.toList).isSome) →
      g.couldBeCommand (.text text) = true
  validateAll : ∀ text : String, g.validateAll (.text text) = g.processor.validateAll (.text text)
  processAll : ∀ (text : String) (target : Value) (t : FormatTarget),
    g.processor.resolveTarget target = .ok (.ok t) →
      g.processAll (.text text) target = g.processor.processAll (.text text) target

/-- Where the templates of all commands begin with the leading word, the gate loses nothing. -/
theorem losesNothing_of_ledBy (g : Group) (word : String) (lead : g.leadWord = some word)
    (plain : PlainWord word) (led : g.LedBy word) : g.LosesNothing := by
  have belongs : ∀ text : String,
      (∃ c ∈ g.processor.commands.values, (c.grammar.expression.match? text.toList).isSome) →
        g.couldBeCommand (.text text) = true := by
    rintro text ⟨c, member, matched⟩
    obtain ⟨b, t, leads, built⟩ := led c member
    obtain ⟨w, behind, blanks, split, edge⟩ := leads.exists_behind plain.plain built matched
    have some : word.toList ≠ [] := by simpa using plain.some
    simp only [couldBeCommand, Value.text?, lead, split]
    rw [startsWith_append blanks plain.solid some edge, Bool.or_true]
  -- What is turned away is matched by no command, so the loops behind the gate go through in vain.
  have unmatched : ∀ text : String, ¬ g.couldBeCommand (.text text) = true →
      ∀ c ∈ g.processor.commands.values,
        (c.grammar.parse (.text text)).answer = .ok (.ok none) := by
    intro text outside c member
    apply Grammar.parse_of_match?_none
    rw [← Option.not_isSome_iff_eq_none]
    exact fun matched => outside (belongs text ⟨c, member, matched⟩)
  constructor
  · exact belongs
  · intro text
    unfold Group.validateAll
    split
    · rfl
    · rename_i outside
      exact (Processor.validateAll_of_unmatched (unmatched text outside)).symm
  · intro text target t resolved
    unfold Group.processAll
    split
    · rfl
    · rename_i outside
      exact (Processor.processAll_of_unmatched (unmatched text outside) resolved).symm

theorem losesNothing_go :
    let b : GrammarBuilder :=
      { fields := ⟨[⟨"n", "n", GrammarBuilder.letters⟩, ⟨"b", "b", GrammarBuilder.trailing⟩]⟩ }
    let t : Template := .text ("go \x7b\x7bn?\x7d\x7d " ++ Grammar.reference "b")
    ∃ grammar, (b.build t).answer = .ok (.ok grammar) ∧
      grammar.read "\t go\u2003x " = .ok (.fields [("n", none), ("b", some "x")]) ∧
      ∃ g : Group, g.leadWord = some "go" ∧ PlainWord "go" ∧ g.LedBy "go" ∧ g.LosesNothing ∧
        g.processor.commands.values.map (·.grammar) = [grammar] ∧
        g.couldBeCommand (.text "\t go\u2003x ") = true := by
  intro b t
  obtain ⟨grammar, built, read⟩ : ∃ grammar, (b.build t).answer = .ok (.ok grammar) ∧
      grammar.read "\t go\u2003x " = .ok (.fields [("n", none), ("b", some "x")]) :=
    GrammarBuilder.exists_read (by decide +kernel)
  let going := Command.bare "go" (fun v => .ok (.success v)) grammar
  let g : Group := ⟨some "go", ⟨⟨[⟨"go", "go", going⟩]⟩, none, .text⟩⟩
  have plain : PlainWord "go" := ⟨by decide, by decide +kernel, by decide +kernel⟩
  have leads : b.Leads t "go" := by
    refine ⟨rfl, [.reference "n" true "\x7b\x7bn?\x7d\x7d",
      .reference "b" false (Grammar.reference "b")], by decide +kernel, ?_⟩
    intro token member x resolved
    simp only [List.mem_cons, List.not_mem_nil, or_false] at member
    obtain rfl | rfl := member
    · obtain rfl : Fragment.field GrammarBuilder.letters true = x := Except.ok.inj resolved
      exact (GrammarBuilder.letters_tame.optional true).forward
    · obtain rfl : Fragment.field GrammarBuilder.trailing false = x := Except.ok.inj resolved
      exact GrammarBuilder.trailing_tame.forward
  have led : g.LedBy "go" := by
    intro c member
    obtain rfl := List.mem_singleton.mp member
    exact ⟨b, t, leads, built⟩
  have keeps := g.losesNothing_of_ledBy "go" rfl plain led
  refine ⟨grammar, built, read, g, rfl, plain, led, keeps, rfl, ?_⟩
  refine keeps.belongs _ ⟨going, List.mem_singleton_self _, ?_⟩
  cases matched : grammar.expression.match? "\t go\u2003x ".toList with
  | some captures => exact congrArg Option.isSome matched
  | none =>
    rw [Grammar.read, matched] at read
    cases read

end Group
end LineCommand
