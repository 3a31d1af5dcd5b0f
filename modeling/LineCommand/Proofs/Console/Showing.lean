import LineCommand.Proofs.Catalog.Compiling
import LineCommand.Proofs.Catalog.Dispatchable
import LineCommand.Proofs.Console.Endings
import LineCommand.Proofs.Grammar.Sources

/-! Showing the grammar of a command. The text of its pattern is put together and printed, but never
read, so what is printed for a template that does not compile is the text of no grammar. -/
namespace LineCommand

namespace Console

open Catalog

variable {s : Settings} {look : Path → Entry} {path : Path} {c : Catalog} {spec : CommandSpec}
  {name : String}

/-- What comes of the text of a pattern, or of the failure to put it together. -/
def shownAs : Outcome String → Answer
  | .error failure => failed failure
  | .ok source => .success [source]

theorem answer_showGrammar {b : GrammarBuilder} {outcome : Outcome String}
    (named : c.command? name = some spec) (makes : c.builder s.unknownFields.toValue = .ok (.ok b))
    (assembled : (b.buildSource (.text spec.template)).answer = .ok outcome) :
    (showGrammar s name c).answer = .ok (shownAs outcome) := by
  rw [showGrammar, named]
  refine Act.answer_bind_eq_ok_iff.mpr ⟨_, makes, ?_⟩
  refine Act.answer_bind_eq_ok_iff.mpr ⟨outcome, assembled, ?_⟩
  cases outcome <;> rfl

/-- The answer shows the grammar of a command: its code is 0 exactly if the template of the command
compiles, so that there is nothing to report about it; then the text of the grammar's pattern is
printed, and else what is wrong with the template is complained of. -/
structure ShowsGrammar (act : Act Answer) (b : GrammarBuilder) (spec : CommandSpec) : Prop where
  succeeds : (∃ answer, act.answer = .ok answer ∧ answer.code = 0) ↔
    ∃ g, (b.build (.text spec.template)).answer = .ok (.ok g)
  unreported : (∃ answer, act.answer = .ok answer ∧ answer.code = 0) ↔ report? b spec = none
  prints : ∀ g, (b.build (.text spec.template)).answer = .ok (.ok g) →
    act.answer = .ok (.success [g.expression.source])
  complains : ∀ failure, (b.build (.text spec.template)).answer = .ok (.error failure) →
    act.answer = .ok (failed failure)

section Shown

variable {act : Act Answer} {b : GrammarBuilder} {outcome : Outcome String}
  (assembled : (b.buildSource (.text spec.template)).answer = .ok outcome)
  (answered : act.answer = .ok (shownAs outcome))
include assembled answered

theorem shownAs_of_build {g : Grammar}
    (built : (b.build (.text spec.template)).answer = .ok (.ok g)) :
    act.answer = .ok (.success [g.expression.source]) := by
  have source := GrammarBuilder.buildSource_of_build built
  rw [assembled] at source
  obtain rfl : outcome = .ok g.expression.source := Except.ok.inj source
  exact answered

/-- What is printed is the text of a grammar if building does as well as putting the text together. -/
theorem showsGrammar_of_buildsAlike (alike : b.BuildsAlike (.text spec.template)) :
    ShowsGrammar act b spec := by
  have succeeds : (∃ answer, act.answer = .ok answer ∧ answer.code = 0) ↔
      ∃ g, (b.build (.text spec.template)).answer = .ok (.ok g) := by
    constructor
    · rintro ⟨answer, same, code⟩
      obtain rfl : shownAs outcome = answer := Except.ok.inj (answered.symm.trans same)
      cases outcome with
      | error failure => cases code
      | ok source =>
        obtain ⟨g, built, _⟩ := alike.succeeds source assembled
        exact ⟨g, built⟩
    · rintro ⟨g, built⟩
      exact ⟨_, shownAs_of_build assembled answered built, rfl⟩
  refine ⟨succeeds, ?_, fun g => shownAs_of_build assembled answered, ?_⟩
  · simp only [succeeds, report?_eq_none_iff, ownGrammar?_eq_some_iff]
  · intro failure refused
    cases outcome with
    | error problem =>
      have same := (alike.fails problem assembled).symm.trans refused
      obtain rfl : problem = failure := Except.error.inj (Except.ok.inj same)
      exact answered
    | ok source =>
      obtain ⟨g, built, _⟩ := alike.succeeds source assembled
      rw [built] at refused
      cases refused

theorem legible_of_showsGrammar (shows : ShowsGrammar act b spec) :
    b.Legible (.text spec.template) := by
  intro source made
  obtain rfl : outcome = .ok source := Except.ok.inj (assembled.symm.trans made)
  exact (GrammarBuilder.exists_build_iff_read made).mp (shows.succeeds.mp ⟨_, answered, rfl⟩)

end Shown

/-- The grammar of a command is shown, whatever the template is, if the text that is put together of the
template can be read; and that is what it takes for building to do as well as putting together. -/
theorem showsGrammar_iff_legible (reader : Reader) (s : Settings) (look : Path → Entry)
    (name : String) (catalog : Option String) (c : Catalog) (spec : CommandSpec)
    (loaded : (Catalog.load reader ((Request.grammar name catalog).catalogPath s)
      (look ((Request.grammar name catalog).catalogPath s))).answer = .ok c)
    (named : c.command? name = some spec) :
    let b : GrammarBuilder := ⟨c.fields, s.unknownFields, {}⟩
    let act := (Request.grammar name catalog).answer reader s look
    c.builder s.unknownFields.toValue = .ok (.ok b) ∧
      (ShowsGrammar act b spec ↔ b.Legible (.text spec.template)) ∧
      (∀ g, (b.build (.text spec.template)).answer = .ok (.ok g) →
        act.answer = .ok (.success [g.expression.source])) ∧
      ∀ (b : GrammarBuilder) (t : Template), b.BuildsAlike t ↔ b.Legible t := by
  intro b act
  obtain ⟨v, read⟩ := exists_ofValue_of_load loaded
  have makes := builder_of_size (size_of_ofValue read) s.unknownFields
  obtain ⟨outcome, assembled⟩ := b.answers_buildSource spec.template
  have answered : act.answer = .ok (shownAs outcome) := by
    refine answer_withCatalog.trans ?_
    rw [loaded]
    exact answer_showGrammar named makes assembled
  refine ⟨makes, ⟨legible_of_showsGrammar assembled answered, fun legible => ?_⟩,
    fun g => shownAs_of_build assembled answered,
    fun b t => GrammarBuilder.buildsAlike_iff_legible⟩
  exact showsGrammar_of_buildsAlike assembled answered
    (GrammarBuilder.buildsAlike_iff_legible.mpr legible)

def goText (template : String) : String :=
  "version: 1\nprefix:\nfields:\n  n: \x7bpattern: \\w+\x7d\ncommands:\n  go: \x7btemplate: '" ++ template
    ++ "', examples: []\x7d\n"

def goReader (template : String) : Reader :=
  Reader.only (goText template) (document none [("n", "\\w+")] [("go", template, [])])

def goCatalog (template : String) : Catalog :=
  { version := "1"
    fields := ⟨[⟨"n", "n", ⟨"n", "\\w+", false, 0⟩⟩]⟩
    commands := [⟨"go", "", template, []⟩]
    leadWord := none
    source := some ⟨"", ["c"]⟩ }

theorem showsGrammar_go :
    let template := "go " ++ Grammar.reference "n"
    let spec : CommandSpec := ⟨"go", "", template, []⟩
    let look := lone (.file (goText template))
    (Catalog.load (goReader template) ⟨"", ["c"]⟩ (look ⟨"", ["c"]⟩)).answer = .ok (goCatalog template) ∧
      (goCatalog template).command? "go" = some spec ∧
      ShowsGrammar ((Request.grammar "go" (some "c")).answer (goReader template) {} look)
        ⟨(goCatalog template).fields, .strict, {}⟩ spec := by
  intro template spec look
  have loaded : (Catalog.load (goReader template) ⟨"", ["c"]⟩ (look ⟨"", ["c"]⟩)).answer = .ok (goCatalog template) := by
    decide +kernel
  have named : (goCatalog template).command? "go" = some spec := by decide +kernel
  obtain ⟨_, shows, _⟩ :=
    showsGrammar_iff_legible (goReader template) {} look "go" (some "c") (goCatalog template) spec loaded named
  refine ⟨loaded, named, shows.mpr fun source assembled => ?_⟩
  apply (GrammarBuilder.exists_build_iff_read assembled).mp
  exact GrammarBuilder.exists_build (by decide +kernel)

/-- A text with a bracket that is never closed is printed, though it is no pattern and compiling the
template fails. -/
theorem not_showsGrammar_unclosed :
    let template := "( " ++ Grammar.reference "n"
    let spec : CommandSpec := ⟨"go", "", template, []⟩
    let b : GrammarBuilder := ⟨(goCatalog template).fields, .strict, {}⟩
    let look := lone (.file (goText template))
    let act := (Request.grammar "go" (some "c")).answer (goReader template) {} look
    (Catalog.load (goReader template) ⟨"", ["c"]⟩ (look ⟨"", ["c"]⟩)).answer = .ok (goCatalog template) ∧
      (goCatalog template).command? "go" = some spec ∧
      act.answer = .ok (.success ["^\\s*(\\s+(\\w+)\\s*$"]) ∧
      ¬ ShowsGrammar act b spec ∧ ¬ b.BuildsAlike (.text template) := by
  intro template spec b look act
  have printed : act.answer = .ok (.success ["^\\s*(\\s+(\\w+)\\s*$"]) := by decide +kernel
  have assembled : (b.buildSource (.text template)).answer = .ok (.ok "^\\s*(\\s+(\\w+)\\s*$") :=
    bind_toOption_eq_some_iff.mp (by decide +kernel)
  have fails : ¬ ∃ g, (b.build (.text template)).answer = .ok (.ok g) := by
    simp only [← bind_toOption_eq_some_iff, ← Option.isSome_iff_exists]
    decide +kernel
  refine ⟨by decide +kernel, by decide +kernel, printed, fun shows => ?_, fun alike => ?_⟩
  · exact fails (shows.succeeds.mp ⟨_, printed, rfl⟩)
  · obtain ⟨g, built, _⟩ := alike.succeeds _ assembled
    exact fails ⟨g, built⟩

end Console
end LineCommand
