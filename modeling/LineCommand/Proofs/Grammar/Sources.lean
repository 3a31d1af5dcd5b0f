import LineCommand.Proofs.Grammar.Fragments
import LineCommand.Proofs.Pattern.Progress

/-! Putting the text of a pattern together, and building a grammar of it. Both start from the same
assembly and fail for the same reasons there, but only building reads the text. So a text that is no
pattern can be put together of a template, and yet no grammar comes of it. -/
namespace LineCommand

theorem Expression.source_of_read {flags : PatternFlags} {source : String} {e : Expression}
    (read : Expression.read flags source = .ok e) : e.source = source := by
  obtain ⟨r, _, _, rfl⟩ := Expression.read_eq_ok read
  rfl

namespace GrammarBuilder

variable {b : GrammarBuilder} {t : Template} {g : Grammar} {a : Assembly} {source : String}
  {failure : Failure}

theorem buildSource_eq_ok_iff : (b.buildSource t).answer = .ok (.ok source) ↔
    ∃ a, (b.assembleNoted t).answer = .ok (.ok a) ∧ a.finish = source := by
  unfold buildSource
  rw [Act.answer_bind]
  rcases (b.assembleNoted t).answer with fault | failure | a
  all_goals simp [Except.bind, Except.map]

theorem buildSource_eq_error_iff : (b.buildSource t).answer = .ok (.error failure) ↔
    (b.assembleNoted t).answer = .ok (.error failure) := by
  unfold buildSource
  rw [Act.answer_bind]
  rcases (b.assembleNoted t).answer with fault | failure | a
  all_goals simp [Except.bind, Except.map]

/-- A template that is refused before its text is read is refused by building it too. -/
theorem build_of_refused (refused : (b.assembleNoted t).answer = .ok (.error failure)) :
    (b.build t).answer = .ok (.error failure) := by
  rw [build, Act.answer_bind, refused]
  rfl

/-- The text of a grammar is the one that is put together of its template. -/
theorem buildSource_of_build (built : (b.build t).answer = .ok (.ok g)) :
    (b.buildSource t).answer = .ok (.ok g.expression.source) := by
  obtain ⟨a, assembled, _, read, _⟩ := build_eq_ok_iff_assembleNoted.mp built
  exact buildSource_eq_ok_iff.mpr ⟨a, assembled, (Expression.source_of_read read).symm⟩

/-- A text that is put together makes a grammar if it can be read, for a template that can be shown. -/
theorem exists_build_iff_read (assembled : (b.buildSource t).answer = .ok (.ok source)) :
    (∃ g, (b.build t).answer = .ok (.ok g)) ↔
      (∃ e, Expression.read b.flags source = .ok e) ∧ ∃ shown, t.shown = .ok shown := by
  obtain ⟨a, noted, rfl⟩ := buildSource_eq_ok_iff.mp assembled
  constructor
  · rintro ⟨g, built⟩
    obtain ⟨a', noted', shown, read, _⟩ := build_eq_ok_iff_assembleNoted.mp built
    obtain rfl : a = a' := Except.ok.inj (Except.ok.inj (noted.symm.trans noted'))
    exact ⟨⟨_, read⟩, _, shown⟩
  · rintro ⟨⟨e, read⟩, text, shown⟩
    exact ⟨⟨e, a.slots, text⟩, build_eq_ok_iff_assembleNoted.mpr ⟨a, noted, shown, read, rfl⟩⟩

/-- A grammar comes of a template whenever the text of a pattern does, and has that text; where that
fails, building fails alike. -/
structure BuildsAlike (b : GrammarBuilder) (t : Template) : Prop where
  succeeds : ∀ source, (b.buildSource t).answer = .ok (.ok source) →
    ∃ g, (b.build t).answer = .ok (.ok g) ∧ g.expression.source = source
  fails : ∀ failure, (b.buildSource t).answer = .ok (.error failure) →
    (b.build t).answer = .ok (.error failure)

/-- The text that is put together of a template, if there is one, is a pattern, and the template can be
shown. -/
def Legible (b : GrammarBuilder) (t : Template) : Prop :=
  ∀ source, (b.buildSource t).answer = .ok (.ok source) →
    (∃ e, Expression.read b.flags source = .ok e) ∧ ∃ shown, t.shown = .ok shown

theorem buildsAlike_iff_legible : b.BuildsAlike t ↔ b.Legible t := by
  constructor
  · intro alike source assembled
    obtain ⟨g, built, _⟩ := alike.succeeds source assembled
    exact (exists_build_iff_read assembled).mp ⟨g, built⟩
  · intro legible
    constructor
    · intro source assembled
      obtain ⟨g, built⟩ := (exists_build_iff_read assembled).mpr (legible source assembled)
      have same := assembled.symm.trans (buildSource_of_build built)
      exact ⟨g, built, (Except.ok.inj (Except.ok.inj same)).symm⟩
    · intro failure refused
      exact build_of_refused (buildSource_eq_error_iff.mp refused)

end GrammarBuilder
end LineCommand
