import LineCommand.Proofs.Dispatch.Answering
import LineCommand.Proofs.Grammar.Fragments
import LineCommand.Proofs.Text.Words

/-! Spellings of a template: a text, the words of that text, or the tokens that the words are read as.
A builder goes by the tokens of a template and by the text that it is shown as, and the spellings agree
in both. -/
namespace LineCommand

theorem mapM_map_eq_ok {α β γ ε : Type} {f : β → Except ε γ} {g : α → β} {h : α → γ} {xs : List α}
    (each : ∀ x ∈ xs, f (g x) = .ok (h x)) : (xs.map g).mapM f = .ok (xs.map h) := by
  induction xs with
  | nil => rfl
  | cons x xs ih =>
    obtain ⟨here, others⟩ := List.forall_mem_cons.mp each
    rw [List.map_cons, List.mapM_cons, here, ih others]
    rfl

namespace TemplateToken

def toValue : TemplateToken → Value
  | .literal text => .literal text
  | .reference name optional raw => .reference name optional raw

def shown : TemplateToken → String
  | .literal text => text
  | .reference name _ raw => if raw.isEmpty then "\x7b\x7b" ++ name ++ "\x7d\x7d" else raw

/-- A word is shown as it stands, whatever it is read as. -/
theorem shown_ofWord (word : String) : (ofWord word).shown = word := by
  unfold ofWord
  cases read : readReference word.toList with
  | none => rfl
  | some found =>
    have filled : word.isEmpty = false := by
      rw [String.isEmpty_eq_false_iff]
      rintro rfl
      cases read
    simp [shown, filled]

end TemplateToken

namespace Template

def ofWords (words : List String) : Template := .pieces (words.map .text)

def ofTokens (tokens : List TemplateToken) : Template := .pieces (tokens.map TemplateToken.toValue)

theorem tokens_text (s : String) :
    (Template.text s).tokens = .ok ((Text.words s).map TemplateToken.ofWord) := by
  have each : ∀ word ∈ Text.words s,
      tokenOf? (.text word) = .ok (some (TemplateToken.ofWord word)) := by
    intro word member
    obtain ⟨w, listed, rfl⟩ := List.mem_map.mp member
    simp [tokenOf?, Value.isTrue, Text.ne_nil_of_mem_wordsFrom listed]
  rw [tokens, items, mapM_map_eq_ok each]
  simp [bind, Except.bind, List.filterMap_map]

theorem shown_text (s : String) : (Template.text s).shown = .ok (Text.joined " " (Text.words s)) := by
  have each : ∀ word ∈ Text.words s, pieceText (.text word) = .ok (id word) := fun _ _ => rfl
  rw [shown, items, mapM_map_eq_ok each, List.map_id]
  rfl

/-- Tokens are read as themselves. -/
theorem tokens_ofTokens (ts : List TemplateToken) : (ofTokens ts).tokens = .ok ts := by
  have each : ∀ token ∈ ts, tokenOf? token.toValue = .ok (some token) := by
    intro token _
    cases token <;> rfl
  rw [tokens, ofTokens, items, mapM_map_eq_ok each]
  simp [bind, Except.bind]

theorem shown_ofTokens (ts : List TemplateToken) :
    (ofTokens ts).shown = .ok (Text.joined " " (ts.map TemplateToken.shown)) := by
  have each : ∀ token ∈ ts, pieceText token.toValue = .ok token.shown := by
    intro token _
    cases token <;> rfl
  rw [shown, ofTokens, items, mapM_map_eq_ok each]
  rfl

end Template

namespace GrammarBuilder

variable {b : GrammarBuilder} {t u : Template}

theorem assembleNoted_congr (read : t.tokens = u.tokens) (shown : t.shown = u.shown) :
    b.assembleNoted t = b.assembleNoted u := by
  simp only [assembleNoted, refusalFailure, read, shown]

theorem build_congr (read : t.tokens = u.tokens) (shown : t.shown = u.shown) :
    b.build t = b.build u := by
  simp only [build, assembleNoted_congr read shown, shown]

theorem buildSource_congr (read : t.tokens = u.tokens) (shown : t.shown = u.shown) :
    b.buildSource t = b.buildSource u := by
  simp only [buildSource, assembleNoted_congr read shown]

theorem answers_assembleNoted (b : GrammarBuilder) (s : String) :
    (b.assembleNoted (.text s)).Answers := by
  unfold Act.Answers assembleNoted
  simp only [Template.tokens_text, Act.answer_bind, Act.answer_ofExcept, Except.bind,
    answer_forM fun _ => Act.answer_note ..]
  cases (b.assemble ((Text.words s).map TemplateToken.ofWord)).2 with
  | none => exact ⟨_, rfl⟩
  | some refusal =>
    simp only [refusalFailure, Template.shown_text, Act.answer_bind, Act.answer_ofExcept]
    split <;> exact ⟨_, rfl⟩

theorem answers_buildSource (b : GrammarBuilder) (s : String) :
    (b.buildSource (.text s)).Answers := by
  obtain ⟨assembled, answered⟩ := b.answers_assembleNoted s
  exact ⟨_, Act.answer_bind_eq_ok_iff.mpr ⟨assembled, answered, rfl⟩⟩

theorem answers_build (b : GrammarBuilder) (s : String) : (b.build (.text s)).Answers := by
  obtain ⟨assembled, answered⟩ := b.answers_assembleNoted s
  unfold Act.Answers build
  simp only [Act.answer_bind, answered, Except.bind]
  cases assembled with
  | error failure => exact ⟨_, rfl⟩
  | ok assembly =>
    simp only [Template.shown_text, Act.answer_bind, Act.answer_ofExcept, Except.bind]
    cases Expression.read b.flags assembly.finish <;> exact ⟨_, rfl⟩

/-- Whether a template is given as a text, as the words of that text or as the tokens which it is read
as, building it answers, and to the same effect: with the same grammar or the same failure, and with the
same notes. Reading the tokens once more changes nothing. -/
theorem build_respelled (b : GrammarBuilder) (s : String) :
    (b.build (.text s)).Answers ∧ (b.buildSource (.text s)).Answers ∧
    b.build (.ofWords (Text.words s)) = b.build (.text s) ∧
    b.buildSource (.ofWords (Text.words s)) = b.buildSource (.text s) ∧
    ∃ tokens, (Template.text s).tokens = .ok tokens ∧ (Template.ofTokens tokens).tokens = .ok tokens ∧
      b.build (.ofTokens tokens) = b.build (.text s) ∧
      b.buildSource (.ofTokens tokens) = b.buildSource (.text s) := by
  let tokens := (Text.words s).map TemplateToken.ofWord
  have read : (Template.text s).tokens = .ok tokens := Template.tokens_text s
  have again : (Template.ofTokens tokens).tokens = .ok tokens := Template.tokens_ofTokens tokens
  have same : (Template.ofTokens tokens).tokens = (Template.text s).tokens := again.trans read.symm
  have alike : (Template.ofTokens tokens).shown = (Template.text s).shown := by
    rw [Template.shown_ofTokens, Template.shown_text, List.map_map]
    simp [Function.comp_def, TemplateToken.shown_ofWord]
  exact ⟨b.answers_build s, b.answers_buildSource s, build_congr rfl rfl, buildSource_congr rfl rfl,
    tokens, read, again, build_congr same alike, buildSource_congr same alike⟩

end GrammarBuilder
end LineCommand
