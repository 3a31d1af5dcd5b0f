import LineCommand.Proofs.Grammar.Tame
import LineCommand.Proofs.Grammar.Words

/-! Templates that begin with a word. Whatever stands behind the word, a line that such a template
matches has the word at its start, and either ends there or goes on with a blank. -/
namespace LineCommand
open Pattern

namespace Fragment

variable {word : String} {x : Fragment} {xs : List Fragment} {text rest : List Char}

/-! ### Words as fragments -/

section Literals

variable (cut : lexemes false x.text.toList = literals x.text.toList)
include cut

theorem forward_literals : x.Forward := by
  refine ⟨exists_read_literals cut, ?_, fun _ => ?_⟩
  · rw [cut]
    intro y member
    obtain ⟨c, _, rfl⟩ := List.mem_map.mp member
    rfl
  · rw [cut]
    exact straight_literals _ _

/-- The pattern of a text that stands for itself is that of its characters. -/
theorem body_literals : x.body {} = sequence (x.text.toList.map (character {})) := by
  obtain ⟨e, read⟩ : ∃ e, Expression.read {} x.text = .ok e := exists_read_literals cut
  have body : x.body {} = e.pattern := by rw [Fragment.body, read]
  obtain ⟨r, ran, _, rfl⟩ := Expression.read_eq_ok read
  change (Progress.start {}).run (lexemes false x.text.toList) = .ok r at ran
  rw [cut] at ran
  rw [body]
  exact (extends_literal ran).toPattern rfl rfl _

end Literals

theorem forward_plain (plain : Plain x.text.toList) : x.Forward :=
  forward_literals (lexemes_plain plain)

theorem body_plain (plain : Plain x.text.toList) :
    x.body {} = sequence (x.text.toList.map (character {})) :=
  body_literals (lexemes_plain plain)

theorem leaves_plain (plain : Plain x.text.toList) :
    (x.body {}).Leaves text rest ↔ text = x.text.toList ++ rest := by
  rw [body_plain plain]
  refine (reaches_of_regular (Forgetful.regular forgetful_characters) ⟨.start text, []⟩ rest).trans ?_
  simp only [accepts_characters, exists_eq_left]
  rfl

/-! ### Behind a word -/

/-- Behind a pending separator fragments match a text only if it ends or goes on with a blank, whatever
they are and however many of them are left out. -/
theorem edge_of_fits (fits : Fits true xs text) : Text.Edge text := by
  induction xs with
  | nil => exact Text.Blanks.edge fits
  | cons x xs ih =>
    have edge_of_parted : ∀ {here}, Gapped true text here → Text.Edge text := by
      rintro here ⟨w, blanks, some, rfl⟩
      obtain ⟨c, w, rfl⟩ := List.exists_cons_of_ne_nil some
      exact fun d first => blanks d (by simp_all)
    obtain ⟨rest, taken, others⟩ := fits
    cases x with
    | plain | unknown =>
      obtain ⟨here, gap, _⟩ := taken
      exact edge_of_parted gap
    | field f optional =>
      cases optional with
      | false =>
        obtain ⟨here, gap, _⟩ := taken
        exact edge_of_parted gap
      | true =>
        -- A field that is left out leaves the separator pending for those behind it.
        obtain ⟨here, _, gap, _⟩ | rfl := taken
        · exact edge_of_parted gap
        · exact ih others

theorem fits_plain (plain : Plain word.toList) : Fits false (.plain word :: xs) text ↔
    ∃ behind, text = word.toList ++ behind ∧ Fits true xs behind := by
  have leaves (behind : List Char) : ((Fragment.plain word).body {}).Leaves text behind ↔
      text = word.toList ++ behind := leaves_plain plain
  constructor
  · rintro ⟨behind, ⟨_, rfl, left⟩, others⟩
    exact ⟨behind, (leaves behind).mp left, others⟩
  · rintro ⟨behind, same, others⟩
    exact ⟨behind, ⟨text, rfl, (leaves behind).mpr same⟩, others⟩

end Fragment

/-! ### Templates -/

namespace GrammarBuilder

variable {b : GrammarBuilder} {t : Template} {word : String} {g : Grammar}

/-- Without flags, the template begins with the word, and its other fragments look at nothing but the
text ahead. -/
structure Leads (b : GrammarBuilder) (t : Template) (word : String) : Prop where
  flags : b.flags = {}
  tokens : ∃ rest, t.tokens = .ok (.literal word :: rest) ∧
    ∀ token ∈ rest, ∀ x, b.resolve token = .ok x → x.Forward

theorem Leads.fragments (leads : b.Leads t word) {xs : List Fragment}
    (found : b.fragments? t = some xs) :
    ∃ ys, xs = .plain word :: ys ∧ ∀ x ∈ ys, x.Forward := by
  obtain ⟨rest, tokens, forward⟩ := leads.tokens
  rw [fragments?, tokens] at found
  change (TemplateToken.literal word :: rest).mapM (fun token => (b.resolve token).toOption) =
    some xs at found
  rw [List.mapM_cons] at found
  obtain ⟨_, here, found⟩ := Option.bind_eq_some_iff.mp found
  cases here
  obtain ⟨ys, others, listed⟩ := Option.bind_eq_some_iff.mp found
  cases listed
  refine ⟨ys, rfl, fun x member => ?_⟩
  obtain ⟨token, listed, resolved⟩ := (mem_iff_of_mapM others).mp member
  exact forward token listed x (toOption_eq_some_iff.mp resolved)

/-- A line that the grammar of such a template matches has the word at its start. -/
theorem Leads.exists_behind (leads : b.Leads t word) (plain : Plain word.toList)
    (built : (b.build t).answer = .ok (.ok g)) {line : List Char}
    (matched : (g.expression.match? line).isSome) :
    ∃ w behind, Text.Blanks w ∧ line = w ++ (word.toList ++ behind) ∧ Text.Edge behind := by
  obtain ⟨xs, found, made⟩ := build_eq_ok built
  rw [leads.flags] at made
  obtain ⟨ys, rfl, others⟩ := leads.fragments found
  have forward : ∀ x ∈ Fragment.plain word :: ys, x.Forward :=
    List.forall_mem_cons.mpr ⟨Fragment.forward_plain plain, others⟩
  obtain ⟨w, mid, blanks, rfl, fitting⟩ := (made.isSome_match?_iff forward).mp matched
  obtain ⟨behind, rfl, others⟩ := (Fragment.fits_plain plain).mp fitting
  exact ⟨w, behind, blanks, rfl, Fragment.edge_of_fits others⟩

end GrammarBuilder
end LineCommand
