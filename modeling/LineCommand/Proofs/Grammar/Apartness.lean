import LineCommand.Proofs.Grammar.Captures
import LineCommand.Proofs.Grammar.Fragments
import LineCommand.Proofs.Value.Dictionary

/-! Fields that are kept apart. A template refers to a registered field once at most, in whatever
spelling, so the slots of a grammar have different names, and no text that is found in a line takes the
place of another one. -/
namespace LineCommand

/-- Where what is chosen of a list has no repetitions, it is chosen at one place only. -/
theorem eq_of_nodup_filterMap {α β : Type} {f : α → Option β} {xs : List α}
    (distinct : (xs.filterMap f).Nodup) {i j : Nat} {y : β} (first : xs[i]?.bind f = some y)
    (second : xs[j]?.bind f = some y) : i = j := by
  obtain ⟨x, here, chosen⟩ := Option.bind_eq_some_iff.mp first
  obtain ⟨x', there, chosen'⟩ := Option.bind_eq_some_iff.mp second
  obtain ⟨small, rfl⟩ := List.getElem?_eq_some_iff.mp here
  obtain ⟨small', rfl⟩ := List.getElem?_eq_some_iff.mp there
  have apart := List.pairwise_iff_getElem.mp (List.pairwise_filterMap.mp distinct)
  obtain less | same | greater := Nat.lt_trichotomy i j
  · exact absurd rfl (apart i j small small' less y chosen y chosen')
  · exact same
  · exact absurd rfl (apart j i small' small greater y chosen' y chosen)

/-- The texts of fields as entries of a dictionary. -/
theorem FieldTexts.toValue_eq (texts : FieldTexts) : texts.toValue =
    .dict (Value.keyed (texts.map fun e => (e.1, (e.2.map Value.text).getD .none))) := by
  simp only [FieldTexts.toValue, Value.keyed, List.map_map]
  rfl

namespace GrammarBuilder

variable {b : GrammarBuilder} {t : Template} {g : Grammar}

/-- In a template that a grammar is built of, references at different places are to different fields. -/
theorem eq_of_field? (built : (b.build t).answer = .ok (.ok g)) {tokens : List TemplateToken}
    (read : t.tokens = .ok tokens) {i j : Nat} {f : Field}
    (first : tokens[i]?.bind (·.field? b.fields) = some f)
    (second : tokens[j]?.bind (·.field? b.fields) = some f) : i = j := by
  have distinct := (nodup_keys_of_build built).of_map
  rw [Template.referred, read] at distinct
  exact eq_of_nodup_filterMap distinct first second

theorem nodup_fields_of_build (built : (b.build t).answer = .ok (.ok g)) : g.fields.Nodup := by
  rw [fields_of_build built]
  refine List.Nodup.of_map nameKey ?_
  rw [List.map_map]
  exact nodup_keys_of_build built

/-- No grammar is built of a template that refers to a registered field twice, and none that is built
of another one lets a field take the place of another: it has a slot for each field that is referred to,
in the order of the template and under different names, and the fields of a line, written into a
dictionary one after another, all stand there in the end. -/
theorem keepsFieldsApart (b : GrammarBuilder) (t : Template) :
    (∀ (tokens : List TemplateToken) (i j : Nat) (f : Field), t.tokens = .ok tokens → i ≠ j →
      tokens[i]?.bind (·.field? b.fields) = some f → tokens[j]?.bind (·.field? b.fields) = some f →
        ∀ g, (b.build t).answer ≠ .ok (.ok g)) ∧
    ∀ g, (b.build t).answer = .ok (.ok g) →
      g.slots = (t.referred b.fields).map (fun f => ⟨f.name, f.embedded⟩) ∧ g.fields.Nodup ∧
      ∀ line texts, (g.parse line).answer = .ok (.ok (some texts)) →
        ∃ entries, texts.toValue = .dict entries ∧ entries.map (·.1) = g.fields.map Value.text ∧
          Value.ofEntries entries = texts.toValue := by
  constructor
  · intro tokens i j f read different first second g built
    exact different (eq_of_field? built read first second)
  · intro g built
    have distinct := nodup_fields_of_build built
    refine ⟨slots_of_build built, distinct, fun line texts parsed => ?_⟩
    have names := Grammar.names_of_parse parsed
    refine ⟨_, texts.toValue_eq, ?_, ?_⟩
    · rw [← names, Value.keyed, List.map_map, List.map_map, List.map_map]
      rfl
    · rw [texts.toValue_eq]
      refine Value.ofEntries_keyed ?_
      rw [List.map_map]
      exact names ▸ distinct

theorem keepsFieldsApart_spelled :
    let b : GrammarBuilder := { fields := ⟨[⟨"a", "a", { name := "a", pattern := "\\w+" }⟩,
      ⟨"bc", "b-c", { name := "b-c", pattern := "\\w+" }⟩]⟩ }
    (∃ g texts, (b.build (.text "\x7b\x7bBC?\x7d\x7d go \x7b\x7bA\x7d\x7d")).answer = .ok (.ok g) ∧
      g.slots = [⟨"b-c", 0⟩, ⟨"a", 0⟩] ∧ g.fields.Nodup ∧
      (g.parse (.text "x go y")).answer = .ok (.ok (some texts)) ∧
      ∃ entries, texts.toValue = .dict entries ∧
        entries.map (·.1) = [.text "b-c", .text "a"] ∧ Value.ofEntries entries = texts.toValue) ∧
    ∀ g, (b.build (.text "\x7b\x7bb-c\x7d\x7d go \x7b\x7bBC?\x7d\x7d")).answer ≠ .ok (.ok g) := by
  intro b
  constructor
  · let t : Template := .text "\x7b\x7bBC?\x7d\x7d go \x7b\x7bA\x7d\x7d"
    obtain ⟨g, built, read⟩ : ∃ g, (b.build t).answer = .ok (.ok g) ∧
        g.read "x go y" = .ok (.fields [("b-c", some "x"), ("a", some "y")]) :=
      exists_read (by decide +kernel)
    have parsed := Grammar.parse_of_fields read
    obtain ⟨slots, distinct, finds⟩ := (keepsFieldsApart b t).2 g built
    have listed : g.slots = [⟨"b-c", 0⟩, ⟨"a", 0⟩] := by
      rw [slots]
      decide +kernel
    obtain ⟨entries, made, names, kept⟩ := finds _ _ parsed
    refine ⟨g, _, built, listed, distinct, parsed, entries, made, ?_, kept⟩
    rw [names, Grammar.fields, listed]
    rfl
  · let t : Template := .text "\x7b\x7bb-c\x7d\x7d go \x7b\x7bBC?\x7d\x7d"
    exact (keepsFieldsApart b t).1
      [.reference "b-c" false "\x7b\x7bb-c\x7d\x7d", .literal "go",
        .reference "BC" true "\x7b\x7bBC?\x7d\x7d"] 0 2 { name := "b-c", pattern := "\\w+" }
      (by decide +kernel) (by decide) (by decide +kernel) (by decide +kernel)

end GrammarBuilder
end LineCommand
