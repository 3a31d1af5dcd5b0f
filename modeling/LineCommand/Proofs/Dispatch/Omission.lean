import LineCommand.Conversion.Primitive
import LineCommand.Proofs.Catalog.Dispatching
import LineCommand.Proofs.Conversion.Object
import LineCommand.Proofs.Grammar.Apartness

/-! Optional fields that a line leaves out. The grammar gives such a field an absent value, and that is
what the converter of the field is asked about; only where it fails is the value taken to stay absent.
So the field is left out of the parameters unless its converter has something to make of an absent
value. -/
namespace LineCommand

/-- A field that was left out is there with an absent value. -/
theorem FieldTexts.project?_of_skipped {texts : FieldTexts} {name : String}
    (skipped : texts.lookup name = some none) : texts.toValue.project? name = some .none := by
  obtain ⟨before, after, rfl, others⟩ := List.lookup_eq_some_iff.mp skipped
  rw [FieldTexts.toValue_eq, Value.project?, Value.get?_keyed]
  refine List.lookup_eq_some_iff.mpr ⟨_, _, List.map_append, ?_⟩
  rw [List.forall_mem_map]
  exact others

namespace Converter

/-- The converter has nothing to make of an absent value: it fails on it or leaves it absent. -/
def KeepsAbsent (c : Converter) : Prop := ∀ w, c.convert .none = .ok (.ok w) → w.isNone = true

/-- An optional member that is there with an absent value becomes what its converter makes of that. -/
theorem convert_optionalField {name : String} {v : Value} (c : Converter)
    (object : v.isObject = true) (member : v.project? name = some .none) :
    (optionalField name c).convert v =
      (c.convert .none).map fun outcome => .ok (outcome.toOption.getD .none) := by
  simp only [optionalField, object, member]
  cases c.convert .none with
  | error fault => rfl
  | ok outcome => cases outcome <;> rfl

end Converter

/-- What an object's converter puts under an optional key whose member is absent. -/
theorem ObjectConverter.get?_of_absent {o : ObjectConverter} {name : String} {c : Converter}
    {v params : Value} (distinct : (o.fields.map (·.1)).Nodup) (listed : (name, c) ∈ o.fields)
    (optional : name ∈ o.optional) (object : v.isObject = true)
    (member : v.project? name = some .none)
    (converted : o.toConverter.convert v = .ok (.ok params)) :
    ∃ entries, params = .dict entries ∧ ∀ w,
      Value.get? entries name = some w ↔ c.convert .none = .ok (.ok w) ∧ w.isNone = false := by
  have keys : (o.fields.map o.extractor).map (·.1) = o.fields.map (·.1) := by
    rw [List.map_map]
    rfl
  obtain ⟨entries, rfl, each⟩ := Converter.transform_eq_ok (keys ▸ distinct) converted
  obtain ⟨outcome, extracted, found⟩ := each _ (List.mem_map_of_mem listed)
  rw [extractor, if_pos (List.contains_iff_mem.mpr optional),
    Converter.convert_optionalField c object member] at extracted
  refine ⟨entries, rfl, fun w => (found w).trans (and_congr_left fun there => ?_)⟩
  cases asked : c.convert .none with
  | error fault =>
    rw [asked] at extracted
    cases extracted
  | ok answer =>
    rw [asked] at extracted
    obtain rfl := Except.ok.inj extracted
    cases answer with
    | ok found => simp [Except.toOption]
    | error failure =>
      have present : Value.none ≠ w := by
        rintro rfl
        cases there
      simp [Except.toOption, present]

namespace Command

/-- What a command makes of an optional field that the line leaves out: the parameters have just what
the field's converter makes of an absent value, and nothing if that is nothing. -/
theorem get?_params_of_skipped (command : Command) (o : ObjectConverter) (name : String)
    (c : Converter) (line : Value) (texts : FieldTexts) (v : ValidatedCommand)
    (converts : command.converter = o.toConverter) (distinct : (o.fields.map (·.1)).Nodup)
    (listed : (name, c) ∈ o.fields) (optional : name ∈ o.optional)
    (parsed : (command.grammar.parse line).answer = .ok (.ok (some texts)))
    (skipped : texts.lookup name = some none)
    (validated : (command.validate line).answer = .ok (.ok (some v))) :
    ∃ params, v.params = .dict params ∧
      (∀ w, Value.get? params name = some w ↔
        c.convert .none = .ok (.ok w) ∧ w.isNone = false) ∧
      (Value.get? params name = none ↔ c.KeepsAbsent) := by
  rw [answer_validate, parsed, converts] at validated
  cases converted : o.toConverter.convert texts.toValue with
  | error fault =>
    simp only [converted] at validated
    cases validated
  | ok outcome =>
    simp only [converted] at validated
    cases outcome with
    | error failure => cases validated
    | ok params =>
      obtain ⟨entries, rfl, found⟩ := ObjectConverter.get?_of_absent distinct listed optional rfl
        (FieldTexts.project?_of_skipped skipped) converted
      cases validated
      refine ⟨entries, rfl, found, ?_⟩
      rw [Option.eq_none_iff_forall_ne_some]
      refine forall_congr' fun w => ?_
      rw [ne_eq, found, not_and, Bool.not_eq_false]

/-- The parts of a command whose only field may be left out. -/
def optionalParts (c : Converter) : CommandParts :=
  { name := .text "go"
    description := .none
    converter := .usable (ObjectConverter.toConverter ⟨[("n", c)], ["n"]⟩)
    executor := .usable fun v => .ok (.success v)
    formatters := []
    examples := [] }

/-- A command of such parts, and what it makes of a line without the field. -/
structure Skips (c : Converter) (command : Command) (v : ValidatedCommand) : Prop where
  made : (fromTemplate { fields := ⟨[⟨"n", "n", ⟨"n", "\\w+", false, 0⟩⟩]⟩ }
    (.text "go \x7b\x7bn?\x7d\x7d") (optionalParts c)).answer = .ok (.ok command)
  converter : command.converter = ObjectConverter.toConverter ⟨[("n", c)], ["n"]⟩
  parsed : (command.grammar.parse (.text "go")).answer = .ok (.ok (some [("n", none)]))
  validated : (command.validate (.text "go")).answer = .ok (.ok (some v))

theorem exists_skips {c : Converter} {outcome : Outcome Value}
    (asked : c.convert .none = .ok outcome) :
    ∃ command v, Skips c command v ∧ v.params =
      .dict (Value.keyed (Converter.kept [("n", .ok (outcome.toOption.getD .none))])) := by
  let b : GrammarBuilder := { fields := ⟨[⟨"n", "n", ⟨"n", "\\w+", false, 0⟩⟩]⟩ }
  obtain ⟨g, built, read⟩ : ∃ g,
      (b.build (.text "go \x7b\x7bn?\x7d\x7d")).answer = .ok (.ok g) ∧
        g.read "go" = .ok (.fields [("n", none)]) := GrammarBuilder.exists_read (by decide +kernel)
  have normal : normalizeName (.text "go") = .ok "go" :=
    normalizeName_eq_ok_iff.mpr (by decide +kernel)
  obtain ⟨command, created, grammar, converter⟩ : ∃ command,
      create (optionalParts c) (.usable g) = .ok (.ok command) ∧ command.grammar = g ∧
        command.converter = ObjectConverter.toConverter ⟨[("n", c)], ["n"]⟩ := by
    simp only [create, optionalParts, normal]
    exact ⟨_, rfl, rfl, rfl⟩
  have parsed : (command.grammar.parse (.text "go")).answer = .ok (.ok (some [("n", none)])) := by
    rw [grammar]
    exact Grammar.parse_of_fields read
  have converted : (ObjectConverter.toConverter ⟨[("n", c)], ["n"]⟩).convert
      (FieldTexts.toValue [("n", none)]) = .ok (Converter.assembled
        [("n", .ok (outcome.toOption.getD .none))]) := by
    have skipped : List.lookup "n" [("n", (none : Option String))] = some none := rfl
    have taken := Converter.convert_optionalField c rfl (FieldTexts.project?_of_skipped skipped)
    rw [asked] at taken
    have keys : ObjectConverter.extractor ⟨[("n", c)], ["n"]⟩ ("n", c) =
      ("n", Converter.optionalField "n" c) := rfl
    simp only [ObjectConverter.toConverter, Converter.transform, List.map_cons, List.map_nil, keys,
      Converter.eachKey, taken]
    rfl
  rw [Converter.assembled_eq] at converted
  refine ⟨command, ⟨command, _⟩, ⟨?_, converter, parsed, ?_⟩, rfl⟩
  · refine Act.answer_bind_eq_ok_iff.mpr ⟨_, built, ?_⟩
    simp only [created, Act.answer_ofExcept]
  · simp only [answer_validate, parsed, converter, converted]
    rfl

theorem get?_params_of_skipped_number :
    ∃ command v, Skips .number command v ∧
      ∃ params, v.params = .dict params ∧ Value.get? params "n" = none := by
  obtain ⟨command, v, skips, _⟩ := exists_skips (c := .number) rfl
  obtain ⟨params, same, _, left⟩ := get?_params_of_skipped command _ "n" .number _ _ v
    skips.converter (by decide) List.mem_cons_self (by decide) skips.parsed rfl skips.validated
  refine ⟨command, v, skips, params, same, left.mpr ?_⟩
  rintro w ⟨⟩

/-- A converter that has a value for everything has one for a field that was left out. -/
theorem exists_get?_params_of_skipped :
    ∃ command v, Skips ⟨fun _ => .ok (.ok (.int 5))⟩ command v ∧
      ∃ params w, v.params = .dict params ∧ Value.get? params "n" = some w := by
  obtain ⟨command, v, skips, same⟩ := exists_skips (c := ⟨fun _ => .ok (.ok (.int 5))⟩) rfl
  exact ⟨command, v, skips, _, .int 5, same, Value.get?_keyed _ _⟩

end Command
end LineCommand
