import LineCommand.Proofs.Conversion.Settling
import LineCommand.Proofs.Text.Words

/-! Converters made of the primitive ones by the combinators, and the values for which all of them have
an outcome. Integers in such a value are not too long to be written, for failures describe values; texts
in it are not integers that are too long to be read; and there are none in it if the delimiter that they
are cut at may be empty. -/
namespace LineCommand

namespace Value

/-- A value is part of another if it can be got out of it, as an item of an array, as what stands under
a text in a dictionary, as a member of an object, or by several such steps. -/
inductive PartOf (p : Value) : Value → Prop
  | whole : PartOf p p
  | item {v w : Value} {items : List Value} (array : Converter.items? v = some items)
      (listed : w ∈ items) (inner : PartOf p w) : PartOf p v
  | entry {key w : Value} {entries : List (Value × Value)} (listed : (key, w) ∈ entries)
      (named : key.text?.isSome = true) (inner : PartOf p w) : PartOf p (.dict entries)
  | member {v w : Value} {name : String} (found : v.project? name = some w)
      (inner : PartOf p w) : PartOf p v

variable {p v w : Value}

theorem writable_of_items? {items : List Value} (writable : v.writable = true)
    (array : Converter.items? v = some items) : ∀ x ∈ items, x.writable = true := by
  cases v with
  | list xs | tuple xs =>
    obtain rfl := Option.some.inj array
    exact writableItems_iff.mp writable
  | _ => cases array

theorem writable_of_lookup {members : List (String × Value)} {name : String}
    (writable : writableMembers members = true) (found : members.lookup name = some w) :
    w.writable = true :=
  writableMembers_iff.mp writable (name, w) (mem_of_lookup found)

theorem writable_of_project? {name : String} (writable : v.writable = true)
    (found : v.project? name = some w) : w.writable = true := by
  cases v with
  | dict entries =>
    obtain ⟨e, listed, rfl⟩ := Option.map_eq_some_iff.mp found
    exact (writableEntries_iff.mp writable e (List.mem_of_find?_eq_some listed)).2
  | record members => exact writable_of_lookup writable found
  | moment m => exact writable_of_lookup (writable_momentMembers m) found
  | literal | reference => exact writable_of_lookup rfl found
  | execution | success | failure =>
    refine writable_of_lookup ?_ found
    simpa [Value.writable, writableMembers] using writable
  | _ => cases found

theorem PartOf.writable (part : p.PartOf v) (writable : v.writable = true) : p.writable = true := by
  induction part with
  | whole => exact writable
  | item array listed _ ih => exact ih (writable_of_items? writable array _ listed)
  | entry listed _ _ ih => exact ih (writableEntries_iff.mp writable _ listed).2
  | member found _ ih => exact ih (writable_of_project? writable found)

theorem PartOf.trans (inner : p.PartOf w) (outer : w.PartOf v) : p.PartOf v := by
  induction outer with
  | whole => exact inner
  | item array listed _ ih => exact .item array listed ih
  | entry listed named _ ih => exact .entry listed named ih
  | member found _ ih => exact .member found ih

end Value

namespace Converter

/-- A converter made of the primitive ones by the combinators. Texts are cut at delimiters for which
`cuts` holds. Enumerations list values for which `fit` holds, and the functions that users supply answer
with such values when they are asked about such values. -/
inductive Composed (cuts : String → Prop) (fit : Value → Prop) : Converter → Prop
  | string : Composed cuts fit .string
  | number : Composed cuts fit .number
  | boolean : Composed cuts fit .boolean
  | enumerated {members : List Value} (fits : ∀ m ∈ members, fit m) :
      Composed cuts fit (.enumerated members)
  | delimited {delimiter : String} {keepEmpty : Bool} (cut : cuts delimiter) :
      Composed cuts fit (.delimited delimiter keepEmpty)
  | oneOf {cs : List Converter} {onError : OnError} (each : ∀ c ∈ cs, Composed cuts fit c) :
      Composed cuts fit (.oneOf cs onError)
  | arrayOf {c : Converter} {onError : OnError} (inner : Composed cuts fit c) :
      Composed cuts fit (.arrayOf c onError)
  | recordOf {c : Converter} {onError : OnError} (inner : Composed cuts fit c) :
      Composed cuts fit (.recordOf c onError)
  | field {name : String} {c : Converter} (inner : Composed cuts fit c) :
      Composed cuts fit (.field name c)
  | optionalField {name : String} {c : Converter} (inner : Composed cuts fit c) :
      Composed cuts fit (.optionalField name c)
  | transform {fields : List (String × Converter)} (each : ∀ f ∈ fields, Composed cuts fit f.2) :
      Composed cuts fit (.transform fields)
  | optional {c : Converter} {onError : OnError} (inner : Composed cuts fit c) :
      Composed cuts fit (c.optional onError)
  | map {c : Converter} {mapper : Callback} (inner : Composed cuts fit c)
      (maps : ∀ w, fit w → ∃ o : Outcome Value, mapper w = .ok o.toValue ∧
        ∀ x, o = .ok x → fit x) : Composed cuts fit (c.andThen (.ofCallback mapper))
  | withConstraint {c : Converter} {constraint : Callback} (inner : Composed cuts fit c)
      (rules : ∀ w, fit w → ∃ verdict, constraint w = .ok verdict ∧ fit verdict) :
      Composed cuts fit (c.withConstraint constraint)

variable {cuts : String → Prop} {fit : Value → Prop} {c : Converter} {v p : Value}

/-- A value that every composed converter can be asked about. -/
structure Tractable (cuts : String → Prop) (v : Value) : Prop where
  writable : v.writable = true
  short : ∀ p : Value, p.PartOf v → ∀ s, p.text? = some s → ¬ Overlong s
  uncut : cuts "" → ∀ p : Value, p.PartOf v → p.text? = none

theorem Tractable.part (easy : Tractable cuts v) (part : p.PartOf v) : Tractable cuts p where
  writable := part.writable easy.writable
  short q inner := easy.short q (inner.trans part)
  uncut may q inner := easy.uncut may q (inner.trans part)

/-- Composed converters settle what they are asked about. -/
theorem Composed.settled (composed : Composed cuts (·.writable = true) c)
    (easy : Tractable cuts v) : Settled (c.convert v) := by
  induction composed generalizing v with
  | string => exact settled_string easy.writable
  | number => exact settled_number easy.writable (easy.short v .whole)
  | boolean => exact settled_boolean easy.writable
  | enumerated fits => exact settled_enumerated fits easy.writable
  | delimited cut =>
    refine settled_delimited _ easy.writable fun text => ?_
    rintro rfl
    simp [easy.uncut cut v .whole] at text
  | oneOf _ ih => exact settled_oneOf _ easy.writable fun c listed => ih c listed easy
  | arrayOf _ ih =>
    exact settled_arrayOf _ easy.writable fun items array x listed =>
      ih (easy.part (.item array listed .whole))
  | recordOf _ ih =>
    refine settled_recordOf _ easy.writable ?_
    rintro entries rfl e listed named
    exact ih (easy.part (.entry listed named .whole))
  | field _ ih =>
    exact settled_field _ easy.writable fun w found => ih (easy.part (.member found .whole))
  | optionalField _ ih =>
    exact settled_optionalField _ easy.writable fun w found => ih (easy.part (.member found .whole))
  | transform _ ih => exact settled_transform fun f listed => ih f listed easy
  | optional _ ih => exact settled_optional _ (ih easy)
  | map _ maps ih =>
    refine settled_andThen (ih easy) fun w writable => ?_
    obtain ⟨o, mapped, fits⟩ := maps w writable
    simp only [ofCallback, mapped, bind, Except.bind, Outcome.ofValue?_toValue]
    exact ⟨o, rfl, fits⟩
  | withConstraint _ rules ih => exact settled_withConstraint (ih easy) rules

/-! ### Answers about parts -/

theorem exists_numberOf?_of_number {s : String} {o : Outcome Value} (text : v.text? = some s)
    (converted : number.convert v = .ok o) : ∃ found, numberOf? s.toList = .ok found := by
  cases v with
  | text | kind =>
    obtain rfl := Option.some.inj text
    obtain ⟨found, read, _⟩ := except_bind_eq_ok_iff.mp converted
    exact ⟨found, read⟩
  | _ => cases text

theorem isObject_of_project? {name : String} {w : Value} (found : v.project? name = some w) :
    v.isObject = true := by
  cases v with
  | dict | record | moment | execution | literal | reference | success | failure => rfl
  | _ => cases found

/-- Where all composed converters have an outcome for a value, they have one for its parts. -/
theorem exists_convert_part
    (all : ∀ c, Composed cuts fit c → ∃ o, c.convert v = .ok o) (part : p.PartOf v) :
    ∀ c, Composed cuts fit c → ∃ o, c.convert p = .ok o := by
  induction part with
  | whole => exact all
  | item array listed _ ih =>
    refine ih fun c composed => ?_
    obtain ⟨o, converted⟩ := all (arrayOf c .failOnError) (.arrayOf composed)
    simp only [arrayOf, array, except_map_eq_ok_iff] at converted
    obtain ⟨h, each, _⟩ := converted
    exact exists_eachItem_iff.mp ⟨h, each⟩ _ listed
  | entry listed named _ ih =>
    refine ih fun c composed => ?_
    obtain ⟨o, converted⟩ := all (recordOf c .failOnError) (.recordOf composed)
    simp only [recordOf, except_map_eq_ok_iff] at converted
    obtain ⟨h, each, _⟩ := converted
    exact (exists_eachEntry_iff.mp ⟨h, each⟩ _ listed).2 named
  | @member v w name found _ ih =>
    refine ih fun c composed => ?_
    obtain ⟨o, converted⟩ := all (field name c) (.field composed)
    simp only [field, isObject_of_project? found, found] at converted
    obtain ⟨answer, here, _⟩ := except_map_eq_ok_iff.mp converted
    exact ⟨answer, here⟩

/-- All converters made of the primitive ones, with functions that bring in nothing that cannot be
written, have an outcome for a value just if all integers in it can be written, no text in it is an
integer that is too long to be read and, where the empty delimiter is allowed, there are no texts in it. -/
theorem exists_convert_iff_tractable (cuts : String → Prop) (v : Value) :
    (∀ c, Composed cuts (·.writable = true) c → ∃ o, c.convert v = .ok o) ↔ Tractable cuts v := by
  constructor
  · intro all
    constructor
    · obtain ⟨o, converted⟩ := all _ .string
      cases writable : v.writable with
      | true => rfl
      | false =>
        have text : v.text? = none := by cases v <;> first | rfl | cases writable
        simp only [string, text, reject, Value.describe_of_unwritable writable] at converted
        cases converted
    · intro p part s text long
      obtain ⟨o, converted⟩ := exists_convert_part all part _ .number
      exact exists_numberOf?_iff.mp (exists_numberOf?_of_number text converted) long
    · intro may p part
      obtain ⟨o, converted⟩ := exists_convert_part all part (delimited "" true) (.delimited may)
      cases text : p.text? with
      | none => rfl
      | some s =>
        simp only [delimited, text] at converted
        cases converted
  · intro easy c composed
    exact (composed.settled easy).answers

theorem overlong_ones {n : Nat} (long : digitLimit < n) :
    Overlong (String.ofList (List.replicate n '1')) := by
  have solid : Text.Solid (List.replicate n '1') := by
    intro c listed
    rw [List.eq_of_mem_replicate listed]
    rfl
  have unsigned : takeSign (List.replicate n '1') = (false, List.replicate n '1') := by
    cases n <;> rfl
  rw [Overlong, String.toList_ofList, Text.trim_solid solid, unsigned, List.length_replicate]
  refine ⟨long, fun c listed => ?_⟩
  rw [List.eq_of_mem_replicate listed]
  rfl

/-- Not every composed converter has an outcome for every value, even if no function that users supply
has a fault: numbers of 4301 digits cannot be read. -/
theorem not_total_of_composed :
    ¬ ∀ c, Composed (fun _ => True) (fun _ => True) c → ∀ v, ∃ o, c.convert v = .ok o := by
  intro all
  obtain ⟨o, converted⟩ := all _ .number (.text (String.ofList (List.replicate 4301 '1')))
  have read := exists_numberOf?_of_number rfl converted
  exact exists_numberOf?_iff.mp read (overlong_ones (by decide))

end Converter
end LineCommand
