import LineCommand.Proofs.Conversion.Settling

/-! The two error modes of the combinators. What the strict mode converts the lenient one converts to the
same value, and the lenient mode makes of an array or a dictionary what the strict one makes of the part
of it that converts. -/
namespace LineCommand.Converter

/-- Whatever one converter succeeds with, the other succeeds with too. -/
def Extends (wide narrow : Converter) : Prop :=
  ∀ v w, narrow.convert v = .ok (.ok w) → wide.convert v = .ok (.ok w)

variable {c : Converter} {v w : Value}

theorem failsOn_eq_true_iff : c.failsOn v = true ↔ ∃ failure, c.convert v = .ok (.error failure) := by
  unfold failsOn
  split
  case h_1 failure converted => simp [converted]
  case h_2 other =>
    refine iff_of_false Bool.false_ne_true ?_
    rintro ⟨failure, converted⟩
    exact other failure converted

/-! ### Absent values and alternatives -/

theorem extends_optional (c : Converter) :
    (c.optional .ignoreErrors).Extends (c.optional .failOnError) := by
  intro v w converted
  unfold optional convertOptional at converted ⊢
  dsimp only at converted ⊢
  split at converted
  case isTrue absent => rwa [if_pos absent]
  case isFalse there =>
    rw [if_neg there]
    obtain ⟨outcome, here, converted⟩ := except_bind_eq_ok_iff.mp converted
    cases outcome with
    | ok x => rwa [here]
    | error failure => cases converted

/-- Before a strict search ends in a value, nothing has failed. -/
theorem firstOf_ignoreErrors {cs : List Converter}
    (found : firstOf .failOnError v cs = .ok (.inl (.ok w))) :
    firstOf .ignoreErrors v cs = .ok (.inl (.ok w)) := by
  induction cs with
  | nil => cases found
  | cons c rest ih =>
    obtain ⟨outcome, here, found⟩ := except_bind_eq_ok_iff.mp found
    refine except_bind_eq_ok_iff.mpr ⟨outcome, here, ?_⟩
    cases outcome with
    | error failure => cases found
    | ok x =>
      dsimp only at found ⊢
      split at found
      case isTrue absent =>
        rw [if_pos absent]
        exact ih found
      case isFalse there => rwa [if_neg there]

theorem extends_oneOf (cs : List Converter) :
    (oneOf cs .ignoreErrors).Extends (oneOf cs .failOnError) := by
  intro v w converted
  obtain ⟨found, searched, converted⟩ := except_bind_eq_ok_iff.mp converted
  cases found with
  | inl outcome =>
    obtain rfl := Except.ok.inj converted
    exact except_bind_eq_ok_iff.mpr ⟨_, firstOf_ignoreErrors searched, rfl⟩
  | inr messages =>
    obtain ⟨shown, _, converted⟩ := except_bind_eq_ok_iff.mp converted
    cases converted

/-! ### Arrays and dictionaries -/

namespace Harvest

variable {α : Type} {h : Harvest α} {whole : List α → Value}

/-- What there is of a harvest if failures are passed over. -/
theorem outcome_ignoreErrors (h : Harvest α) (whole : List α → Value) :
    h.outcome .ignoreErrors whole = .ok (whole h.values) := by
  simp [outcome]

theorem outcome_failOnError_eq_ok_iff :
    h.outcome .failOnError whole = .ok w ↔ h.messages = [] ∧ whole h.values = w := by
  unfold outcome
  cases h.messages <;> simp [fail]

end Harvest

/-- A value without the parts that fail: the items of an array that a converter fails on, and the entries
of a dictionary whose keys are no texts or whose values it fails on. -/
def sifted (c : Converter) : Value → Value
  | .list items => .list (items.filter fun x => !c.failsOn x)
  | .tuple items => .tuple (items.filter fun x => !c.failsOn x)
  | .dict entries => .dict (entries.filter fun e => e.1.text?.isSome && !c.failsOn e.2)
  | v => v

/-- The harvest of what converts: the same values, and nothing to report. -/
theorem eachItem_filter (c : Converter) (items : List Value) :
    eachItem c (items.filter fun x => !c.failsOn x) =
      (eachItem c items).map fun h => { h with messages := [] } := by
  induction items with
  | nil => rfl
  | cons x rest ih =>
    cases converted : c.convert x with
    | error fault =>
      have kept : c.failsOn x = false := by simp [failsOn, converted]
      simp [kept, eachItem, converted, bind, Except.bind, Except.map]
    | ok outcome =>
      cases outcome with
      | error failure =>
        have dropped : c.failsOn x = true := failsOn_eq_true_iff.mpr ⟨failure, converted⟩
        simp only [List.filter_cons, dropped, Bool.not_true, Bool.false_eq_true, if_false, ih,
          eachItem, converted, bind, Except.bind]
        cases eachItem c rest <;> rfl
      | ok y =>
        have kept : c.failsOn x = false := by simp [failsOn, converted]
        simp only [List.filter_cons, kept, Bool.not_false, if_true, eachItem, converted, ih, bind,
          Except.bind]
        cases eachItem c rest with
        | error fault => rfl
        | ok others => cases y.isNone <;> simp [Except.map]

/-- The same for entries, where keys that are no texts can be described. -/
theorem eachEntry_filter {entries : List (Value × Value)}
    (described : ∀ e ∈ entries, e.1.text?.isSome = false → e.1.writable = true) :
    eachEntry c (entries.filter fun e => e.1.text?.isSome && !c.failsOn e.2) =
      (eachEntry c entries).map fun h => { h with messages := [] } := by
  induction entries with
  | nil => rfl
  | cons e rest ih =>
    obtain ⟨key, item⟩ := e
    obtain ⟨here, others⟩ := List.forall_mem_cons.mp described
    specialize ih others
    cases text : key.text? with
    | none =>
      obtain ⟨shown, describes⟩ := Value.exists_describe (here (by rw [text]; rfl))
      simp only [List.filter_cons, text, Option.isSome_none, Bool.false_and, Bool.false_eq_true,
        if_false, ih, eachEntry, describes, bind, Except.bind]
      cases eachEntry c rest <;> rfl
    | some name =>
      cases converted : c.convert item with
      | error fault =>
        have kept : c.failsOn item = false := by simp [failsOn, converted]
        simp [text, kept, eachEntry, converted, bind, Except.bind, Except.map]
      | ok outcome =>
        cases outcome with
        | error failure =>
          have dropped : c.failsOn item = true := failsOn_eq_true_iff.mpr ⟨failure, converted⟩
          simp only [List.filter_cons, text, dropped, Bool.not_true, Bool.and_false,
            Bool.false_eq_true, if_false, ih, eachEntry, converted, bind, Except.bind]
          cases eachEntry c rest <;> rfl
        | ok y =>
          have kept : c.failsOn item = false := by simp [failsOn, converted]
          simp only [List.filter_cons, text, kept, Option.isSome_some, Bool.not_false, Bool.and_self,
            if_true, eachEntry, converted, ih, bind, Except.bind]
          cases eachEntry c rest with
          | error fault => rfl
          | ok others => cases y.isNone <;> simp [Except.map]

/-- Where the strict mode has a value, nothing is reported, so that the lenient one has the same. -/
theorem extends_harvest {α : Type} {harvest : Except Fault (Harvest α)} {whole : List α → Value}
    (converted : harvest.map (·.outcome .failOnError whole) = .ok (.ok w)) :
    harvest.map (·.outcome .ignoreErrors whole) = .ok (.ok w) := by
  obtain ⟨h, harvested, made⟩ := except_map_eq_ok_iff.mp converted
  obtain ⟨_, rfl⟩ := Harvest.outcome_failOnError_eq_ok_iff.mp made
  rw [harvested, ← h.outcome_ignoreErrors]
  rfl

theorem extends_arrayOf (c : Converter) :
    (arrayOf c .ignoreErrors).Extends (arrayOf c .failOnError) := by
  intro v w converted
  unfold arrayOf at converted ⊢
  dsimp only at converted ⊢
  cases array : items? v with
  | none => rwa [array] at converted
  | some items =>
    rw [array] at converted
    exact extends_harvest converted

theorem extends_recordOf (c : Converter) :
    (recordOf c .ignoreErrors).Extends (recordOf c .failOnError) := by
  intro v w converted
  cases v with
  | dict entries => exact extends_harvest converted
  | _ => exact converted

/-- The lenient mode has a value for the whole, which is what the strict one makes of the rest. -/
structure PassesOver (lenient strict : Converter) (whole rest : Value) : Prop where
  succeeds : ∃ w, lenient.convert whole = .ok (.ok w)
  alike : lenient.convert whole = strict.convert rest

/-- A harvest without the reports is the same in both modes. -/
theorem outcome_silenced {α : Type} (harvest : Except Fault (Harvest α)) (whole : List α → Value) :
    (harvest.map fun h => { h with messages := [] }).map (·.outcome .failOnError whole) =
      harvest.map (·.outcome .ignoreErrors whole) := by
  cases harvest with
  | error fault => rfl
  | ok h => simp [Except.map, Harvest.outcome]

theorem passesOver_arrayOf_iff {items : List Value} (array : items? v = some items) :
    PassesOver (arrayOf c .ignoreErrors) (arrayOf c .failOnError) v (c.sifted v) ↔
      ∀ x ∈ items, ∃ outcome, c.convert x = .ok outcome := by
  have rest : items? (c.sifted v) = some (items.filter fun x => !c.failsOn x) := by
    cases v with
    | list xs | tuple xs =>
      obtain rfl := Option.some.inj array
      rfl
    | _ => cases array
  rw [← exists_eachItem_iff]
  constructor
  · rintro ⟨⟨w, converted⟩, _⟩
    simp only [arrayOf, array] at converted
    obtain ⟨h, harvested, _⟩ := except_map_eq_ok_iff.mp converted
    exact ⟨h, harvested⟩
  · rintro ⟨h, harvested⟩
    constructor
    · refine ⟨.list h.values, ?_⟩
      simp only [arrayOf, array, harvested, Except.map, Harvest.outcome_ignoreErrors]
    · simp only [arrayOf, array, rest, eachItem_filter, outcome_silenced]

theorem passesOver_recordOf_iff {entries : List (Value × Value)} :
    PassesOver (recordOf c .ignoreErrors) (recordOf c .failOnError) (.dict entries)
        (c.sifted (.dict entries)) ↔
      ∀ e ∈ entries, (e.1.text?.isSome = false → e.1.writable = true) ∧
        (e.1.text?.isSome = true → ∃ outcome, c.convert e.2 = .ok outcome) := by
  rw [← exists_eachEntry_iff]
  constructor
  · rintro ⟨⟨w, converted⟩, _⟩
    obtain ⟨h, harvested, _⟩ := except_map_eq_ok_iff.mp converted
    exact ⟨h, harvested⟩
  · rintro ⟨h, harvested⟩
    have parts := exists_eachEntry_iff.mp ⟨h, harvested⟩
    constructor
    · refine ⟨.dict h.values, ?_⟩
      simp only [recordOf, harvested, Except.map, Harvest.outcome_ignoreErrors]
    · simp only [recordOf, sifted, eachEntry_filter fun e listed => (parts e listed).1,
        outcome_silenced]

/-! ### Both modes -/

/-- What a combinator converts in the strict mode it converts to the same value in the lenient one.
Arrays and dictionaries convert in the lenient mode, unless there is no answer for an item, a value or a
key that is to be described, and what comes out is what the strict mode makes of the parts that do not
fail. -/
theorem modesAgree (c : Converter) (cs : List Converter) :
    (oneOf cs .ignoreErrors).Extends (oneOf cs .failOnError) ∧
    (arrayOf c .ignoreErrors).Extends (arrayOf c .failOnError) ∧
    (recordOf c .ignoreErrors).Extends (recordOf c .failOnError) ∧
    (c.optional .ignoreErrors).Extends (c.optional .failOnError) ∧
    (∀ v items, items? v = some items →
      (PassesOver (arrayOf c .ignoreErrors) (arrayOf c .failOnError) v (c.sifted v) ↔
        ∀ x ∈ items, ∃ outcome, c.convert x = .ok outcome)) ∧
    ∀ entries : List (Value × Value),
      (PassesOver (recordOf c .ignoreErrors) (recordOf c .failOnError) (.dict entries)
          (c.sifted (.dict entries)) ↔
        ∀ e ∈ entries, (e.1.text?.isSome = false → e.1.writable = true) ∧
          (e.1.text?.isSome = true → ∃ outcome, c.convert e.2 = .ok outcome)) :=
  ⟨extends_oneOf cs, extends_arrayOf c, extends_recordOf c, extends_optional c,
    fun _ _ => passesOver_arrayOf_iff, fun _ => passesOver_recordOf_iff⟩

theorem modesAgree_mixed :
    let c := boolean.optional .failOnError
    let items : Value := .tuple [.bool true, .none, .list [], .bool false]
    let entries : List (Value × Value) :=
      [(.text "a", .bool true), (.none, .bool true), (.text "b", .list []), (.text "c", .none)]
    (arrayOf c .ignoreErrors).convert items = .ok (.ok (.list [.bool true, .bool false])) ∧
      PassesOver (arrayOf c .ignoreErrors) (arrayOf c .failOnError) items
        (.tuple [.bool true, .none, .bool false]) ∧
      (recordOf c .ignoreErrors).convert (.dict entries) =
        .ok (.ok (.dict [(.text "a", .bool true)])) ∧
      PassesOver (recordOf c .ignoreErrors) (recordOf c .failOnError) (.dict entries)
        (.dict [(.text "a", .bool true), (.text "c", .none)]) := by
  intro c items entries
  obtain ⟨_, _, _, _, arrays, dictionaries⟩ := modesAgree c []
  refine ⟨rfl, (arrays items _ rfl).mpr fun x listed => ?_, rfl,
    (dictionaries entries).mpr fun e listed => ?_⟩
  · simp only [List.mem_cons, List.not_mem_nil, or_false] at listed
    obtain rfl | rfl | rfl | rfl := listed <;> exact ⟨_, rfl⟩
  · simp only [entries, List.mem_cons, List.not_mem_nil, or_false] at listed
    obtain rfl | rfl | rfl | rfl := listed <;> exact ⟨fun _ => rfl, fun _ => ⟨_, rfl⟩⟩

/-- A key that is no text is not passed over where it cannot be described, even if the converter has no
fault for anything. -/
theorem not_passesOver_overlong :
    let entries : List (Value × Value) := [(.int overlong, .none)]
    (∀ v, ∃ outcome, succeed.convert v = .ok outcome) ∧
      (recordOf succeed .ignoreErrors).convert (.dict entries) = .error .tooLong ∧
      ¬ PassesOver (recordOf succeed .ignoreErrors) (recordOf succeed .failOnError) (.dict entries)
        (succeed.sifted (.dict entries)) := by
  intro entries
  have mute : (Value.int overlong).describe = .error .tooLong :=
    Value.describe_of_unwritable withinDigitLimit_overlong
  have faulted : (recordOf succeed .ignoreErrors).convert (.dict entries) = .error .tooLong := by
    simp only [recordOf, entries, eachEntry, Value.text?, mute]
    rfl
  refine ⟨fun v => ⟨_, rfl⟩, faulted, fun passes => ?_⟩
  obtain ⟨w, converted⟩ := passes.succeeds
  cases converted.symm.trans faulted

end LineCommand.Converter
