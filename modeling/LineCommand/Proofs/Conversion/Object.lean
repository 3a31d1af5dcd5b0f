import LineCommand.Conversion.Object
import LineCommand.Conversion.Primitive
import LineCommand.Proofs.Grammar.Fragments
import LineCommand.Proofs.Value.Describing
import LineCommand.Proofs.Value.Dictionary

/-! What converters make of objects, key by key. -/
namespace LineCommand

namespace Converter

/-! ### Keys -/

def kept (outcomes : List (String × Outcome Value)) : List (String × Value) :=
  outcomes.filterMap fun (key, outcome) =>
    match outcome with
    | .ok v => if v.isNone then none else some (key, v)
    | .error _ => none

theorem assembled_eq (outcomes : List (String × Outcome Value)) :
    assembled outcomes = if (Outcome.messages (outcomes.map (·.2))).isEmpty then
        .ok (.dict (Value.keyed (kept outcomes)))
      else fail .conversion (Text.joined "\n" (Outcome.messages (outcomes.map (·.2)))) := by
  rw [assembled, Value.keyed, kept, List.map_filterMap]
  congr 4
  funext entry
  obtain ⟨key, outcome⟩ := entry
  cases outcome with
  | error failure => rfl
  | ok v => by_cases absent : v.isNone <;> simp [absent]

theorem assembled_eq_ok {outcomes : List (String × Outcome Value)} {v : Value}
    (made : assembled outcomes = .ok v) : v = .dict (Value.keyed (kept outcomes)) := by
  rw [assembled_eq] at made
  split at made
  case isTrue => exact (Except.ok.inj made).symm
  case isFalse => cases made

theorem mem_kept_iff {outcomes : List (String × Outcome Value)} {key : String} {v : Value} :
    (key, v) ∈ kept outcomes ↔ (key, .ok v) ∈ outcomes ∧ v.isNone = false := by
  rw [kept, List.mem_filterMap]
  constructor
  · rintro ⟨⟨other, outcome⟩, member, found⟩
    cases outcome with
    | error failure => cases found
    | ok w =>
      dsimp only at found
      split at found
      case isTrue => cases found
      case isFalse there =>
        cases found
        exact ⟨member, by simpa using there⟩
  · rintro ⟨member, there⟩
    exact ⟨_, member, by simp [there]⟩

theorem keys_kept_sublist (outcomes : List (String × Outcome Value)) :
    ((kept outcomes).map (·.1)).Sublist (outcomes.map (·.1)) := by
  apply map_filterMap_sublist
  rintro ⟨key, outcome⟩ entry found
  cases outcome with
  | error failure => cases found
  | ok v =>
    dsimp only at found
    split at found <;> cases found
    rfl

/-- Every converter is asked about the whole value. -/
theorem eachKey_eq_ok_iff {v : Value} {fields : List (String × Converter)}
    {outcomes : List (String × Outcome Value)} : eachKey v fields = .ok outcomes ↔
      List.Forall₂ (fun f p => p.1 = f.1 ∧ f.2.convert v = .ok p.2) fields outcomes := by
  induction fields generalizing outcomes with
  | nil => simp [eachKey, eq_comm]
  | cons f rest ih =>
    obtain ⟨key, c⟩ := f
    rw [eachKey, List.forall₂_cons_left_iff]
    constructor
    · intro asked
      obtain ⟨outcome, here, asked⟩ := except_bind_eq_ok_iff.mp asked
      obtain ⟨others, behind, asked⟩ := except_bind_eq_ok_iff.mp asked
      exact ⟨(key, outcome), others, ⟨rfl, here⟩, ih.mp behind, (Except.ok.inj asked).symm⟩
    · rintro ⟨⟨_, outcome⟩, others, ⟨rfl, here⟩, behind, rfl⟩
      exact except_bind_eq_ok_iff.mpr
        ⟨outcome, here, except_bind_eq_ok_iff.mpr ⟨others, ih.mpr behind, rfl⟩⟩

theorem exists_eachKey_iff {v : Value} {fields : List (String × Converter)} :
    (∃ outcomes, eachKey v fields = .ok outcomes) ↔
      ∀ f ∈ fields, ∃ outcome, f.2.convert v = .ok outcome := by
  induction fields with
  | nil => exact iff_of_true ⟨[], rfl⟩ nofun
  | cons f rest ih =>
    rw [List.forall_mem_cons, ← ih]
    simp [eachKey, except_bind_eq_ok_iff]

section
variable {v : Value} {fields : List (String × Converter)}
  {outcomes : List (String × Outcome Value)}

theorem keys_of_eachKey (asked : eachKey v fields = .ok outcomes) :
    outcomes.map (·.1) = fields.map (·.1) := by
  have taken := eachKey_eq_ok_iff.mp asked
  clear asked
  induction taken with
  | nil => rfl
  | cons here _ ih => rw [List.map_cons, List.map_cons, here.1, ih]

theorem mem_of_eachKey_iff (asked : eachKey v fields = .ok outcomes) {key : String}
    {outcome : Outcome Value} : (key, outcome) ∈ outcomes ↔
      ∃ c, (key, c) ∈ fields ∧ c.convert v = .ok outcome := by
  have taken := eachKey_eq_ok_iff.mp asked
  clear asked
  induction taken with
  | nil => simp
  | @cons f p rest others here _ ih =>
    obtain ⟨name, c⟩ := f
    obtain ⟨_, answer⟩ := p
    obtain ⟨rfl, converted⟩ := here
    refine List.mem_cons.trans ((or_congr_right ih).trans ?_)
    constructor
    · rintro (first | ⟨c, listed, later⟩)
      · cases first
        exact ⟨c, List.mem_cons_self, converted⟩
      · exact ⟨c, List.mem_cons_of_mem _ listed, later⟩
    · rintro ⟨c', listed, later⟩
      obtain first | listed := List.mem_cons.mp listed
      · cases first
        rw [Except.ok.inj (later.symm.trans converted)]
        exact .inl rfl
      · exact .inr ⟨c', listed, later⟩

theorem transform_eq_ok_iff {outcome : Outcome Value} :
    (transform fields).convert v = .ok outcome ↔
      ∃ outcomes, eachKey v fields = .ok outcomes ∧ assembled outcomes = outcome :=
  except_map_eq_ok_iff

theorem exists_transform_iff : (∃ outcome, (transform fields).convert v = .ok outcome) ↔
    ∀ f ∈ fields, ∃ outcome, f.2.convert v = .ok outcome := by
  rw [← exists_eachKey_iff]
  simp [transform_eq_ok_iff]

/-- The first fault stands in the place of an outcome. -/
theorem transform_cons_eq_error {c : Converter} {key : String} {fault : Fault}
    (faulted : c.convert v = .error fault) :
    (transform ((key, c) :: fields)).convert v = .error fault := by
  simp only [transform, eachKey, faulted]
  rfl

/-- What is made of a value by converters under different keys. -/
theorem transform_eq_ok {w : Value} (distinct : (fields.map (·.1)).Nodup)
    (converted : (transform fields).convert v = .ok (.ok w)) :
    ∃ entries, w = .dict entries ∧ ∀ field ∈ fields, ∃ outcome,
      field.2.convert v = .ok outcome ∧
        ∀ x, Value.get? entries field.1 = some x ↔ outcome = .ok x ∧ x.isNone = false := by
  obtain ⟨outcomes, asked, made⟩ := transform_eq_ok_iff.mp converted
  have different : (outcomes.map (·.1)).Nodup := keys_of_eachKey asked ▸ distinct
  refine ⟨_, assembled_eq_ok made, fun field member => ?_⟩
  obtain ⟨outcome, here⟩ := exists_eachKey_iff.mp ⟨_, asked⟩ field member
  have listed := (mem_of_eachKey_iff asked).mpr ⟨field.2, member, here⟩
  refine ⟨outcome, here, fun x => ?_⟩
  rw [Value.get?_keyed, lookup_eq_some_iff_mem (different.sublist (keys_kept_sublist outcomes)),
    mem_kept_iff]
  refine and_congr_left fun _ => ?_
  rw [← lookup_eq_some_iff_mem different]
  rw [← lookup_eq_some_iff_mem different] at listed
  rw [listed, Option.some.injEq]

end

def failsOn (c : Converter) (v : Value) : Bool :=
  match c.convert v with
  | .ok (.error _) => true
  | _ => false

end Converter

/-! ### Objects -/

namespace ObjectConverter

/-- A key is broken in a value if its member is not there, or is there and its converter fails on it.
Under an optional key no member has to be there, and an absent value may be. -/
def breaks (o : ObjectConverter) (v : Value) (e : String × Converter) : Bool :=
  match v.project? e.1 with
  | none => !o.optional.contains e.1
  | some member => e.2.failsOn member && !(o.optional.contains e.1 && member.isNone)

/-- What a failure says about a broken key: the value that has no member under it, or what the converter
says about the member. -/
inductive Complains (v : Value) (e : String × Converter) : String → Prop
  | missing {shown : String} (absent : v.project? e.1 = none) (described : v.describe = .ok shown) :
      Complains v e s!"Field {e.1} not found in: {shown}"
  | failing {member : Value} {failure : Failure} (present : v.project? e.1 = some member)
      (failed : e.2.convert member = .ok (.error failure)) :
      Complains v e s!"Field {e.1}: {failure.message}"

/-- What comes of the member under a key, if it is there and converts to a value that is not absent. -/
def yields? (v : Value) (e : String × Converter) : Option Value :=
  match v.project? e.1 with
  | none => none
  | some member =>
    match e.2.convert member with
    | .ok (.ok w) => if w.isNone then none else some w
    | _ => none

/-- What is taken out of a value under a key. -/
inductive Takes (o : ObjectConverter) (v : Value) (e : String × Converter) : Outcome Value → Prop
  | broken {failure : Failure} (breaks : o.breaks v e = true) (nothing : yields? v e = none)
      (complains : Complains v e failure.message) : Takes o v e (.error failure)
  | sound {w : Value} (holds : o.breaks v e = false)
      (yields : yields? v e = if w.isNone then none else some w) : Takes o v e (.ok w)

variable {o : ObjectConverter} {v : Value} {e : String × Converter}

theorem extractor_snd (o : ObjectConverter) (e : String × Converter) : (o.extractor e).2 =
    if o.optional.contains e.1 then .optionalField e.1 e.2 else .field e.1 e.2 := rfl

theorem convert_extractor_of_absent (object : v.isObject = true) (absent : v.project? e.1 = none) :
    (o.extractor e).2.convert v =
      if o.optional.contains e.1 then .ok (.ok .none)
      else reject s!"Field {e.1} not found in: " v := by
  rw [extractor_snd]
  split
  case isTrue => simp only [Converter.optionalField, object, absent]; rfl
  case isFalse => simp only [Converter.field, object, absent]; rfl

theorem convert_extractor_of_present {member : Value} (object : v.isObject = true)
    (present : v.project? e.1 = some member) :
    (o.extractor e).2.convert v = (e.2.convert member).map fun outcome =>
      match outcome with
      | .ok w => .ok w
      | .error failure =>
        if o.optional.contains e.1 && member.isNone then .ok .none
        else Converter.inField e.1 (.error failure) := by
  rw [extractor_snd]
  cases o.optional.contains e.1 with
  | true =>
    simp only [if_true, Converter.optionalField, object, present, Bool.true_and]
    rcases e.2.convert member with fault | failure | w <;> rfl
  | false =>
    simp only [Bool.false_eq_true, if_false, Converter.field, object, present, Bool.false_and]
    rcases e.2.convert member with fault | failure | w <;> rfl

/-- Where there is an answer, it is a failure for broken keys only, and one that says what is wrong. -/
theorem takes_of_convert {outcome : Outcome Value} (object : v.isObject = true)
    (converted : (o.extractor e).2.convert v = .ok outcome) : Takes o v e outcome := by
  cases found : v.project? e.1 with
  | none =>
    have nothing : yields? v e = none := by simp only [yields?, found]
    rw [convert_extractor_of_absent object found] at converted
    split at converted
    case isTrue optional =>
      cases converted
      exact .sound (by simp only [breaks, found, optional, Bool.not_true]) nothing
    case isFalse required =>
      obtain ⟨shown, described, converted⟩ := except_bind_eq_ok_iff.mp converted
      cases converted
      refine .broken ?_ nothing (.missing found described)
      simpa only [breaks, found, Bool.not_eq_true'] using eq_false_of_ne_true required
  | some member =>
    rw [convert_extractor_of_present object found] at converted
    cases asked : e.2.convert member with
    | error fault =>
      rw [asked] at converted
      cases converted
    | ok answer =>
      rw [asked] at converted
      cases answer with
      | ok w =>
        cases converted
        refine .sound ?_ (by simp only [yields?, found, asked])
        simp only [breaks, found, Converter.failsOn, asked, Bool.false_and]
      | error failure =>
        have nothing : yields? v e = none := by simp only [yields?, found, asked]
        obtain rfl := Except.ok.inj converted
        cases lenient : o.optional.contains e.1 && member.isNone with
        | true =>
          refine .sound ?_ nothing
          simp only [breaks, found, lenient, Bool.not_true, Bool.and_false]
        | false =>
          refine .broken ?_ nothing (.failing found asked)
          simp only [breaks, found, Converter.failsOn, asked, lenient, Bool.not_false, Bool.and_true]

/-- There is an answer if the converter has one for the member, and if a value that can be described is
the only one without a member that has to be there. -/
theorem exists_convert_extractor_iff (object : v.isObject = true) :
    (∃ outcome, (o.extractor e).2.convert v = .ok outcome) ↔
      (∀ m, v.project? e.1 = some m → ∃ outcome, e.2.convert m = .ok outcome) ∧
        (v.project? e.1 = none → e.1 ∉ o.optional → v.writable = true) := by
  cases found : v.project? e.1 with
  | none =>
    rw [convert_extractor_of_absent object found]
    by_cases optional : e.1 ∈ o.optional
    · simp [optional]
    · rw [if_neg (by simpa using optional), ← Value.exists_describe_iff]
      simp [reject, refuse, optional, except_bind_eq_ok_iff]
  | some member =>
    rw [convert_extractor_of_present object found]
    cases asked : e.2.convert member <;> simp [Except.map, asked]

/-! ### All keys together -/

def yields (o : ObjectConverter) (v : Value) : List (String × Value) :=
  o.fields.filterMap fun e => (yields? v e).map (e.1, ·)

theorem complains_of_takes {fields : List (String × Converter)}
    {outcomes : List (String × Outcome Value)}
    (taken : List.Forall₂ (fun e p => p.1 = e.1 ∧ Takes o v e p.2) fields outcomes) :
    List.Forall₂ (Complains v) (fields.filter (o.breaks v)) (Outcome.messages (outcomes.map (·.2))) := by
  induction taken with
  | nil => exact .nil
  | @cons e p _ _ here _ ih =>
    obtain ⟨key, outcome⟩ := p
    cases here.2 with
    | broken breaks _ complains =>
      rw [List.filter_cons_of_pos breaks]
      exact .cons complains ih
    | sound holds _ =>
      rw [List.filter_cons_of_neg (by simp [holds])]
      exact ih

theorem kept_of_takes {fields : List (String × Converter)}
    {outcomes : List (String × Outcome Value)}
    (taken : List.Forall₂ (fun e p => p.1 = e.1 ∧ Takes o v e p.2) fields outcomes) :
    Converter.kept outcomes = fields.filterMap fun e => (yields? v e).map (e.1, ·) := by
  induction taken with
  | nil => rfl
  | @cons e p _ _ here _ ih =>
    obtain ⟨key, outcome⟩ := p
    obtain ⟨rfl, taken⟩ := here
    rw [List.filterMap_cons, ← ih]
    cases taken with
    | broken _ nothing _ =>
      rw [nothing]
      rfl
    | @sound w _ found =>
      rw [found]
      cases absent : w.isNone <;> simp [Converter.kept, absent]

/-- What is taken out under each of the keys. -/
theorem exists_takes {outcome : Outcome Value} (object : v.isObject = true)
    (converted : o.toConverter.convert v = .ok outcome) : ∃ outcomes,
      List.Forall₂ (fun e p => p.1 = e.1 ∧ Takes o v e p.2) o.fields outcomes ∧
        Converter.assembled outcomes = outcome := by
  obtain ⟨outcomes, asked, made⟩ := Converter.transform_eq_ok_iff.mp converted
  have taken := Converter.eachKey_eq_ok_iff.mp asked
  rw [List.forall₂_map_left_iff] at taken
  exact ⟨outcomes, taken.imp fun e p here => ⟨here.1, takes_of_convert object here.2⟩, made⟩

/-- An outcome says of every broken key what is wrong with it, or has what the keys yield. -/
structure Gathers (o : ObjectConverter) (v : Value) (outcome : Outcome Value) : Prop where
  fails : (∃ failure, outcome = .error failure) ↔ ∃ e ∈ o.fields, o.breaks v e = true
  reports : ∀ failure, outcome = .error failure → failure.detail = .kind .conversion ∧
    ∃ entries, failure.message = Text.joined "\n" entries ∧
      List.Forall₂ (Complains v) (o.fields.filter (o.breaks v)) entries
  keeps : ∀ w, outcome = .ok w → w = .dict (Value.keyed (o.yields v))

theorem gathers_of_convert {outcome : Outcome Value} (object : v.isObject = true)
    (converted : o.toConverter.convert v = .ok outcome) : o.Gathers v outcome := by
  obtain ⟨outcomes, taken, rfl⟩ := exists_takes object converted
  have complains := complains_of_takes taken
  rw [Converter.assembled_eq]
  generalize Outcome.messages (outcomes.map (·.2)) = messages at complains ⊢
  have fine : messages = [] ↔ ∀ e ∈ o.fields, ¬ o.breaks v e = true := by
    rw [← List.filter_eq_nil_iff, ← List.length_eq_zero_iff, ← complains.length_eq,
      List.length_eq_zero_iff]
  cases messages with
  | nil =>
    have sound := fine.mp rfl
    constructor
    · exact iff_of_false nofun fun ⟨e, listed, broken⟩ => sound e listed broken
    · nofun
    · rintro _ ⟨⟩
      rw [kept_of_takes taken]
      rfl
  | cons message others =>
    constructor
    · refine iff_of_true ⟨_, rfl⟩ ?_
      by_contra none
      exact List.cons_ne_nil _ _ (fine.mpr fun e listed broken => none ⟨e, listed, broken⟩)
    · rintro _ ⟨⟩
      exact ⟨rfl, _, rfl, complains⟩
    · nofun

/-- A member has to be there, and is not, only in a value that can be described; and the converters
have an answer for the members that are there. -/
structure Answerable (o : ObjectConverter) (v : Value) : Prop where
  members : ∀ e ∈ o.fields, ∀ m, v.project? e.1 = some m → ∃ outcome, e.2.convert m = .ok outcome
  described : ∀ e ∈ o.fields, v.project? e.1 = none → e.1 ∉ o.optional → v.writable = true

theorem exists_convert_iff (object : v.isObject = true) :
    (∃ outcome, o.toConverter.convert v = .ok outcome) ↔ o.Answerable v := by
  rw [toConverter, Converter.exists_transform_iff, List.forall_mem_map]
  constructor
  · intro each
    have parts := fun e listed => (exists_convert_extractor_iff object).mp (each e listed)
    exact ⟨fun e listed => (parts e listed).1, fun e listed => (parts e listed).2⟩
  · intro answerable e listed
    exact (exists_convert_extractor_iff object).mpr
      ⟨answerable.members e listed, answerable.described e listed⟩

/-- A value comes out just if the converters have an answer for the members that are there and no key is
broken, and then what the keys yield. -/
theorem convert_eq_ok_iff {w : Value} (object : v.isObject = true) :
    o.toConverter.convert v = .ok (.ok w) ↔
      (∀ e ∈ o.fields, ∀ m, v.project? e.1 = some m → ∃ outcome, e.2.convert m = .ok outcome) ∧
        (∀ e ∈ o.fields, o.breaks v e = false) ∧ w = .dict (Value.keyed (o.yields v)) := by
  constructor
  · intro converted
    have gathers := gathers_of_convert object converted
    refine ⟨((exists_convert_iff object).mp ⟨_, converted⟩).members, fun e listed => ?_,
      gathers.keeps w rfl⟩
    by_contra broken
    obtain ⟨failure, failed⟩ := gathers.fails.mpr ⟨e, listed, eq_true_of_ne_false broken⟩
    cases failed
  · rintro ⟨members, sound, rfl⟩
    have described : ∀ e ∈ o.fields, v.project? e.1 = none → e.1 ∉ o.optional →
        v.writable = true := by
      intro e listed absent required
      have broken := sound e listed
      simp [breaks, absent, required] at broken
    obtain ⟨outcome, converted⟩ := (exists_convert_iff object).mpr ⟨members, described⟩
    have gathers := gathers_of_convert object converted
    cases outcome with
    | ok w => rw [converted, gathers.keeps w rfl]
    | error failure =>
      obtain ⟨e, listed, broken⟩ := gathers.fails.mp ⟨failure, rfl⟩
      cases (sound e listed).symm.trans broken

/-- There is an outcome, which says what is wrong with every broken key, in the order of the keys, or
holds what each of them yields. Members under other keys make no difference to whether there is a
dictionary and what it holds. -/
structure Accounts (o : ObjectConverter) (v : Value) : Prop where
  answers : ∃ outcome, o.toConverter.convert v = .ok outcome
  gathers : ∀ outcome, o.toConverter.convert v = .ok outcome → o.Gathers v outcome
  alone : ∀ v', v'.isObject = true → (∀ e ∈ o.fields, v'.project? e.1 = v.project? e.1) → ∀ w,
    o.toConverter.convert v' = .ok (.ok w) ↔ o.toConverter.convert v = .ok (.ok w)

/-- What is made of an object accounts for all keys, unless a converter has no answer for its member, or
a member that has to be there is missing from a value that cannot be described. -/
theorem accounts_iff (o : ObjectConverter) (v : Value) (object : v.isObject = true) :
    o.Accounts v ↔ o.Answerable v := by
  refine ⟨fun accounts => (exists_convert_iff object).mp accounts.answers, fun answerable => ?_⟩
  refine ⟨(exists_convert_iff object).mpr answerable, fun outcome => gathers_of_convert object, ?_⟩
  intro v' object' same w
  have yields : o.yields v' = o.yields v := by
    refine List.filterMap_congr fun e listed => ?_
    rw [yields?, yields?, same e listed]
  rw [convert_eq_ok_iff object', convert_eq_ok_iff object, yields]
  refine and_congr ?_ (and_congr_left fun _ => ?_)
  · exact forall₂_congr fun e listed => by rw [same e listed]
  · exact forall₂_congr fun e listed => by rw [breaks, breaks, same e listed]

theorem accounts_spoken :
    let o : ObjectConverter :=
      ⟨[("tier", .number), ("words", .string), ("on", .boolean)], ["tier"]⟩
    let bad : Value := .record [("tier", .none), ("words", .list [])]
    let good : Value := .record [("words", .text "hi"), ("on", .text "True")]
    let better : Value :=
      .dict (Value.keyed [("on", .text "True"), ("words", .text "hi"), ("x", .none)])
    bad.isObject = true ∧ o.Gathers bad (fail .conversion
        "Field words: Not a string: []\nField on not found in: namespace(tier=None, words=[])") ∧
      good.isObject = true ∧ better.isObject = true ∧ o.toConverter.convert better =
        .ok (.ok (.dict (Value.keyed [("words", .text "hi"), ("on", .bool true)]))) := by
  intro o bad good better
  have spoken : ∀ v outcome, v.isObject = true → o.toConverter.convert v = .ok outcome →
      o.Accounts v := fun v outcome object converted =>
    (accounts_iff o v object).mpr ((exists_convert_iff object).mp ⟨outcome, converted⟩)
  have alike : ∀ e ∈ o.fields, better.project? e.1 = good.project? e.1 := by
    intro e listed
    simp only [o, List.mem_cons, List.not_mem_nil, or_false] at listed
    obtain rfl | rfl | rfl := listed <;> exact Value.get?_keyed _ _
  exact ⟨rfl, (spoken bad _ rfl rfl).gathers _ rfl, rfl, rfl,
    ((spoken good _ rfl rfl).alone better rfl alike _).mpr rfl⟩

/-- Where the value cannot be described, there is no failure to say that a member is missing, even if no
converter has a fault for anything. -/
theorem not_accounts_overlong :
    let o : ObjectConverter := ⟨[("a", .succeed)], []⟩
    let v : Value := .dict (Value.keyed [("b", .int overlong)])
    (∀ e ∈ o.fields, ∀ m, ∃ outcome, e.2.convert m = .ok outcome) ∧ v.isObject = true ∧
      o.toConverter.convert v = .error .tooLong ∧ ¬ o.Accounts v := by
  intro o v
  have unwritable : v.writable = false := by
    simp [v, Value.keyed, Value.writable, Value.writableEntries, withinDigitLimit_overlong]
  have absent : v.project? "a" = none := Value.get?_keyed _ _
  have missing : (o.extractor ("a", .succeed)).2.convert v = .error .tooLong := by
    refine (convert_extractor_of_absent rfl absent).trans ?_
    rw [if_neg (by decide), reject, Value.describe_of_unwritable unwritable]
    rfl
  have converted : o.toConverter.convert v = .error .tooLong :=
    Converter.transform_cons_eq_error missing
  refine ⟨?_, rfl, converted, fun accounts => ?_⟩
  · intro e listed m
    obtain rfl := List.mem_singleton.mp listed
    exact ⟨_, rfl⟩
  · obtain ⟨outcome, answered⟩ := accounts.answers
    cases answered.symm.trans converted

end ObjectConverter
end LineCommand
