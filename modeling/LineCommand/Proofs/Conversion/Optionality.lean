import LineCommand.Proofs.Conversion.Leniency

/-! Objects of which more keys are optional. A key under which no member has to be there is looked at by
another function, which passes over an absent member and over an absent value that does not convert; all
else it treats alike. So nothing that converted is lost, and nothing new is reported. -/
namespace LineCommand

namespace Converter

/-- Where converters do not all have an outcome, one of them has the fault that comes of it. -/
theorem exists_of_eachKey_eq_error {v : Value} {fields : List (String × Converter)} {fault : Fault}
    (asked : eachKey v fields = .error fault) : ∃ f ∈ fields, f.2.convert v = .error fault := by
  induction fields with
  | nil => cases asked
  | cons f rest ih =>
    obtain ⟨key, c⟩ := f
    cases here : c.convert v with
    | error other =>
      simp only [eachKey, here, bind, Except.bind] at asked
      cases asked
      exact ⟨_, List.mem_cons_self, here⟩
    | ok outcome =>
      cases behind : eachKey v rest with
      | error other =>
        simp only [eachKey, here, behind, bind, Except.bind] at asked
        cases asked
        obtain ⟨g, listed, faulted⟩ := ih behind
        exact ⟨g, List.mem_cons_of_mem _ listed, faulted⟩
      | ok others =>
        simp only [eachKey, here, behind, bind, Except.bind] at asked
        cases asked

theorem exists_of_transform_eq_error {v : Value} {fields : List (String × Converter)} {fault : Fault}
    (faulted : (transform fields).convert v = .error fault) :
    ∃ f ∈ fields, f.2.convert v = .error fault := by
  cases asked : eachKey v fields with
  | ok outcomes =>
    simp only [transform, asked] at faulted
    cases faulted
  | error other =>
    simp only [transform, asked] at faulted
    cases faulted
    exact exists_of_eachKey_eq_error asked

theorem eachKey_congr {v : Value} {fields : List (String × Converter)}
    {f g : String × Converter → String × Converter} (same : ∀ e ∈ fields,
      (f e).1 = (g e).1 ∧ (f e).2.convert v = (g e).2.convert v) :
    eachKey v (fields.map f) = eachKey v (fields.map g) := by
  induction fields with
  | nil => rfl
  | cons e rest ih =>
    obtain ⟨⟨key, here⟩, others⟩ := List.forall_mem_cons.mp same
    rw [List.map_cons, List.map_cons, eachKey, eachKey, key, here, ih others]

end Converter

namespace ObjectConverter

def report? (o : ObjectConverter) (v : Value) (e : String × Converter) : Option (String × String) :=
  match (o.extractor e).2.convert v with
  | .ok (.error failure) => some (e.1, failure.message)
  | _ => none

def reports (o : ObjectConverter) (v : Value) : List (String × String) :=
  o.fields.filterMap (o.report? v)

def failure (reports : List (String × String)) : Failure :=
  .of .conversion (Text.joined "\n" (reports.map (·.2)))

variable {o p : ObjectConverter} {v w : Value} {e : String × Converter} {names : List String}

/-- The messages are those of the reports. -/
theorem messages_eq_reports {fields : List (String × Converter)}
    {outcomes : List (String × Outcome Value)}
    (asked : Converter.eachKey v (fields.map o.extractor) = .ok outcomes) :
    Outcome.messages (outcomes.map (·.2)) = (fields.filterMap (o.report? v)).map (·.2) := by
  have taken := Converter.eachKey_eq_ok_iff.mp asked
  rw [List.forall₂_map_left_iff] at taken
  clear asked
  induction taken with
  | nil => rfl
  | @cons e p rest others here _ ih =>
    obtain ⟨key, outcome⟩ := p
    rw [List.filterMap_cons, report?, here.2]
    cases outcome with
    | ok w => exact ih
    | error failure => exact congrArg _ ih

theorem failure_of_convert {f : Failure} (failed : o.toConverter.convert v = .ok (.error f)) :
    o.reports v ≠ [] ∧ f = failure (o.reports v) := by
  obtain ⟨outcomes, asked, made⟩ := Converter.transform_eq_ok_iff.mp failed
  rw [Converter.assembled_eq, messages_eq_reports asked] at made
  split at made
  case isTrue => cases made
  case isFalse some =>
    cases made
    refine ⟨fun none => some ?_, rfl⟩
    rw [show o.fields.filterMap (o.report? v) = [] from none]
    rfl

theorem reports_of_convert (converted : o.toConverter.convert v = .ok (.ok w)) :
    o.reports v = [] := by
  obtain ⟨outcomes, asked, made⟩ := Converter.transform_eq_ok_iff.mp converted
  rw [Converter.assembled_eq, messages_eq_reports asked] at made
  split at made
  case isTrue none => simpa [reports] using none
  case isFalse => cases made

/-! ### One key -/

/-- A key is treated as before, or what was wrong with it is passed over. What was wrong may be that
there was no member, and no way to say so of a value that cannot be described. -/
theorem convert_extractor_addOptional (o : ObjectConverter) (names : List String) (v : Value)
    (e : String × Converter) :
    ((o.addOptional names).extractor e).2.convert v = (o.extractor e).2.convert v ∨
      ((o.addOptional names).extractor e).2.convert v = .ok (.ok .none) ∧
        ((∃ f, (o.extractor e).2.convert v = .ok (.error f)) ∨
          v.writable = false ∧ v.project? e.1 = none ∧ e.1 ∉ o.optional ∧
            (o.extractor e).2.convert v = .error .tooLong) := by
  have more : (o.addOptional names).optional.contains e.1 =
      (o.optional.contains e.1 || names.contains e.1) := List.contains_append
  cases old : o.optional.contains e.1 with
  | true =>
    left
    rw [extractor_snd, extractor_snd, more, old, Bool.true_or]
  | false =>
    cases new : names.contains e.1 with
    | false =>
      left
      rw [extractor_snd, extractor_snd, more, old, new, Bool.or_self]
    | true =>
      rw [old, new, Bool.or_true] at more
      cases object : v.isObject with
      | false =>
        left
        rw [extractor_snd, extractor_snd, more, old]
        simp [Converter.optionalField, Converter.field, object]
      | true =>
        cases found : v.project? e.1 with
        | none =>
          right
          rw [convert_extractor_of_absent object found, convert_extractor_of_absent object found,
            more, old]
          refine ⟨rfl, ?_⟩
          cases writable : v.writable with
          | true =>
            obtain ⟨shown, described⟩ := Value.exists_describe writable
            exact .inl ⟨_, by rw [reject, described]; rfl⟩
          | false =>
            refine .inr ⟨rfl, rfl, by simpa using old, ?_⟩
            rw [reject, Value.describe_of_unwritable writable]
            rfl
        | some member =>
          rw [convert_extractor_of_present object found, convert_extractor_of_present object found,
            more, old]
          rcases e.2.convert member with fault | failure | w
          · exact .inl rfl
          · cases absent : member.isNone with
            | true => exact .inr ⟨rfl, .inl ⟨_, rfl⟩⟩
            | false => exact .inl rfl
          · exact .inl rfl

theorem report?_addOptional (o : ObjectConverter) (names : List String) (v : Value)
    (e : String × Converter) : (o.addOptional names).report? v e = o.report? v e ∨
      (o.addOptional names).report? v e = none := by
  obtain same | ⟨absent, _⟩ := convert_extractor_addOptional o names v e
  · left
    rw [report?, report?, same]
  · right
    rw [report?, absent]

/-! ### All keys together -/

theorem reports_addOptional_sublist (o : ObjectConverter) (names : List String) (v : Value) :
    ((o.addOptional names).reports v).Sublist (o.reports v) := by
  change (o.fields.filterMap _).Sublist (o.fields.filterMap _)
  induction o.fields with
  | nil => exact .slnil
  | cons e rest ih =>
    rw [List.filterMap_cons, List.filterMap_cons]
    obtain same | nothing := report?_addOptional o names v e
    · rw [same]
      cases o.report? v e with
      | none => exact ih
      | some report => exact ih.cons_cons report
    · rw [nothing]
      cases o.report? v e with
      | none => exact ih
      | some report => exact ih.cons report

/-- Where nothing fails nothing changes. -/
theorem extends_addOptional (o : ObjectConverter) (names : List String) :
    (o.addOptional names).toConverter.Extends o.toConverter := by
  intro v w converted
  have answers := Converter.exists_transform_iff.mp ⟨_, converted⟩
  rw [List.forall_mem_map] at answers
  have silent := List.filterMap_eq_nil_iff.mp (reports_of_convert converted)
  have same : Converter.eachKey v (o.fields.map (o.addOptional names).extractor) =
      Converter.eachKey v (o.fields.map o.extractor) := by
    refine Converter.eachKey_congr fun e listed => ⟨rfl, ?_⟩
    obtain same | ⟨_, ⟨f, failed⟩ | ⟨_, _, _, faulted⟩⟩ := convert_extractor_addOptional o names v e
    · exact same
    · have silent := silent e listed
      rw [report?, failed] at silent
      cases silent
    · obtain ⟨outcome, answered⟩ := answers e listed
      cases answered.symm.trans faulted
  rw [← converted]
  exact congrArg (Except.map Converter.assembled) same

theorem exists_convert_addOptional
    (answers : ∃ outcome, o.toConverter.convert v = .ok outcome) :
    ∃ outcome, (o.addOptional names).toConverter.convert v = .ok outcome := by
  rw [toConverter, Converter.exists_transform_iff, List.forall_mem_map] at answers ⊢
  intro e listed
  obtain same | ⟨absent, _⟩ := convert_extractor_addOptional o names v e
  · rw [same]
    exact answers e listed
  · exact ⟨_, absent⟩

/-- A value lacks a key that it has to have. -/
def Lacks (o : ObjectConverter) (v : Value) : Prop :=
  ∃ e ∈ o.fields, v.project? e.1 = none ∧ e.1 ∉ o.optional

/-- Where there is a failure, there was one before, unless it could not be put into words. -/
theorem convert_of_convert_addOptional {f : Failure}
    (failed : (o.addOptional names).toConverter.convert v = .ok (.error f)) :
    o.toConverter.convert v = .ok (.error (failure (o.reports v))) ∨
      v.writable = false ∧ o.Lacks v := by
  have reported := (failure_of_convert failed).1
  cases converted : o.toConverter.convert v with
  | ok outcome =>
    left
    cases outcome with
    | error g => rw [(failure_of_convert converted).2]
    | ok w =>
      have sublist := reports_addOptional_sublist o names v
      rw [reports_of_convert converted, List.sublist_nil] at sublist
      exact absurd sublist reported
  | error fault =>
    right
    have answers := Converter.exists_transform_iff.mp ⟨_, failed⟩
    rw [List.forall_mem_map] at answers
    obtain ⟨_, listed, faulted⟩ := Converter.exists_of_transform_eq_error converted
    obtain ⟨e, member, rfl⟩ := List.mem_map.mp listed
    obtain same | ⟨_, ⟨g, answered⟩ | ⟨unwritable, absent, required, _⟩⟩ :=
      convert_extractor_addOptional o names v e
    · obtain ⟨outcome, answered⟩ := answers e member
      cases answered.symm.trans (same.trans faulted)
    · cases answered.symm.trans faulted
    · exact ⟨unwritable, e, member, absent, required⟩

/-- Which keys are optional does not depend on how they are listed. -/
theorem toConverter_congr {others : List String} (same : ∀ n, n ∈ others ↔ n ∈ o.optional) :
    (o.withOptional others).toConverter = o.toConverter := by
  have listed (n : String) : others.contains n = o.optional.contains n := by
    rw [Bool.eq_iff_iff, List.contains_iff_mem, List.contains_iff_mem, same]
  have extractors : (o.withOptional others).extractor = o.extractor := by
    funext e
    exact Prod.ext rfl (by rw [extractor_snd, extractor_snd, ← listed]; rfl)
  exact congrArg (fun f => Converter.transform (o.fields.map f)) extractors

/-- One converter of objects makes of a value no less than another: the same dictionary if the other
makes one, and if it fails, the other fails too and reports all that it reports, in the same order. -/
structure Relaxes (p o : ObjectConverter) (v : Value) : Prop where
  keeps : ∀ w, o.toConverter.convert v = .ok (.ok w) → p.toConverter.convert v = .ok (.ok w)
  answers : (∃ outcome, o.toConverter.convert v = .ok outcome) →
    ∃ outcome, p.toConverter.convert v = .ok outcome
  loses : ∀ f, p.toConverter.convert v = .ok (.error f) →
    f = failure (p.reports v) ∧ (p.reports v).Sublist (o.reports v) ∧
      o.toConverter.convert v = .ok (.error (failure (o.reports v)))

/-- Where a converter of objects fails on a value that it cannot describe, the value is an object. -/
theorem isObject_of_failed {f : Failure} (unwritable : v.writable = false)
    (failed : p.toConverter.convert v = .ok (.error f)) : v.isObject = true := by
  cases object : v.isObject with
  | true => rfl
  | false =>
    exfalso
    obtain ⟨e, listed⟩ := List.exists_mem_of_ne_nil p.fields (by
      rintro none
      exact (failure_of_convert failed).1 (by rw [reports, none]; rfl))
    have answers := Converter.exists_transform_iff.mp ⟨_, failed⟩
    obtain ⟨outcome, answered⟩ := answers _ (List.mem_map_of_mem listed)
    have refused : (p.extractor e).2.convert v = .error .tooLong := by
      rw [extractor_snd]
      split <;> simp [Converter.optionalField, Converter.field, Converter.noObject, object, reject,
        Value.describe_of_unwritable unwritable, bind, Except.bind]
    cases answered.symm.trans refused

/-- With more optional keys nothing is lost and nothing new reported, unless the value lacks a key that
it had to have and cannot be described, so that there was no failure to say so. Only the names of the
optional keys matter, not their order or how often they are given. -/
theorem relaxes_addOptional (o : ObjectConverter) (names : List String) :
    (∀ v, (o.addOptional names).Relaxes o v ↔
      ((∃ f, (o.addOptional names).toConverter.convert v = .ok (.error f)) → o.Lacks v →
        v.writable = true)) ∧
      ∀ others : List String, (∀ n, n ∈ others ↔ n ∈ o.optional ∨ n ∈ names) →
        ∀ v, (ObjectConverter.mk o.fields others).toConverter.convert v =
          (o.addOptional names).toConverter.convert v := by
  constructor
  · intro v
    constructor
    · rintro relaxes ⟨f, failed⟩ ⟨e, listed, absent, required⟩
      by_contra unwritable
      rw [Bool.not_eq_true] at unwritable
      have object := isObject_of_failed unwritable failed
      have answerable := (exists_convert_iff object).mp ⟨_, (relaxes.loses f failed).2.2⟩
      cases unwritable.symm.trans (answerable.described e listed absent required)
    · intro sayable
      refine ⟨extends_addOptional o names v, exists_convert_addOptional, fun f failed => ?_⟩
      refine ⟨(failure_of_convert failed).2, reports_addOptional_sublist o names v, ?_⟩
      obtain before | ⟨unwritable, lacks⟩ := convert_of_convert_addOptional failed
      · exact before
      · cases unwritable.symm.trans (sayable ⟨f, failed⟩ lacks)
  · intro others same v
    have listed (n : String) : n ∈ others ↔ n ∈ (o.addOptional names).optional :=
      (same n).trans List.mem_append.symm
    exact congrFun (congrArg Converter.convert (toConverter_congr listed)) v

theorem relaxes_addOptional_spoken :
    let o : ObjectConverter := ⟨[("tier", .number), ("words", .string), ("on", .boolean)], ["tier"]⟩
    let p := o.addOptional ["on", "x", "words", "on"]
    let v : Value := .record [("on", .list []), ("tier", .none)]
    let off : Value := .record [("words", .text "hi"), ("on", .bool false)]
    let made : Value := .dict (Value.keyed [("words", .text "hi"), ("on", .bool false)])
    o.toConverter.convert off = .ok (.ok made) ∧ p.toConverter.convert off = .ok (.ok made) ∧
      p.toConverter.convert v = .ok (fail .conversion "Field on: Not a boolean: []") ∧
      p.reports v = [("on", "Field on: Not a boolean: []")] ∧
      (p.reports v).Sublist (o.reports v) ∧ (o.reports v).length = 2 ∧
      (ObjectConverter.mk o.fields ["words", "tier", "x", "on"]).toConverter.convert v =
        p.toConverter.convert v := by
  intro o p v off made
  obtain ⟨relaxes, alike⟩ := relaxes_addOptional o ["on", "x", "words", "on"]
  have failed : p.toConverter.convert v = .ok (fail .conversion "Field on: Not a boolean: []") := rfl
  refine ⟨rfl, ((relaxes off).mpr fun _ _ => rfl).keeps made rfl, failed, rfl,
    (((relaxes v).mpr fun _ _ => rfl).loses _ failed).2.1, rfl, alike _ (fun n => ?_) v⟩
  simp only [o, List.mem_cons, List.not_mem_nil, or_false]
  tauto

/-- What does not convert is reported if nothing else has to be there, and is not reported before, where
it cannot be said of the value that something is missing. -/
theorem not_relaxes_addOptional_overlong :
    let o : ObjectConverter := ⟨[("a", .string), ("b", .string)], []⟩
    let p := o.addOptional ["a"]
    let v : Value := .dict (Value.keyed [("b", .list []), ("c", .int overlong)])
    p.toConverter.convert v = .ok (fail .conversion "Field b: Not a string: []") ∧
      o.toConverter.convert v = .error .tooLong ∧ ¬ p.Relaxes o v := by
  intro o p v
  have unwritable : v.writable = false := by
    simp [v, Value.keyed, Value.writable, Value.writableEntries, withinDigitLimit_overlong]
  have absent : v.project? "a" = none := Value.get?_keyed _ _
  have present : v.project? "b" = some (.list []) := Value.get?_keyed _ _
  have skipped : (p.extractor ("a", .string)).2.convert v = .ok (.ok .none) :=
    (convert_extractor_of_absent rfl absent).trans rfl
  have refused : (p.extractor ("b", .string)).2.convert v =
      .ok (fail .conversion "Field b: Not a string: []") :=
    (convert_extractor_of_present rfl present).trans rfl
  have missing : (o.extractor ("a", .string)).2.convert v = .error .tooLong := by
    refine (convert_extractor_of_absent rfl absent).trans ?_
    rw [if_neg (by decide), reject, Value.describe_of_unwritable unwritable]
    rfl
  have before : o.toConverter.convert v = .error .tooLong :=
    Converter.transform_cons_eq_error missing
  have asked : Converter.eachKey v (p.fields.map p.extractor) =
      .ok [("a", .ok .none), ("b", fail .conversion "Field b: Not a string: []")] :=
    Converter.eachKey_eq_ok_iff.mpr (.cons ⟨rfl, skipped⟩ (.cons ⟨rfl, refused⟩ .nil))
  have after : p.toConverter.convert v = .ok (fail .conversion "Field b: Not a string: []") :=
    Converter.transform_eq_ok_iff.mpr ⟨_, asked, rfl⟩
  refine ⟨after, before, fun relaxes => ?_⟩
  cases before.symm.trans (relaxes.loses _ after).2.2

end ObjectConverter
end LineCommand
