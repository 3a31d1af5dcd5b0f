import LineCommand.Conversion.Collection
import LineCommand.Conversion.Primitive
import LineCommand.Proofs.Conversion.Object
import LineCommand.Proofs.Number.Integer
import LineCommand.Proofs.Value.Describing

/-! Conversions that end in an outcome. Failures describe what they are about, and what comes out of one
converter another may have to describe, so outcomes are followed together with whether the values in
them can be written. -/
namespace LineCommand

namespace Converter

/-- The answer is an outcome, and what comes out can be written. -/
def Settled (answer : Except Fault (Outcome Value)) : Prop :=
  ∃ o : Outcome Value, answer = .ok o ∧ ∀ w, o = .ok w → w.writable = true

variable {c : Converter} {v w : Value} {answer : Except Fault (Outcome Value)}

theorem settled_ok (writable : w.writable = true) : Settled (.ok (.ok w)) := by
  refine ⟨_, rfl, ?_⟩
  rintro _ ⟨⟩
  exact writable

theorem settled_error (failure : Failure) : Settled (.ok (.error failure)) := ⟨_, rfl, nofun⟩

theorem settled_reject (problem : String) (writable : v.writable = true) :
    Settled (reject problem v) := by
  obtain ⟨s, described⟩ := Value.exists_describe writable
  rw [reject, described]
  exact settled_error _

theorem Settled.answers (settled : Settled answer) : ∃ o, answer = .ok o :=
  settled.imp fun _ => And.left

theorem Settled.writable (settled : Settled answer) (made : answer = .ok (.ok w)) :
    w.writable = true := by
  obtain ⟨o, rfl, fits⟩ := settled
  exact fits w (Except.ok.inj made)

theorem Settled.bind {next : Outcome Value → Except Fault (Outcome Value)} (first : Settled answer)
    (ok : ∀ w, w.writable = true → Settled (next (.ok w)))
    (error : ∀ failure, Settled (next (.error failure))) : Settled (answer >>= next) := by
  obtain ⟨o, rfl, writable⟩ := first
  cases o with
  | ok w => exact ok w (writable w rfl)
  | error failure => exact error failure

/-! ### Single values -/

theorem settled_string (writable : v.writable = true) : Settled (string.convert v) := by
  unfold string
  dsimp only
  split
  · exact settled_ok writable
  · exact settled_reject _ writable

theorem settled_boolean (writable : v.writable = true) : Settled (boolean.convert v) := by
  unfold boolean
  dsimp only
  split
  · exact settled_ok rfl
  · split
    · exact settled_ok rfl
    · exact settled_ok rfl
    · exact settled_reject _ writable

theorem settled_enumerated {members : List Value} (fits : ∀ m ∈ members, m.writable = true)
    (writable : v.writable = true) : Settled ((enumerated members).convert v) := by
  unfold enumerated
  dsimp only
  split
  · rename_i m found
    exact settled_ok (fits m (List.mem_of_find?_eq_some found))
  · exact settled_reject _ writable

theorem settled_delimited {delimiter : String} (keepEmpty : Bool) (writable : v.writable = true)
    (cut : v.text?.isSome = true → delimiter ≠ "") :
    Settled ((delimited delimiter keepEmpty).convert v) := by
  unfold delimited
  dsimp only
  cases text : v.text? with
  | none => exact settled_reject _ writable
  | some s =>
    have filled : delimiter.isEmpty = false := by
      rw [String.isEmpty_eq_false_iff]
      exact cut (by rw [text]; rfl)
    rw [filled]
    refine settled_ok (Value.writableItems_iff.mpr fun x listed => ?_)
    obtain ⟨piece, _, rfl⟩ := List.mem_map.mp listed
    rfl

/-- A text is an integer of more digits than are read, with blanks around it or not. -/
def Overlong (s : String) : Prop :=
  digitLimit < (takeSign (Text.trim s.toList)).2.length ∧
    ∀ c ∈ (takeSign (Text.trim s.toList)).2, isAsciiDigit c = true

theorem exists_numberOf?_iff {s : String} :
    (∃ found, numberOf? s.toList = .ok found) ↔ ¬ Overlong s := by
  unfold numberOf? Overlong
  dsimp only
  cases read : canonicalInt? (Text.trim s.toList) with
  | none =>
    refine iff_of_true ⟨_, rfl⟩ fun ⟨long, digits⟩ => ?_
    obtain empty | ⟨c, listed, other⟩ := canonicalInt?_eq_none_iff.mp read
    · simp [empty] at long
    · simp [digits c listed] at other
  | some n =>
    have digits : ∀ c ∈ (takeSign (Text.trim s.toList)).2, isAsciiDigit c = true := by
      intro c listed
      by_contra other
      have none := canonicalInt?_eq_none_iff.mpr (.inr ⟨c, listed, by simpa using other⟩)
      cases none.symm.trans read
    dsimp only
    split
    case isTrue long => exact iff_of_false (by simp) fun short => short ⟨long, digits⟩
    case isFalse short => exact iff_of_true ⟨_, rfl⟩ fun long => short long.1

theorem writable_of_numberOf? {cs : List Char} (read : numberOf? cs = .ok (some w)) :
    w.writable = true := by
  unfold numberOf? at read
  dsimp only at read
  split at read
  · rename_i n canonical
    split at read
    case isTrue => cases read
    case isFalse short =>
      cases read
      exact withinDigitLimit_of_canonicalInt? canonical (Nat.not_lt.mp short)
  · obtain ⟨x, _, rfl⟩ := Option.map_eq_some_iff.mp (Except.ok.inj read)
    rfl

theorem settled_number (writable : v.writable = true) (short : ∀ s, v.text? = some s → ¬ Overlong s) :
    Settled (number.convert v) := by
  unfold number
  dsimp only
  split
  · exact settled_ok writable
  · exact settled_ok rfl
  · cases text : v.text? with
    | none => exact settled_reject _ writable
    | some s =>
      obtain ⟨found, read⟩ := exists_numberOf?_iff.mpr (short s text)
      rw [Option.map_some, Option.getD_some, read]
      cases found with
      | none => exact settled_reject _ writable
      | some w => exact settled_ok (writable_of_numberOf? read)

/-! ### Alternatives, arrays and records -/

theorem exists_firstOf {cs : List Converter} (onError : OnError)
    (each : ∀ c ∈ cs, Settled (c.convert v)) : ∃ found, firstOf onError v cs = .ok found ∧
      ∀ o, found = .inl o → Settled (.ok o) := by
  induction cs with
  | nil => exact ⟨_, rfl, nofun⟩
  | cons c rest ih =>
    obtain ⟨⟨o, here, fits⟩, others⟩ := List.forall_mem_cons.mp each
    obtain ⟨found, behind, good⟩ := ih others
    simp only [firstOf, here, behind, bind, Except.bind]
    cases o with
    | ok w =>
      cases absent : w.isNone with
      | true => exact ⟨found, by simp [absent], good⟩
      | false =>
        refine ⟨.inl (.ok w), by simp [absent], ?_⟩
        rintro _ ⟨⟩
        exact settled_ok (fits w rfl)
    | error failure =>
      cases onError with
      | failOnError =>
        refine ⟨_, rfl, ?_⟩
        rintro _ ⟨⟩
        exact settled_error failure
      | ignoreErrors =>
        cases found with
        | inl o => exact ⟨_, rfl, good⟩
        | inr messages => exact ⟨_, rfl, nofun⟩

theorem settled_oneOf {cs : List Converter} (onError : OnError) (writable : v.writable = true)
    (each : ∀ c ∈ cs, Settled (c.convert v)) : Settled ((oneOf cs onError).convert v) := by
  obtain ⟨found, searched, good⟩ := exists_firstOf onError each
  obtain ⟨s, described⟩ := Value.exists_describe writable
  unfold oneOf
  simp only [searched, bind, Except.bind]
  cases found with
  | inl o => exact good o rfl
  | inr messages =>
    simp only [described]
    exact settled_error _

theorem settled_harvest {α : Type} {h : Harvest α} {whole : List α → Value} (onError : OnError)
    (writable : (whole h.values).writable = true) : Settled (.ok (h.outcome onError whole)) := by
  unfold Harvest.outcome
  split
  · exact settled_error _
  · exact settled_ok writable

theorem exists_eachItem_iff {items : List Value} :
    (∃ h, eachItem c items = .ok h) ↔ ∀ x ∈ items, ∃ o, c.convert x = .ok o := by
  induction items with
  | nil => exact iff_of_true ⟨_, rfl⟩ nofun
  | cons x rest ih =>
    rw [List.forall_mem_cons, ← ih]
    constructor
    · rintro ⟨h, converted⟩
      obtain ⟨o, here, converted⟩ := except_bind_eq_ok_iff.mp converted
      obtain ⟨others, behind, _⟩ := except_bind_eq_ok_iff.mp converted
      exact ⟨⟨o, here⟩, others, behind⟩
    · rintro ⟨⟨o, here⟩, others, behind⟩
      simp only [eachItem, here, behind, bind, Except.bind]
      cases o <;> exact ⟨_, rfl⟩

/-- The values of a harvest are made of items. -/
theorem exists_of_mem_eachItem {items : List Value} {h : Harvest Value}
    (converted : eachItem c items = .ok h) :
    ∀ w ∈ h.values, ∃ x ∈ items, c.convert x = .ok (.ok w) := by
  induction items generalizing h with
  | nil =>
    cases converted
    nofun
  | cons x rest ih =>
    obtain ⟨o, here, converted⟩ := except_bind_eq_ok_iff.mp converted
    obtain ⟨others, behind, converted⟩ := except_bind_eq_ok_iff.mp converted
    have later : ∀ w ∈ others.values, ∃ y ∈ x :: rest, c.convert y = .ok (.ok w) := by
      intro w listed
      obtain ⟨y, member, made⟩ := ih behind w listed
      exact ⟨y, List.mem_cons_of_mem _ member, made⟩
    cases o with
    | error failure =>
      cases converted
      exact later
    | ok v =>
      cases converted
      split
      · exact later
      · exact List.forall_mem_cons.mpr ⟨⟨x, List.mem_cons_self, here⟩, later⟩

theorem settled_arrayOf (onError : OnError) (writable : v.writable = true)
    (each : ∀ items, items? v = some items → ∀ x ∈ items, Settled (c.convert x)) :
    Settled ((arrayOf c onError).convert v) := by
  unfold arrayOf
  dsimp only
  cases array : items? v with
  | none => exact settled_reject _ writable
  | some items =>
    have settled := each items array
    obtain ⟨h, converted⟩ := exists_eachItem_iff.mpr fun x listed => (settled x listed).answers
    dsimp only
    rw [converted]
    refine settled_harvest onError (Value.writableItems_iff.mpr fun w listed => ?_)
    obtain ⟨x, member, made⟩ := exists_of_mem_eachItem converted w listed
    exact (settled x member).writable made

theorem exists_eachEntry_iff {entries : List (Value × Value)} :
    (∃ h, eachEntry c entries = .ok h) ↔ ∀ e ∈ entries,
      (e.1.text?.isSome = false → e.1.writable = true) ∧
        (e.1.text?.isSome = true → ∃ o, c.convert e.2 = .ok o) := by
  induction entries with
  | nil => exact iff_of_true ⟨_, rfl⟩ nofun
  | cons e rest ih =>
    obtain ⟨key, item⟩ := e
    rw [List.forall_mem_cons, ← ih]
    simp only [eachEntry]
    cases key.text? with
    | none =>
      simp [except_bind_eq_ok_iff, ← Value.exists_describe_iff]
    | some name =>
      constructor
      · rintro ⟨h, converted⟩
        obtain ⟨o, here, converted⟩ := except_bind_eq_ok_iff.mp converted
        obtain ⟨others, behind, _⟩ := except_bind_eq_ok_iff.mp converted
        exact ⟨⟨nofun, fun _ => ⟨o, here⟩⟩, others, behind⟩
      · rintro ⟨⟨_, answers⟩, others, behind⟩
        obtain ⟨o, here⟩ := answers rfl
        simp only [here, behind, bind, Except.bind]
        cases o <;> exact ⟨_, rfl⟩

/-- The entries of a harvest are made of entries under the same texts. -/
theorem exists_of_mem_eachEntry {entries : List (Value × Value)} {h : Harvest (Value × Value)}
    (converted : eachEntry c entries = .ok h) : ∀ e ∈ h.values, ∃ item, (e.1, item) ∈ entries ∧
      e.1.text?.isSome = true ∧ c.convert item = .ok (.ok e.2) := by
  induction entries generalizing h with
  | nil =>
    cases converted
    nofun
  | cons first rest ih =>
    obtain ⟨key, item⟩ := first
    have later {others : Harvest (Value × Value)} (behind : eachEntry c rest = .ok others) :
        ∀ e ∈ others.values, ∃ item', (e.1, item') ∈ (key, item) :: rest ∧
          e.1.text?.isSome = true ∧ c.convert item' = .ok (.ok e.2) := by
      intro e listed
      obtain ⟨item', member, made⟩ := ih behind e listed
      exact ⟨item', List.mem_cons_of_mem _ member, made⟩
    unfold eachEntry at converted
    cases text : key.text? with
    | none =>
      rw [text] at converted
      obtain ⟨s, _, converted⟩ := except_bind_eq_ok_iff.mp converted
      obtain ⟨others, behind, converted⟩ := except_bind_eq_ok_iff.mp converted
      have further := later behind
      cases converted
      exact further
    | some name =>
      rw [text] at converted
      obtain ⟨o, here, converted⟩ := except_bind_eq_ok_iff.mp converted
      obtain ⟨others, behind, converted⟩ := except_bind_eq_ok_iff.mp converted
      have further := later behind
      cases o with
      | error failure =>
        cases converted
        exact further
      | ok w =>
        cases converted
        split
        · exact further
        · refine List.forall_mem_cons.mpr ⟨⟨item, List.mem_cons_self, ?_, here⟩, further⟩
          rw [text]
          rfl

theorem settled_recordOf (onError : OnError) (writable : v.writable = true)
    (each : ∀ entries, v = .dict entries → ∀ e ∈ entries, e.1.text?.isSome = true →
      Settled (c.convert e.2)) : Settled ((recordOf c onError).convert v) := by
  unfold recordOf
  dsimp only
  split
  · rename_i entries
    have parts := Value.writableEntries_iff.mp writable
    have settled := each entries rfl
    obtain ⟨h, converted⟩ := exists_eachEntry_iff.mpr fun e listed =>
      ⟨fun _ => (parts e listed).1, fun named => (settled e listed named).answers⟩
    rw [converted]
    refine settled_harvest onError (Value.writableEntries_iff.mpr fun e listed => ?_)
    obtain ⟨item, member, named, made⟩ := exists_of_mem_eachEntry converted e listed
    exact ⟨(parts _ member).1, (settled _ member named).writable made⟩
  · exact settled_reject _ writable

/-! ### Objects -/

theorem settled_inField (name : String) (settled : Settled answer) :
    Settled (answer.map (inField name)) := by
  obtain ⟨o, rfl, fits⟩ := settled
  cases o with
  | ok w => exact settled_ok (fits w rfl)
  | error failure => exact settled_error _

theorem settled_field (name : String) (writable : v.writable = true)
    (each : ∀ w, v.project? name = some w → Settled (c.convert w)) :
    Settled ((field name c).convert v) := by
  unfold field
  dsimp only
  split
  · exact settled_reject _ writable
  · cases found : v.project? name with
    | none => exact settled_reject _ writable
    | some w => exact settled_inField name (each w found)

theorem settled_optionalField (name : String) (writable : v.writable = true)
    (each : ∀ w, v.project? name = some w → Settled (c.convert w)) :
    Settled ((optionalField name c).convert v) := by
  unfold optionalField
  dsimp only
  split
  · exact settled_reject _ writable
  · cases found : v.project? name with
    | none => exact settled_ok rfl
    | some w =>
      refine (each w found).bind (fun x fits => settled_ok fits) fun failure => ?_
      dsimp only
      split
      · exact settled_ok rfl
      · exact settled_error _

theorem settled_transform {fields : List (String × Converter)}
    (each : ∀ f ∈ fields, Settled (f.2.convert v)) : Settled ((transform fields).convert v) := by
  obtain ⟨outcomes, asked⟩ := exists_eachKey_iff.mpr fun f listed => (each f listed).answers
  unfold transform
  dsimp only
  rw [asked]
  refine ⟨assembled outcomes, rfl, fun w made => ?_⟩
  rw [assembled_eq_ok made]
  refine Value.writableEntries_iff.mpr fun e listed => ⟨?_, ?_⟩
  all_goals obtain ⟨⟨key, x⟩, here, rfl⟩ := List.mem_map.mp listed
  · rfl
  · obtain ⟨c, member, converted⟩ := (mem_of_eachKey_iff asked).mp (mem_kept_iff.mp here).1
    exact (each _ member).writable converted

/-! ### Chains -/

theorem settled_optional (onError : OnError) (settled : Settled (c.convert v)) :
    Settled ((c.optional onError).convert v) := by
  unfold optional convertOptional
  dsimp only
  split
  · exact settled_ok rfl
  · refine settled.bind (fun w fits => settled_ok fits) fun failure => ?_
    cases onError with
    | ignoreErrors => exact settled_ok rfl
    | failOnError => exact settled_error failure

theorem settled_andThen {next : Converter} (settled : Settled (c.convert v))
    (others : ∀ w, w.writable = true → Settled (next.convert w)) :
    Settled ((c.andThen next).convert v) :=
  settled.bind others settled_error

theorem settled_judge {verdict : Value} (writable : w.writable = true)
    (fits : verdict.writable = true) : Settled (judge w verdict) := by
  obtain ⟨s, described⟩ := Value.exists_describe writable
  obtain ⟨s', described'⟩ := Value.exists_describe fits
  unfold judge
  split
  · exact settled_ok writable
  · rw [described]
    exact settled_error _
  · cases verdict with
    | success x => exact settled_ok fits
    | failure message detail => exact settled_error _
    | _ =>
      simp only [Outcome.ofValue?, described, described', bind, Except.bind]
      exact settled_error _

theorem settled_withConstraint {constraint : Callback} (settled : Settled (c.convert v))
    (rules : ∀ w, w.writable = true → ∃ verdict, constraint w = .ok verdict ∧
      verdict.writable = true) : Settled ((c.withConstraint constraint).convert v) := by
  refine settled.bind (fun w writable => ?_) settled_error
  obtain ⟨verdict, ruled, fits⟩ := rules w writable
  dsimp only
  rw [ruled]
  exact settled_judge writable fits

end Converter
end LineCommand
