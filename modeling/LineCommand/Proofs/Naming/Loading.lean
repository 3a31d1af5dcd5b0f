import LineCommand.Proofs.Naming.Registering
import LineCommand.Proofs.Value.Dictionary

/-! Registries that are loaded from a dictionary. Every entry either declares a field that is registered
or has one problem, and the registry is there only if no entry has one. What stands against an entry is
in the entry itself, or in the name of a field that is registered before; entries that have a problem
are of no account for those behind them. -/
namespace LineCommand

/-! ### Refusals -/

/-- A table refuses a text as a name if it has no normal form, or one that a call in it has. -/
theorem NameTable.Lists.message_of_refused {α : Type} {t : NameTable α} {calls : List (Value × α)}
    (lists : t.Lists calls) {name : String} {value : α} {failure : Failure}
    (refused : t.add (.text name) value = .error failure) :
    (¬ HasNormalForm (.text name) ∧
        failure.message = s!"Cannot normalize empty name {Text.quoted name}.") ∨
      ∃ call ∈ calls, SameName call.1 (.text name) ∧ failure.message =
        s!"Duplicate name {Text.quoted name} (already registered as {Text.quoted call.1.plain})." := by
  unfold NameTable.add at refused
  split at refused
  case h_1 reason unnamed =>
    cases refused
    refine .inl ⟨fun ⟨key, normal⟩ => ?_, ?_⟩
    · cases unnamed.symm.trans normal
    · unfold normalizeName Value.text? at unnamed
      dsimp only at unnamed
      split at unnamed <;> cases unnamed
      rfl
  case h_2 key normal =>
    right
    split at refused
    case h_2 => cases refused
    case h_1 entry found =>
      cases refused
      obtain ⟨member, keyed⟩ := (NameTable.find?_eq_some_iff lists.unique).mp found
      have made : (normalForm entry.key, entry.spelling, entry.value) ∈
          calls.map fun call => (normalizeName call.1, call.1.plain, call.2) := by
        rw [lists.entries]
        exact List.mem_map_of_mem member
      obtain ⟨call, old, same⟩ := List.mem_map.mp made
      simp only [Prod.mk.injEq] at same
      obtain ⟨normal', spelled, -⟩ := same
      refine ⟨call, old, ⟨key, ?_, normal⟩, ?_⟩
      · rw [normal', normalForm, keyed]
      · rw [spelled]
        rfl

/-! ### Declarations -/

theorem Field.create_eq_ok_iff {text : String} {pattern optional embedded : Value} {f : Field} :
    Field.create (.text text) pattern optional embedded = .ok f ↔
      f.name = Text.trimmed text ∧ f.name ≠ "" ∧ pattern.text? = some f.pattern ∧ f.pattern ≠ "" ∧
        f.optional = optional.isTrue ∧ embedded = .int f.embedded ∧ 0 ≤ f.embedded := by
  obtain ⟨name, fragment, left, count⟩ := f
  have said : (Value.text text).text? = some text := rfl
  constructor
  · intro created
    rw [create, said] at created
    dsimp only at created
    split at created
    case isTrue => cases created
    split at created
    case h_1 => cases created
    split at created
    case isTrue => cases created
    split at created
    case h_2 => cases created
    split at created
    case isTrue => cases created
    case isFalse named _ _ worded filled _ _ counted =>
      cases created
      rw [String.isEmpty_iff] at named filled
      exact ⟨rfl, named, worded, filled, rfl, rfl, Int.not_lt.mp counted⟩
  · rintro ⟨rfl, named, worded, filled, rfl, rfl, counted⟩
    dsimp only at named worded filled counted
    rw [create, said, worded]
    simp [named, filled, counted]

namespace FieldRegistry

variable {e : Value × Value} {f : Field}

/-- A definition makes a field under a name. The field is called that without the blanks around it, and
has what the definition says; a part that is not there says nothing, or that the field is needed, or
that its fragment has no groups. -/
structure Defines (name : Value) (parts : List (Value × Value)) (f : Field) : Prop where
  name_eq : f.name = Text.trimmed name.plain
  named : f.name ≠ ""
  pattern_eq : ((Value.get? parts "pattern").getD .none).text? = some f.pattern
  filled : f.pattern ≠ ""
  optional_eq : f.optional = ((Value.get? parts "optional").getD (.bool false)).isTrue
  embedded_eq : (Value.get? parts "embedded_captures").getD (.int 0) = .int f.embedded
  counted : 0 ≤ f.embedded

/-- An entry of a dictionary declares a field: its value is a dictionary too, which defines the field
under the key. -/
def Declares (e : Value × Value) (f : Field) : Prop :=
  ∃ parts, e.2 = .dict parts ∧ Defines e.1 parts f

theorem declares_iff : Declares e f ↔ fieldOf e.1 e.2 = .ok f := by
  obtain ⟨name, spec⟩ := e
  cases spec with
  | dict parts =>
    dsimp only [fieldOf]
    rw [Field.create_eq_ok_iff]
    constructor
    · rintro ⟨_, ⟨⟩, defines⟩
      exact ⟨defines.name_eq, defines.named, defines.pattern_eq, defines.filled,
        defines.optional_eq, defines.embedded_eq, defines.counted⟩
    · rintro ⟨name, named, pattern, filled, optional, embedded, counted⟩
      exact ⟨parts, rfl, name, named, pattern, filled, optional, embedded, counted⟩
  | _ => simp [Declares, fieldOf]

theorem Declares.eq {g : Field} (declares : Declares e f) (other : Declares e g) : f = g :=
  Except.ok.inj ((declares_iff.mp declares).symm.trans (declares_iff.mp other))

/-! ### Entries one by one -/

/-- The fields that are registered, in order, each under its own name. -/
abbrev ListsFields (r : FieldRegistry) (fields : List Field) : Prop :=
  r.Lists (fields.map fun f => (.text f.name, f))

/-- An entry behind others of which some fields are taken: it declares a field that can be registered
along with these. -/
structure Accepts (taken : List Field) (e : Value × Value) (f : Field) : Prop where
  declares : Declares e f
  usable : HasNormalForm (.text f.name)
  fresh : ∀ g ∈ taken, ¬ SameName (.text g.name) (.text f.name)

/-- What stands against an entry behind others of which some fields are taken. -/
inductive Ails (taken : List Field) (e : Value × Value) : String → Prop
  | malformed {failure : Failure} (refused : fieldOf e.1 e.2 = .error failure) :
    Ails taken e failure.message
  | unusable {f : Field} (declares : Declares e f) (unnamed : ¬ HasNormalForm (.text f.name)) :
    Ails taken e s!"Cannot normalize empty name {Text.quoted f.name}."
  | repeated {f g : Field} (declares : Declares e f) (old : g ∈ taken)
      (same : SameName (.text g.name) (.text f.name)) :
    Ails taken e
      s!"Duplicate name {Text.quoted f.name} (already registered as {Text.quoted g.name})."

/-- Entries one after the other, the fields of those that are accepted, and the problems of the others.
Only fields are taken along to the entries behind. -/
inductive Sorts : List Field → List (Value × Value) → List Field → List String → Prop
  | done {taken} : Sorts taken [] [] []
  | field {taken e f entries fields problems} (accepts : Accepts taken e f)
      (rest : Sorts (taken ++ [f]) entries fields problems) :
    Sorts taken (e :: entries) (f :: fields) problems
  | problem {taken e problem entries fields problems} (ails : Ails taken e problem)
      (rest : Sorts taken entries fields problems) :
    Sorts taken (e :: entries) fields (problem :: problems)

variable {r : FieldRegistry} {taken fields : List Field} {entries : List (Value × Value)}
  {problems : List String}

theorem Accepts.not_ails (accepts : Accepts taken e f) {problem : String} : ¬ Ails taken e problem := by
  rintro (refused | ⟨declares, unnamed⟩ | ⟨declares, old, same⟩)
  · cases (declares_iff.mp accepts.declares).symm.trans refused
  · exact unnamed (declares.eq accepts.declares ▸ accepts.usable)
  · exact accepts.fresh _ old (declares.eq accepts.declares ▸ same)

/-- Nothing stands against entries that declare fields with usable names, all of them different. -/
theorem sorts_nil_iff : Sorts taken entries fields [] ↔
    List.Forall₂ Declares entries fields ∧ (∀ f ∈ fields, HasNormalForm (.text f.name)) ∧
      (fields.Pairwise fun f g => ¬ SameName (.text f.name) (.text g.name)) ∧
      ∀ g ∈ taken, ∀ f ∈ fields, ¬ SameName (.text g.name) (.text f.name) := by
  induction entries generalizing taken fields with
  | nil =>
    constructor
    · rintro ⟨⟩
      simp
    · rintro ⟨⟨⟩, -⟩
      exact .done
  | cons e entries ih =>
    constructor
    · rintro (_ | ⟨⟨declares, usable, fresh⟩, rest⟩)
      obtain ⟨all, named, apart, new⟩ := ih.mp rest
      refine ⟨.cons declares all, ?_, ?_, ?_⟩
      · exact List.forall_mem_cons.mpr ⟨usable, named⟩
      · exact .cons (new _ (by simp)) apart
      · intro g old
        exact List.forall_mem_cons.mpr ⟨fresh g old, new g (by simp [old])⟩
    · rintro ⟨_ | ⟨declares, all⟩, named, apart, new⟩
      obtain ⟨usable, named⟩ := List.forall_mem_cons.mp named
      obtain ⟨first, apart⟩ := List.pairwise_cons.mp apart
      have fresh := fun g old => new g old _ List.mem_cons_self
      refine .field ⟨declares, usable, fresh⟩ (ih.mpr ⟨all, named, apart, ?_⟩)
      intro g old f later
      obtain old | rfl := by simpa using old
      · exact new g old f (by simp [later])
      · exact first f later

/-- Entries are sorted without a problem in one way only. -/
theorem Sorts.eq_nil (sorts : Sorts taken entries fields []) {others : List Field}
    (sorted : Sorts taken entries others problems) : problems = [] := by
  induction entries generalizing taken fields others with
  | nil =>
    cases sorted
    rfl
  | cons e entries ih =>
    obtain _ | ⟨accepts, rest⟩ := sorts
    cases sorted with
    | problem ails _ => exact absurd ails accepts.not_ails
    | field accepted rest' =>
      obtain rfl := accepts.declares.eq accepted.declares
      exact ih rest rest'

/-! ### Entering -/

/-- An entry is accepted and its field is registered, or something stands against it. -/
theorem enter_cases (lists : ListsFields r taken) (e : Value × Value) :
    (∃ f u, (fieldOf e.1 e.2).bind (addField r) = .ok u ∧ Accepts taken e f ∧
      ListsFields u (taken ++ [f])) ∨
    ∃ failure, (fieldOf e.1 e.2).bind (addField r) = .error failure ∧ Ails taken e failure.message := by
  cases made : fieldOf e.1 e.2 with
  | error failure => exact .inr ⟨failure, rfl, .malformed made⟩
  | ok f =>
    have declares := declares_iff.mpr made
    rw [Except.bind, addField]
    cases added : NameTable.add r (.text f.name) f with
    | ok u =>
      obtain ⟨usable, fresh⟩ := lists.accepts_iff.mp ⟨u, added⟩
      refine .inl ⟨f, u, rfl, ⟨declares, usable, ?_⟩, ?_⟩
      · intro g old
        exact fresh (.text g.name, g) (List.mem_map_of_mem old)
      · simpa [ListsFields] using lists.add added
    | error failure =>
      refine .inr ⟨failure, rfl, ?_⟩
      obtain ⟨unnamed, worded⟩ | ⟨call, old, same, worded⟩ := lists.message_of_refused added
      · rw [worded]
        exact .unusable declares unnamed
      · obtain ⟨g, registered, rfl⟩ := List.mem_map.mp old
        have ails := Ails.repeated declares registered same
        rw [worded]
        exact ails

theorem sorts_fill (lists : ListsFields r taken) : ∃ fields,
    Sorts taken entries fields (Outcome.messages (fill r entries).2) ∧
      ListsFields (fill r entries).1 (taken ++ fields) := by
  induction entries generalizing r taken with
  | nil =>
    refine ⟨[], .done, ?_⟩
    rwa [List.append_nil]
  | cons e entries ih =>
    obtain ⟨f, u, entered, accepts, lists⟩ | ⟨failure, refused, ails⟩ := enter_cases lists e
    · obtain ⟨fields, sorts, lists⟩ := ih lists
      simp only [fill, entered]
      refine ⟨f :: fields, .field accepts sorts, ?_⟩
      simpa using lists
    · obtain ⟨fields, sorts, lists⟩ := ih lists
      simp only [fill, refused]
      exact ⟨fields, .problem ails sorts, lists⟩

/-- Either everything is registered, or all problems there are make up one failure. -/
theorem sorts_ofEntries (entries : List (Value × Value)) : ∃ fields problems,
    Sorts [] entries fields problems ∧
      ((∃ r, ofEntries entries = .ok r ∧ problems = [] ∧ ListsFields r fields) ∨
        ofEntries entries = .error (.of .configuration (Text.joined "\n" problems)) ∧
          problems ≠ []) := by
  obtain ⟨fields, sorts, lists⟩ := @sorts_fill NameTable.empty [] entries (NameTable.lists_nil rfl)
  refine ⟨fields, _, sorts, ?_⟩
  unfold ofEntries Outcome.allSucceed Outcome.all
  cases reported : Outcome.messages (fill NameTable.empty entries).2 with
  | nil =>
    refine .inl ⟨_, ?_, rfl, lists⟩
    simp [reported, Outcome.withKind, Except.map, Except.mapError]
  | cons problem problems =>
    refine .inr ⟨?_, List.cons_ne_nil _ _⟩
    simp [reported, Outcome.withKind, Except.map, Except.mapError]

/-! ### Loading -/

theorem exists_ofEntries_iff : (∃ r, ofEntries entries = .ok r) ↔
    ∃ fields, List.Forall₂ Declares entries fields ∧ (∀ f ∈ fields, HasNormalForm (.text f.name)) ∧
      fields.Pairwise fun f g => ¬ SameName (.text f.name) (.text g.name) := by
  obtain ⟨fields, problems, sorts, result⟩ := sorts_ofEntries entries
  constructor
  · rintro ⟨r, made⟩
    obtain ⟨_, -, rfl, -⟩ | ⟨failed, -⟩ := result
    · obtain ⟨all, named, apart, -⟩ := sorts_nil_iff.mp sorts
      exact ⟨fields, all, named, apart⟩
    · cases made.symm.trans failed
  · rintro ⟨others, all, named, apart⟩
    have clean : Sorts [] entries others [] := sorts_nil_iff.mpr ⟨all, named, apart, by simp⟩
    obtain ⟨r, made, -⟩ | ⟨-, faulty⟩ := result
    · exact ⟨r, made⟩
    · exact absurd (clean.eq_nil sorts) faulty

theorem listsFields_of_ofEntries (made : ofEntries entries = .ok r) :
    List.Forall₂ Declares entries r.values ∧ ListsFields r r.values := by
  obtain ⟨fields, problems, sorts, ⟨s, same, rfl, lists⟩ | ⟨failed, -⟩⟩ := sorts_ofEntries entries
  · obtain rfl : r = s := Except.ok.inj (made.symm.trans same)
    have values : r.values = fields := by
      rw [lists.values_eq, List.map_map]
      exact List.map_id fields
    rw [values]
    exact ⟨(sorts_nil_iff.mp sorts).1, lists⟩
  · cases failed.symm.trans made

theorem problems_of_ofEntries {failure : Failure} (failed : ofEntries entries = .error failure) :
    ∃ fields problems, Sorts [] entries fields problems ∧ problems ≠ [] ∧
      failure = .of .configuration (Text.joined "\n" problems) := by
  obtain ⟨fields, problems, sorts, ⟨r, made, -⟩ | ⟨same, faulty⟩⟩ := sorts_ofEntries entries
  · cases made.symm.trans failed
  · exact ⟨fields, problems, sorts, faulty, Except.error.inj (failed.symm.trans same)⟩

/-- Loading is all or nothing, and complete: there is a registry exactly if every entry declares a field,
all of them with usable names, none of which have one normal form. It lists these fields in order.
Otherwise there is a failure, in which one line tells the problem of each entry that is not accepted,
in order. -/
structure LoadsWhole (entries : List (Value × Value)) : Prop where
  answers : ∃ o, load entries = .ok o
  succeeds : (∃ r, load entries = .ok (.ok r)) ↔
    ∃ fields, List.Forall₂ Declares entries fields ∧ (∀ f ∈ fields, HasNormalForm (.text f.name)) ∧
      fields.Pairwise fun f g => ¬ SameName (.text f.name) (.text g.name)
  lists : ∀ r, load entries = .ok (.ok r) →
    List.Forall₂ Declares entries r.values ∧ ListsFields r r.values
  reports : ∀ failure, load entries = .ok (.error failure) → ∃ fields problems,
    Sorts [] entries fields problems ∧ problems ≠ [] ∧
      failure = .of .configuration (Text.joined "\n" problems)

/-- Registries are loaded as they should be, unless something would have to be said about an entry in
which an integer is too long to be written. -/
theorem loadsWhole_iff {entries : List (Value × Value)} :
    LoadsWhole entries ↔ ∀ e ∈ entries, citable e.1 e.2 = true := by
  constructor
  · intro whole
    obtain ⟨o, loaded⟩ := whole.answers
    exact (load_eq_ok_iff.mp loaded).1
  · intro writable
    have same {o : Outcome FieldRegistry} : load entries = .ok o ↔ ofEntries entries = o := by
      rw [load_eq_ok_iff, and_iff_right writable]
    constructor <;> simp only [same]
    case answers => exact ⟨_, rfl⟩
    case succeeds => exact exists_ofEntries_iff
    case lists => exact fun _ => listsFields_of_ofEntries
    case reports => exact fun _ => problems_of_ofEntries

/-- A registry is not loaded where a count is negative and has more digits than can be written. -/
theorem not_loadsWhole_overlong :
    let count : Int := -(Nat.pow 10 digitLimit : Nat)
    ¬ LoadsWhole [(.text "a",
      .dict (Value.keyed [("pattern", .text "x"), ("embedded_captures", .int count)]))] := by
  intro count whole
  obtain ⟨o, loaded⟩ := whole.answers
  have cited := (load_eq_ok_iff.mp loaded).1 _ (List.mem_singleton_self _)
  have made : Field.create (.text "a") (.text "x") .none (.int 0) = .ok ⟨"a", "x", false, 0⟩ :=
    Field.create_eq_ok_iff.mpr ⟨by decide +kernel, by decide, rfl, by decide, rfl, rfl, le_rfl⟩
  have positive (digits : Nat) : 0 < Nat.pow 10 digits := Nat.pow_pos (by decide)
  have negative : count < 0 := Int.neg_neg_of_pos (Int.natCast_pos.mpr (positive digitLimit))
  have overlong : withinDigitLimit count = false := by
    simp only [withinDigitLimit, count, Int.natAbs_neg, Int.natAbs_natCast, lt_irrefl, decide_false]
  clear_value count
  have given : [("pattern", Value.text "x"), ("embedded_captures", .int count)].lookup
      "embedded_captures" = some (.int count) := rfl
  simp [citable, Value.get?_keyed, Value.plain, given, Field.citable, made, overlong,
    negative.not_ge] at cited

end FieldRegistry
end LineCommand
