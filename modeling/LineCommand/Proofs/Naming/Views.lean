import LineCommand.Proofs.Naming.Registering

/-! What a table of values tells of a name: whether it holds a value under it, whether the value is found,
and whether the name is taken. A name is taken by the names that were given, whatever is registered
under them; the other two go by the value, and an absent value is to them as if nothing were there. -/
namespace LineCommand

theorem SameName.symm {a b : Value} (same : SameName a b) : SameName b a := by
  obtain ⟨key, here, there⟩ := same
  exact ⟨key, there, here⟩

namespace NameTable

section

variable {α : Type} {t : NameTable α} {done : List (Value × α)} {name : Value} {value : α}

/-- A name is taken if a name that was given has its normal form. -/
def Taken (given : List Value) (name : Value) : Prop := ∃ other ∈ given, SameName other name

theorem Lists.exists_get?_iff (lists : t.Lists done) :
    (∃ value, t.get? name = some value) ↔ Taken (done.map (·.1)) name := by
  constructor
  · rintro ⟨value, found⟩
    obtain ⟨call, member, same, _⟩ := lists.found_iff.mp found
    exact ⟨call.1, List.mem_map_of_mem member, same.symm⟩
  · rintro ⟨other, member, same⟩
    obtain ⟨call, listed, rfl⟩ := List.mem_map.mp member
    exact ⟨call.2, lists.found_iff.mpr ⟨call, listed, same.symm, rfl⟩⟩

/-- A name that is taken is refused as such, and no other name is. -/
theorem Lists.refuses_iff (lists : t.Lists done) :
    (∃ message, t.add name value = fail .duplicateName message) ↔ Taken (done.map (·.1)) name := by
  constructor
  · rintro ⟨message, refused⟩
    have named : HasNormalForm name := by
      by_contra unnamed
      obtain ⟨reason, failed⟩ : ∃ reason, t.add name value = fail .configuration reason :=
        add_of_unnamed unnamed
      rw [refused] at failed
      cases failed
    by_contra free
    obtain ⟨u, added⟩ : ∃ u, t.add name value = .ok u := lists.accepts_iff.mpr
      ⟨named, fun earlier member same => free ⟨earlier.1, List.mem_map_of_mem member, same⟩⟩
    rw [refused] at added
    cases added
  · rintro ⟨other, member, same⟩
    obtain ⟨call, listed, rfl⟩ := List.mem_map.mp member
    cases added : t.add name value with
    | ok u => exact absurd same ((lists.accepts_iff.mp ⟨u, added⟩).2 call listed)
    | error failure =>
      obtain ⟨key, _, normal⟩ := same
      obtain ⟨kind, _⟩ := failure_of_taken ⟨key, normal⟩ added
      refine ⟨failure.message, ?_⟩
      rw [fail, Failure.of, ← kind]

end

/-! ### Tables of values -/

variable {t : NameTable Value} {done : List (Value × Value)} {name value : Value}

theorem value?_eq_some_iff : t.value? name = some value ↔ t.get? name = some value ∧ value ≠ .none := by
  rw [value?, Option.filter_eq_some_iff]
  cases value <;> simp [Value.isNone]

theorem getStrict_eq_ok_iff : t.getStrict name = .ok (.ok value) ↔ t.value? name = some value := by
  unfold getStrict
  cases t.value? name with
  | some found => simp
  | none => cases name.shown <;> simp [bind, Except.bind]

theorem text_of_get? (found : t.get? name = some value) : name.text?.isSome = true := by
  unfold get? at found
  cases normal : normalizeName name with
  | error failure =>
    rw [normal] at found
    cases found
  | ok key =>
    obtain ⟨text, given, _⟩ := normalizeName_ok normal
    rw [given]
    rfl

theorem holdsValue_iff : t.holdsValue name = true ↔ ∃ value, t.value? name = some value := by
  rw [holdsValue, Bool.and_eq_true, @Option.isSome_iff_exists _ (t.value? name)]
  constructor
  · exact And.right
  · rintro ⟨value, found⟩
    exact ⟨text_of_get? (value?_eq_some_iff.mp found).1, value, found⟩

/-- Whether a table holds a value under a name, whether it finds one, and whether it refuses the name
as taken: one question, which the names that were given answer. -/
structure ViewsAgree (t : NameTable Value) (given : List Value) (name : Value) : Prop where
  holds : t.holdsValue name = true ↔ Taken given name
  finds : (∃ value, t.getStrict name = .ok (.ok value)) ↔ Taken given name
  refuses : ∀ value, (∃ message, t.add name value = fail .duplicateName message) ↔ Taken given name

theorem Lists.viewsAgree_iff (lists : t.Lists done) :
    t.ViewsAgree (done.map (·.1)) name ↔ t.get? name ≠ some .none := by
  have present : (∃ value, t.value? name = some value) ↔
      Taken (done.map (·.1)) name ∧ t.get? name ≠ some .none := by
    rw [← lists.exists_get?_iff]
    simp only [value?_eq_some_iff]
    constructor
    · rintro ⟨value, found, some⟩
      exact ⟨⟨value, found⟩, by rw [found]; simpa using some⟩
    · rintro ⟨⟨value, found⟩, some⟩
      exact ⟨value, found, by rw [found] at some; simpa using some⟩
  constructor
  · intro agree absent
    have taken := lists.exists_get?_iff.mp ⟨_, absent⟩
    exact (present.mp (holdsValue_iff.mp (agree.holds.mpr taken))).2 absent
  · intro some
    have values : (∃ value, t.value? name = .some value) ↔ Taken (done.map (·.1)) name := by
      rw [present, and_iff_left some]
    refine ⟨holdsValue_iff.trans values, ?_, fun _ => lists.refuses_iff⟩
    simp only [getStrict_eq_ok_iff, values]

end NameTable

theorem Registry.sublist_run {σ β α : Type} (r : Registry σ β α) (s : σ) (calls : List β) :
    (r.run s calls).2.Sublist calls := by
  induction calls using List.reverseRecOn with
  | nil => exact .slnil
  | append_singleton calls call ih =>
    rw [run, List.foldl_concat, ← run, perform]
    split
    · exact ih.append (.refl _)
    · exact ih.trans (List.sublist_append_left ..)

namespace NameTable

/-- After any names and values have been registered, the table lists the names that took effect, in
order. It refuses a name as taken exactly if one of these has its normal form, and the other two views
of the table agree with that about every name but those under which an absent value was registered. -/
theorem viewsAgree_iff_present (calls : List (Value × Value)) :
    let made := (Registry.ofNames Value).run .empty calls
    let t := made.1
    let given := made.2.map (·.1)
    t.names = given.map Value.plain ∧
    ((∀ call ∈ calls, ∃ s, call.1 = .text s) → given = t.names.map .text) ∧
    (∀ name value, (∃ message, t.add name value = fail .duplicateName message) ↔ Taken given name) ∧
    (∀ name, t.holdsValue name = true ↔ ∃ value, t.getStrict name = .ok (.ok value)) ∧
    ∀ name, t.ViewsAgree given name ↔ t.get? name ≠ some .none := by
  intro made t given
  have lists : t.Lists made.2 := by
    have none : ((Registry.ofNames Value).table .empty).entries = [] := rfl
    have listed := Registry.lawful_ofNames.lists_run none calls
    rwa [Registry.ofNames, List.map_id] at listed
  have names : t.names = given.map Value.plain := by rw [lists.spellings, List.map_map]; rfl
  refine ⟨names, fun texts => ?_, fun _ _ => lists.refuses_iff, fun name => ?_,
    fun _ => lists.viewsAgree_iff⟩
  · rw [names, List.map_map]
    refine (List.map_id' _).symm.trans (List.map_congr_left fun name member => ?_)
    obtain ⟨call, listed, rfl⟩ := List.mem_map.mp member
    obtain ⟨s, text⟩ := texts call ((Registry.sublist_run ..).subset listed)
    rw [Function.comp_apply, text]
    rfl
  · simp only [holdsValue_iff, getStrict_eq_ok_iff]

/-- A name with an absent value is listed and taken, but neither held nor found. -/
theorem not_viewsAgree_absent :
    let t := ((Registry.ofNames Value).run .empty [(.text "a", .none)]).1
    t.names = ["a"] ∧ t.holdsValue (.text "a") = false ∧
      (∀ value, t.getStrict (.text "a") ≠ .ok (.ok value)) ∧
      t.add (.text "a") (.int 1) =
        fail .duplicateName "Duplicate name 'a' (already registered as 'a')." ∧
      ¬ t.ViewsAgree [.text "a"] (.text "a") := by
  intro t
  have normal : normalizeName (.text "a") = .ok "a" := normalizeName_eq_ok_iff.mpr (by decide +kernel)
  have made : t = ⟨[⟨"a", "a", .none⟩]⟩ := by
    have free : (empty : NameTable Value).find? "a" = none := rfl
    have added : (empty : NameTable Value).add (.text "a") .none = .ok ⟨[⟨"a", "a", .none⟩]⟩ := by
      simp only [add, normal, free]
      rfl
    change ((Registry.ofNames Value).perform (.empty, []) (.text "a", .none)).1 = _
    simp only [Registry.perform, Registry.ofNames, added]
    rfl
  have found : t.get? (.text "a") = some .none := by
    rw [made, get?, normal]
    rfl
  have absent : t.value? (.text "a") = none := by
    rw [value?, found]
    rfl
  have missing : t.holdsValue (.text "a") = false := by
    rw [holdsValue, absent]
    rfl
  have taken : Taken [.text "a"] (.text "a") := ⟨_, List.mem_singleton_self _, "a", normal, normal⟩
  refine ⟨by rw [made]; rfl, missing, ?_, ?_, ?_⟩
  · intro value strict
    rw [getStrict_eq_ok_iff, absent] at strict
    cases strict
  · have cited : (Value.text "a").written = "'a'" ∧ Text.quoted "a" = "'a'" := by decide +kernel
    have entry : t.find? "a" = some ⟨"a", "a", .none⟩ := by rw [made]; rfl
    simp only [add, normal, entry, cited.1, cited.2]
    rfl
  · intro agree
    have held := agree.holds.mpr taken
    rw [missing] at held
    cases held

end NameTable
end LineCommand
