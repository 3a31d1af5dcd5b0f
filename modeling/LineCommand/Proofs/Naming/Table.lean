import Mathlib.Data.List.Nodup
import LineCommand.Name
import LineCommand.Proofs.Text.Words

/-! What every table of names looks like: each entry stands under the normal form of its spelling,
and no normal form occurs twice. -/
namespace LineCommand

/-- The normal form of a name does not depend on how it was given. -/
theorem normalizeName_ok {name : Value} {key : String} (normal : normalizeName name = .ok key) :
    ∃ text, name.text? = some text ∧ key = nameKey text := by
  unfold normalizeName at normal
  split at normal
  case h_1 => cases normal
  case h_2 text found =>
    dsimp only at normal
    split at normal
    · cases normal
    · exact ⟨text, found, (Except.ok.inj normal).symm⟩

/-- Padding does not count. -/
theorem nameKey_trimmed (name : String) : nameKey (Text.trimmed name) = nameKey name := by
  simp only [nameKey, Text.trimmed, String.toList_ofList, Text.trim_trim]

theorem normalizeName_eq_ok_iff {name key : String} :
    normalizeName (.text name) = .ok key ↔ nameKey name = key ∧ nameKey name ≠ "" := by
  unfold normalizeName
  by_cases unnamed : nameKey name = "" <;> simp [Value.text?, unnamed]

namespace NameTable

variable {α : Type}

/-- What registering keeps of a table. -/
structure Proper (t : NameTable α) : Prop where
  normal : ∀ e ∈ t.entries, normalizeName (.text e.spelling) = .ok e.key
  unique : (t.entries.map (·.key)).Nodup

theorem proper_empty : (empty : NameTable α).Proper where
  normal := by simp [empty]
  unique := List.nodup_nil

theorem find?_eq_none_iff {t : NameTable α} {key : String} :
    t.find? key = none ↔ key ∉ t.entries.map (·.key) := by
  simp [find?]

/-- Where no normal form occurs twice, an entry is found under its own. -/
theorem find?_eq_some_iff {t : NameTable α} (unique : (t.entries.map (·.key)).Nodup) {key : String}
    {entry : NameEntry α} : t.find? key = some entry ↔ entry ∈ t.entries ∧ entry.key = key := by
  constructor
  · intro found
    exact ⟨List.mem_of_find?_eq_some found, by simpa using List.find?_some found⟩
  · rintro ⟨member, rfl⟩
    cases found : t.find? entry.key with
    | none => exact absurd (List.mem_map_of_mem member) (find?_eq_none_iff.mp found)
    | some other =>
      have same : other.key = entry.key := by simpa using List.find?_some found
      rw [List.inj_on_of_nodup_map unique (List.mem_of_find?_eq_some found) member same]

theorem get?_eq_some_iff {t : NameTable α} (unique : (t.entries.map (·.key)).Nodup) {name : Value}
    {value : α} : t.get? name = some value ↔
      ∃ key, normalizeName name = .ok key ∧ ∃ e ∈ t.entries, e.key = key ∧ e.value = value := by
  unfold get?
  cases normalizeName name with
  | error failure => simp
  | ok key =>
    simp only [Option.map_eq_some_iff, find?_eq_some_iff unique, Except.ok.injEq, exists_eq_left',
      and_assoc]

/-- Registering adds one entry at the end, whose normal form was free. -/
theorem add_eq_ok_iff {t u : NameTable α} {name : Value} {value : α} :
    t.add name value = .ok u ↔
      ∃ key, normalizeName name = .ok key ∧ key ∉ t.entries.map (·.key) ∧
        u = ⟨t.entries ++ [⟨key, name.plain, value⟩]⟩ := by
  unfold add
  cases normal : normalizeName name with
  | error failure => simp [fail]
  | ok key =>
    simp only [Except.ok.injEq, exists_eq_left']
    cases found : t.find? key with
    | none =>
      have free := find?_eq_none_iff.mp found
      simp only [Except.ok.injEq, free, not_false_eq_true, true_and]
      exact eq_comm
    | some entry =>
      have taken : ¬ key ∉ t.entries.map (·.key) := by
        rw [← find?_eq_none_iff, found]
        exact Option.some_ne_none entry
      simp only [taken, false_and, iff_false, fail]
      exact fun added => nomatch added

theorem Proper.add {t u : NameTable α} (proper : t.Proper) {text : String} {value : α}
    (added : t.add (.text text) value = .ok u) : u.Proper := by
  obtain ⟨key, normal, free, rfl⟩ := add_eq_ok_iff.mp added
  constructor
  · intro e member
    obtain old | new := List.mem_append.mp member
    · exact proper.normal e old
    · obtain rfl := List.mem_singleton.mp new
      exact normal
  · rw [List.map_append, List.nodup_append]
    refine ⟨proper.unique, List.nodup_singleton _, ?_⟩
    rintro a old b new rfl
    obtain rfl := List.mem_singleton.mp new
    exact free old

/-- No spelling occurs twice. -/
theorem Proper.nodup_names {t : NameTable α} (proper : t.Proper) : t.names.Nodup := by
  refine List.Nodup.of_map (fun name => nameKey name) ?_
  have keys : t.names.map (fun name => nameKey name) = t.entries.map (·.key) := by
    rw [names, List.map_map]
    refine List.map_congr_left fun e member => ?_
    obtain ⟨text, spelled, key⟩ := normalizeName_ok (proper.normal e member)
    cases spelled
    exact key.symm
  rw [keys]
  exact proper.unique

theorem mem_values_of_get? {table : NameTable α} {name : Value} {value : α}
    (found : table.get? name = some value) : value ∈ table.values := by
  unfold get? at found
  split at found
  · cases found
  · obtain ⟨entry, entered, rfl⟩ := Option.map_eq_some_iff.mp found
    exact List.mem_map_of_mem (List.mem_of_find?_eq_some entered)

end NameTable
end LineCommand
