import Mathlib.Data.List.Nodup
import LineCommand.Value.Basic

/-! Dictionaries whose keys are texts. Where no key occurs twice, entries made one after another are the
dictionary as they stand. -/
namespace LineCommand

theorem mem_of_lookup {α β : Type} [BEq α] [LawfulBEq α] {entries : List (α × β)} {key : α}
    {value : β} (found : entries.lookup key = some value) : (key, value) ∈ entries := by
  obtain ⟨before, after, rfl, _⟩ := List.lookup_eq_some_iff.mp found
  exact List.mem_append_right before List.mem_cons_self

/-- Where no key occurs twice, what is found under a key is what stands there. -/
theorem lookup_eq_some_iff_mem {α β : Type} [BEq α] [LawfulBEq α] {entries : List (α × β)}
    (distinct : (entries.map (·.1)).Nodup) {key : α} {value : β} :
    entries.lookup key = some value ↔ (key, value) ∈ entries := by
  constructor
  · exact mem_of_lookup
  · intro member
    obtain ⟨before, after, rfl⟩ := List.append_of_mem member
    refine List.lookup_eq_some_iff.mpr ⟨before, after, rfl, ?_⟩
    intro entry earlier
    rw [List.map_append, List.map_cons, List.nodup_append] at distinct
    have apart := distinct.2.2 _ (List.mem_map_of_mem earlier) key List.mem_cons_self
    exact bne_iff_ne.mpr (Ne.symm apart)

namespace Value

def keyed (entries : List (String × Value)) : List (Value × Value) :=
  entries.map fun e => (.text e.1, e.2)

theorem same_text (s t : String) : (text s).same (text t) = (t == s) := by
  rw [Bool.eq_iff_iff]
  simp [Value.same, Value.text?]

theorem get?_keyed (entries : List (String × Value)) (key : String) :
    get? (keyed entries) key = entries.lookup key := by
  induction entries with
  | nil => rfl
  | cons entry rest ih =>
    obtain ⟨other, v⟩ := entry
    simp only [get?, lookup?, keyed] at ih ⊢
    rw [List.lookup_cons, ← ih, List.map_cons, List.find?_cons]
    simp only [same_text]
    cases key == other <;> rfl

/-- An entry under a new key comes last. -/
theorem insert_keyed {entries : List (String × Value)} {key : String}
    (fresh : key ∉ entries.map (·.1)) (v : Value) :
    insert (keyed entries) (.text key) v = keyed (entries ++ [(key, v)]) := by
  induction entries with
  | nil => rfl
  | cons entry rest ih =>
    rw [List.map_cons, List.mem_cons, not_or] at fresh
    have other : (text entry.1).same (text key) = false := by
      rw [same_text]
      exact beq_false_of_ne fresh.1
    change (if (text entry.1).same (text key) = true then _ else _) = _
    rw [other, if_neg Bool.false_ne_true]
    exact congrArg _ (ih fresh.2)

theorem foldl_insert_keyed {before rest : List (String × Value)}
    (distinct : ((before ++ rest).map (·.1)).Nodup) :
    (keyed rest).foldl (fun made (k, v) => insert made k v) (keyed before) =
      keyed (before ++ rest) := by
  induction rest generalizing before with
  | nil => rw [List.append_nil, show keyed [] = [] from rfl, List.foldl_nil]
  | cons entry rest ih =>
    have fresh : entry.1 ∉ before.map (·.1) := by
      rw [List.map_append, List.map_cons, List.nodup_append] at distinct
      exact fun earlier => distinct.2.2 _ earlier _ List.mem_cons_self rfl
    rw [List.append_cons] at distinct ⊢
    rw [← ih distinct, ← insert_keyed fresh]
    rfl

/-- Where no key occurs twice, no entry takes the place of another. -/
theorem ofEntries_keyed {entries : List (String × Value)}
    (distinct : (entries.map (·.1)).Nodup) : ofEntries (keyed entries) = .dict (keyed entries) :=
  congrArg dict (@foldl_insert_keyed [] entries distinct)

end Value
end LineCommand
