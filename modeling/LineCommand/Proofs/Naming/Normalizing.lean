import LineCommand.Proofs.Naming.Table
import LineCommand.Proofs.Text.Raising

/-! Normal forms of names. What counts of a name is in lower case and has word characters only, so that a
normal form is its own normal form, and blanks around a name make no difference. Neither does lowering
it. Raising it does where a character, or the form of a sigma, does not come back in lower case. -/
namespace LineCommand

/-- Of a name in lower case the word characters count, blanks around it or not. -/
theorem nameKey_eq_counted (name : String) :
    nameKey name = String.ofList (Text.counted (Text.lower name.toList)) := by
  rw [← Text.counted_lower_trim]
  rfl

theorem nameKey_nameKey (name : String) : nameKey (nameKey name) = nameKey name := by
  have low : ∀ c ∈ Text.counted (Text.lower name.toList), Text.Low c := fun _ member =>
    Text.low_of_mem_lowerFrom (List.mem_of_mem_filter member)
  rw [nameKey_eq_counted (nameKey name), nameKey_eq_counted name, String.toList_ofList, Text.lower,
    Text.lowerFrom_low low, Text.counted, Text.counted, List.filter_filter]
  simp only [Bool.and_self]

theorem isWordChar_of_mem_nameKey {name : String} {c : Char} (member : c ∈ (nameKey name).toList) :
    Text.isWordChar c = true := by
  rw [nameKey_eq_counted, String.toList_ofList] at member
  exact (List.mem_filter.mp member).2

theorem nameKey_padded {front back : String} (blanks : Text.Blanks front.toList)
    (blanks' : Text.Blanks back.toList) (name : String) :
    nameKey (front ++ name ++ back) = nameKey name := by
  rw [nameKey_eq_counted, nameKey_eq_counted, String.toList_append, String.toList_append,
    List.append_assoc, Text.counted_lower_padded blanks blanks']

theorem nameKey_lowered (name : String) : nameKey (Text.lowered name) = nameKey name := by
  rw [nameKey_eq_counted, nameKey_eq_counted, Text.lowered, String.toList_ofList, Text.lower_lower]

theorem nameKey_raised_iff {name : String} :
    nameKey (Text.raised name) = nameKey name ↔ Text.Returns name.toList := by
  rw [nameKey_eq_counted, nameKey_eq_counted, Text.raised, String.toList_ofList, String.ofList_inj,
    Text.counted_lower_upper_iff]

/-- The normal form of a text consists of word characters, at least one; it is the normal form of itself,
and of the text with any blanks around it. -/
theorem normal_of_normalized {name key : String} (normal : normalizeName (.text name) = .ok key) :
    normalizeName (.text key) = .ok key ∧
    (∀ front back : String, Text.Blanks front.toList → Text.Blanks back.toList →
      normalizeName (.text (front ++ name ++ back)) = .ok key) ∧
    key ≠ "" ∧ ∀ c ∈ key.toList, Text.isWordChar c = true := by
  obtain ⟨rfl, named⟩ := normalizeName_eq_ok_iff.mp normal
  refine ⟨?_, fun front back blanks blanks' => ?_, named, fun _ => isWordChar_of_mem_nameKey⟩
  · rw [normalizeName_eq_ok_iff, nameKey_nameKey]
    exact ⟨rfl, named⟩
  · rw [normalizeName_eq_ok_iff, nameKey_padded blanks blanks']
    exact ⟨rfl, named⟩

/-- A name that grows in lower case, with a sigma that ends its word: the dot is dropped, and the form of
the sigma stays where no word ends any more. -/
theorem normal_of_normalized_sigma :
    normalizeName (.text "  İ-ΑΣ-Β ") = .ok "iαςβ" ∧ normalizeName (.text "iαςβ") = .ok "iαςβ" ∧
      normalizeName (.text ("\t" ++ "  İ-ΑΣ-Β " ++ "\n")) = .ok "iαςβ" := by
  have normal : normalizeName (.text "  İ-ΑΣ-Β ") = .ok "iαςβ" :=
    normalizeName_eq_ok_iff.mpr (by decide +kernel)
  obtain ⟨own, padded, _⟩ := normal_of_normalized normal
  exact ⟨normal, own, padded _ _ (by decide +kernel) (by decide +kernel)⟩

/-! ### Letter case -/

/-- Two names with one normal form, or both without. -/
def Alike (a b : Value) : Prop := (normalizeName a).toOption = (normalizeName b).toOption

theorem alike_iff_forall {a b : Value} :
    Alike a b ↔ ∀ key, normalizeName a = .ok key ↔ normalizeName b = .ok key := by
  rw [Alike, Option.ext_iff]
  simp only [toOption_eq_some_iff]

theorem alike_text_iff {name other : String} :
    Alike (.text name) (.text other) ↔ nameKey name = nameKey other := by
  rw [alike_iff_forall]
  simp only [normalizeName_eq_ok_iff]
  constructor
  · intro alike
    by_cases named : nameKey name = ""
    · by_contra differs
      have other_named : nameKey other ≠ "" := fun unnamed => differs (named.trans unnamed.symm)
      exact ((alike _).mpr ⟨rfl, other_named⟩).2 named
    · exact ((alike _).mp ⟨rfl, named⟩).1.symm
  · rintro same key
    rw [same]

/-- All tables of names take two names for one. -/
structure OneEntry (a b : Value) : Prop where
  found : ∀ {α : Type} (t : NameTable α), t.get? a = t.get? b
  taken : ∀ {α : Type} (t u : NameTable α) (value other : α), t.add a value = .ok u →
    ∃ message, u.add b other = fail .duplicateName message

namespace NameTable

variable {α : Type} {t u : NameTable α} {name : Value} {key : String} {value : α}

theorem get?_eq_bind (t : NameTable α) (name : Value) :
    t.get? name = (normalizeName name).toOption.bind fun key => (t.find? key).map (·.value) := by
  rw [get?]
  cases normalizeName name <;> rfl

theorem add_of_listed (normal : normalizeName name = .ok key) (listed : key ∈ t.entries.map (·.key)) :
    ∃ message, t.add name value = fail .duplicateName message := by
  unfold add
  cases found : t.find? key with
  | none => exact absurd listed (find?_eq_none_iff.mp found)
  | some entry =>
    simp only [normal, found]
    exact ⟨_, rfl⟩

end NameTable

theorem normal_of_found {a b : Value} {key : String}
    (found : ∀ t : NameTable Unit, t.get? a = t.get? b) (normal : normalizeName a = .ok key) :
    normalizeName b = .ok key := by
  -- a table with one entry tells what the normal form is
  let t : NameTable Unit := ⟨[⟨key, "", ()⟩]⟩
  have unique : (t.entries.map (·.key)).Nodup := List.nodup_singleton _
  have here : t.get? a = some () :=
    (NameTable.get?_eq_some_iff unique).mpr ⟨key, normal, _, List.mem_singleton_self _, rfl, rfl⟩
  rw [found t] at here
  obtain ⟨other, normal', e, listed, rfl, _⟩ := (NameTable.get?_eq_some_iff unique).mp here
  rwa [List.mem_singleton.mp listed] at normal'

theorem oneEntry_iff {a b : Value} : OneEntry a b ↔ Alike a b := by
  constructor
  · intro one
    exact alike_iff_forall.mpr fun key =>
      ⟨normal_of_found one.found, normal_of_found fun t => (one.found t).symm⟩
  · intro alike
    refine ⟨fun t => ?_, fun t u value other added => ?_⟩
    · rw [NameTable.get?_eq_bind, NameTable.get?_eq_bind, alike]
    · obtain ⟨key, normal, _, rfl⟩ := NameTable.add_eq_ok_iff.mp added
      refine NameTable.add_of_listed ((alike_iff_forall.mp alike key).mp normal) ?_
      simp

/-- A name in lower case is the same entry everywhere. In upper case it is exactly if its characters
return to lower case, each small sigma in the form that its place asks for. -/
theorem alike_lowered_raised (name : String) :
    Alike (.text (Text.lowered name)) (.text name) ∧
    (Alike (.text (Text.raised name)) (.text name) ↔ Text.Returns name.toList) ∧
    ∀ a b, OneEntry a b ↔ Alike a b :=
  ⟨alike_text_iff.mpr (nameKey_lowered name), alike_text_iff.trans nameKey_raised_iff,
    fun _ _ => oneEntry_iff⟩

/-- The sharp s is raised to two letters, which stay two in lower case. -/
theorem not_alike_raised_sharp_s :
    normalizeName (.text "ß") = .ok "ß" ∧ normalizeName (.text (Text.raised "ß")) = .ok "ss" ∧
      ¬ Alike (.text (Text.raised "ß")) (.text "ß") := by
  have normal : normalizeName (.text "ß") = .ok "ß" := normalizeName_eq_ok_iff.mpr (by decide +kernel)
  have normal' : normalizeName (.text (Text.raised "ß")) = .ok "ss" :=
    normalizeName_eq_ok_iff.mpr (by decide +kernel)
  refine ⟨normal, normal', fun alike => ?_⟩
  rw [Alike, normal, normal'] at alike
  exact absurd alike (by decide)

end LineCommand
