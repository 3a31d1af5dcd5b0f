import LineCommand.Outcome.Basic
import LineCommand.Settings.Ini

/-! References between the values of a settings file. What an option says depends on its own value and on
those that this one refers to, directly or through others, and on nothing else in the file. -/
namespace LineCommand

namespace Ini

/-- The value of an option as the file has it: that of its section, or the one for all sections. Without
the section there is none. -/
def raw? (ini : Ini) (title name : String) : Option String :=
  (ini.sections.lookup title).bind fun own => (own ++ ini.defaults).lookup name

/-- The value of an option, among values that are given by name, refers to another one, or that one's
value does, and so on. -/
inductive DependsOn (given : String → Option String) : String → String → Prop
  | self (name : String) : DependsOn given name name
  | through {name value next last : String} (found : given name = some value)
      (refers : .reference next ∈ pieces value.length value.toList)
      (rest : DependsOn given next last) : DependsOn given name last

/-- What is left of the levels does not matter: each level looks up the names that its value has. -/
theorem expand_congr {values values' : List (String × String)} {left : Nat} {name value : String}
    (found : values.lookup name = some value)
    (same : ∀ n, DependsOn (values.lookup ·) name n → values'.lookup n = values.lookup n) :
    expand values' left value = expand values left value := by
  induction left generalizing name value with
  | zero => rfl
  | succ left ih =>
    simp only [expand]
    refine congrArg (· >>= _) (except_mapM_congr fun piece listed => ?_)
    cases piece with
    | char | broken => rfl
    | reference next =>
      simp only [same next (.through found listed (.self next))]
      cases inner : values.lookup next with
      | none => rfl
      | some value' =>
        have deeper := ih inner fun n rest => same n (.through found listed rest)
        simp only [deeper]

/-- A value that is a reference alone is that of the option that it names. -/
theorem expand_reference {values : List (String × String)} {value name inner : String} {left : Nat}
    (piece : pieces value.length value.toList = [.reference name])
    (found : values.lookup name = some inner) (plain : inner.contains '%' = false) :
    expand values (left + 1) value = .ok inner := by
  simp only [expand, piece, List.mapM_cons, List.mapM_nil, found, plain]
  exact congrArg Except.ok String.empty_append

variable {ini ini' : Ini} {title name : String}

theorem get?_of_raw?_eq_none (missing : ini.raw? title name = none) :
    ini.get? title name = .ok none := by
  unfold raw? at missing
  unfold get?
  cases own : ini.sections.lookup title with
  | none => rfl
  | some values =>
    rw [own, Option.bind_some] at missing
    simp only [missing]

theorem exists_of_raw?_eq_some {value : String} (found : ini.raw? title name = some value) :
    ∃ values, ini.raw? title = (values.lookup ·) ∧
      ini.get? title name = (expand values 10 value).map some := by
  unfold raw? at found
  cases own : ini.sections.lookup title with
  | none =>
    rw [own] at found
    cases found
  | some values =>
    rw [own, Option.bind_some] at found
    refine ⟨values ++ ini.defaults, ?_, ?_⟩
    · funext n
      simp only [raw?, own, Option.bind_some]
    · simp only [get?, own, found]

theorem isSome_raw?_of_get? {given : Option String} (reads : ini.get? title name = .ok given) :
    (ini.raw? title name).isSome = given.isSome := by
  cases found : ini.raw? title name with
  | none =>
    obtain rfl := Except.ok.inj ((get?_of_raw?_eq_none found).symm.trans reads)
    rfl
  | some value =>
    obtain ⟨values, _, same⟩ := exists_of_raw?_eq_some found
    obtain ⟨text, _, rfl⟩ := except_map_eq_ok_iff.mp (same.symm.trans reads)
    rfl

/-- Files that have the same values for what an option depends on say the same in it. -/
theorem get?_congr
    (same : ∀ n, DependsOn (ini.raw? title) name n → ini'.raw? title n = ini.raw? title n) :
    ini'.get? title name = ini.get? title name := by
  have own := same name (.self name)
  cases found : ini.raw? title name with
  | none => rw [get?_of_raw?_eq_none found, get?_of_raw?_eq_none (own.trans found)]
  | some value =>
    obtain ⟨values, values_eq, reads⟩ := exists_of_raw?_eq_some found
    obtain ⟨values', values_eq', reads'⟩ := exists_of_raw?_eq_some (own.trans found)
    rw [reads, reads']
    rw [values_eq] at same found
    rw [values_eq'] at same
    rw [expand_congr found same]

end Ini
end LineCommand
