import LineCommand.Dispatch.Processor
import LineCommand.Proofs.Naming.Table

/-! The processors that there are: commands are registered one after the other, and no two of them
have the same name. -/
namespace LineCommand
namespace Processor

/-- A processor that came about by registering commands. -/
inductive Registered : Processor → Prop
  | empty {p : Processor} {validator : Option Callback} {target : Value}
      (made : Processor.empty validator target = .ok p) : Registered p
  | add {p q : Processor} {c : Command} (registered : Registered p)
      (added : (p.add c).answer = .ok q) : Registered q

theorem add_eq_ok {p q : Processor} {c : Command} (added : (p.add c).answer = .ok q) :
    ∃ commands, p.commands.add (.text c.name) c = .ok commands ∧ q = { p with commands } := by
  unfold add at added
  cases entered : p.commands.add (.text c.name) c with
  | error failure =>
    rw [entered] at added
    cases added
  | ok commands =>
    rw [entered] at added
    cases added
    exact ⟨commands, rfl, rfl⟩

theorem values_of_add {p q : Processor} {c : Command} (added : (p.add c).answer = .ok q) :
    q.commands.values = p.commands.values ++ [c] ∧ q.validator = p.validator := by
  obtain ⟨commands, entered, rfl⟩ := add_eq_ok added
  obtain ⟨key, _, _, rfl⟩ := NameTable.add_eq_ok_iff.mp entered
  exact ⟨by simp [NameTable.values], rfl⟩

theorem registered_of_foldlM {p q : Processor} {cs : List Command} (registered : p.Registered)
    (folded : (cs.foldlM add p).answer = .ok q) : q.Registered := by
  induction cs generalizing p with
  | nil =>
    cases folded
    exact registered
  | cons c rest ih =>
    rw [List.foldlM_cons] at folded
    obtain ⟨next, added, others⟩ := Act.answer_bind_eq_ok_iff.mp folded
    exact ih (.add registered added) others

theorem registered_of_create {p : Processor} {cs : List Command} {validator : Option Callback}
    {target : Value} (created : (create cs validator target).answer = .ok p) : p.Registered := by
  unfold create at created
  obtain ⟨bare, made, folded⟩ := Act.answer_bind_eq_ok_iff.mp created
  exact registered_of_foldlM (.empty made) folded

theorem empty_eq_ok {p : Processor} {validator : Option Callback} {target : Value}
    (made : Processor.empty validator target = .ok p) :
    ∃ t, FormatTarget.ofValue target = .ok t ∧ p = { validator, target := t } := by
  unfold Processor.empty at made
  cases resolved : FormatTarget.ofValue target with
  | error fault =>
    rw [resolved] at made
    cases made
  | ok t =>
    rw [resolved] at made
    cases made
    exact ⟨t, rfl, rfl⟩

theorem commands_of_empty {p : Processor} {validator : Option Callback} {target : Value}
    (made : Processor.empty validator target = .ok p) : p.commands = NameTable.empty := by
  obtain ⟨t, _, rfl⟩ := empty_eq_ok made
  rfl

def keys (p : Processor) : List String := p.commands.entries.map (·.key)

/-- A command whose name has a normal form that is not taken is put behind the others. -/
theorem add_of_free {p : Processor} {c : Command} (named : nameKey c.name ≠ "")
    (free : nameKey c.name ∉ p.keys) :
    ∃ q, (p.add c).answer = .ok q ∧ q.keys = p.keys ++ [nameKey c.name] ∧
      q.commands.values = p.commands.values ++ [c] ∧ q.validator = p.validator ∧
      q.target = p.target := by
  have normal := normalizeName_eq_ok_iff.mpr ⟨rfl, named⟩
  have added : p.commands.add (.text c.name) c = .ok _ :=
    NameTable.add_eq_ok_iff.mpr ⟨_, normal, free, rfl⟩
  simp only [add, added]
  exact ⟨_, rfl, by simp [keys], by simp [NameTable.values], rfl, rfl⟩

/-- Commands can be registered one after the other if their names have normal forms, all of them
different and not taken. -/
theorem foldlM_add_of_free {p : Processor} {cs : List Command}
    (named : ∀ c ∈ cs, nameKey c.name ≠ "")
    (distinct : (p.keys ++ cs.map fun c => nameKey c.name).Nodup) :
    ∃ q, (cs.foldlM add p).answer = .ok q ∧ q.commands.values = p.commands.values ++ cs ∧
      q.validator = p.validator ∧ q.target = p.target := by
  induction cs generalizing p with
  | nil => exact ⟨p, rfl, (List.append_nil _).symm, rfl, rfl⟩
  | cons c rest ih =>
    obtain ⟨here, rests⟩ := List.forall_mem_cons.mp named
    have free : nameKey c.name ∉ p.keys := by
      intro taken
      exact List.disjoint_of_nodup_append distinct taken List.mem_cons_self
    obtain ⟨next, added, keys, values, validator, target⟩ := add_of_free here free
    rw [List.map_cons, List.append_cons, ← keys] at distinct
    obtain ⟨q, folded, values', validator', target'⟩ := ih rests distinct
    refine ⟨q, ?_, ?_, validator'.trans validator, target'.trans target⟩
    · rw [List.foldlM_cons, Act.answer_bind, added]
      exact folded
    · rw [values', values, List.append_assoc, List.singleton_append]

theorem create_of_distinct {cs : List Command} (validator : Option Callback) (t : FormatTarget)
    (named : ∀ c ∈ cs, nameKey c.name ≠ "") (distinct : (cs.map fun c => nameKey c.name).Nodup) :
    ∃ p, (create cs validator t.toValue).answer = .ok p ∧ p.commands.values = cs ∧
      p.validator = validator ∧ p.target = t := by
  let bare : Processor := { validator, target := t }
  have made : Processor.empty validator t.toValue = .ok bare := by
    simp only [Processor.empty, FormatTarget.ofValue, FormatTarget.ofValue?_toValue]
    rfl
  obtain ⟨p, folded, values, kept⟩ := foldlM_add_of_free (p := bare) named distinct
  refine ⟨p, ?_, values, kept⟩
  rw [create, Act.answer_bind, Act.answer_ofExcept, made]
  exact folded

namespace Registered

variable {p : Processor}

theorem proper (registered : p.Registered) : p.commands.Proper := by
  induction registered with
  | empty made =>
    rw [commands_of_empty made]
    exact NameTable.proper_empty
  | add _ added ih =>
    obtain ⟨commands, entered, rfl⟩ := add_eq_ok added
    exact ih.add entered

theorem spelled (registered : p.Registered) :
    p.commands.names = p.commands.values.map (·.name) := by
  induction registered with
  | empty made =>
    rw [commands_of_empty made]
    rfl
  | add _ added ih =>
    obtain ⟨commands, entered, rfl⟩ := add_eq_ok added
    obtain ⟨key, _, _, rfl⟩ := NameTable.add_eq_ok_iff.mp entered
    simp only [NameTable.names, NameTable.values, List.map_append, List.map_cons,
      List.map_nil] at ih ⊢
    rw [ih]
    rfl

/-- Commands stand in the table under the normal forms of their names. -/
theorem keys (registered : p.Registered) :
    p.keys = p.commands.values.map fun c => nameKey c.name := by
  induction registered with
  | empty made =>
    rw [Processor.keys, commands_of_empty made]
    rfl
  | add _ added ih =>
    obtain ⟨commands, entered, rfl⟩ := add_eq_ok added
    obtain ⟨key, normal, _, rfl⟩ := NameTable.add_eq_ok_iff.mp entered
    obtain ⟨rfl, _⟩ := normalizeName_eq_ok_iff.mp normal
    simp only [Processor.keys, NameTable.values, List.map_append, List.map_cons,
      List.map_nil] at ih ⊢
    rw [ih]

theorem key_eq (registered : p.Registered) {entry : NameEntry Command}
    (entered : entry ∈ p.commands.entries) : entry.key = nameKey entry.value.name := by
  have listed := registered.keys
  rw [Processor.keys, NameTable.values, List.map_map] at listed
  exact List.map_inj_left.mp listed entry entered

theorem named (registered : p.Registered) :
    ∀ c ∈ p.commands.values, nameKey c.name ≠ "" := by
  induction registered with
  | empty made =>
    rw [commands_of_empty made]
    exact nofun
  | add _ added ih =>
    obtain ⟨commands, entered, rfl⟩ := add_eq_ok added
    obtain ⟨key, normal, _, rfl⟩ := NameTable.add_eq_ok_iff.mp entered
    intro c member
    simp only [NameTable.values, List.map_append, List.map_cons, List.map_nil] at member
    obtain old | new := List.mem_append.mp member
    · exact ih c old
    · obtain rfl := List.mem_singleton.mp new
      exact (normalizeName_eq_ok_iff.mp normal).2

/-- A command is found under every name that has the normal form of its own. -/
theorem get?_eq_some_iff (registered : p.Registered) {name : String} {c : Command} :
    p.commands.get? (.text name) = some c ↔
      c ∈ p.commands.values ∧ nameKey c.name = nameKey name := by
  rw [NameTable.get?_eq_some_iff registered.proper.unique]
  constructor
  · rintro ⟨key, normal, entry, entered, same, rfl⟩
    refine ⟨List.mem_map_of_mem entered, ?_⟩
    rw [(normalizeName_eq_ok_iff.mp normal).1, ← same, registered.key_eq entered]
  · rintro ⟨member, same⟩
    obtain ⟨entry, entered, rfl⟩ := List.mem_map.mp member
    have normal := normalizeName_eq_ok_iff.mpr ⟨rfl, same ▸ registered.named _ member⟩
    exact ⟨_, normal, entry, entered, (registered.key_eq entered).trans same, rfl⟩

/-- No two commands have the same name. -/
theorem nodup (registered : p.Registered) : (p.commands.values.map (·.name)).Nodup :=
  registered.spelled ▸ registered.proper.nodup_names

end Registered
end Processor
end LineCommand
