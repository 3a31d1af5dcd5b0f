import LineCommand.Dispatch.Group
import LineCommand.Field
import LineCommand.Proofs.Dispatch.Evaluation
import LineCommand.Proofs.Grammar.Captures
import LineCommand.Proofs.Naming.Table

/-! Registering in order. Whatever is registered stands in one table of names: fields in a registry,
commands in a processor or in a group around one. A call takes effect if its name has a normal form
that no earlier effective call has, and the table lists the effective calls, each of which is found
again under every name with its normal form. The ways of registering differ in how they refuse. -/
namespace LineCommand

def HasNormalForm (name : Value) : Prop := ∃ key, normalizeName name = .ok key

abbrev normalForm (key : String) : Outcome String := .ok key

/-- Both names have the same normal form. -/
def SameName (a b : Value) : Prop := ∃ key, normalizeName a = .ok key ∧ normalizeName b = .ok key

theorem SameName.eq {a b : Value} (same : SameName a b) : normalizeName a = normalizeName b := by
  obtain ⟨key, here, there⟩ := same
  exact here.trans there.symm

namespace NameTable

variable {α : Type} {t u : NameTable α} {calls : List (Value × α)} {name : Value} {value : α}

/-! ### Tables -/

/-- The entries of the table are made by the calls, in order, each under a normal form of its own. -/
structure Lists (t : NameTable α) (calls : List (Value × α)) : Prop where
  entries : (calls.map fun call => (normalizeName call.1, call.1.plain, call.2)) =
    t.entries.map fun e => (normalForm e.key, e.spelling, e.value)
  unique : (t.entries.map (·.key)).Nodup

theorem lists_nil (bare : t.entries = []) : t.Lists [] := by
  constructor <;> simp [bare]

namespace Lists

variable (lists : t.Lists calls)
include lists

theorem normal : (calls.map fun call => normalizeName call.1) =
    t.entries.map fun e => normalForm e.key := by
  have same := congrArg (List.map Prod.fst) lists.entries
  rwa [List.map_map, List.map_map] at same

theorem spellings : t.names = calls.map (·.1.plain) := by
  have same := congrArg (List.map (·.2.1)) lists.entries
  rw [List.map_map, List.map_map] at same
  exact same.symm

theorem values_eq : t.values = calls.map (·.2) := by
  have same := congrArg (List.map (·.2.2)) lists.entries
  rw [List.map_map, List.map_map] at same
  exact same.symm

theorem size_eq : t.size = calls.length := by
  have same := congrArg List.length lists.entries
  rw [List.length_map, List.length_map] at same
  exact same.symm

theorem nodup : (calls.map fun call => normalizeName call.1).Nodup := by
  have injective : Function.Injective normalForm := fun _ _ => Except.ok.inj
  have unique := lists.unique.map injective
  rw [List.map_map] at unique
  exact lists.normal ▸ unique

theorem mem_iff {key : String} : (∃ e ∈ t.entries, e.key = key ∧ e.value = value) ↔
    ∃ call ∈ calls, normalizeName call.1 = .ok key ∧ call.2 = value := by
  have same := congrArg (List.map fun made => (made.1, made.2.2)) lists.entries
  rw [List.map_map, List.map_map] at same
  have member : (.ok key, value) ∈ (t.entries.map fun e => (normalForm e.key, e.value)) ↔
      (.ok key, value) ∈ calls.map fun call => (normalizeName call.1, call.2) := by
    exact iff_of_eq (congrArg _ same.symm)
  simpa [normalForm] using member

theorem mem_keys_iff {key : String} :
    key ∈ t.entries.map (·.key) ↔ ∃ call ∈ calls, normalizeName call.1 = .ok key := by
  have member : normalForm key ∈ (t.entries.map fun e => normalForm e.key) ↔
      normalForm key ∈ calls.map fun call => normalizeName call.1 := by
    rw [lists.normal]
  simpa [normalForm] using member

theorem accepts_iff : (∃ u, t.add name value = .ok u) ↔
    HasNormalForm name ∧ ∀ earlier ∈ calls, ¬ SameName earlier.1 name := by
  simp only [add_eq_ok_iff, lists.mem_keys_iff]
  constructor
  · rintro ⟨u, key, normal, free, _⟩
    refine ⟨⟨key, normal⟩, ?_⟩
    rintro earlier member same
    exact free ⟨earlier, member, same.eq.trans normal⟩
  · rintro ⟨⟨key, normal⟩, apart⟩
    refine ⟨_, key, normal, ?_, rfl⟩
    rintro ⟨earlier, member, taken⟩
    exact apart earlier member ⟨key, taken, normal⟩

/-- A call that takes effect is listed behind those before it. -/
theorem add (added : t.add name value = .ok u) : u.Lists (calls ++ [(name, value)]) := by
  obtain ⟨key, normal, free, rfl⟩ := add_eq_ok_iff.mp added
  constructor
  · simp [lists.entries, normal]
  · rw [List.map_append, List.map_singleton, ← List.concat_eq_append]
    exact lists.unique.concat free

theorem found_iff : t.get? name = some value ↔
    ∃ call ∈ calls, SameName name call.1 ∧ call.2 = value := by
  simp only [get?_eq_some_iff lists.unique, lists.mem_iff]
  constructor
  · rintro ⟨key, normal, call, member, same, value⟩
    exact ⟨call, member, ⟨key, normal, same⟩, value⟩
  · rintro ⟨call, member, ⟨key, normal, same⟩, value⟩
    exact ⟨key, normal, call, member, same, value⟩

end Lists
end NameTable

/-! ### Ways of registering -/

/-- A way of registering: the table in a state, the name and the value in a call, and the state after
a call, if the call takes effect. -/
structure Registry (σ β α : Type) where
  table : σ → NameTable α
  entry : β → Value × α
  add? : σ → β → Option σ

namespace Registry

variable {σ β α : Type}

/-- One more call. A call without effect leaves the state. -/
def perform (r : Registry σ β α) (s : σ × List β) (call : β) : σ × List β :=
  match r.add? s.1 call with
  | some next => (next, s.2 ++ [call])
  | none => s

/-- The state after calls, and those among them that took effect. -/
def run (r : Registry σ β α) (s : σ) (calls : List β) : σ × List β :=
  calls.foldl r.perform (s, [])

/-- A call changes the state as registering changes the table in it. -/
structure Lawful (r : Registry σ β α) : Prop where
  adds : ∀ {s call next}, r.add? s call = some next →
    (r.table s).add (r.entry call).1 (r.entry call).2 = .ok (r.table next)
  refuses : ∀ {s call}, r.add? s call = none →
    ∃ failure, (r.table s).add (r.entry call).1 (r.entry call).2 = .error failure

/-- The calls that took effect are what the table lists, and the first to take a name keeps it. -/
structure FirstWins (r : Registry σ β α) (s : σ) (done : List β) : Prop where
  names : (r.table s).names = done.map fun call => (r.entry call).1.plain
  values : (r.table s).values = done.map fun call => (r.entry call).2
  size : (r.table s).size = done.length
  unique : (done.map fun call => normalizeName (r.entry call).1).Nodup
  found : ∀ name value, (r.table s).get? name = some value ↔
    ∃ call ∈ done, SameName name (r.entry call).1 ∧ (r.entry call).2 = value
  accepts : ∀ call, (∃ next, r.add? s call = some next) ↔
    HasNormalForm (r.entry call).1 ∧
      ∀ earlier ∈ done, ¬ SameName (r.entry earlier).1 (r.entry call).1

namespace Lawful

variable {r : Registry σ β α} {s : σ} (lawful : r.Lawful)
include lawful

theorem accepts_iff {call : β} : (∃ next, r.add? s call = some next) ↔
    ∃ t, (r.table s).add (r.entry call).1 (r.entry call).2 = .ok t := by
  cases added : r.add? s call with
  | some next => simp [lawful.adds added]
  | none =>
    obtain ⟨failure, refused⟩ := lawful.refuses added
    simp [refused]

theorem lists_perform {done : List β} (lists : (r.table s).Lists (done.map r.entry)) (call : β) :
    (r.table (r.perform (s, done) call).1).Lists ((r.perform (s, done) call).2.map r.entry) := by
  unfold perform
  dsimp only
  cases added : r.add? s call with
  | none => exact lists
  | some next =>
    dsimp only
    rw [List.map_append]
    exact lists.add (lawful.adds added)

theorem lists_run (bare : (r.table s).entries = []) (calls : List β) :
    (r.table (r.run s calls).1).Lists ((r.run s calls).2.map r.entry) := by
  induction calls using List.reverseRecOn with
  | nil => exact NameTable.lists_nil bare
  | append_singleton calls call ih =>
    rw [run, List.foldl_concat]
    exact lawful.lists_perform ih call

theorem firstWins (bare : (r.table s).entries = []) (calls : List β) :
    r.FirstWins (r.run s calls).1 (r.run s calls).2 := by
  have lists := lawful.lists_run bare calls
  constructor
  case names => rw [lists.spellings, List.map_map]; rfl
  case values => rw [lists.values_eq, List.map_map]; rfl
  case size => rw [lists.size_eq, List.length_map]
  case unique =>
    have distinct := lists.nodup
    rwa [List.map_map] at distinct
  case found =>
    intro name value
    rw [lists.found_iff]
    simp
  case accepts =>
    intro call
    rw [lawful.accepts_iff, lists.accepts_iff]
    simp

end Lawful

def ofNames (α : Type) : Registry (NameTable α) (Value × α) α where
  table := id
  entry := id
  add? t call := (t.add call.1 call.2).toOption

def ofFields : Registry FieldRegistry Field Field where
  table := id
  entry f := (.text f.name, f)
  add? r f := (r.addField f).toOption

def ofCommands : Registry Processor Command Command where
  table := Processor.commands
  entry c := (.text c.name, c)
  add? p c := (p.add c).answer.toOption

def ofGroup : Registry Group Command Command where
  table g := g.processor.commands
  entry c := (.text c.name, c)
  add? g c := (g.add c).answer.toOption.bind Except.toOption

theorem lawful_of_toOption {r : Registry σ β α}
    (same : ∀ s call, (r.add? s call).map r.table =
      ((r.table s).add (r.entry call).1 (r.entry call).2).toOption) : r.Lawful := by
  constructor
  · intro s call next added
    have entered := same s call
    rw [added, Option.map_some] at entered
    cases answer : (r.table s).add (r.entry call).1 (r.entry call).2 with
    | error failure =>
      rw [answer] at entered
      cases entered
    | ok t =>
      rw [answer] at entered
      rw [Option.some.inj entered]
  · intro s call refused
    have entered := same s call
    rw [refused, Option.map_none] at entered
    cases answer : (r.table s).add (r.entry call).1 (r.entry call).2 with
    | error failure => exact ⟨failure, rfl⟩
    | ok t =>
      rw [answer] at entered
      cases entered

theorem lawful_ofNames : (ofNames α).Lawful := by
  apply lawful_of_toOption
  intro t call
  simp only [ofNames, Option.map_id, id_eq]

theorem lawful_ofFields : ofFields.Lawful := by
  apply lawful_of_toOption
  intro r f
  simp only [ofFields, FieldRegistry.addField, Option.map_id, id_eq]

theorem lawful_ofCommands : ofCommands.Lawful := by
  apply lawful_of_toOption
  intro p c
  simp only [ofCommands, Processor.add]
  cases p.commands.add (.text c.name) c <;> rfl

theorem lawful_ofGroup : ofGroup.Lawful := by
  apply lawful_of_toOption
  intro g c
  simp only [ofGroup, Group.add, Group.addSupplied, Processor.addSupplied, Processor.add]
  cases g.processor.commands.add (.text c.name) c <;> rfl

/-! ### Refusals -/

/-- A call that the table refuses is answered with the failure of the table. -/
def FailsAs {σ τ : Type} (answer : Except Fault (Outcome σ)) (entered : Outcome τ) : Prop :=
  ∀ failure, entered = .error failure → answer = .ok (.error failure)

/-- How calls without effect are answered. -/
structure Refuses (α : Type) : Prop where
  unnamed : ∀ (t : NameTable α) name value, ¬ HasNormalForm name →
    ∃ message, t.add name value = fail .configuration message
  taken : ∀ (t : NameTable α) name value failure, HasNormalForm name →
    t.add name value = .error failure → failure.detail = .kind .duplicateName
  fields : ∀ (r : FieldRegistry) f, FailsAs (.ok (r.addField f)) (NameTable.add r (.text f.name) f)
  /-- A processor has a fault with the message of the failure. -/
  commands : ∀ (p : Processor) c failure, p.commands.add (.text c.name) c = .error failure →
    (p.add c).answer = .error (.badValue failure.message)
  group : ∀ (g : Group) c, HasNormalForm (.text c.name) →
    FailsAs (g.add c).answer (g.processor.commands.add (.text c.name) c)

end Registry

namespace NameTable

variable {α : Type} {t : NameTable α} {name : Value} {value : α} {failure : Failure}

theorem add_of_unnamed (unnamed : ¬ HasNormalForm name) :
    ∃ message, t.add name value = fail .configuration message := by
  unfold add
  cases normal : normalizeName name with
  | error failure => exact ⟨failure.message, rfl⟩
  | ok key => exact absurd ⟨key, normal⟩ unnamed

theorem failure_of_taken (named : HasNormalForm name) (refused : t.add name value = .error failure) :
    failure.detail = .kind .duplicateName ∧ failure.message ≠ "" := by
  obtain ⟨key, normal⟩ := named
  simp only [add, normal] at refused
  split at refused
  · cases refused
    refine ⟨rfl, ?_⟩
    intro empty
    have start : "Duplicate name " = "" := by
      have texts := congrArg String.toList empty
      simp [Failure.of] at texts
      exact texts.1
    exact absurd start (by decide)
  · cases refused

end NameTable

/-- A group tells of a name that is taken what the table does. -/
theorem Group.failsAs_add {g : Group} {c : Command} (named : HasNormalForm (.text c.name)) :
    Registry.FailsAs (g.add c).answer (g.processor.commands.add (.text c.name) c) := by
  intro failure refused
  obtain ⟨kind, worded⟩ := NameTable.failure_of_taken named refused
  have summary : (Fault.badValue failure.message).summary = .ok failure.message := by
    rw [Fault.summary, Fault.said_badValue, Except.map, if_neg (by simpa using worded)]
  have captured : (Act.capture (g.processor.addSupplied (.usable c))).answer =
      .ok (.error ⟨failure.message, .none⟩) := by
    simp only [Processor.addSupplied, Processor.add, refused]
    change Outcome.capture (.error (Fault.badValue failure.message)) = _
    rw [Outcome.capture, summary]
    rfl
  simp only [Group.add, Group.addSupplied, Act.answer_bind, captured, Except.bind]
  change Except.ok (Except.error (Failure.of .duplicateName failure.message)) = _
  rw [Failure.of, ← kind]

namespace Registry

theorem refuses (α : Type) : Refuses α where
  unnamed _ _ _ := NameTable.add_of_unnamed
  taken _ _ _ _ named refused := (NameTable.failure_of_taken named refused).1
  fields _ _ _ refused := congrArg Except.ok refused
  commands p c failure refused := by
    simp only [Processor.add, refused]
    rfl
  group _ _ := Group.failsAs_add

/-- Whatever is registered in whatever way, the first to take a name keeps it. The table lists what
took effect, in order, and finds it under every name with the same normal form. A processor answers
a refusal with a fault where the others have a failure. -/
theorem firstWins_everywhere (α : Type) (validator : Option Callback) (t : FormatTarget)
    (word : Option String) :
    (∀ calls, let (table, done) := (ofNames α).run .empty calls
      (ofNames α).FirstWins table done) ∧
    (∀ fields, let (registry, done) := ofFields.run .empty fields
      ofFields.FirstWins registry done) ∧
    (∀ commands, let (p, done) := ofCommands.run { validator, target := t } commands
      ofCommands.FirstWins p done) ∧
    (∀ commands, let (g, done) := ofGroup.run ⟨word, { validator, target := t }⟩ commands
      ofGroup.FirstWins g done) ∧
    Refuses α :=
  ⟨lawful_ofNames.firstWins rfl, lawful_ofFields.firstWins rfl, lawful_ofCommands.firstWins rfl,
    lawful_ofGroup.firstWins rfl, refuses α⟩

/-- A processor with a name that is taken does not fail as its table does. -/
theorem not_failsAs_go :
    let named (name : String) : Command :=
      .bare name (fun v => .ok (.success v)) (.letterPair ⟨"a", 0⟩ ⟨"b", 0⟩)
    let message := "Duplicate name 'GO' (already registered as 'go')."
    ∃ p : Processor, (Processor.add { validator := none, target := .text } (named "go")).answer =
        .ok p ∧
      p.commands.add (.text "GO") (named "GO") = fail .duplicateName message ∧
      (p.add (named "GO")).answer = .error (.badValue message) ∧
      ¬ FailsAs ((p.add (named "GO")).answer.map (.ok : Processor → Outcome Processor))
        (p.commands.add (.text "GO") (named "GO")) := by
  intro named message
  let p : Processor :=
    { commands := ⟨[⟨"go", "go", named "go"⟩]⟩, validator := none, target := .text }
  have first : normalizeName (.text "go") = .ok "go" :=
    normalizeName_eq_ok_iff.mpr (by decide +kernel)
  have second : normalizeName (.text "GO") = .ok "go" :=
    normalizeName_eq_ok_iff.mpr (by decide +kernel)
  have cited : (Value.text "GO").written = "'GO'" ∧ Text.quoted "go" = "'go'" := by decide +kernel
  have entered : (Processor.add { validator := none, target := .text } (named "go")).answer =
      .ok p := by
    have free : (NameTable.empty : NameTable Command).find? "go" = none := rfl
    simp only [Processor.add, NameTable.add, named, Command.bare, first, free]
    rfl
  have refused : p.commands.add (.text "GO") (named "GO") = fail .duplicateName message := by
    have taken : p.commands.find? "go" = some ⟨"go", "go", named "go"⟩ := by rfl
    simp only [NameTable.add, second, taken, cited.1, cited.2]
    rfl
  have faulted := (refuses Command).commands p (named "GO") _ refused
  refine ⟨p, entered, refused, faulted, ?_⟩
  intro fails
  have failed := fails _ refused
  rw [faulted] at failed
  cases failed

end Registry
end LineCommand
