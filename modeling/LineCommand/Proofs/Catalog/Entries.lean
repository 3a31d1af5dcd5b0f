import LineCommand.Proofs.Catalog.Dispatchable
import LineCommand.Proofs.Dispatch.Filtering
import LineCommand.Proofs.Dispatch.LeadWord

/-! The commands that the entries of a catalog are made to, and a group of all of them. Such a
command has its grammar find the fields, and words those that are there. Nothing but the grammar
can stop it. -/
namespace LineCommand

namespace Catalog

variable {c : Catalog} {gs : Grammars} {unknown target : Value} {t : FormatTarget}
  {spec : CommandSpec} {g : Grammar} {line : String}

/-! ### Echoes -/

def present (fields : FieldTexts) : List (String × String) :=
  fields.filterMap fun (name, text?) => text?.map fun text => (name, text)

/-- The message of an entry's command. As JSON it has all fields, else those that are there. -/
def echo (command : String) (fields : FieldTexts) : FormatTarget → String
  | .text =>
    let parts := (present fields).map fun (name, text) => name ++ "=" ++ text
    if parts = [] then command else command ++ ": " ++ Text.joined ", " parts
  | .markdown =>
    let tick := String.ofList [Char.ofNat 0x60]
    let lines := (present fields).map fun (name, text) =>
      "- " ++ tick ++ name ++ tick ++ ": " ++ text
    Text.joined "\n" (("**" ++ command ++ "**") :: lines)
  | .embed =>
    let entry (name form : String) := Json.text true name ++ ": " ++ form
    let object (entries : List String) := "\x7b" ++ Text.joined ", " entries ++ "\x7d"
    let entries := fields.map fun (name, text?) =>
      entry name ((text?.map (Json.text true)).getD "null")
    object [entry "command" (Json.text true command), entry "fields" (object entries)]

theorem mem_present_iff {fields : FieldTexts} {name text : String} :
    (name, text) ∈ present fields ↔ (name, some text) ∈ fields := by
  simp [present, List.mem_filterMap]

theorem names_present_sublist (fields : FieldTexts) :
    ((present fields).map (·.1)).Sublist (fields.map (·.1)) := by
  apply map_filterMap_sublist
  rintro ⟨name, text?⟩ entry found
  obtain ⟨text, rfl, rfl⟩ := Option.map_eq_some_iff.mp found
  rfl

/-- What is told of names and texts is told of the fields that are there. -/
theorem mapM_present {f : Value × Value → Except Fault String} {told : String × String → String}
    (tells : ∀ name text, f (.text name, .text text) = .ok (told (name, text)))
    (fields : FieldTexts) :
    ((fields.map fun (name, text?) => (Value.text name, (text?.map Value.text).getD .none)).filter
      fun e => !e.2.isNone).mapM f = .ok ((present fields).map told) := by
  induction fields with
  | nil => rfl
  | cons field rest ih =>
    obtain ⟨name, text?⟩ := field
    cases text? with
    | none => exact ih
    | some text =>
      have behind := congrArg (fun others : Except Fault (List String) =>
        f (.text name, .text text) >>= fun first => others >>= fun rest => .ok (first :: rest)) ih
      refine (List.mapM_cons ..).trans (behind.trans ?_)
      simp only [tells]
      rfl

theorem jsonEntries_eq (fields : FieldTexts) :
    Value.jsonEntries
      (fields.map fun (name, text?) => (.text name, (text?.map Value.text).getD .none)) =
        .ok (fields.map fun (name, text?) =>
          Json.text true name ++ ": " ++ (text?.map (Json.text true)).getD "null") := by
  induction fields with
  | nil => rfl
  | cons field rest ih =>
    obtain ⟨name, text?⟩ := field
    cases text? with
    | none | some text =>
      simp only [List.map_cons, Value.jsonEntries, ih]
      rfl

theorem echoText_eq (command : String) (fields : FieldTexts) :
    echoText command fields.toValue = .ok (.text (echo command fields .text)) := by
  have parts := @mapM_present (fun e => do .ok s!"{← e.1.said}={← e.2.said}")
    (fun e => e.1 ++ "=" ++ e.2) (fun _ _ => rfl) fields
  simp only [echo, ← List.isEmpty_iff]
  exact congrArg (fun parts : Except Fault (List String) => parts.bind fun parts => .ok (Value.text
    (if parts.isEmpty then command else command ++ ": " ++ Text.joined ", " parts))) parts

theorem echoMarkdown_eq (command : String) (fields : FieldTexts) :
    echoMarkdown command fields.toValue = .ok (.text (echo command fields .markdown)) := by
  let tick := String.ofList [Char.ofNat 0x60]
  have lines := @mapM_present (fun e => do .ok s!"- {tick}{← e.1.said}{tick}: {← e.2.said}")
    (fun e => "- " ++ tick ++ e.1 ++ tick ++ ": " ++ e.2) (fun _ _ => rfl) fields
  exact congrArg (fun lines : Except Fault (List String) => lines.bind fun lines => .ok (Value.text
    (Text.joined "\n" (("**" ++ command ++ "**") :: lines)))) lines

theorem echoEmbed_eq (command : String) (fields : FieldTexts) :
    echoEmbed command fields.toValue = .ok (.text (echo command fields .embed)) := by
  simp only [echoEmbed, FieldTexts.toValue, Value.json, Value.jsonEntries, Value.jsonKey,
    jsonEntries_eq]
  rfl

/-! ### Commands of entries -/

/-- What is made of an entry echoes the fields that a grammar finds. -/
structure Echoes (spec : CommandSpec) (g : Grammar) (command : Command) : Prop where
  name : command.name = Text.trimmed spec.name
  grammar : command.grammar = g
  converter : command.converter = .succeed
  executor : command.executor = fun v => .ok (.success v)
  formatters : command.formatters = ⟨[(.text, echoText spec.name),
    (.markdown, echoMarkdown spec.name), (.embed, echoEmbed spec.name)]⟩

theorem echoes_of_commandFor {command : Command} (made : commandFor spec g = .ok (.ok command)) :
    Echoes spec g command := by
  unfold commandFor Command.create at made
  cases normal : normalizeName (.text spec.name) with
  | error failure =>
    simp only [normal] at made
    cases made
  | ok key =>
    simp only [normal] at made
    cases made
    exact ⟨rfl, rfl, rfl, rfl, rfl⟩

/-- What an entry's command makes of fields that its grammar finds. -/
def reply (t : FormatTarget) (spec : CommandSpec) (fields : FieldTexts) : Execution :=
  ⟨Text.trimmed spec.name, fields.toValue, echo spec.name fields t⟩

namespace Echoes

variable {command : Command} (echoes : Echoes spec g command)
include echoes

theorem format_eq (fields : FieldTexts) (t : FormatTarget) :
    command.format fields.toValue t.toValue = .ok (.ok (echo spec.name fields t)) := by
  have worded : command.format fields.toValue t.toValue =
      command.formatters.formatFor fields.toValue t := by
    simp only [Command.format, FormatterSet.format, FormatTarget.resolve_toValue]
    rfl
  rw [worded, echoes.formatters]
  cases t with
  | text => exact FormatterSet.formatFor_of_shown rfl (echoText_eq spec.name fields)
  | markdown => exact FormatterSet.formatFor_of_shown rfl (echoMarkdown_eq spec.name fields)
  | embed => exact FormatterSet.formatFor_of_shown rfl (echoEmbed_eq spec.name fields)

theorem produce_eq (fields : FieldTexts) (t : FormatTarget) :
    command.produce fields.toValue t.toValue = .ok (.ok (reply t spec fields)) := by
  have replied : Outcome.capture (command.executor fields.toValue) =
      .ok (.ok (.success fields.toValue)) := by
    rw [echoes.executor]
    rfl
  simp only [Command.produce, replied, Command.conclude, Outcome.ofValue?, echoes.format_eq,
    Except.map, echoes.name, reply]

/-- Without a validator such a command does as its grammar does. -/
theorem trial_eq {p : Processor} (free : p.validator = none) (t : FormatTarget) (v : Value) :
    p.trial t v command =
      match (g.parse v).answer with
      | .error fault => .error fault
      | .ok (.error failure) => .ok (.failed failure)
      | .ok (.ok none) => .ok .notMatched
      | .ok (.ok (some fields)) => .ok (.accepted (reply t spec fields).toValue) := by
  rw [Processor.trial_eq, Command.answer_validate, echoes.grammar, echoes.converter]
  rcases (g.parse v).answer with fault | failure | _ | fields
  · rfl
  · rfl
  · rfl
  · simp only [Converter.succeed, Converter.ofOutcome, echoes.produce_eq, p.assess_unchecked free]

end Echoes

/-! ### Groups of entries -/

def entryCommand? (gs : Grammars) (spec : CommandSpec) : Option Command :=
  (gs.lookup spec.name).bind fun g => (commandFor spec g).toOption.bind Except.toOption

theorem entryCommand?_eq_some_iff {command : Command} :
    entryCommand? gs spec = some command ↔
      ∃ g, gs.lookup spec.name = some g ∧ commandFor spec g = .ok (.ok command) := by
  simp only [entryCommand?, Option.bind_eq_some_iff, ← bind_toOption_eq_some_iff]

theorem Group.registered_of_empty {leadWord : Option String} {validator : Option Callback}
    {group : Group} (made : Group.empty leadWord validator target = .ok group) :
    group.processor.Registered := by
  obtain ⟨processor, bare, rfl⟩ := except_map_eq_ok_iff.mp made
  exact .empty bare

/-- A group that is filled has taken the command of its first entry, and then those of the others. -/
theorem exists_add_of_addEach {group final : Group} {specs : List CommandSpec}
    (added : (addEach gs group (spec :: specs)).answer = .ok (.ok final)) :
    ∃ command processor, entryCommand? gs spec = some command ∧
      (group.processor.add command).answer = .ok processor ∧
      (addEach gs { group with processor } specs).answer = .ok (.ok final) := by
  rw [addEach] at added
  cases found : gs.lookup spec.name with
  | none =>
    simp only [found] at added
    cases added
  | some g =>
    simp only [found] at added
    obtain ⟨made?, made, added⟩ := Act.answer_bind_eq_ok_iff.mp added
    rw [Act.answer_ofExcept] at made
    cases made? with
    | error failure => cases added
    | ok command =>
      obtain ⟨outcome, registered, others⟩ := Act.answer_bind_eq_ok_iff.mp added
      cases outcome with
      | error failure => cases others
      | ok next =>
        obtain ⟨processor, taken, rfl⟩ := Group.add_eq_ok_iff.mp registered
        exact ⟨command, processor, entryCommand?_eq_some_iff.mpr ⟨g, found, made⟩, taken, others⟩

/-- What a group is filled with are the commands of the entries, in order; nothing else of the group
changes. -/
theorem addEach_eq_ok {group final : Group} {specs : List CommandSpec}
    (added : (addEach gs group specs).answer = .ok (.ok final)) :
    ∃ commands cs, final = { group with processor := { group.processor with commands } } ∧
      commands.values = group.processor.commands.values ++ cs ∧
      specs.map (entryCommand? gs) = cs.map some := by
  -- The group grows on the way, so the table that it starts with is kept in front.
  induction specs generalizing group with
  | nil =>
    cases added
    exact ⟨_, [], rfl, (List.append_nil _).symm, rfl⟩
  | cons spec rest ih =>
    obtain ⟨command, processor, made, taken, others⟩ := exists_add_of_addEach added
    obtain ⟨values, _⟩ := Processor.values_of_add taken
    obtain ⟨commands, _, rfl⟩ := Processor.add_eq_ok taken
    obtain ⟨table, cs, rfl, behind, entries⟩ := ih others
    refine ⟨table, command :: cs, rfl, ?_, ?_⟩
    · rw [behind, values, List.append_assoc]
      rfl
    · rw [List.map_cons, List.map_cons, entries, made]

theorem registered_of_addEach {group final : Group} {specs : List CommandSpec}
    (registered : group.processor.Registered)
    (added : (addEach gs group specs).answer = .ok (.ok final)) : final.processor.Registered := by
  induction specs generalizing group with
  | nil =>
    cases added
    exact registered
  | cons spec rest ih =>
    obtain ⟨_, _, _, taken, others⟩ := exists_add_of_addEach added
    exact ih (registered.add taken) others

/-- What a catalog whose templates compile to the grammars is made to. -/
structure Fills (c : Catalog) (gs : Grammars) (group : Group) : Prop where
  leadWord : group.leadWord = (c.leadWord.filter fun s => !s.isEmpty).map Text.trimmed
  unchecked : group.processor.validator = none
  commands : c.commands.map (entryCommand? gs) = group.processor.commands.values.map some

theorem exists_compile_of_buildGroup {validator : Option Callback} {group : Group}
    (built : (c.buildGroup unknown validator target).answer = .ok (.ok group)) :
    ∃ gs, (c.compile unknown).answer = .ok (.ok gs) := by
  obtain ⟨outcome, compiled, built⟩ := Act.answer_bind_eq_ok_iff.mp built
  cases outcome with
  | error failure => cases built
  | ok gs => exact ⟨gs, compiled⟩

section Building

variable {validator : Option Callback} {group : Group}
  (compiled : (c.compile unknown).answer = .ok (.ok gs))
  (built : (c.buildGroup unknown validator target).answer = .ok (.ok group))
include compiled built

theorem exists_empty_of_buildGroup :
    ∃ empty, Group.empty c.leadWord validator target = .ok empty ∧
      (addEach gs empty c.commands).answer = .ok (.ok group) := by
  -- Building compiles the templates anew, with the same answer.
  obtain ⟨outcome, compiled', built⟩ := Act.answer_bind_eq_ok_iff.mp built
  obtain rfl : .ok gs = outcome := Except.ok.inj (compiled.symm.trans compiled')
  obtain ⟨empty, made, built⟩ := Act.answer_bind_eq_ok_iff.mp built
  obtain ⟨outcome, added, built⟩ := Act.answer_bind_eq_ok_iff.mp built
  cases outcome with
  | error failure => cases built
  | ok final =>
    cases built
    exact ⟨empty, made, added⟩

theorem commands_of_buildGroup :
    c.commands.map (entryCommand? gs) = group.processor.commands.values.map some := by
  obtain ⟨empty, made, added⟩ := exists_empty_of_buildGroup compiled built
  obtain ⟨table, cs, rfl, behind, entries⟩ := addEach_eq_ok added
  obtain ⟨_, _, none, _⟩ := Group.empty_eq_ok made
  rw [none, List.nil_append] at behind
  exact behind ▸ entries

theorem registered_of_buildGroup : group.processor.Registered := by
  obtain ⟨empty, made, added⟩ := exists_empty_of_buildGroup compiled built
  exact registered_of_addEach (Group.registered_of_empty made) added

theorem target_of_buildGroup : FormatTarget.ofValue target = .ok group.processor.target := by
  obtain ⟨empty, made, added⟩ := exists_empty_of_buildGroup compiled built
  obtain ⟨table, cs, rfl, _, _⟩ := addEach_eq_ok added
  exact (Group.empty_eq_ok made).2.2.2

end Building

theorem fills_of_buildGroup {group : Group} (compiled : (c.compile unknown).answer = .ok (.ok gs))
    (built : (c.buildGroup unknown none target).answer = .ok (.ok group)) : c.Fills gs group := by
  obtain ⟨empty, made, added⟩ := exists_empty_of_buildGroup compiled built
  obtain ⟨lead, validator, _⟩ := Group.empty_eq_ok made
  have entries := commands_of_buildGroup compiled built
  obtain ⟨table, cs, rfl, _, _⟩ := addEach_eq_ok added
  exact ⟨lead, validator, entries⟩

/-- What keeps the grammar of an entry from reading a line: a fault or a failure. -/
def refusal? (gs : Grammars) (line : String) (spec : CommandSpec) :
    Option (Except Fault Failure) :=
  (gs.lookup spec.name).bind fun g =>
    match (g.parse (.text line)).answer with
    | .error fault => some (.error fault)
    | .ok (.error failure) => some (.ok failure)
    | .ok (.ok _) => none

theorem refusal?_eq_none_iff (found : gs.lookup spec.name = some g) :
    refusal? gs line spec = none ↔ ∃ texts?, (g.parse (.text line)).answer = .ok (.ok texts?) := by
  rw [refusal?, found, Option.bind_some]
  rcases (g.parse (.text line)).answer with fault | failure | texts?
  all_goals simp

/-- The fields that the grammar of an entry finds in a line that it matches. -/
def fields? (gs : Grammars) (line : String) (spec : CommandSpec) : Option FieldTexts :=
  (gs.lookup spec.name).bind fun g =>
    match (g.parse (.text line)).answer with
    | .ok (.ok texts?) => texts?
    | _ => none

theorem fields?_eq_some_iff {fields : FieldTexts} : fields? gs line spec = some fields ↔
    ∃ g, gs.lookup spec.name = some g ∧
      (g.parse (.text line)).answer = .ok (.ok (some fields)) := by
  rw [fields?, Option.bind_eq_some_iff]
  apply exists_congr
  intro g
  apply and_congr_right
  intro _
  rcases (g.parse (.text line)).answer with fault | failure | texts?
  all_goals simp

namespace Fills

variable {group : Group} (fills : c.Fills gs group)
include fills

theorem exists_command (member : spec ∈ c.commands) :
    ∃ g command, gs.lookup spec.name = some g ∧ commandFor spec g = .ok (.ok command) := by
  have listed : entryCommand? gs spec ∈ group.processor.commands.values.map some :=
    fills.commands ▸ List.mem_map_of_mem member
  obtain ⟨command, _, made⟩ := List.mem_map.mp listed
  obtain ⟨g, found, made⟩ := entryCommand?_eq_some_iff.mp made.symm
  exact ⟨g, command, found, made⟩

/-- What is chosen of the commands can be chosen of the entries. -/
theorem filterMap_values {α : Type} {h : Command → Option α} {k : CommandSpec → Option α}
    (agree : ∀ spec g command, gs.lookup spec.name = some g → Echoes spec g command →
      h command = k spec) :
    group.processor.commands.values.filterMap h = c.commands.filterMap k := by
  calc group.processor.commands.values.filterMap h
      = (group.processor.commands.values.map some).filterMap (·.bind h) := by
        rw [List.filterMap_map]
        rfl
    _ = c.commands.filterMap fun spec => (entryCommand? gs spec).bind h := by
        rw [← fills.commands, List.filterMap_map]
        rfl
    _ = c.commands.filterMap k := by
        apply List.filterMap_congr
        intro spec member
        obtain ⟨g, command, found, made⟩ := fills.exists_command member
        rw [entryCommand?_eq_some_iff.mpr ⟨g, found, made⟩]
        exact agree spec g command found (echoes_of_commandFor made)

theorem stop?_eq (t : FormatTarget) (line : String) :
    group.processor.stop? t (.text line) group.processor.commands.values =
      c.commands.findSome? (refusal? gs line) := by
  rw [Processor.stop?, ← List.head?_filterMap, ← List.head?_filterMap]
  apply congrArg List.head?
  apply fills.filterMap_values
  intro spec g command found echoes
  rw [echoes.trial_eq fills.unchecked, refusal?, found, Option.bind_some]
  rcases (g.parse (.text line)).answer with fault | failure | _ | fields
  all_goals rfl

theorem accepted_eq (t : FormatTarget) (line : String) :
    group.processor.accepted t (.text line) group.processor.commands.values =
      c.commands.filterMap fun spec =>
        (fields? gs line spec).map fun fields => (reply t spec fields).toValue := by
  apply fills.filterMap_values
  intro spec g command found echoes
  rw [echoes.trial_eq fills.unchecked, fields?, found, Option.bind_some]
  rcases (g.parse (.text line)).answer with fault | failure | _ | fields
  all_goals rfl

/-- The group answers a line that belongs to it as the grammars of the entries read it. -/
theorem answer_processAll (line : String)
    (resolved : group.processor.resolveTarget target = .ok (.ok t))
    (belongs : group.couldBeCommand (.text line) = true) :
    (group.processAll (.text line) target).answer =
      match c.commands.findSome? (refusal? gs line) with
      | some (.error fault) => .error fault
      | some (.ok failure) => .ok (.error failure)
      | none => .ok (.ok (c.commands.filterMap fun spec =>
          (fields? gs line spec).map fun fields => (reply t spec fields).toValue)) := by
  have all := Processor.answer_processAll_unchecked (.text line) fills.unchecked resolved
  rw [fills.stop?_eq, fills.accepted_eq] at all
  rw [Group.processAll, if_pos belongs]
  refine all.trans ?_
  cases c.commands.findSome? (refusal? gs line) with
  | none => rfl
  | some stop => cases stop <;> rfl

end Fills

end Catalog
end LineCommand
