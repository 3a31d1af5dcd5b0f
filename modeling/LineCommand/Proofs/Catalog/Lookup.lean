import LineCommand.Proofs.Catalog.Dispatching
import LineCommand.Proofs.Naming.Normalizing

/-! Looking a command up in a catalog and in the group made of it. A group finds a command under every
name with the normal form of its own; a catalog asks for the same letters, so it finds fewer, and never
another one. -/
namespace LineCommand

theorem nameKey_eq_of_lowered {name other : String}
    (same : Text.lowered name = Text.lowered (Text.trimmed other)) : nameKey name = nameKey other := by
  have letters : Text.lower name.toList = Text.lower (Text.trim other.toList) := by
    have lists := congrArg String.toList same
    simpa only [Text.lowered, Text.trimmed, String.toList_ofList] using lists
  rw [nameKey_eq_counted name, letters]
  rfl

namespace Catalog

variable {c : Catalog} {b : GrammarBuilder} {gs : Grammars} {unknown home : Value}
  {validator : Option Callback} {group : Group} {spec : CommandSpec} {command : Command}
  {name : String}

theorem exists_command?_iff : (∃ spec, c.command? name = some spec) ↔
    ∃ spec ∈ c.commands, Text.lowered spec.name = Text.lowered (Text.trimmed name) := by
  rw [← Option.isSome_iff_exists, command?, List.find?_isSome]
  simp only [beq_iff_eq]

theorem mem_of_command? (found : c.command? name = some spec) :
    spec ∈ c.commands ∧ nameKey spec.name = nameKey name := by
  have same := List.find?_some found
  exact ⟨List.mem_of_find?_eq_some found, nameKey_eq_of_lowered (by simpa using same)⟩

/-- The command is made of an entry and the grammar of the entry's own template. -/
def MadeOf (b : GrammarBuilder) (spec : CommandSpec) (command : Command) : Prop :=
  ∃ g, (b.build (.text spec.template)).answer = .ok (.ok g) ∧ commandFor spec g = .ok (.ok command)

theorem MadeOf.key_eq (made : MadeOf b spec command) : nameKey command.name = nameKey spec.name := by
  obtain ⟨g, _, made⟩ := made
  rw [(echoes_of_commandFor made).name, nameKey_trimmed]

theorem Nameable.eq_of_key {other : CommandSpec} (nameable : c.Nameable) (member : spec ∈ c.commands)
    (member' : other ∈ c.commands) (same : nameKey spec.name = nameKey other.name) : spec = other :=
  List.inj_on_of_nodup_map nameable.distinct member member' same

/-- Both look-ups of a name find something or neither does, and what they find belongs together. -/
structure FindsAlike (c : Catalog) (b : GrammarBuilder) (group : Group) (name : String) : Prop where
  found : (∃ spec, c.command? name = some spec) ↔
    ∃ command, group.processor.commands.get? (.text name) = some command
  made : ∀ spec command, c.command? name = some spec →
    group.processor.commands.get? (.text name) = some command → MadeOf b spec command

/-- A group whose commands are those made of the entries of a catalog, each one found under all names
with its normal form. -/
structure Holds (c : Catalog) (b : GrammarBuilder) (group : Group) : Prop where
  nameable : c.Nameable
  each : ∀ spec ∈ c.commands, ∃ command, MadeOf b spec command
  found : ∀ name command, group.processor.commands.get? (.text name) = some command ↔
    ∃ spec ∈ c.commands, nameKey spec.name = nameKey name ∧ MadeOf b spec command

theorem exists_holds_of_buildGroup
    (built : (c.buildGroup unknown validator home).answer = .ok (.ok group)) :
    ∃ b, c.builder unknown = .ok (.ok b) ∧ c.Holds b group := by
  obtain ⟨gs, compiled⟩ := exists_compile_of_buildGroup built
  have nameable := nameable_of_buildGroup compiled (target_of_buildGroup compiled built) built
  have registered := registered_of_buildGroup compiled built
  have entries := commands_of_buildGroup compiled built
  obtain ⟨b, makes, _, grammars⟩ := exists_builder_of_compile compiled nameable.distinct_names
  have made_iff : ∀ spec ∈ c.commands, ∀ command,
      entryCommand? gs spec = some command ↔ MadeOf b spec command := by
    intro spec member command
    obtain ⟨g, found, builds⟩ := grammars spec member
    simp only [entryCommand?_eq_some_iff, MadeOf, found, builds, Option.some.injEq, Except.ok.injEq]
  have values_iff : ∀ command, command ∈ group.processor.commands.values ↔
      ∃ spec ∈ c.commands, entryCommand? gs spec = some command := by
    intro command
    rw [← List.mem_map, entries]
    simp
  refine ⟨b, makes, nameable, fun spec member => ?_, fun name command => ?_⟩
  · have listed : entryCommand? gs spec ∈ group.processor.commands.values.map some :=
      entries ▸ List.mem_map_of_mem member
    obtain ⟨command, _, made⟩ := List.mem_map.mp listed
    exact ⟨command, (made_iff spec member command).mp made.symm⟩
  · rw [registered.get?_eq_some_iff, values_iff]
    constructor
    · rintro ⟨⟨spec, member, made⟩, same⟩
      have made := (made_iff spec member command).mp made
      exact ⟨spec, member, made.key_eq.symm.trans same, made⟩
    · rintro ⟨spec, member, same, made⟩
      exact ⟨⟨spec, member, (made_iff spec member command).mpr made⟩, made.key_eq.trans same⟩

namespace Holds

variable (holds : c.Holds b group)
include holds

/-- What the catalog finds, the group finds too. -/
theorem exists_get?_of_command? (found : c.command? name = some spec) :
    ∃ command, group.processor.commands.get? (.text name) = some command ∧ MadeOf b spec command := by
  obtain ⟨member, same⟩ := mem_of_command? found
  obtain ⟨command, made⟩ := holds.each spec member
  exact ⟨command, (holds.found name command).mpr ⟨spec, member, same, made⟩, made⟩

theorem exists_get?_iff : (∃ command, group.processor.commands.get? (.text name) = some command) ↔
    ∃ spec ∈ c.commands, nameKey spec.name = nameKey name := by
  constructor
  · rintro ⟨command, found⟩
    obtain ⟨spec, member, same, _⟩ := (holds.found name command).mp found
    exact ⟨spec, member, same⟩
  · rintro ⟨spec, member, same⟩
    obtain ⟨command, made⟩ := holds.each spec member
    exact ⟨command, (holds.found name command).mpr ⟨spec, member, same, made⟩⟩

theorem findsAlike_iff : c.FindsAlike b group name ↔ ∀ spec ∈ c.commands,
    nameKey spec.name = nameKey name → Text.lowered spec.name = Text.lowered (Text.trimmed name) := by
  constructor
  · intro alike spec member same
    obtain ⟨other, listed, lowered⟩ := exists_command?_iff.mp
      (alike.found.mpr (holds.exists_get?_iff.mpr ⟨spec, member, same⟩))
    have key := same.trans (nameKey_eq_of_lowered lowered).symm
    rwa [holds.nameable.eq_of_key member listed key]
  · intro letters
    constructor
    · rw [holds.exists_get?_iff, exists_command?_iff]
      constructor
      · rintro ⟨spec, member, lowered⟩
        exact ⟨spec, member, nameKey_eq_of_lowered lowered⟩
      · rintro ⟨spec, member, same⟩
        exact ⟨spec, member, letters spec member same⟩
    · intro spec command found dispatched
      obtain ⟨other, dispatched', made⟩ := holds.exists_get?_of_command? found
      rw [dispatched] at dispatched'
      obtain rfl := Option.some.inj dispatched'
      exact made

end Holds

/-- A group finds a command under all names with the normal form of its own, whatever it validates by
and writes for. A catalog finds the entry of that command, or nothing; it finds nothing exactly under
the names that differ from the one of the entry in more than case and the blanks around them. -/
theorem findsAlike_iff_lowered (c : Catalog) (unknown home : Value) (validator : Option Callback)
    (group : Group) (built : (c.buildGroup unknown validator home).answer = .ok (.ok group)) :
    ∃ b, c.builder unknown = .ok (.ok b) ∧
      (∀ name command, group.processor.commands.get? (.text name) = some command ↔
        ∃ spec ∈ c.commands, nameKey spec.name = nameKey name ∧ MadeOf b spec command) ∧
      (∀ name spec, c.command? name = some spec → ∃ command,
        group.processor.commands.get? (.text name) = some command ∧ MadeOf b spec command) ∧
      ∀ name, c.FindsAlike b group name ↔ ∀ spec ∈ c.commands, nameKey spec.name = nameKey name →
        Text.lowered spec.name = Text.lowered (Text.trimmed name) := by
  obtain ⟨b, makes, holds⟩ := exists_holds_of_buildGroup built
  exact ⟨b, makes, holds.found, fun name spec => holds.exists_get?_of_command?,
    fun name => holds.findsAlike_iff⟩

theorem findsAlike_padded :
    ∃ group, ((pairNamed "a-b" "b-a").buildGroup (.text "strict") none (.text "text")).answer =
        .ok (.ok group) ∧
      ∃ b, (pairNamed "a-b" "b-a").builder (.text "strict") = .ok (.ok b) ∧
        (pairNamed "a-b" "b-a").FindsAlike b group "  A-B\n" := by
  let c := pairNamed "a-b" "b-a"
  have compiled : (c.compile (.text "strict")).answer =
      .ok (.ok [("a-b", wordGrammar), ("b-a", wordGrammar)]) :=
    bind_toOption_eq_some_iff.mp (by decide +kernel)
  have valid : FormatTarget.ofValue (.text "text") = .ok .text := by rfl
  obtain ⟨outcome, built, registered⟩ := buildGroup_answers none compiled valid
  obtain ⟨group, rfl⟩ := registered.mpr ⟨by decide +kernel, by decide +kernel⟩
  obtain ⟨b, makes, _, _, alike⟩ :=
    findsAlike_iff_lowered c (.text "strict") (.text "text") none group built
  exact ⟨group, built, b, makes, (alike "  A-B\n").mpr (by decide +kernel)⟩

/-- A command whose name ends with a blank is not found in the catalog under its own name, nor without
the blank; and one with a stroke is not found without the stroke. The group finds both. -/
theorem not_findsAlike_spelled :
    let text := "version: 1\nprefix:\nfields:\n  n: \x7bpattern: \\w+\x7d\ncommands:\n"
      ++ "  'go ': \x7btemplate: '\x7b\x7bn\x7d\x7d', examples: []\x7d\n"
      ++ "  a-b: \x7btemplate: '\x7b\x7bn\x7d\x7d', examples: []\x7d\n"
    let told := document none [("n", "\\w+")]
      [("go ", "\x7b\x7bn\x7d\x7d", []), ("a-b", "\x7b\x7bn\x7d\x7d", [])]
    let c := pairNamed "go " "a-b"
    (load (Reader.only text told) ⟨"", ["catalog.yaml"]⟩ (.file text)).answer = .ok c ∧
      ∃ group b, (c.buildGroup (.text "strict") none (.text "text")).answer = .ok (.ok group) ∧
        c.builder (.text "strict") = .ok (.ok b) ∧
        ∀ name ∈ ["go ", "go", "ab"], c.command? name = none ∧ ¬ c.FindsAlike b group name := by
  intro text told c
  have compiled : (c.compile (.text "strict")).answer =
      .ok (.ok [("go ", wordGrammar), ("a-b", wordGrammar)]) :=
    bind_toOption_eq_some_iff.mp (by decide +kernel)
  have valid : FormatTarget.ofValue (.text "text") = .ok .text := by rfl
  obtain ⟨outcome, built, registered⟩ := buildGroup_answers none compiled valid
  obtain ⟨group, rfl⟩ := registered.mpr ⟨by decide +kernel, by decide +kernel⟩
  obtain ⟨b, makes, holds⟩ := exists_holds_of_buildGroup built
  refine ⟨by decide +kernel, group, b, built, makes, fun name listed => ?_⟩
  rw [holds.findsAlike_iff]
  revert name
  decide +kernel

end Catalog
end LineCommand
