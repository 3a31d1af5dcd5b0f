import LineCommand.Console.Basic
import LineCommand.Proofs.Dispatch.Registration
import LineCommand.Proofs.Grammar.Fragments
import LineCommand.Proofs.Naming.Table

/-! Which catalogs can be dispatched. Checking a catalog keys its grammars by the spelling of the
names, while a group registers its commands under their normal forms, so a catalog may stand the
check and yet make no group. -/
namespace LineCommand

namespace Catalog

variable {c : Catalog} {gs : Grammars} {unknown target : Value} {t : FormatTarget}
  {validator : Option Callback}

/-! ### Grammars -/

def Grammars.names (gs : Grammars) : List String := gs.map (·.1)

theorem Grammars.exists_lookup {name : String} (known : name ∈ gs.names) :
    ∃ g, gs.lookup name = some g := by
  cases found : gs.lookup name with
  | some g => exact ⟨g, rfl⟩
  | none =>
    obtain ⟨e, member, rfl⟩ := List.mem_map.mp known
    have other := List.lookup_eq_none_iff.mp found e member
    simp at other

theorem Grammars.mem_names_insert {name other : String} {g : Grammar} :
    other ∈ (gs.insert name g).names ↔ other = name ∨ other ∈ gs.names := by
  unfold Grammars.insert
  split
  case isTrue there =>
    have known : name ∈ gs.names := by simpa [Grammars.names] using there
    rw [Grammars.names, List.map_map]
    change other ∈ gs.names ↔ _
    constructor
    · exact .inr
    · rintro (rfl | member)
      · exact known
      · exact member
  case isFalse =>
    simp [Grammars.names, or_comm]

/-- Where every template gives a grammar, every command has one. -/
theorem names_buildEach {b : GrammarBuilder} {made final : Grammars} {specs : List CommandSpec}
    (built : (buildEach b made specs).answer = .ok (final, [])) :
    ∀ name, name ∈ made.names ∨ name ∈ specs.map (·.name) → name ∈ final.names := by
  induction specs generalizing made final with
  | nil =>
    cases built
    intro name known
    simpa using known
  | cons spec rest ih =>
    rw [buildEach] at built
    obtain ⟨outcome, _, rested⟩ := Act.answer_bind_eq_ok_iff.mp built
    cases outcome with
    | error failure =>
      -- A template without a grammar leaves a report.
      obtain ⟨found, _, reported⟩ := Act.answer_bind_eq_ok_iff.mp rested
      cases reported
    | ok g =>
      intro name known
      apply ih rested
      rw [Grammars.mem_names_insert]
      rcases known with known | known
      · exact .inl (.inr known)
      · rcases List.mem_cons.mp known with rfl | known
        · exact .inl (.inl rfl)
        · exact .inr known

theorem exists_buildEach_of_compile (compiled : (c.compile unknown).answer = .ok (.ok gs)) :
    ∃ b, c.builder unknown = .ok (.ok b) ∧ (buildEach b [] c.commands).answer = .ok (gs, []) := by
  obtain ⟨made?, made, compiled⟩ := Act.answer_bind_eq_ok_iff.mp compiled
  cases made? with
  | error failure => cases compiled
  | ok b =>
    obtain ⟨⟨final, problems⟩, built, compiled⟩ := Act.answer_bind_eq_ok_iff.mp compiled
    cases problems with
    | cons problem others => cases compiled
    | nil =>
      cases compiled
      exact ⟨b, made, built⟩

theorem exists_lookup_of_compile (compiled : (c.compile unknown).answer = .ok (.ok gs)) :
    ∀ spec ∈ c.commands, ∃ g, gs.lookup spec.name = some g := by
  obtain ⟨b, _, built⟩ := exists_buildEach_of_compile compiled
  intro spec member
  apply Grammars.exists_lookup
  exact names_buildEach built spec.name (.inr (List.mem_map_of_mem member))

end Catalog

/-! ### Registering -/

/-- The normal forms of the names that a group has registered. -/
def Group.keys (g : Group) : List String := g.processor.commands.entries.map (·.key)

theorem Group.exists_empty {target : Value} {t : FormatTarget} (leadWord : Option String)
    (validator : Option Callback) (valid : FormatTarget.ofValue target = .ok t) :
    ∃ g, Group.empty leadWord validator target = .ok g ∧ g.keys = [] := by
  simp only [Group.empty, Processor.empty, valid]
  exact ⟨_, rfl, rfl⟩

/-- The name has a normal form that is not taken. -/
def Group.Free (g : Group) (name : String) : Prop := nameKey name ≠ "" ∧ nameKey name ∉ g.keys

/-- A group takes a command if its processor does. -/
theorem Group.add_eq_ok_iff {g next : Group} {command : Command} :
    (g.add command).answer = .ok (.ok next) ↔
      ∃ processor, (g.processor.add command).answer = .ok processor ∧
        next = { g with processor } := by
  simp only [Group.add, Group.addSupplied, Processor.addSupplied, Act.answer_bind, Act.capture]
  cases (g.processor.add command).answer with
  | error fault =>
    simp only [reduceCtorEq, false_and, exists_false, iff_false, Outcome.capture]
    cases fault.summary <;> rintro ⟨⟩
  | ok processor =>
    simp only [Except.ok.injEq, exists_eq_left']
    constructor
    · rintro ⟨⟩
      rfl
    · rintro rfl
      rfl

theorem Group.add_of_free {g : Group} {command : Command} (free : g.Free command.name) :
    ∃ next, (g.add command).answer = .ok (.ok next) ∧
      next.keys = g.keys ++ [nameKey command.name] := by
  obtain ⟨processor, added, keys, _⟩ := Processor.add_of_free free.1 free.2
  exact ⟨_, Group.add_eq_ok_iff.mpr ⟨processor, added, rfl⟩, keys⟩

theorem Group.add_of_not_free {g : Group} {command : Command} (unfit : ¬ g.Free command.name) :
    ∃ failure, (g.add command).answer = .ok (.error failure) := by
  simp only [Group.add, Group.addSupplied, Processor.addSupplied, Processor.add]
  cases added : g.processor.commands.add (.text command.name) command with
  | error failure => exact ⟨_, rfl⟩
  | ok commands =>
    obtain ⟨key, normal, free, _⟩ := NameTable.add_eq_ok_iff.mp added
    obtain ⟨rfl, named⟩ := normalizeName_eq_ok_iff.mp normal
    exact absurd ⟨named, free⟩ unfit

namespace Catalog

variable {c : Catalog} {gs : Grammars} {unknown target : Value} {t : FormatTarget}
  {validator : Option Callback} {spec : CommandSpec} {g : Grammar}

/-- An entry whose name has a normal form makes a command with that normal form. -/
theorem commandFor_of_named (named : nameKey spec.name ≠ "") :
    ∃ command, commandFor spec g = .ok (.ok command) ∧ nameKey command.name = nameKey spec.name := by
  have normal := normalizeName_eq_ok_iff.mpr ⟨rfl, named⟩
  simp only [commandFor, Command.create, normal]
  exact ⟨_, rfl, nameKey_trimmed spec.name⟩

theorem commandFor_of_unnamed (unnamed : nameKey spec.name = "") :
    ∃ failure, commandFor spec g = .ok (.error failure) := by
  unfold commandFor Command.create
  cases normal : normalizeName (.text spec.name) with
  | error failure => exact ⟨_, rfl⟩
  | ok key => exact absurd unnamed (normalizeName_eq_ok_iff.mp normal).2

/-- One entry is registered if its name is free. -/
theorem addEach_of_free {group : Group} (rest : List CommandSpec)
    (found : gs.lookup spec.name = some g) (free : group.Free spec.name) :
    ∃ next : Group, next.keys = group.keys ++ [nameKey spec.name] ∧
      (addEach gs group (spec :: rest)).answer = (addEach gs next rest).answer := by
  obtain ⟨command, made, same⟩ := commandFor_of_named (g := g) free.1
  have fit : group.Free command.name := by rwa [Group.Free, same]
  obtain ⟨next, added, keys⟩ := Group.add_of_free fit
  refine ⟨next, same ▸ keys, ?_⟩
  simp only [addEach, found, Act.answer_bind, Act.answer_ofExcept, made, added, Except.bind]

theorem addEach_of_not_free {group : Group} (rest : List CommandSpec)
    (found : gs.lookup spec.name = some g) (unfit : ¬ group.Free spec.name) :
    ∃ failure, (addEach gs group (spec :: rest)).answer = .ok (.error failure) := by
  by_cases named : nameKey spec.name = ""
  · obtain ⟨failure, made⟩ := commandFor_of_unnamed (g := g) named
    refine ⟨failure, ?_⟩
    simp only [addEach, found, Act.answer_bind, Act.answer_ofExcept, made, Except.bind,
      Act.answer_pure]
  · obtain ⟨command, made, same⟩ := commandFor_of_named (g := g) named
    have taken : ¬ group.Free command.name := by rwa [Group.Free, same]
    obtain ⟨failure, added⟩ := Group.add_of_not_free taken
    refine ⟨failure, ?_⟩
    simp only [addEach, found, Act.answer_bind, Act.answer_ofExcept, made, added, Except.bind,
      Act.answer_pure]

/-- All entries are registered if their names are free and none takes that of another. Otherwise
that is a failure. -/
theorem addEach_answers {group : Group} {specs : List CommandSpec}
    (known : ∀ spec ∈ specs, ∃ g, gs.lookup spec.name = some g) (unique : group.keys.Nodup) :
    ∃ outcome, (addEach gs group specs).answer = .ok outcome ∧
      ((∃ next, outcome = .ok next) ↔ (∀ spec ∈ specs, nameKey spec.name ≠ "") ∧
        (group.keys ++ specs.map fun spec => nameKey spec.name).Nodup) := by
  induction specs generalizing group with
  | nil => exact ⟨_, rfl, by simpa using unique⟩
  | cons spec rest ih =>
    obtain ⟨g, found⟩ := known spec List.mem_cons_self
    have behind : ∀ spec ∈ rest, ∃ g, gs.lookup spec.name = some g :=
      fun spec member => known spec (List.mem_cons_of_mem _ member)
    by_cases free : group.Free spec.name
    · obtain ⟨next, keys, same⟩ := addEach_of_free rest found free
      have distinct : next.keys.Nodup := by
        rw [keys, ← List.concat_eq_append]
        exact List.Nodup.concat free.2 unique
      obtain ⟨outcome, answered, registered⟩ := ih behind distinct
      refine ⟨outcome, same.trans answered, registered.trans ?_⟩
      rw [keys, List.append_assoc, List.forall_mem_cons, List.map_cons, List.singleton_append,
        and_iff_right free.1]
    · obtain ⟨failure, refused⟩ := addEach_of_not_free rest found free
      refine ⟨_, refused, iff_of_false (by simp) ?_⟩
      rintro ⟨named, distinct⟩
      apply free
      refine ⟨named spec List.mem_cons_self, ?_⟩
      intro taken
      exact List.disjoint_of_nodup_append distinct taken (by simp)

/-! ### Groups -/

/-- Every name has a normal form, and no two names have the same one. -/
structure Nameable (c : Catalog) : Prop where
  named : ∀ spec ∈ c.commands, nameKey spec.name ≠ ""
  distinct : (c.commands.map fun spec => nameKey spec.name).Nodup

/-- All templates compile, and all examples match. -/
structure Passes (c : Catalog) (unknown : Value) (gs : Grammars) : Prop where
  compiled : (c.compile unknown).answer = .ok (.ok gs)
  clean : (c.checkExamples gs).answer = .ok []

/-- Where all templates compile, the answer is a group or a failure, and it is a group exactly if
the names can be told apart. -/
theorem buildGroup_answers (validator : Option Callback)
    (compiled : (c.compile unknown).answer = .ok (.ok gs))
    (valid : FormatTarget.ofValue target = .ok t) :
    ∃ outcome, (c.buildGroup unknown validator target).answer = .ok outcome ∧
      ((∃ group, outcome = .ok group) ↔ c.Nameable) := by
  obtain ⟨empty, made, keys⟩ := Group.exists_empty c.leadWord validator valid
  have known := exists_lookup_of_compile compiled
  have unique : empty.keys.Nodup := by
    rw [keys]
    exact List.nodup_nil
  obtain ⟨outcome, answered, registered⟩ := addEach_answers known unique
  refine ⟨outcome, ?_, ?_⟩
  · simp only [buildGroup, Act.answer_bind, compiled, Except.bind, Act.answer_ofExcept, made,
      answered]
    cases outcome <;> rfl
  · rw [registered, keys, List.nil_append]
    constructor
    · rintro ⟨named, distinct⟩
      exact ⟨named, distinct⟩
    · rintro ⟨named, distinct⟩
      exact ⟨named, distinct⟩

/-- A catalog that passes makes a group exactly if its names can be told apart, and else a
failure. -/
theorem exists_buildGroup_iff_nameable (c : Catalog) (unknown target : Value)
    (validator : Option Callback) (passes : c.Passes unknown gs)
    (valid : FormatTarget.ofValue target = .ok t) :
    ((∃ group, (c.buildGroup unknown validator target).answer = .ok (.ok group)) ↔ c.Nameable) ∧
      ∃ outcome, (c.buildGroup unknown validator target).answer = .ok outcome := by
  obtain ⟨outcome, built, registered⟩ := buildGroup_answers validator passes.compiled valid
  rw [built, ← registered]
  refine ⟨?_, outcome, rfl⟩
  constructor
  · rintro ⟨group, same⟩
    exact ⟨group, Except.ok.inj same⟩
  · rintro ⟨group, rfl⟩
    exact ⟨group, rfl⟩

deriving instance DecidableEq for NameEntry, NameTable, Catalog

def Reader.only (text : String) (v : Value) : Reader := fun cs =>
  if cs = text.toList then .ok v else .error (.of .badCatalogText "")

/-- What the text of a catalog says: the leading word, the patterns of the fields, and the templates
and examples of the commands. -/
def document (lead : Option String) (patterns : List (String × String))
    (commands : List (String × String × List String)) : Value :=
  let field (pattern : String) : Value := .dict [(.text "pattern", .text pattern)]
  let command (template : String) (examples : List String) : Value :=
    .dict [(.text "template", .text template), (.text "examples", .list (examples.map .text))]
  .dict
    [(.text "version", .int 1),
      (.text "prefix", (lead.map Value.text).getD .none),
      (.text "fields", .dict (patterns.map fun (name, pattern) => (.text name, field pattern))),
      (.text "commands", .dict (commands.map fun (name, template, examples) =>
        (.text name, command template examples)))]

def pairNamed (first second : String) : Catalog :=
  let command (name : String) : CommandSpec := ⟨name, "", "\x7b\x7bn\x7d\x7d", []⟩
  { version := "1"
    fields := ⟨[⟨"n", "n", ⟨"n", "\\w+", false, 0⟩⟩]⟩
    commands := [command first, command second]
    leadWord := none
    source := some ⟨"", ["catalog.yaml"]⟩ }

def wordGrammar : Grammar :=
  { expression :=
      { source := "^\\s*(\\w+)\\s*$"
        pattern := .sequence [.anchor .textStart,
          .again 0 none .greedy (.one ⟨[.kind .blank false], false, .exact, false⟩),
          .group 1 (.sequence
            [.again 1 none .greedy (.one ⟨[.kind .word false], false, .exact, false⟩)]),
          .again 0 none .greedy (.one ⟨[.kind .blank false], false, .exact, false⟩),
          .anchor .lastLineEnd]
        groups := 1 }
    slots := [⟨"n", 0⟩]
    template := "\x7b\x7bn\x7d\x7d" }

theorem passes_of_compile {gs : Grammars}
    (compiled : (c.compile unknown).answer.toOption.bind Except.toOption = some gs)
    (clean : (c.checkExamples gs).answer = .ok []) : c.Passes unknown gs :=
  ⟨bind_toOption_eq_some_iff.mp compiled, clean⟩

theorem exists_buildGroup_apart :
    let gs : Grammars := [("a-b", wordGrammar), ("b-a", wordGrammar)]
    (pairNamed "a-b" "b-a").Passes (.text "strict") gs ∧
      FormatTarget.ofValue (.text "text") = .ok .text ∧
      ∃ group, ((pairNamed "a-b" "b-a").buildGroup (.text "strict") none (.text "text")).answer =
        .ok (.ok group) := by
  intro gs
  have passes : (pairNamed "a-b" "b-a").Passes (.text "strict") gs :=
    passes_of_compile (by decide +kernel) (by rfl)
  have valid : FormatTarget.ofValue (.text "text") = .ok .text := by rfl
  have nameable : (pairNamed "a-b" "b-a").Nameable :=
    ⟨by decide +kernel, by decide +kernel⟩
  exact ⟨passes, valid,
    (exists_buildGroup_iff_nameable _ _ _ none passes valid).1.mpr nameable⟩

/-- Names that differ in nothing but punctuation stand the check, but make no group. -/
theorem not_exists_buildGroup_alike :
    let text := "version: 1\nprefix:\nfields:\n  n: \x7bpattern: \\w+\x7d\ncommands:\n"
      ++ "  a-b: \x7btemplate: '\x7b\x7bn\x7d\x7d', examples: []\x7d\n"
      ++ "  ab: \x7btemplate: '\x7b\x7bn\x7d\x7d', examples: []\x7d\n"
    let told := document none [("n", "\\w+")]
      [("a-b", "\x7b\x7bn\x7d\x7d", []), ("ab", "\x7b\x7bn\x7d\x7d", [])]
    let gs : Grammars := [("a-b", wordGrammar), ("ab", wordGrammar)]
    (load (Reader.only text told) ⟨"", ["catalog.yaml"]⟩ (.file text)).answer =
        .ok (pairNamed "a-b" "ab") ∧
      (pairNamed "a-b" "ab").Passes (.text "strict") gs ∧
      ¬ ∃ group, ((pairNamed "a-b" "ab").buildGroup (.text "strict") none (.text "text")).answer =
        .ok (.ok group) := by
  intro text told gs
  have passes : (pairNamed "a-b" "ab").Passes (.text "strict") gs :=
    passes_of_compile (by decide +kernel) (by rfl)
  refine ⟨by decide +kernel, passes, ?_⟩
  rintro ⟨group, built⟩
  have valid : FormatTarget.ofValue (.text "text") = .ok .text := by rfl
  obtain ⟨outcome, answered, registered⟩ := buildGroup_answers none passes.compiled valid
  obtain rfl := Except.ok.inj (answered.symm.trans built)
  have alike : ¬ ["ab", "ab"].Nodup := by decide
  exact alike (registered.mp ⟨group, rfl⟩).distinct

end Catalog
end LineCommand
