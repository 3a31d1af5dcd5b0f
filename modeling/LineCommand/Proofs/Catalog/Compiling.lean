import Mathlib.Data.List.Dedup
import LineCommand.Proofs.Catalog.Answering

/-! What compiling a catalog comes to. Every template is built by itself, and what it gives is kept
under the name of its command, which is the text of a key. Keys of different kinds may have the same
text; then the grammar of the last of their commands stands for all of them. -/
namespace LineCommand

/-! ### Fields of a catalog -/

theorem FieldRegistry.size_of_ofEntries {entries : List (Value × Value)} {r : FieldRegistry}
    (made : ofEntries entries = .ok r) : r.size = entries.length := by
  rw [(listsFields_of_ofEntries made).1.length_eq, NameTable.values, List.length_map]
  rfl

namespace Catalog

variable {c : Catalog} {gs made : Grammars} {b : GrammarBuilder} {spec : CommandSpec}
  {specs : List CommandSpec}

theorem size_of_fieldsOf {name : String} {v? : Option Value} {r : FieldRegistry}
    (read : fieldsOf name v? = .ok r) : r.size ≠ 0 := by
  unfold fieldsOf entries? at read
  split at read
  · cases read
  case h_2 entries listed =>
    obtain ⟨registered, loaded, read⟩ := except_bind_eq_ok_iff.mp read
    cases registered with
    | error failure => cases read
    | ok registry =>
      cases read
      rw [FieldRegistry.size_of_ofEntries (FieldRegistry.load_eq_ok_iff.mp loaded).2]
      split at listed
      · cases listed
        exact Nat.succ_ne_zero _
      · cases listed

theorem size_of_ofValue {v : Value} {source : Option Path} (read : ofValue v source = .ok c) :
    c.fields.size ≠ 0 := by
  unfold ofValue at read
  split at read
  · dsimp only at read
    split at read
    · cases read
    · obtain ⟨word, _, read⟩ := except_bind_eq_ok_iff.mp read
      obtain ⟨fields, registered, read⟩ := except_bind_eq_ok_iff.mp read
      obtain ⟨commands, _, read⟩ := except_bind_eq_ok_iff.mp read
      obtain ⟨version, _, read⟩ := except_bind_eq_ok_iff.mp read
      cases read
      exact size_of_fieldsOf registered
  · cases read

theorem builder_of_size (some : c.fields.size ≠ 0) (u : UnknownFields) :
    c.builder u.toValue = .ok (.ok ⟨c.fields, u, {}⟩) := by
  have policy : UnknownFields.ofValue u.toValue = .ok u := by cases u <;> rfl
  rw [builder, GrammarBuilder.createFrom, GrammarBuilder.make.ofRegistry, if_neg some, policy]
  rfl

/-! ### Compiling -/

def ownGrammar? (b : GrammarBuilder) (spec : CommandSpec) : Option Grammar :=
  (b.build (.text spec.template)).answer.toOption.bind Except.toOption

theorem ownGrammar?_eq_some_iff {g : Grammar} :
    ownGrammar? b spec = some g ↔ (b.build (.text spec.template)).answer = .ok (.ok g) :=
  bind_toOption_eq_some_iff

/-- What is reported about a command whose template gives none. -/
def report? (b : GrammarBuilder) (spec : CommandSpec) : Option String :=
  match (b.build (.text spec.template)).answer with
  | .ok (.error failure) => some s!"{spec.name}: {failure.message}"
  | _ => none

def collected (b : GrammarBuilder) (made : Grammars) (specs : List CommandSpec) : Grammars :=
  specs.foldl (fun gs spec => ((ownGrammar? b spec).map (gs.insert spec.name)).getD gs) made

theorem collected_cons : collected b made (spec :: specs) =
    collected b (((ownGrammar? b spec).map (made.insert spec.name)).getD made) specs := rfl

/-- A template gives a grammar, or there is a report. -/
theorem ownGrammar?_or_report? (b : GrammarBuilder) (spec : CommandSpec) :
    (∃ g, ownGrammar? b spec = some g ∧ report? b spec = none) ∨
      ownGrammar? b spec = none ∧ ∃ problem, report? b spec = some problem := by
  obtain ⟨outcome, built⟩ := b.answers_build spec.template
  cases outcome with
  | error failure => exact .inr ⟨by rw [ownGrammar?, built]; rfl, _, by rw [report?, built]⟩
  | ok g => exact .inl ⟨g, ownGrammar?_eq_some_iff.mpr built, by rw [report?, built]⟩

theorem answer_buildEach (b : GrammarBuilder) (made : Grammars) (specs : List CommandSpec) :
    (buildEach b made specs).answer = .ok (collected b made specs, specs.filterMap (report? b)) := by
  induction specs generalizing made with
  | nil => rfl
  | cons spec rest ih =>
    obtain ⟨outcome, built⟩ := b.answers_build spec.template
    rw [buildEach]
    refine Act.answer_bind_eq_ok_iff.mpr ⟨outcome, built, ?_⟩
    cases outcome with
    | ok g =>
      have own : ownGrammar? b spec = some g := ownGrammar?_eq_some_iff.mpr built
      have silent : report? b spec = none := by rw [report?, built]
      rw [List.filterMap_cons, silent, collected_cons, own]
      exact ih (made.insert spec.name g)
    | error failure =>
      have none : ownGrammar? b spec = none := by
        rw [ownGrammar?, built]
        rfl
      have reported : report? b spec = some s!"{spec.name}: {failure.message}" := by
        rw [report?, built]
      refine Act.answer_bind_eq_ok_iff.mpr ⟨_, ih made, ?_⟩
      rw [List.filterMap_cons, reported, collected_cons, none]
      rfl

theorem answer_compile {unknown : Value} (builds : c.builder unknown = .ok (.ok b)) :
    (c.compile unknown).answer = .ok
      (if c.commands.filterMap (report? b) = [] then .ok (collected b [] c.commands)
      else fail .configuration (Text.joined "\n" (c.commands.filterMap (report? b)))) := by
  refine Act.answer_bind_eq_ok_iff.mpr ⟨_, builds, ?_⟩
  refine Act.answer_bind_eq_ok_iff.mpr ⟨_, answer_buildEach b [] c.commands, ?_⟩
  simp only [List.isEmpty_iff]
  split <;> rfl

theorem report?_eq_none_iff : report? b spec = none ↔ ∃ g, ownGrammar? b spec = some g := by
  obtain ⟨g, own, silent⟩ | ⟨none, problem, reported⟩ := ownGrammar?_or_report? b spec
  · exact iff_of_true silent ⟨g, own⟩
  · rw [reported, none]
    exact iff_of_false nofun nofun

/-- There is nothing to report if every template gives a grammar. -/
theorem unreported_iff : specs.filterMap (report? b) = [] ↔
    ∀ spec ∈ specs, ∃ g, ownGrammar? b spec = some g := by
  rw [List.filterMap_eq_nil_iff]
  exact forall₂_congr fun spec _ => report?_eq_none_iff

/-! ### What is collected -/

theorem Grammars.nodup_names_insert {name : String} {g : Grammar} (distinct : gs.names.Nodup) :
    (gs.insert name g).names.Nodup := by
  unfold Grammars.insert
  split
  case isTrue =>
    rw [Grammars.names, List.map_map]
    exact distinct
  case isFalse absent =>
    have free : name ∉ gs.names := by simpa [Grammars.names] using absent
    rw [Grammars.names, List.map_append, List.map_singleton, ← List.concat_eq_append]
    exact List.Nodup.concat free distinct

theorem nodup_names_collected (distinct : made.names.Nodup) :
    (collected b made specs).names.Nodup := by
  induction specs generalizing made with
  | nil => exact distinct
  | cons spec rest ih =>
    rw [collected_cons]
    apply ih
    cases ownGrammar? b spec with
    | none => exact distinct
    | some g => exact Grammars.nodup_names_insert distinct

section Built

variable (all : ∀ spec ∈ specs, ∃ g, ownGrammar? b spec = some g)
include all

theorem mem_names_collected {name : String} :
    name ∈ (collected b made specs).names ↔ name ∈ made.names ∨ name ∈ specs.map (·.name) := by
  induction specs generalizing made with
  | nil => simp [collected]
  | cons spec rest ih =>
    obtain ⟨⟨g, own⟩, others⟩ := List.forall_mem_cons.mp all
    rw [collected_cons, own, ih others, Option.map_some, Option.getD_some,
      Grammars.mem_names_insert, List.map_cons, List.mem_cons, or_assoc, or_left_comm]

/-- There is one grammar for each name. -/
theorem length_collected :
    (collected b [] specs).length = (specs.map (·.name)).dedup.length := by
  have distinct : (collected b [] specs).names.Nodup := nodup_names_collected List.nodup_nil
  have same : (collected b [] specs).names.Perm (specs.map (·.name)).dedup := by
    rw [List.perm_ext_iff_of_nodup distinct (List.nodup_dedup _)]
    intro name
    rw [mem_names_collected all, List.mem_dedup, or_iff_right]
    exact List.not_mem_nil
  rw [← same.length_eq, Grammars.names, List.length_map]

end Built

theorem lookup_collected_of_notMem {name : String} (apart : name ∉ specs.map (·.name)) :
    (collected b made specs).lookup name = made.lookup name := by
  induction specs generalizing made with
  | nil => rfl
  | cons spec rest ih =>
    rw [List.map_cons, List.mem_cons, not_or] at apart
    rw [collected_cons, ih apart.2]
    cases ownGrammar? b spec with
    | none => rfl
    | some g => rw [Option.map_some, Option.getD_some, Grammars.lookup_insert, if_neg apart.1]

/-- The last command of a name has its own grammar. -/
theorem lookup_collected {before after : List CommandSpec} {g : Grammar}
    (own : ownGrammar? b spec = some g) (last : spec.name ∉ after.map (·.name)) :
    (collected b made (before ++ spec :: after)).lookup spec.name = some g := by
  have behind : collected b made (before ++ spec :: after) =
      collected b (collected b made before) (spec :: after) := List.foldl_append
  rw [behind, collected_cons, own, lookup_collected_of_notMem last, Option.map_some,
    Option.getD_some, Grammars.lookup_insert, if_pos rfl]

/-! ### Examples -/

/-- What trying an example with the grammar of its own template comes to. -/
def ownProblem (b : GrammarBuilder) (spec : CommandSpec) (line : String) :
    Except Fault (Option String) :=
  match ownGrammar? b spec with
  | none => .ok none
  | some g => (exampleProblem spec g line).answer

/-- What trying all examples comes to, each with the grammar of its own template. -/
def ownProblems (b : GrammarBuilder) (specs : List CommandSpec) : Except Fault (List String) :=
  (specs.mapM fun spec : CommandSpec => spec.examples.mapM (ownProblem b spec)).map fun found =>
    found.flatten.filterMap id

theorem answer_checkExamples
    (own : ∀ spec ∈ c.commands, ∃ g, gs.lookup spec.name = some g ∧ ownGrammar? b spec = some g) :
    (c.checkExamples gs).answer = ownProblems b c.commands := by
  have tried : (c.commands.mapM fun spec : CommandSpec =>
        match gs.lookup spec.name with
        | none => pure []
        | some g => spec.examples.mapM (exampleProblem spec g)).answer =
      c.commands.mapM fun spec : CommandSpec => spec.examples.mapM (ownProblem b spec) := by
    refine (Act.answer_mapM _ _).trans (except_mapM_congr fun spec member => ?_)
    obtain ⟨g, found, built⟩ := own spec member
    rw [found]
    refine (Act.answer_mapM _ _).trans (except_mapM_congr fun line _ => ?_)
    rw [ownProblem, built]
  rw [checkExamples, Act.answer_bind]
  refine (congrArg (fun found : Except Fault (List (List (Option String))) =>
    found.bind fun found => .ok (found.flatten.filterMap id)) tried).trans ?_
  rw [ownProblems]
  cases c.commands.mapM fun spec : CommandSpec => spec.examples.mapM (ownProblem b spec) <;> rfl

/-! ### What compiling answers -/

/-- Every command has the grammar of its own template and there is one for each of them, so that
every example is tried with the grammar of its own command. -/
structure Faithful (c : Catalog) (b : GrammarBuilder) (gs : Grammars) : Prop where
  own : ∀ spec ∈ c.commands, ∃ g, gs.lookup spec.name = some g ∧
    (b.build (.text spec.template)).answer = .ok (.ok g)
  size : gs.length = c.commands.length
  checked : (c.checkExamples gs).answer = ownProblems b c.commands

/-- What compiling a catalog comes to, with what its templates give one by one. -/
structure CompilesTo (c : Catalog) (b : GrammarBuilder) (outcome : Outcome Grammars) : Prop where
  /-- Building a template gives a grammar or a failure. -/
  each : ∀ spec ∈ c.commands, ∃ built, (b.build (.text spec.template)).answer = .ok built
  succeeds : (∃ gs, outcome = .ok gs) ↔
    ∀ spec ∈ c.commands, ∃ g, (b.build (.text spec.template)).answer = .ok (.ok g)
  /-- A failure has one report for each command whose template fails, in their order. -/
  failed : ∀ failure, outcome = .error failure → failure =
    .of .configuration (Text.joined "\n" (c.commands.filterMap (report? b)))
  size : ∀ gs, outcome = .ok gs → gs.length = (c.commands.map (·.name)).dedup.length
  /-- Of the commands that share a name, the last one has its own grammar. -/
  last : ∀ gs, outcome = .ok gs → ∀ before spec after, c.commands = before ++ spec :: after →
    spec.name ∉ after.map (·.name) → ∃ g, gs.lookup spec.name = some g ∧
      (b.build (.text spec.template)).answer = .ok (.ok g)
  faithful : ∀ gs, outcome = .ok gs → (c.Faithful b gs ↔ (c.commands.map (·.name)).Nodup)

theorem faithful_iff_nodup
    (size : gs.length = (c.commands.map (·.name)).dedup.length)
    (last : ∀ before spec after, c.commands = before ++ spec :: after →
      spec.name ∉ after.map (·.name) → ∃ g, gs.lookup spec.name = some g ∧
        (b.build (.text spec.template)).answer = .ok (.ok g)) :
    c.Faithful b gs ↔ (c.commands.map (·.name)).Nodup := by
  constructor
  · intro faithful
    have whole : (c.commands.map (·.name)).dedup.length = (c.commands.map (·.name)).length := by
      rw [← size, faithful.size, List.length_map]
    exact List.dedup_eq_self.mp ((List.dedup_sublist _).eq_of_length whole)
  · intro distinct
    have own : ∀ spec ∈ c.commands, ∃ g, gs.lookup spec.name = some g ∧
        (b.build (.text spec.template)).answer = .ok (.ok g) := by
      intro spec member
      obtain ⟨before, after, split⟩ := List.append_of_mem member
      rw [split, List.map_append, List.map_cons] at distinct
      exact last before spec after split (List.nodup_cons.mp distinct.of_append_right).1
    refine ⟨own, by rw [size, distinct.dedup, List.length_map], ?_⟩
    apply answer_checkExamples
    simpa only [ownGrammar?_eq_some_iff] using own

/-- Compiling a catalog that was read always answers. It succeeds if every template gives a grammar,
and else reports each template that does not. Each command has its own grammar exactly if no two of
them have one name. -/
theorem exists_compilesTo (v : Value) (source : Option Path) (u : UnknownFields)
    (read : ofValue v source = .ok c) :
    c.builder u.toValue = .ok (.ok ⟨c.fields, u, {}⟩) ∧
      ∃ outcome, (c.compile u.toValue).answer = .ok outcome ∧
        c.CompilesTo ⟨c.fields, u, {}⟩ outcome := by
  have builds := builder_of_size (size_of_ofValue read) u
  obtain ⟨outcome, compiled, _⟩ := gives_compile (counted_of_ofValue read) u.toValue
  have answer := Except.ok.inj (compiled.symm.trans (answer_compile builds))
  refine ⟨builds, outcome, compiled, ?_⟩
  generalize (⟨c.fields, u, {}⟩ : GrammarBuilder) = b at answer
  have each : ∀ spec ∈ c.commands, ∃ built, (b.build (.text spec.template)).answer = .ok built :=
    fun spec _ => b.answers_build spec.template
  have all : c.commands.filterMap (report? b) = [] ↔ _ := unreported_iff
  by_cases silent : c.commands.filterMap (report? b) = []
  · rw [if_pos silent] at answer
    subst answer
    have grammars := all.mp silent
    have size := length_collected grammars
    have last : ∀ before spec after, c.commands = before ++ spec :: after →
        spec.name ∉ after.map (·.name) → ∃ g,
          (collected b [] c.commands).lookup spec.name = some g ∧
            (b.build (.text spec.template)).answer = .ok (.ok g) := by
      intro before spec after split apart
      obtain ⟨g, own⟩ := grammars spec (by simp [split])
      exact ⟨g, split ▸ lookup_collected own apart, ownGrammar?_eq_some_iff.mp own⟩
    simp only [ownGrammar?_eq_some_iff] at grammars
    refine ⟨each, iff_of_true ⟨_, rfl⟩ grammars, nofun, ?_, ?_, ?_⟩
    all_goals rintro _ ⟨⟩
    · exact size
    · exact last
    · exact faithful_iff_nodup size last
  · rw [if_neg silent] at answer
    subst answer
    simp only [ownGrammar?_eq_some_iff] at all
    refine ⟨each, iff_of_false nofun fun grammars => silent (all.mpr grammars), ?_, nofun, nofun,
      nofun⟩
    rintro _ ⟨⟩
    rfl

/-- The value of a catalog whose first command has a number as its key. -/
def numberedValue (second : Value) : Value :=
  let field := Value.dict [(.text "pattern", .text "\\w+")]
  let command (template : String) := Value.dict [(.text "template", .text template)]
  .dict [(.text "version", .int 1), (.text "fields", .dict [(.text "n", field), (.text "m", field)]),
    (.text "commands", .dict [(.int 1, command "\x7b\x7bn\x7d\x7d"),
      (second, command "\x7b\x7bm\x7d\x7d")])]

def numbered (second : String) : Catalog :=
  { version := "1"
    fields := ⟨[⟨"n", "n", ⟨"n", "\\w+", false, 0⟩⟩, ⟨"m", "m", ⟨"m", "\\w+", false, 0⟩⟩]⟩
    commands := [⟨"1", "", "\x7b\x7bn\x7d\x7d", []⟩, ⟨second, "", "\x7b\x7bm\x7d\x7d", []⟩]
    leadWord := none
    source := none }

theorem exists_compilesTo_numbered :
    ofValue (numberedValue (.text "2")) none = .ok (numbered "2") ∧
      ∃ gs, ((numbered "2").compile (.text "strict")).answer = .ok (.ok gs) ∧
        (numbered "2").Faithful ⟨(numbered "2").fields, .strict, {}⟩ gs := by
  have read : ofValue (numberedValue (.text "2")) none = .ok (numbered "2") := by decide +kernel
  obtain ⟨_, outcome, compiled, compiles⟩ := exists_compilesTo _ _ .strict read
  have builds : ∀ spec ∈ (numbered "2").commands, ∃ g,
      (GrammarBuilder.build ⟨(numbered "2").fields, .strict, {}⟩ (.text spec.template)).answer =
        .ok (.ok g) := by
    intro spec member
    apply GrammarBuilder.exists_build
    revert spec
    decide +kernel
  obtain ⟨gs, rfl⟩ := compiles.succeeds.mpr builds
  exact ⟨read, gs, compiled, (compiles.faithful gs rfl).mpr (by decide)⟩

/-- A number and its text are different keys with one name, so one command of two loses its
grammar. -/
theorem not_faithful_numbered :
    ofValue (numberedValue (.text "1")) none = .ok (numbered "1") ∧
      ∃ gs, ((numbered "1").compile (.text "strict")).answer = .ok (.ok gs) ∧
        ¬ (numbered "1").Faithful ⟨(numbered "1").fields, .strict, {}⟩ gs := by
  let gs : Grammars := [("1", otherGrammar)]
  have compiled : ((numbered "1").compile (.text "strict")).answer = .ok (.ok gs) :=
    bind_toOption_eq_some_iff.mp (by decide +kernel)
  refine ⟨by decide +kernel, gs, compiled, ?_⟩
  intro faithful
  have short : gs.length ≠ (numbered "1").commands.length := by decide
  exact short faithful.size

end Catalog
end LineCommand
