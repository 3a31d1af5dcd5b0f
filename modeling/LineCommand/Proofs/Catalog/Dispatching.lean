import LineCommand.Proofs.Catalog.Examples
import LineCommand.Proofs.Grammar.Declarations
import LineCommand.Proofs.Naming.Loading

/-! Dispatch through the group of a catalog. What the group answers to a line is what the grammars of
the entries make of it, in the order of the entries: the first grammar that cannot read the line
stops the dispatch, and else every grammar that matches leaves one result, which words the fields in
the order of the template. -/
namespace LineCommand

/-! ### Declarations of fields that are read -/

namespace FieldRegistry

/-- No field declares a negative number of groups. -/
def Counted (r : FieldRegistry) : Prop := ∀ f ∈ r.values, 0 ≤ f.embedded

theorem counted_of_ofEntries {entries : List (Value × Value)} {r : FieldRegistry}
    (made : ofEntries entries = .ok r) : r.Counted := by
  intro f listed
  obtain ⟨same, declares⟩ := List.forall₂_iff_get.mp (listsFields_of_ofEntries made).1
  obtain ⟨place, bound, rfl⟩ := List.getElem_of_mem listed
  obtain ⟨_, _, defines⟩ := declares place (same ▸ bound) bound
  exact defines.counted

end FieldRegistry

namespace Catalog

variable {c : Catalog} {gs : Grammars} {unknown home : Value} {t : FormatTarget}
  {spec : CommandSpec} {line : String}

theorem counted_of_fieldsOf {v? : Option Value} {r : FieldRegistry}
    (read : fieldsOf name v? = .ok r) : r.Counted := by
  unfold fieldsOf at read
  split at read
  · cases read
  · obtain ⟨registered, loaded, read⟩ := except_bind_eq_ok_iff.mp read
    cases registered with
    | error failure => cases read
    | ok registry =>
      cases read
      exact FieldRegistry.counted_of_ofEntries (FieldRegistry.load_eq_ok_iff.mp loaded).2

theorem counted_of_ofValue {v : Value} {source : Option Path}
    (read : ofValue v source = .ok c) : c.fields.Counted := by
  unfold ofValue at read
  split at read
  · dsimp only at read
    split at read
    · cases read
    · obtain ⟨word, _, read⟩ := except_bind_eq_ok_iff.mp read
      obtain ⟨fields, registered, read⟩ := except_bind_eq_ok_iff.mp read
      obtain ⟨commands, _, read⟩ := except_bind_eq_ok_iff.mp read
      obtain ⟨version, _, read⟩ := except_bind_eq_ok_iff.mp read
      cases read
      exact counted_of_fieldsOf registered
  · cases read

/-- A catalog that is loaded was read from a value. -/
theorem exists_ofValue_of_load {reader : Reader} {path : Path} {entry : Entry}
    (loaded : (load reader path entry).answer = .ok c) : ∃ v, ofValue v (some path) = .ok c := by
  unfold load at loaded
  cases entry with
  | absent => cases loaded
  | directory => cases loaded
  | file text =>
    obtain ⟨catalog, given, loaded⟩ := Act.answer_bind_eq_ok_iff.mp loaded
    obtain ⟨_, _, same⟩ := Act.answer_bind_eq_ok_iff.mp loaded
    cases same
    obtain ⟨v, _, read⟩ := except_bind_eq_ok_iff.mp given
    exact ⟨v, read⟩

/-- The fields of a catalog declare no negative number of groups, whatever reads its text. -/
theorem counted_of_load {reader : Reader} {path : Path} {entry : Entry}
    (loaded : (load reader path entry).answer = .ok c) : c.fields.Counted := by
  obtain ⟨v, read⟩ := exists_ofValue_of_load loaded
  exact counted_of_ofValue read

/-! ### Grammars of templates -/

theorem lookup_replaced (gs : Grammars) (name other : String) (g : Grammar) :
    List.lookup other (gs.map fun (n, h) => (n, if n = name then g else h)) =
      (gs.lookup other).map fun h => if other = name then g else h := by
  induction gs with
  | nil => rfl
  | cons entry rest ih =>
    obtain ⟨n, h⟩ := entry
    rw [List.map_cons, List.lookup_cons, List.lookup_cons, ih]
    cases same : other == n with
    | true =>
      obtain rfl := eq_of_beq same
      rfl
    | false => rfl

theorem Grammars.lookup_insert (gs : Grammars) (name other : String) (g : Grammar) :
    (gs.insert name g).lookup other = if other = name then some g else gs.lookup other := by
  unfold Grammars.insert
  split
  case isTrue there =>
    rw [lookup_replaced]
    split
    case isTrue same =>
      subst same
      have known : other ∈ gs.names := by simpa [Grammars.names] using there
      obtain ⟨h, found⟩ := Grammars.exists_lookup known
      rw [found, Option.map_some]
    case isFalse => exact Option.map_id'
  case isFalse absent =>
    rw [List.lookup_append, List.lookup_cons, List.lookup_nil]
    by_cases same : other = name
    · subst same
      have unknown : gs.lookup other = none := by
        rw [List.lookup_eq_none_iff]
        intro entry member
        rw [bne_iff_ne]
        rintro rfl
        exact absent (List.any_eq_true.mpr ⟨entry, member, beq_self_eq_true _⟩)
      rw [unknown, beq_self_eq_true, if_pos rfl, Option.none_or]
    · rw [beq_false_of_ne same, if_neg same, Option.or_none]

/-- Where every template gives a grammar and no two commands have one name, each command has the
grammar of its own template. -/
theorem lookup_buildEach {b : GrammarBuilder} {made final : Grammars} {specs : List CommandSpec}
    (built : (buildEach b made specs).answer = .ok (final, []))
    (distinct : (specs.map (·.name)).Nodup) :
    (∀ spec ∈ specs, ∃ g, final.lookup spec.name = some g ∧
      (b.build (.text spec.template)).answer = .ok (.ok g)) ∧
      ∀ name ∉ specs.map (·.name), final.lookup name = made.lookup name := by
  -- Later entries leave the grammar of an entry alone, as they have other names.
  induction specs generalizing made final with
  | nil =>
    cases built
    exact ⟨nofun, fun _ _ => rfl⟩
  | cons spec rest ih =>
    rw [List.map_cons, List.nodup_cons] at distinct
    rw [buildEach] at built
    obtain ⟨outcome, answered, rested⟩ := Act.answer_bind_eq_ok_iff.mp built
    cases outcome with
    | error failure =>
      obtain ⟨found, _, reported⟩ := Act.answer_bind_eq_ok_iff.mp rested
      cases reported
    | ok g =>
      obtain ⟨behind, kept⟩ := ih rested distinct.2
      constructor
      · rw [List.forall_mem_cons]
        refine ⟨⟨g, ?_, answered⟩, behind⟩
        rw [kept spec.name distinct.1, Grammars.lookup_insert, if_pos rfl]
      · intro name apart
        rw [List.map_cons, List.mem_cons, not_or] at apart
        rw [kept name apart.2, Grammars.lookup_insert, if_neg apart.1]

theorem fields_of_builder {b : GrammarBuilder} (made : c.builder unknown = .ok (.ok b)) :
    b.fields = c.fields := by
  simp only [builder, GrammarBuilder.createFrom, GrammarBuilder.make.ofRegistry] at made
  split at made
  · cases made
  · cases policy : UnknownFields.ofValue unknown with
    | error fault =>
      rw [policy] at made
      cases told : fault.summary <;>
        simp [Except.map, Outcome.capture, told, Outcome.withKind, Except.mapError] at made
    | ok policy' =>
      rw [policy] at made
      cases made
      rfl

theorem exists_builder_of_compile (compiled : (c.compile unknown).answer = .ok (.ok gs))
    (distinct : (c.commands.map (·.name)).Nodup) :
    ∃ b, c.builder unknown = .ok (.ok b) ∧ b.fields = c.fields ∧ ∀ spec ∈ c.commands,
      ∃ g, gs.lookup spec.name = some g ∧ (b.build (.text spec.template)).answer = .ok (.ok g) := by
  obtain ⟨b, made, built⟩ := exists_buildEach_of_compile compiled
  exact ⟨b, made, fields_of_builder made, (lookup_buildEach built distinct).1⟩

theorem Nameable.distinct_names (nameable : c.Nameable) : (c.commands.map (·.name)).Nodup := by
  have keys : c.commands.map (fun spec => nameKey spec.name) =
      (c.commands.map (·.name)).map nameKey := by
    rw [List.map_map]
    rfl
  exact List.Nodup.of_map nameKey (keys ▸ nameable.distinct)

/-! ### Dispatch -/

def failure? (gs : Grammars) (line : String) (spec : CommandSpec) : Option Failure :=
  (refusal? gs line spec).bind Except.toOption

/-- A group answers a line by the grammars of a catalog's entries: with the first failure among them in
the order of the entries, else with one result for each grammar that matches. A line that is turned away
has no results. -/
structure Answers (c : Catalog) (gs : Grammars) (group : Group) (t : FormatTarget) (line : String) :
    Prop where
  outside : group.couldBeCommand (.text line) = false →
    (group.processAll (.text line) .none).answer = .ok (.ok [])
  failed : ∀ failure : Failure, group.couldBeCommand (.text line) = true →
    c.commands.findSome? (failure? gs line) = some failure →
      (group.processAll (.text line) .none).answer = .ok (.error failure)
  replied : group.couldBeCommand (.text line) = true →
    c.commands.findSome? (failure? gs line) = none →
      (group.processAll (.text line) .none).answer = .ok (.ok (c.commands.filterMap fun spec =>
        (fields? gs line spec).map fun fields => (reply t spec fields).toValue))

/-- The first grammar that cannot read the line has no failure to say so. -/
def Interrupted (c : Catalog) (gs : Grammars) (group : Group) (line : String) : Prop :=
  group.couldBeCommand (.text line) = true ∧
    ∃ fault, c.commands.findSome? (refusal? gs line) = some (.error fault)

/-- A group answers lines by the grammars of a catalog's entries, each that of its own template. -/
structure DispatchesByGrammars (c : Catalog) (unknown : Value) (gs : Grammars) (group : Group)
    (t : FormatTarget) : Prop where
  grammars : ∃ b, c.builder unknown = .ok (.ok b) ∧ ∀ spec ∈ c.commands,
    ∃ g, gs.lookup spec.name = some g ∧ (b.build (.text spec.template)).answer = .ok (.ok g)
  answers : ∀ line : String, c.Answers gs group t line ↔ ¬ c.Interrupted gs group line
  faulted : ∀ (line : String) (fault : Fault), group.couldBeCommand (.text line) = true →
    c.commands.findSome? (refusal? gs line) = some (.error fault) →
      (group.processAll (.text line) .none).answer = .error fault
  counted : ∀ reader path entry, (load reader path entry).answer = .ok c → c.fields.Counted
  /-- Nothing faults but a mismatch with a number of groups that cannot be written. -/
  faultless : c.fields.Counted → ∀ line : String, ∀ spec ∈ c.commands, ∀ fault,
    refusal? gs line spec = some (.error fault) → fault = .tooLong ∧
      ∃ g, gs.lookup spec.name = some g ∧ withinDigitLimit g.expected = false
  /-- The fields found come in the order of the template, and so do those that a message shows. -/
  ordered : ∀ line : String, ∀ spec ∈ c.commands, ∀ fields, fields? gs line spec = some fields →
    let names := ((Template.text spec.template).referred c.fields).map (·.name)
    fields.map (·.1) = names ∧ ((present fields).map (·.1)).Sublist names ∧
      ∀ name text, (name, text) ∈ present fields ↔ (name, some text) ∈ fields

/-- Where the first refusal is a failure it is the first failure. -/
theorem findSome?_failure? {specs : List CommandSpec} {failure : Failure}
    (refused : specs.findSome? (refusal? gs line) = some (.ok failure)) :
    specs.findSome? (failure? gs line) = some failure := by
  induction specs with
  | nil => cases refused
  | cons spec rest ih =>
    rw [List.findSome?_cons] at refused ⊢
    cases here : refusal? gs line spec with
    | none =>
      rw [here] at refused
      rw [failure?, here]
      exact ih refused
    | some stop =>
      rw [here] at refused
      cases refused
      rw [failure?, here]
      rfl

theorem findSome?_failure?_none {specs : List CommandSpec}
    (unrefused : specs.findSome? (refusal? gs line) = none) :
    specs.findSome? (failure? gs line) = none := by
  rw [List.findSome?_eq_none_iff] at unrefused ⊢
  intro spec member
  rw [failure?, unrefused spec member, Option.bind_none]

/-- Every line is answered by the grammars, unless the first one that cannot read it has no failure to
say so. -/
theorem Fills.answers_iff {group : Group} (fills : c.Fills gs group) (line : String)
    (resolved : group.processor.resolveTarget .none = .ok (.ok t)) :
    c.Answers gs group t line ↔ ¬ c.Interrupted gs group line := by
  constructor
  · rintro answers ⟨belongs, fault, refused⟩
    have all := fills.answer_processAll line resolved belongs
    rw [refused] at all
    cases failed : c.commands.findSome? (failure? gs line) with
    | none => cases all.symm.trans (answers.replied belongs failed)
    | some failure => cases all.symm.trans (answers.failed failure belongs failed)
  · intro calm
    have outside (away : group.couldBeCommand (.text line) = false) :
        (group.processAll (.text line) .none).answer = .ok (.ok []) := by
      rw [Group.processAll, away]
      rfl
    cases refused : c.commands.findSome? (refusal? gs line) with
    | none =>
      have unfailed := findSome?_failure?_none refused
      refine ⟨outside, fun failure _ failed => ?_, fun belongs _ => ?_⟩
      · cases unfailed.symm.trans failed
      · rw [fills.answer_processAll line resolved belongs, refused]
    | some stop =>
      cases stop with
      | error fault =>
        refine ⟨outside, fun _ belongs => ?_, fun belongs => ?_⟩ <;>
          exact absurd ⟨belongs, fault, refused⟩ calm
      | ok failure =>
        have first := findSome?_failure? refused
        refine ⟨outside, fun other belongs failed => ?_, fun _ unfailed => ?_⟩
        · obtain rfl := Option.some.inj (first.symm.trans failed)
          rw [fills.answer_processAll line resolved belongs, refused]
        · cases first.symm.trans unfailed

section Entry

variable {b : GrammarBuilder} {g : Grammar} (found : gs.lookup spec.name = some g)
  (built : (b.build (.text spec.template)).answer = .ok (.ok g))
include found built

theorem tooLong_of_refusal? (counted : b.fields.Counted) {fault : Fault}
    (refused : refusal? gs line spec = some (.error fault)) :
    fault = .tooLong ∧ withinDigitLimit g.expected = false := by
  obtain ⟨xs, fragments, made⟩ := GrammarBuilder.build_eq_ok built
  have slots : g.Counted := GrammarBuilder.counted_of_build counted fragments made
  rw [refusal?, found, Option.bind_some] at refused
  refine @Grammar.tooLong_of_parse g slots line fault ?_
  revert refused
  rcases (g.parse (.text line)).answer with fault' | failure | texts?
  all_goals simp

theorem names_of_fields? {fields : FieldTexts} (here : fields? gs line spec = some fields) :
    fields.map (·.1) = ((Template.text spec.template).referred b.fields).map (·.name) := by
  obtain ⟨g', found', parsed⟩ := fields?_eq_some_iff.mp here
  obtain rfl : g = g' := Option.some.inj (found.symm.trans found')
  rw [Grammar.names_of_parse parsed, GrammarBuilder.fields_of_build built]

end Entry

section Group

variable {validator : Option Callback} {group : Group}
  (compiled : (c.compile unknown).answer = .ok (.ok gs))
  (valid : FormatTarget.ofValue home = .ok t)
  (built : (c.buildGroup unknown validator home).answer = .ok (.ok group))
include compiled valid built

theorem nameable_of_buildGroup : c.Nameable := by
  obtain ⟨outcome, answered, registered⟩ := buildGroup_answers validator compiled valid
  obtain rfl : outcome = .ok group := Except.ok.inj (answered.symm.trans built)
  exact registered.mp ⟨group, rfl⟩

theorem resolveTarget_of_buildGroup : group.processor.resolveTarget .none = .ok (.ok t) := by
  have meant := target_of_buildGroup compiled built
  rw [valid] at meant
  exact congrArg (fun t => Except.ok (Except.ok t)) (Except.ok.inj meant).symm

end Group

/-- The group that a catalog makes without a validator answers lines by the grammars to which the
templates compile, with messages for the destination that it is made for. It does not answer a line on
which a grammar has a mismatch with a number of groups that cannot be written, unless another grammar
has a failure before. -/
theorem dispatchesByGrammars (c : Catalog) (unknown home : Value) (group : Group)
    (compiled : (c.compile unknown).answer = .ok (.ok gs))
    (valid : FormatTarget.ofValue home = .ok t)
    (built : (c.buildGroup unknown none home).answer = .ok (.ok group)) :
    c.DispatchesByGrammars unknown gs group t := by
  have distinct := (nameable_of_buildGroup compiled valid built).distinct_names
  obtain ⟨b, made, registry, grammars⟩ := exists_builder_of_compile compiled distinct
  have fills := fills_of_buildGroup compiled built
  have resolved := resolveTarget_of_buildGroup compiled valid built
  constructor
  case grammars => exact ⟨b, made, grammars⟩
  case answers => exact fun line => fills.answers_iff line resolved
  case faulted =>
    intro line fault belongs refused
    rw [fills.answer_processAll line resolved belongs, refused]
  case counted => exact fun reader path entry loaded => counted_of_load loaded
  case faultless =>
    intro counted line spec member fault refused
    obtain ⟨g, found, answered⟩ := grammars spec member
    obtain ⟨same, long⟩ := tooLong_of_refusal? found answered (registry ▸ counted) refused
    exact ⟨same, g, found, long⟩
  case ordered =>
    intro line spec member fields here names
    obtain ⟨g, found, answered⟩ := grammars spec member
    have order : fields.map (·.1) = names := by
      rw [names_of_fields? found answered here, registry]
    refine ⟨order, ?_, fun name text => mem_present_iff⟩
    rw [← order]
    exact names_present_sublist fields

theorem dispatchesByGrammars_sampling :
    let text := "version: 1\nprefix:\nfields:\n  n: \x7bpattern: \\w+\x7d\n  m: \x7bpattern: \\w+\x7d\n"
      ++ "commands:\n  one: \x7btemplate: '\x7b\x7bn\x7d\x7d', examples: [x]\x7d\n"
      ++ "  two: \x7btemplate: '\x7b\x7bm\x7d\x7d', examples: []\x7d\n"
    let told := document none [("n", "\\w+"), ("m", "\\w+")]
      [("one", "\x7b\x7bn\x7d\x7d", ["x"]), ("two", "\x7b\x7bm\x7d\x7d", [])]
    let gs : Grammars := [("one", wordGrammar), ("two", otherGrammar)]
    ∃ c group, (load (Reader.only text told) ⟨"", ["catalog.yaml"]⟩ (.file text)).answer = .ok c ∧
      (c.compile (.text "strict")).answer = .ok (.ok gs) ∧
      FormatTarget.ofValue (.text "text") = .ok .text ∧
      (c.buildGroup (.text "strict") none (.text "text")).answer = .ok (.ok group) ∧
      (∀ line, ∀ spec ∈ c.commands, ∀ fault, refusal? gs line spec ≠ some (.error fault)) ∧
      (group.processAll (.text "x") .none).answer = .ok (.ok [
        .execution "one" (.dict [(.text "n", .text "x")]) "one: n=x",
        .execution "two" (.dict [(.text "m", .text "x")]) "two: m=x"]) := by
  intro text told gs
  have loaded : (load (Reader.only text told) ⟨"", ["catalog.yaml"]⟩ (.file text)).answer =
      .ok (sampling none "\\w+") := by decide +kernel
  have passes : (sampling none "\\w+").Passes (.text "strict") gs :=
    passes_of_compile (by decide +kernel) (by rfl)
  have valid : FormatTarget.ofValue (.text "text") = .ok .text := by rfl
  obtain ⟨group, built⟩ := exists_sampling none "\\w+" passes.compiled
  have dispatches := dispatchesByGrammars _ _ _ group passes.compiled valid built
  have declared : ∀ entry ∈ gs, withinDigitLimit entry.2.expected = true := by decide +kernel
  have faultless : ∀ line, ∀ spec ∈ (sampling none "\\w+").commands, ∀ fault,
      refusal? gs line spec ≠ some (.error fault) := by
    intro line spec member fault refused
    obtain ⟨_, g, found, long⟩ :=
      dispatches.faultless (dispatches.counted _ _ _ loaded) line spec member fault refused
    rw [declared _ (mem_of_lookup found)] at long
    cases long
  have lead : group.leadWord = none := (fills_of_buildGroup passes.compiled built).leadWord
  have belongs : group.couldBeCommand (.text "x") = true := by
    simp [Group.couldBeCommand, Value.text?, lead]
  have answers : (sampling none "\\w+").Answers gs group .text "x" := by
    refine (dispatches.answers "x").mpr ?_
    rintro ⟨_, fault, refused⟩
    obtain ⟨spec, member, here⟩ := List.exists_of_findSome?_eq_some refused
    exact faultless "x" spec member fault here
  exact ⟨_, group, loaded, passes.compiled, valid, built, faultless,
    answers.replied belongs (by rfl)⟩

/-- A catalog whose only field declares more groups than can be written. -/
def overdeclared : Catalog :=
  { version := "1"
    fields := ⟨[⟨"n", "n", ⟨"n", "\\w+", false, overlong⟩⟩]⟩
    commands := [⟨"one", "", "\x7b\x7bn\x7d\x7d", []⟩]
    leadWord := none
    source := none }

/-- A line that is matched with too few groups is not answered where it cannot be said how many there
should be. -/
theorem not_answers_overdeclared :
    let told : Value := .dict
      [(.text "version", .int 1),
        (.text "fields", .dict [(.text "n", .dict [(.text "pattern", .text "\\w+"),
          (.text "embedded_captures", .int overlong)])]),
        (.text "commands", .dict [(.text "one", .dict
          [(.text "template", .text "\x7b\x7bn\x7d\x7d")])])]
    let gs : Grammars := [("one", { wordGrammar with slots := [⟨"n", overlong⟩] })]
    ofValue told none = .ok overdeclared ∧
      (overdeclared.compile (.text "strict")).answer = .ok (.ok gs) ∧
      FormatTarget.ofValue (.text "text") = .ok .text ∧
      ∃ group, (overdeclared.buildGroup (.text "strict") none (.text "text")).answer =
          .ok (.ok group) ∧
        (group.processAll (.text "x") .none).answer = .error .tooLong ∧
        ¬ overdeclared.Answers gs group .text "x" := by
  intro told gs
  have compiled : (overdeclared.compile (.text "strict")).answer = .ok (.ok gs) :=
    bind_toOption_eq_some_iff.mp (by decide +kernel)
  have valid : FormatTarget.ofValue (.text "text") = .ok .text := by rfl
  obtain ⟨outcome, answered, registered⟩ := buildGroup_answers none compiled valid
  obtain ⟨group, rfl⟩ := registered.mpr ⟨by decide +kernel, by decide +kernel⟩
  have fills := fills_of_buildGroup compiled answered
  have resolved := resolveTarget_of_buildGroup compiled valid answered
  have belongs : group.couldBeCommand (.text "x") = true := by
    have lead : group.leadWord = none := fills.leadWord
    simp [Group.couldBeCommand, Value.text?, lead]
  have refused : overdeclared.commands.findSome? (refusal? gs "x") = some (.error .tooLong) := by
    let g : Grammar := { wordGrammar with slots := [⟨"n", overlong⟩] }
    have read : g.read "x" = .ok (.mismatch 1) := by decide +kernel
    have long : withinDigitLimit g.expected = false := by decide +kernel
    have parsed : (g.parse (.text "x")).answer = .error .tooLong := by
      rw [Grammar.answer_parse_text, read]
      simp only [long, Bool.false_eq_true, if_false]
    have found : gs.lookup "one" = some g := rfl
    rw [overdeclared, List.findSome?_cons, refusal?, found, Option.bind_some, parsed]
  refine ⟨by decide +kernel, compiled, valid, group, answered, ?_, fun answers => ?_⟩
  · rw [fills.answer_processAll "x" resolved belongs, refused]
  · exact (fills.answers_iff "x" resolved).mp answers ⟨belongs, _, refused⟩

end Catalog
end LineCommand
