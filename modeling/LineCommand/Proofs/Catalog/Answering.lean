import LineCommand.Proofs.Catalog.Dispatching
import LineCommand.Proofs.Dispatch.Ordering
import LineCommand.Proofs.Grammar.Optional
import LineCommand.Proofs.Grammar.Spelling

/-! Catalogs that answer. Where the fields of a catalog declare no negative number of groups, compiling it
and making a group of it end in an answer: what is wrong is a failure. Trying its examples and
dispatching a line end in an answer too, unless a grammar that is asked has to tell a number of groups
that has too many digits. -/
namespace LineCommand

/-! ### Acts that give an answer -/

namespace Act

variable {α β : Type} {x : Act α} {fit : α → Prop}

def Gives (x : Act α) (fit : α → Prop) : Prop := ∃ a, x.answer = .ok a ∧ fit a

theorem gives_pure {a : α} (here : fit a) : (pure a : Act α).Gives fit := ⟨a, rfl, here⟩

theorem gives_ofExcept {a : α} {answer : Except Fault α} (same : answer = .ok a) (here : fit a) :
    (ofExcept answer).Gives fit := ⟨a, same, here⟩

theorem Gives.bind {f : α → Act β} {fit' : β → Prop} (first : x.Gives fit)
    (others : ∀ a, fit a → (f a).Gives fit') : (x >>= f).Gives fit' := by
  obtain ⟨a, answered, here⟩ := first
  obtain ⟨b, later, there⟩ := others a here
  exact ⟨b, answer_bind_eq_ok_iff.mpr ⟨a, answered, later⟩, there⟩

theorem answers_bind_of {a : α} {f : α → Act β} (given : x.answer = .ok a) :
    (x >>= f).Answers ↔ (f a).Answers := by
  simp only [Answers, answer_bind, given, Except.bind]

theorem answers_bind_iff {f : α → Act β} (others : ∀ a, x.answer = .ok a → (f a).Answers) :
    (x >>= f).Answers ↔ x.Answers := by
  constructor
  · rintro ⟨b, answered⟩
    obtain ⟨a, first, _⟩ := answer_bind_eq_ok_iff.mp answered
    exact ⟨a, first⟩
  · rintro ⟨a, first⟩
    exact (answers_bind_of first).mpr (others a first)

theorem Answers.gives (answers : x.Answers) (all : ∀ a, x.answer = .ok a → fit a) :
    x.Gives fit := by
  obtain ⟨a, answered⟩ := answers
  exact ⟨a, answered, all a answered⟩

theorem answers_mapM_iff {f : α → Act β} {xs : List α} :
    (xs.mapM f).Answers ↔ ∀ x ∈ xs, (f x).Answers := by
  rw [Answers, answer_mapM]
  exact exists_mapM_eq_ok_iff

end Act

def Outcome.Meets {α : Type} (fit : α → Prop) (o : Outcome α) : Prop := ∀ a, o = .ok a → fit a

theorem Outcome.meets_error {α : Type} {fit : α → Prop} (failure : Failure) :
    Outcome.Meets fit (.error failure) := nofun

theorem Outcome.meets_ok {α : Type} {fit : α → Prop} {a : α} (here : fit a) :
    Outcome.Meets fit (.ok a) := by
  rintro _ ⟨⟩
  exact here

/-! ### Grammars of texts -/

/-- The grammar matches the line with another number of groups than it declares, and the number that it
declares has too many digits to be told. -/
def Grammar.Untold (g : Grammar) (line : String) : Prop :=
  (∃ found, g.read line = .ok (.mismatch found)) ∧ withinDigitLimit g.expected = false

theorem Grammar.parse_answers_iff {g : Grammar} (counted : g.Counted) {line : String} :
    (g.parse (.text line)).Answers ↔ ¬ g.Untold line := by
  unfold Act.Answers Grammar.Untold
  rw [answer_parse_text]
  obtain ⟨_, read⟩ | ⟨captures, _, ⟨_, read⟩ | ⟨_, texts, _, read⟩⟩ := read_of_counted counted line
  all_goals rw [read]
  · simp
  · cases withinDigitLimit g.expected <;> simp
  · simp

namespace GrammarBuilder

variable {b : GrammarBuilder}

/-- Where no field declares a negative number of groups, what is built of a text is a failure or a
grammar that can always be asked. -/
theorem gives_build (counted : b.fields.Counted) (s : String) :
    (b.build (.text s)).Gives (Outcome.Meets Grammar.Counted) := by
  apply (b.answers_build s).gives
  rintro _ built g rfl
  obtain ⟨xs, found, made⟩ := build_eq_ok built
  exact counted_of_build counted found made

end GrammarBuilder

/-! ### Catalogs -/

namespace Catalog

variable {c : Catalog} {gs : Grammars}

/-- All grammars can always be asked. -/
def Grammars.Counted (gs : Grammars) : Prop := ∀ entry ∈ gs, entry.2.Counted

theorem Grammars.Counted.insert {name : String} {g : Grammar} (counted : gs.Counted)
    (here : g.Counted) : (gs.insert name g).Counted := by
  unfold Grammars.insert
  split
  case isTrue =>
    intro entry member
    obtain ⟨⟨other, h⟩, old, rfl⟩ := List.mem_map.mp member
    dsimp only
    split
    · exact here
    · exact counted _ old
  case isFalse =>
    intro entry member
    obtain old | new := List.mem_append.mp member
    · exact counted _ old
    · obtain rfl := List.mem_singleton.mp new
      exact here

theorem Grammars.Counted.lookup (counted : gs.Counted) {name : String} {g : Grammar}
    (found : gs.lookup name = some g) : g.Counted :=
  counted (name, g) (mem_of_lookup found)

theorem gives_buildEach {b : GrammarBuilder} (fields : b.fields.Counted) (specs : List CommandSpec)
    {made : Grammars} (counted : made.Counted) :
    (buildEach b made specs).Gives fun final => final.1.Counted := by
  induction specs generalizing made with
  | nil => exact Act.gives_pure counted
  | cons spec rest ih =>
    apply (b.gives_build fields spec.template).bind
    intro outcome meets
    cases outcome with
    | ok g => exact ih (counted.insert (meets g rfl))
    | error failure => exact (ih counted).bind fun _ final => Act.gives_pure final

/-- What is no policy is told to be none. -/
theorem exists_builder (c : Catalog) (unknown : Value) : ∃ o, c.builder unknown = .ok o := by
  unfold builder GrammarBuilder.createFrom GrammarBuilder.make.ofRegistry
  split
  · exact ⟨_, rfl⟩
  · unfold UnknownFields.ofValue
    split
    · exact ⟨_, rfl⟩
    · exact ⟨_, rfl⟩
    · unfold Value.shown
      split <;> exact ⟨_, rfl⟩

theorem gives_compile (fields : c.fields.Counted) (unknown : Value) :
    (c.compile unknown).Gives (Outcome.Meets Grammars.Counted) := by
  obtain ⟨o, made⟩ := c.exists_builder unknown
  have given : (Act.ofExcept (c.builder unknown)).Gives (· = o) := Act.gives_ofExcept made rfl
  refine given.bind ?_
  rintro outcome rfl
  cases outcome with
  | error failure => exact Act.gives_pure (Outcome.meets_error failure)
  | ok b =>
    have each : b.fields.Counted := by rwa [fields_of_builder made]
    have empty : Grammars.Counted [] := nofun
    apply (gives_buildEach each c.commands empty).bind
    rintro ⟨grammars, problems⟩ counted
    cases problems with
    | nil => exact Act.gives_pure (Outcome.meets_ok counted)
    | cons problem others => exact Act.gives_pure (Outcome.meets_error _)

theorem checkExamples_answers_iff (c : Catalog) (counted : gs.Counted) :
    (c.checkExamples gs).Answers ↔ ¬ ∃ spec ∈ c.commands, ∃ line ∈ spec.examples,
      ∃ g, gs.lookup spec.name = some g ∧ g.Untold line := by
  unfold checkExamples
  rw [Act.answers_bind_iff fun _ _ => ⟨_, rfl⟩, Act.answers_mapM_iff]
  simp only [not_exists, not_and]
  refine forall₂_congr fun spec _ => ?_
  cases found : gs.lookup spec.name with
  | none => exact iff_of_true ⟨_, rfl⟩ nofun
  | some g =>
    simp only [Option.some.injEq, forall_eq', Act.answers_mapM_iff]
    refine forall₂_congr fun line _ => ?_
    rw [← Grammar.parse_answers_iff (counted.lookup found), exampleProblem, Act.answers_bind_iff]
    rintro (failure | _ | fields) _
    all_goals exact ⟨_, rfl⟩

/-- Where no field declares a negative number of groups, a group of all commands comes of a catalog, or
a failure. -/
theorem gives_buildGroup (fields : c.fields.Counted) (unknown : Value) (t : FormatTarget) :
    (c.buildGroup unknown none t.toValue).Gives (Outcome.Meets fun group =>
      ∃ gs : Grammars, (c.compile unknown).answer = .ok (.ok gs) ∧ gs.Counted ∧
        c.Fills gs group) := by
  obtain ⟨outcome, compiled, meets⟩ := gives_compile fields unknown
  cases outcome with
  | error failure =>
    refine ⟨.error failure, ?_, Outcome.meets_error failure⟩
    exact Act.answer_bind_eq_ok_iff.mpr ⟨_, compiled, rfl⟩
  | ok gs =>
    have valid : FormatTarget.ofValue t.toValue = .ok t := by cases t <;> rfl
    obtain ⟨outcome, built, _⟩ := buildGroup_answers none compiled valid
    refine ⟨outcome, built, ?_⟩
    rintro group rfl
    exact ⟨gs, compiled, meets gs rfl, fills_of_buildGroup compiled built⟩

/-! ### Lines that a grammar stumbles over -/

/-- A grammar of the catalog has to tell a number of groups that it cannot, behind others that have read
the line in such a way that the dispatch goes on. -/
def Stumbles (c : Catalog) (gs : Grammars) (line : String)
    (goesOn : Option FieldTexts → Prop) : Prop :=
  ∃ before spec after, c.commands = before ++ spec :: after ∧
    (∀ b ∈ before, ∃ g texts?, gs.lookup b.name = some g ∧
      (g.parse (.text line)).answer = .ok (.ok texts?) ∧ goesOn texts?) ∧
    ∃ g, gs.lookup spec.name = some g ∧ g.Untold line

/-- What ends a dispatch at the entries decides whether it stumbles, if at each entry it is a fault where
the number of groups cannot be told, and nothing where the dispatch goes on. -/
theorem stumbles_iff {β : Type} {goesOn : Option FieldTexts → Prop}
    {ends : CommandSpec → Option (Except Fault β)}
    (known : ∀ spec ∈ c.commands, ∃ g, gs.lookup spec.name = some g)
    (faults : ∀ spec g, gs.lookup spec.name = some g →
      ((∃ fault, ends spec = some (.error fault)) ↔ g.Untold line))
    (goes : ∀ spec g, gs.lookup spec.name = some g →
      (ends spec = none ↔ ∃ texts?, (g.parse (.text line)).answer = .ok (.ok texts?) ∧
        goesOn texts?)) :
    c.Stumbles gs line goesOn ↔ ∃ fault, c.commands.findSome? ends = some (.error fault) := by
  simp only [Stumbles, List.findSome?_eq_some_iff]
  constructor
  · rintro ⟨before, spec, after, table, passed, g, found, untold⟩
    obtain ⟨fault, here⟩ := (faults spec g found).mpr untold
    refine ⟨fault, before, spec, after, table, here, fun b member => ?_⟩
    obtain ⟨h, texts?, lookup, parsed, on⟩ := passed b member
    exact (goes b h lookup).mpr ⟨texts?, parsed, on⟩
  · rintro ⟨fault, before, spec, after, table, here, quiet⟩
    obtain ⟨g, found⟩ := known spec (by simp [table])
    refine ⟨before, spec, after, table, fun b member => ?_, g, found,
      (faults spec g found).mp ⟨fault, here⟩⟩
    obtain ⟨h, lookup⟩ := known b (by simp [table, member])
    obtain ⟨texts?, parsed, on⟩ := (goes b h lookup).mp (quiet b member)
    exact ⟨h, texts?, lookup, parsed, on⟩

/-- What ends the search for the first result at an entry: a fault, a failure, or the result. -/
def final? (t : FormatTarget) (gs : Grammars) (line : String) (spec : CommandSpec) :
    Option (Except Fault (Outcome Value)) :=
  (gs.lookup spec.name).bind fun g =>
    match (g.parse (.text line)).answer with
    | .error fault => some (.error fault)
    | .ok (.error failure) => some (.ok (.error failure))
    | .ok (.ok none) => none
    | .ok (.ok (some fields)) => some (.ok (.ok (reply t spec fields).toValue))

theorem Echoes.refusal?_eq {command : Command} (echoes : Echoes spec g command)
    (found : gs.lookup spec.name = some g) :
    command.refusal? (.text line) = refusal? gs line spec := by
  rw [Command.refusal?, Command.answer_validate, echoes.grammar, echoes.converter, refusal?, found,
    Option.bind_some]
  rcases (g.parse (.text line)).answer with fault | failure | _ | fields
  all_goals rfl

namespace Fills

variable {group : Group} (fills : c.Fills gs group) (counted : gs.Counted)
include fills

theorem known : ∀ spec ∈ c.commands, ∃ g, gs.lookup spec.name = some g := by
  intro spec member
  obtain ⟨g, _, found, _⟩ := fills.exists_command member
  exact ⟨g, found⟩

theorem refusals_eq (line : String) :
    group.processor.commands.values.findSome? (Command.refusal? (.text line)) =
      c.commands.findSome? (refusal? gs line) := by
  rw [← List.head?_filterMap, ← List.head?_filterMap]
  apply congrArg List.head?
  exact fills.filterMap_values fun spec g command found echoes => echoes.refusal?_eq found

theorem finals_eq (t : FormatTarget) (line : String) :
    group.processor.final? t (.text line) group.processor.commands.values =
      c.commands.findSome? (final? t gs line) := by
  rw [Processor.final?, ← List.head?_filterMap, ← List.head?_filterMap]
  apply congrArg List.head?
  apply fills.filterMap_values
  intro spec g command found echoes
  rw [echoes.trial_eq fills.unchecked, final?, found, Option.bind_some]
  rcases (g.parse (.text line)).answer with fault | failure | _ | fields
  all_goals rfl

include counted

theorem stumbles_iff_refusal :
    c.Stumbles gs line (fun _ => True) ↔
      ∃ fault, c.commands.findSome? (refusal? gs line) = some (.error fault) := by
  refine stumbles_iff fills.known (fun spec g found => ?_) fun spec g found => ?_
  · rw [← not_iff_not, ← Grammar.parse_answers_iff (counted.lookup found), refusal?, found,
      Option.bind_some, Act.Answers]
    rcases (g.parse (.text line)).answer with fault | failure | texts? <;> simp
  · simpa using refusal?_eq_none_iff found

theorem stumbles_iff_final (t : FormatTarget) :
    c.Stumbles gs line (· = none) ↔
      ∃ fault, c.commands.findSome? (final? t gs line) = some (.error fault) := by
  refine stumbles_iff fills.known (fun spec g found => ?_) fun spec g found => ?_
  · rw [← not_iff_not, ← Grammar.parse_answers_iff (counted.lookup found), final?, found,
      Option.bind_some, Act.Answers]
    rcases (g.parse (.text line)).answer with fault | failure | _ | fields <;> simp
  · rw [final?, found, Option.bind_some]
    rcases (g.parse (.text line)).answer with fault | failure | _ | fields <;> simp

variable (resolved : group.processor.resolveTarget target = .ok (.ok t))
include resolved

theorem processAll_answers_iff :
    (group.processor.processAll (.text line) target).Answers ↔
      ¬ c.Stumbles gs line (fun _ => True) := by
  rw [fills.stumbles_iff_refusal counted, Act.Answers, Processor.answer_processAll _ resolved,
    fills.stop?_eq]
  rcases c.commands.findSome? (refusal? gs line) with _ | fault | failure
  · dsimp only
    split <;> simp
  · simp
  · simp

theorem processFirst_answers_iff :
    (group.processor.processFirst (.text line) target).Answers ↔
      ¬ c.Stumbles gs line (· = none) := by
  have ended := fills.finals_eq t line
  rw [Processor.final?] at ended
  rw [fills.stumbles_iff_final counted t, Act.Answers,
    Processor.answer_processFirst _ resolved, ended]
  rcases c.commands.findSome? (final? t gs line) with _ | fault | outcome
  · have told := @Processor.noMatch_of_sayable (.text line) rfl
    generalize (group.processor.rejections t (.text line) _).getLast? = last
    cases last <;> simp [Processor.nothingFound, told, Except.map]
  · simp
  · simp

theorem processOne_answers_iff :
    (group.processor.processOne (.text line) target).Answers ↔
      ¬ c.Stumbles gs line (fun _ => True) := by
  rw [fills.stumbles_iff_refusal counted, ← fills.refusals_eq]
  cases refused : group.processor.commands.values.findSome? (Command.refusal? (.text line)) with
  | some refusal =>
    rw [Act.Answers, Processor.answer_processOne_unchecked _ fills.unchecked resolved, refused]
    cases refusal <;> simp
  | none =>
    -- All commands validate the line or pass it by, and nothing that they do then can fault.
    refine iff_of_true ?_ (by simp)
    rw [List.findSome?_eq_none_iff] at refused
    have valid : ∀ c ∈ group.processor.commands.values, (c.validate (.text line)).Answers := by
      intro c member
      obtain ⟨v?, validated⟩ := Command.refusal?_eq_none_iff.mp (refused c member)
      exact ⟨_, validated⟩
    apply Processor.processOne_answers_unchecked fills.unchecked valid resolved
    · rw [Processor.chokesFirst_iff resolved valid, fills.stop?_eq, ← fills.refusals_eq,
        List.findSome?_eq_none_iff.mpr refused]
      rintro ⟨fault, stopped⟩
      cases stopped
    · rintro ⟨_, _, mute⟩
      cases mute

end Fills

end Catalog

/-! ### Results without a validator -/

def Executions (vs : List Value) : Prop := ∃ es : List Execution, vs = es.map Execution.toValue

namespace Processor

variable {p : Processor} {line target : Value} (free : p.validator = none)
include free

theorem keepsExecutions_unchecked : p.KeepsExecutions := by
  intro validator checked
  rw [free] at checked
  cases checked

theorem executions_processAll {vs : List Value}
    (all : (p.processAll line target).answer = .ok (.ok vs)) : Executions vs := by
  obtain ⟨t, _, _, rfl, _⟩ := processAll_eq_ok_iff.mp all
  exact accepted_executions t line (keepsExecutions_unchecked free) _

theorem exists_processFirst {v : Value}
    (first : (p.processFirst line target).answer = .ok (.ok v)) :
    ∃ e : Execution, v = e.toValue := by
  obtain ⟨t, resolved⟩ | ⟨stop, unresolved⟩ := p.resolveTarget_cases target
  · rw [answer_processFirst line resolved] at first
    cases ended : p.commands.values.findSome? fun c => Trial.final? (p.trial t line c) with
    | none =>
      rw [ended, Option.getD_none] at first
      cases turned : (p.rejections t line p.commands.values).getLast? with
      | some reason =>
        rw [turned] at first
        cases first
      | none =>
        rw [turned] at first
        obtain ⟨failure, _, same⟩ := except_map_eq_ok_iff.mp first
        cases same
    | some answer =>
      rw [ended] at first
      obtain rfl : answer = .ok (.ok v) := first
      obtain ⟨c, _, here⟩ := List.exists_of_findSome?_eq_some ended
      unfold Trial.final? at here
      split at here <;> cases here
      rename_i accepted
      exact execution_of_trial (keepsExecutions_unchecked free) accepted
  · rw [answer_processFirst_unresolved _ _ unresolved] at first
    cases stop <;> cases first

theorem exists_processOne {v : Value}
    (one : (p.processOne line target).answer = .ok (.ok v)) :
    ∃ e : Execution, v = e.toValue := by
  obtain ⟨t, _, _, accepted⟩ := processOne_eq_ok_iff.mp one
  obtain ⟨es, executions⟩ := accepted_executions t line (keepsExecutions_unchecked free) _
  obtain ⟨e, rest, rfl, same, _⟩ := List.map_eq_cons_iff.mp (executions.symm.trans accepted)
  exact ⟨e, same.symm⟩

end Processor

end LineCommand
