import LineCommand.Proofs.Catalog.Answering

/-! How runs of the program end. An answer has code 0, or code 1 with nothing printed and a complaint.
Whatever is wrong with a catalog is found by one of several checks, each of which makes a complaint of
it. Faults escape from reading the settings, from two names of log levels, from a catalog that its reader
gives nothing for that can be complained of, and from a grammar that has to tell a number of groups with
too many digits. -/
namespace LineCommand

namespace Console

open Catalog

theorem exists_messages {vs : List Value} (executions : Executions vs) :
    ∃ messages, vs.mapM messageOf = .ok messages := by
  obtain ⟨es, rfl⟩ := executions
  rw [exists_mapM_eq_ok_iff]
  intro v member
  obtain ⟨e, _, rfl⟩ := List.mem_map.mp member
  exact ⟨e.message, rfl⟩

/-- Whether a dispatch under the policy goes on after a command, given what its grammar reads. -/
def GoesOn : MatchPolicy → Option FieldTexts → Prop
  | .first, texts? => texts? = none
  | .all, _ => True
  | .one, _ => True

/-- What is dispatched gives results that all come from commands, if it gives any. -/
theorem executions_of_dispatched {g : Group} (free : g.processor.validator = none)
    {policy : MatchPolicy} {line : String} {vs : List Value}
    (answered : (dispatched g policy line).answer = .ok (.ok vs)) : Executions vs := by
  have single {a : Act (Outcome Value)} (execution : ∀ v, a.answer = .ok (.ok v) →
      ∃ e : Execution, v = e.toValue)
      (answered : (a.map (Except.map fun v => [v])).answer = .ok (.ok vs)) : Executions vs := by
    obtain ⟨outcome, given, same⟩ := except_map_eq_ok_iff.mp answered
    obtain ⟨v, rfl, rfl⟩ := except_map_eq_ok_iff.mp same
    obtain ⟨e, rfl⟩ := execution v given
    exact ⟨[e], rfl⟩
  cases policy with
  | all =>
    replace answered : (g.processAll (.text line) .none).answer = .ok (.ok vs) := answered
    unfold Group.processAll at answered
    split at answered
    · exact Processor.executions_processAll free answered
    · cases answered
      exact ⟨[], rfl⟩
  | first =>
    refine single (fun v answered => ?_) answered
    unfold Group.processFirst at answered
    split at answered
    · exact Processor.exists_processFirst free answered
    · cases answered
  | one =>
    refine single (fun v answered => ?_) answered
    unfold Group.processOne at answered
    split at answered
    · exact Processor.exists_processOne free answered
    · cases answered

/-- The dispatch of a line that belongs to the group answers unless a grammar stumbles over it. -/
theorem dispatched_answers_iff {c : Catalog} {gs : Grammars} {g : Group} (fills : c.Fills gs g)
    (counted : gs.Counted) (policy : MatchPolicy) (line : String) :
    (dispatched g policy line).Answers ↔
      ¬ (g.couldBeCommand (.text line) = true ∧ c.Stumbles gs line (GoesOn policy)) := by
  have resolved : g.processor.resolveTarget .none = .ok (.ok g.processor.target) := rfl
  have single (a : Act (Outcome Value)) :
      (a.map (Except.map fun v => [v])).Answers ↔ a.Answers := by
    unfold Act.Answers Act.map
    cases a.answer <;> simp [Except.map]
  cases belongs : g.couldBeCommand (.text line) with
  | true =>
    rw [and_iff_right rfl]
    cases policy with
    | all =>
      rw [dispatched, Group.processAll, if_pos belongs]
      exact fills.processAll_answers_iff counted resolved
    | first =>
      rw [dispatched, single, Group.processFirst, if_pos belongs]
      exact fills.processFirst_answers_iff counted resolved
    | one =>
      rw [dispatched, single, Group.processOne, if_pos belongs]
      exact fills.processOne_answers_iff counted resolved
  | false =>
    have outside := (g.answer_notInGroup (.text line) (α := Value)).mpr rfl
    refine iff_of_true ?_ (by simp)
    cases policy with
    | all =>
      rw [dispatched, Group.processAll, belongs]
      exact ⟨_, rfl⟩
    | first =>
      rw [dispatched, single, Group.processFirst, belongs]
      exact outside
    | one =>
      rw [dispatched, single, Group.processOne, belongs]
      exact outside

/-! ### Tasks -/

/-- The answer has code 0, or it has code 1 with nothing to print and something to complain of. -/
def Answer.Proper (a : Answer) : Prop := a.code = 0 ∨ a.code = 1 ∧ a.out = [] ∧ a.complaints ≠ []

theorem Answer.proper_success (out : List String) : (Answer.success out).Proper := .inl rfl

theorem Answer.proper_failure (complaint : String) (others : List String) :
    (Answer.failure (complaint :: others)).Proper :=
  .inr ⟨rfl, rfl, List.cons_ne_nil complaint others⟩

variable {s : Settings} {c : Catalog}

theorem proper_check {answer : Answer} (answered : (check s c).answer = .ok answer) :
    answer.Proper := by
  obtain ⟨outcome, _, answered⟩ := Act.answer_bind_eq_ok_iff.mp answered
  cases outcome with
  | error failure =>
    cases answered
    exact Answer.proper_failure ..
  | ok gs =>
    obtain ⟨problems, _, answered⟩ := Act.answer_bind_eq_ok_iff.mp answered
    split at answered
    · cases answered
      exact Answer.proper_success _
    · cases answered
      exact Answer.proper_failure ..

theorem proper_showGrammar {name : String} {answer : Answer}
    (answered : (showGrammar s name c).answer = .ok answer) : answer.Proper := by
  unfold showGrammar at answered
  split at answered
  · cases answered
    exact Answer.proper_failure ..
  · obtain ⟨outcome, _, answered⟩ := Act.answer_bind_eq_ok_iff.mp answered
    cases outcome with
    | error failure =>
      cases answered
      exact Answer.proper_failure ..
    | ok b =>
      obtain ⟨outcome, _, answered⟩ := Act.answer_bind_eq_ok_iff.mp answered
      cases outcome <;> cases answered
      · exact Answer.proper_failure ..
      · exact Answer.proper_success _

theorem proper_parse {policy : MatchPolicy} {target : FormatTarget} {line : String}
    {answer : Answer} (answered : (parse policy target s line c).answer = .ok answer) :
    answer.Proper := by
  obtain ⟨outcome, _, answered⟩ := Act.answer_bind_eq_ok_iff.mp answered
  cases outcome with
  | error failure =>
    cases answered
    exact Answer.proper_failure ..
  | ok group =>
    obtain ⟨outcome, _, answered⟩ := Act.answer_bind_eq_ok_iff.mp answered
    cases outcome with
    | error failure =>
      cases answered
      exact Answer.proper_failure ..
    | ok results =>
      obtain ⟨messages, _, answered⟩ := Act.answer_bind_eq_ok_iff.mp answered
      cases answered
      exact Answer.proper_success _

/-- The check of a catalog has to tell, of an example, a number of groups that it cannot. -/
def CheckStumbles (s : Settings) (c : Catalog) : Prop :=
  ∃ gs : Grammars, (c.compile s.unknownFields.toValue).answer = .ok (.ok gs) ∧
    ∃ spec ∈ c.commands, ∃ line ∈ spec.examples,
      ∃ g, gs.lookup spec.name = some g ∧ g.Untold line

/-- The dispatch of a line through the group of a catalog has to tell a number of groups that it
cannot. -/
def ParseStumbles (policy : MatchPolicy) (target : FormatTarget) (s : Settings) (line : String)
    (c : Catalog) : Prop :=
  ∃ (gs : Grammars) (group : Group),
    (c.compile s.unknownFields.toValue).answer = .ok (.ok gs) ∧
    (c.buildGroup s.unknownFields.toValue none target.toValue).answer = .ok (.ok group) ∧
    group.couldBeCommand (.text line) = true ∧ c.Stumbles gs line (GoesOn policy)

theorem check_answers_iff (counted : c.fields.Counted) :
    (check s c).Answers ↔ ¬ CheckStumbles s c := by
  obtain ⟨outcome, compiled, meets⟩ := gives_compile counted s.unknownFields.toValue
  refine (Act.answers_bind_of compiled).trans ?_
  cases outcome with
  | error failure => exact iff_of_true ⟨_, rfl⟩ (by simp [CheckStumbles, compiled])
  | ok gs =>
    have tried := checkExamples_answers_iff c (meets gs rfl)
    refine (Act.answers_bind_iff fun problems _ => ?_).trans (tried.trans (not_congr ?_))
    · split <;> exact ⟨_, rfl⟩
    · simp [CheckStumbles, compiled]

theorem showGrammar_answers (s : Settings) (name : String) (c : Catalog) :
    (showGrammar s name c).Answers := by
  unfold showGrammar
  split
  · exact ⟨_, rfl⟩
  · obtain ⟨outcome, made⟩ := c.exists_builder s.unknownFields.toValue
    refine (Act.answers_bind_of made).mpr ?_
    cases outcome with
    | error failure => exact ⟨_, rfl⟩
    | ok b =>
      refine (Act.answers_bind_iff fun outcome _ => ?_).mpr (b.answers_buildSource _)
      cases outcome <;> exact ⟨_, rfl⟩

theorem parse_answers_iff (counted : c.fields.Counted) {policy : MatchPolicy}
    {target : FormatTarget} {line : String} :
    (parse policy target s line c).Answers ↔ ¬ ParseStumbles policy target s line c := by
  obtain ⟨outcome, built, meets⟩ := gives_buildGroup counted s.unknownFields.toValue target
  refine (Act.answers_bind_of built).trans ?_
  cases outcome with
  | error failure => exact iff_of_true ⟨_, rfl⟩ (by simp [ParseStumbles, built])
  | ok group =>
    obtain ⟨gs, compiled, known, fills⟩ := meets group rfl
    have reached := dispatched_answers_iff fills known policy line
    refine (Act.answers_bind_iff fun outcome dispatch => ?_).trans (reached.trans (not_congr ?_))
    · cases outcome with
      | error failure => exact ⟨_, rfl⟩
      | ok results =>
        obtain ⟨messages, worded⟩ :=
          exists_messages (executions_of_dispatched fills.unchecked dispatch)
        exact ⟨_, Act.answer_bind_eq_ok_iff.mpr ⟨messages, worded, rfl⟩⟩
    · simp [ParseStumbles, compiled, built]

/-! ### Catalogs that cannot be read -/

/-- The fault means that there is no catalog, and there is a message to complain with. -/
def Tellable (fault : Fault) : Prop := isCatalogFault fault = true ∧ ∃ text, fault.said = .ok text

/-- What lies there is a directory, or a text that the reader breaks off over with a fault that is no
matter for a complaint. -/
def Unreadable (reader : Reader) (entry : Entry) : Prop :=
  entry = .directory ∨ ∃ text fault, entry = .file text ∧
    reader (Text.unifyLineEnds text.toList) = .error fault ∧ ¬ Tellable fault

/-- All faults are matters for a complaint. -/
def OnlyRefuses {α : Type} (x : Except Fault α) : Prop := ∀ fault, x = .error fault → Tellable fault

namespace OnlyRefuses

variable {α β : Type} {x : Except Fault α}

theorem ok (a : α) : OnlyRefuses (.ok a) := nofun

theorem refuse (name problem : String) : OnlyRefuses (Catalog.refuse (α := α) name problem) := by
  rintro _ ⟨⟩
  exact ⟨rfl, _, rfl⟩

theorem said (v : Value) : OnlyRefuses v.said := by
  intro fault refused
  unfold Value.said at refused
  split at refused <;> cases refused
  exact ⟨rfl, _, rfl⟩

theorem bind {f : α → Except Fault β} (first : OnlyRefuses x) (others : ∀ a, OnlyRefuses (f a)) :
    OnlyRefuses (x >>= f) := by
  intro fault refused
  cases x with
  | error fault' =>
    cases refused
    exact first fault rfl
  | ok a => exact others a fault refused

theorem mapM {f : α → Except Fault β} (each : ∀ a, OnlyRefuses (f a)) (xs : List α) :
    OnlyRefuses (xs.mapM f) := by
  induction xs with
  | nil => exact ok []
  | cons a xs ih =>
    rw [List.mapM_cons]
    exact (each a).bind fun b => ih.bind fun bs => ok (b :: bs)

theorem commandOf (name : String) (key entry : Value) :
    OnlyRefuses (Catalog.commandOf name key entry) := by
  unfold Catalog.commandOf
  refine (said key).bind fun command => ?_
  cases entry with
  | dict parts =>
    dsimp only
    split
    · exact refuse _ _
    · split
      · exact refuse _ _
      · exact (said _).bind fun description => ok _
  | _ => exact refuse _ _

theorem leadWordOf (name : String) (v? : Option Value) :
    OnlyRefuses (Catalog.leadWordOf name v?) := by
  unfold Catalog.leadWordOf
  repeat' split
  all_goals first | exact refuse _ _ | exact ok _

theorem fieldsOf (name : String) (v? : Option Value) : OnlyRefuses (Catalog.fieldsOf name v?) := by
  unfold Catalog.fieldsOf
  split
  case h_1 => exact refuse _ _
  case h_2 entries _ =>
    have loads : OnlyRefuses (FieldRegistry.load entries) := by
      unfold FieldRegistry.load
      split
      · exact ok _
      · rintro _ ⟨⟩
        exact ⟨rfl, _, rfl⟩
    refine loads.bind fun registered => ?_
    cases registered with
    | error failure => exact refuse _ _
    | ok registry => exact ok registry

theorem commandsOf (name : String) (v? : Option Value) :
    OnlyRefuses (Catalog.commandsOf name v?) := by
  unfold Catalog.commandsOf
  split
  · exact refuse _ _
  · exact mapM (fun (key, entry) => commandOf name key entry) _

theorem ofValue (v : Value) (source : Option Path) : OnlyRefuses (Catalog.ofValue v source) := by
  unfold Catalog.ofValue
  dsimp only
  split
  case h_2 => exact refuse _ _
  case h_1 parts =>
    split
    case isTrue => exact refuse _ _
    case isFalse =>
      exact (leadWordOf _ _).bind fun word => (fieldsOf _ _).bind fun fields =>
        (commandsOf _ _).bind fun commands => (said _).bind fun version => ok _

end OnlyRefuses

/-- A catalog that cannot be loaded is a matter for a complaint, unless it cannot be read at all. -/
theorem exists_load_iff_unreadable (reader : Reader) (path : Path) (entry : Entry) :
    (∃ fault, (Catalog.load reader path entry).answer = .error fault ∧ ¬ Tellable fault) ↔
      Unreadable reader entry := by
  cases entry with
  | absent =>
    refine iff_of_false ?_ ?_
    · rintro ⟨_, ⟨⟩, other⟩
      exact other ⟨rfl, _, rfl⟩
    · rintro (other | ⟨_, _, other, _⟩)
      · cases other
      · cases other
  | directory =>
    refine iff_of_true ⟨_, rfl, ?_⟩ (.inl rfl)
    rintro ⟨other, _⟩
    cases other
  | file text =>
    have faults (fault : Fault) : (Catalog.load reader path (.file text)).answer = .error fault ↔
        Catalog.ofText reader text path = .error fault := by
      simp only [Catalog.load, Act.answer_bind, Act.answer_ofExcept]
      cases Catalog.ofText reader text path <;> simp [Except.bind]
    simp only [Unreadable, faults, reduceCtorEq, false_or, Entry.file.injEq]
    constructor
    · rintro ⟨fault, refused, other⟩
      refine ⟨text, fault, rfl, ?_, other⟩
      cases document : reader (Text.unifyLineEnds text.toList) with
      | error fault' =>
        rw [Catalog.ofText, document] at refused
        cases refused
        rfl
      | ok v =>
        rw [Catalog.ofText, document] at refused
        exact absurd (OnlyRefuses.ofValue v (some path) fault refused) other
    · rintro ⟨_, fault, rfl, document, other⟩
      exact ⟨fault, by rw [Catalog.ofText, document]; rfl, other⟩

section Reading

variable {reader : Reader} {look : Path → Entry} {path : Path} {task : Catalog → Act Answer}

theorem answer_withCatalog :
    (withCatalog reader look path task).answer =
      match (Catalog.load reader path (look path)).answer with
      | .ok catalog => (task catalog).answer
      | .error fault =>
        if isCatalogFault fault then
          fault.said.map fun message => .failure [s!"Error loading catalog: {message}"]
        else .error fault := by
  have attempted : ((Catalog.load reader path (look path)).attempt).answer =
    .ok (Catalog.load reader path (look path)).answer := rfl
  rw [withCatalog, Act.answer_bind, attempted]
  cases (Catalog.load reader path (look path)).answer with
  | ok c => rfl
  | error fault =>
    simp only [Except.bind]
    cases isCatalogFault fault with
    | true =>
      rw [if_pos rfl, if_pos rfl, Act.answer_bind, Act.answer_ofExcept]
      cases fault.said <;> rfl
    | false => rfl

theorem proper_withCatalog {answer : Answer}
    (proper : ∀ c answer, (task c).answer = .ok answer → answer.Proper)
    (answered : (withCatalog reader look path task).answer = .ok answer) : answer.Proper := by
  rw [answer_withCatalog] at answered
  split at answered
  · exact proper _ _ answered
  · split at answered
    · obtain ⟨message, _, rfl⟩ := except_map_eq_ok_iff.mp answered
      exact Answer.proper_failure ..
    · cases answered

/-- What is done with a catalog answers unless there is none to be read, or doing it stumbles. -/
theorem withCatalog_answers_iff {stumbles : Catalog → Prop}
    (each : ∀ c : Catalog, c.fields.Counted → ((task c).Answers ↔ ¬ stumbles c)) :
    (withCatalog reader look path task).Answers ↔ ¬ Unreadable reader (look path) ∧
      ∀ c, (Catalog.load reader path (look path)).answer = .ok c → ¬ stumbles c := by
  rw [← exists_load_iff_unreadable reader path, Act.Answers, answer_withCatalog]
  cases loaded : (Catalog.load reader path (look path)).answer with
  | ok c =>
    have here : (task c).Answers ↔ ¬ stumbles c := each c (counted_of_load loaded)
    rw [Act.Answers] at here
    simp [here]
  | error fault =>
    simp only [Except.error.injEq, exists_eq_left', not_not, reduceCtorEq, false_imp_iff,
      implies_true, and_true, Tellable]
    cases isCatalogFault fault with
    | true => cases fault.said <;> simp [Except.map]
    | false => simp

end Reading

/-! ### Runs -/

/-- The catalog for a request is there, but a grammar has to tell a number of groups that it cannot. -/
def Request.Stumbles (s : Settings) (c : Catalog) : Request → Prop
  | .check _ => CheckStumbles s c
  | .grammar _ _ => False
  | .parse line _ policy target =>
    ParseStumbles (policy.getD s.policy) (target.getD s.target) s line c
  | .settings => False

/-- What lets a fault escape from a run under some settings: a log level that names a pattern for
log lines, a catalog that is needed and cannot be read, or a number of groups that cannot be told. -/
inductive Request.Escapes (reader : Reader) (s : Settings) (look : Path → Entry) (r : Request) : Prop
  | level {fault : Fault} (named : patternNames.lookup s.logLevel = some fault)
  | unreadable (needed : r ≠ .settings)
      (unreadable : Unreadable reader (look (r.catalogPath s)))
  | stumbles {c : Catalog} (needed : r ≠ .settings)
      (loaded : (Catalog.load reader (r.catalogPath s) (look (r.catalogPath s))).answer = .ok c)
      (stumbles : r.Stumbles s c)

/-- A request answers unless it needs a catalog that cannot be read, or stumbles. -/
theorem answer_answers_iff (reader : Reader) (s : Settings) (look : Path → Entry) (r : Request) :
    (r.answer reader s look).Answers ↔ (r ≠ .settings →
      ¬ Unreadable reader (look (r.catalogPath s)) ∧
        ∀ c, (Catalog.load reader (r.catalogPath s) (look (r.catalogPath s))).answer = .ok c →
          ¬ r.Stumbles s c) := by
  cases r with
  | settings => exact iff_of_true ⟨_, rfl⟩ fun needs => absurd rfl needs
  | check catalog =>
    simp only [ne_eq, reduceCtorEq, not_false_eq_true, forall_const]
    exact withCatalog_answers_iff fun c counted => check_answers_iff counted
  | grammar name catalog =>
    simp only [ne_eq, reduceCtorEq, not_false_eq_true, forall_const]
    exact withCatalog_answers_iff fun c _ =>
      iff_of_true (showGrammar_answers s name c) (not_false : ¬ False)
  | parse line catalog policy target =>
    simp only [ne_eq, reduceCtorEq, not_false_eq_true, forall_const]
    exact withCatalog_answers_iff fun c counted => parse_answers_iff counted

theorem proper_answer {reader : Reader} {s : Settings} {look : Path → Entry} {r : Request}
    {answer : Answer} (answered : (r.answer reader s look).answer = .ok answer) :
    answer.Proper := by
  cases r with
  | settings =>
    cases answered
    exact Answer.proper_success _
  | check catalog => exact proper_withCatalog (fun c _ => proper_check) answered
  | grammar name catalog => exact proper_withCatalog (fun c _ => proper_showGrammar) answered
  | parse line catalog policy target => exact proper_withCatalog (fun c _ => proper_parse) answered

/-- The run ends with code 0, or with code 1 after it has printed nothing and complained. -/
def Run.Concluded (run : Run) : Prop :=
  run.ended = .ok 0 ∨ run.ended = .ok 1 ∧ run.out = [] ∧ run.err ≠ []

/-- The run ends in a fault. -/
def Run.Faulted (run : Run) : Prop := ∃ fault, run.ended = .error fault

theorem Run.Faulted.not_concluded {run : Run} (faulted : run.Faulted) : ¬ run.Concluded := by
  obtain ⟨fault, ended⟩ := faulted
  rintro (well | ⟨badly, _⟩)
  · rw [ended] at well
    cases well
  · rw [ended] at badly
    cases badly

/-- Under some settings a run is concluded if nothing lets a fault escape, and else it faults. -/
theorem Request.run_cases (reader : Reader) (s : Settings) (look : Path → Entry)
    (clock : LogFormat → String) (r : Request) :
    ¬ r.Escapes reader s look ∧ (r.run reader s look clock).Concluded ∨
      r.Escapes reader s look ∧ (r.run reader s look clock).Faulted := by
  unfold Request.run Settings.threshold
  cases named : patternNames.lookup s.logLevel with
  | some fault => exact .inr ⟨.level named, fault, rfl⟩
  | none =>
    have answers := answer_answers_iff reader s look r
    cases given : (r.answer reader s look).answer with
    | ok answer =>
      left
      have calm := answers.mp ⟨answer, given⟩
      constructor
      · rintro (⟨level⟩ | ⟨needed, unreadable⟩ | ⟨needed, loaded, stumbles⟩)
        · rw [named] at level
          cases level
        · exact (calm needed).1 unreadable
        · exact (calm needed).2 _ loaded stumbles
      · simp only [given, Run.Concluded, Except.ok.injEq]
        obtain well | ⟨code, out, complaints⟩ := proper_answer given
        · exact .inl well
        · exact .inr ⟨code, out, by simp [complaints]⟩
    | error fault =>
      right
      refine ⟨?_, fault, by simp only [given]⟩
      have silent : ¬ (r.answer reader s look).Answers :=
        fun answers => Act.answers_iff.mp answers fault given
      rw [answers, Classical.not_imp] at silent
      obtain ⟨needed, silent⟩ := silent
      by_contra held
      exact silent ⟨fun unreadable => held (.unreadable needed unreadable),
        fun c loaded stumbles => held (.stumbles needed loaded stumbles)⟩

/-- A run for words that ask for something is concluded exactly if the settings can be read and let
no fault escape; else it ends in a fault. -/
theorem concluded_iff (reader : Reader) (look : Path → Entry) (environment : String → Option String)
    (clock : LogFormat → String) (arguments : List String) (r : Request)
    (accepted : Request.ofArguments arguments = .ok (some r)) :
    let run := Console.run reader look environment clock arguments
    (run.Concluded ↔ ∃ s, Settings.load look environment = .ok s ∧ ¬ r.Escapes reader s look) ∧
      (run.Concluded ∨ run.Faulted) := by
  intro run
  cases loaded : Settings.load look environment with
  | error fault =>
    have faulted : run.Faulted := ⟨fault, by simp only [run, Console.run, loaded]⟩
    exact ⟨iff_of_false faulted.not_concluded (by simp), .inr faulted⟩
  | ok s =>
    have same : run = r.run reader s look clock := by
      simp only [run, Console.run, loaded, accepted]
    simp only [Except.ok.injEq, exists_eq_left']
    rw [same]
    obtain ⟨held, concluded⟩ | ⟨escapes, faulted⟩ := r.run_cases reader s look clock
    · exact ⟨iff_of_true concluded held, .inl concluded⟩
    · exact ⟨iff_of_false faulted.not_concluded (not_not_intro escapes), .inr faulted⟩

def lone (entry : Entry) (p : Path) : Entry := if p = ⟨"", ["c"]⟩ then entry else .absent

theorem concluded_misshapen :
    let reader := Reader.only "- 1" (.list [.int 1])
    let arguments := ["check", "-c", "c"]
    Request.ofArguments arguments = .ok (some (.check (some "c"))) ∧
      (run reader (lone (.file "- 1")) (fun _ => none) (fun _ => "") arguments).Concluded := by
  intro reader arguments
  have accepted : Request.ofArguments arguments = .ok (some (.check (some "c"))) := by
    decide +kernel
  have settings : Settings.load (lone (.file "- 1")) (fun _ => none) = .ok {} := by decide +kernel
  refine ⟨accepted, (concluded_iff reader _ _ _ arguments _ accepted).1.mpr ⟨{}, settings, ?_⟩⟩
  rintro (⟨named⟩ | ⟨_, directory | ⟨text, fault, same, broken, _⟩⟩ | ⟨_, loaded, _⟩)
  · cases named
  · cases directory
  · -- A list is a document, though no catalog.
    obtain rfl : "- 1" = text := Entry.file.inj same
    have document : (reader (Text.unifyLineEnds "- 1".toList)).isOk = true := by decide +kernel
    rw [broken] at document
    cases document
  · have refused : (Catalog.load reader ⟨"", ["c"]⟩ (lone (.file "- 1") ⟨"", ["c"]⟩)).answer.isOk =
        false := by decide +kernel
    have given : (Catalog.load reader ⟨"", ["c"]⟩ (lone (.file "- 1") ⟨"", ["c"]⟩)).answer = .ok _ :=
      loaded
    rw [given] at refused
    cases refused

/-- A text that is no document to its reader, a directory in the place of the catalog, and a log level
that names a pattern for log lines: each of them lets a fault escape. -/
theorem not_concluded_malformed :
    let reader := Reader.only "" .none
    let arguments := ["check", "-c", "c"]
    let check (entry : Entry) := run reader (lone entry) (fun _ => none) (fun _ => "") arguments
    let leveled := run reader (lone .absent)
      (fun name => if name = "CMD_LOG_LEVEL" then some "BASIC_FORMAT" else none) (fun _ => "")
      ["config"]
    Request.ofArguments arguments = .ok (some (.check (some "c"))) ∧
      Request.ofArguments ["config"] = .ok (some .settings) ∧
      reader "a: [".toList = .error (.of .badCatalogText "") ∧
      ¬ (check (.file "a: [")).Concluded ∧ ¬ (check .directory).Concluded ∧
      ¬ leveled.Concluded := by
  intro reader arguments check leveled
  have text : (check (.file "a: [")).ended = .error (.of .badCatalogText "") := by decide +kernel
  have directory : (check .directory).ended =
      .error (.of .isDirectory "[Errno 21] Is a directory: 'c'") := by decide +kernel
  have level : leveled.ended =
      .error (.badValue "Unknown level: '%(levelname)s:%(name)s:%(message)s'") := by decide +kernel
  exact ⟨by decide +kernel, by decide +kernel, by rfl,
    Run.Faulted.not_concluded ⟨_, text⟩, Run.Faulted.not_concluded ⟨_, directory⟩,
    Run.Faulted.not_concluded ⟨_, level⟩⟩

end Console
end LineCommand
