import LineCommand.Dispatch.Group
import LineCommand.Proofs.Dispatch.Precedence
import LineCommand.Proofs.Dispatch.Validation

/-! Which dispatches answer. What executors, formatters and validators raise is a failure as long as it
can be told. What breaks a dispatch off are grammars, lines, destinations and faults that cannot be
told, and several results of which one does not say what command it comes from, as a validator may put
in any value for a result. -/
namespace LineCommand

/-- The act ends in an answer, not in a fault. -/
def Act.Answers {α : Type} (x : Act α) : Prop := ∃ a, x.answer = .ok a

theorem Act.answers_iff {α : Type} {x : Act α} :
    x.Answers ↔ ∀ fault, x.answer ≠ .error fault := by
  unfold Act.Answers
  cases x.answer <;> simp

namespace Processor

variable {p : Processor} {t : FormatTarget} {line target : Value}

/-! ### Names in results -/

/-- The value says in a text which command it comes from. -/
def Named (r : Value) : Prop := ∃ name, (r.member? "command").bind Value.text? = some name

theorem exists_names_iff (n : Nat) (rs : List Value) :
    (∃ names, (commandNames rs).bind (nameTexts n) = .ok names) ↔ ∀ r ∈ rs, Named r := by
  simp only [names_eq_ok_iff]
  induction rs with
  | nil => exact iff_of_true ⟨[], rfl⟩ nofun
  | cons r rest ih =>
    rw [List.forall_mem_cons, ← ih]
    constructor
    · rintro ⟨names, said⟩
      obtain ⟨name, others, rfl, here, there⟩ := List.map_eq_cons_iff.mp said.symm
      exact ⟨⟨name, here.symm⟩, others, there.symm⟩
    · rintro ⟨⟨name, here⟩, others, there⟩
      exact ⟨name :: others, List.cons_eq_cons.mpr ⟨here, there⟩⟩

theorem named_execution (e : Execution) : Named e.toValue := ⟨e.command, rfl⟩

/-! ### Single commands -/

theorem validate_answers_iff {c : Command} (total : c.converter.Total) :
    (c.validate line).Answers ↔ (c.grammar.parse line).Answers := by
  constructor
  · rintro ⟨outcome, answered⟩
    refine Act.answers_iff.mpr fun fault parsed => ?_
    rw [Command.answer_validate, parsed] at answered
    cases answered
  · rintro ⟨parsed, read⟩
    refine Act.answers_iff.mpr fun fault faulted => ?_
    obtain broken | ⟨texts, broken⟩ := Command.fault_of_validate faulted
    · rw [read] at broken
      cases broken
    · obtain ⟨outcome, converted⟩ := total _ texts.writable_toValue
      rw [converted] at broken
      cases broken

/-! ### Destinations -/

/-- Whether there is such a destination is answered for every value that can be shown. -/
theorem exists_resolveTarget_iff :
    (∃ resolved, p.resolveTarget target = .ok resolved) ↔ target.writable = true := by
  unfold resolveTarget
  split
  case isTrue absent =>
    refine iff_of_true ⟨_, rfl⟩ ?_
    cases target with
    | none => rfl
    | _ => cases absent
  case isFalse =>
    unfold FormatTarget.resolve
    cases known : FormatTarget.ofValue? target with
    | some t =>
      obtain ⟨s, text, _⟩ := Option.bind_eq_some_iff.mp known
      exact iff_of_true ⟨_, rfl⟩ (Value.writable_of_text? text)
    | none =>
      unfold Value.shown
      cases target.writable with
      | true => exact iff_of_true ⟨_, rfl⟩ rfl
      | false => exact iff_of_false (by rintro ⟨_, ⟨⟩⟩) nofun

/-- What there is to say about a destination that can be shown: which one it is, or that it is
unknown. -/
theorem resolved_or_unknown (p : Processor) (writable : target.writable = true) :
    (∃ t, p.resolveTarget target = .ok (.ok t)) ∨
      ∃ failure, p.resolveTarget target = .ok (.error failure) := by
  obtain ⟨resolved, said⟩ := (exists_resolveTarget_iff (p := p)).mpr writable
  cases resolved with
  | ok t => exact .inl ⟨t, said⟩
  | error failure => exact .inr ⟨failure, said⟩

/-- A command by itself answers exactly if the destination can be shown and, where it is known, the
command validates the line or refuses it and no function chokes. -/
theorem evaluate_answers_iff {c : Command} :
    (p.evaluate c line target).Answers ↔ target.writable = true ∧
      ∀ t, p.resolveTarget target = .ok (.ok t) →
        (c.validate line).Answers ∧ ¬ p.Chokes t line c := by
  rw [← exists_resolveTarget_iff (p := p)]
  match resolved : p.resolveTarget target with
  | .error fault => simp [Act.Answers, evaluate, Act.answer_bind, resolved, Except.bind]
  | .ok (.error failure) =>
    simp [Act.Answers, evaluate, Act.answer_bind, resolved, Except.bind]
  | .ok (.ok t) =>
    have alone : (p.evaluate c line target).Answers ↔
        (c.validate line).Answers ∧ ¬ p.Chokes t line c := by
      simp only [Act.answers_iff, answer_evaluate p t line resolved, ne_eq, ← not_exists, ← not_or,
        not_iff_not]
      exact trial_eq_error_iff
    rw [alone]
    constructor
    · intro both
      refine ⟨⟨_, rfl⟩, ?_⟩
      rintro t' ⟨⟩
      exact both
    · rintro ⟨_, each⟩
      exact each t rfl

/-! ### Policies -/

theorem validateAll_answers_iff :
    (p.validateAll line).Answers ↔ ∀ c ∈ p.commands.values, (c.validate line).Answers := by
  simp only [Act.Answers, ← Command.fault?_eq_none_iff, ← List.findSome?_eq_none_iff]
  rw [answer_validateAll]
  cases p.commands.values.findSome? (Command.fault? line) with
  | some fault => simp
  | none =>
    cases p.commands.values.filterMap (Command.validated? line) <;>
      cases p.commands.values.filterMap (Command.problem? line) <;> simp

/-- A line that a command neither validates nor refuses without a fault can be told. -/
theorem sayable_of_validate {c : Command} (answers : (c.validate line).Answers) :
    line.sayable = true := by
  cases text : line.text? with
  | some s => exact sayable_of_text? ⟨s, text⟩
  | none =>
    obtain ⟨outcome, answered⟩ := answers
    rw [Command.answer_validate, c.grammar.answer_parse_of_not_text text] at answered
    cases writable : line.writable with
    | true => exact Value.sayable_of_writable writable
    | false =>
      rw [Value.shown, if_neg (by simp [writable])] at answered
      cases answered

theorem validateOne_answers_iff :
    (p.validateOne line).Answers ↔
      (p.validateAll line).Answers ∧ (p.commands.values = [] → line.sayable = true) := by
  constructor
  · rintro ⟨outcome, answered⟩
    rw [answer_validateOne] at answered
    cases all : (p.validateAll line).answer with
    | error fault =>
      rw [all] at answered
      cases answered
    | ok found =>
      refine ⟨⟨found, all⟩, fun empty => ?_⟩
      rw [answer_validateAll, empty] at all
      cases all
      rw [answer_validateAll, empty] at answered
      rw [← Bool.not_eq_false]
      intro mute
      change (noMatch line).map _ = _ at answered
      rw [noMatch_of_not_sayable mute] at answered
      cases answered
  · rintro ⟨all, said⟩
    have sayable : line.sayable = true := by
      cases commands : p.commands.values with
      | nil => exact said commands
      | cons c rest =>
        exact sayable_of_validate (validateAll_answers_iff.mp all c (by simp [commands]))
    obtain ⟨found, answered⟩ := all
    unfold Act.Answers
    rw [answer_validateOne_of_sayable p sayable, answered]
    exact ⟨_, rfl⟩

/-- A function that users supply chokes on the line before any command has failed on it. -/
def ChokesFirst (p : Processor) (line target : Value) : Prop :=
  ∃ t before c after, p.resolveTarget target = .ok (.ok t) ∧
    p.commands.values = before ++ c :: after ∧ p.stop? t line before = none ∧ p.Chokes t line c

/-- Where all commands answer for a line, a sweep ends in a fault exactly if a function chokes. -/
theorem chokesFirst_iff (resolved : p.resolveTarget target = .ok (.ok t))
    (valid : ∀ c ∈ p.commands.values, (c.validate line).Answers) :
    p.ChokesFirst line target ↔ ∃ fault, p.stop? t line p.commands.values = some (.error fault) := by
  constructor
  · rintro ⟨t', before, c, after, resolved', table, quiet, choked⟩
    obtain rfl : t' = t := Except.ok.inj (Except.ok.inj (resolved'.symm.trans resolved))
    obtain ⟨fault, faulted⟩ := trial_eq_error_iff.mpr (.inr choked)
    refine ⟨fault, ?_⟩
    rw [table, stop?, List.findSome?_eq_some_iff]
    exact ⟨before, c, after, rfl, Trial.stop?_eq_error_iff.mpr faulted,
      List.findSome?_eq_none_iff.mp quiet⟩
  · rintro ⟨fault, stopped⟩
    obtain ⟨before, c, after, table, here, quiet⟩ := List.findSome?_eq_some_iff.mp stopped
    refine ⟨t, before, c, after, resolved, table, List.findSome?_eq_none_iff.mpr quiet, ?_⟩
    obtain ⟨fault, faulted⟩ | choked :=
      trial_eq_error_iff.mp ⟨fault, Trial.stop?_eq_error_iff.mp here⟩
    · exact absurd faulted (Act.answers_iff.mp (valid c (by simp [table])) fault)
    · exact choked

theorem processAll_answers_iff (valid : ∀ c ∈ p.commands.values, (c.validate line).Answers) :
    (p.processAll line target).Answers ↔
      target.writable = true ∧ ¬ p.ChokesFirst line target := by
  cases writable : target.writable with
  | false =>
    have raised : ¬ ∃ resolved, p.resolveTarget target = .ok resolved := by
      rw [exists_resolveTarget_iff, writable]
      nofun
    refine iff_of_false ?_ (by simp)
    rintro ⟨outcome, answered⟩
    obtain ⟨resolved, said, _⟩ := Act.answer_bind_eq_ok_iff.mp answered
    exact raised ⟨resolved, said⟩
  | true =>
    rw [and_iff_right rfl]
    obtain ⟨t, resolved⟩ | ⟨failure, unknown⟩ := p.resolved_or_unknown writable
    · rw [chokesFirst_iff resolved valid]
      unfold Act.Answers
      rw [answer_processAll line resolved]
      match p.stop? t line p.commands.values with
      | some (.error fault) => simp
      | some (.ok failure) => simp
      | none =>
        dsimp only
        split <;> simp
    · refine iff_of_true ⟨.error failure, ?_⟩ ?_
      · exact answer_processAll_unresolved line (.ok failure) unknown
      · rintro ⟨t, _, _, _, resolved, _⟩
        rw [unknown] at resolved
        cases resolved

theorem processFirst_answers (valid : ∀ c ∈ p.commands.values, (c.validate line).Answers)
    (all : (p.processAll line target).Answers) (heard : ¬ p.Unsaid line target) :
    (p.processFirst line target).Answers := by
  obtain ⟨writable, calm⟩ := (processAll_answers_iff valid).mp all
  obtain ⟨t, resolved⟩ | ⟨failure, unknown⟩ := p.resolved_or_unknown writable
  · rw [chokesFirst_iff resolved valid] at calm
    unfold Act.Answers
    rw [answer_processFirst line resolved]
    change ∃ a, (p.final? t line p.commands.values).getD _ = .ok a
    match stopped : p.stop? t line p.commands.values with
    | none =>
      rw [final?_of_unstopped stopped]
      cases (p.accepted t line p.commands.values).head? with
      | some r => exact ⟨_, rfl⟩
      | none =>
        rw [Option.map_none, Option.getD_none]
        cases (p.rejections t line p.commands.values).getLast? with
        | some reason => exact ⟨_, rfl⟩
        | none =>
          rw [nothingFound, noMatch_of_sayable (sayable_of_unstopped resolved heard stopped)]
          exact ⟨_, rfl⟩
    | some (.error fault) => exact absurd ⟨fault, stopped⟩ calm
    | some (.ok failure) =>
      obtain ended | ⟨r, ended⟩ := final?_of_stopped stopped <;>
      · rw [ended]
        exact ⟨_, rfl⟩
  · exact ⟨.error failure, answer_processFirst_unresolved line (.ok failure) unknown⟩

theorem Unsaid.not_processFirst_answers (unsaid : p.Unsaid line target) :
    ¬ (p.processFirst line target).Answers := by
  obtain ⟨⟨t, resolved⟩, empty, mute⟩ := unsaid
  unfold Act.Answers
  rw [answer_processFirst line resolved, empty]
  change ¬ ∃ a, nothingFound line none = .ok a
  rw [nothingFound, noMatch_of_not_sayable mute]
  simp [Except.map]

/-- Several results are accepted, and one of them does not say what command it comes from. -/
def CountsUnnamed (p : Processor) (line target : Value) : Prop :=
  ∃ rs, (p.processAll line target).answer = .ok (.ok rs) ∧ 2 ≤ rs.length ∧ ∃ r ∈ rs, ¬ Named r

/-- The validator puts no value in the place of a result that does not say what command it comes
from. -/
def NamesResults (p : Processor) : Prop :=
  ∀ validator, p.validator = some validator → ∀ (e : Execution) (v : Value),
    validator e.toValue = .ok (.success v) → v = .none ∨ Named v

theorem namesResults_unchecked (free : p.validator = none) : p.NamesResults := by
  intro validator checked
  rw [free] at checked
  cases checked

theorem named_of_assess (names : p.NamesResults) {e : Execution} {r : Value}
    (accepted : p.assess e.toValue = .ok (.accepted r)) : Named r := by
  obtain rfl | ⟨validator, checked, replied, present⟩ := eq_or_replaced_of_assess accepted
  · exact named_execution e
  · exact (names validator checked e r replied).resolve_left present

theorem named_of_accepted (names : p.NamesResults) {cs : List Command} :
    ∀ r ∈ p.accepted t line cs, Named r := by
  intro r member
  obtain ⟨c, _, accepted⟩ := List.mem_filterMap.mp member
  obtain ⟨_, e, _, _, assessed⟩ := stages_of_accepted (Trial.accepted?_eq_some_iff.mp accepted)
  exact named_of_assess names assessed

theorem not_countsUnnamed (names : p.NamesResults) : ¬ p.CountsUnnamed line target := by
  rintro ⟨rs, all, _, r, member, unnamed⟩
  obtain ⟨t, resolved⟩ | ⟨stop, unresolved⟩ := p.resolveTarget_cases target
  · rw [answer_processAll line resolved] at all
    split at all
    · cases all
    · cases all
    · split at all
      · cases all
      · obtain rfl := Except.ok.inj (Except.ok.inj all)
        exact unnamed (named_of_accepted names r member)
  · rw [answer_processAll_unresolved _ _ unresolved] at all
    cases stop <;> cases all

theorem processOne_answers_unchecked (free : p.validator = none)
    (valid : ∀ c ∈ p.commands.values, (c.validate line).Answers)
    (resolved : p.resolveTarget target = .ok (.ok t)) (calm : ¬ p.ChokesFirst line target)
    (heard : ¬ p.Unsaid line target) : (p.processOne line target).Answers := by
  rw [chokesFirst_iff resolved valid] at calm
  unfold Act.Answers
  rw [answer_processOne_unchecked line free resolved]
  match refused : p.commands.values.findSome? (Command.refusal? line) with
  | some (.error fault) =>
    obtain ⟨c, member, here⟩ := List.exists_of_findSome?_eq_some refused
    have faulted := Command.refusal?_eq_error_iff.mp here
    exact absurd faulted (Act.answers_iff.mp (valid c member) fault)
  | some (.ok failure) => exact ⟨_, rfl⟩
  | none =>
    have stopped := stop?_unchecked (p := p) (t := t) free refused
    match found : p.commands.values.filterMap (Command.validated? line) with
    | [] =>
      rw [found] at stopped
      rw [noMatch_of_sayable (sayable_of_unstopped resolved heard stopped)]
      exact ⟨_, rfl⟩
    | [v] =>
      rw [found] at stopped
      change ∃ a, (outcome t v).map (Except.map Execution.toValue) = .ok a
      cases produced : outcome t v with
      | error fault =>
        simp only [List.findSome?_cons, ran, produced] at stopped
        exact absurd ⟨fault, stopped⟩ calm
      | ok executed => exact ⟨_, rfl⟩
    | _ :: _ :: _ => exact ⟨_, rfl⟩

theorem processOne_answers_checked_iff {validator : Callback}
    (checked : p.validator = some validator)
    (valid : ∀ c ∈ p.commands.values, (c.validate line).Answers)
    (resolved : p.resolveTarget target = .ok (.ok t)) (calm : ¬ p.ChokesFirst line target)
    (heard : ¬ p.Unsaid line target) :
    (p.processOne line target).Answers ↔ ¬ p.CountsUnnamed line target := by
  rw [chokesFirst_iff resolved valid] at calm
  simp only [CountsUnnamed, Act.Answers, answer_processOne_checked line checked resolved,
    answer_processAll line resolved]
  match stopped : p.stop? t line p.commands.values with
  | some (.error fault) => exact absurd ⟨fault, stopped⟩ calm
  | some (.ok failure) => simp
  | none =>
    have told := noMatch_of_sayable (sayable_of_unstopped resolved heard stopped)
    match p.accepted t line p.commands.values,
      (p.rejections t line p.commands.values).getLast? with
    | [], none => simp [told, Except.map]
    | [], some rejection | [result], _ => simp
    | a :: b :: rest, _ =>
      have several : 2 ≤ (a :: b :: rest).length := by simp
      have named := exists_names_iff 0 (a :: b :: rest)
      dsimp only
      generalize a :: b :: rest = rs at several named
      trans ∀ r ∈ rs, Named r
      · rw [← named]
        cases (commandNames rs).bind (nameTexts 0) <;> simp [Except.map]
      · simp [several]

/-- Where the list of all results answers and there is no call for a failure that cannot be told, the
search for the only result breaks off over results without names alone. -/
theorem processOne_answers_iff (valid : ∀ c ∈ p.commands.values, (c.validate line).Answers)
    (all : (p.processAll line target).Answers) (heard : ¬ p.Unsaid line target) :
    (p.processOne line target).Answers ↔ ¬ p.CountsUnnamed line target := by
  obtain ⟨writable, calm⟩ := (processAll_answers_iff valid).mp all
  obtain ⟨t, resolved⟩ | ⟨failure, unknown⟩ := p.resolved_or_unknown writable
  · cases checked : p.validator with
    | none =>
      exact iff_of_true (processOne_answers_unchecked checked valid resolved calm heard)
        (not_countsUnnamed (namesResults_unchecked checked))
    | some validator => exact processOne_answers_checked_iff checked valid resolved calm heard
  · refine iff_of_true ⟨.error failure, ?_⟩ ?_
    · exact answer_processOne_unresolved line (.ok failure) unknown
    · rintro ⟨rs, listed, _⟩
      rw [answer_processAll_unresolved line (.ok failure) unknown] at listed
      cases listed

/-! ### All dispatches -/

/-- Every dispatch of a processor answers. -/
structure Returns (p : Processor) (line target : Value) : Prop where
  validateAll : (p.validateAll line).Answers
  validateOne : (p.validateOne line).Answers
  processAll : (p.processAll line target).Answers
  processFirst : (p.processFirst line target).Answers
  processOne : (p.processOne line target).Answers
  evaluate : ∀ c ∈ p.commands.values, (p.evaluate c line target).Answers

/-- Every grammar answers for the line, the destination can be shown, no function chokes, no failure
is called for that cannot be told, and several results all name their commands. -/
structure Answerable (p : Processor) (line target : Value) : Prop where
  parses : ∀ c ∈ p.commands.values, (c.grammar.parse line).Answers
  shown : target.writable = true
  calm : ¬ p.ChokesFirst line target
  heard : ¬ p.Unsaid line target
  named : ¬ p.CountsUnnamed line target

section Total

variable (total : ∀ c ∈ p.commands.values, c.converter.Total)
include total

theorem validate_answers_all_iff :
    (∀ c ∈ p.commands.values, (c.validate line).Answers) ↔
      ∀ c ∈ p.commands.values, (c.grammar.parse line).Answers :=
  forall₂_congr fun c member => validate_answers_iff (total c member)

theorem answerable_iff :
    p.Answerable line target ↔ (p.validateAll line).Answers ∧ (p.processAll line target).Answers ∧
      (p.processFirst line target).Answers ∧ (p.processOne line target).Answers := by
  constructor
  · rintro ⟨parses, shown, calm, heard, named⟩
    have valid := (validate_answers_all_iff total).mpr parses
    have all := (processAll_answers_iff valid).mpr ⟨shown, calm⟩
    exact ⟨validateAll_answers_iff.mpr valid, all, processFirst_answers valid all heard,
      (processOne_answers_iff valid all heard).mpr named⟩
  · rintro ⟨valid, all, first, one⟩
    replace valid := validateAll_answers_iff.mp valid
    obtain ⟨shown, calm⟩ := (processAll_answers_iff valid).mp all
    have heard : ¬ p.Unsaid line target := fun unsaid => unsaid.not_processFirst_answers first
    exact ⟨(validate_answers_all_iff total).mp valid, shown, calm, heard,
      (processOne_answers_iff valid all heard).mp one⟩

/-- Commands by themselves answer if no function chokes on any of them, and the only command that
validates the line is looked for in vain if there is none. -/
theorem returns_iff_answerable :
    p.Returns line target ↔ p.Answerable line target ∧
      (p.commands.values = [] → line.sayable = true) ∧
      ∀ t, p.resolveTarget target = .ok (.ok t) →
        ∀ c ∈ p.commands.values, ¬ p.Chokes t line c := by
  rw [answerable_iff total]
  constructor
  · rintro ⟨valid, only, all, first, one, each⟩
    refine ⟨⟨valid, all, first, one⟩, (validateOne_answers_iff.mp only).2, ?_⟩
    intro t resolved c member
    exact ((evaluate_answers_iff.mp (each c member)).2 t resolved).2
  · rintro ⟨⟨valid, all, first, one⟩, said, calm⟩
    have each := validateAll_answers_iff.mp valid
    have shown := ((processAll_answers_iff each).mp all).1
    refine ⟨valid, validateOne_answers_iff.mpr ⟨valid, said⟩, all, first, one, ?_⟩
    intro c member
    exact evaluate_answers_iff.mpr
      ⟨shown, fun t resolved => ⟨each c member, calm t resolved c member⟩⟩

end Total

/-- What keeps every dispatch answering: grammars that declare no negative number of groups, nor more
than can be written, functions that tell what they raise, a validator whose replacements name commands,
and a line and a destination that can be shown. -/
structure Regular (p : Processor) (line target : Value) : Prop where
  counted : ∀ c ∈ p.commands.values, c.grammar.Counted
  declared : ∀ c ∈ p.commands.values, withinDigitLimit c.grammar.expected = true
  tells : p.Tells
  names : p.NamesResults
  line : line.writable = true
  target : target.writable = true

theorem Regular.answerable (regular : p.Regular line target) : p.Answerable line target where
  parses c member :=
    Grammar.parse_of_counted (regular.counted c member) (regular.declared c member) regular.line
  shown := regular.target
  calm := by
    rintro ⟨t, before, c, after, _, table, _, choked⟩
    exact regular.tells.not_chokes (by simp [table]) t line choked
  heard := by
    rintro ⟨_, _, mute⟩
    rw [Value.sayable_of_writable regular.line] at mute
    cases mute
  named := not_countsUnnamed regular.names

end Processor

namespace Group

/-- Every dispatch of a group answers. -/
structure Returns (g : Group) (line target : Value) : Prop where
  validateAll : (g.validateAll line).Answers
  processAll : (g.processAll line target).Answers
  processFirst : (g.processFirst line target).Answers
  processOne : (g.processOne line target).Answers

theorem answer_notInGroup (g : Group) (line : Value) {α : Type} :
    (Act.ofExcept ((g.notInGroup line).map .error) : Act (Outcome α)).Answers ↔
      line.sayable = true := by
  unfold Act.Answers notInGroup Value.said
  cases line.sayable <;> simp [Except.map]

theorem returns_iff_answerable {g : Group} {line target : Value}
    (total : ∀ c ∈ g.processor.commands.values, c.converter.Total) :
    g.Returns line target ↔
      (g.couldBeCommand line = true → g.processor.Answerable line target) ∧
        (g.couldBeCommand line = false → line.sayable = true) := by
  cases belongs : g.couldBeCommand line with
  | true =>
    simp only [forall_const, reduceCtorEq, false_imp_iff, and_true, Processor.answerable_iff total]
    constructor
    · rintro ⟨valid, all, first, one⟩
      simp only [validateAll, processAll, processFirst, processOne, belongs, if_true] at *
      exact ⟨valid, all, first, one⟩
    · rintro ⟨valid, all, first, one⟩
      constructor <;> simp only [validateAll, processAll, processFirst, processOne, belongs, if_true]
      all_goals assumption
  | false =>
    simp only [reduceCtorEq, false_imp_iff, forall_const, true_and]
    constructor
    · rintro ⟨_, _, first, _⟩
      simp only [processFirst, belongs] at first
      exact g.answer_notInGroup line |>.mp first
    · intro sayable
      constructor <;> simp only [validateAll, processAll, processFirst, processOne, belongs]
      · exact ⟨_, rfl⟩
      · exact ⟨_, rfl⟩
      · exact g.answer_notInGroup line |>.mpr sayable
      · exact g.answer_notInGroup line |>.mpr sayable

end Group

namespace Processor

/-- With converters that answer, it is decided exactly when every dispatch of a processor, and of a
group around it, answers. -/
theorem returns_iff (p : Processor) (leadWord : Option String) (line target : Value)
    (total : ∀ c ∈ p.commands.values, c.converter.Total) :
    (p.Returns line target ↔ p.Answerable line target ∧
        (p.commands.values = [] → line.sayable = true) ∧
        ∀ t, p.resolveTarget target = .ok (.ok t) →
          ∀ c ∈ p.commands.values, ¬ p.Chokes t line c) ∧
      (Group.Returns ⟨leadWord, p⟩ line target ↔
        (Group.couldBeCommand ⟨leadWord, p⟩ line = true → p.Answerable line target) ∧
          (Group.couldBeCommand ⟨leadWord, p⟩ line = false → line.sayable = true)) ∧
      (∀ c : Command, c.converter.Total →
        ((p.evaluate c line target).Answers ↔ target.writable = true ∧
          ∀ t, p.resolveTarget target = .ok (.ok t) →
            (c.grammar.parse line).Answers ∧ ¬ p.Chokes t line c)) ∧
      (p.Regular line target →
        p.Returns line target ∧ Group.Returns ⟨leadWord, p⟩ line target) := by
  have inside : p.Returns line target ↔ _ := returns_iff_answerable total
  have around : Group.Returns ⟨leadWord, p⟩ line target ↔ _ := Group.returns_iff_answerable total
  refine ⟨inside, around, fun c answering => ?_, fun regular => ?_⟩
  · simp only [evaluate_answers_iff, validate_answers_iff answering]
  · have sayable := Value.sayable_of_writable regular.line
    exact ⟨inside.mpr ⟨regular.answerable, fun _ => sayable,
        fun t _ c member => regular.tells.not_chokes member t line⟩,
      around.mpr ⟨fun _ => regular.answerable, fun _ => sayable⟩⟩

theorem returns_guarded :
    (∀ c ∈ guarded.commands.values, c.converter.Total) ∧
      guarded.Regular (.text "x y") .none ∧ guarded.Returns (.text "x y") .none ∧
      Group.Returns ⟨some "x", guarded⟩ (.text "x y") .none := by
  have total := fun c member => (settles_guarded c member).total
  have regular : guarded.Regular (.text "x y") .none :=
    { counted := fun c member => (settles_guarded c member).counted
      declared := fun c member => (settles_guarded c member).declared
      tells := tells_guarded
      names := by
        intro validator checked e v replied
        obtain rfl : onlyOne = validator := Option.some.inj checked
        unfold onlyOne at replied
        split at replied <;> cases replied
        exact .inl rfl
      line := rfl
      target := rfl }
  exact ⟨total, regular,
    (guarded.returns_iff (some "x") (.text "x y") .none total).2.2.2 regular⟩

/-- Two commands for the same lines, under a validator that puts a number in the place of every
result. -/
def replaced : Processor :=
  let answering (name : String) := Command.bare name (fun v => .ok (.success v))
    (.letterPair ⟨"a", 0⟩ ⟨"b", 0⟩)
  { commands := ⟨[⟨"one", "one", answering "one"⟩, ⟨"two", "two", answering "two"⟩]⟩
    validator := some fun _ => .ok (.success (.int 5))
    target := .text }

/-- Two numbers in the place of results break the search for the only result off. -/
theorem not_returns_replaced :
    let parts (name : String) : CommandParts :=
      ⟨.text name, .none, .usable .succeed, .usable fun v => .ok (.success v), [], []⟩
    let grammar := Grammar.letterPair ⟨"a", 0⟩ ⟨"b", 0⟩
    let created (name : String) := Command.create (parts name) (.usable grammar)
    GrammarBuilder.grammar? [⟨"a", "\\w", false, 0⟩, ⟨"b", "\\w", false, 0⟩]
        (Grammar.reference "a" ++ " " ++ Grammar.reference "b") = some grammar ∧
      replaced.commands.values.map (.ok <| .ok ·) = [created "one", created "two"] ∧
      (create replaced.commands.values replaced.validator (.text "text")).answer = .ok replaced ∧
      (∀ c ∈ replaced.commands.values, c.converter.Total) ∧
      ¬ replaced.Returns (.text "x y") .none ∧
      ¬ Group.Returns ⟨none, replaced⟩ (.text "x y") .none := by
  have faults : (replaced.processOne (.text "x y") .none).answer =
      .error (.noAttribute (.int 5) "command") := by rfl
  have silent : ¬ (replaced.processOne (.text "x y") .none).Answers :=
    fun answers => Act.answers_iff.mp answers _ faults
  refine ⟨by decide +kernel, by rfl, by rfl, ?_, fun returns => silent returns.processOne,
    fun returns => silent returns.processOne⟩
  intro c member
  simp only [replaced, NameTable.values, List.map_cons, List.map_nil, List.mem_cons,
    List.not_mem_nil, or_false] at member
  obtain rfl | rfl := member
  all_goals exact fun v _ => ⟨_, rfl⟩

end Processor
end LineCommand
