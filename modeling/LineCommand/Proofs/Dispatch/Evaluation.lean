import LineCommand.Dispatch.Processor
import LineCommand.Proofs.Grammar.Captures
import LineCommand.Proofs.Value.Describing

/-! What one command makes of a line, stage by stage: the answer of every stage, and which executor
it runs. A stage that users supply ends in a fault only if its own fault cannot be told, and only a
command that validates the line runs anything. -/
namespace LineCommand

namespace Grammar

@[simp] theorem runs_mismatched {α : Type} (g : Grammar) (found : Nat) :
    (g.mismatched found : Act (Outcome α)).runs = [] := by
  simp only [mismatched, Act.runs_bind, Act.runs_ofExcept, Act.answer_ofExcept, List.nil_append]
  cases (Value.int g.expected).said <;> rfl

@[simp] theorem runs_parse (g : Grammar) (line : Value) : (g.parse line).runs = [] := by
  unfold parse
  split
  · simp only [Act.runs_bind, Act.runs_ofExcept, Act.answer_ofExcept, List.nil_append]
    cases line.shown <;> rfl
  · split
    · rfl
    · rfl
    · rfl
    · exact g.runs_mismatched _

end Grammar

theorem FieldTexts.writable_toValue (texts : FieldTexts) : texts.toValue.writable = true := by
  refine Value.writableEntries_iff.mpr fun e listed => ?_
  obtain ⟨⟨name, text?⟩, _, rfl⟩ := List.mem_map.mp listed
  cases text? <;> exact ⟨rfl, rfl⟩

/-! ### Faults that cannot be told -/

def Callback.Chokes (f : Callback) (v : Value) : Prop :=
  ∃ fault, f v = .error fault ∧ fault.message = none

/-- A function never raises what cannot be told. -/
def Callback.Tells (f : Callback) : Prop := ∀ v, ¬ f.Chokes v

theorem capture_eq_error_iff {f : Callback} {v : Value} :
    (∃ fault, Outcome.capture (f v) = .error fault) ↔ f.Chokes v := by
  unfold Callback.Chokes Outcome.capture
  cases f v with
  | ok reply => simp
  | error fault =>
    obtain ⟨kind, message⟩ := fault
    cases message <;> simp [Fault.summary, Fault.said, Except.map]

theorem FormatterSet.mem_of_get? {s : FormatterSet} {t : FormatTarget} {f : Callback}
    (found : s.get? t = some f) : ∃ u, (u, f) ∈ s.entries := by
  obtain own | ⟨_, textual⟩ := Option.or_eq_some_iff.mp found
  · exact ⟨t, mem_of_lookup own⟩
  · exact ⟨.text, mem_of_lookup textual⟩

/-- Values that cannot be said are told to be so. -/
theorem FormatterSet.formatter_chokes_iff {s : FormatterSet} {t : FormatTarget} {v : Value} :
    (s.formatter t).Chokes v ↔ ∃ f, s.get? t = some f ∧ f.Chokes v := by
  unfold formatter
  cases s.get? t with
  | some f => simp
  | none =>
    simp only [Option.getD_none, reduceCtorEq, false_and, exists_false, iff_false]
    rintro ⟨fault, raised, silent⟩
    cases sayable : v.sayable with
    | true =>
      simp only [Value.said_of_sayable sayable] at raised
      cases raised
    | false =>
      simp only [Value.said_of_not_sayable sayable] at raised
      cases raised
      cases silent

theorem FormatterSet.formatFor_eq_error_iff {s : FormatterSet} {t : FormatTarget} {v : Value} :
    (∃ fault, s.formatFor v t = .error fault) ↔ ∃ f, s.get? t = some f ∧ f.Chokes v := by
  rw [← formatter_chokes_iff, ← capture_eq_error_iff, formatFor]
  cases Outcome.capture (s.formatter t v) <;> simp [Except.map]

theorem FormatTarget.detail_of_resolve {target : Value} {failure : Failure}
    (failed : resolve target = .ok (.error failure)) : failure.detail = .kind .format := by
  unfold resolve at failed
  split at failed
  · cases failed
  · obtain ⟨shown, _, cited⟩ := except_bind_eq_ok_iff.mp failed
    cases cited
    rfl

namespace Command

@[simp] theorem runs_validate (c : Command) (line : Value) : (c.validate line).runs = [] := by
  simp only [validate, Act.runs_bind, Grammar.runs_parse, List.nil_append]
  cases (c.grammar.parse line).answer with
  | error fault => rfl
  | ok parsed =>
    cases parsed with
    | error failure => rfl
    | ok texts? =>
      cases texts? with
      | none => rfl
      | some texts =>
        simp only [Act.runs_bind, Act.runs_ofExcept, Act.answer_ofExcept, List.nil_append]
        cases c.converter.convert texts.toValue with
        | error fault => rfl
        | ok converted => cases converted <;> rfl

/-- Validation by its two stages. -/
theorem answer_validate (c : Command) (line : Value) :
    (c.validate line).answer =
      match (c.grammar.parse line).answer with
      | .error fault => .error fault
      | .ok (.error failure) => .ok (.error failure)
      | .ok (.ok none) => .ok (.ok none)
      | .ok (.ok (some texts)) =>
        match c.converter.convert texts.toValue with
        | .error fault => .error fault
        | .ok (.ok params) => .ok (.ok (some ⟨c, params⟩))
        | .ok (.error failure) =>
          .ok (.error { failure with detail := failure.detail.orElse (.kind .conversion) }) := by
  simp only [validate, Act.answer_bind]
  cases (c.grammar.parse line).answer with
  | error fault => rfl
  | ok parsed =>
    cases parsed with
    | error failure => rfl
    | ok texts? =>
      cases texts? with
      | none => rfl
      | some texts =>
        simp only [Except.bind, Act.answer_bind, Act.answer_ofExcept]
        cases c.converter.convert texts.toValue with
        | error fault => rfl
        | ok converted => cases converted <;> rfl

/-- A command has to do with texts alone, as far as it neither faults nor fails. -/
theorem exists_text?_of_validate {c : Command} {line : Value} {v? : Option ValidatedCommand}
    (validated : (c.validate line).answer = .ok (.ok v?)) : ∃ s, line.text? = some s := by
  rw [answer_validate] at validated
  split at validated
  case h_3 parsed => exact Grammar.exists_text?_of_parse parsed
  case h_4 parsed => exact Grammar.exists_text?_of_parse parsed
  all_goals cases validated

/-- What is validated is the command itself, with the parameters that its converter has made. -/
theorem validate_command {c : Command} {line : Value} {v : ValidatedCommand}
    (validated : (c.validate line).answer = .ok (.ok (some v))) : v.command = c := by
  rw [answer_validate] at validated
  split at validated
  case h_4 =>
    split at validated <;> cases validated
    rfl
  all_goals cases validated

/-- A fault while a line is matched and converted comes from the grammar or from the converter. -/
theorem fault_of_validate {c : Command} {line : Value} {fault : Fault}
    (faulted : (c.validate line).answer = .error fault) :
    (c.grammar.parse line).answer = .error fault ∨
      ∃ texts : FieldTexts, c.converter.convert texts.toValue = .error fault := by
  rw [answer_validate] at faulted
  split at faulted
  case h_1 fault' parsed =>
    cases faulted
    exact .inl parsed
  case h_4 texts _ =>
    split at faulted
    case h_1 converted =>
      cases faulted
      exact .inr ⟨_, converted⟩
    all_goals cases faulted
  all_goals cases faulted

/-- What comes of running a command on parameters: a fault of the executor is a failure, if it can
be told. -/
def produce (c : Command) (params target : Value) : Except Fault (Outcome Execution) :=
  match Outcome.capture (c.executor params) with
  | .error fault => .error fault
  | .ok (.error failure) => .ok (fail .execution s!"{c.name}: {failure.message}")
  | .ok (.ok reply) => c.conclude reply target

/-- Running a command ends in a fault exactly if its executor, or the formatter that is asked for the
text of its result, raises what cannot be told. -/
theorem produce_eq_error_iff {c : Command} {params : Value} {t : FormatTarget} :
    (∃ fault, c.produce params t.toValue = .error fault) ↔
      c.executor.Chokes params ∨
        ∃ result f, c.executor params = .ok (.success result) ∧ c.formatters.get? t = some f ∧
          f.Chokes result := by
  have asked : (∃ fault, Outcome.capture (c.executor params) = .error fault) ↔
      c.executor.Chokes params := capture_eq_error_iff
  unfold produce
  cases answer : c.executor params with
  | error raised =>
    rw [answer] at asked
    simp only [reduceCtorEq, false_and, exists_false, or_false, ← asked, Outcome.capture]
    cases raised.summary <;> simp [Except.map]
  | ok reply =>
    have calm : ¬ c.executor.Chokes params := by
      rw [← asked, answer]
      simp
    simp only [Outcome.capture_ok, calm, false_or, Except.ok.injEq]
    cases reply with
    | success result =>
      have worded := FormatterSet.formatFor_eq_error_iff (s := c.formatters) (t := t) (v := result)
      simp only [Value.success.injEq, exists_and_left, exists_eq_left', ← worded, conclude,
        Outcome.ofValue?, format, FormatterSet.format, FormatTarget.resolve_toValue]
      change (∃ fault, (c.formatters.formatFor result t).map _ = .error fault) ↔ _
      cases c.formatters.formatFor result t <;> simp [Except.map]
    | _ => simp [conclude, Outcome.ofValue?]

theorem answer_run (c : Command) (params target : Value) :
    (c.run params target).answer = c.produce params target := by
  simp only [run, produce, Act.answer_bind, Act.answer_ran, Act.answer_ofExcept, Except.bind]
  cases Outcome.capture (c.executor params) with
  | error fault => rfl
  | ok captured => cases captured <;> rfl

theorem runs_run (c : Command) (params target : Value) :
    (c.run params target).runs = [c.name] := by
  simp only [run, Act.runs_bind, Act.answer_ran, Act.runs_ran, Act.answer_ofExcept,
    Act.runs_ofExcept]
  cases Outcome.capture (c.executor params) with
  | error fault => rfl
  | ok captured => cases captured <;> rfl

theorem conclude_command {c : Command} {reply target : Value} {e : Execution}
    (concluded : c.conclude reply target = .ok (.ok e)) : e.command = c.name := by
  unfold conclude at concluded
  split at concluded
  · cases concluded
  · cases concluded
  · obtain ⟨worded, _, made⟩ := except_map_eq_ok_iff.mp concluded
    split at made <;> cases made
    rfl

theorem produce_command {c : Command} {params target : Value} {e : Execution}
    (produced : c.produce params target = .ok (.ok e)) : e.command = c.name := by
  unfold produce at produced
  split at produced
  · cases produced
  · cases produced
  · exact conclude_command produced

/-- A command that hands the texts of its fields to an executor and shows results as they are. -/
def bare (name : String) (executor : Callback) (grammar : Grammar) : Command :=
  { name, grammar, executor
    description := .text "", converter := .succeed, formatters := {}, examples := [] }

end Command

namespace Processor

variable (p : Processor) (t : FormatTarget) (line : Value)

def assess (result : Value) : Except Fault Evaluation :=
  match p.validator with
  | none => .ok (.accepted result)
  | some validator =>
    match Outcome.capture (validator result) with
    | .error fault => .error fault
    | .ok (.error failure) =>
      .ok (.failed (.of .validation s!"Validator raised: {failure.message}"))
    | .ok (.ok reply) => .ok (judge result reply)

theorem assess_unchecked {p : Processor} (free : p.validator = none) (result : Value) :
    p.assess result = .ok (.accepted result) := by
  simp only [assess, free]

theorem assess_eq_error_iff {p : Processor} {result : Value} :
    (∃ fault, p.assess result = .error fault) ↔
      ∃ validator, p.validator = some validator ∧ validator.Chokes result := by
  unfold assess
  cases p.validator with
  | none => simp
  | some validator =>
    simp only [Option.some.injEq, exists_eq_left', ← capture_eq_error_iff]
    match Outcome.capture (validator result) with
    | .error fault | .ok (.error failure) | .ok (.ok reply) => simp

/-- What is accepted is the result itself, unless the validator has put another value in its place. -/
theorem eq_or_replaced_of_assess {p : Processor} {result r : Value}
    (accepted : p.assess result = .ok (.accepted r)) :
    r = result ∨ ∃ validator, p.validator = some validator ∧
      validator result = .ok (.success r) ∧ r ≠ .none := by
  unfold assess at accepted
  cases checked : p.validator with
  | none =>
    rw [checked] at accepted
    cases accepted
    exact .inl rfl
  | some validator =>
    simp only [checked] at accepted
    cases replied : validator result with
    | error fault =>
      rw [replied, Outcome.capture] at accepted
      cases told : fault.summary <;> rw [told] at accepted <;> cases accepted
    | ok reply =>
      rw [replied] at accepted
      replace accepted : judge result reply = .accepted r := Except.ok.inj accepted
      cases reply with
      | success v =>
        replace accepted : (if v.isNone then result else v) = r := Evaluation.accepted.inj accepted
        split at accepted
        case isTrue => exact .inl accepted.symm
        case isFalse present =>
          subst accepted
          refine .inr ⟨validator, rfl, replied, ?_⟩
          rintro rfl
          exact present rfl
      | _ => cases accepted

theorem answer_check (name : String) (result : Value) :
    (p.check name result).answer = p.assess result := by
  unfold check assess
  cases p.validator with
  | none => rfl
  | some validator =>
    dsimp only
    cases Outcome.capture (validator result) with
    | error fault => rfl
    | ok captured =>
      cases captured with
      | error failure => rfl
      | ok reply =>
        dsimp only
        cases judge result reply <;> rfl

theorem runs_check (name : String) (result : Value) : (p.check name result).runs = [] := by
  unfold check
  cases p.validator with
  | none => rfl
  | some validator =>
    dsimp only
    cases Outcome.capture (validator result) with
    | error fault => rfl
    | ok captured =>
      cases captured with
      | error failure => rfl
      | ok reply =>
        dsimp only
        cases judge result reply <;> rfl

/-- Trying a command depends on nothing of a processor but its validator. -/
theorem evaluateFor_congr {p q : Processor} (validators : q.validator = p.validator)
    (t : FormatTarget) (line : Value) (c : Command) :
    q.evaluateFor t line c = p.evaluateFor t line c := by
  simp only [evaluateFor, check, validators]

/-- What a command makes of a line, without the events on the way. -/
def trial (c : Command) : Except Fault Evaluation := (p.evaluateFor t line c).answer

/-- A trial by its stages. -/
theorem trial_eq (c : Command) :
    p.trial t line c =
      match (c.validate line).answer with
      | .error fault => .error fault
      | .ok (.error failure) => .ok (.failed failure)
      | .ok (.ok none) => .ok .notMatched
      | .ok (.ok (some v)) =>
        match c.produce v.params t.toValue with
        | .error fault => .error fault
        | .ok (.error failure) => .ok (.failed failure)
        | .ok (.ok e) => p.assess e.toValue := by
  simp only [trial, evaluateFor, Command.execute, Act.answer_bind]
  cases validated : (c.validate line).answer with
  | error fault => rfl
  | ok outcome =>
    cases outcome with
    | error failure => rfl
    | ok v? =>
      cases v? with
      | none => rfl
      | some v =>
        have same := Command.validate_command validated
        simp only [Except.bind, Act.answer_bind, ValidatedCommand.execute, Command.answer_run, same,
          Act.answer_pure]
        cases c.produce v.params t.toValue with
        | error fault => rfl
        | ok produced =>
          cases produced with
          | error failure => rfl
          | ok e => exact p.answer_check c.name e.toValue

theorem trial_of_validated {p : Processor} {t : FormatTarget} {line : Value} {c : Command}
    {v : ValidatedCommand} (validated : (c.validate line).answer = .ok (.ok (some v))) :
    p.trial t line c =
      match c.produce v.params t.toValue with
      | .error fault => .error fault
      | .ok (.error failure) => .ok (.failed failure)
      | .ok (.ok e) => p.assess e.toValue := by
  rw [trial_eq, validated]

/-- A trial that ends in a result has gone through all stages. -/
theorem stages_of_accepted {p : Processor} {t : FormatTarget} {line : Value} {c : Command} {r : Value}
    (accepted : p.trial t line c = .ok (.accepted r)) :
    ∃ v e, (c.validate line).answer = .ok (.ok (some v)) ∧
      c.produce v.params t.toValue = .ok (.ok e) ∧ p.assess e.toValue = .ok (.accepted r) := by
  rw [trial_eq] at accepted
  split at accepted
  case h_4 v validated =>
    split at accepted
    case h_1 => cases accepted
    case h_2 => cases accepted
    case h_3 e produced => exact ⟨v, e, validated, produced, accepted⟩
  all_goals cases accepted

/-- A user's function raises what cannot be told, on the way of a command through its stages. -/
inductive Chokes (c : Command) : Prop
  | executor {v : ValidatedCommand} (validated : (c.validate line).answer = .ok (.ok (some v)))
      (raised : c.executor.Chokes v.params)
  | formatter {v : ValidatedCommand} {result : Value} {f : Callback}
      (validated : (c.validate line).answer = .ok (.ok (some v)))
      (replied : c.executor v.params = .ok (.success result))
      (found : c.formatters.get? t = some f) (raised : f.Chokes result)
  | validator {v : ValidatedCommand} {e : Execution} {f : Callback}
      (validated : (c.validate line).answer = .ok (.ok (some v)))
      (produced : c.produce v.params t.toValue = .ok (.ok e))
      (checked : p.validator = some f) (raised : f.Chokes e.toValue)

/-- A trial ends in a fault exactly if matching or converting does, or if a function that users supply
raises what cannot be told. -/
theorem trial_eq_error_iff {p : Processor} {t : FormatTarget} {line : Value} {c : Command} :
    (∃ fault, p.trial t line c = .error fault) ↔
      (∃ fault, (c.validate line).answer = .error fault) ∨ p.Chokes t line c := by
  constructor
  · rintro ⟨fault, faulted⟩
    rw [trial_eq] at faulted
    split at faulted
    case h_1 validated => exact .inl ⟨_, validated⟩
    case h_2 => cases faulted
    case h_3 => cases faulted
    case h_4 v validated =>
      split at faulted
      case h_1 produced =>
        obtain raised | ⟨result, f, replied, found, raised⟩ :=
          Command.produce_eq_error_iff.mp ⟨_, produced⟩
        · exact .inr (.executor validated raised)
        · exact .inr (.formatter validated replied found raised)
      case h_2 => cases faulted
      case h_3 e produced =>
        obtain ⟨validator, checked, raised⟩ := assess_eq_error_iff.mp ⟨_, faulted⟩
        exact .inr (.validator validated produced checked raised)
  · rintro (⟨fault, validated⟩ | choked)
    · exact ⟨fault, by rw [trial_eq, validated]⟩
    · cases choked with
      | executor validated raised =>
        obtain ⟨fault, produced⟩ := Command.produce_eq_error_iff.mpr (.inl raised)
        exact ⟨fault, by rw [trial_of_validated validated, produced]⟩
      | formatter validated replied found raised =>
        obtain ⟨fault, produced⟩ :=
          Command.produce_eq_error_iff.mpr (.inr ⟨_, _, replied, found, raised⟩)
        exact ⟨fault, by rw [trial_of_validated validated, produced]⟩
      | validator validated produced checked raised =>
        obtain ⟨fault, assessed⟩ := assess_eq_error_iff.mpr ⟨_, checked, raised⟩
        refine ⟨fault, ?_⟩
        rw [trial_of_validated validated, produced]
        exact assessed

/-- No function that users have supplied raises what cannot be told. -/
structure Tells (p : Processor) : Prop where
  executors : ∀ c ∈ p.commands.values, c.executor.Tells
  formatters : ∀ c ∈ p.commands.values, ∀ e ∈ c.formatters.entries, e.2.Tells
  validator : ∀ f, p.validator = some f → f.Tells

theorem Tells.not_chokes {p : Processor} (tells : p.Tells) {c : Command}
    (member : c ∈ p.commands.values) (t : FormatTarget) (line : Value) : ¬ p.Chokes t line c := by
  intro choked
  cases choked with
  | executor _ raised => exact tells.executors c member _ raised
  | formatter _ _ found raised =>
    obtain ⟨name, listed⟩ := FormatterSet.mem_of_get? found
    exact tells.formatters c member _ listed _ raised
  | validator _ _ checked raised => exact tells.validator _ checked _ raised

/-- Where a trial does not end the dispatch, the line is a text. -/
theorem exists_text?_of_trial {c : Command} {evaluation : Evaluation}
    (tried : p.trial t line c = .ok evaluation) (unfailed : ∀ f, evaluation ≠ .failed f) :
    ∃ s, line.text? = some s := by
  rw [trial_eq] at tried
  split at tried
  case h_1 => cases tried
  case h_2 =>
    cases tried
    exact absurd rfl (unfailed _)
  case h_3 validated => exact Command.exists_text?_of_validate validated
  case h_4 validated => exact Command.exists_text?_of_validate validated

/-- The executor of a command runs only if the command validates the line. -/
theorem runs_evaluateFor (c : Command) :
    (p.evaluateFor t line c).runs =
      match (c.validate line).answer with
      | .ok (.ok (some _)) => [c.name]
      | _ => [] := by
  simp only [evaluateFor, Command.execute, Act.runs_bind, Act.answer_bind, Command.runs_validate,
    List.nil_append]
  cases validated : (c.validate line).answer with
  | error fault => rfl
  | ok outcome =>
    cases outcome with
    | error failure => rfl
    | ok v? =>
      cases v? with
      | none => rfl
      | some v =>
        have same := Command.validate_command validated
        simp only [Except.bind, Act.runs_bind, Act.answer_bind, ValidatedCommand.execute,
          Command.answer_run, Command.runs_run, same, Act.answer_pure, Act.runs_pure]
        cases c.produce v.params t.toValue with
        | error fault => rfl
        | ok produced =>
          cases produced with
          | error failure => rfl
          | ok e => simp [Except.map, p.runs_check]

theorem runs_evaluateFor_sublist (c : Command) :
    (p.evaluateFor t line c).runs.Sublist [c.name] := by
  rw [runs_evaluateFor]
  split
  · exact .refl _
  · exact List.nil_sublist _

/-- A command can be tried by itself; that gives the trial for the destination meant. -/
theorem answer_evaluate {target : Value} (resolved : p.resolveTarget target = .ok (.ok t))
    (c : Command) : (p.evaluate c line target).answer = p.trial t line c := by
  simp only [evaluate, resolved, trial, Act.answer_bind, Act.answer_ofExcept, Except.bind]

end Processor
end LineCommand
