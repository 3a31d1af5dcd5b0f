import LineCommand.Proofs.Dispatch.Precedence
import LineCommand.Proofs.Dispatch.Validation

/-! Dispatch in two phases. Without a validator, and for a line that no command fails to match or
convert, it makes no difference whether commands are validated first and run afterwards, or
dispatched at once. -/
namespace LineCommand

/-- Runs validated commands in order, up to the first one that fails. -/
def ValidatedCommand.executeEach (t : FormatTarget) :
    List ValidatedCommand → Act (Outcome (List Value))
  | [] => pure (.ok [])
  | v :: rest => do
    match ← v.execute t.toValue with
    | .error failure => pure (.error failure)
    | .ok e => do
      let others ← executeEach t rest
      pure (others.map (e.toValue :: ·))

namespace Processor

variable {p : Processor} {t : FormatTarget} {line target : Value}

/-- The only result by way of the only command that validates the line. -/
def oneInPhases (p : Processor) (t : FormatTarget) (line : Value) : Act (Outcome Value) := do
  match ← p.validateOne line with
  | .error failure => pure (.error failure)
  | .ok validated => do
    let executed ← validated.execute t.toValue
    pure (executed.map Execution.toValue)

/-- No registered command fails to match or convert the line. -/
def Unfailing (p : Processor) (line : Value) : Prop :=
  ∀ c ∈ p.commands.values, ∀ failure, (c.validate line).answer ≠ .ok (.error failure)

/-! ### Running validated commands -/

theorem answer_execute (v : ValidatedCommand) :
    (v.execute t.toValue).answer = outcome t v := by
  simp only [ValidatedCommand.execute, Command.answer_run, outcome]

/-- Success of all results where every command runs well, else the first failure. -/
theorem answer_executeEach (t : FormatTarget) (vs : List ValidatedCommand) :
    (ValidatedCommand.executeEach t vs).answer =
      match vs.findSome? fun v => Trial.stop? (ran t v) with
      | some (.error fault) => .error fault
      | some (.ok failure) => .ok (.error failure)
      | none => .ok (.ok (vs.filterMap fun v => Trial.accepted? (ran t v))) := by
  induction vs with
  | nil => rfl
  | cons v rest ih =>
    simp only [ValidatedCommand.executeEach, Act.answer_bind, answer_execute, Except.bind,
      List.findSome?_cons, List.filterMap_cons]
    match produced : outcome t v with
    | .error fault =>
      have here : ran t v = .error fault := by simp only [ran, produced]
      rw [here]
      rfl
    | .ok (.error failure) =>
      have here : ran t v = .ok (.failed failure) := by simp only [ran, produced]
      rw [here]
      rfl
    | .ok (.ok e) =>
      have here : ran t v = .ok (.accepted e.toValue) := by simp only [ran, produced]
      rw [here]
      simp only [Act.answer_bind, ih]
      -- What the rest comes to stays closed while the first trial is opened.
      generalize (rest.findSome? fun v => Trial.stop? (ran t v)) = stopped
      generalize (rest.filterMap fun v => Trial.accepted? (ran t v)) = results
      cases stopped with
      | none => rfl
      | some stop => cases stop <;> rfl

theorem runs_execute (v : ValidatedCommand) : (v.execute t.toValue).runs = [v.command.name] := by
  simp only [ValidatedCommand.execute, Command.runs_run]

/-! ### All results -/

/-- Where no command fails or faults, all commands that match the line are validated. -/
theorem validateAll_of_valid (valid : p.commands.values.findSome? (Command.refusal? line) = none) :
    (p.validateAll line).answer =
      .ok (.ok (p.commands.values.filterMap (Command.validated? line))) := by
  rw [List.findSome?_eq_none_iff] at valid
  have quiet : p.commands.values.findSome? (Command.fault? line) = none := by
    refine List.findSome?_eq_none_iff.mpr fun c member => ?_
    obtain ⟨v?, validated⟩ := Command.refusal?_eq_none_iff.mp (valid c member)
    exact Command.fault?_eq_none_iff.mpr ⟨_, validated⟩
  have clean : p.commands.values.filterMap (Command.problem? line) = [] := by
    refine List.filterMap_eq_nil_iff.mpr fun c member => ?_
    obtain ⟨v?, validated⟩ := Command.refusal?_eq_none_iff.mp (valid c member)
    simp [Command.problem?, validated]
  rw [answer_validateAll, quiet, clean]
  cases p.commands.values.filterMap (Command.validated? line) <;> rfl

/-- A sweep runs what validated commands run in order. -/
theorem runs_sweep_unchecked (free : p.validator = none) {cs : List Command}
    (valid : cs.findSome? (Command.refusal? line) = none) :
    (p.sweep t line cs).runs =
      (ValidatedCommand.executeEach t (cs.filterMap (Command.validated? line))).runs := by
  induction cs with
  | nil => rfl
  | cons c rest ih =>
    rw [List.findSome?_cons] at valid
    cases refused : c.refusal? line with
    | some refusal =>
      rw [refused] at valid
      cases valid
    | none =>
      rw [refused] at valid
      have here := p.runs_evaluateFor t line c
      have tried := trial_unchecked (t := t) free refused
      obtain ⟨v?, validated⟩ := Command.refusal?_eq_none_iff.mp refused
      simp only [sweep, Act.runs_bind, here, List.filterMap_cons, Command.validated?, validated]
      simp only [Command.validated?, validated] at tried
      change (p.evaluateFor t line c).answer = _ at tried
      rw [tried]
      cases v? with
      | none => exact ih valid
      | some v =>
        have same := Command.validate_command validated
        simp only [ValidatedCommand.executeEach, Act.runs_bind, runs_execute, answer_execute, same,
          ran]
        obtain fault | failure | e := outcome t v
        · rfl
        · rfl
        · simp only [Act.runs_bind, ih valid, Act.runs_pure]
          congr 2
          cases (p.sweep t line rest).answer <;>
            cases (ValidatedCommand.executeEach t
              (rest.filterMap (Command.validated? line))).answer <;> rfl

/-! ### Lines that no command fails on -/

namespace Unfailing

/-- What keeps a line from being validated is a fault. -/
theorem findSome?_refusal (unfailing : p.Unfailing line) :
    p.commands.values.findSome? (Command.refusal? line) =
      (p.commands.values.findSome? (Command.fault? line)).map .error := by
  have here : ∀ c ∈ p.commands.values, c.refusal? line = (c.fault? line).map .error := by
    intro c member
    have answers := unfailing c member
    unfold Command.refusal? Command.fault?
    cases validated : (c.validate line).answer with
    | error fault => rfl
    | ok outcome =>
      cases outcome with
      | error failure => exact absurd validated (answers failure)
      | ok v? => rfl
  rw [← List.head?_filterMap, List.filterMap_congr here, ← List.map_filterMap, List.head?_map,
    List.head?_filterMap]

theorem answer_validateAll (unfailing : p.Unfailing line) :
    (p.validateAll line).answer =
      match p.commands.values.findSome? (Command.fault? line) with
      | some fault => .error fault
      | none => .ok (.ok (p.commands.values.filterMap (Command.validated? line))) := by
  cases faulted : p.commands.values.findSome? (Command.fault? line) with
  | some fault => rw [Processor.answer_validateAll, faulted]
  | none =>
    refine validateAll_of_valid ?_
    rw [unfailing.findSome?_refusal, faulted]
    rfl

/-- Validation succeeds if every command has an answer for the line. -/
theorem exists_validateAll_iff (unfailing : p.Unfailing line) :
    (∃ vs, (p.validateAll line).answer = .ok (.ok vs)) ↔
      ∀ c ∈ p.commands.values, ∃ outcome, (c.validate line).answer = .ok outcome := by
  simp only [← Command.fault?_eq_none_iff, ← List.findSome?_eq_none_iff]
  rw [unfailing.answer_validateAll]
  cases p.commands.values.findSome? (Command.fault? line) <;> simp

end Unfailing

/-! ### One phase and two -/

/-- The result of a validated command, or the failure or fault in its place. -/
def result (t : FormatTarget) (v : ValidatedCommand) : ExceptT Failure (Except Fault) Value :=
  .mk ((outcome t v).map (Except.map Execution.toValue))

/-- Running validated commands gives all results where each of them succeeds, and else the first
failure or fault. -/
theorem answer_executeEach_mapM (t : FormatTarget) (vs : List ValidatedCommand) :
    (ValidatedCommand.executeEach t vs).answer = (vs.mapM (result t)).run := by
  induction vs with
  | nil => rfl
  | cons v rest ih =>
    rw [List.mapM_cons, ExceptT.run_bind, ValidatedCommand.executeEach, Act.answer_bind,
      answer_execute, result, ExceptT.run_mk]
    match outcome t v with
    | .error fault => rfl
    | .ok (.error failure) => rfl
    | .ok (.ok e) =>
      simp only [Except.bind, Except.map, Act.answer_bind, ih, Act.answer_pure]
      change _ = ((rest.mapM (result t)) >>= fun others => pure (e.toValue :: others)).run
      rw [ExceptT.run_bind]
      match (rest.mapM (result t)).run with
      | .error fault => rfl
      | .ok (.error failure) => rfl
      | .ok (.ok others) => rfl

theorem answer_processAll_of_validated (free : p.validator = none)
    (resolved : p.resolveTarget target = .ok (.ok t)) {vs : List ValidatedCommand}
    (valid : p.commands.values.findSome? (Command.refusal? line) = none)
    (validated : (p.validateAll line).answer = .ok (.ok vs)) :
    (p.processAll line target).answer = (ValidatedCommand.executeEach t vs).answer := by
  rw [validateAll_of_valid valid] at validated
  obtain rfl := Except.ok.inj (Except.ok.inj validated)
  rw [answer_processAll line resolved, rejections_unchecked free, accepted_unchecked free valid,
    stop?_unchecked free valid, answer_executeEach]
  generalize p.commands.values.filterMap (Command.validated? line) = vs
  cases vs.findSome? (fun v => Trial.stop? (ran t v)) with
  | some stop => cases stop <;> rfl
  | none => cases vs.filterMap (fun v => Trial.accepted? (ran t v)) <;> rfl

theorem runs_processAll_of_validated (free : p.validator = none)
    (resolved : p.resolveTarget target = .ok (.ok t)) {vs : List ValidatedCommand}
    (valid : p.commands.values.findSome? (Command.refusal? line) = none)
    (validated : (p.validateAll line).answer = .ok (.ok vs)) :
    (p.processAll line target).runs = (ValidatedCommand.executeEach t vs).runs := by
  rw [validateAll_of_valid valid] at validated
  obtain rfl := Except.ok.inj (Except.ok.inj validated)
  rw [runs_processAll, resolved]
  exact runs_sweep_unchecked free valid

/-- Where some command is validated, the line is a text, so it can be told. -/
theorem sayable_of_validated {v : ValidatedCommand} {vs : List ValidatedCommand}
    (found : p.commands.values.filterMap (Command.validated? line) = v :: vs) :
    line.sayable = true := by
  have listed : v ∈ p.commands.values.filterMap (Command.validated? line) := by simp [found]
  obtain ⟨c, _, validated⟩ := List.mem_filterMap.mp listed
  exact sayable_of_text? (Command.exists_text?_of_validated? validated)

/-- The search for the only result is validation followed by execution, faults included. -/
theorem answer_processOne_eq_oneInPhases (free : p.validator = none)
    (resolved : p.resolveTarget target = .ok (.ok t)) (unfailing : p.Unfailing line) :
    (p.processOne line target).answer = (p.oneInPhases t line).answer := by
  rw [answer_processOne_unchecked line free resolved, oneInPhases, Act.answer_bind,
    answer_validateOne, unfailing.answer_validateAll, unfailing.findSome?_refusal]
  cases p.commands.values.findSome? (Command.fault? line) with
  | some fault => rfl
  | none =>
    match found : p.commands.values.filterMap (Command.validated? line) with
    | [] => cases noMatch line <;> rfl
    | [v] =>
      simp only [Option.map_none, Except.bind, Act.answer_bind, answer_execute, Act.answer_pure,
        outcome]
      cases v.command.produce v.params t.toValue <;> rfl
    | _ :: _ :: _ =>
      rw [Value.said_of_sayable (sayable_of_validated found)]
      rfl

theorem runs_validateStrictly (line : Value) (cs : List Command) :
    (validateStrictly line cs).runs = [] := by
  induction cs with
  | nil => rfl
  | cons c rest ih =>
    simp only [validateStrictly, Act.runs_bind, Command.runs_validate, List.nil_append]
    cases (c.validate line).answer with
    | error fault => rfl
    | ok outcome =>
      cases outcome with
      | error failure => rfl
      | ok found? =>
        simp only [Act.runs_bind, ih, List.nil_append]
        cases (validateStrictly line rest).answer <;> rfl

theorem runs_processOne_eq_oneInPhases (free : p.validator = none)
    (resolved : p.resolveTarget target = .ok (.ok t)) (unfailing : p.Unfailing line) :
    (p.processOne line target).runs = (p.oneInPhases t line).runs := by
  simp only [processOne, resolved, free, oneInPhases, Act.runs_bind, Act.runs_ofExcept,
    Act.answer_ofExcept, answer_validateOne, runs_validateOne, runs_validateStrictly,
    unfailing.answer_validateAll, answer_validateStrictly, unfailing.findSome?_refusal,
    List.nil_append]
  cases p.commands.values.findSome? (Command.fault? line) with
  | some fault => rfl
  | none =>
    match found : p.commands.values.filterMap (Command.validated? line) with
    | [] => cases noMatch line <;> rfl
    | [v] => rfl
    | _ :: _ :: _ =>
      rw [Value.said_of_sayable (sayable_of_validated found)]
      exact runs_ambiguous _ _

/-- Dispatch at once comes to the same as validation followed by execution. -/
structure EqualsPhases (p : Processor) (t : FormatTarget) (line target : Value) : Prop where
  one : (p.processOne line target).answer = (p.oneInPhases t line).answer
  one_runs : (p.processOne line target).runs = (p.oneInPhases t line).runs
  validates_iff : (∃ vs, (p.validateAll line).answer = .ok (.ok vs)) ↔
    ∀ c ∈ p.commands.values, ∃ outcome, (c.validate line).answer = .ok outcome
  /-- All results where every command succeeds, and else the first failure or fault. -/
  all : ∀ vs, (p.validateAll line).answer = .ok (.ok vs) →
    (p.processAll line target).answer = (ValidatedCommand.executeEach t vs).answer ∧
      (p.processAll line target).answer = (vs.mapM (result t)).run
  all_runs : ∀ vs, (p.validateAll line).answer = .ok (.ok vs) →
    (p.processAll line target).runs = (ValidatedCommand.executeEach t vs).runs

theorem equalsPhases (p : Processor) (line target : Value) (free : p.validator = none)
    (resolved : p.resolveTarget target = .ok (.ok t)) (unfailing : p.Unfailing line) :
    p.EqualsPhases t line target := by
  have valid : ∀ vs, (p.validateAll line).answer = .ok (.ok vs) →
      p.commands.values.findSome? (Command.refusal? line) = none := by
    intro vs validated
    have answers := unfailing.exists_validateAll_iff.mp ⟨vs, validated⟩
    refine List.findSome?_eq_none_iff.mpr fun c member => Command.refusal?_eq_none_iff.mpr ?_
    obtain ⟨outcome, answered⟩ := answers c member
    cases outcome with
    | error failure => exact absurd answered (unfailing c member failure)
    | ok v? => exact ⟨v?, answered⟩
  refine ⟨answer_processOne_eq_oneInPhases free resolved unfailing,
    runs_processOne_eq_oneInPhases free resolved unfailing, unfailing.exists_validateAll_iff,
    fun vs validated => ?_, fun vs validated =>
      runs_processAll_of_validated free resolved (valid vs validated) validated⟩
  have executed := answer_processAll_of_validated free resolved (valid vs validated) validated
  exact ⟨executed, executed.trans (answer_executeEach_mapM t vs)⟩

/-- Two commands for the same lines, one of which fails when it runs. -/
def unguarded : Processor :=
  let answering := Command.bare "one" (fun v => .ok (.success v)) (.letterPair ⟨"a", 0⟩ ⟨"b", 0⟩)
  let failing := Command.bare "two" (fun _ => .ok (.failure "no" .none))
    (.letterPair ⟨"a", 0⟩ ⟨"b", 0⟩)
  { commands := ⟨[⟨"one", "one", answering⟩, ⟨"two", "two", failing⟩]⟩
    validator := none
    target := .text }

theorem equalsPhases_unguarded :
    unguarded.validator = none ∧ unguarded.resolveTarget .none = .ok (.ok .text) ∧
      unguarded.Unfailing (.text "x y") ∧ unguarded.EqualsPhases .text (.text "x y") .none := by
  have unfailing : unguarded.Unfailing (.text "x y") := by
    intro c member failure failed
    simp only [unguarded, NameTable.values, List.map_cons, List.map_nil, List.mem_cons,
      List.not_mem_nil, or_false] at member
    rw [Command.answer_validate] at failed
    obtain rfl | rfl := member <;> cases failed
  exact ⟨rfl, rfl, unfailing, unguarded.equalsPhases (.text "x y") .none rfl rfl unfailing⟩

end Processor
end LineCommand
