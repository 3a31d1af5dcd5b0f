import Mathlib.Data.List.Basic
import LineCommand.Proofs.Dispatch.Policy
import LineCommand.Proofs.Grammar.Captures

/-! The search for the only result against the list of all results. Without a validator the search
looks at every command before it runs one, so a fault in a command behind a failing one is all that
can set the two apart. -/
namespace LineCommand

namespace Command

/-- A command whose grammar declares no negative number of groups, nor more than can be written, and
whose converter has an outcome for every value that can be written. -/
structure Settles (c : Command) : Prop where
  counted : c.grammar.Counted
  declared : withinDigitLimit c.grammar.expected = true
  total : c.converter.Total

theorem Settles.validate {c : Command} (settles : c.Settles) {line : Value}
    (writable : line.writable = true) : ∃ outcome, (c.validate line).answer = .ok outcome := by
  cases validated : (c.validate line).answer with
  | ok outcome => exact ⟨outcome, rfl⟩
  | error fault =>
    obtain parsed | ⟨texts, converted⟩ := fault_of_validate validated
    · obtain ⟨outcome, answered⟩ :=
        Grammar.parse_of_counted settles.counted settles.declared writable
      rw [answered] at parsed
      cases parsed
    · obtain ⟨outcome, answered⟩ := settles.total _ texts.writable_toValue
      rw [answered] at converted
      cases converted

theorem refusal?_eq_none_iff {line : Value} {c : Command} :
    c.refusal? line = none ↔ ∃ v?, (c.validate line).answer = .ok (.ok v?) := by
  unfold refusal?
  split <;> simp_all

theorem refusal?_eq_error_iff {line : Value} {c : Command} {fault : Fault} :
    c.refusal? line = some (.error fault) ↔ (c.validate line).answer = .error fault := by
  unfold refusal?
  split <;> simp_all

end Command

def Value.commandName? (v : Value) : Option String := (v.member? "command").bind Value.text?

namespace Processor

variable {p : Processor} {t : FormatTarget} {line target : Value}

/-! ### Results that are executions -/

/-- The validator puts nothing but executions in the place of executions. -/
def KeepsExecutions (p : Processor) : Prop :=
  ∀ validator, p.validator = some validator → ∀ (e : Execution) (v : Value),
    validator e.toValue = .ok (.success v) → v = .none ∨ ∃ e' : Execution, v = e'.toValue

theorem execution_of_assess (keeps : p.KeepsExecutions) {e : Execution} {r : Value}
    (accepted : p.assess e.toValue = .ok (.accepted r)) : ∃ e' : Execution, r = e'.toValue := by
  obtain rfl | ⟨validator, checked, replied, present⟩ := eq_or_replaced_of_assess accepted
  · exact ⟨e, rfl⟩
  · exact (keeps validator checked e r replied).resolve_left present

theorem execution_of_trial (keeps : p.KeepsExecutions) {c : Command} {r : Value}
    (accepted : p.trial t line c = .ok (.accepted r)) : ∃ e : Execution, r = e.toValue := by
  obtain ⟨_, e, _, _, assessed⟩ := stages_of_accepted accepted
  exact execution_of_assess keeps assessed

theorem accepted_executions (t : FormatTarget) (line : Value) (keeps : p.KeepsExecutions)
    (cs : List Command) :
    ∃ es : List Execution, p.accepted t line cs = es.map Execution.toValue := by
  induction cs with
  | nil => exact ⟨[], rfl⟩
  | cons c rest ih =>
    obtain ⟨es, rests⟩ := ih
    simp only [accepted] at rests
    simp only [accepted, List.filterMap_cons, rests]
    cases here : Trial.accepted? (p.trial t line c) with
    | none => exact ⟨es, rfl⟩
    | some r =>
      obtain ⟨e, rfl⟩ := execution_of_trial keeps (Trial.accepted?_eq_some_iff.mp here)
      exact ⟨e :: es, rfl⟩

/-- The names read off results are what the results say, from the first to the last. -/
theorem names_eq_ok_iff (n : Nat) {rs : List Value} {names : List String} :
    (commandNames rs).bind (nameTexts n) = .ok names ↔
      rs.map Value.commandName? = names.map some := by
  induction rs generalizing n names with
  | nil => cases names <;> simp [commandNames, Except.bind, nameTexts]
  | cons r rest ih =>
    simp only [commandNames, Value.commandName?, List.map_cons]
    cases r.member? "command" with
    | none => cases names <;> simp [Except.bind]
    | some v =>
      cases worded : v.text? with
      | none =>
        cases commandNames rest <;> cases names <;>
          simp [Except.bind, Except.map, nameTexts, worded]
      | some name =>
        have step : ((commandNames rest).map (v :: ·)).bind (nameTexts n) =
            ((commandNames rest).bind (nameTexts (n + 1))).map (name :: ·) := by
          cases commandNames rest <;> simp [Except.map, Except.bind, nameTexts, worded]
        rw [step]
        cases names with
        | nil => cases (commandNames rest).bind (nameTexts (n + 1)) <;> simp [Except.map]
        | cons s others =>
          rw [List.map_cons, List.cons_eq_cons, ← ih (n + 1)]
          cases (commandNames rest).bind (nameTexts (n + 1)) <;> simp [Except.map, worded]

/-- The results of commands name those commands. -/
theorem commandNames_executions (es : List Execution) :
    (commandNames (es.map Execution.toValue)).bind (nameTexts 0) = .ok (es.map (·.command)) := by
  rw [names_eq_ok_iff, List.map_map, List.map_map]
  rfl

/-! ### Validation before execution -/

theorem stop?_of_refusal {c : Command} {refusal : Except Fault Failure}
    (refused : c.refusal? line = some refusal) :
    Trial.stop? (p.trial t line c) = some refusal := by
  rw [trial_eq]
  unfold Command.refusal? at refused
  split at refused <;> simp_all [Trial.stop?]

def outcome (t : FormatTarget) (v : ValidatedCommand) : Except Fault (Outcome Execution) :=
  v.command.produce v.params t.toValue

/-- The trial that running a validated command amounts to, where no validator is asked. -/
def ran (t : FormatTarget) (v : ValidatedCommand) : Trial :=
  match outcome t v with
  | .error fault => .error fault
  | .ok (.error failure) => .ok (.failed failure)
  | .ok (.ok e) => .ok (.accepted e.toValue)

theorem trial_unchecked (free : p.validator = none) {c : Command}
    (valid : c.refusal? line = none) :
    p.trial t line c =
      match c.validated? line with
      | none => .ok .notMatched
      | some v => ran t v := by
  obtain ⟨v?, validated⟩ := Command.refusal?_eq_none_iff.mp valid
  rw [trial_eq, Command.validated?, validated]
  cases v? with
  | none => rfl
  | some v =>
    dsimp only [ran, outcome]
    rw [Command.validate_command validated]
    obtain fault | failure | e := c.produce v.params t.toValue
    · rfl
    · rfl
    · exact assess_unchecked free e.toValue

/-- Without a validator, and where every command validates a line or passes it by, what is read off
the trials is read off the validated commands. -/
theorem filterMap_trial {β : Type} (free : p.validator = none) {cs : List Command}
    (valid : cs.findSome? (Command.refusal? line) = none) (f : Trial → Option β)
    (skips : f (.ok .notMatched) = none) :
    cs.filterMap (fun c => f (p.trial t line c)) =
      (cs.filterMap (Command.validated? line)).filterMap fun v => f (ran t v) := by
  rw [List.findSome?_eq_none_iff] at valid
  rw [List.filterMap_filterMap]
  refine List.filterMap_congr fun c member => ?_
  rw [trial_unchecked free (valid c member)]
  cases c.validated? line with
  | none => exact skips
  | some v => rfl

theorem stop?_unchecked (free : p.validator = none) {cs : List Command}
    (valid : cs.findSome? (Command.refusal? line) = none) :
    p.stop? t line cs =
      (cs.filterMap (Command.validated? line)).findSome? fun v => Trial.stop? (ran t v) := by
  rw [stop?, ← List.head?_filterMap, filterMap_trial free valid Trial.stop? rfl,
    List.head?_filterMap]

theorem accepted_unchecked (free : p.validator = none) {cs : List Command}
    (valid : cs.findSome? (Command.refusal? line) = none) :
    p.accepted t line cs =
      (cs.filterMap (Command.validated? line)).filterMap fun v => Trial.accepted? (ran t v) :=
  filterMap_trial free valid Trial.accepted? rfl

theorem rejections_unchecked (free : p.validator = none) (cs : List Command) :
    p.rejections t line cs = [] := by
  simp only [rejections, List.filterMap_eq_nil_iff]
  intro c _
  rw [trial_eq]
  simp only [assess, free]
  split
  case h_4 => split <;> rfl
  all_goals rfl

/-! ### Agreement -/

/-- What the only result and all results of a line have to do with each other. -/
structure OneAgreesWithAll (p : Processor) (line target : Value) : Prop where
  /-- The only result is the only one in the list. -/
  success_iff : ∀ r, (p.processOne line target).answer = .ok (.ok r) ↔
    (p.processAll line target).answer = .ok (.ok [r])
  of_none : (p.processAll line target).answer = .ok (.ok []) →
    (p.processOne line target).answer = .ok (.error (absence line))
  /-- Of several results the failure lists the commands they come from. -/
  of_several : ∀ rs, (p.processAll line target).answer = .ok (.ok rs) → 2 ≤ rs.length →
    ∃ es : List Execution, rs = es.map Execution.toValue ∧
      (p.processOne line target).answer =
        .ok (.error (ambiguity line (es.map (·.command))))
  of_failure : ∀ failure, (p.processAll line target).answer = .ok (.error failure) →
    ∃ other, (p.processOne line target).answer = .ok (.error other)

namespace OneAgreesWithAll

theorem of_failures {f g : Failure} (all : (p.processAll line target).answer = .ok (.error f))
    (one : (p.processOne line target).answer = .ok (.error g)) :
    p.OneAgreesWithAll line target := by
  refine ⟨?_, ?_, ?_, ?_⟩ <;> simp [all, one]

theorem of_faults {f g : Fault} (all : (p.processAll line target).answer = .error f)
    (one : (p.processOne line target).answer = .error g) : p.OneAgreesWithAll line target := by
  refine ⟨?_, ?_, ?_, ?_⟩ <;> simp [all, one]

/-- Where the list of all results ends in a fault, any failure agrees with it. -/
theorem of_fault_failure {f : Fault} {g : Failure}
    (all : (p.processAll line target).answer = .error f)
    (one : (p.processOne line target).answer = .ok (.error g)) : p.OneAgreesWithAll line target := by
  refine ⟨?_, ?_, ?_, ?_⟩ <;> simp [all, one]

theorem of_nothing (all : (p.processAll line target).answer = .ok (.ok []))
    (one : (p.processOne line target).answer = .ok (.error (absence line))) :
    p.OneAgreesWithAll line target := by
  refine ⟨?_, ?_, ?_, ?_⟩ <;> simp [all, one]

theorem of_single {r : Value} (all : (p.processAll line target).answer = .ok (.ok [r]))
    (one : (p.processOne line target).answer = .ok (.ok r)) : p.OneAgreesWithAll line target := by
  refine ⟨?_, ?_, ?_, ?_⟩ <;> simp [all, one]

theorem of_executions (es : List Execution) (several : 2 ≤ es.length)
    (all : (p.processAll line target).answer = .ok (.ok (es.map Execution.toValue)))
    (one : (p.processOne line target).answer =
      .ok (.error (ambiguity line (es.map (·.command))))) : p.OneAgreesWithAll line target where
  success_iff r := by
    have longer : es.map Execution.toValue ≠ [r] := by
      intro single
      have size := congrArg List.length single
      rw [List.length_map, List.length_singleton] at size
      omega
    simp [all, one, longer]
  of_none none := by
    rw [all] at none
    have size := congrArg List.length (Except.ok.inj (Except.ok.inj none))
    rw [List.length_map, List.length_nil] at size
    omega
  of_several rs listed _ := by
    rw [all] at listed
    exact ⟨es, (Except.ok.inj (Except.ok.inj listed)).symm, one⟩
  of_failure failure failed := by
    rw [all] at failed
    cases failed

end OneAgreesWithAll

/-- Without a validator, a command that faults while it matches or converts a line stands behind
commands that all validate the line or pass it by, and what stops a sweep over those is a failure. -/
def FaultsBehindFailure (p : Processor) (line target : Value) : Prop :=
  p.validator = none ∧ ∃ t, p.resolveTarget target = .ok (.ok t) ∧
    ∃ before c after failure fault, p.commands.values = before ++ c :: after ∧
      (∀ b ∈ before, ∃ v?, (b.validate line).answer = .ok (.ok v?)) ∧
      p.stop? t line before = some (.ok failure) ∧
      (c.validate line).answer = .error fault

/-- There is a destination but no command, and the line cannot be told in the failure which that
is. -/
def Unsaid (p : Processor) (line target : Value) : Prop :=
  (∃ t, p.resolveTarget target = .ok (.ok t)) ∧ p.commands.values = [] ∧ line.sayable = false

/-- A destination is known, or all that is said of the matter is that it is not. -/
theorem resolveTarget_cases (p : Processor) (target : Value) :
    (∃ t, p.resolveTarget target = .ok (.ok t)) ∨
      ∃ stop : Except Fault Failure, p.resolveTarget target = stop.map .error := by
  match p.resolveTarget target with
  | .ok (.ok t) => exact .inl ⟨t, rfl⟩
  | .ok (.error failure) => exact .inr ⟨.ok failure, rfl⟩
  | .error fault => exact .inr ⟨.error fault, rfl⟩

theorem resolveTarget_ne {stop : Except Fault Failure}
    (unresolved : p.resolveTarget target = stop.map .error) (t : FormatTarget) :
    p.resolveTarget target ≠ .ok (.ok t) := by
  rw [unresolved]
  cases stop <;> nofun

theorem answer_processAll_unresolved (line : Value) (stop : Except Fault Failure)
    (unresolved : p.resolveTarget target = stop.map .error) :
    (p.processAll line target).answer = stop.map .error := by
  simp only [processAll, unresolved, Act.answer_bind, Act.answer_ofExcept]
  cases stop <;> rfl

theorem answer_processOne_unresolved (line : Value) (stop : Except Fault Failure)
    (unresolved : p.resolveTarget target = stop.map .error) :
    (p.processOne line target).answer = stop.map .error := by
  simp only [processOne, unresolved, Act.answer_bind, Act.answer_ofExcept]
  cases stop <;> rfl

theorem Unsaid.not_agrees (unsaid : p.Unsaid line target) : ¬ p.OneAgreesWithAll line target := by
  obtain ⟨⟨t, resolved⟩, empty, mute⟩ := unsaid
  intro agrees
  have all : (p.processAll line target).answer = .ok (.ok []) := by
    rw [answer_processAll line resolved, empty]
    rfl
  have one : (p.processOne line target).answer = (noMatch line).map .error := by
    cases checked : p.validator with
    | none =>
      rw [answer_processOne_unchecked line checked resolved, empty]
      rfl
    | some validator =>
      rw [answer_processOne_checked line checked resolved, empty]
      rfl
  rw [agrees.of_none all, noMatch_of_not_sayable mute] at one
  cases one

/-- A line that nothing stops a sweep over can be told to match nothing. -/
theorem sayable_of_unstopped (resolved : p.resolveTarget target = .ok (.ok t))
    (heard : ¬ p.Unsaid line target) (unstopped : p.stop? t line p.commands.values = none) :
    line.sayable = true := by
  cases commands : p.commands.values with
  | nil =>
    rw [← Bool.not_eq_false]
    exact fun mute => heard ⟨⟨t, resolved⟩, commands, mute⟩
  | cons c rest =>
    rw [commands] at unstopped
    exact sayable_of_text? (exists_text?_of_unstopped List.mem_cons_self unstopped)

/-- Where nothing was accepted and nothing turned down, all commands have passed the line by. -/
theorem agrees_of_nothing (resolved : p.resolveTarget target = .ok (.ok t))
    (heard : ¬ p.Unsaid line target) (unstopped : p.stop? t line p.commands.values = none)
    (all : (p.processAll line target).answer = .ok (.ok []))
    (one : (p.processOne line target).answer = (noMatch line).map .error) :
    p.OneAgreesWithAll line target := by
  rw [noMatch_of_sayable (sayable_of_unstopped resolved heard unstopped)] at one
  exact .of_nothing all one

/-- With a validator both go through the same sweep. -/
theorem agrees_checked (keeps : p.KeepsExecutions) {validator : Callback}
    (checked : p.validator = some validator) (resolved : p.resolveTarget target = .ok (.ok t))
    (heard : ¬ p.Unsaid line target) : p.OneAgreesWithAll line target := by
  have all := answer_processAll line resolved
  have one := answer_processOne_checked line checked resolved
  obtain ⟨es, executions⟩ := accepted_executions t line keeps p.commands.values
  cases stopped : p.stop? t line p.commands.values with
  | some stop =>
    rw [stopped] at all one
    cases stop with
    | error fault => exact .of_faults all one
    | ok failure => exact .of_failures all one
  | none =>
    rw [stopped, executions] at all one
    match es with
    | [] =>
      cases rejected : (p.rejections t line p.commands.values).getLast? with
      | none =>
        rw [rejected] at all one
        exact agrees_of_nothing resolved heard stopped all one
      | some reason =>
        rw [rejected] at all one
        exact .of_failures all one
    | [e] => exact .of_single all one
    | e :: e' :: others =>
      have names := commandNames_executions (e :: e' :: others)
      simp only [List.map_cons] at all one names
      rw [names] at one
      exact .of_executions (e :: e' :: others) (by simp) all one

/-- A sweep goes no further than to the first command that does not validate. -/
theorem stop?_of_refused {before after : List Command} {c : Command}
    {refusal : Except Fault Failure} (here : c.refusal? line = some refusal) :
    p.stop? t line (before ++ c :: after) = (p.stop? t line before).or (some refusal) := by
  have last := stop?_of_refusal (p := p) (t := t) here
  simp only [stop?, List.findSome?_append, List.findSome?_cons, last]

/-- A fault behind a failure shows in what ends the two loops first. -/
theorem faultsBehindFailure_iff (free : p.validator = none)
    (resolved : p.resolveTarget target = .ok (.ok t)) :
    p.FaultsBehindFailure line target ↔
      ∃ fault failure, p.commands.values.findSome? (Command.refusal? line) = some (.error fault) ∧
        p.stop? t line p.commands.values = some (.ok failure) := by
  constructor
  · rintro ⟨_, t', resolved', before, c, after, failure, fault, table, valid, stopped, faulted⟩
    obtain rfl : t' = t := Except.ok.inj (Except.ok.inj (resolved'.symm.trans resolved))
    have here := Command.refusal?_eq_error_iff.mpr faulted
    refine ⟨fault, failure, List.findSome?_eq_some_iff.mpr ⟨before, c, after, table, here,
      fun b member => Command.refusal?_eq_none_iff.mpr (valid b member)⟩, ?_⟩
    rw [table, stop?_of_refused here, stopped]
    rfl
  · rintro ⟨fault, failure, refused, stopped⟩
    obtain ⟨before, c, after, table, here, valid⟩ := List.findSome?_eq_some_iff.mp refused
    refine ⟨free, t, resolved, before, c, after, failure, fault, table,
      fun b member => Command.refusal?_eq_none_iff.mp (valid b member), ?_,
      Command.refusal?_eq_error_iff.mp here⟩
    rw [table, stop?_of_refused here] at stopped
    cases front : p.stop? t line before with
    | none =>
      rw [front] at stopped
      cases stopped
    | some stop =>
      rw [front] at stopped
      exact stopped

/-- The executions of validated commands that all run well. -/
theorem executions_of_ran {vs : List ValidatedCommand}
    (runs : vs.findSome? (fun v => Trial.stop? (ran t v)) = none) :
    ∃ es : List Execution, es.map (·.command) = vs.map (·.command.name) ∧
      vs.filterMap (fun v => Trial.accepted? (ran t v)) = es.map Execution.toValue := by
  induction vs with
  | nil => exact ⟨[], rfl, rfl⟩
  | cons v rest ih =>
    rw [List.findSome?_cons] at runs
    match produced : outcome t v with
    | .error fault => simp [ran, produced, Trial.stop?] at runs
    | .ok (.error failure) => simp [ran, produced, Trial.stop?] at runs
    | .ok (.ok e) =>
      have here : ran t v = .ok (.accepted e.toValue) := by simp only [ran, produced]
      rw [here] at runs
      obtain ⟨es, names, results⟩ := ih runs
      refine ⟨e :: es, ?_, ?_⟩
      · rw [List.map_cons, List.map_cons, names, Command.produce_command produced]
      · rw [List.filterMap_cons, here, results]
        rfl

/-- Without a validator, and where every command validates the line or passes it by, the two
agree. -/
theorem agrees_of_valid (free : p.validator = none)
    (resolved : p.resolveTarget target = .ok (.ok t)) (heard : ¬ p.Unsaid line target)
    (valid : p.commands.values.findSome? (Command.refusal? line) = none) :
    p.OneAgreesWithAll line target := by
  have all := answer_processAll line resolved
  have one := answer_processOne_unchecked line free resolved
  have unstopped := stop?_unchecked (p := p) (t := t) free valid
  rw [rejections_unchecked free, accepted_unchecked free valid, unstopped] at all
  rw [valid] at one
  generalize p.commands.values.filterMap (Command.validated? line) = vs at all one unstopped
  match vs with
  | [] => exact agrees_of_nothing resolved heard unstopped all one
  | [v] =>
    simp only [List.findSome?_cons, List.findSome?_nil, List.filterMap_cons, List.filterMap_nil,
      ran] at all
    replace one : (p.processOne line target).answer =
        (outcome t v).map (Except.map Execution.toValue) := one
    match produced : outcome t v with
    | .error fault =>
      rw [produced] at all one
      exact .of_faults all one
    | .ok (.error failure) =>
      rw [produced] at all one
      exact .of_failures all one
    | .ok (.ok e) =>
      rw [produced] at all one
      exact .of_single all one
  | v :: w :: others =>
    cases stopped : (v :: w :: others).findSome? (fun v => Trial.stop? (ran t v)) with
    | some stop =>
      rw [stopped] at all
      cases stop with
      | ok failure => exact .of_failures all one
      | error fault => exact .of_fault_failure all one
    -- All of them run well in the one loop; the other names them without running any.
    | none =>
      obtain ⟨es, names, results⟩ := executions_of_ran stopped
      rw [stopped, results] at all
      replace one : (p.processOne line target).answer =
          .ok (.error (ambiguity line ((v :: w :: others).map (·.command.name)))) := one
      rw [← names] at one
      have several : 2 ≤ es.length := by
        have size := congrArg List.length names
        simp only [List.length_map, List.length_cons] at size
        omega
      match es with
      | e :: e' :: rest => exact .of_executions (e :: e' :: rest) several all one

/-- Without a validator the two agree unless a fault lies behind a failure. -/
theorem agrees_unchecked_iff (free : p.validator = none)
    (resolved : p.resolveTarget target = .ok (.ok t)) (heard : ¬ p.Unsaid line target) :
    p.OneAgreesWithAll line target ↔ ¬ p.FaultsBehindFailure line target := by
  rw [faultsBehindFailure_iff free resolved]
  have all := answer_processAll line resolved
  have one := answer_processOne_unchecked line free resolved
  cases refused : p.commands.values.findSome? (Command.refusal? line) with
  | none => simp [agrees_of_valid free resolved heard refused]
  | some refusal =>
    rw [refused] at one
    obtain ⟨before, c, after, table, here, _⟩ := List.findSome?_eq_some_iff.mp refused
    obtain ⟨stop, stopped⟩ : ∃ stop, p.stop? t line p.commands.values = some stop := by
      rw [table, stop?_of_refused here]
      cases p.stop? t line before <;> exact ⟨_, rfl⟩
    rw [stopped] at all
    cases refusal with
    | ok other =>
      cases stop with
      | ok failure => simp [OneAgreesWithAll.of_failures all one]
      | error fault => simp [OneAgreesWithAll.of_fault_failure all one]
    | error fault =>
      cases stop with
      | error first => simp [OneAgreesWithAll.of_faults all one, stopped]
      | ok failure =>
        have differs : ¬ p.OneAgreesWithAll line target := by
          intro agrees
          obtain ⟨other, failed⟩ := agrees.of_failure failure all
          rw [one] at failed
          cases failed
        simp [differs, stopped]

theorem agrees_unresolved {stop : Except Fault Failure}
    (unresolved : p.resolveTarget target = stop.map .error) : p.OneAgreesWithAll line target := by
  have all := answer_processAll_unresolved line stop unresolved
  have one := answer_processOne_unresolved line stop unresolved
  cases stop with
  | error fault => exact .of_faults all one
  | ok failure => exact .of_failures all one

/-- The search for the only result agrees with the list of all results exactly if no fault lies
behind a failure and there is no call for a failure that cannot be told. Commands whose grammars
declare no negative number of groups, nor too many to be written, cause no such fault. -/
theorem oneAgreesWithAll_iff (p : Processor) (line target : Value) (keeps : p.KeepsExecutions) :
    (p.OneAgreesWithAll line target ↔
        ¬ p.FaultsBehindFailure line target ∧ ¬ p.Unsaid line target) ∧
      ((∀ c ∈ p.commands.values, c.Settles) →
        (p.commands.values = [] → line.sayable = true) → p.OneAgreesWithAll line target) := by
  have decided : p.OneAgreesWithAll line target ↔
      ¬ p.FaultsBehindFailure line target ∧ ¬ p.Unsaid line target := by
    obtain ⟨t, resolved⟩ | ⟨stop, unresolved⟩ := p.resolveTarget_cases target
    · by_cases heard : p.Unsaid line target
      · simp [heard, heard.not_agrees]
      · rw [and_iff_left heard]
        cases checked : p.validator with
        | none => exact agrees_unchecked_iff checked resolved heard
        | some validator =>
          have clear : ¬ p.FaultsBehindFailure line target := by
            rintro ⟨free, _⟩
            rw [checked] at free
            cases free
          simp [agrees_checked keeps checked resolved heard, clear]
    · refine iff_of_true (agrees_unresolved unresolved) ⟨?_, ?_⟩
      · rintro ⟨_, t, resolved, _⟩
        exact resolveTarget_ne unresolved t resolved
      · rintro ⟨⟨t, resolved⟩, _⟩
        exact resolveTarget_ne unresolved t resolved
  refine ⟨decided, fun settles said => decided.mpr ⟨?_, ?_⟩⟩
  · rintro ⟨_, t, _, before, c, after, failure, fault, table, valid, stopped, faulted⟩
    have member : c ∈ p.commands.values := by simp [table]
    -- What failed in front has validated the line before.
    obtain ⟨b, listed, _⟩ := List.exists_of_findSome?_eq_some stopped
    obtain ⟨_, validated⟩ := valid b listed
    obtain ⟨s, text⟩ := Command.exists_text?_of_validate validated
    obtain ⟨outcome, answered⟩ := (settles c member).validate (Value.writable_of_text? text)
    rw [answered] at faulted
    cases faulted
  · rintro ⟨_, empty, mute⟩
    rw [said empty] at mute
    cases mute

/-- The validator that lets executions named "one" pass and turns all others down. -/
def onlyOne : Callback := fun v =>
  .ok (if v.member? "command" |>.any (·.same (.text "one")) then .success .none
    else .failure "not here" .none)

/-- Two commands for the same lines, under a validator. -/
def guarded : Processor :=
  let answering (name : String) := Command.bare name (fun v => .ok (.success v))
    (.letterPair ⟨"a", 0⟩ ⟨"b", 0⟩)
  { commands := ⟨[⟨"one", "one", answering "one"⟩, ⟨"two", "two", answering "two"⟩]⟩
    validator := some onlyOne
    target := .text }

theorem settles_guarded : ∀ c ∈ guarded.commands.values, c.Settles := by
  intro c member
  simp only [guarded, NameTable.values, List.map_cons, List.map_nil, List.mem_cons,
    List.not_mem_nil, or_false] at member
  obtain rfl | rfl := member
  all_goals exact ⟨by simp [Grammar.Counted, Command.bare, Grammar.letterPair],
    withinDigitLimit_of_lt (by decide) (by decide : (2 : Nat) < Nat.pow 10 1), fun v _ => ⟨_, rfl⟩⟩

theorem oneAgreesWithAll_guarded :
    guarded.KeepsExecutions ∧ guarded.OneAgreesWithAll (.text "x y") .none := by
  have keeps : guarded.KeepsExecutions := by
    intro validator checked e v replied
    obtain rfl : onlyOne = validator := Option.some.inj checked
    unfold onlyOne at replied
    split at replied <;> cases replied
    exact .inl rfl
  exact ⟨keeps, (guarded.oneAgreesWithAll_iff (.text "x y") .none keeps).2 settles_guarded nofun⟩

/-- Two commands for the same lines. The one in front fails when it runs, the one behind counts its
groups wrongly, though their sum is right. -/
def interrupted : Processor :=
  let failing := Command.bare "one" (fun _ => .ok (.failure "no" .none))
    (.letterPair ⟨"a", 0⟩ ⟨"b", 0⟩)
  let miscounted := Command.bare "two" (fun v => .ok (.success v)) (.letterPair ⟨"c", -1⟩ ⟨"d", 1⟩)
  { commands := ⟨[⟨"one", "one", failing⟩, ⟨"two", "two", miscounted⟩]⟩
    validator := none
    target := .text }

/-- A field that declares a negative number of groups brings a fault into the search for the only
result, where the list of all results is a failure. -/
theorem not_oneAgreesWithAll_interrupted :
    let fields : List Field :=
      [⟨"a", "\\w", false, 0⟩, ⟨"b", "\\w", false, 0⟩, ⟨"c", "\\w", false, -1⟩,
        ⟨"d", "\\w", false, 1⟩]
    GrammarBuilder.grammar? fields (Grammar.reference "a" ++ " " ++ Grammar.reference "b") =
        some (.letterPair ⟨"a", 0⟩ ⟨"b", 0⟩) ∧
      GrammarBuilder.grammar? fields (Grammar.reference "c" ++ " " ++ Grammar.reference "d") =
        some (.letterPair ⟨"c", -1⟩ ⟨"d", 1⟩) ∧
      (create interrupted.commands.values none (.text "text")).answer = .ok interrupted ∧
      ¬ interrupted.OneAgreesWithAll (.text "x y") .none := by
  refine ⟨by decide +kernel, by decide +kernel, by rfl, ?_⟩
  have heard : ¬ interrupted.Unsaid (.text "x y") .none := by
    rintro ⟨_, empty, _⟩
    cases empty
  rw [agrees_unchecked_iff (t := .text) rfl rfl heard]
  refine not_not_intro ⟨rfl, .text, rfl, [_], _, [], ⟨"no", .kind .execution⟩,
    .of .badIndex "tuple index out of range", rfl, ?_, ?_, by rfl⟩
  · intro b member
    obtain rfl := List.mem_singleton.mp member
    exact ⟨some ⟨_, _⟩, by rfl⟩
  · simp only [stop?, List.findSome?_cons, trial_eq, Command.answer_validate]
    rfl

end Processor
end LineCommand
