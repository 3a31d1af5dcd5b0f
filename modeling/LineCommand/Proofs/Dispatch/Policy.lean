import LineCommand.Proofs.Dispatch.Evaluation

/-! The loops of the policies in closed form. Every loop goes through the trials of its commands in
order; what it answers depends on the first trial that ends it and on what was accepted and turned
down before. -/
namespace LineCommand

abbrev Trial := Except Fault Evaluation

namespace Trial

/-- The fault or the failure that ends every dispatch. -/
def stop? : Trial → Option (Except Fault Failure)
  | .error fault => some (.error fault)
  | .ok (.failed failure) => some (.ok failure)
  | _ => none

def accepted? : Trial → Option Value
  | .ok (.accepted result) => some result
  | _ => none

def rejected? : Trial → Option Failure
  | .ok (.rejected reason) => some reason
  | _ => none

/-- What ends a search for the first result: a fault, a failure, or that result. -/
def final? : Trial → Option (Except Fault (Outcome Value))
  | .error fault => some (.error fault)
  | .ok (.failed failure) => some (.ok (.error failure))
  | .ok (.accepted result) => some (.ok (.ok result))
  | _ => none

theorem final?_eq_none_iff {x : Trial} : final? x = none ↔ stop? x = none ∧ accepted? x = none := by
  unfold final? stop? accepted?
  split <;> simp_all

theorem accepted?_eq_some_iff {x : Trial} {r : Value} :
    accepted? x = some r ↔ x = .ok (.accepted r) := by
  unfold accepted?
  split <;> simp_all

theorem rejected?_eq_some_iff {x : Trial} {f : Failure} :
    rejected? x = some f ↔ x = .ok (.rejected f) := by
  unfold rejected?
  split <;> simp_all

theorem stop?_eq_ok_iff {x : Trial} {f : Failure} :
    stop? x = some (.ok f) ↔ x = .ok (.failed f) := by
  unfold stop?
  split <;> simp_all

theorem stop?_eq_error_iff {x : Trial} {fault : Fault} :
    stop? x = some (.error fault) ↔ x = .error fault := by
  unfold stop?
  split <;> simp_all

theorem final?_of_stop? {x : Trial} {stop : Except Fault Failure} (stopped : stop? x = some stop) :
    final? x = some (stop.map .error) := by
  unfold stop? at stopped
  split at stopped <;> cases stopped <;> rfl

theorem final?_of_unstopped {x : Trial} (unstopped : stop? x = none) :
    final? x = (accepted? x).map fun r => .ok (.ok r) := by
  unfold stop? at unstopped
  split at unstopped
  · cases unstopped
  · cases unstopped
  · unfold final? accepted?
    split <;> simp_all

end Trial

namespace Processor

/-! ### What is told of a line -/

def absence (line : Value) : Failure := .of .noMatch s!"No command matched \"{line.plain}\""

def ambiguity (line : Value) (names : List String) : Failure :=
  let candidates := Text.joined ", " names
  .of .ambiguous s!"Ambiguous command \"{line.plain}\" could be any of: [{candidates}]"

theorem noMatch_of_sayable {line : Value} (sayable : line.sayable = true) :
    noMatch line = .ok (absence line) := by
  rw [noMatch, Value.said_of_sayable sayable]
  rfl

theorem noMatch_of_not_sayable {line : Value} (mute : line.sayable = false) :
    noMatch line = .error .tooLong := by
  rw [noMatch, Value.said_of_not_sayable mute]
  rfl

theorem sayable_of_text? {line : Value} (text : ∃ s, line.text? = some s) :
    line.sayable = true := by
  obtain ⟨s, text⟩ := text
  exact Value.sayable_of_writable (Value.writable_of_text? text)

@[simp] theorem answer_unmatched {α : Type} (line : Value) :
    (unmatched line : Act (Outcome α)).answer = (noMatch line).map .error := rfl

@[simp] theorem runs_unmatched {α : Type} (line : Value) :
    (unmatched line : Act (Outcome α)).runs = [] := rfl

@[simp] theorem answer_ambiguous {α : Type} (line : Value) (names : List String) :
    (ambiguous line names : Act (Outcome α)).answer =
      line.said.map fun _ => .error (ambiguity line names) := by
  simp only [ambiguous, Act.answer_bind, Act.answer_note, Except.bind, Act.answer_ofExcept]
  cases sayable : line.sayable with
  | true =>
    rw [Value.said_of_sayable sayable]
    rfl
  | false =>
    rw [Value.said_of_not_sayable sayable]
    rfl

@[simp] theorem runs_ambiguous {α : Type} (line : Value) (names : List String) :
    (ambiguous line names : Act (Outcome α)).runs = [] := by
  simp only [ambiguous, Act.runs_bind, Act.runs_note, Act.answer_note, Act.runs_ofExcept,
    Act.answer_ofExcept]
  cases line.said <;> rfl

variable (p : Processor) (t : FormatTarget) (line : Value)

/-! ### Sweeps -/

/-- What stops a sweep. -/
def stop? (cs : List Command) : Option (Except Fault Failure) :=
  cs.findSome? fun c => Trial.stop? (p.trial t line c)

def accepted (cs : List Command) : List Value :=
  cs.filterMap fun c => Trial.accepted? (p.trial t line c)

/-- The reasons for turning results down, in order. -/
def rejections (cs : List Command) : List Failure :=
  cs.filterMap fun c => Trial.rejected? (p.trial t line c)

theorem answer_sweep (cs : List Command) :
    (p.sweep t line cs).answer =
      match p.stop? t line cs with
      | some (.error fault) => .error fault
      | some (.ok failure) => .ok (.error failure)
      | none => .ok (.ok ⟨p.accepted t line cs, (p.rejections t line cs).getLast?⟩) := by
  induction cs with
  | nil => rfl
  | cons c rest ih =>
    simp only [stop?, accepted, rejections] at ih
    simp only [sweep, Act.answer_bind, stop?, accepted, rejections, List.findSome?_cons,
      List.filterMap_cons]
    -- What the rest comes to stays closed while the first trial is opened.
    generalize rest.findSome? (fun c => Trial.stop? (p.trial t line c)) = stopped at ih ⊢
    generalize rest.filterMap (fun c => Trial.accepted? (p.trial t line c)) = results at ih ⊢
    generalize rest.filterMap (fun c => Trial.rejected? (p.trial t line c)) = reasons at ih ⊢
    change (p.trial t line c).bind _ = _
    cases p.trial t line c with
    | error fault => rfl
    | ok evaluation =>
      cases evaluation with
      | failed failure => rfl
      | notMatched => exact ih
      | accepted result | rejected reason =>
        simp only [Except.bind, Act.answer_bind, ih, Act.answer_pure]
        cases stopped with
        | none => simp [Trial.stop?, Trial.accepted?, Trial.rejected?, Except.map,
            List.getLast?_cons, Option.or_some]
        | some stop => cases stop <;> rfl

/-- A sweep runs executors in the order of registration, each at most once. -/
theorem runs_sweep_sublist (cs : List Command) :
    (p.sweep t line cs).runs.Sublist (cs.map (·.name)) := by
  induction cs with
  | nil => exact .refl _
  | cons c rest ih =>
    simp only [sweep, Act.runs_bind, List.map_cons]
    rw [← List.singleton_append]
    refine (p.runs_evaluateFor_sublist t line c).append ?_
    cases (p.evaluateFor t line c).answer with
    | error fault => exact List.nil_sublist _
    | ok evaluation =>
      cases evaluation with
      | failed failure => exact List.nil_sublist _
      | notMatched => exact ih
      | accepted result | rejected result =>
        simp only [Act.runs_bind]
        cases (p.sweep t line rest).answer <;> simpa using ih

/-- A line that some command looks at without ending the sweep is a text. -/
theorem exists_text?_of_unstopped {p : Processor} {t : FormatTarget} {line : Value}
    {cs : List Command} {c : Command} (member : c ∈ cs)
    (unstopped : p.stop? t line cs = none) : ∃ s, line.text? = some s := by
  have here := List.findSome?_eq_none_iff.mp unstopped c member
  cases tried : p.trial t line c with
  | error fault =>
    rw [tried] at here
    cases here
  | ok evaluation =>
    refine exists_text?_of_trial p t line tried ?_
    rintro f rfl
    rw [tried] at here
    cases here

theorem exists_text?_of_rejections {p : Processor} {t : FormatTarget} {line : Value}
    {cs : List Command} {reason : Failure} (member : reason ∈ p.rejections t line cs) :
    ∃ s, line.text? = some s := by
  obtain ⟨c, _, here⟩ := List.mem_filterMap.mp member
  exact exists_text?_of_trial p t line (Trial.rejected?_eq_some_iff.mp here) nofun

theorem exists_text?_of_accepted {p : Processor} {t : FormatTarget} {line : Value}
    {cs : List Command} {result : Value} (member : result ∈ p.accepted t line cs) :
    ∃ s, line.text? = some s := by
  obtain ⟨c, _, here⟩ := List.mem_filterMap.mp member
  exact exists_text?_of_trial p t line (Trial.accepted?_eq_some_iff.mp here) nofun

/-! ### The first result -/

/-- What a search answers that finds no result: the last reason for turning one down, or that
nothing matches. -/
def nothingFound (line : Value) : Option Failure → Except Fault (Outcome Value)
  | some reason => .ok (.error reason)
  | none => (noMatch line).map .error

theorem answer_firstAccepted (rejection : Option Failure) (cs : List Command) :
    (p.firstAccepted t line rejection cs).answer =
      (cs.findSome? fun c => Trial.final? (p.trial t line c)).getD
        (nothingFound line ((p.rejections t line cs).getLast?.or rejection)) := by
  induction cs generalizing rejection with
  | nil => cases rejection <;> rfl
  | cons c rest ih =>
    simp only [firstAccepted, Act.answer_bind, rejections, List.findSome?_cons,
      List.filterMap_cons]
    simp only [rejections] at ih
    change (p.trial t line c).bind _ = _
    cases p.trial t line c with
    | error fault => rfl
    | ok evaluation =>
      cases evaluation with
      | failed failure => rfl
      | accepted result => rfl
      | notMatched => exact ih rejection
      | rejected reason =>
        simp only [Except.bind, ih]
        generalize rest.filterMap (fun c => Trial.rejected? (p.trial t line c)) = reasons
        simp only [Trial.final?, Trial.rejected?, List.getLast?_cons]
        cases reasons.getLast? <;> rfl

/-- The search for the first result runs what a sweep runs, up to where it ends. -/
theorem runs_firstAccepted_prefix (rejection : Option Failure) (cs : List Command) :
    (p.firstAccepted t line rejection cs).runs <+: (p.sweep t line cs).runs := by
  induction cs generalizing rejection with
  | nil => cases rejection <;> exact List.prefix_refl _
  | cons c rest ih =>
    simp only [firstAccepted, sweep, Act.runs_bind]
    refine (List.prefix_append_right_inj _).mpr ?_
    cases (p.evaluateFor t line c).answer with
    | error fault => exact List.prefix_refl _
    | ok evaluation =>
      cases evaluation with
      | failed failure => exact List.prefix_refl _
      | accepted result => exact List.nil_prefix
      | notMatched => exact ih rejection
      | rejected reason =>
        simp only [Act.runs_bind]
        exact (ih (some reason)).trans (List.prefix_append _ _)

end Processor

/-! ### Strict validation -/

namespace Command

/-- What keeps a command from validating a line: a fault, or a failure to match or convert it. -/
def refusal? (line : Value) (c : Command) : Option (Except Fault Failure) :=
  match (c.validate line).answer with
  | .error fault => some (.error fault)
  | .ok (.error failure) => some (.ok failure)
  | .ok (.ok _) => none

def validated? (line : Value) (c : Command) : Option ValidatedCommand :=
  match (c.validate line).answer with
  | .ok (.ok v?) => v?
  | _ => none

theorem validated?_eq_some_iff {line : Value} {c : Command} {v : ValidatedCommand} :
    c.validated? line = some v ↔ (c.validate line).answer = .ok (.ok (some v)) := by
  unfold validated?
  split <;> simp_all

theorem exists_text?_of_validated? {line : Value} {c : Command} {v : ValidatedCommand}
    (validated : c.validated? line = some v) : ∃ s, line.text? = some s :=
  exists_text?_of_validate (validated?_eq_some_iff.mp validated)

end Command

namespace Processor

variable (line : Value)

theorem answer_validateStrictly (cs : List Command) :
    (validateStrictly line cs).answer =
      match cs.findSome? (Command.refusal? line) with
      | some (.error fault) => .error fault
      | some (.ok failure) => .ok (.error failure)
      | none => .ok (.ok (cs.filterMap (Command.validated? line))) := by
  induction cs with
  | nil => rfl
  | cons c rest ih =>
    simp only [validateStrictly, Act.answer_bind, List.findSome?_cons, List.filterMap_cons,
      Command.refusal?, Command.validated?]
    cases (c.validate line).answer with
    | error fault => rfl
    | ok outcome =>
      cases outcome with
      | error failure => rfl
      | ok found? =>
        simp only [Except.bind, Act.answer_bind, ih, Act.answer_pure]
        generalize rest.findSome? (Command.refusal? line) = refused
        cases refused with
        | none => cases found? <;> rfl
        | some refusal => cases refusal <;> rfl

/-! ### Policies -/

variable {p : Processor} {line} {target : Value} {t : FormatTarget}

theorem answer_processAll (line : Value) (resolved : p.resolveTarget target = .ok (.ok t)) :
    (p.processAll line target).answer =
      match p.stop? t line p.commands.values with
      | some (.error fault) => .error fault
      | some (.ok failure) => .ok (.error failure)
      | none =>
        match p.accepted t line p.commands.values,
          (p.rejections t line p.commands.values).getLast? with
        | [], some rejection => .ok (.error rejection)
        | results, _ => .ok (.ok results) := by
  simp only [processAll, resolved, Act.answer_bind, Act.answer_ofExcept, Except.bind, answer_sweep]
  cases p.stop? t line p.commands.values with
  | some stop => cases stop <;> rfl
  | none =>
    cases p.accepted t line p.commands.values <;>
      cases (p.rejections t line p.commands.values).getLast? <;> rfl

theorem answer_processFirst (line : Value) (resolved : p.resolveTarget target = .ok (.ok t)) :
    (p.processFirst line target).answer =
      (p.commands.values.findSome? fun c => Trial.final? (p.trial t line c)).getD
        (nothingFound line (p.rejections t line p.commands.values).getLast?) := by
  simp only [processFirst, resolved, Act.answer_bind, Act.answer_ofExcept, Except.bind,
    answer_firstAccepted, Option.or_none]

theorem answer_processOne_unchecked (line : Value) (free : p.validator = none)
    (resolved : p.resolveTarget target = .ok (.ok t)) :
    (p.processOne line target).answer =
      match p.commands.values.findSome? (Command.refusal? line) with
      | some (.error fault) => .error fault
      | some (.ok failure) => .ok (.error failure)
      | none =>
        match p.commands.values.filterMap (Command.validated? line) with
        | [] => (noMatch line).map .error
        | [v] => (v.command.produce v.params t.toValue).map (Except.map Execution.toValue)
        | several => .ok (.error (ambiguity line (several.map (·.command.name)))) := by
  simp only [processOne, resolved, free, Act.answer_bind, Act.answer_ofExcept, Except.bind,
    answer_validateStrictly]
  cases p.commands.values.findSome? (Command.refusal? line) with
  | some refusal => cases refusal <;> rfl
  | none =>
    match found : p.commands.values.filterMap (Command.validated? line) with
    | [] => rfl
    | [v] =>
      simp only [Act.answer_bind, ValidatedCommand.execute, Command.answer_run, Act.answer_pure]
      cases v.command.produce v.params t.toValue <;> rfl
    | v :: w :: others =>
      have listed : v ∈ p.commands.values.filterMap (Command.validated? line) := by simp [found]
      obtain ⟨c, _, validated⟩ := List.mem_filterMap.mp listed
      have sayable := sayable_of_text? (Command.exists_text?_of_validated? validated)
      simp only [answer_ambiguous, Value.said_of_sayable sayable, Except.map]

theorem answer_processOne_checked (line : Value) {validator : Callback}
    (checked : p.validator = some validator) (resolved : p.resolveTarget target = .ok (.ok t)) :
    (p.processOne line target).answer =
      match p.stop? t line p.commands.values with
      | some (.error fault) => .error fault
      | some (.ok failure) => .ok (.error failure)
      | none =>
        match p.accepted t line p.commands.values,
          (p.rejections t line p.commands.values).getLast? with
        | [], none => (noMatch line).map .error
        | [], some rejection =>
          .ok (fail .validation ((absence line).message ++ "\n" ++ rejection.message))
        | [result], _ => .ok (.ok result)
        | several, _ =>
          ((commandNames several).bind (nameTexts 0)).map fun names =>
            .error (ambiguity line names) := by
  simp only [processOne, resolved, checked, Act.answer_bind, Act.answer_ofExcept, Except.bind,
    answer_sweep]
  cases p.stop? t line p.commands.values with
  | some stop => cases stop <;> rfl
  | none =>
    match found : p.accepted t line p.commands.values,
      rejected : (p.rejections t line p.commands.values).getLast? with
    | [], none => rfl
    | [], some rejection =>
      have sayable := sayable_of_text?
        (exists_text?_of_rejections (List.mem_of_getLast? rejected))
      simp only [unmatchedFor, Act.answer_ofExcept, noMatch_of_sayable sayable]
      rfl
    | [result], _ => rfl
    | a :: b :: rest, _ =>
      have listed : a ∈ p.accepted t line p.commands.values := by simp [found]
      have sayable := sayable_of_text? (exists_text?_of_accepted listed)
      simp only [Act.answer_bind, Act.answer_ofExcept, answer_ambiguous,
        Value.said_of_sayable sayable, Except.map]
      cases (commandNames (a :: b :: rest)).bind (nameTexts 0) <;> rfl

end Processor
end LineCommand
