import LineCommand.Proofs.Dispatch.Ordering
import LineCommand.Proofs.Dispatch.Unmatched

/-! The kinds of failures. Whatever a stage fails for, the failure that leaves it has a kind: the
stage gives one itself, or fills it in where the failure of a user has none. That no command matched
is said by the policies only, behind all stages. -/
namespace LineCommand

/-- The failure has a kind for its detail. -/
def Failure.HasKind (failure : Failure) : Prop := ∃ kind, failure.detail = .kind kind

/-- The failure has one of the kinds for its detail. -/
def Failure.Kinded (kinds : FailureKind → Prop) (failure : Failure) : Prop :=
  ∃ kind, kinds kind ∧ failure.detail = .kind kind

/-- The details that users give their failures: one of the kinds, or none. -/
def Labels (kinds : FailureKind → Prop) (detail : Value) : Prop :=
  detail = .none ∨ ∃ kind, kinds kind ∧ detail = .kind kind

/-- The kinds that stages and policies give to failures, apart from that of a line without a
match. -/
def stageKinds : List FailureKind :=
  [.mismatchedCaptures, .conversion, .execution, .format, .validation, .ambiguous]

/-- The failures of the converter and of the executor are labelled by the kinds, or not at all. -/
structure Command.Tags (c : Command) (kinds : FailureKind → Prop) : Prop where
  converter : ∀ v failure, c.converter.convert v = .ok (.error failure) →
    Labels kinds failure.detail
  executor : ∀ params message detail, c.executor params = .ok (.failure message detail) →
    Labels kinds detail

/-- The failures of converters, executors and the validator are labelled by the kinds, or not at
all. -/
structure Processor.Tags (p : Processor) (kinds : FailureKind → Prop) : Prop where
  commands : ∀ c ∈ p.commands.values, c.Tags kinds
  validator : ∀ validator, p.validator = some validator → ∀ result message detail,
    validator result = .ok (.failure message detail) → Labels kinds detail

variable {kinds : FailureKind → Prop} {failure : Failure} {line target : Value}

/-! ### Labels -/

theorem Labels.mono {others : FailureKind → Prop} (wider : ∀ kind, kinds kind → others kind)
    {detail : Value} (labelled : Labels kinds detail) : Labels others detail := by
  obtain rfl | ⟨kind, allowed, rfl⟩ := labelled
  · exact .inl rfl
  · exact .inr ⟨kind, wider kind allowed, rfl⟩

theorem Processor.Tags.mono {p : Processor} {others : FailureKind → Prop}
    (wider : ∀ kind, kinds kind → others kind) (tags : p.Tags kinds) : p.Tags others where
  commands c member :=
    ⟨fun v failure refused => ((tags.commands c member).converter v failure refused).mono wider,
      fun params message detail failed =>
        ((tags.commands c member).executor params message detail failed).mono wider⟩
  validator f checked result message detail turned :=
    (tags.validator f checked result message detail turned).mono wider

theorem Labels.kinded_orElse {detail : Value} (labelled : Labels kinds detail)
    {kind : FailureKind} (own : kinds kind) (message : String) :
    Failure.Kinded kinds ⟨message, detail.orElse (.kind kind)⟩ := by
  obtain rfl | ⟨given, allowed, rfl⟩ := labelled
  · exact ⟨kind, own, rfl⟩
  · exact ⟨given, allowed, rfl⟩

theorem FormatterSet.detail_of_formatFor {s : FormatterSet} {v : Value} {t : FormatTarget}
    (failed : s.formatFor v t = .ok (.error failure)) : failure.detail = .kind .format := by
  obtain ⟨answer, _, worded⟩ := except_map_eq_ok_iff.mp failed
  unfold rendered at worded
  split at worded
  · cases worded
    rfl
  · split at worded <;> cases worded
    rfl

theorem FormatterSet.detail_of_format {s : FormatterSet} {v : Value}
    (failed : s.format v target = .ok (.error failure)) : failure.detail = .kind .format := by
  obtain ⟨found, resolved, worded⟩ := except_bind_eq_ok_iff.mp failed
  cases found with
  | error unresolved =>
    cases worded
    exact FormatTarget.detail_of_resolve resolved
  | ok t => exact detail_of_formatFor worded

/-! ### Stages -/

section Stages

variable (own : ∀ kind ∈ stageKinds, kinds kind)
include own

theorem Failure.kinded_of {kind : FailureKind} (given : failure.detail = .kind kind)
    (stage : kind ∈ stageKinds) : failure.Kinded kinds :=
  ⟨kind, own kind stage, given⟩

theorem Grammar.kinded_of_parse {g : Grammar}
    (failed : (g.parse line).answer = .ok (.error failure)) : failure.Kinded kinds := by
  cases worded : line.text? with
  | none =>
    rw [g.answer_parse_of_not_text worded] at failed
    obtain ⟨shown, _, refused⟩ := except_map_eq_ok_iff.mp failed
    cases refused
    exact Failure.kinded_of own rfl (by decide)
  | some s =>
    rw [g.parse_of_text? worded, answer_parse_text] at failed
    split at failed
    case h_4 =>
      split at failed <;> cases failed
      exact Failure.kinded_of own rfl (by decide)
    all_goals cases failed

namespace Command

variable {c : Command} (tags : c.Tags kinds)
include tags

theorem kinded_of_validate (failed : (c.validate line).answer = .ok (.error failure)) :
    failure.Kinded kinds := by
  rw [answer_validate] at failed
  split at failed
  case h_2 parsed =>
    cases failed
    exact Grammar.kinded_of_parse own parsed
  case h_4 =>
    split at failed
    case h_3 refused =>
      cases failed
      exact (tags.converter _ _ refused).kinded_orElse (own _ (by decide)) _
    all_goals cases failed
  all_goals cases failed

theorem kinded_of_conclude {params reply : Value} (replied : c.executor params = .ok reply)
    (failed : c.conclude reply target = .ok (.error failure)) : failure.Kinded kinds := by
  unfold conclude at failed
  split at failed
  case h_1 =>
    cases failed
    exact Failure.kinded_of own rfl (by decide)
  case h_2 said =>
    cases failed
    cases reply <;> cases said
    exact (tags.executor params _ _ replied).kinded_orElse (own _ (by decide)) _
  case h_3 =>
    obtain ⟨worded, formatted, made⟩ := except_map_eq_ok_iff.mp failed
    cases worded with
    | error unworded =>
      cases made
      have given := FormatterSet.detail_of_format formatted
      exact Failure.kinded_of own given (by decide)
    | ok message => cases made

theorem kinded_of_produce {params : Value}
    (failed : c.produce params target = .ok (.error failure)) : failure.Kinded kinds := by
  unfold produce at failed
  cases replied : c.executor params with
  | error fault =>
    rw [replied, Outcome.capture] at failed
    cases told : fault.summary with
    | error mute =>
      rw [told] at failed
      cases failed
    | ok message =>
      rw [told] at failed
      cases failed
      exact Failure.kinded_of own rfl (by decide)
  | ok reply =>
    rw [replied] at failed
    exact kinded_of_conclude own tags replied failed

end Command

namespace Processor

variable {p : Processor} {t : FormatTarget}

theorem kinded_of_unresolved (unresolved : p.resolveTarget target = .ok (.error failure)) :
    failure.Kinded kinds :=
  Failure.kinded_of own (detail_of_unresolved unresolved) (by decide)

theorem kinded_of_no_target {α : Type} {stop : Except Fault Failure}
    (unresolved : p.resolveTarget target = stop.map .error)
    (failed : (stop.map .error : Except Fault (Outcome α)) = .ok (.error failure)) :
    failure.Kinded kinds := by
  obtain ⟨reason, rfl, same⟩ := except_map_eq_ok_iff.mp failed
  cases same
  exact kinded_of_unresolved own unresolved

variable (tags : p.Tags kinds)
include tags

/-- A failure of the validator, be it a reason for turning a result down or not, has a kind. -/
theorem kinded_of_assess {result : Value}
    (troubled : p.assess result = .ok (.failed failure) ∨
      p.assess result = .ok (.rejected failure)) : failure.Kinded kinds := by
  unfold assess at troubled
  cases checked : p.validator with
  | none => simp [checked] at troubled
  | some validator =>
    simp only [checked] at troubled
    cases replied : validator result with
    | error fault =>
      rw [replied, Outcome.capture] at troubled
      cases told : fault.summary with
      | error mute => simp [told, Except.map] at troubled
      | ok message =>
        rw [told] at troubled
        obtain failed | rejected := troubled
        · cases failed
          exact Failure.kinded_of own rfl (by decide)
        · cases rejected
    | ok reply =>
      rw [replied] at troubled
      simp only [Outcome.capture_ok, Except.ok.injEq] at troubled
      cases reply with
      | failure message detail =>
        obtain failed | rejected := troubled
        · cases failed
        · cases rejected
          exact (tags.validator validator checked _ _ _ replied).kinded_orElse
            (own _ (by decide)) _
      | success v => obtain failed | rejected := troubled <;> [cases failed; cases rejected]
      | _ =>
        obtain failed | rejected := troubled
        · cases failed
          exact Failure.kinded_of own rfl (by decide)
        · cases rejected

theorem kinded_of_trial {c : Command} (labelled : c.Tags kinds)
    (troubled : p.trial t line c = .ok (.failed failure) ∨
      p.trial t line c = .ok (.rejected failure)) : failure.Kinded kinds := by
  rw [trial_eq] at troubled
  split at troubled
  case h_2 refused =>
    obtain failed | rejected := troubled
    · cases failed
      exact Command.kinded_of_validate own labelled refused
    · cases rejected
  case h_4 =>
    split at troubled
    case h_1 => simp at troubled
    case h_2 produced =>
      obtain failed | rejected := troubled
      · cases failed
        exact Command.kinded_of_produce own labelled produced
      · cases rejected
    case h_3 => exact kinded_of_assess own tags troubled
  all_goals simp at troubled

theorem kinded_of_stop? (stopped : p.stop? t line p.commands.values = some (.ok failure)) :
    failure.Kinded kinds := by
  obtain ⟨c, member, here⟩ := List.exists_of_findSome?_eq_some stopped
  exact kinded_of_trial own tags (tags.commands c member) (.inl (Trial.stop?_eq_ok_iff.mp here))

theorem kinded_of_rejections (member : failure ∈ p.rejections t line p.commands.values) :
    failure.Kinded kinds := by
  obtain ⟨c, registered, turned⟩ := List.mem_filterMap.mp member
  have rejected := Trial.rejected?_eq_some_iff.mp turned
  exact kinded_of_trial own tags (tags.commands c registered) (.inr rejected)

theorem kinded_of_refusal
    (refused : p.commands.values.findSome? (Command.refusal? line) = some (.ok failure)) :
    failure.Kinded kinds := by
  obtain ⟨c, member, here⟩ := List.exists_of_findSome?_eq_some refused
  apply Command.kinded_of_validate own (tags.commands c member)
  unfold Command.refusal? at here
  split at here <;> cases here
  assumption

end Processor
end Stages

namespace Processor

variable {p : Processor} {t : FormatTarget}

/-! ### Lines without a match -/

/-- The destination is one, and no command matches the line. -/
structure FindsNothing (p : Processor) (line target : Value) : Prop where
  resolves : ∃ t, p.resolveTarget target = .ok (.ok t)
  unmatched : ∀ c ∈ p.commands.values, (c.grammar.parse line).answer = .ok (.ok none)

theorem judge_ne_notMatched (result reply : Value) : judge result reply ≠ .notMatched := by
  unfold judge
  split <;> simp

theorem assess_ne_notMatched (result : Value) : p.assess result ≠ .ok .notMatched := by
  unfold assess
  cases p.validator with
  | none => nofun
  | some validator =>
    match captured : Outcome.capture (validator result) with
    | .error fault => simp [captured]
    | .ok (.error failure) => simp [captured]
    | .ok (.ok reply) => simp [captured, judge_ne_notMatched]

theorem trial_eq_notMatched_iff {c : Command} :
    p.trial t line c = .ok .notMatched ↔ (c.grammar.parse line).answer = .ok (.ok none) := by
  constructor
  · intro passed
    have validated : (c.validate line).answer = .ok (.ok none) := by
      rw [trial_eq] at passed
      split at passed
      case h_3 validated => exact validated
      case h_4 =>
        split at passed
        · cases passed
        · cases passed
        · exact absurd passed (assess_ne_notMatched _)
      all_goals cases passed
    rw [Command.answer_validate] at validated
    split at validated
    case h_3 parsed => exact parsed
    case h_4 => split at validated <;> cases validated
    all_goals cases validated
  · intro unmatched
    rw [trial, evaluateFor_of_unmatched unmatched]
    rfl

/-- A sweep meets with nothing just if the line matches none of the commands. -/
theorem unmatched_iff {cs : List Command} :
    (∀ c ∈ cs, (c.grammar.parse line).answer = .ok (.ok none)) ↔
      p.stop? t line cs = none ∧ p.accepted t line cs = [] ∧ p.rejections t line cs = [] := by
  simp only [← trial_eq_notMatched_iff (p := p) (t := t), stop?, accepted, rejections,
    List.findSome?_eq_none_iff, List.filterMap_eq_nil_iff, ← forall_and]
  refine forall_congr' fun c => forall_congr' fun _ => ?_
  cases p.trial t line c with
  | error fault => simp [Trial.stop?]
  | ok evaluation => cases evaluation <;> simp [Trial.stop?, Trial.accepted?, Trial.rejected?]

theorem findsNothing_iff (resolved : p.resolveTarget target = .ok (.ok t)) :
    p.FindsNothing line target ↔
      p.stop? t line p.commands.values = none ∧ p.accepted t line p.commands.values = [] ∧
        p.rejections t line p.commands.values = [] := by
  rw [← unmatched_iff]
  exact ⟨FindsNothing.unmatched, fun unmatched => ⟨⟨t, resolved⟩, unmatched⟩⟩

/-- Where nothing stops a sweep, the search for the first result ends with the first one accepted,
or else with the last reason for turning one down. -/
theorem answer_processFirst_unstopped (resolved : p.resolveTarget target = .ok (.ok t))
    (unstopped : p.stop? t line p.commands.values = none) :
    (p.processFirst line target).answer =
      match p.accepted t line p.commands.values,
        (p.rejections t line p.commands.values).getLast? with
      | [], none => (noMatch line).map .error
      | [], some rejection => .ok (.error rejection)
      | result :: _, _ => .ok (.ok result) := by
  rw [answer_processFirst line resolved]
  have ended := final?_of_unstopped unstopped
  rw [final?] at ended
  rw [ended]
  cases p.accepted t line p.commands.values <;>
    cases (p.rejections t line p.commands.values).getLast? <;> rfl

/-- Where there is nothing to find, the searches go on to say so. -/
theorem FindsNothing.answers (nothing : p.FindsNothing line target) :
    (p.processFirst line target).answer = (noMatch line).map .error ∧
      (p.processOne line target).answer = (noMatch line).map .error := by
  obtain ⟨t, resolved⟩ := nothing.resolves
  obtain ⟨unstopped, fruitless, unturned⟩ := (findsNothing_iff resolved).mp nothing
  rw [answer_processFirst_unstopped resolved unstopped,
    answer_processOne_unstopped resolved unstopped, fruitless, unturned]
  exact ⟨rfl, rfl⟩

theorem FindsNothing.sayable (nothing : p.FindsNothing line target)
    (heard : ¬ p.Unsaid line target) : line.sayable = true := by
  obtain ⟨t, resolved⟩ := nothing.resolves
  exact sayable_of_unstopped resolved heard ((findsNothing_iff resolved).mp nothing).1

theorem FindsNothing.hasKind (nothing : p.FindsNothing line target)
    (failed : (p.processFirst line target).answer = .ok (.error failure) ∨
      (p.processOne line target).answer = .ok (.error failure)) : failure.HasKind := by
  rw [nothing.answers.1, nothing.answers.2, or_self] at failed
  obtain ⟨none, said, same⟩ := except_map_eq_ok_iff.mp failed
  cases same
  exact ⟨_, detail_of_noMatch said⟩

theorem Unsaid.findsNothing (unsaid : p.Unsaid line target) : p.FindsNothing line target where
  resolves := unsaid.1
  unmatched c member := by
    rw [unsaid.2.1] at member
    cases member

/-! ### Policies -/

section Policies

variable (own : ∀ kind ∈ stageKinds, kinds kind) (tags : p.Tags kinds)
include own tags

/-- The search for the first result fails for a stage, or because there is nothing to find. -/
theorem kinded_of_processFirst
    (failed : (p.processFirst line target).answer = .ok (.error failure)) :
    failure.Kinded kinds ∨ p.FindsNothing line target := by
  obtain ⟨t, resolved⟩ | ⟨stop, unresolved⟩ := p.resolveTarget_cases target
  · cases stopped : p.stop? t line p.commands.values with
    | some stop =>
      obtain ended | ⟨r, ended⟩ := final?_of_stopped stopped <;>
        rw [final?] at ended <;> rw [answer_processFirst line resolved, ended] at failed
      · cases stop with
        | error fault => cases failed
        | ok reason =>
          cases failed
          exact .inl (kinded_of_stop? own tags stopped)
      · cases failed
    | none =>
      rw [answer_processFirst_unstopped resolved stopped] at failed
      split at failed
      case h_1 fruitless unturned =>
        rw [List.getLast?_eq_none_iff] at unturned
        exact .inr ((findsNothing_iff resolved).mpr ⟨stopped, fruitless, unturned⟩)
      case h_2 turned =>
        cases failed
        exact .inl (kinded_of_rejections own tags (List.mem_of_getLast? turned))
      case h_3 => cases failed
  · rw [answer_processFirst_unresolved _ _ unresolved] at failed
    exact .inl (kinded_of_no_target own unresolved failed)

theorem kinded_of_processOne_unchecked (free : p.validator = none)
    (resolved : p.resolveTarget target = .ok (.ok t)) {stop : Except Fault Failure}
    (stopped : p.stop? t line p.commands.values = some stop)
    (failed : (p.processOne line target).answer = .ok (.error failure)) :
    failure.Kinded kinds := by
  rw [answer_processOne_unchecked line free resolved] at failed
  cases refused : p.commands.values.findSome? (Command.refusal? line) with
  | some refusal =>
    rw [refused] at failed
    cases refusal with
    | error fault => cases failed
    | ok reason =>
      cases failed
      exact kinded_of_refusal own tags refused
  | none =>
    rw [stop?_unchecked free refused] at stopped
    rw [refused] at failed
    match validated : p.commands.values.filterMap (Command.validated? line) with
    | [] =>
      rw [validated] at stopped
      cases stopped
    | [v] =>
      have only : v ∈ p.commands.values.filterMap (Command.validated? line) := by simp [validated]
      obtain ⟨c, member, taken⟩ := List.mem_filterMap.mp only
      rw [validated] at failed
      dsimp only at failed
      rw [Command.validated?_command taken] at failed
      obtain ⟨outcome, produced, same⟩ := except_map_eq_ok_iff.mp failed
      cases outcome with
      | error reason =>
        cases same
        exact Command.kinded_of_produce own (tags.commands c member) produced
      | ok e => cases same
    | _ :: _ :: _ =>
      rw [validated] at failed
      cases failed
      exact Failure.kinded_of own rfl (by decide)

/-- The search for the only result fails for a stage, because there are several, or because there
is nothing to find. -/
theorem kinded_of_processOne (failed : (p.processOne line target).answer = .ok (.error failure)) :
    failure.Kinded kinds ∨ p.FindsNothing line target := by
  obtain ⟨t, resolved⟩ | ⟨stop, unresolved⟩ := p.resolveTarget_cases target
  · cases stopped : p.stop? t line p.commands.values with
    | none =>
      rw [answer_processOne_unstopped resolved stopped] at failed
      split at failed
      case h_1 fruitless unturned =>
        rw [List.getLast?_eq_none_iff] at unturned
        exact .inr ((findsNothing_iff resolved).mpr ⟨stopped, fruitless, unturned⟩)
      case h_2 =>
        cases failed
        exact .inl (Failure.kinded_of own rfl (by decide))
      case h_3 => cases failed
      case h_4 =>
        cases named : (commandNames (p.accepted t line p.commands.values)).bind (nameTexts 0) with
        | error fault =>
          rw [named] at failed
          cases failed
        | ok names =>
          rw [named] at failed
          cases failed
          exact .inl (Failure.kinded_of own rfl (by decide))
    | some stop =>
      refine .inl ?_
      cases checked : p.validator with
      | none => exact kinded_of_processOne_unchecked own tags checked resolved stopped failed
      | some validator =>
        rw [answer_processOne_checked line checked resolved, stopped] at failed
        cases stop with
        | error fault => cases failed
        | ok reason =>
          cases failed
          exact kinded_of_stop? own tags stopped
  · rw [answer_processOne_unresolved _ _ unresolved] at failed
    exact .inl (kinded_of_no_target own unresolved failed)

theorem kinded_of_processAll {line : Value}
    (failed : (p.processAll line target).answer = .ok (.error failure)) :
    failure.Kinded kinds := by
  obtain ⟨t, resolved⟩ | ⟨stop, unresolved⟩ := p.resolveTarget_cases target
  · rw [answer_processAll line resolved] at failed
    split at failed
    case h_1 => cases failed
    case h_2 stopped =>
      cases failed
      exact kinded_of_stop? own tags stopped
    case h_3 =>
      split at failed
      case h_1 turned =>
        cases failed
        exact kinded_of_rejections own tags (List.mem_of_getLast? turned)
      case h_2 => cases failed
  · rw [answer_processAll_unresolved _ _ unresolved] at failed
    exact kinded_of_no_target own unresolved failed

theorem kinded_of_evaluate {c : Command} (labelled : c.Tags kinds)
    (troubled : (p.evaluate c line target).answer = .ok (.failed failure) ∨
      (p.evaluate c line target).answer = .ok (.rejected failure)) : failure.Kinded kinds := by
  match resolved : p.resolveTarget target with
  | .error fault =>
    simp [evaluate, resolved, Act.answer_bind, Except.bind] at troubled
  | .ok (.error unresolved) =>
    obtain rfl : unresolved = failure := by
      simpa [evaluate, resolved, Act.answer_bind, Except.bind] using troubled
    exact kinded_of_unresolved own resolved
  | .ok (.ok t) =>
    rw [answer_evaluate p t line resolved] at troubled
    exact kinded_of_trial own tags labelled troubled

end Policies

theorem detail_of_validateAll (failed : (p.validateAll line).answer = .ok (.error failure)) :
    failure.detail = .kind .conversion := by
  rw [answer_validateAll] at failed
  split at failed
  · cases failed
  · split at failed
    · cases failed
      rfl
    · cases failed

theorem hasKind_of_validateOne (failed : (p.validateOne line).answer = .ok (.error failure)) :
    failure.HasKind := by
  rw [answer_validateOne] at failed
  obtain ⟨outcome, answered, ended⟩ := except_bind_eq_ok_iff.mp failed
  match outcome with
  | .error reason =>
    obtain ⟨none, _, same⟩ := except_map_eq_ok_iff.mp ended
    cases same
    have given := detail_of_validateAll answered
    exact ⟨_, given⟩
  | .ok [] =>
    obtain ⟨none, said, same⟩ := except_map_eq_ok_iff.mp ended
    cases same
    exact ⟨_, detail_of_noMatch said⟩
  | .ok [v] => cases ended
  | .ok (_ :: _ :: _) =>
    obtain ⟨said, _, same⟩ := except_map_eq_ok_iff.mp ended
    cases same
    exact ⟨_, rfl⟩

theorem detail_of_format {execution : Value}
    (failed : p.format execution target = .ok (.error failure)) :
    failure.detail = .kind .format := by
  unfold format at failed
  split at failed
  · cases failed
  · split at failed
    · obtain ⟨said, _, cited⟩ := except_bind_eq_ok_iff.mp failed
      cases cited
      rfl
    · obtain ⟨found, resolved, worded⟩ := except_bind_eq_ok_iff.mp failed
      cases found with
      | error unresolved =>
        cases worded
        exact detail_of_unresolved resolved
      | ok t =>
        dsimp only at worded
        split at worded
        · cases worded
        · exact FormatterSet.detail_of_format worded

theorem detail_of_withKind {α : Type} {o : Outcome α} {kind : FailureKind}
    (failed : o.withKind kind = .error failure) : failure.detail = .kind kind := by
  cases o <;> cases failed
  rfl

theorem detail_of_defaultFormatters
    (failed : p.defaultFormatters target = .ok (.error failure)) :
    failure.detail = .kind .format := by
  obtain ⟨resolution, resolved, ended⟩ := except_bind_eq_ok_iff.mp failed
  cases resolution with
  | error unresolved =>
    cases ended
    exact detail_of_unresolved resolved
  | ok t =>
    obtain ⟨found, _, collected⟩ := except_bind_eq_ok_iff.mp ended
    exact detail_of_withKind (Except.ok.inj collected)

/-- Whatever fails at a line has a kind. -/
structure FailsByKind (p : Processor) (line target : Value) : Prop where
  validateAll : ∀ failure, (p.validateAll line).answer = .ok (.error failure) → failure.HasKind
  validateOne : ∀ failure, (p.validateOne line).answer = .ok (.error failure) → failure.HasKind
  processAll : ∀ failure, (p.processAll line target).answer = .ok (.error failure) →
    failure.HasKind
  processFirst : ∀ failure, (p.processFirst line target).answer = .ok (.error failure) →
    failure.HasKind
  processOne : ∀ failure, (p.processOne line target).answer = .ok (.error failure) →
    failure.HasKind
  /-- A command may be tried that is not registered. -/
  evaluate : ∀ c : Command, c.Tags (fun _ => True) → ∀ failure,
    (p.evaluate c line target).answer = .ok (.failed failure) ∨
      (p.evaluate c line target).answer = .ok (.rejected failure) → failure.HasKind
  format : ∀ execution failure, p.format execution target = .ok (.error failure) →
    failure.HasKind
  defaultFormatters : ∀ failure, p.defaultFormatters target = .ok (.error failure) →
    failure.HasKind

/-- The searches say that no command matched just where there is nothing to find. -/
structure NoMatchIsExact (p : Processor) (line target : Value) : Prop where
  processFirst :
    (∃ failure, (p.processFirst line target).answer = .ok (.error failure) ∧
      failure.detail = .kind .noMatch) ↔ p.FindsNothing line target
  processOne : p.FailsFor line target .noMatch ↔ p.FindsNothing line target

theorem noMatchIsExact_of_tags (tags : p.Tags (· ≠ .noMatch)) (heard : ¬ p.Unsaid line target) :
    p.NoMatchIsExact line target := by
  have own : ∀ kind ∈ stageKinds, kind ≠ .noMatch := by decide
  have other : ∀ {failure : Failure}, failure.Kinded (· ≠ .noMatch) →
      failure.detail ≠ .kind .noMatch := by
    rintro failure ⟨kind, apart, given⟩ said
    exact apart (Value.kind.inj (given.symm.trans said))
  constructor
  · constructor
    · rintro ⟨failure, failed, said⟩
      exact (kinded_of_processFirst own tags failed).resolve_left fun kinded => other kinded said
    · intro nothing
      have none := noMatch_of_sayable (nothing.sayable heard)
      exact ⟨absence line, by rw [nothing.answers.1, none, Except.map], rfl⟩
  · constructor
    · rintro ⟨failure, failed, said⟩
      exact (kinded_of_processOne own tags failed).resolve_left fun kinded => other kinded said
    · intro nothing
      have none := noMatch_of_sayable (nothing.sayable heard)
      exact ⟨absence line, by rw [nothing.answers.2, none, Except.map], rfl⟩

/-- A line that cannot be told leaves the searches without the failure that is called for. -/
theorem Unsaid.not_noMatchIsExact (unsaid : p.Unsaid line target) :
    ¬ p.NoMatchIsExact line target := by
  intro exact
  obtain ⟨failure, failed, _⟩ := exact.processFirst.mpr unsaid.findsNothing
  rw [unsaid.findsNothing.answers.1, noMatch_of_not_sayable unsaid.2.2] at failed
  cases failed

/-- If users label their failures with kinds or not at all, every failure of a dispatch has a kind.
If they leave it to the searches to say that no command matched, these say so exactly of the lines
that no command matches, unless there is no command and the line cannot be told. -/
theorem failsByKind (p : Processor) (line target : Value) (tags : p.Tags fun _ => True) :
    p.FailsByKind line target ∧
      (p.Tags (· ≠ .noMatch) → (p.NoMatchIsExact line target ↔ ¬ p.Unsaid line target)) := by
  have own : ∀ kind ∈ stageKinds, True := fun _ _ => trivial
  have given : ∀ {failure : Failure}, failure.Kinded (fun _ => True) → failure.HasKind :=
    fun ⟨kind, _, detail⟩ => ⟨kind, detail⟩
  refine ⟨?_, fun apart => ⟨fun exact unsaid => unsaid.not_noMatchIsExact exact,
    noMatchIsExact_of_tags apart⟩⟩
  constructor
  case validateAll => exact fun failure failed => ⟨_, detail_of_validateAll failed⟩
  case validateOne => exact fun failure failed => hasKind_of_validateOne failed
  case processAll => exact fun failure failed => given (kinded_of_processAll own tags failed)
  case processFirst =>
    intro failure failed
    obtain kinded | nothing := kinded_of_processFirst own tags failed
    · exact given kinded
    · exact nothing.hasKind (.inl failed)
  case processOne =>
    intro failure failed
    obtain kinded | nothing := kinded_of_processOne own tags failed
    · exact given kinded
    · exact nothing.hasKind (.inr failed)
  case evaluate =>
    exact fun c labelled failure troubled => given (kinded_of_evaluate own tags labelled troubled)
  case format => exact fun execution failure failed => ⟨_, detail_of_format failed⟩
  case defaultFormatters => exact fun failure failed => ⟨_, detail_of_defaultFormatters failed⟩

theorem tags_guarded : guarded.Tags (· ≠ .noMatch) := by
  constructor
  · intro c member
    simp only [guarded, NameTable.values, List.map_cons, List.map_nil, List.mem_cons,
      List.not_mem_nil, or_false] at member
    obtain rfl | rfl := member
    all_goals
      constructor
      · intro v failure failed
        cases failed
      · intro params message detail failed
        cases failed
  · intro validator checked result message detail turned
    obtain rfl : onlyOne = validator := Option.some.inj checked
    unfold onlyOne at turned
    split at turned <;> cases turned
    exact .inl rfl

theorem failsByKind_guarded :
    guarded.Tags (fun _ => True) ∧ guarded.Tags (· ≠ .noMatch) ∧
      guarded.FailsByKind (.text "x y") .none ∧
      guarded.NoMatchIsExact (.text "x") .none ∧
      guarded.FailsFor (.text "x") .none .noMatch := by
  have tags : guarded.Tags (fun _ => True) := tags_guarded.mono fun _ _ => trivial
  have heard : ¬ guarded.Unsaid (.text "x") .none := by
    rintro ⟨_, empty, _⟩
    cases empty
  have exact := ((guarded.failsByKind (.text "x") .none tags).2 tags_guarded).mpr heard
  refine ⟨tags, tags_guarded, (guarded.failsByKind (.text "x y") .none tags).1, exact, ?_⟩
  exact ⟨_, by rfl, rfl⟩

def idle : Processor := { validator := none, target := .text }

/-- Without commands there is nothing to find. For a number with too many digits the searches break
off where they should say so. -/
theorem not_noMatchIsExact_idle :
    (create [] none (.text "text")).answer = .ok idle ∧ idle.Tags (· ≠ .noMatch) ∧
      idle.FindsNothing (.int overlong) .none ∧
      (idle.processFirst (.int overlong) .none).answer = .error .tooLong ∧
      (idle.processOne (.int overlong) .none).answer = .error .tooLong ∧
      ¬ idle.NoMatchIsExact (.int overlong) .none := by
  have tags : idle.Tags (· ≠ .noMatch) := ⟨nofun, nofun⟩
  have unsaid : idle.Unsaid (.int overlong) .none := ⟨⟨.text, rfl⟩, rfl, withinDigitLimit_overlong⟩
  obtain ⟨first, one⟩ := unsaid.findsNothing.answers
  rw [noMatch_of_not_sayable unsaid.2.2] at first one
  exact ⟨rfl, tags, unsaid.findsNothing, first, one, unsaid.not_noMatchIsExact⟩

end Processor
end LineCommand
