import LineCommand.Proofs.Dispatch.Precedence

/-! A validator as a filter behind the commands. It sees what the commands make of a line without
it, and can only take results out or put others in their places; what stops the commands without a
validator stops them with it. -/
namespace LineCommand

abbrev Verdict := Value → Outcome Value

namespace Verdict

variable {verdict : Verdict}

/-- The validator replies to every execution with the verdict. -/
def IsOf (verdict : Verdict) (f : Callback) : Prop :=
  ∀ e : Execution, f e.toValue = .ok (verdict e.toValue).toValue

/-- What is left of a result: the value that the verdict puts in its place, else the result. -/
def kept? (verdict : Verdict) (r : Value) : Option Value :=
  match verdict r with
  | .ok replaced => some (if replaced.isNone then r else replaced)
  | .error _ => none

/-- Why a result is turned down. `fill` completes the detail of the verdict. -/
def reason? (verdict : Verdict) (fill : Value → Value) (r : Value) : Option Failure :=
  match verdict r with
  | .ok _ => none
  | .error failure => some { failure with detail := fill failure.detail }

/-- A detail, or the kind of the failure in place of one that counts as false. -/
def completed (detail : Value) : Value := detail.orElse (.kind .validation)

/-- What verdicts leave of all results: those kept, or the last reason if there are none. -/
def sifted (verdict : Verdict) (rs : List Value) : Outcome (List Value) :=
  match rs.filterMap verdict.kept?, (rs.filterMap (verdict.reason? completed)).getLast? with
  | [], some reason => .error reason
  | kept, _ => .ok kept

theorem reason?_of_not_kept (fill : Value → Value) {r : Value} (dropped : verdict.kept? r = none) :
    ∃ reason, verdict.reason? fill r = some reason := by
  unfold kept? at dropped
  unfold reason?
  split at dropped
  case h_1 => cases dropped
  case h_2 failure judged => exact ⟨_, rfl⟩

/-- Where no result is kept, the last one has been turned down. -/
theorem exists_last_reason (fill : Value → Value) {rs : List Value} (some : rs ≠ [])
    (none : rs.filterMap verdict.kept? = []) :
    ∃ reason, (rs.filterMap (verdict.reason? fill)).getLast? = .some reason := by
  obtain ⟨front, r, rfl⟩ := List.eq_nil_or_concat' rs |>.resolve_left some
  have dropped := List.filterMap_eq_nil_iff.mp none r (by simp)
  obtain ⟨reason, here⟩ := reason?_of_not_kept fill dropped
  refine ⟨reason, ?_⟩
  rw [List.filterMap_append, List.filterMap_cons_some here, List.filterMap_nil,
    List.getLast?_concat]

theorem sifted_of_kept {rs : List Value} (kept : rs = [] ∨ rs.filterMap verdict.kept? ≠ []) :
    verdict.sifted rs = .ok (rs.filterMap verdict.kept?) := by
  unfold sifted
  rcases kept with rfl | kept
  · rfl
  · split
    case h_1 none _ => exact absurd none kept
    case h_2 => rfl

def apply (verdict : Verdict) : Evaluation → Evaluation
  | .accepted r =>
    match verdict r with
    | .ok replaced => .accepted (if replaced.isNone then r else replaced)
    | .error failure => .rejected { failure with detail := completed failure.detail }
  | e => e

end Verdict

namespace Trial

variable {verdict : Verdict}

theorem stop?_judged (x : Trial) : stop? (x.map verdict.apply) = stop? x := by
  cases x with
  | error fault => rfl
  | ok evaluation =>
    cases evaluation with
    | notMatched | rejected reason | failed reason => rfl
    | accepted r =>
      simp only [Except.map, Verdict.apply]
      cases verdict r <;> rfl

theorem accepted?_judged (x : Trial) :
    accepted? (x.map verdict.apply) = (accepted? x).bind verdict.kept? := by
  cases x with
  | error fault => rfl
  | ok evaluation =>
    cases evaluation with
    | notMatched | rejected reason | failed reason => rfl
    | accepted r =>
      simp only [Except.map, Verdict.apply, accepted?, Option.bind_some, Verdict.kept?]
      cases verdict r <;> rfl

theorem rejected?_judged {x : Trial} (unchecked : rejected? x = none) :
    rejected? (x.map verdict.apply) =
      (accepted? x).bind (verdict.reason? Verdict.completed) := by
  cases x with
  | error fault => rfl
  | ok evaluation =>
    cases evaluation with
    | notMatched | failed reason => rfl
    | rejected reason => cases unchecked
    | accepted r =>
      simp only [Except.map, Verdict.apply, accepted?, Option.bind_some, Verdict.reason?]
      cases verdict r <;> rfl

end Trial

namespace Processor

variable {p : Processor} {f : Callback} {verdict : Verdict} {t : FormatTarget}
  {line target : Value}

def under (p : Processor) (f : Callback) : Processor := { p with validator := some f }

@[simp] theorem under_commands : (p.under f).commands = p.commands := rfl

@[simp] theorem under_resolveTarget : (p.under f).resolveTarget target = p.resolveTarget target :=
  rfl

/-! ### One command -/

theorem assess_under (judges : verdict.IsOf f) (e : Execution) :
    (p.under f).assess e.toValue = .ok (verdict.apply (.accepted e.toValue)) := by
  simp only [assess, under, judges e, Verdict.apply]
  cases verdict e.toValue <;> rfl

theorem trial_under (free : p.validator = none) (judges : verdict.IsOf f) (c : Command) :
    (p.under f).trial t line c = (p.trial t line c).map verdict.apply := by
  rw [trial_eq, trial_eq]
  match (c.validate line).answer with
  | .error fault => rfl
  | .ok (.error failure) => rfl
  | .ok (.ok none) => rfl
  | .ok (.ok (some v)) =>
    dsimp only
    match c.produce v.params t.toValue with
    | .error fault => rfl
    | .ok (.error failure) => rfl
    | .ok (.ok e) =>
      dsimp only
      rw [assess_under judges, assess_unchecked free]
      rfl

/-! ### All commands -/

theorem stop?_under (free : p.validator = none) (judges : verdict.IsOf f) (cs : List Command) :
    (p.under f).stop? t line cs = p.stop? t line cs := by
  simp only [stop?, trial_under free judges, Trial.stop?_judged]

theorem accepted_under (free : p.validator = none) (judges : verdict.IsOf f)
    (cs : List Command) :
    (p.under f).accepted t line cs = (p.accepted t line cs).filterMap verdict.kept? := by
  simp only [accepted, trial_under free judges, Trial.accepted?_judged, List.filterMap_filterMap]

theorem rejections_under (free : p.validator = none) (judges : verdict.IsOf f)
    (cs : List Command) :
    (p.under f).rejections t line cs =
      (p.accepted t line cs).filterMap (verdict.reason? Verdict.completed) := by
  have unchecked : ∀ c ∈ cs, Trial.rejected? (p.trial t line c) = none :=
    List.filterMap_eq_nil_iff.mp (rejections_unchecked free cs)
  simp only [rejections, accepted, trial_under free judges, List.filterMap_filterMap]
  apply List.filterMap_congr
  intro c member
  exact Trial.rejected?_judged (unchecked c member)

/-- A sweep goes on behind a command that does not stop it. -/
theorem runs_sweep_cons (c : Command) (rest : List Command) :
    (p.sweep t line (c :: rest)).runs =
      (p.evaluateFor t line c).runs ++
        match Trial.stop? (p.trial t line c) with
        | some _ => []
        | none => (p.sweep t line rest).runs := by
  simp only [sweep, Act.runs_bind, trial]
  congr 1
  cases (p.evaluateFor t line c).answer with
  | error fault => rfl
  | ok evaluation =>
    cases evaluation with
    | failed reason => rfl
    | notMatched => rfl
    | accepted result | rejected reason =>
      simp only [Act.runs_bind]
      cases (p.sweep t line rest).answer <;> exact List.append_nil _

theorem runs_sweep_under (free : p.validator = none) (judges : verdict.IsOf f)
    (cs : List Command) : ((p.under f).sweep t line cs).runs = (p.sweep t line cs).runs := by
  induction cs with
  | nil => rfl
  | cons c rest ih =>
    rw [runs_sweep_cons, runs_sweep_cons, runs_evaluateFor, runs_evaluateFor,
      trial_under free judges, Trial.stop?_judged, ih]

/-! ### Filtering -/

/-- Without a validator nothing is turned down. -/
theorem answer_processAll_unchecked (line : Value) (free : p.validator = none)
    (resolved : p.resolveTarget target = .ok (.ok t)) :
    (p.processAll line target).answer =
      match p.stop? t line p.commands.values with
      | some (.error fault) => .error fault
      | some (.ok failure) => .ok (.error failure)
      | none => .ok (.ok (p.accepted t line p.commands.values)) := by
  rw [answer_processAll line resolved, rejections_unchecked free]
  cases p.stop? t line p.commands.values with
  | some stop => cases stop <;> rfl
  | none => cases p.accepted t line p.commands.values <;> rfl

theorem answer_processAll_under (line target : Value) (free : p.validator = none)
    (judges : verdict.IsOf f) :
    ((p.under f).processAll line target).answer =
      (p.processAll line target).answer.map fun all => all.bind verdict.sifted := by
  obtain ⟨t, resolved⟩ | ⟨stop, unresolved⟩ := p.resolveTarget_cases target
  · rw [answer_processAll (p := p.under f) line resolved,
      answer_processAll_unchecked line free resolved, under_commands, stop?_under free judges,
      accepted_under free judges, rejections_under free judges]
    cases p.stop? t line p.commands.values with
    | some stop => cases stop <;> rfl
    | none =>
      simp only [Except.map, Except.bind, Verdict.sifted]
      generalize (p.accepted t line p.commands.values).filterMap verdict.kept? = kept
      generalize List.getLast? _ = last
      cases kept <;> cases last <;> rfl
  · rw [answer_processAll_unresolved (p := p.under f) _ _ unresolved,
      answer_processAll_unresolved _ _ unresolved]
    cases stop <;> rfl

theorem runs_processAll_under (line target : Value) (free : p.validator = none)
    (judges : verdict.IsOf f) :
    ((p.under f).processAll line target).runs = (p.processAll line target).runs := by
  rw [runs_processAll, runs_processAll, under_resolveTarget, under_commands]
  match p.resolveTarget target with
  | .error fault => rfl
  | .ok (.error failure) => rfl
  | .ok (.ok t) => exact runs_sweep_under free judges p.commands.values

/-- What all results under a validator have to do with those without it. -/
structure OnlyFilters (p : Processor) (f : Callback) (verdict : Verdict)
    (fill : Value → Value) (line target : Value) : Prop where
  of_kept : ∀ rs, (p.processAll line target).answer = .ok (.ok rs) →
    rs = [] ∨ rs.filterMap verdict.kept? ≠ [] →
      ((p.under f).processAll line target).answer = .ok (.ok (rs.filterMap verdict.kept?))
  /-- If all results are turned down, the last reason is the failure. -/
  of_none_kept : ∀ rs, (p.processAll line target).answer = .ok (.ok rs) →
    rs ≠ [] → rs.filterMap verdict.kept? = [] →
      ∃ reason, (rs.filterMap (verdict.reason? fill)).getLast? = some reason ∧
        ((p.under f).processAll line target).answer = .ok (.error reason)
  of_failure : ∀ failure, (p.processAll line target).answer = .ok (.error failure) →
    ((p.under f).processAll line target).answer = .ok (.error failure)
  of_fault : ∀ fault, (p.processAll line target).answer = .error fault →
    ((p.under f).processAll line target).answer = .error fault
  runs : ((p.under f).processAll line target).runs = (p.processAll line target).runs

/-- A validator that replies to every execution only filters the results of a line. A detail that
counts as false is completed. -/
theorem onlyFilters (p : Processor) (f : Callback) (verdict : Verdict)
    (line target : Value) (free : p.validator = none) (judges : verdict.IsOf f) :
    p.OnlyFilters f verdict Verdict.completed line target where
  of_kept := by
    intro rs all kept
    rw [answer_processAll_under line target free judges, all]
    exact congrArg Except.ok (Verdict.sifted_of_kept kept)
  of_none_kept := by
    intro rs all some none
    obtain ⟨reason, last⟩ := Verdict.exists_last_reason Verdict.completed some none
    refine ⟨reason, last, ?_⟩
    have sifted : verdict.sifted rs = .error reason := by
      simp only [Verdict.sifted, none, last]
    rw [answer_processAll_under line target free judges, all]
    exact congrArg Except.ok sifted
  of_failure := by
    intro failure all
    rw [answer_processAll_under line target free judges, all]
    rfl
  of_fault := by
    intro fault all
    rw [answer_processAll_under line target free judges, all]
    rfl
  runs := runs_processAll_under line target free judges

/-- Two commands for the same lines, both of which succeed. -/
def agreeing : Processor :=
  let answering (name : String) := Command.bare name (fun _ => .ok (.success (.text "ok")))
    (.letterPair ⟨"a", 0⟩ ⟨"b", 0⟩)
  { commands := ⟨[⟨"one", "one", answering "one"⟩, ⟨"two", "two", answering "two"⟩]⟩
    validator := none
    target := .text }

def agreed : List Value := [.execution "one" (.text "ok") "ok", .execution "two" (.text "ok") "ok"]

theorem answer_agreeing : (agreeing.processAll (.text "x y") .none).answer = .ok (.ok agreed) := by
  rfl

theorem onlyFilters_onlyOne :
    let verdict : Verdict := fun v =>
      if v.member? "command" |>.any (·.same (.text "one")) then .ok .none
      else .error ⟨"not here", .none⟩
    agreeing.validator = none ∧ verdict.IsOf onlyOne ∧
      ((agreeing.under onlyOne).processAll (.text "x y") .none).answer =
        .ok (.ok [.execution "one" (.text "ok") "ok"]) := by
  intro verdict
  have judges : verdict.IsOf onlyOne := by
    intro e
    unfold onlyOne verdict
    split <;> rfl
  have filters := agreeing.onlyFilters onlyOne verdict (.text "x y") .none rfl judges
  have kept : agreed.filterMap verdict.kept? = [.execution "one" (.text "ok") "ok"] := by
    simp [agreed, verdict, Verdict.kept?, Value.member?, Value.same, Value.text?, Value.isNone]
  refine ⟨rfl, judges, ?_⟩
  rw [filters.of_kept agreed answer_agreeing (.inr (by simp [kept])), kept]

/-- A detail that is given, but counts as false, is replaced like one that is absent. -/
theorem not_onlyFilters_zero :
    let verdict : Verdict := fun _ => .error ⟨"no", .int 0⟩
    let dismiss : Callback := fun _ => .ok (.failure "no" (.int 0))
    let fill := fun detail : Value => if detail.isNone then .kind .validation else detail
    (create agreeing.commands.values none (.text "text")).answer = .ok agreeing ∧
      verdict.IsOf dismiss ∧ ¬ agreeing.OnlyFilters dismiss verdict fill (.text "x y") .none := by
  intro verdict dismiss fill
  refine ⟨by rfl, fun e => rfl, ?_⟩
  intro filters
  have dropped : agreed.filterMap verdict.kept? = [] := by rfl
  have last : (agreed.filterMap (verdict.reason? fill)).getLast? = some ⟨"no", .int 0⟩ := by rfl
  obtain ⟨reason, found, answered⟩ := filters.of_none_kept agreed answer_agreeing nofun dropped
  obtain rfl := Option.some.inj (last.symm.trans found)
  have replaced : ((agreeing.under dismiss).processAll (.text "x y") .none).answer =
      .ok (.error ⟨"no", .kind .validation⟩) := by rfl
  rw [replaced] at answered
  cases answered

end Processor
end LineCommand
