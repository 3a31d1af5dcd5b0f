import Mathlib.Data.List.Perm.Basic
import LineCommand.Proofs.Dispatch.Answering
import LineCommand.Proofs.Dispatch.Filtering

/-! The order of registration. It decides which of several failures ends a dispatch, and in what
order results are listed; it decides neither whether there are results, nor which ones. -/
namespace LineCommand
namespace Processor

variable {p q : Processor} {t : FormatTarget} {line target : Value}

/-! ### Results without a stop -/

theorem refusal?_of_unstopped {cs : List Command}
    (unstopped : p.stop? t line cs = none) : cs.findSome? (Command.refusal? line) = none := by
  rw [List.findSome?_eq_none_iff]
  intro c member
  cases refused : c.refusal? line with
  | none => rfl
  | some refusal =>
    have stops := List.findSome?_eq_none_iff.mp unstopped c member
    rw [stop?_of_refusal refused] at stops
    cases stops

/-- Where nothing stops a sweep, the search for the only result looks at what is accepted, whether a
validator is asked or not. -/
theorem answer_processOne_unstopped (resolved : p.resolveTarget target = .ok (.ok t))
    (unstopped : p.stop? t line p.commands.values = none) :
    (p.processOne line target).answer =
      match p.accepted t line p.commands.values,
        (p.rejections t line p.commands.values).getLast? with
      | [], none => (noMatch line).map .error
      | [], some rejection =>
        .ok (fail .validation ((absence line).message ++ "\n" ++ rejection.message))
      | [result], _ => .ok (.ok result)
      | several, _ =>
        ((commandNames several).bind (nameTexts 0)).map fun names =>
          .error (ambiguity line names) := by
  cases checked : p.validator with
  | some validator =>
    have one := answer_processOne_checked line checked resolved
    rw [unstopped] at one
    exact one
  | none =>
    have valid := refusal?_of_unstopped unstopped
    rw [stop?_unchecked checked valid] at unstopped
    rw [answer_processOne_unchecked line checked resolved, valid, rejections_unchecked checked,
      accepted_unchecked checked valid]
    generalize p.commands.values.filterMap (Command.validated? line) = vs at unstopped
    obtain ⟨es, names, results⟩ := executions_of_ran unstopped
    obtain _ | ⟨v, _ | ⟨w, others⟩⟩ := vs
    case nil => rfl
    case cons.nil =>
      match produced : outcome t v with
      | .error fault => simp [ran, produced, Trial.stop?] at unstopped
      | .ok (.error failure) => simp [ran, produced, Trial.stop?] at unstopped
      | .ok (.ok e) =>
        change (outcome t v).map (Except.map Execution.toValue) = _
        simp [produced, ran, Trial.accepted?, Except.map]
    case cons.cons =>
      -- The one search names the commands before they run, the other reads the names off results.
      have named := commandNames_executions es
      rw [results]
      obtain _ | ⟨e, _ | ⟨e', rest⟩⟩ := es
      case nil => cases names
      case cons.nil => cases (List.cons.inj names).2
      case cons.cons =>
        simp only [List.map_cons] at named names ⊢
        rw [named, names]
        rfl

/-- What stops a sweep leaves the search for the only result without a result, even if it fails in
the one and faults in the other. -/
theorem processOne_ne_ok_of_stopped (resolved : p.resolveTarget target = .ok (.ok t))
    {stop : Except Fault Failure} (stopped : p.stop? t line p.commands.values = some stop)
    (r : Value) : (p.processOne line target).answer ≠ .ok (.ok r) := by
  cases checked : p.validator with
  | some validator =>
    rw [answer_processOne_checked line checked resolved, stopped]
    cases stop <;> simp
  | none =>
    rw [answer_processOne_unchecked line checked resolved]
    cases refused : p.commands.values.findSome? (Command.refusal? line) with
    | some refusal => cases refusal <;> simp
    | none =>
      rw [stop?_unchecked checked refused] at stopped
      generalize p.commands.values.filterMap (Command.validated? line) = vs at stopped ⊢
      match vs with
      | [] => cases noMatch line <;> simp [Except.map]
      | _ :: _ :: _ => simp
      | [v] =>
        change (outcome t v).map (Except.map Execution.toValue) ≠ _
        match produced : outcome t v with
        | .ok (.ok e) => simp [ran, produced, Trial.stop?] at stopped
        | .error fault | .ok (.error failure) => simp [Except.map]

theorem processOne_eq_ok_iff {r : Value} :
    (p.processOne line target).answer = .ok (.ok r) ↔
      ∃ t, p.resolveTarget target = .ok (.ok t) ∧ p.stop? t line p.commands.values = none ∧
        p.accepted t line p.commands.values = [r] := by
  obtain ⟨t, resolved⟩ | ⟨stop, unresolved⟩ := p.resolveTarget_cases target
  · simp only [resolved, Except.ok.injEq, exists_eq_left']
    cases stopped : p.stop? t line p.commands.values with
    | some stop => simp [processOne_ne_ok_of_stopped resolved stopped]
    | none =>
      rw [answer_processOne_unstopped resolved stopped]
      match p.accepted t line p.commands.values,
        (p.rejections t line p.commands.values).getLast? with
      | [], none => cases noMatch line <;> simp [Except.map]
      | [], some rejection => simp [fail]
      | [result], _ => simp
      | a :: b :: rest, _ =>
        dsimp only
        cases (commandNames (a :: b :: rest)).bind (nameTexts 0) <;> simp [Except.map]
  · rw [answer_processOne_unresolved _ _ unresolved, unresolved]
    cases stop <;> simp [Except.map]

theorem processAll_eq_ok_iff {rs : List Value} :
    (p.processAll line target).answer = .ok (.ok rs) ↔
      ∃ t, p.resolveTarget target = .ok (.ok t) ∧ p.stop? t line p.commands.values = none ∧
        p.accepted t line p.commands.values = rs ∧
        (rs = [] → p.rejections t line p.commands.values = []) := by
  obtain ⟨t, resolved⟩ | ⟨stop, unresolved⟩ := p.resolveTarget_cases target
  · simp only [resolved, Except.ok.injEq, exists_eq_left']
    rw [answer_processAll line resolved]
    cases p.stop? t line p.commands.values with
    | some stop => cases stop <;> simp
    | none =>
      cases p.accepted t line p.commands.values with
      | cons r rest =>
        simp only [Except.ok.injEq, true_and]
        constructor
        · rintro rfl
          exact ⟨rfl, nofun⟩
        · exact And.left
      | nil =>
        cases turned : (p.rejections t line p.commands.values).getLast? with
        | none =>
          rw [List.getLast?_eq_none_iff] at turned
          simp [turned]
        | some rejection =>
          have some : p.rejections t line p.commands.values ≠ [] := by
            intro none
            simp [none] at turned
          simp only [Except.ok.injEq, reduceCtorEq, true_and, false_iff]
          rintro ⟨rfl, none⟩
          exact some (none rfl)
  · rw [answer_processAll_unresolved _ _ unresolved, unresolved]
    cases stop <;> simp [Except.map]

/-! ### Kinds of failures -/

/-- The search for the only result fails for a reason of the kind. -/
def FailsFor (p : Processor) (line target : Value) (kind : FailureKind) : Prop :=
  ∃ failure, (p.processOne line target).answer = .ok (.error failure) ∧ failure.detail = .kind kind

/-- No command ends in a failure when it is evaluated for the line. -/
def Unfailed (p : Processor) (line target : Value) : Prop :=
  ∀ c ∈ p.commands.values, ∀ failure, (p.evaluate c line target).answer ≠ .ok (.failed failure)

theorem detail_of_unresolved {failure : Failure}
    (unresolved : p.resolveTarget target = .ok (.error failure)) :
    failure.detail = .kind .format := by
  unfold resolveTarget at unresolved
  split at unresolved
  · cases unresolved
  · exact FormatTarget.detail_of_resolve unresolved

theorem detail_of_noMatch {failure : Failure} (said : noMatch line = .ok failure) :
    failure.detail = .kind .noMatch := by
  obtain ⟨_, _, rfl⟩ := except_map_eq_ok_iff.mp said
  rfl

/-- What stops the search for the only result: without a validator, the first command that does not
validate the line. -/
def searchStop? (p : Processor) (t : FormatTarget) (line : Value) (cs : List Command) :
    Option (Except Fault Failure) :=
  match p.validator with
  | none => cs.findSome? (Command.refusal? line)
  | some _ => p.stop? t line cs

/-- The names of the commands that the search for the only result finds: without a validator those
that validate the line, else those that accepted results say they come from. -/
def candidates (p : Processor) (t : FormatTarget) (line : Value) (cs : List Command) :
    List (Option String) :=
  match p.validator with
  | none => (cs.filterMap (Command.validated? line)).map fun v => some v.command.name
  | some _ => (p.accepted t line cs).map Value.commandName?

/-- Where nothing stops a sweep, the candidates are what accepted results say they come from, whether
a validator is asked or not. -/
theorem candidates_of_unstopped {cs : List Command} (unstopped : p.stop? t line cs = none) :
    p.candidates t line cs = (p.accepted t line cs).map Value.commandName? := by
  unfold candidates
  split
  case h_1 free =>
    have valid := refusal?_of_unstopped unstopped
    rw [stop?_unchecked free valid] at unstopped
    obtain ⟨es, names, results⟩ := executions_of_ran unstopped
    rw [accepted_unchecked free valid, results, List.map_map]
    change _ = es.map (some ∘ Execution.command)
    rw [← List.map_map, names, List.map_map]
    rfl
  case h_2 => rfl

section Search

variable (resolved : p.resolveTarget target = .ok (.ok t))
  (unstopped : p.searchStop? t line p.commands.values = none)
include resolved unstopped

/-- A search that nothing stops and that finds no command. -/
theorem answer_processOne_none (empty : p.candidates t line p.commands.values = []) :
    (p.processOne line target).answer =
      match (p.rejections t line p.commands.values).getLast? with
      | none => (noMatch line).map .error
      | some rejection =>
        .ok (fail .validation ((absence line).message ++ "\n" ++ rejection.message)) := by
  cases checked : p.validator with
  | none =>
    simp only [searchStop?, candidates, checked, List.map_eq_nil_iff] at unstopped empty
    rw [answer_processOne_unchecked line checked resolved, unstopped, empty,
      rejections_unchecked checked]
    rfl
  | some validator =>
    simp only [searchStop?, candidates, checked, List.map_eq_nil_iff] at unstopped empty
    rw [answer_processOne_checked line checked resolved, unstopped, empty]
    cases (p.rejections t line p.commands.values).getLast? <;> rfl

/-- A search that nothing stops and that finds several commands names them, if all have names. -/
theorem answer_processOne_several
    (several : 2 ≤ (p.candidates t line p.commands.values).length) :
    (∃ fault, (p.processOne line target).answer = .error fault ∧
        none ∈ p.candidates t line p.commands.values) ∨
      ∃ names, p.candidates t line p.commands.values = names.map some ∧
        (p.processOne line target).answer = .ok (.error (ambiguity line names)) := by
  cases checked : p.validator with
  | none =>
    simp only [searchStop?, candidates, checked, List.length_map] at unstopped several ⊢
    have one := answer_processOne_unchecked line checked resolved
    rw [unstopped] at one
    generalize p.commands.values.filterMap (Command.validated? line) = vs at several one ⊢
    refine .inr ⟨vs.map (·.command.name), by simp, ?_⟩
    obtain _ | ⟨v, _ | ⟨w, others⟩⟩ := vs
    · cases several
    · simp at several
    · exact one
  | some validator =>
    simp only [searchStop?, candidates, checked, List.length_map] at unstopped several ⊢
    have one := answer_processOne_checked line checked resolved
    rw [unstopped] at one
    generalize p.accepted t line p.commands.values = rs at several one ⊢
    replace one : (p.processOne line target).answer =
        ((commandNames rs).bind (nameTexts 0)).map fun names =>
          .error (ambiguity line names) := by
      obtain _ | ⟨a, _ | ⟨b, rest⟩⟩ := rs
      · cases several
      · simp at several
      · exact one
    cases read : (commandNames rs).bind (nameTexts 0) with
    | error fault =>
      rw [read] at one
      refine .inl ⟨fault, one, ?_⟩
      by_contra named
      have all : ∀ r ∈ rs, Named r := fun r member =>
        Option.ne_none_iff_exists'.mp fun none => named (List.mem_map.mpr ⟨r, member, none⟩)
      obtain ⟨names, found⟩ := (exists_names_iff 0 _).mpr all
      rw [read] at found
      cases found
    | ok names =>
      rw [read] at one
      exact .inr ⟨names, (names_eq_ok_iff 0).mp read, one⟩

/-- A search that nothing stops and that finds one command fails only if the command does. -/
theorem processOne_ne_error_of_single (unfailed : p.Unfailed line target)
    (single : (p.candidates t line p.commands.values).length = 1) (failure : Failure) :
    (p.processOne line target).answer ≠ .ok (.error failure) := by
  cases checked : p.validator with
  | none =>
    simp only [searchStop?, candidates, checked, List.length_map] at unstopped single
    rw [answer_processOne_unchecked line checked resolved, unstopped]
    match found : p.commands.values.filterMap (Command.validated? line), single with
    | [v], _ =>
      intro failed
      have listed : v ∈ p.commands.values.filterMap (Command.validated? line) := by simp [found]
      obtain ⟨c, member, validated⟩ := List.mem_filterMap.mp listed
      rw [Command.validated?_eq_some_iff] at validated
      apply unfailed c member failure
      rw [answer_evaluate p t line resolved, trial_of_validated validated,
        ← Command.validate_command validated]
      replace failed : (v.command.produce v.params t.toValue).map (Except.map Execution.toValue) =
          .ok (.error failure) := failed
      match v.command.produce v.params t.toValue, failed with
      | .ok (.error other), failed =>
        cases failed
        rfl
  | some validator =>
    simp only [searchStop?, candidates, checked, List.length_map] at unstopped single
    rw [answer_processOne_checked line checked resolved, unstopped]
    match p.accepted t line p.commands.values, single with
    | [r], _ => simp

end Search

section Unfailed

variable (unfailed : p.Unfailed line target)
include unfailed

/-- If no command fails, only a fault stops the search. -/
theorem searchStop?_ne_ok (resolved : p.resolveTarget target = .ok (.ok t)) (failure : Failure) :
    p.searchStop? t line p.commands.values ≠ some (.ok failure) := by
  have never : ∀ c ∈ p.commands.values, Trial.stop? (p.trial t line c) ≠ some (.ok failure) := by
    intro c member stops
    apply unfailed c member failure
    rw [answer_evaluate p t line resolved]
    exact Trial.stop?_eq_ok_iff.mp stops
  intro stopped
  unfold searchStop? at stopped
  split at stopped
  · obtain ⟨c, member, here⟩ := List.exists_of_findSome?_eq_some stopped
    exact never c member (stop?_of_refusal here)
  · obtain ⟨c, member, here⟩ := List.exists_of_findSome?_eq_some stopped
    exact never c member here

/-- The search fails only for the destination, or where nothing stops it. -/
theorem failsFor_iff_of_unstopped {kind : FailureKind} (other : kind ≠ .format) :
    p.FailsFor line target kind ↔
      ∃ t, p.resolveTarget target = .ok (.ok t) ∧
        p.searchStop? t line p.commands.values = none ∧ p.FailsFor line target kind := by
  constructor
  · rintro ⟨failure, failed, detail⟩
    obtain ⟨t, resolved⟩ | ⟨stop, unresolved⟩ := p.resolveTarget_cases target
    · refine ⟨t, resolved, ?_, failure, failed, detail⟩
      match stopped : p.searchStop? t line p.commands.values with
      | none => rfl
      | some (.ok other) => exact absurd stopped (searchStop?_ne_ok unfailed resolved other)
      | some (.error fault) =>
        cases checked : p.validator with
        | none =>
          simp only [searchStop?, checked] at stopped
          rw [answer_processOne_unchecked line checked resolved, stopped] at failed
          cases failed
        | some validator =>
          simp only [searchStop?, checked] at stopped
          rw [answer_processOne_checked line checked resolved, stopped] at failed
          cases failed
    · rw [answer_processOne_unresolved _ _ unresolved] at failed
      cases stop with
      | error fault => cases failed
      | ok unknown =>
        obtain rfl := Except.error.inj (Except.ok.inj failed)
        rw [detail_of_unresolved unresolved] at detail
        cases detail
        exact absurd rfl other
  · rintro ⟨t, _, _, fails⟩
    exact fails

theorem failsFor_ambiguous_iff :
    p.FailsFor line target .ambiguous ↔
      ∃ t, p.resolveTarget target = .ok (.ok t) ∧
        p.searchStop? t line p.commands.values = none ∧
        2 ≤ (p.candidates t line p.commands.values).length ∧
        none ∉ p.candidates t line p.commands.values := by
  rw [failsFor_iff_of_unstopped unfailed (by decide)]
  refine exists_congr fun t => and_congr_right fun resolved => and_congr_right fun unstopped => ?_
  by_cases several : 2 ≤ (p.candidates t line p.commands.values).length
  · rw [and_iff_right several]
    obtain ⟨fault, one, unnamed⟩ | ⟨names, named, one⟩ :=
      answer_processOne_several resolved unstopped several
    · simp [FailsFor, one, unnamed]
    · simp [FailsFor, one, named, ambiguity, Failure.of]
  · refine iff_of_false ?_ (fun both => several both.1)
    rintro ⟨failure, failed, detail⟩
    by_cases single : (p.candidates t line p.commands.values).length = 1
    · exact processOne_ne_error_of_single resolved unstopped unfailed single failure failed
    · have empty : p.candidates t line p.commands.values = [] :=
        List.eq_nil_of_length_eq_zero (by omega)
      rw [answer_processOne_none resolved unstopped empty] at failed
      split at failed
      · obtain ⟨none, said, same⟩ := except_map_eq_ok_iff.mp failed
        obtain rfl := Except.error.inj same
        rw [detail_of_noMatch said] at detail
        cases detail
      · cases failed
        cases detail

theorem failsFor_noMatch_iff :
    p.FailsFor line target .noMatch ↔
      ∃ t, p.resolveTarget target = .ok (.ok t) ∧
        p.searchStop? t line p.commands.values = none ∧
        p.candidates t line p.commands.values = [] ∧
        p.rejections t line p.commands.values = [] ∧ line.sayable = true := by
  rw [failsFor_iff_of_unstopped unfailed (by decide)]
  refine exists_congr fun t => and_congr_right fun resolved => and_congr_right fun unstopped => ?_
  by_cases empty : p.candidates t line p.commands.values = []
  · rw [and_iff_right empty, ← List.getLast?_eq_none_iff, FailsFor,
      answer_processOne_none resolved unstopped empty]
    cases (p.rejections t line p.commands.values).getLast? with
    | some rejection => simp [fail, Failure.of]
    | none =>
      cases sayable : line.sayable with
      | true => simp [noMatch_of_sayable sayable, Except.map, absence, Failure.of]
      | false => simp [noMatch_of_not_sayable sayable, Except.map]
  · refine iff_of_false ?_ (fun both => empty both.1)
    rintro ⟨failure, failed, detail⟩
    by_cases single : (p.candidates t line p.commands.values).length = 1
    · exact processOne_ne_error_of_single resolved unstopped unfailed single failure failed
    · have several : 2 ≤ (p.candidates t line p.commands.values).length := by
        have some := List.length_pos_iff.mpr empty
        omega
      obtain ⟨fault, one, _⟩ | ⟨names, _, one⟩ :=
        answer_processOne_several resolved unstopped several
      · rw [one] at failed
        cases failed
      · rw [one] at failed
        cases failed
        cases detail

end Unfailed

/-! ### Other orders -/

/-- The same commands in another order, with the same validator and the same destination. -/
structure Reorders (q p : Processor) : Prop where
  commands : q.commands.values.Perm p.commands.values
  validator : q.validator = p.validator
  target : q.target = p.target

namespace Reorders

theorem resolveTarget (same : q.Reorders p) (target : Value) :
    q.resolveTarget target = p.resolveTarget target := by
  simp only [Processor.resolveTarget, same.target]

theorem trial (same : q.Reorders p) (t : FormatTarget) (line : Value) :
    q.trial t line = p.trial t line := by
  funext c
  exact congrArg Act.answer (evaluateFor_congr same.validator t line c)

theorem unstopped_iff (same : q.Reorders p) :
    q.stop? t line q.commands.values = none ↔ p.stop? t line p.commands.values = none := by
  simp only [stop?, List.findSome?_eq_none_iff, same.trial, same.commands.mem_iff]

theorem accepted (same : q.Reorders p) (t : FormatTarget) (line : Value) :
    (q.accepted t line q.commands.values).Perm (p.accepted t line p.commands.values) := by
  simp only [Processor.accepted, same.trial]
  exact same.commands.filterMap _

theorem rejections (same : q.Reorders p) (t : FormatTarget) (line : Value) :
    (q.rejections t line q.commands.values).Perm (p.rejections t line p.commands.values) := by
  simp only [Processor.rejections, same.trial]
  exact same.commands.filterMap _

theorem searchStop?_eq_none_iff (same : q.Reorders p) :
    q.searchStop? t line q.commands.values = none ↔
      p.searchStop? t line p.commands.values = none := by
  unfold searchStop?
  rw [same.validator]
  cases p.validator with
  | none => simp only [List.findSome?_eq_none_iff, same.commands.mem_iff]
  | some validator => exact same.unstopped_iff

theorem candidates (same : q.Reorders p) (t : FormatTarget) (line : Value) :
    (q.candidates t line q.commands.values).Perm (p.candidates t line p.commands.values) := by
  unfold Processor.candidates
  rw [same.validator]
  cases p.validator with
  | none => exact (same.commands.filterMap _).map _
  | some validator => exact (same.accepted t line).map _

theorem rejections_eq_nil_iff (same : q.Reorders p) :
    q.rejections t line q.commands.values = [] ↔ p.rejections t line p.commands.values = [] := by
  rw [← List.length_eq_zero_iff, ← List.length_eq_zero_iff, (same.rejections t line).length_eq]

theorem unfailed (same : q.Reorders p) (unfailed : p.Unfailed line target) :
    q.Unfailed line target := by
  intro c member failure failed
  apply unfailed c (same.commands.mem_iff.mp member) failure
  rw [← failed]
  simp only [evaluate, evaluateFor_congr same.validator, same.resolveTarget]

end Reorders

/-- The search for the only result reports several candidates, the commands with the names. The list
of all results, if there is one, says the same of the commands; with a validator there is. -/
structure AmbiguousAmong (p : Processor) (line target : Value) (names : List String) : Prop where
  several : 2 ≤ names.length
  candidates : ∃ t, p.resolveTarget target = .ok (.ok t) ∧
    p.candidates t line p.commands.values = names.map some
  failure : (p.processOne line target).answer = .ok (.error (ambiguity line names))
  of_results : ∀ rs, (p.processAll line target).answer = .ok (.ok rs) →
    rs.map Value.commandName? = names.map some
  exists_results : p.validator = none ∨ ∃ rs, (p.processAll line target).answer = .ok (.ok rs)

theorem AmbiguousAmong.of_listed {rs : List Value} {names : List String}
    (all : (p.processAll line target).answer = .ok (.ok rs)) (several : 2 ≤ rs.length)
    (named : rs.map Value.commandName? = names.map some)
    (one : (p.processOne line target).answer = .ok (.error (ambiguity line names))) :
    p.AmbiguousAmong line target names where
  several := by
    have size := congrArg List.length named
    rw [List.length_map, List.length_map] at size
    omega
  candidates := by
    obtain ⟨t, resolved, unstopped, rfl, _⟩ := processAll_eq_ok_iff.mp all
    exact ⟨t, resolved, (candidates_of_unstopped unstopped).trans named⟩
  failure := one
  of_results rs' all' := by
    obtain rfl := Except.ok.inj (Except.ok.inj (all.symm.trans all'))
    exact named
  exists_results := .inr ⟨rs, all⟩

theorem exists_ambiguousAmong (unfailed : p.Unfailed line target)
    (ambiguous : p.FailsFor line target .ambiguous) :
    ∃ names, p.AmbiguousAmong line target names := by
  obtain ⟨t, resolved, unstopped, several, named⟩ := (failsFor_ambiguous_iff unfailed).mp ambiguous
  obtain ⟨_, _, unnamed⟩ | ⟨names, found, one⟩ :=
    answer_processOne_several resolved unstopped several
  · exact absurd unnamed named
  · refine ⟨names, ?_, ⟨t, resolved, found⟩, one, ?_, ?_⟩
    · simpa [found] using several
    · intro rs all
      obtain ⟨t', resolved', quiet, rfl, _⟩ := processAll_eq_ok_iff.mp all
      obtain rfl : t' = t := Except.ok.inj (Except.ok.inj (resolved'.symm.trans resolved))
      rw [← found, candidates_of_unstopped quiet]
    · cases checked : p.validator with
      | none => exact .inl rfl
      | some validator =>
        simp only [searchStop?, Processor.candidates, checked, List.length_map] at unstopped several
        refine .inr ⟨_, processAll_eq_ok_iff.mpr ⟨t, resolved, unstopped, rfl, fun none => ?_⟩⟩
        rw [none] at several
        cases several

/-- What the order of registration leaves as it is. -/
structure OrderFree (q p : Processor) (line target : Value) : Prop where
  one_iff : ∀ r, (q.processOne line target).answer = .ok (.ok r) ↔
    (p.processOne line target).answer = .ok (.ok r)
  all_iff : (∃ rs, (q.processAll line target).answer = .ok (.ok rs)) ↔
    ∃ rs, (p.processAll line target).answer = .ok (.ok rs)
  all_perm : ∀ rs rs', (q.processAll line target).answer = .ok (.ok rs) →
    (p.processAll line target).answer = .ok (.ok rs') → rs.Perm rs'
  ambiguous_iff : p.Unfailed line target →
    (q.FailsFor line target .ambiguous ↔ p.FailsFor line target .ambiguous)
  /-- The candidates are the same. -/
  candidates : p.Unfailed line target → p.FailsFor line target .ambiguous →
    ∃ names names', q.AmbiguousAmong line target names ∧ p.AmbiguousAmong line target names' ∧
      names.Perm names'
  noMatch_iff : p.Unfailed line target →
    (q.FailsFor line target .noMatch ↔ p.FailsFor line target .noMatch)

/-- The order of registration decides neither the only result nor which results there are. Where no
command fails, it does not decide whether the line is ambiguous, and among which commands. -/
theorem orderFree_of_reorders (q p : Processor) (line target : Value) (same : q.Reorders p) :
    q.OrderFree p line target := by
  have ambiguous_iff : p.Unfailed line target →
      (q.FailsFor line target .ambiguous ↔ p.FailsFor line target .ambiguous) := by
    intro unfailed
    rw [failsFor_ambiguous_iff unfailed, failsFor_ambiguous_iff (same.unfailed unfailed)]
    simp only [same.resolveTarget, same.searchStop?_eq_none_iff, (same.candidates _ _).length_eq,
      (same.candidates _ _).mem_iff]
  have all_perm : ∀ rs rs', (q.processAll line target).answer = .ok (.ok rs) →
      (p.processAll line target).answer = .ok (.ok rs') → rs.Perm rs' := by
    intro rs rs' here there
    obtain ⟨t, resolved, _, rfl, _⟩ := processAll_eq_ok_iff.mp here
    obtain ⟨t', resolved', _, rfl, _⟩ := processAll_eq_ok_iff.mp there
    rw [same.resolveTarget, resolved'] at resolved
    obtain rfl := Except.ok.inj (Except.ok.inj resolved)
    exact same.accepted t' line
  constructor
  case one_iff =>
    intro r
    rw [processOne_eq_ok_iff, processOne_eq_ok_iff]
    simp only [same.resolveTarget, same.unstopped_iff, ← List.perm_singleton]
    refine exists_congr fun t => and_congr_right fun _ => and_congr_right fun _ => ?_
    exact ⟨(same.accepted t line).symm.trans, (same.accepted t line).trans⟩
  case all_iff =>
    -- There are results or rejections in one order just if there are as many in the other.
    simp only [processAll_eq_ok_iff, same.resolveTarget, same.unstopped_iff]
    rw [exists_comm, @exists_comm (List Value)]
    refine exists_congr fun t => ?_
    simp only [exists_and_left, exists_eq_left', ← List.length_eq_zero_iff,
      (same.accepted t line).length_eq, (same.rejections t line).length_eq]
  case all_perm => exact all_perm
  case ambiguous_iff => exact ambiguous_iff
  case candidates =>
    intro unfailed ambiguous
    obtain ⟨names, here⟩ :=
      exists_ambiguousAmong (same.unfailed unfailed) ((ambiguous_iff unfailed).mpr ambiguous)
    obtain ⟨names', there⟩ := exists_ambiguousAmong unfailed ambiguous
    refine ⟨names, names', here, there, ?_⟩
    obtain ⟨t, resolved, named⟩ := here.candidates
    obtain ⟨t', resolved', named'⟩ := there.candidates
    rw [same.resolveTarget, resolved'] at resolved
    obtain rfl := Except.ok.inj (Except.ok.inj resolved)
    have moved := same.candidates t' line
    rw [named, named'] at moved
    exact (List.map_perm_map_iff (Option.some_injective _)).mp moved
  case noMatch_iff =>
    intro unfailed
    rw [failsFor_noMatch_iff unfailed, failsFor_noMatch_iff (same.unfailed unfailed)]
    simp only [same.resolveTarget, same.searchStop?_eq_none_iff, same.rejections_eq_nil_iff,
      ← List.length_eq_zero_iff, (same.candidates _ _).length_eq]

/-- The commands of `agreeing`, the other way round. -/
def agreeingReversed : Processor := { agreeing with commands := ⟨agreeing.commands.entries.reverse⟩ }

theorem orderFree_agreeing :
    agreeingReversed.Reorders agreeing ∧ agreeing.Unfailed (.text "x y") .none ∧
      agreeing.AmbiguousAmong (.text "x y") .none ["one", "two"] ∧
      agreeingReversed.AmbiguousAmong (.text "x y") .none ["two", "one"] ∧
      agreeingReversed.OrderFree agreeing (.text "x y") .none := by
  have same : agreeingReversed.Reorders agreeing := ⟨List.Perm.swap _ _ [], rfl, rfl⟩
  have unfailed : agreeing.Unfailed (.text "x y") .none := by
    intro c member failure failed
    simp only [agreeing, NameTable.values, List.map_cons, List.map_nil, List.mem_cons,
      List.not_mem_nil, or_false] at member
    obtain rfl | rfl := member <;> cases failed
  refine ⟨same, unfailed, .of_listed answer_agreeing (by decide) (by rfl) (by rfl), ?_, ?_⟩
  · have reversed : (agreeingReversed.processAll (.text "x y") .none).answer =
        .ok (.ok agreed.reverse) := by rfl
    exact .of_listed reversed (by decide) (by rfl) (by rfl)
  exact agreeingReversed.orderFree_of_reorders agreeing (.text "x y") .none same

end Processor
end LineCommand
