import LineCommand.Proofs.Dispatch.Registration
import LineCommand.Proofs.Dispatch.Uniqueness

/-! The first result against the list of all results. The search for the first result goes the way
of the sweep until a result is accepted; what lies behind that result can only end the sweep. -/
namespace LineCommand
namespace Processor

variable {p : Processor} {t : FormatTarget} {line target : Value}

/-! ### What ends the search -/

def final? (p : Processor) (t : FormatTarget) (line : Value) (cs : List Command) :
    Option (Except Fault (Outcome Value)) :=
  cs.findSome? fun c => Trial.final? (p.trial t line c)

/-- If nothing stops a sweep, the search for the first result ends with the first one accepted. -/
theorem final?_of_unstopped {cs : List Command} (unstopped : p.stop? t line cs = none) :
    p.final? t line cs = (p.accepted t line cs).head?.map fun r => .ok (.ok r) := by
  rw [stop?, List.findSome?_eq_none_iff] at unstopped
  have ends : cs.filterMap (fun c => Trial.final? (p.trial t line c)) =
      (p.accepted t line cs).map fun r => .ok (.ok r) := by
    rw [accepted, List.map_filterMap]
    exact List.filterMap_congr fun c member => Trial.final?_of_unstopped (unstopped c member)
  rw [final?, ← List.head?_filterMap, ends, List.head?_map]

/-- What stops a sweep ends the search for the first result, unless a result is accepted before. -/
theorem final?_of_stopped {cs : List Command} {stop : Except Fault Failure}
    (stopped : p.stop? t line cs = some stop) :
    p.final? t line cs = some (stop.map .error) ∨ ∃ r, p.final? t line cs = some (.ok (.ok r)) := by
  obtain ⟨before, c, after, rfl, here, quiet⟩ := List.findSome?_eq_some_iff.mp stopped
  have front := final?_of_unstopped (p := p) (t := t) (List.findSome?_eq_none_iff.mpr quiet)
  simp only [final?, List.findSome?_append, List.findSome?_cons,
    Trial.final?_of_stop? here] at front ⊢
  rw [front]
  cases (p.accepted t line before).head? with
  | none => exact .inl rfl
  | some r => exact .inr ⟨r, rfl⟩

/-! ### Precedence -/

/-- The command does not match the line, or the validator turns its result down. -/
def PassesOver (p : Processor) (line target : Value) (c : Command) : Prop :=
  (p.evaluate c line target).answer = .ok .notMatched ∨
    ∃ reason, (p.evaluate c line target).answer = .ok (.rejected reason)

/-- The first command not passed over is `c`, and its result is accepted. -/
structure FirstAccepted (p : Processor) (line target : Value) (before : List Command) (c : Command)
    (r : Value) : Prop where
  passed : ∀ b ∈ before, p.PassesOver line target b
  accepted : (p.evaluate c line target).answer = .ok (.accepted r)

/-- What the first result and all results of a line have to do with each other. -/
structure FirstHeadsAll (p : Processor) (line target : Value) : Prop where
  of_results : ∀ r rest, (p.processAll line target).answer = .ok (.ok (r :: rest)) →
    (p.processFirst line target).answer = .ok (.ok r)
  of_none : (p.processAll line target).answer = .ok (.ok []) →
    (p.processFirst line target).answer = .ok (.error (absence line))
  of_failure : ∀ failure, (p.processFirst line target).answer = .ok (.error failure) →
    (p.processAll line target).answer ≠ .ok (.ok []) →
      (p.processAll line target).answer = .ok (.error failure)
  /-- The list starts with the first result, or is the failure of a later command. -/
  of_success : ∀ r, (p.processFirst line target).answer = .ok (.ok r) →
    (∃ rest, (p.processAll line target).answer = .ok (.ok (r :: rest))) ∨
      ∃ before c between d after failure,
        p.commands.values = before ++ c :: (between ++ d :: after) ∧
        p.FirstAccepted line target before c r ∧
        (p.evaluate d line target).answer = .ok (.failed failure) ∧
        (p.processAll line target).answer = .ok (.error failure)

/-- Which executors the two run. -/
structure RunsInOrder (p : Processor) (line target : Value) : Prop where
  first_prefix : (p.processFirst line target).runs <+: (p.processAll line target).runs
  /-- Executors run in the order of registration. -/
  registered : (p.processAll line target).runs.Sublist (p.commands.values.map (·.name))
  nodup : (p.processAll line target).runs.Nodup

/-- A command that faults when it is tried stands behind one whose result is the first to be accepted,
and none in between fails. -/
def FaultsBehindFirst (p : Processor) (line target : Value) : Prop :=
  ∃ before c between d after r fault,
    p.commands.values = before ++ c :: (between ++ d :: after) ∧
    p.FirstAccepted line target before c r ∧
    (∀ b ∈ between, Trial.stop? (p.evaluate b line target).answer = none) ∧
    (p.evaluate d line target).answer = .error fault

/-! ### Behind the first result -/

theorem passesOver_iff (resolved : p.resolveTarget target = .ok (.ok t)) {c : Command} :
    p.PassesOver line target c ↔ Trial.final? (p.trial t line c) = none := by
  rw [PassesOver, answer_evaluate p t line resolved]
  cases p.trial t line c with
  | error fault => simp [Trial.final?]
  | ok evaluation => cases evaluation <;> simp [Trial.final?]

theorem final?_eq_result_iff (resolved : p.resolveTarget target = .ok (.ok t)) {cs : List Command}
    {r : Value} :
    p.final? t line cs = some (.ok (.ok r)) ↔
      ∃ before c after, cs = before ++ c :: after ∧ p.FirstAccepted line target before c r := by
  rw [final?, List.findSome?_eq_some_iff]
  constructor
  · rintro ⟨before, c, after, rfl, here, quiet⟩
    refine ⟨before, c, after, rfl,
      fun b member => (passesOver_iff resolved).mpr (quiet b member), ?_⟩
    rw [answer_evaluate p t line resolved]
    unfold Trial.final? at here
    split at here <;> simp_all
  · rintro ⟨before, c, after, rfl, passed, accepted⟩
    refine ⟨before, c, after, rfl, ?_,
      fun b member => (passesOver_iff resolved).mp (passed b member)⟩
    rw [answer_evaluate p t line resolved] at accepted
    rw [accepted]
    rfl

/-- The first result and what comes before it do not stop a sweep. -/
theorem stop?_behind (resolved : p.resolveTarget target = .ok (.ok t)) {before after : List Command}
    {c : Command} {r : Value} (first : p.FirstAccepted line target before c r) :
    p.stop? t line (before ++ c :: after) = p.stop? t line after := by
  have front : before.findSome? (fun c => Trial.stop? (p.trial t line c)) = none :=
    List.findSome?_eq_none_iff.mpr fun b member =>
      (Trial.final?_eq_none_iff.mp ((passesOver_iff resolved).mp (first.passed b member))).1
  have here := first.accepted
  rw [answer_evaluate p t line resolved] at here
  simp only [stop?, List.findSome?_append, front, List.findSome?_cons, here, Option.none_or]
  rfl

/-- A fault behind the first result shows in what ends the two loops. -/
theorem faultsBehindFirst_iff (resolved : p.resolveTarget target = .ok (.ok t)) :
    p.FaultsBehindFirst line target ↔
      ∃ r fault, p.final? t line p.commands.values = some (.ok (.ok r)) ∧
        p.stop? t line p.commands.values = some (.error fault) := by
  constructor
  · rintro ⟨before, c, between, d, after, r, fault, table, first, quiet, faulted⟩
    refine ⟨r, fault, (final?_eq_result_iff resolved).mpr ⟨before, c, _, table, first⟩, ?_⟩
    rw [table, stop?_behind resolved first]
    refine List.findSome?_eq_some_iff.mpr ⟨between, d, after, rfl, ?_, ?_⟩
    · rw [answer_evaluate p t line resolved] at faulted
      exact Trial.stop?_eq_error_iff.mpr faulted
    · intro b member
      rw [← answer_evaluate p t line resolved]
      exact quiet b member
  · rintro ⟨r, fault, ended, stopped⟩
    obtain ⟨before, c, rest, table, first⟩ := (final?_eq_result_iff resolved).mp ended
    rw [table, stop?_behind resolved first] at stopped
    obtain ⟨between, d, after, rfl, here, quiet⟩ := List.findSome?_eq_some_iff.mp stopped
    refine ⟨before, c, between, d, after, r, fault, table, first, ?_, ?_⟩
    · intro b member
      rw [answer_evaluate p t line resolved]
      exact quiet b member
    · rw [answer_evaluate p t line resolved]
      exact Trial.stop?_eq_error_iff.mp here

/-! ### Executors -/

theorem runs_processAll (p : Processor) (line target : Value) :
    (p.processAll line target).runs =
      match p.resolveTarget target with
      | .ok (.ok t) => (p.sweep t line p.commands.values).runs
      | _ => [] := by
  simp only [processAll, Act.runs_bind, Act.runs_ofExcept, Act.answer_ofExcept, List.nil_append]
  obtain fault | failure | t := p.resolveTarget target
  · rfl
  · rfl
  · simp only [Act.runs_bind]
    -- However the sweep ends, nothing runs behind it.
    obtain fault | failure | ⟨_ | _, _ | _⟩ := (p.sweep t line p.commands.values).answer
    all_goals exact List.append_nil _

theorem runs_processFirst_prefix (p : Processor) (line target : Value) :
    (p.processFirst line target).runs <+: (p.processAll line target).runs := by
  rw [runs_processAll]
  simp only [processFirst, Act.runs_bind, Act.runs_ofExcept, Act.answer_ofExcept, List.nil_append]
  obtain fault | failure | t := p.resolveTarget target
  · exact List.prefix_refl _
  · exact List.prefix_refl _
  · exact p.runs_firstAccepted_prefix t line none p.commands.values

theorem runs_processAll_sublist (p : Processor) (line target : Value) :
    (p.processAll line target).runs.Sublist (p.commands.values.map (·.name)) := by
  rw [runs_processAll]
  split
  · exact p.runs_sweep_sublist _ line p.commands.values
  · exact List.nil_sublist _

theorem runsInOrder (registered : p.Registered) : p.RunsInOrder line target where
  first_prefix := p.runs_processFirst_prefix line target
  registered := p.runs_processAll_sublist line target
  nodup := registered.nodup.sublist (p.runs_processAll_sublist line target)

/-! ### Agreement -/

theorem FirstHeadsAll.of_failures {failure : Failure}
    (all : (p.processAll line target).answer = .ok (.error failure))
    (first : (p.processFirst line target).answer = .ok (.error failure)) :
    p.FirstHeadsAll line target := by
  refine ⟨?_, ?_, ?_, ?_⟩ <;> simp [all, first]

theorem FirstHeadsAll.of_faults {f g : Fault}
    (all : (p.processAll line target).answer = .error f)
    (first : (p.processFirst line target).answer = .error g) : p.FirstHeadsAll line target := by
  refine ⟨?_, ?_, ?_, ?_⟩ <;> simp [all, first]

theorem answer_processFirst_unresolved (line : Value) (stop : Except Fault Failure)
    (unresolved : p.resolveTarget target = stop.map .error) :
    (p.processFirst line target).answer = stop.map .error := by
  simp only [processFirst, unresolved, Act.answer_bind, Act.answer_ofExcept]
  cases stop <;> rfl

theorem firstHeadsAll_unresolved {stop : Except Fault Failure}
    (unresolved : p.resolveTarget target = stop.map .error) : p.FirstHeadsAll line target := by
  have all := answer_processAll_unresolved line stop unresolved
  have first := answer_processFirst_unresolved line stop unresolved
  cases stop with
  | error fault => exact .of_faults all first
  | ok failure => exact .of_failures all first

theorem Unsaid.not_firstHeadsAll (unsaid : p.Unsaid line target) :
    ¬ p.FirstHeadsAll line target := by
  obtain ⟨⟨t, resolved⟩, empty, mute⟩ := unsaid
  intro heads
  have all : (p.processAll line target).answer = .ok (.ok []) := by
    rw [answer_processAll line resolved, empty]
    rfl
  have first : (p.processFirst line target).answer = (noMatch line).map .error := by
    rw [answer_processFirst line resolved, empty]
    rfl
  rw [heads.of_none all, noMatch_of_not_sayable mute] at first
  cases first

/-- Where nothing stops the sweep, the two end alike. -/
theorem firstHeadsAll_unstopped (resolved : p.resolveTarget target = .ok (.ok t))
    (heard : ¬ p.Unsaid line target) (unstopped : p.stop? t line p.commands.values = none) :
    p.FirstHeadsAll line target := by
  have all := answer_processAll line resolved
  have first := answer_processFirst line resolved
  have ended := final?_of_unstopped unstopped
  rw [final?] at ended
  rw [unstopped] at all
  rw [ended] at first
  cases results : p.accepted t line p.commands.values with
  | cons r rest =>
    rw [results] at all first
    refine ⟨?_, ?_, ?_, ?_⟩ <;> simp [all, first]
  | nil =>
    rw [results] at all first
    cases rejected : (p.rejections t line p.commands.values).getLast? with
    | none =>
      have told := noMatch_of_sayable (sayable_of_unstopped resolved heard unstopped)
      rw [rejected] at all first
      simp only [nothingFound, told] at first
      refine ⟨?_, ?_, ?_, ?_⟩ <;> simp [all, first, Except.map]
    | some reason =>
      rw [rejected] at all first
      exact .of_failures all first

theorem firstHeadsAll_stopped_iff (resolved : p.resolveTarget target = .ok (.ok t))
    {stop : Except Fault Failure} (stopped : p.stop? t line p.commands.values = some stop) :
    p.FirstHeadsAll line target ↔ ¬ p.FaultsBehindFirst line target := by
  have all := answer_processAll line resolved
  have first := answer_processFirst line resolved
  rw [faultsBehindFirst_iff resolved]
  rw [stopped] at all ⊢
  obtain ended | ⟨r, ended⟩ := final?_of_stopped stopped
  · rw [final?] at ended
    rw [ended] at first
    have agrees : p.FirstHeadsAll line target := by
      cases stop with
      | ok failure => exact .of_failures all first
      | error fault => refine ⟨?_, ?_, ?_, ?_⟩ <;> simp [all, first, Except.map]
    cases stop <;> simp [agrees, final?, ended, Except.map]
  · have front := (final?_eq_result_iff resolved).mp ended
    rw [ended]
    rw [final?] at ended
    rw [ended] at first
    cases stop with
    | error fault =>
      have differs : ¬ p.FirstHeadsAll line target := by
        intro agrees
        obtain ⟨rest, listed⟩ | ⟨_, _, _, _, _, failure, _, _, _, failed⟩ :=
          agrees.of_success r first
        · rw [all] at listed
          cases listed
        · rw [all] at failed
          cases failed
      simp [differs]
    | ok failure =>
      obtain ⟨before, c, rest, table, accepted⟩ := front
      have behind := stopped
      rw [table, stop?_behind resolved accepted] at behind
      obtain ⟨between, d, after, rfl, here, _⟩ := List.findSome?_eq_some_iff.mp behind
      have failed : (p.evaluate d line target).answer = .ok (.failed failure) := by
        rw [answer_evaluate p t line resolved]
        exact Trial.stop?_eq_ok_iff.mp here
      have agrees : p.FirstHeadsAll line target := by
        refine ⟨by simp [all], by simp [all], by simp [first], fun r' found => .inr ?_⟩
        obtain rfl : r = r' := Except.ok.inj (Except.ok.inj (first.symm.trans found))
        exact ⟨before, c, between, d, after, failure, table, accepted, failed, all⟩
      simp [agrees]

theorem firstHeadsAll_iff_clear (p : Processor) (line target : Value) :
    p.FirstHeadsAll line target ↔
      ¬ p.FaultsBehindFirst line target ∧ ¬ p.Unsaid line target := by
  obtain ⟨t, resolved⟩ | ⟨stop, unresolved⟩ := p.resolveTarget_cases target
  · by_cases heard : p.Unsaid line target
    · simp [heard, heard.not_firstHeadsAll]
    · rw [and_iff_left heard]
      cases stopped : p.stop? t line p.commands.values with
      | some stop => exact firstHeadsAll_stopped_iff resolved stopped
      | none =>
        rw [faultsBehindFirst_iff resolved, stopped]
        simp [firstHeadsAll_unstopped resolved heard stopped]
  · refine iff_of_true (firstHeadsAll_unresolved unresolved) ⟨?_, ?_⟩
    · rintro ⟨_, c, _, _, _, r, _, _, first, _⟩
      have accepted := first.accepted
      simp only [evaluate, unresolved, Act.answer_bind, Act.answer_ofExcept] at accepted
      cases stop <;> cases accepted
    · rintro ⟨⟨t, resolved⟩, _⟩
      exact resolveTarget_ne unresolved t resolved

/-- The first result heads the list of all results exactly if no fault lies behind it and there is no
call for a failure that cannot be told. Commands whose grammars declare no negative number of groups,
nor more than can be written, cause no such fault where users' functions tell what they raise. The
executors run in order either way. -/
theorem firstHeadsAll_iff (p : Processor) (line target : Value) (registered : p.Registered) :
    (p.FirstHeadsAll line target ↔
        ¬ p.FaultsBehindFirst line target ∧ ¬ p.Unsaid line target) ∧
      ((∀ c ∈ p.commands.values, c.Settles) → p.Tells →
        (p.commands.values = [] → line.sayable = true) → p.FirstHeadsAll line target) ∧
      p.RunsInOrder line target := by
  have decided := p.firstHeadsAll_iff_clear line target
  refine ⟨decided, fun settles tells said => decided.mpr ⟨?_, ?_⟩, runsInOrder registered⟩
  · rintro ⟨before, c, between, d, after, r, fault, table, first, _, faulted⟩
    have member : d ∈ p.commands.values := by simp [table]
    obtain ⟨t, resolved⟩ | ⟨stop, unresolved⟩ := p.resolveTarget_cases target
    · rw [answer_evaluate p t line resolved] at faulted
      have accepted := first.accepted
      rw [answer_evaluate p t line resolved] at accepted
      obtain ⟨s, text⟩ := exists_text?_of_trial p t line accepted nofun
      obtain ⟨fault, validated⟩ | choked := trial_eq_error_iff.mp ⟨fault, faulted⟩
      · obtain ⟨outcome, answered⟩ := (settles d member).validate (Value.writable_of_text? text)
        rw [answered] at validated
        cases validated
      · exact tells.not_chokes member t line choked
    · have accepted := first.accepted
      simp only [evaluate, unresolved, Act.answer_bind, Act.answer_ofExcept] at accepted
      cases stop <;> cases accepted
  · rintro ⟨_, empty, mute⟩
    rw [said empty] at mute
    cases mute

theorem tells_guarded : guarded.Tells where
  executors c member := by
    simp only [guarded, NameTable.values, List.map_cons, List.map_nil, List.mem_cons,
      List.not_mem_nil, or_false] at member
    rintro v ⟨fault, raised, _⟩
    obtain rfl | rfl := member
    all_goals cases raised
  formatters c member e listed := by
    simp only [guarded, NameTable.values, List.map_cons, List.map_nil, List.mem_cons,
      List.not_mem_nil, or_false] at member
    obtain rfl | rfl := member
    all_goals cases listed
  validator f checked v := by
    obtain rfl : onlyOne = f := Option.some.inj checked
    rintro ⟨fault, raised, _⟩
    cases raised

theorem firstHeadsAll_guarded :
    guarded.Registered ∧ guarded.FirstHeadsAll (.text "x y") .none := by
  have created : (create guarded.commands.values (some onlyOne) (.text "text")).answer =
      .ok guarded := by rfl
  have registered := registered_of_create created
  exact ⟨registered, (guarded.firstHeadsAll_iff (.text "x y") .none registered).2.1 settles_guarded
    tells_guarded nofun⟩

/-- Two commands for the same lines. The one in front succeeds, the one behind counts its groups
wrongly, though their sum is right. -/
def overtaken : Processor :=
  let answering (name : String) := Command.bare name (fun _ => .ok (.success (.text "ok")))
  { commands := ⟨[⟨"one", "one", answering "one" (.letterPair ⟨"a", 0⟩ ⟨"b", 0⟩)⟩,
      ⟨"two", "two", answering "two" (.letterPair ⟨"c", -1⟩ ⟨"d", 1⟩)⟩]⟩
    validator := none
    target := .text }

/-- A field that declares a negative number of groups brings a fault into the list of all results,
where there is a first result. -/
theorem not_firstHeadsAll_overtaken :
    let fields : List Field :=
      [⟨"a", "\\w", false, 0⟩, ⟨"b", "\\w", false, 0⟩, ⟨"c", "\\w", false, -1⟩,
        ⟨"d", "\\w", false, 1⟩]
    GrammarBuilder.grammar? fields (Grammar.reference "a" ++ " " ++ Grammar.reference "b") =
        some (.letterPair ⟨"a", 0⟩ ⟨"b", 0⟩) ∧
      GrammarBuilder.grammar? fields (Grammar.reference "c" ++ " " ++ Grammar.reference "d") =
        some (.letterPair ⟨"c", -1⟩ ⟨"d", 1⟩) ∧
      (create overtaken.commands.values none (.text "text")).answer = .ok overtaken ∧
      ¬ overtaken.FirstHeadsAll (.text "x y") .none := by
  refine ⟨by decide +kernel, by decide +kernel, by rfl, ?_⟩
  rw [firstHeadsAll_iff_clear]
  rintro ⟨clear, _⟩
  refine clear ⟨[], _, [], _, [], .execution "one" (.text "ok") "ok",
    .of .badIndex "tuple index out of range", rfl, ⟨nofun, ?_⟩, nofun, ?_⟩
  all_goals
    rw [answer_evaluate _ .text _ rfl, trial_eq, Command.answer_validate]
    rfl

end Processor
end LineCommand
