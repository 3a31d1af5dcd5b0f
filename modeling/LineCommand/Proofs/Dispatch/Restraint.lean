import LineCommand.Proofs.Dispatch.Phases

/-! What the search for the only result runs where no validator is asked. Every command matches and
converts the line before any of them runs, so nothing runs unless the whole table agrees on one
command. -/
namespace LineCommand

namespace Command

variable {c : Command} {line : Value}

/-- The line matches, and its texts are converted to parameters. -/
def Takes (c : Command) (line params : Value) : Prop :=
  ∃ texts, (c.grammar.parse line).answer = .ok (.ok (some texts)) ∧
    c.converter.convert texts.toValue = .ok (.ok params)

/-- Matching or converting the line ends in a failure or in a fault. -/
def Fails (c : Command) (line : Value) : Prop :=
  (∀ texts?, (c.grammar.parse line).answer ≠ .ok (.ok texts?)) ∨
    ∃ texts, (c.grammar.parse line).answer = .ok (.ok (some texts)) ∧
      ∀ params, c.converter.convert texts.toValue ≠ .ok (.ok params)

theorem takes_iff {params : Value} :
    c.Takes line params ↔ c.validated? line = some ⟨c, params⟩ := by
  unfold Takes validated?
  rw [answer_validate]
  constructor
  · rintro ⟨texts, parsed, converted⟩
    rw [parsed]
    dsimp only
    rw [converted]
  · intro validated
    split at validated
    case h_2 => cases validated
    case h_1 v? answered =>
      split at answered
      case h_4 texts parsed =>
        refine ⟨texts, parsed, ?_⟩
        split at answered <;> cases answered
        rename_i converted
        cases validated
        exact converted
      all_goals
        cases answered
        try cases validated

theorem fails_iff : c.Fails line ↔ ∃ refusal, c.refusal? line = some refusal := by
  unfold Fails refusal?
  rw [answer_validate]
  match parsed : (c.grammar.parse line).answer with
  | .error fault => simp
  | .ok (.error failure) => simp
  | .ok (.ok none) => simp
  | .ok (.ok (some texts)) =>
    match converted : c.converter.convert texts.toValue with
    | .error fault => simp [converted]
    | .ok (.error failure) => simp [converted]
    | .ok (.ok params) => simp [converted]

theorem validated?_command {v : ValidatedCommand} (validated : c.validated? line = some v) :
    v.command = c := by
  unfold validated? at validated
  split at validated
  case h_1 v? answered =>
    cases validated
    exact validate_command answered
  case h_2 => cases validated

end Command

namespace Processor

variable {p : Processor} {t : FormatTarget} {line target params : Value} {c : Command}

/-- One command takes the line, no other one does, and none fails. -/
structure Unambiguous (p : Processor) (line : Value) (c : Command) (params : Value) : Prop where
  takes : c.Takes line params
  only : ∃ before after, p.commands.values = before ++ c :: after ∧
    ∀ d ∈ before ++ after, ∀ params, ¬ d.Takes line params
  unfailing : ∀ d ∈ p.commands.values, ¬ d.Fails line

theorem unambiguous_iff : p.Unambiguous line c params ↔
    p.commands.values.findSome? (Command.refusal? line) = none ∧
      p.commands.values.filterMap (Command.validated? line) = [⟨c, params⟩] := by
  have quiet : p.commands.values.findSome? (Command.refusal? line) = none ↔
      ∀ d ∈ p.commands.values, ¬ d.Fails line := by
    rw [List.findSome?_eq_none_iff]
    refine forall₂_congr fun d _ => ?_
    rw [Command.fails_iff, ← Option.isSome_iff_exists, Option.not_isSome_iff_eq_none]
  have silent : ∀ {d : Command}, d.validated? line = none ↔ ∀ params, ¬ d.Takes line params := by
    intro d
    constructor
    · intro none params takes
      rw [Command.takes_iff, none] at takes
      cases takes
    · intro never
      cases validated : d.validated? line with
      | none => rfl
      | some v =>
        obtain rfl := Command.validated?_command validated
        exact absurd (Command.takes_iff.mpr validated) (never v.params)
  rw [quiet]
  constructor
  · rintro ⟨takes, ⟨before, after, table, only⟩, unfailing⟩
    refine ⟨unfailing, ?_⟩
    have none : ∀ d ∈ before ++ after, d.validated? line = none :=
      fun d member => silent.mpr (only d member)
    have front := List.filterMap_eq_nil_iff.mpr fun d member =>
      none d (List.mem_append_left _ member)
    have back := List.filterMap_eq_nil_iff.mpr fun d member =>
      none d (List.mem_append_right _ member)
    rw [table, List.filterMap_append, List.filterMap_cons_some (Command.takes_iff.mp takes), front,
      back]
    rfl
  · rintro ⟨unfailing, validated⟩
    obtain ⟨before, d, after, table, front, here, back⟩ := List.filterMap_eq_cons_iff.mp validated
    obtain rfl : c = d := Command.validated?_command here
    refine ⟨Command.takes_iff.mpr here, ⟨before, after, table, ?_⟩, unfailing⟩
    intro d member
    apply silent.mp
    rcases List.mem_append.mp member with member | member
    · exact front d member
    · exact List.filterMap_eq_nil_iff.mp back d member

/-- What runs once the whole table is validated: what is alone, if nothing was refused. -/
def runsAlone {ε : Type} : Option ε → List ValidatedCommand → List String
  | none, [v] => [v.command.name]
  | _, _ => []

/-- The search validates with the whole table first, and runs what is then alone. -/
theorem runs_processOne_unchecked (line : Value) (free : p.validator = none)
    (resolved : p.resolveTarget target = .ok (.ok t)) :
    (p.processOne line target).runs =
      runsAlone (p.commands.values.findSome? (Command.refusal? line))
        (p.commands.values.filterMap (Command.validated? line)) := by
  simp only [processOne, resolved, free, Act.runs_bind, Act.runs_ofExcept, Act.answer_ofExcept,
    answer_validateStrictly, runs_validateStrictly, List.nil_append]
  cases p.commands.values.findSome? (Command.refusal? line) with
  | some refusal => cases refusal <;> rfl
  | none =>
    cases p.commands.values.filterMap (Command.validated? line) with
    | nil => rfl
    | cons v others =>
      cases others with
      | nil =>
        simp only [Act.runs_bind, runs_execute, answer_execute, Act.runs_pure]
        cases outcome t v <;> rfl
      | cons v' others => exact runs_ambiguous _ _

theorem runs_processOne_unresolved {stop : Except Fault Failure}
    (unresolved : p.resolveTarget target = stop.map .error) :
    (p.processOne line target).runs = [] := by
  simp only [processOne, unresolved, Act.runs_bind, Act.runs_ofExcept, Act.answer_ofExcept]
  cases stop <;> rfl

theorem runs_processOne_ambiguous (free : p.validator = none)
    (resolved : p.resolveTarget target = .ok (.ok t))
    (never : ∀ c params, ¬ p.Unambiguous line c params) : (p.processOne line target).runs = [] := by
  rw [runs_processOne_unchecked line free resolved, runsAlone.eq_def]
  split
  case h_1 v clean alone => exact absurd (unambiguous_iff.mpr ⟨clean, alone⟩) (never _ _)
  case h_2 => rfl

/-- What the search for the only result runs, and when. -/
structure RunsOnlyUnambiguous (p : Processor) (line target : Value) : Prop where
  /-- The command that is alone runs once, and its result is the answer. -/
  of_unambiguous : ∀ t c params, p.resolveTarget target = .ok (.ok t) →
    p.Unambiguous line c params →
      (p.processOne line target).runs = [c.name] ∧
        (p.processOne line target).answer =
          (c.produce params t.toValue).map (Except.map Execution.toValue)
  /-- The name tells which command runs. -/
  named : ∀ c ∈ p.commands.values, ∀ d ∈ p.commands.values, c.name = d.name → c = d
  of_ambiguous : (¬ ∃ t c params, p.resolveTarget target = .ok (.ok t) ∧
      p.Unambiguous line c params) →
    (p.processOne line target).runs = []

/-- Without a validator nothing runs unless the destination resolves, no command fails to match or
convert the line, and one command alone takes it. -/
theorem runsOnlyUnambiguous (p : Processor) (line target : Value) (free : p.validator = none)
    (registered : p.Registered) : p.RunsOnlyUnambiguous line target where
  of_unambiguous := by
    intro t c params resolved unambiguous
    obtain ⟨clean, alone⟩ := unambiguous_iff.mp unambiguous
    constructor
    · rw [runs_processOne_unchecked line free resolved, clean, alone]
      rfl
    · rw [answer_processOne_unchecked line free resolved, clean, alone]
  named := by
    intro c first d second same
    exact List.inj_on_of_nodup_map registered.nodup first second same
  of_ambiguous := by
    intro never
    obtain ⟨t, resolved⟩ | ⟨stop, unresolved⟩ := p.resolveTarget_cases target
    · apply runs_processOne_ambiguous free resolved
      intro c params unambiguous
      exact never ⟨t, c, params, resolved, unambiguous⟩
    · exact runs_processOne_unresolved unresolved

/-- Two commands, one for two letters and one for a single letter. -/
def divided : Processor :=
  let letter : Grammar :=
    { expression :=
        { source := "^\\s*(\\w)\\s*$"
          pattern := .sequence [.anchor .textStart,
            .again 0 none .greedy (.one ⟨[.kind .blank false], false, .exact, false⟩),
            .group 1 (.sequence [.one ⟨[.kind .word false], false, .exact, false⟩]),
            .again 0 none .greedy (.one ⟨[.kind .blank false], false, .exact, false⟩),
            .anchor .lastLineEnd]
          groups := 1 }
      slots := [⟨"a", 0⟩]
      template := Grammar.reference "a" }
  let answering (name : String) := Command.bare name (fun v => .ok (.success v))
  { commands := ⟨[⟨"one", "one", answering "one" letter⟩,
      ⟨"two", "two", answering "two" (.letterPair ⟨"a", 0⟩ ⟨"b", 0⟩)⟩]⟩
    validator := none
    target := .text }

theorem runsOnlyUnambiguous_divided :
    divided.validator = none ∧ divided.Registered ∧
      (divided.processOne (.text "x y") .none).runs = ["two"] ∧
      (divided.processOne (.text "x y") (.text "html")).runs = [] := by
  have created : (create divided.commands.values none (.text "text")).answer = .ok divided := by
    rfl
  have registered := registered_of_create created
  have restrained := fun target => divided.runsOnlyUnambiguous (.text "x y") target rfl registered
  refine ⟨rfl, registered, ?_, ?_⟩
  · exact ((restrained .none).of_unambiguous .text _ _ rfl (unambiguous_iff.mpr ⟨rfl, rfl⟩)).1
  · apply (restrained (.text "html")).of_ambiguous
    rintro ⟨t, c, params, resolved, _⟩
    cases resolved

end Processor
end LineCommand
