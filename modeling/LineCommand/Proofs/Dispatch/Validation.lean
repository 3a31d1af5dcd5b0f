import LineCommand.Proofs.Dispatch.Policy

/-! Validation without execution in closed form. Every command is asked, and a failure of one is
passed over as long as another validates the line, so only a fault ends the loop early. -/
namespace LineCommand

namespace Command

variable {line : Value} {c : Command}

def fault? (line : Value) (c : Command) : Option Fault :=
  match (c.validate line).answer with
  | .error fault => some fault
  | .ok _ => none

/-- What is reported of a command that fails to match or convert a line. -/
def problem? (line : Value) (c : Command) : Option String :=
  match (c.validate line).answer with
  | .ok (.error failure) => some s!"{c.name}: {failure.message}"
  | _ => none

theorem fault?_eq_none_iff :
    c.fault? line = none ↔ ∃ outcome, (c.validate line).answer = .ok outcome := by
  unfold fault?
  split <;> simp_all

end Command

namespace Processor

variable {p : Processor} {line : Value}

theorem answer_validateEach (line : Value) (cs : List Command) :
    (validateEach line cs).answer =
      match cs.findSome? (Command.fault? line) with
      | some fault => .error fault
      | none =>
        .ok (cs.filterMap (Command.validated? line), cs.filterMap (Command.problem? line)) := by
  induction cs with
  | nil => rfl
  | cons c rest ih =>
    simp only [validateEach, Act.answer_bind, List.findSome?_cons, List.filterMap_cons,
      Command.fault?, Command.validated?, Command.problem?]
    cases (c.validate line).answer with
    | error fault => rfl
    | ok outcome =>
      simp only [Except.bind, ih]
      cases rest.findSome? (Command.fault? line) with
      | some fault => rfl
      | none =>
        cases outcome with
        | error failure => rfl
        | ok v? => cases v? <;> rfl

theorem answer_validateAll (p : Processor) (line : Value) :
    (p.validateAll line).answer =
      match p.commands.values.findSome? (Command.fault? line) with
      | some fault => .error fault
      | none =>
        match p.commands.values.filterMap (Command.validated? line),
          p.commands.values.filterMap (Command.problem? line) with
        | [], problem :: problems =>
          .ok (fail .conversion (Text.joined "\n" (problem :: problems)))
        | validated, _ => .ok (.ok validated) := by
  simp only [validateAll, Act.answer_bind, answer_validateEach]
  cases p.commands.values.findSome? (Command.fault? line) with
  | some fault => rfl
  | none =>
    cases p.commands.values.filterMap (Command.validated? line) <;>
      cases p.commands.values.filterMap (Command.problem? line) <;> rfl

theorem runs_validateEach (line : Value) (cs : List Command) : (validateEach line cs).runs = [] := by
  induction cs with
  | nil => rfl
  | cons c rest ih =>
    simp only [validateEach, Act.runs_bind, Command.runs_validate, List.nil_append]
    cases (c.validate line).answer with
    | error fault => rfl
    | ok outcome =>
      simp only [ih, List.nil_append]
      cases (validateEach line rest).answer with
      | error fault => rfl
      | ok found =>
        cases outcome with
        | error failure => rfl
        | ok v? => cases v? <;> rfl

theorem runs_validateAll (p : Processor) (line : Value) : (p.validateAll line).runs = [] := by
  simp only [validateAll, Act.runs_bind, runs_validateEach, List.nil_append]
  cases (validateEach line p.commands.values).answer with
  | error fault => rfl
  | ok found =>
    obtain ⟨validated, problems⟩ := found
    dsimp only
    split <;> rfl

/-- The only validated command is looked for among all of them. -/
theorem answer_validateOne (p : Processor) (line : Value) :
    (p.validateOne line).answer =
      (p.validateAll line).answer.bind fun
        | .error failure => (noMatch line).map fun none =>
          .error { failure with message := none.message ++ "\n" ++ failure.message }
        | .ok [] => (noMatch line).map .error
        | .ok [v] => .ok (.ok v)
        | .ok several => line.said.map fun _ =>
          .error (ambiguity line (several.map (·.command.name))) := by
  rw [validateOne, Act.answer_bind]
  congr 1
  funext outcome
  match outcome with
  | .error failure => rfl
  | .ok [] => rfl
  | .ok [v] => rfl
  | .ok (_ :: _ :: _) => exact answer_ambiguous _ _

theorem answer_validateOne_of_sayable (p : Processor) {line : Value}
    (sayable : line.sayable = true) :
    (p.validateOne line).answer =
      (p.validateAll line).answer.map fun
        | .error failure =>
          .error { failure with message := (absence line).message ++ "\n" ++ failure.message }
        | .ok [] => .error (absence line)
        | .ok [v] => .ok v
        | .ok several => .error (ambiguity line (several.map (·.command.name))) := by
  rw [answer_validateOne, noMatch_of_sayable sayable, Value.said_of_sayable sayable]
  match (p.validateAll line).answer with
  | .error fault => rfl
  | .ok (.error failure) => rfl
  | .ok (.ok []) => rfl
  | .ok (.ok [v]) => rfl
  | .ok (.ok (_ :: _ :: _)) => rfl

theorem runs_validateOne (p : Processor) (line : Value) : (p.validateOne line).runs = [] := by
  rw [validateOne, Act.runs_bind, runs_validateAll, List.nil_append]
  cases (p.validateAll line).answer with
  | error fault => rfl
  | ok outcome =>
    match outcome with
    | .error failure => rfl
    | .ok [] => rfl
    | .ok [v] => rfl
    | .ok (_ :: _ :: _) => exact runs_ambiguous _ _

end Processor
end LineCommand
