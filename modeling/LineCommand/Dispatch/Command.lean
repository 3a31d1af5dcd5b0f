import LineCommand.Dispatch.Formatting
import LineCommand.Grammar.Basic

/-!
Commands. A line goes through four stages: the grammar finds the texts of the fields, the converter
turns them into parameters, the executor turns those into a result, and a formatter words it. A line
that the grammar does not match is no failure.
-/
namespace LineCommand

/-- A command. `description` is whatever the user gave that counts as true. -/
structure Command where
  name : String
  description : Value
  grammar : Grammar
  converter : Converter
  executor : Callback
  formatters : FormatterSet
  examples : List String

/-- The parts that a command is made of, as users hand them over. -/
structure CommandParts where
  name : Value
  description : Value
  converter : Supplied Converter
  executor : Supplied Callback
  formatters : List (Value × Supplied Callback)
  examples : List String

/-- What a command that ran has left: its result, and the message that words it. -/
structure Execution where
  command : String
  result : Value
  message : String
  deriving Repr

def Execution.toValue (e : Execution) : Value := .execution e.command e.result e.message

/-- A command whose line has been matched and converted, but which has not run. -/
structure ValidatedCommand where
  command : Command
  params : Value

namespace Command

def create (parts : CommandParts) (grammar : Supplied Grammar) : Except Fault (Outcome Command) :=
  let refuse (problem : String) : Except Fault (Outcome Command) :=
    .ok (fail .configuration s!"Command {parts.name.plain}: {problem}")
  match normalizeName parts.name with
  | .error failure => .ok (fail .configuration s!"Command name: {failure.message}")
  | .ok _ =>
    match grammar, parts.converter, parts.executor with
    | .plain _, _, _ => refuse "grammar is not compiled."
    | .usable _, .plain _, _ => refuse "converter is not callable."
    | .usable _, .usable _, .plain _ => refuse "executor is not callable."
    | .usable grammar, .usable converter, .usable executor =>
      match FormatterSet.create parts.formatters with
      | .error fault => .error fault
      | .ok (.error failure) => refuse failure.message
      | .ok (.ok formatters) =>
        .ok (.ok
          { name := Text.trimmed parts.name.plain
            description := parts.description.orElse (.text "")
            grammar, converter, executor, formatters
            examples := parts.examples })

def fromTemplate (builder : GrammarBuilder) (template : Template) (parts : CommandParts) :
    Act (Outcome Command) := do
  match ← builder.build template with
  | .ok grammar => Act.ofExcept (create parts (.usable grammar))
  | .error failure => do
    let name ← Act.ofExcept parts.name.said
    pure (.error { failure with message := s!"Command {name}: {failure.message}" })

def validate (c : Command) (line : Value) : Act (Outcome (Option ValidatedCommand)) := do
  match ← c.grammar.parse line with
  | .error failure => pure (.error failure)
  | .ok none => pure (.ok none)
  | .ok (some texts) =>
    match ← Act.ofExcept (c.converter.convert texts.toValue) with
    | .ok params => pure (.ok (some ⟨c, params⟩))
    | .error failure => do
      .note .debug .command s!"Command {c.name} matched {line.written} but conversion failed"
      pure (.error { failure with detail := failure.detail.orElse (.kind .conversion) })

def format (c : Command) (result target : Value) : Except Fault (Outcome String) :=
  c.formatters.format result target

def conclude (c : Command) (reply target : Value) : Except Fault (Outcome Execution) :=
  match Outcome.ofValue? reply with
  | none =>
    .ok (fail .execution s!"{c.name}: executor returned {reply.typeName}, not a Result.")
  | some (.error failure) =>
    .ok (.error { failure with detail := failure.detail.orElse (.kind .execution) })
  | some (.ok result) =>
    (c.format result target).map fun
      | .error failure => .error { failure with message := s!"{c.name}: {failure.message}" }
      | .ok message => .ok ⟨c.name, result, message⟩

def run (c : Command) (params target : Value) : Act (Outcome Execution) := do
  .ran c.name
  match ← Act.ofExcept (Outcome.capture (c.executor params)) with
  | .error failure => do
    .note .warning .command s!"Executor for {c.name} raised: {failure.message}"
    pure (fail .execution s!"{c.name}: {failure.message}")
  | .ok reply => Act.ofExcept (c.conclude reply target)

end Command

def ValidatedCommand.execute (v : ValidatedCommand) (target : Value) : Act (Outcome Execution) :=
  v.command.run v.params target

namespace Command

def execute (c : Command) (line target : Value) : Act (Outcome (Option Execution)) := do
  match ← c.validate line with
  | .error failure => pure (.error failure)
  | .ok none => pure (.ok none)
  | .ok (some validated) => do
    let executed ← validated.execute target
    pure (executed.map some)

def defaultFormatter (c : Command) (target : Value) : Except Fault (Outcome Callback) :=
  (FormatTarget.resolve target).map fun resolved => do
    let t ← resolved
    match c.formatters.get? t with
    | some formatter => .ok formatter
    | none => fail .format s!"Command {c.name} has no formatter for {t.word}."

/-- The lines that tell users about a command: what it does, and one line for each example. -/
def helpLines (c : Command) : Except Fault (List String) := do
  let head ← if c.description.isTrue then c.description.said.map (s!"{c.name}: {·}") else .ok c.name
  .ok (head :: c.examples.map ("  " ++ ·))

end Command
end LineCommand
