import LineCommand.Catalog.Basic
import LineCommand.Dispatch.Group

/-! A catalog as a group of commands. Such a command does nothing but give back the texts of its
fields, and its formatters list those. -/
namespace LineCommand

/-- The entries of a dictionary; nothing else has any. -/
def Value.items (v : Value) : Except Fault (List (Value × Value)) :=
  match v with
  | .dict entries => .ok entries
  | v => .error (.noAttribute v "items")

namespace Catalog

def echoText (command : String) : Callback := fun v => do
  let entries ← v.items
  let parts ← (entries.filter fun e => !e.2.isNone).mapM fun (k, w) => do
    .ok s!"{← k.said}={← w.said}"
  let listed := Text.joined ", " parts
  .ok (.text (if parts.isEmpty then command else s!"{command}: {listed}"))

def echoMarkdown (command : String) : Callback := fun v => do
  let entries ← v.items
  let tick := String.ofList [Char.ofNat 0x60]
  let lines ← (entries.filter fun e => !e.2.isNone).mapM fun (k, w) => do
    .ok s!"- {tick}{← k.said}{tick}: {← w.said}"
  .ok (.text (Text.joined "\n" (s!"**{command}**" :: lines)))

def echoEmbed (command : String) : Callback := fun v =>
  (Value.dict [(.text "command", .text command), (.text "fields", v)]).json.map .text

/-- The formatters of a command that gives back its fields. -/
def echoFormatters (command : String) : List (Value × Supplied Callback) :=
  [(FormatTarget.text.toValue, .usable (echoText command)),
   (FormatTarget.markdown.toValue, .usable (echoMarkdown command)),
   (FormatTarget.embed.toValue, .usable (echoEmbed command))]

def commandFor (spec : CommandSpec) (g : Grammar) : Except Fault (Outcome Command) :=
  Command.create
    { name := .text spec.name
      description := .text spec.description
      converter := .usable .succeed
      executor := .usable fun v => .ok (.success v)
      formatters := echoFormatters spec.name
      examples := spec.examples }
    (.usable g)

def addEach (gs : Grammars) (group : Group) : List CommandSpec → Act (Outcome Group)
  | [] => pure (.ok group)
  | spec :: rest =>
    match gs.lookup spec.name with
    | none => .raise (.of .missingKey (Text.quoted spec.name))
    | some g => do
      match ← Act.ofExcept (commandFor spec g) with
      | .error failure => pure (.error failure)
      | .ok command => do
        match ← group.add command with
        | .error failure => pure (.error failure)
        | .ok next => addEach gs next rest

def buildGroup (c : Catalog) (unknown : Value) (validator : Option Callback) (target : Value) :
    Act (Outcome Group) := do
  match ← c.compile unknown with
  | .error failure => pure (.error failure)
  | .ok grammars => do
    let empty ← Act.ofExcept (Group.empty c.leadWord validator target)
    match ← addEach grammars empty c.commands with
    | .error failure => pure (.error failure)
    | .ok group => do
      .note .info .catalog s!"Built command group with {group.processor.commands.size} commands"
      pure (.ok group)

end Catalog
end LineCommand
