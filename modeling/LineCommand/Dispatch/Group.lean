import LineCommand.Dispatch.Processor

/-!
Groups of commands with a word in front. A line belongs to a group if it is that word or goes on
after it with a blank; other lines are turned away before any command sees them.
-/
namespace LineCommand

/-- A group. Without a leading word, or with an empty one, it takes every line. -/
structure Group where
  leadWord : Option String
  processor : Processor

namespace Group

/-- A group without commands. A word is taken without the blanks around it. -/
def empty (leadWord : Option String) (validator : Option Callback) (target : Value) :
    Except Fault Group :=
  let word := (leadWord.filter fun s => !s.isEmpty).map Text.trimmed
  (Processor.empty validator target).map fun processor => ⟨word, processor⟩

/-- Registers a command; a fault of the processor is a failure here. -/
def addSupplied (g : Group) (c : Supplied Command) : Act (Outcome Group) := do
  match ← Act.capture (g.processor.addSupplied c) with
  | .ok processor => pure (.ok { g with processor })
  | .error failure => do
    let cited := (g.leadWord.map Text.quoted).getD "None"
    .note .warning .group s!"Cannot add command to group {cited}: {failure.message}"
    match c with
    | .usable _ => pure (fail .duplicateName failure.message)
    | .plain _ => pure (fail .configuration failure.message)

def add (g : Group) (c : Command) : Act (Outcome Group) := g.addSupplied (.usable c)

/-- Registers what can be registered, and lists the messages about what cannot. -/
def fill (g : Group) : List Command → Act (Group × List String)
  | [] => pure (g, [])
  | c :: rest => do
    match ← g.add c with
    | .ok next => next.fill rest
    | .error failure => do
      let (final, problems) ← g.fill rest
      pure (final, failure.message :: problems)

/-- A group with commands, all of which have to have names of their own. -/
def create (commands : List Command) (leadWord : Option String) (validator : Option Callback)
    (target : Value) : Act Group := do
  let g ← Act.ofExcept (empty leadWord validator target)
  let (final, problems) ← g.fill commands
  if problems.isEmpty then pure final else .raise (.badValue (Text.joined "\n" problems))

/-- Whether a text is the leading word, or goes on after it with a blank. -/
def startsWith (word text : List Char) : Bool :=
  match Text.dropStart? word (Text.trim text) with
  | none => false
  | some [] => true
  | some (c :: _) => Text.isBlank c

def couldBeCommand (g : Group) (line : Value) : Bool :=
  match line.text?, g.leadWord with
  | none, _ => false
  | some _, none => true
  | some text, some word => word.isEmpty || startsWith word.toList text.toList

def notInGroup (g : Group) (line : Value) : Except Fault Failure :=
  let word := g.leadWord.getD "None"
  line.said.map fun said =>
    .of .noMatch s!"No command matched \"{said}\": expected prefix \"{word}\""

/-- Matches and converts a line without running anything. -/
def validateAll (g : Group) (line : Value) : Act (Outcome (List ValidatedCommand)) :=
  if g.couldBeCommand line then g.processor.validateAll line else pure (.ok [])

def processAll (g : Group) (line target : Value) : Act (Outcome (List Value)) :=
  if g.couldBeCommand line then g.processor.processAll line target else pure (.ok [])

def processFirst (g : Group) (line target : Value) : Act (Outcome Value) :=
  if g.couldBeCommand line then g.processor.processFirst line target
  else Act.ofExcept ((g.notInGroup line).map .error)

def processOne (g : Group) (line target : Value) : Act (Outcome Value) :=
  if g.couldBeCommand line then g.processor.processOne line target
  else Act.ofExcept ((g.notInGroup line).map .error)

/-- The text of a result, worded by the command that it says it comes from. -/
def format (g : Group) (execution target : Value) : Except Fault (Outcome String) :=
  g.processor.format execution target

/-- The formatter of every command for a destination, by name. -/
def defaultFormatters (g : Group) (target : Value) :
    Except Fault (Outcome (List (String × Callback))) :=
  g.processor.defaultFormatters target

def helpLines (g : Group) : Except Fault (List String) := g.processor.helpLines

end Group
end LineCommand
