import LineCommand.Grammar.Basic
import LineCommand.Path
import LineCommand.Text.Case

/-!
Catalogs describe a family of commands: the fields, one template for each command, and a word that
all lines start with. A catalog is made of a value that is checked part by part, and its templates
are compiled together, so that one failure lists all that do not compile. What makes a value of the
text of a catalog is a parameter.
-/
namespace LineCommand

/-- One command of a catalog. The examples are lines that its grammar should match. -/
structure CommandSpec where
  name : String
  description : String
  template : String
  examples : List String
  deriving DecidableEq, Repr

structure Catalog where
  version : String
  fields : FieldRegistry
  commands : List CommandSpec
  leadWord : Option String
  source : Option Path

namespace Catalog

/-! ### Reading -/

def refuse {α : Type} (name problem : String) : Except Fault α :=
  .error (.badValue s!"{name}{problem}")

def examples? (v : Value) : Option (List String) :=
  match v with
  | .list items => items.mapM Value.text?
  | _ => none

/-- A command from its entry. Its key is cited whatever comes of the entry. -/
def commandOf (name : String) (key entry : Value) : Except Fault CommandSpec := do
  let command ← key.said
  let place := s!": commands.{command}"
  match entry with
  | .dict parts =>
    let part (name : String) (default : Value) := (Value.get? parts name).getD default
    match ((part "template" .none).text?).filter fun s => !(Text.trimmed s).isEmpty with
    | none => refuse name s!"{place}.template is required."
    | some template =>
      match examples? (part "examples" (.list [])) with
      | none => refuse name s!"{place}.examples must be a list of strings."
      | some examples => do
        let description ← (part "description" (.text "")).said
        .ok ⟨command, description, template, examples⟩
  | _ => refuse name s!"{place} must be a mapping."

def entries? (v : Option Value) : Option (List (Value × Value)) :=
  match v with
  | some (.dict (e :: es)) => some (e :: es)
  | _ => none

def fieldsOf (name : String) (v : Option Value) : Except Fault FieldRegistry :=
  match entries? v with
  | none => refuse name ": 'fields' must be a non-empty mapping."
  | some entries => do
    match ← FieldRegistry.load entries with
    | .error failure => refuse name s!": {failure.message}"
    | .ok registry => .ok registry

def commandsOf (name : String) (v : Option Value) : Except Fault (List CommandSpec) :=
  match entries? v with
  | none => refuse name ": 'commands' must be a non-empty mapping."
  | some entries => entries.mapM fun (key, entry) => commandOf name key entry

/-- The word that all lines start with. An empty one is none. -/
def leadWordOf (name : String) (v : Option Value) : Except Fault (Option String) :=
  match v.getD .none with
  | .none => .ok none
  | v =>
    match v.text? with
    | some word => .ok (if word.isEmpty then none else some word)
    | none => refuse name ": 'prefix' must be a string."

def ofValue (v : Value) (source : Option Path) : Except Fault Catalog :=
  let name := (source.map Path.name).getD "catalog"
  match v with
  | .dict parts => do
    let version := (Value.get? parts "version").getD .none
    if !version.isTrue then refuse name ": missing required field 'version'."
    else do
      let leadWord ← leadWordOf name (Value.get? parts "prefix")
      let fields ← fieldsOf name (Value.get? parts "fields")
      let commands ← commandsOf name (Value.get? parts "commands")
      .ok ⟨← version.said, fields, commands, leadWord, source⟩
  | _ => refuse name " must be a YAML mapping at the top level."

/-- What makes a value of the characters of a text, or a fault where they make no sense to it. -/
abbrev Reader := List Char → Except Fault Value

def ofText (reader : Reader) (text : String) (source : Path) : Except Fault Catalog := do
  let v ← reader (Text.unifyLineEnds text.toList)
  ofValue v (some source)

def load (reader : Reader) (path : Path) (entry : Entry) : Act Catalog :=
  match entry with
  | .absent => .raise (.of .noFile s!"Command catalog not found: {path.text}")
  | .directory => .raise (.of .isDirectory s!"[Errno 21] Is a directory: {Text.quoted path.text}")
  | .file text => do
    let catalog ← Act.ofExcept (ofText reader text path)
    let fields := catalog.fields.size
    let commands := catalog.commands.length
    .note .debug .catalog s!"Loaded catalog {path.text}: {fields} fields, {commands} commands"
    pure catalog

/-! ### Grammars -/

/-- The command with a name. Neither case nor blanks around the name count. -/
def command? (c : Catalog) (name : String) : Option CommandSpec :=
  let wanted := Text.lowered (Text.trimmed name)
  c.commands.find? fun spec => Text.lowered spec.name == wanted

def builder (c : Catalog) (unknown : Value) : Except Fault (Outcome GrammarBuilder) :=
  GrammarBuilder.createFrom c.fields unknown

abbrev Grammars := List (String × Grammar)

/-- The grammars with one more: a name that is there already keeps its place. -/
def Grammars.insert (gs : Grammars) (name : String) (g : Grammar) : Grammars :=
  if gs.any (·.1 == name) then gs.map fun (n, h) => (n, if n = name then g else h)
  else gs ++ [(name, g)]

/-- The grammars that can be made of templates, after others, and messages about the other ones. -/
def buildEach (b : GrammarBuilder) (made : Grammars) :
    List CommandSpec → Act (Grammars × List String)
  | [] => pure (made, [])
  | spec :: rest => do
    match ← b.build (.text spec.template) with
    | .ok g => buildEach b (Grammars.insert made spec.name g) rest
    | .error failure => do
      let (final, problems) ← buildEach b made rest
      pure (final, s!"{spec.name}: {failure.message}" :: problems)

/-- The grammars of all commands, or a failure that lists all templates that give none. -/
def compile (c : Catalog) (unknown : Value) : Act (Outcome Grammars) := do
  match ← Act.ofExcept (c.builder unknown) with
  | .error failure => pure (.error failure)
  | .ok b => do
    let (grammars, problems) ← buildEach b [] c.commands
    if problems.isEmpty then pure (.ok grammars)
    else pure (fail .configuration (Text.joined "\n" problems))

def exampleProblem (spec : CommandSpec) (g : Grammar) (line : String) :
    Act (Option String) := do
  match ← g.parse (.text line) with
  | .error failure =>
    pure (some s!"{spec.name}: {Text.quoted line}: {failure.message}")
  | .ok none => pure (some s!"{spec.name}: example {Text.quoted line} does not match")
  | .ok (some _) => pure none

/-- What is wrong with the examples of all commands that have a grammar, one line for each. -/
def checkExamples (c : Catalog) (gs : Grammars) : Act (List String) := do
  let found ← c.commands.mapM fun spec =>
    match gs.lookup spec.name with
    | none => pure []
    | some g => spec.examples.mapM (exampleProblem spec g)
  pure (found.flatten.filterMap id)

end Catalog
end LineCommand
