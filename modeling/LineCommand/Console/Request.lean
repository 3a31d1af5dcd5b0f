import LineCommand.Console.Arguments
import LineCommand.Settings.Basic

/-! What a command line asks for: one of four tasks, with what the task needs. -/
namespace LineCommand.Console

inductive Task
  | check
  | grammar
  | parse
  | settings
  deriving DecidableEq, Repr

namespace Task

def all : List Task := [check, grammar, parse, settings]

def word : Task → String
  | check => "check"
  | grammar => "grammar"
  | parse => "parse"
  | settings => "config"

def ofWord? (s : String) : Option Task := all.find? (·.word == s)

def summary : Task → String
  | check => "Compile every template in a catalog"
  | grammar => "Print a command's compiled expression"
  | parse => "Dispatch a line against the catalog"
  | settings => "Show the effective configuration"

end Task

def programName : String := "command-engine"

def program : Interface where
  program := programName
  about := some "command-engine - declarative command grammars and typed dispatch"
  operand := .command "command" "Available commands" (Task.all.map fun t => (t.word, t.summary))
  flags := []

def catalogFlag : Flag := ⟨["--catalog", "-c"], .any "CATALOG", "Catalog file (YAML)"⟩

def policyFlag : Flag where
  names := ["--policy"]
  values := .oneOf (MatchPolicy.words.map (·.1))
  help := "Selection policy (default: one, or CMD_MATCH_POLICY env var)"

def targetFlag : Flag where
  names := ["--target"]
  values := .oneOf (FormatTarget.all.map FormatTarget.word)
  help := "Output format (default: text, or CMD_FORMAT_TARGET env var)"

def Task.interface (t : Task) : Interface :=
  let program := s!"{programName} {t.word}"
  match t with
  | check =>
    { program
      about := "Compile every template and verify that each example matches its command."
      operand := .nothing
      flags := [catalogFlag] }
  | grammar =>
    { program
      about := "Print the anchored regular expression compiled from a command template."
      operand := .text "name" "Command name"
      flags := [catalogFlag] }
  | parse =>
    { program
      about := some ("Match a line against every command in the catalog and print the "
        ++ "rendered result of each accepted command.")
      operand := .text "line" "Input line, e.g. '!beast T5 horned serpent'"
      flags := [catalogFlag, policyFlag, targetFlag] }
  | settings => { program, about := none, operand := .nothing, flags := [] }

/-- A task with what it needs. What is not given is left to the settings. -/
inductive Request
  | check (catalog : Option String)
  | grammar (name : String) (catalog : Option String)
  | parse (line : String) (catalog : Option String) (policy : Option MatchPolicy)
      (target : Option FormatTarget)
  | settings
  deriving DecidableEq, Repr

namespace Request

def catalog? : Request → Option String
  | check catalog => catalog
  | grammar _ catalog => catalog
  | parse _ catalog _ _ => catalog
  | settings => none

def catalogPath (r : Request) (s : Settings) : Path :=
  (r.catalog?.map Path.ofText).getD s.catalogPath

def ofGiven (t : Task) (g : Given) : Request :=
  let catalog := (g.value? catalogFlag.name).filter fun s => !s.isEmpty
  let operand := (g.operand.map (·.1)).getD ""
  match t with
  | .check => .check catalog
  | .grammar => .grammar operand catalog
  | .parse =>
    .parse operand catalog ((g.value? policyFlag.name).bind MatchPolicy.ofWord?)
      ((g.value? targetFlag.name).bind fun s => FormatTarget.ofValue? (.text s))
  | .settings => .settings

def refuseUnknown (words : List String) : Except Stop Unit :=
  if words.isEmpty then .ok () else .error (.complaint program (.unknownArguments words))

/-- What the words of a command line ask for; without a task they ask for nothing. -/
def ofArguments (arguments : List String) : Except Stop (Option Request) := do
  let outer ← program.given arguments
  match outer.operand with
  | none => do
    refuseUnknown outer.unknown
    .ok none
  | some (word, rest) =>
    match Task.ofWord? word with
    | none => .error (.complaint program (.badChoice "command" word (Task.all.map Task.word)))
    | some t => do
      let g ← t.interface.given rest
      refuseUnknown (outer.unknown ++ g.unknown)
      .ok (some (ofGiven t g))

end Request
end LineCommand.Console
