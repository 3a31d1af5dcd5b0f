import LineCommand.Text.Lines

/-!
What a program can be given on the command line: flags, each with a value, and an operand. Every
interface also has the two flags for help.
-/
namespace LineCommand.Console

/-- The values that a flag takes: any, which a placeholder stands for, or one of some words. -/
inductive Values
  | any (placeholder : String)
  | oneOf (words : List String)
  deriving DecidableEq, Repr

def choice (words : List String) : String := "\x7b" ++ Text.joined "," words ++ "\x7d"

def Values.shown : Values → String
  | any placeholder => placeholder
  | oneOf words => choice words

/-- A flag. The first of its names is the one that stands for it. -/
structure Flag where
  names : List String
  values : Values
  help : String
  deriving DecidableEq, Repr

def Flag.name (f : Flag) : String := f.names.headD ""

def Flag.cited (f : Flag) : String := Text.joined "/" f.names

/-- What is given without a flag: nothing, one text, or a command with all that comes after it. -/
inductive Operand
  | nothing
  | text (name help : String)
  | command (name help : String) (commands : List (String × String))
  deriving DecidableEq, Repr

structure Interface where
  program : String
  about : Option String
  operand : Operand
  flags : List Flag
  deriving DecidableEq, Repr

def helpNames : List String := ["-h", "--help"]

/-- The names of all flags. Those for help stand for no flag that has a value. -/
def Interface.names (i : Interface) : List (String × Option Flag) :=
  helpNames.map (·, none) ++ i.flags.flatMap fun f => f.names.map (·, some f)

end LineCommand.Console
