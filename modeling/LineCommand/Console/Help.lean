import LineCommand.Console.Interface
import LineCommand.Text.Fill

/-! How users are told what a program can be given: the usage in one or more lines, and below it
what each part of it is for. -/
namespace LineCommand.Console

def helpWidth : Nat := 78

def explanationLimit : Nat := 24

def Interface.flagParts (i : Interface) : List String :=
  "[-h]" :: i.flags.map fun f => s!"[{f.name} {f.values.shown}]"

def Operand.parts : Operand → List String
  | nothing => []
  | text name _ => [name]
  | command _ _ commands => [choice (commands.map (·.1)), "..."]

/-- The lines that say how a program is used. Where one line does not hold them, the operand has a
line of its own. -/
def Interface.usage (i : Interface) : List String :=
  let start := "usage: " ++ i.program
  let whole := Text.joined " " (start :: i.flagParts ++ i.operand.parts)
  if whole.length ≤ helpWidth then [whole]
  else
    let column := start.length + 1
    let lines :=
      Text.fill (helpWidth - column) i.flagParts ++ Text.fill (helpWidth - column) i.operand.parts
    match lines with
    | [] => [start]
    | first :: rest => (start ++ " " ++ first) :: rest.map (Text.indented column)

structure HelpItem where
  indent : Nat
  shown : String
  explanation : String
  deriving DecidableEq, Repr

/-- The lines of an item with its explanation at a column, on the same line if there is room. -/
def HelpItem.lines (column : Nat) (item : HelpItem) : List String :=
  let shown := Text.indented item.indent item.shown
  let explanation := Text.wrapped (helpWidth - column) item.explanation
  if shown.length + 2 ≤ column then
    match explanation with
    | [] => [shown]
    | first :: rest => (Text.padded column shown ++ first) :: rest.map (Text.indented column)
  else shown :: explanation.map (Text.indented column)

def Operand.items : Operand → List HelpItem
  | nothing => []
  | text name help => [⟨2, name, help⟩]
  | command _ help commands =>
    ⟨2, choice (commands.map (·.1)), help⟩ :: commands.map fun (word, help) => ⟨4, word, help⟩

def Flag.item (f : Flag) : HelpItem :=
  ⟨2, Text.joined ", " (f.names.map fun name => s!"{name} {f.values.shown}"), f.help⟩

def Interface.flagItems (i : Interface) : List HelpItem :=
  ⟨2, Text.joined ", " helpNames, "show this help message and exit"⟩ :: i.flags.map Flag.item

def explanationColumn (items : List HelpItem) : Nat :=
  let widest := items.foldl (fun width item => max width item.shown.length) 0
  min (widest + 4) explanationLimit

def helpSection (heading : String) (column : Nat) (items : List HelpItem) : List String :=
  if items.isEmpty then [] else heading :: items.flatMap (HelpItem.lines column)

/-- The lines of help: blocks with an empty line between them. -/
def Interface.help (i : Interface) : List String :=
  let column := explanationColumn (i.operand.items ++ i.flagItems)
  let about := (i.about.map (Text.wrapped helpWidth)).getD []
  let blocks :=
    [i.usage, about, helpSection "positional arguments:" column i.operand.items,
     helpSection "options:" column i.flagItems]
  [""].intercalate (blocks.filter fun block => !block.isEmpty)

end LineCommand.Console
