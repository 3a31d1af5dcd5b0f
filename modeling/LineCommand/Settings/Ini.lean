import LineCommand.Fault
import LineCommand.Text.Case
import LineCommand.Text.Lines

/-!
Settings files: sections of named values. A value goes on over lines that are indented deeper than
its first one, and may refer to other values of its section. One section holds values for all
others.
-/
namespace LineCommand

/-- Values under names, and values that count in every section. -/
structure Ini where
  defaults : List (String × String)
  sections : List (String × List (String × String))
  deriving DecidableEq, Repr, Inhabited

namespace Ini

def defaultSection : String := "DEFAULT"

/-! ### Lines -/

inductive Line
  | blank
  | comment
  | content (indent : Nat) (text : List Char)
  deriving DecidableEq, Repr

def Line.of (cs : List Char) : Line :=
  let text := Text.trim cs
  match text with
  | [] => .blank
  | c :: _ =>
    if c = '#' ∨ c = ';' then .comment else .content (cs.takeWhile Text.isBlank).length text

/-- The name of the section that a line starts: what stands between its first character, which is a
bracket, and its last bracket that closes. -/
def header? (text : List Char) : Option String :=
  match text with
  | '[' :: rest =>
    let upTo := (rest.reverse.dropWhile (· != ']')).drop 1
    if upTo.isEmpty then none else some (String.ofList upTo.reverse)
  | _ => none

/-- The name and the value that a line gives, on both sides of its first equals sign or colon. -/
def option? (text : List Char) : Option (String × String) :=
  let isDelimiter (c : Char) : Bool := c == '=' || c == ':'
  match text.dropWhile (!isDelimiter ·) with
  | [] => none
  | _ :: value =>
    let name := Text.trimEnd (text.takeWhile (!isDelimiter ·))
    some (String.ofList (Text.lower name), String.ofList (Text.trim value))

/-- A file being read. Values are kept as their lines, the last one first, and options and sections
in the order of the file. `current` is the section, `option` the option that may go on, and `broken`
says that a line could not be read. -/
structure Progress where
  options : List (String × String × List String) := []
  sections : List String := []
  current : Option String := none
  option : Option String := none
  indent : Nat := 0
  broken : Bool := false

namespace Progress

def extend (p : Progress) (line : String) : Progress :=
  match p.current, p.option with
  | some s, some o =>
    { p with
      options := p.options.map fun (title, name, lines) =>
        if title = s ∧ name = o then (title, name, line :: lines)
        else (title, name, lines) }
  | _, _ => p

def startSection (p : Progress) (name : String) : Except Fault Progress :=
  if p.sections.contains name then .error (.of .duplicateSection "")
  else
    .ok
      { p with
        sections := if name = defaultSection then p.sections else p.sections ++ [name]
        current := some name
        option := none }

/-- Starts an option, which may be given once only in its section. -/
def startOption (p : Progress) (current : String) (text : List Char) : Except Fault Progress :=
  match option? text with
  | none => .ok { p with broken := true }
  | some (name, value) =>
    if p.options.any fun (s, n, _) => s == current && n == name then
      .error (.of .duplicateOption "")
    else
      .ok
        { p with
          options := p.options ++ [(current, name, [value])]
          option := if name.isEmpty then none else some name
          broken := p.broken || name.isEmpty }

def step (p : Progress) (cs : List Char) : Except Fault Progress :=
  match Line.of cs with
  | .comment => .ok p
  | .blank => .ok (p.extend "")
  | .content indent text =>
    if p.current.isSome && p.option.isSome && p.indent < indent then
      .ok (p.extend (String.ofList text))
    else
      let p := { p with indent }
      match header? text, p.current with
      | some name, _ => p.startSection name
      | none, none => .error (.of .noSectionHeader "")
      | none, some current => p.startOption current text

def valuesOf (p : Progress) (current : String) : List (String × String) :=
  p.options.filterMap fun (s, name, lines) =>
    if s = current then
      let whole := Text.joined "\n" lines.reverse
      some (name, String.ofList (Text.trimEnd whole.toList))
    else none

end Progress

/-- The values of a file. A line that could not be read is reported after all others. -/
def read (text : String) : Except Fault Ini := do
  let lines := Text.splitFrom ['\n'] [] 0 (Text.unifyLineEnds text.toList)
  let p ← lines.foldlM Progress.step {}
  if p.broken then .error (.of .badSettingsText "")
  else
    .ok ⟨p.valuesOf defaultSection, p.sections.map fun name => (name, p.valuesOf name)⟩

/-! ### References -/

/-- A piece of a value: a character, a reference to another value, or what is neither. -/
inductive Piece
  | char (c : Char)
  | reference (name : String)
  | broken
  deriving DecidableEq, Repr

/-- The pieces of a value. A percent sign is written twice, or starts a reference: a name between
parentheses, and a letter. `left` bounds the number of pieces. -/
def pieces : (left : Nat) → List Char → List Piece
  | 0, _ => []
  | _, [] => []
  | left + 1, '%' :: '%' :: rest => .char '%' :: pieces left rest
  | left + 1, '%' :: '(' :: rest =>
    let name := rest.takeWhile (· != ')')
    match rest.dropWhile (· != ')') with
    | ')' :: 's' :: after =>
      if name.isEmpty then [.broken]
      else .reference (String.ofList (Text.lower name)) :: pieces left after
    | _ => [.broken]
  | _ + 1, '%' :: _ => [.broken]
  | left + 1, c :: rest => .char c :: pieces left rest

/-- The text of a value with its references replaced. References may go ten levels deep, of which
`left` are left. -/
def expand (values : List (String × String)) : (left : Nat) → String → Except Fault String
  | 0, _ => .error (.of .deepInterpolation "")
  | left + 1, value => do
    let parts ← (pieces value.length value.toList).mapM fun
      | .char c => .ok (String.ofList [c])
      | .broken => .error (.of .badInterpolation "")
      | .reference name =>
        match values.lookup name with
        | none => .error (.of .missingInterpolation "")
        | some inner => if inner.contains '%' then expand values left inner else .ok inner
    .ok (String.join parts)

/-- The value of an option in a section, if the section is there and the option in it or in the
section for all others. -/
def get? (ini : Ini) (title name : String) : Except Fault (Option String) :=
  match ini.sections.lookup title with
  | none => .ok none
  | some own =>
    let values := own ++ ini.defaults
    match values.lookup name with
    | none => .ok none
    | some value => (expand values 10 value).map some

end Ini
end LineCommand
