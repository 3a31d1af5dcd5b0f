import LineCommand.Outcome.Basic
import LineCommand.Text.Blank

/-!
Templates of commands: literals and references to fields, in order. A reference is a field's name
between doubled braces, and a question mark after the name makes the field optional there.
-/
namespace LineCommand

inductive TemplateToken
  | literal (text : String)
  | reference (name : String) (optional : Bool) (raw : String)
  deriving DecidableEq, Repr

inductive Template
  | text (s : String)
  | pieces (items : List Value)
  deriving Repr, Inhabited

namespace TemplateToken

/-- Characters that a field's name in a reference does not have. -/
def endsName (c : Char) : Bool := c == '{' || c == '}' || c == '?' || Text.isBlank c

/-- The name in a reference, and whether it is marked optional. A line feed may follow. -/
def readReference (cs : List Char) : Option (List Char × Bool) :=
  match cs with
  | '{' :: '{' :: rest =>
    let inner := Text.trimStart rest
    let name := inner.takeWhile (!endsName ·)
    let afterName := Text.trimStart (inner.dropWhile (!endsName ·))
    let (optional, afterMark) :=
      match afterName with
      | '?' :: more => (true, Text.trimStart more)
      | _ => (false, afterName)
    if name.isEmpty then none
    else if afterMark = ['}', '}'] ∨ afterMark = ['}', '}', '\n'] then some (name, optional)
    else none
  | _ => none

/-- A word of a template: a reference if it has that form, else a literal. -/
def ofWord (word : String) : TemplateToken :=
  match readReference word.toList with
  | some (name, optional) => .reference (String.ofList name) optional word
  | none => .literal word

end TemplateToken

namespace Template

def items : Template → List Value
  | .text s => (Text.words s).map .text
  | .pieces vs => vs

/-- The token that a piece is; pieces that do not count as true are none. -/
def tokenOf? (v : Value) : Except Fault (Option TemplateToken) :=
  match v with
  | .literal s => .ok (some (.literal s))
  | .reference name optional raw => .ok (some (.reference name optional raw))
  | v =>
    if !v.isTrue then .ok none
    else
      match v with
      | .text s => .ok (some (.ofWord s))
      | .bytes _ => .error (.wrongType "cannot use a string pattern on a bytes-like object")
      | v => .error (.wrongType s!"expected string or bytes-like object, got '{v.typeName}'")

def tokens (t : Template) : Except Fault (List TemplateToken) := do
  let found ← t.items.mapM tokenOf?
  .ok (found.filterMap id)

/-- The text that a piece is shown as. -/
def pieceText (v : Value) : Except Fault String :=
  match v with
  | .text s => .ok s
  | .reference name _ raw => .ok (if raw.isEmpty then "\x7b\x7b" ++ name ++ "\x7d\x7d" else raw)
  | v =>
    match v.member? "text" with
    | some (.text s) => .ok s
    | some other => .error (.wrongType s!"expected str instance, {other.typeName} found")
    | none => .error (.noAttribute v "text")

/-- The text that a template is shown as, with single blanks between its pieces. -/
def shown (t : Template) : Except Fault String := do
  let parts ← t.items.mapM pieceText
  .ok (Text.joined " " parts)

end Template
end LineCommand
