import LineCommand.Field
import LineCommand.Pattern.Basic
import LineCommand.Template

/-!
From a template to the text of one pattern that spans a whole line. Between two tokens stands a
separator of at least one blank; a field is put in a group; a field that may be left out takes the
separator next to it along.
-/
namespace LineCommand

/-- What becomes of a reference to a field that is not registered: it is refused, or stands for its
own text. -/
inductive UnknownFields
  | strict
  | lenient
  deriving DecidableEq, Repr, Inhabited

def UnknownFields.text : UnknownFields → String
  | .strict => "strict"
  | .lenient => "lenient"

def UnknownFields.toValue (u : UnknownFields) : Value := .text u.text

def UnknownFields.ofValue (v : Value) : Except Fault UnknownFields :=
  match v.text? with
  | some "strict" => .ok .strict
  | some "lenient" => .ok .lenient
  | _ => do .error (.badValue s!"{← v.shown} is not a valid UnknownFieldPolicy")

structure Slot where
  name : String
  embedded : Int
  deriving DecidableEq, Repr, Inhabited

def Slot.captures (s : Slot) : Int := 1 + s.embedded

/-- Makes grammars from templates, with fields that are registered. -/
structure GrammarBuilder where
  fields : FieldRegistry
  unknown : UnknownFields := .strict
  flags : PatternFlags := {}

inductive Fragment
  | plain (text : String)
  /-- A reference to a field that is not registered, standing for its own text. -/
  | unknown (name text : String)
  | field (f : Field) (optional : Bool)
  deriving DecidableEq, Repr

inductive Refusal
  | emptyTemplate
  | unrecognized (name : String)
  | repeated (field : String)
  | noFields
  deriving DecidableEq, Repr

/-- The failure for a refusal, given the text that the template is shown as. -/
def Refusal.toFailure (shown : String) : Refusal → Failure
  | .emptyTemplate => .of .configuration "Cannot build a grammar from an empty template."
  | .unrecognized name => .of .unrecognizedField s!"Unrecognized property {name}"
  | .repeated field =>
    .of .configuration s!"Field {field} is referenced more than once in {Text.quoted shown}"
  | .noFields =>
    .of .configuration s!"Template {Text.quoted shown} does not reference any fields."

def Refusal.cites : Refusal → Bool
  | .repeated _ => true
  | .noFields => true
  | _ => false

/-- A pattern being put together. `pending` says that a separator must stand before the next token,
`seen` keeps the normal forms of the fields so far. -/
structure Assembly where
  source : String
  pending : Bool
  slots : List Slot
  seen : List String
  unknown : List String
  deriving DecidableEq, Repr

namespace Assembly

/-- The start of every pattern: blanks may begin the line. -/
def start : Assembly := ⟨"^\\s*", false, [], [], []⟩

def separator : String := "\\s+"

def gap (a : Assembly) : String := if a.pending then separator else ""

def addField (a : Assembly) (f : Field) (optional : Bool) (key : String) : Assembly :=
  let slots := a.slots ++ [⟨f.name, f.embedded⟩]
  let seen := a.seen ++ [key]
  if !optional then
    { a with source := a.source ++ a.gap ++ "(" ++ f.pattern ++ ")", pending := true, slots, seen }
  else if a.pending then
    { a with source := a.source ++ "(?:" ++ a.gap ++ "(" ++ f.pattern ++ "))?", slots, seen }
  else
    { a with source := a.source ++ "(?:(" ++ f.pattern ++ ")(?:\\s+|(?=\\s*$)))?", slots, seen }

/-- Adds a fragment. A field is refused a second time. -/
def add (a : Assembly) : Fragment → Except Refusal Assembly
  | .plain text => .ok { a with source := a.source ++ a.gap ++ text, pending := true }
  | .unknown name text =>
    .ok { a with
      source := a.source ++ a.gap ++ text, pending := true, unknown := a.unknown ++ [name] }
  | .field f optional =>
    let key := nameKey f.name
    if a.seen.contains key then .error (.repeated f.name) else .ok (a.addField f optional key)

/-- The end of every pattern: blanks may end the line. -/
def finish (a : Assembly) : String := a.source ++ "\\s*$"

end Assembly

namespace GrammarBuilder

def resolve (b : GrammarBuilder) : TemplateToken → Except Refusal Fragment
  | .literal text => .ok (.plain text)
  | .reference name optional raw =>
    match NameTable.get? b.fields (.text name) with
    | some f => .ok (.field f (f.optional || optional))
    | none =>
      match b.unknown with
      | .strict => .error (.unrecognized name)
      | .lenient => .ok (.unknown name (if raw.isEmpty then name else raw))

/-- Adds tokens in order, up to the first one that is refused. -/
def extend (b : GrammarBuilder) (a : Assembly) : List TemplateToken → Assembly × Option Refusal
  | [] => (a, if a.slots.isEmpty then some .noFields else none)
  | token :: rest =>
    match (b.resolve token).bind a.add with
    | .ok next => b.extend next rest
    | .error refusal => (a, some refusal)

def assemble (b : GrammarBuilder) (tokens : List TemplateToken) : Assembly × Option Refusal :=
  if tokens.isEmpty then (.start, some .emptyTemplate) else b.extend .start tokens

end GrammarBuilder
end LineCommand
