import LineCommand.Outcome.Basic
import LineCommand.Value.Written

/-! Where a result is to be shown, which decides how it is worded. -/
namespace LineCommand

inductive FormatTarget
  | text
  | markdown
  | embed
  deriving DecidableEq, Repr, Inhabited

namespace FormatTarget

def all : List FormatTarget := [text, markdown, embed]

def word : FormatTarget → String
  | text => "text"
  | markdown => "markdown"
  | embed => "embed"

def toValue (t : FormatTarget) : Value := .text t.word

def ofValue? (v : Value) : Option FormatTarget :=
  v.text?.bind fun s => all.find? (·.word == s)

def ofValue (v : Value) : Except Fault FormatTarget :=
  match ofValue? v with
  | some t => .ok t
  | none => do .error (.badValue s!"{← v.shown} is not a valid FormatTarget")

/-- The destination that a value names, or a failure that cites the value and lists all
destinations. -/
def resolve (v : Value) : Except Fault (Outcome FormatTarget) :=
  match ofValue? v with
  | some t => .ok (.ok t)
  | none => do
    let expected := Text.joined ", " (all.map word)
    .ok (fail .format s!"Unknown format target {← v.shown}; expected one of {expected}.")

@[simp] theorem ofValue?_toValue (t : FormatTarget) : ofValue? t.toValue = some t := by
  cases t <;> rfl

@[simp] theorem resolve_toValue (t : FormatTarget) : resolve t.toValue = .ok (.ok t) := by
  simp [resolve]

end FormatTarget
end LineCommand
