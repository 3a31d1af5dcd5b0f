import LineCommand.Outcome.Basic
import LineCommand.Text.Blank
import LineCommand.Text.Case
import LineCommand.Text.Word
import LineCommand.Value.Written

/-!
Names that differ only in case, padding or punctuation are one name. A `NameTable` lists what is
registered under names, in the order of registration; the first to take a name keeps it.
-/
namespace LineCommand

def nameKey (name : String) : String :=
  String.ofList ((Text.lower (Text.trim name.toList)).filter Text.isWordChar)

/-- The normal form of a name; there is none of an empty name, or of what is no text. -/
def normalizeName (name : Value) : Outcome String :=
  match name.text? with
  | none => .error ⟨s!"Cannot normalize a name of type {name.typeName}.", .none⟩
  | some text =>
    let key := nameKey text
    if key.isEmpty then .error ⟨s!"Cannot normalize empty name {name.written}.", .none⟩ else .ok key

/-- What is registered under a name: the normal form, the spelling, the value. -/
structure NameEntry (α : Type) where
  key : String
  spelling : String
  value : α
  deriving Repr

structure NameTable (α : Type) where
  entries : List (NameEntry α) := []
  deriving Repr

namespace NameTable

variable {α : Type}

def empty : NameTable α := ⟨[]⟩

def find? (t : NameTable α) (key : String) : Option (NameEntry α) :=
  t.entries.find? (·.key == key)

def add (t : NameTable α) (name : Value) (value : α) : Outcome (NameTable α) :=
  match normalizeName name with
  | .error f => fail .configuration f.message
  | .ok key =>
    match t.find? key with
    | some entry =>
      fail .duplicateName
        s!"Duplicate name {name.written} (already registered as {Text.quoted entry.spelling})."
    | none => .ok ⟨t.entries ++ [⟨key, name.plain, value⟩]⟩

def get? (t : NameTable α) (name : Value) : Option α :=
  match normalizeName name with
  | .error _ => none
  | .ok key => (t.find? key).map (·.value)

def holds (t : NameTable α) (name : Value) : Bool := name.text?.isSome && (t.get? name).isSome

def names (t : NameTable α) : List String := t.entries.map (·.spelling)

def values (t : NameTable α) : List α := t.entries.map (·.value)

def size (t : NameTable α) : Nat := t.entries.length

/-! ### Tables of values

An absent value counts as no value. -/

def value? (t : NameTable Value) (name : Value) : Option Value :=
  (t.get? name).filter fun v => !v.isNone

def getStrict (t : NameTable Value) (name : Value) : Except Fault (Outcome Value) :=
  match t.value? name with
  | some v => .ok (.ok v)
  | none => do .ok (.error ⟨s!"Element {← name.shown} does not exist.", .none⟩)

def holdsValue (t : NameTable Value) (name : Value) : Bool :=
  name.text?.isSome && (t.value? name).isSome

end NameTable
end LineCommand
