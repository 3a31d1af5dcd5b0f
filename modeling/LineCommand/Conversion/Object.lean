import LineCommand.Conversion.Basic
import LineCommand.Text.Lines

/-!
Converters for objects, which are dictionaries and values with members. Every key is tried before
anything is reported, so that one failure lists all keys that are at fault.
-/
namespace LineCommand

namespace Value

/-- Whether members can be taken out of a value. -/
def isObject : Value → Bool
  | none => false
  | bool _ => false
  | int _ => false
  | float _ => false
  | text _ => false
  | kind _ => false
  | bytes _ => false
  | list _ => false
  | tuple _ => false
  | set _ => false
  | _ => true

def project? (v : Value) (name : String) : Option Value :=
  match v with
  | dict entries => get? entries name
  | v => v.member? name

end Value

namespace Converter

def inField (name : String) (o : Outcome Value) : Outcome Value :=
  o.mapError fun failure => { failure with message := s!"Field {name}: {failure.message}" }

/-- Refuses to take a field out of a value that has no members. -/
def noObject (name : String) (v : Value) : Except Fault (Outcome Value) :=
  reject s!"Cannot convert field \"{name}\" from non-object " v

def field (name : String) (c : Converter) : Converter where
  convert v :=
    if !v.isObject then noObject name v
    else
      match v.project? name with
      | none => reject s!"Field {name} not found in: " v
      | some member => (c.convert member).map (inField name)

/-- Converts the member of an object under a name, if there is one. An absent value that fails to
convert stays absent. -/
def optionalField (name : String) (c : Converter) : Converter where
  convert v :=
    if !v.isObject then noObject name v
    else
      match v.project? name with
      | none => .ok (.ok .none)
      | some member => do
        match ← c.convert member with
        | .ok converted => .ok (.ok converted)
        | .error failure =>
          .ok (if member.isNone then .ok .none else inField name (.error failure))

/-- The outcomes of converters under keys, all given the same value. -/
def eachKey (v : Value) :
    List (String × Converter) → Except Fault (List (String × Outcome Value))
  | [] => .ok []
  | (key, c) :: rest => do
    let outcome ← c.convert v
    let others ← eachKey v rest
    .ok ((key, outcome) :: others)

/-- The dictionary of what was converted, or all messages. Absent values are left out. -/
def assembled (outcomes : List (String × Outcome Value)) : Outcome Value :=
  let problems := Outcome.messages (outcomes.map (·.2))
  if problems.isEmpty then
    .ok (.dict (outcomes.filterMap fun (key, outcome) =>
      match outcome with
      | .ok v => if v.isNone then none else some (.text key, v)
      | .error _ => none))
  else fail .conversion (Text.joined "\n" problems)

/-- Builds a dictionary of another shape: every converter is given the whole value. -/
def transform (fields : List (String × Converter)) : Converter where
  convert v := (eachKey v fields).map assembled

end Converter

/-- A converter that takes every key out of an object by the same name. -/
structure ObjectConverter where
  fields : List (String × Converter)
  optional : List String
  deriving Inhabited

namespace ObjectConverter

def extractor (o : ObjectConverter) : String × Converter → String × Converter
  | (key, c) =>
    (key, if o.optional.contains key then .optionalField key c else .field key c)

def toConverter (o : ObjectConverter) : Converter := .transform (o.fields.map o.extractor)

def withOptional (o : ObjectConverter) (names : List String) : ObjectConverter :=
  { o with optional := names }

def addOptional (o : ObjectConverter) (names : List String) : ObjectConverter :=
  o.withOptional (o.optional ++ names)

end ObjectConverter
end LineCommand
