import LineCommand.Name

/-!
Fields: named fragments of patterns. A field says whether it may be left out, and how many groups
its fragment has of its own. Fields are made of values that are checked, and what is wrong with these
cites them, so that there is a fault in its place where an integer is too long to be written.
-/
namespace LineCommand

/-- A field. `embedded` is declared, not counted. -/
structure Field where
  name : String
  pattern : String
  optional : Bool := false
  embedded : Int := 0
  deriving DecidableEq, Repr, Inhabited

namespace Field

/-- How many groups a field brings to a pattern: one around it and those of its own. -/
def captures (f : Field) : Int := 1 + f.embedded

def create (name pattern optional embedded : Value) : Outcome Field :=
  match name.text? with
  | none => refuse s!"Field name must be a non-empty string, got {name.written}."
  | some nameText =>
    if (Text.trimmed nameText).isEmpty then
      refuse s!"Field name must be a non-empty string, got {name.written}."
    else
      match pattern.text? with
      | none => refuse s!"Field {nameText}: pattern must be a non-empty string."
      | some patternText =>
        if patternText.isEmpty then
          refuse s!"Field {nameText}: pattern must be a non-empty string."
        else
          match embedded with
          | .int n =>
            if n < 0 then
              refuse s!"Field {nameText}: embedded_captures must be >= 0, got {n}."
            else .ok ⟨Text.trimmed nameText, patternText, optional.isTrue, n⟩
          | _ => refuse s!"Field {nameText}: embedded_captures must be an integer."
where
  refuse (message : String) : Outcome Field := fail .configuration message

/-- Whether what is said about a field can be written. A count is cited where it is negative and nothing
else is wrong. -/
def citable (name pattern embedded : Value) : Bool :=
  match embedded, create name pattern .none (.int 0) with
  | .int n, .ok _ => 0 ≤ n || withinDigitLimit n
  | _, _ => true

end Field

abbrev FieldRegistry := NameTable Field

namespace FieldRegistry

def addField (r : FieldRegistry) (f : Field) : Outcome FieldRegistry :=
  NameTable.add r (.text f.name) f

/-- Registers fields in order; the first one that is refused is a fault. -/
def ofFields (fields : List Field) : Except Fault FieldRegistry :=
  fields.foldlM (fun r f => Outcome.get (addField r f)) NameTable.empty

def fieldOf (name spec : Value) : Outcome Field :=
  match spec with
  | .dict entries =>
    Field.create (.text name.plain)
      ((Value.get? entries "pattern").getD .none)
      ((Value.get? entries "optional").getD (.bool false))
      ((Value.get? entries "embedded_captures").getD (.int 0))
  | _ => .error ⟨s!"Field {name.plain}: definition must be a mapping.", .none⟩

def fill (r : FieldRegistry) : List (Value × Value) → FieldRegistry × List (Outcome Unit)
  | [] => (r, [])
  | (name, spec) :: rest =>
    match (fieldOf name spec).bind (addField r) with
    | .ok next => let (final, outcomes) := fill next rest; (final, .ok () :: outcomes)
    | .error f => let (final, outcomes) := fill r rest; (final, .error f :: outcomes)

/-- A registry from definitions by name. A failure lists every entry at fault. -/
def ofEntries (entries : List (Value × Value)) : Outcome FieldRegistry :=
  let (registry, outcomes) := fill NameTable.empty entries
  (Outcome.allSucceed outcomes registry).withKind .configuration

/-- Whether what is said about an entry can be written. -/
def citable (name spec : Value) : Bool :=
  name.sayable &&
    match spec with
    | .dict entries =>
      Field.citable (.text name.plain)
        ((Value.get? entries "pattern").getD .none)
        ((Value.get? entries "embedded_captures").getD (.int 0))
    | _ => true

/-- A registry from definitions by name, if all that is said about them can be written. -/
def load (entries : List (Value × Value)) : Except Fault (Outcome FieldRegistry) :=
  if entries.all fun e => citable e.1 e.2 then .ok (ofEntries entries)
  else .error .tooLong

theorem load_eq_ok_iff {entries : List (Value × Value)} {o : Outcome FieldRegistry} :
    load entries = .ok o ↔ (∀ e ∈ entries, citable e.1 e.2 = true) ∧ ofEntries entries = o := by
  rw [load, ← List.all_eq_true]
  cases entries.all fun e => citable e.1 e.2 <;> simp

end FieldRegistry
end LineCommand
