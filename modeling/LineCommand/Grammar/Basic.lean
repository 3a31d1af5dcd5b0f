import LineCommand.Grammar.Assembly
import LineCommand.Journal
import LineCommand.Pattern.Matching

/-!
Grammars: a pattern for whole lines, and which of its groups belong to which field. A grammar whose
fields declare another number of groups than the pattern has gives no fields at all.
-/
namespace LineCommand

structure Grammar where
  expression : Expression
  slots : List Slot
  template : String
  deriving DecidableEq, Repr

/-- Texts of fields, in the order of the template; a field that was left out has none. -/
abbrev FieldTexts := List (String × Option String)

def FieldTexts.toValue (fields : FieldTexts) : Value :=
  .dict (fields.map fun (name, text?) => (.text name, (text?.map Value.text).getD .none))

/-- A stretch of a list between two places; a negative place counts from the end. -/
def stretch {α : Type} (xs : List α) (start stop : Int) : List α :=
  let place (i : Int) : Nat := if i < 0 then (i + xs.length).toNat else i.toNat
  (xs.take (place stop)).drop (place start)

namespace Grammar

def fields (g : Grammar) : List String := g.slots.map (·.name)

def expected (g : Grammar) : Int := (g.slots.map Slot.captures).foldr (· + ·) 0

/-- The text of a field from the groups of its slot: that of the first group of its own which took
part, else that of the group around it. -/
def slotText (groups : List (Option (List Char))) : Except Fault (Option String) :=
  match groups with
  | [] => .error (.of .badIndex "tuple index out of range")
  | whole :: own =>
    let found := ((own.find? Option.isSome).getD whole)
    .ok (found.map fun text => String.ofList (Text.trim text))

/-- Gives every slot its groups, from the place `start` on. -/
def assign (captures : List (Option (List Char))) (start : Int) :
    List Slot → Except Fault FieldTexts
  | [] => .ok []
  | slot :: rest => do
    let stop := start + slot.captures
    let text ← slotText (stretch captures start stop)
    let others ← assign captures stop rest
    .ok ((slot.name, text) :: others)

inductive Reading
  | noMatch
  | mismatch (found : Nat)
  | fields (texts : FieldTexts)
  deriving DecidableEq, Repr

def read (g : Grammar) (line : String) : Except Fault Reading :=
  match g.expression.match? line.toList with
  | none => .ok .noMatch
  | some captures =>
    if (captures.length : Int) ≠ g.expected then .ok (.mismatch captures.length)
    else (assign captures 0 g.slots).map .fields

/-- Fails because a line has given another number of groups than the fields declare. No note can
be written either where the declared number has too many digits. -/
def mismatched {α : Type} (g : Grammar) (found : Nat) : Act (Outcome α) := do
  let expected ← Act.ofExcept (Value.int g.expected).said
  .note .error .compiler
    s!"Grammar {Text.quoted g.template} produced {found} captures but its fields declare {expected}"
  pure (fail .mismatchedCaptures
    s!"Mismatched capture count: got {found}, expected {expected}")

/-- Reads a line. A line that does not match has no fields, which is no failure. -/
def parse (g : Grammar) (line : Value) : Act (Outcome (Option FieldTexts)) :=
  match line.text? with
  | none => do
    let shown ← Act.ofExcept line.shown
    pure (fail .conversion s!"Cannot parse non-string input {shown}.")
  | some text =>
    match g.read text with
    | .error fault => .raise fault
    | .ok .noMatch => pure (.ok none)
    | .ok (.fields texts) => pure (.ok (some texts))
    | .ok (.mismatch found) => g.mismatched found

end Grammar

namespace GrammarBuilder

def make (fields : List Field) (unknown : Value) (flags : PatternFlags) :
    Except Fault GrammarBuilder := do
  let registry ← FieldRegistry.ofFields fields
  ofRegistry registry unknown flags
where
  ofRegistry (registry : FieldRegistry) (unknown : Value) (flags : PatternFlags) :
      Except Fault GrammarBuilder :=
    if registry.size = 0 then
      .error (.badValue "GrammarBuilder needs at least one field descriptor.")
    else (UnknownFields.ofValue unknown).map fun policy => ⟨registry, policy, flags⟩

def create (fields : List Field) (unknown : Value) (flags : PatternFlags) :
    Except Fault (Outcome GrammarBuilder) :=
  (Outcome.capture (make fields unknown flags)).map (.withKind .configuration)

def createFrom (registry : FieldRegistry) (unknown : Value) :
    Except Fault (Outcome GrammarBuilder) :=
  (Outcome.capture (make.ofRegistry registry unknown {})).map (.withKind .configuration)

/-- The failure for a refusal; a template that cannot be shown is a fault. -/
def refusalFailure (t : Template) (r : Refusal) : Except Fault Failure :=
  if r.cites then t.shown.map r.toFailure else .ok (r.toFailure "")

/-- The assembly of a template. Every reference that stands for its own text leaves a note. -/
def assembleNoted (b : GrammarBuilder) (t : Template) : Act (Outcome Assembly) := do
  let tokens ← Act.ofExcept t.tokens
  let (assembly, refusal?) := b.assemble tokens
  assembly.unknown.forM fun name =>
    .note .warning .compiler s!"Unknown field {Text.quoted name} treated as a literal fragment"
  match refusal? with
  | none => pure (.ok assembly)
  | some refusal => do
    let failure ← Act.ofExcept (refusalFailure t refusal)
    pure (.error failure)

def buildSource (b : GrammarBuilder) (t : Template) : Act (Outcome String) := do
  let assembled ← b.assembleNoted t
  pure (assembled.map Assembly.finish)

def build (b : GrammarBuilder) (t : Template) : Act (Outcome Grammar) := do
  match ← b.assembleNoted t with
  | .error failure => pure (.error failure)
  | .ok assembly =>
    let source := assembly.finish
    let shown ← Act.ofExcept t.shown
    match Expression.read b.flags source with
    | .error misreading =>
      pure (fail .configuration
        (s!"Template {Text.quoted shown} is not a valid expression: "
          ++ misreading.message source.toList))
    | .ok expression => do
      .note .debug .compiler s!"Compiled {Text.quoted shown} -> {source}"
      pure (.ok ⟨expression, assembly.slots, shown⟩)

end GrammarBuilder
end LineCommand
