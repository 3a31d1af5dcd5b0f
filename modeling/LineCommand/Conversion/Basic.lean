import LineCommand.Outcome.Basic
import LineCommand.Value.Json

/-!
Converters take any value and give a more definite one, or a failure that says what is wrong. They
are functions; what makes a converter out of others keeps the faults of functions that users supply.
A failure describes the value that it is about, so there is a fault in its place where a value cannot
be described.
-/
namespace LineCommand

abbrev Callback := Value → Except Fault Value

/-- What becomes of an element or alternative that fails to convert. -/
inductive OnError
  | failOnError
  | ignoreErrors
  deriving DecidableEq, Repr

/-- A converter. A fault is none of its answers, but stands in their place. -/
structure Converter where
  convert : Value → Except Fault (Outcome Value)
  deriving Inhabited

def refuse (message : String) : Except Fault (Outcome Value) := .ok (fail .conversion message)

/-- Fails to convert a value, which is described behind the problem. -/
def reject (problem : String) (v : Value) : Except Fault (Outcome Value) := do
  refuse (problem ++ (← v.describe))

namespace Converter

/-- A converter that has an outcome for every value in which all integers can be written. -/
def Total (c : Converter) : Prop := ∀ v : Value, v.writable = true → ∃ o, c.convert v = .ok o

def ofOutcome (f : Value → Outcome Value) : Converter := ⟨fun v => .ok (f v)⟩

/-- The converter that a user's function is. Its replies have to be outcomes. -/
def ofCallback (f : Callback) : Converter where
  convert v := do
    let reply ← f v
    match Outcome.ofValue? reply with
    | some outcome => .ok outcome
    | none => .error (.noAttribute reply "is_failure")

def succeed : Converter := ofOutcome .ok

/-- Converts a value that may be absent. An absent one stays absent; one that fails to convert
becomes absent if errors are ignored. -/
def convertOptional (c : Converter) (onError : OnError) (v : Value) :
    Except Fault (Outcome Value) :=
  if v.isNone then .ok (.ok .none)
  else do
    match ← c.convert v with
    | .ok converted => .ok (.ok converted)
    | .error failure =>
      match onError with
      | .ignoreErrors => .ok (.ok .none)
      | .failOnError => .ok (.error failure)

def optional (c : Converter) (onError : OnError := .ignoreErrors) : Converter :=
  ⟨c.convertOptional onError⟩

def andThen (c next : Converter) : Converter where
  convert v := do
    match ← c.convert v with
    | .ok converted => next.convert converted
    | .error failure => .ok (.error failure)

/-- What the verdict of a constraint on a converted value makes of it: a truth value keeps or
refuses it, an outcome takes its place. -/
def judge (converted verdict : Value) : Except Fault (Outcome Value) :=
  match verdict with
  | .bool true => .ok (.ok converted)
  | .bool false => do
    .ok (.error ⟨s!"Value {← converted.describe} does not meet constraint.", .none⟩)
  | v =>
    match Outcome.ofValue? v with
    | some outcome => .ok outcome
    | none => do
      refuse (s!"Constraint on {← converted.describe} returned {← v.describe}, "
        ++ "expected a bool or a Result.")

def withConstraint (c : Converter) (constraint : Callback) : Converter where
  convert v := do
    match ← c.convert v with
    | .error failure => .ok (.error failure)
    | .ok converted => constraint converted >>= judge converted

end Converter
end LineCommand
