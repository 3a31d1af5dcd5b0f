import LineCommand.Fault
import LineCommand.Text.Lines

/-!
Outcomes: a value, or a failure with a message and a detail. Several outcomes are taken together
into one, whose message joins those of the failures line by line.
-/
namespace LineCommand

/-- Why there is no value: a message for people, and a detail for programs, normally a kind. -/
structure Failure where
  message : String
  detail : Value := .none
  deriving Repr, Inhabited

theorem except_bind_eq_ok_iff {ε α β : Type} {x : Except ε α} {f : α → Except ε β} {b : β} :
    (x >>= f) = .ok b ↔ ∃ a, x = .ok a ∧ f a = .ok b := by
  cases x <;> simp [bind, Except.bind]

theorem except_map_eq_ok_iff {ε α β : Type} {x : Except ε α} {f : α → β} {b : β} :
    x.map f = .ok b ↔ ∃ a, x = .ok a ∧ f a = b := by
  cases x <;> simp [Except.map]

theorem except_mapM_congr {α β ε : Type} {f g : α → Except ε β} {xs : List α}
    (same : ∀ x ∈ xs, f x = g x) : xs.mapM f = xs.mapM g := by
  induction xs with
  | nil => rfl
  | cons x xs ih =>
    obtain ⟨here, others⟩ := List.forall_mem_cons.mp same
    rw [List.mapM_cons, List.mapM_cons, here, ih others]

theorem toOption_eq_some_iff {α ε : Type} {x : Except ε α} {a : α} :
    x.toOption = some a ↔ x = .ok a := by
  cases x <;> simp [Except.toOption]

theorem bind_toOption_eq_some_iff {α ε ε' : Type} {x : Except ε (Except ε' α)} {a : α} :
    x.toOption.bind Except.toOption = some a ↔ x = .ok (.ok a) := by
  simp only [Option.bind_eq_some_iff, toOption_eq_some_iff, exists_eq_right]

abbrev Outcome (α : Type) := Except Failure α

def Failure.of (kind : FailureKind) (message : String) : Failure := ⟨message, .kind kind⟩

def fail {α : Type} (kind : FailureKind) (message : String) : Outcome α :=
  .error (.of kind message)

namespace Outcome

variable {α : Type}

def toValue : Outcome Value → Value
  | .ok v => .success v
  | .error f => .failure f.message f.detail

def ofValue? : Value → Option (Outcome Value)
  | .success v => some (.ok v)
  | .failure message detail => some (.error ⟨message, detail⟩)
  | _ => none

@[simp] theorem ofValue?_toValue (o : Outcome Value) : ofValue? o.toValue = some o := by
  cases o <;> rfl

def values (os : List (Outcome α)) : List α := os.filterMap Except.toOption

def messages (os : List (Outcome α)) : List String :=
  os.filterMap fun
    | .ok _ => none
    | .error f => some f.message

def all (os : List (Outcome α)) : Outcome (List α) :=
  let problems := messages os
  if problems.isEmpty then .ok (values os) else .error ⟨Text.joined "\n" problems, .none⟩

/-- The values there are. It fails only if there are failures and no value. -/
def some? (os : List (Outcome α)) : Outcome (List α) :=
  let problems := messages os
  if (values os).isEmpty && !problems.isEmpty then .error ⟨Text.joined "\n" problems, .none⟩
  else .ok (values os)

def allSucceed {β : Type} (os : List (Outcome α)) (value : β) : Outcome β :=
  (all os).map fun _ => value

def withKind (kind : FailureKind) (o : Outcome α) : Outcome α :=
  o.mapError fun f => .of kind f.message

/-- Takes the value out; a failure becomes a fault. -/
def get (o : Outcome α) : Except Fault α :=
  o.mapError fun f => .of .failedOutcome f.message

/-- The value, or another one in place of a failure or an absent value. -/
def getD (o : Outcome Value) (default : Value) : Value :=
  match o with
  | .ok v => if v.isNone then default else v
  | .error _ => default

/-- The answer of a function that may keep the outcome it was asked about by answering nothing. -/
def replacedBy (o : Outcome Value) (answer : Value) : Except Fault (Outcome Value) :=
  if answer.isNone then .ok o
  else
    match ofValue? answer with
    | some next => .ok next
    | none => .error (.noAttribute answer "is_success")

def onSuccess (o : Outcome Value) (f : Value → Except Fault Value) :
    Except Fault (Outcome Value) :=
  match o with
  | .ok v => f v >>= o.replacedBy
  | .error _ => .ok o

def onFailure (o : Outcome Value) (f : Value → Except Fault Value) :
    Except Fault (Outcome Value) :=
  match o with
  | .ok _ => .ok o
  | .error failure => f (.text failure.message) >>= o.replacedBy

/-- A fault as a failure, if there is anything to be said about it. -/
def capture (answer : Except Fault α) : Except Fault (Outcome α) :=
  match answer with
  | .ok a => .ok (.ok a)
  | .error fault => fault.summary.map fun message => .error ⟨message, .none⟩

@[simp] theorem capture_ok (a : α) : capture (.ok a) = .ok (.ok a) := rfl

@[simp] theorem capture_error_of (kind : FaultKind) (message : String) :
    capture (.error (.of kind message) : Except Fault α) =
      .ok (.error ⟨if message.isEmpty then kind.label else message, .none⟩) := rfl

def same (o p : Outcome Value) : Bool := o.toValue.same p.toValue

end Outcome
end LineCommand
