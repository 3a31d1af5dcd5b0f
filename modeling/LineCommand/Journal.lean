import LineCommand.Outcome.Basic

/-!
The journal of a computation. Running a command's executor and leaving a note are events; an `Act`
is an answer or a fault together with the events on the way to it, in order.
-/
namespace LineCommand

inductive NoteLevel
  | debug
  | info
  | warning
  | error
  deriving DecidableEq, Repr

inductive Origin
  | compiler
  | command
  | processor
  | group
  | catalog
  deriving DecidableEq, Repr

structure Note where
  level : NoteLevel
  origin : Origin
  text : String
  deriving DecidableEq, Repr

inductive Event
  /-- The executor of a command is run. -/
  | ran (command : String)
  | noted (note : Note)
  deriving DecidableEq, Repr

/-- An answer, or the fault in its place, and the events on the way. -/
structure Act (α : Type) where
  events : List Event
  answer : Except Fault α

namespace Act

variable {α β : Type}

protected def pure (a : α) : Act α := ⟨[], .ok a⟩

/-- One act after another; a fault is the end. -/
protected def bind (x : Act α) (f : α → Act β) : Act β :=
  match x.answer with
  | .error fault => ⟨x.events, .error fault⟩
  | .ok a => ⟨x.events ++ (f a).events, (f a).answer⟩

protected def map (f : α → β) (x : Act α) : Act β := ⟨x.events, x.answer.map f⟩

instance : Monad Act where
  pure := Act.pure
  bind := Act.bind

@[simp] theorem events_pure (a : α) : (pure a : Act α).events = [] := rfl

@[simp] theorem answer_pure (a : α) : (pure a : Act α).answer = .ok a := rfl

theorem answer_bind (x : Act α) (f : α → Act β) :
    (x >>= f).answer = x.answer.bind fun a => (f a).answer := by
  change (Act.bind x f).answer = _
  unfold Act.bind
  cases x.answer <;> rfl

/-- Acts that follow each other answer if each of them does. -/
theorem answer_bind_eq_ok_iff {x : Act α} {f : α → Act β} {b : β} :
    (x >>= f).answer = .ok b ↔ ∃ a, x.answer = .ok a ∧ (f a).answer = .ok b := by
  rw [answer_bind]
  cases x.answer <;> simp [Except.bind]

protected theorem bind_pure (x : Act α) : (x >>= fun a => pure a) = x := by
  change Act.bind x _ = x
  obtain ⟨events, answer⟩ := x
  cases answer with
  | error fault => rfl
  | ok a => exact congrArg (Act.mk · _) (List.append_nil events)

def ofExcept (answer : Except Fault α) : Act α := ⟨[], answer⟩

def raise (fault : Fault) : Act α := ⟨[], .error fault⟩

def note (level : NoteLevel) (origin : Origin) (text : String) : Act Unit :=
  ⟨[.noted ⟨level, origin, text⟩], .ok ()⟩

def ran (command : String) : Act Unit := ⟨[.ran command], .ok ()⟩

/-- Turns a fault into a failure, as `Outcome.capture` does; the events stay. -/
def capture (x : Act α) : Act (Outcome α) := ⟨x.events, Outcome.capture x.answer⟩

/-- The answer or the fault, either of them as an answer; the events stay. -/
def attempt (x : Act α) : Act (Except Fault α) := ⟨x.events, .ok x.answer⟩

def runs (x : Act α) : List String :=
  x.events.filterMap fun
    | .ran command => some command
    | .noted _ => none

def notes (x : Act α) : List Note :=
  x.events.filterMap fun
    | .ran _ => none
    | .noted note => some note

@[simp] theorem runs_pure (a : α) : (pure a : Act α).runs = [] := rfl

theorem runs_bind (x : Act α) (f : α → Act β) :
    (x >>= f).runs = x.runs ++
      match x.answer with
      | .ok a => (f a).runs
      | .error _ => [] := by
  change (Act.bind x f).runs = _
  unfold Act.bind
  cases x.answer <;> simp [runs]

@[simp] theorem answer_ofExcept (answer : Except Fault α) : (ofExcept answer).answer = answer := rfl

@[simp] theorem runs_ofExcept (answer : Except Fault α) : (ofExcept answer).runs = [] := rfl

@[simp] theorem answer_raise (fault : Fault) : (raise fault : Act α).answer = .error fault := rfl

@[simp] theorem runs_raise (fault : Fault) : (raise fault : Act α).runs = [] := rfl

@[simp] theorem answer_note (level : NoteLevel) (origin : Origin) (text : String) :
    (note level origin text).answer = .ok () := rfl

@[simp] theorem runs_note (level : NoteLevel) (origin : Origin) (text : String) :
    (note level origin text).runs = [] := rfl

@[simp] theorem answer_ran (command : String) : (ran command).answer = .ok () := rfl

@[simp] theorem runs_ran (command : String) : (ran command).runs = [command] := rfl

end Act
end LineCommand
