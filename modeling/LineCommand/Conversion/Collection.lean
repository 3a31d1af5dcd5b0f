import LineCommand.Conversion.Basic

/-!
Converters for alternatives, arrays and records. What converts to an absent value is left out. In
one error mode the failure of a part is the failure of the whole, in the other it is passed over.
-/
namespace LineCommand.Converter

/-- The first alternative that converts a value to one that is not absent, if no failure before it
ends the search. Otherwise the messages of the failures, in order. -/
def firstOf (onError : OnError) (v : Value) :
    List Converter → Except Fault (Outcome Value ⊕ List String)
  | [] => .ok (.inr [])
  | c :: rest => do
    match ← c.convert v with
    | .ok converted =>
      if converted.isNone then firstOf onError v rest else .ok (.inl (.ok converted))
    | .error failure =>
      match onError with
      | .failOnError => .ok (.inl (.error failure))
      | .ignoreErrors => do
        match ← firstOf onError v rest with
        | .inl outcome => .ok (.inl outcome)
        | .inr messages => .ok (.inr (failure.message :: messages))

def oneOf (candidates : List Converter) (onError : OnError := .ignoreErrors) : Converter where
  convert v := do
    match ← firstOf onError v candidates with
    | .inl outcome => .ok outcome
    | .inr messages =>
      let found := s!"No matching decoder for {← v.describe}"
      let problems := Text.joined "\n" messages
      refuse (if problems.isEmpty then found else found ++ ":\n" ++ problems)

structure Harvest (α : Type) where
  values : List α := []
  messages : List String := []

def eachItem (c : Converter) : List Value → Except Fault (Harvest Value)
  | [] => .ok {}
  | item :: rest => do
    let outcome ← c.convert item
    let others ← eachItem c rest
    match outcome with
    | .ok converted =>
      .ok (if converted.isNone then others
        else { others with values := converted :: others.values })
    | .error failure => .ok { others with messages := failure.message :: others.messages }

def Harvest.outcome {α : Type} (h : Harvest α) (onError : OnError) (whole : List α → Value) :
    Outcome Value :=
  if !h.messages.isEmpty && onError == .failOnError then
    fail .conversion (Text.joined "\n" h.messages)
  else .ok (whole h.values)

def items? : Value → Option (List Value)
  | .list items => some items
  | .tuple items => some items
  | _ => none

def arrayOf (c : Converter) (onError : OnError := .failOnError) : Converter where
  convert v :=
    match items? v with
    | none => reject "Not an array: " v
    | some items => (eachItem c items).map (·.outcome onError .list)

/-- Converts the value of every entry. Keys have to be texts. -/
def eachEntry (c : Converter) :
    List (Value × Value) → Except Fault (Harvest (Value × Value))
  | [] => .ok {}
  | (key, item) :: rest =>
    match key.text? with
    | none => do
      let shown ← key.describe
      let others ← eachEntry c rest
      .ok { others with messages := s!"Key {shown} is not a string" :: others.messages }
    | some _ => do
      let outcome ← c.convert item
      let others ← eachEntry c rest
      match outcome with
      | .ok converted =>
        .ok (if converted.isNone then others
          else { others with values := (key, converted) :: others.values })
      | .error failure =>
        .ok { others with messages := s!"{key.plain}: {failure.message}" :: others.messages }

def recordOf (c : Converter) (onError : OnError := .failOnError) : Converter where
  convert v :=
    match v with
    | .dict entries => (eachEntry c entries).map (·.outcome onError .dict)
    | v => reject "Not a string-keyed object: " v

end LineCommand.Converter
