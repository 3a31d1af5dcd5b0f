import LineCommand.Pattern.Reading

/-!
Matching a pattern at a place of a text. The choices of a pattern are tried in order, and the first
one with which everything after it can be matched too is taken; `run` says so by a continuation,
which stands for what is still to be matched.
-/
namespace LineCommand

/-- A place in a text: what lies behind it, backwards, and what lies ahead. `position` counts the
characters behind. -/
structure Cursor where
  position : Nat
  behind : List Char
  ahead : List Char
  deriving DecidableEq, Repr

namespace Cursor

def start (text : List Char) : Cursor := ⟨0, [], text⟩

/-- The place before the character just passed. -/
def back : Cursor → Option Cursor
  | ⟨position, c :: behind, ahead⟩ => some ⟨position - 1, behind, c :: ahead⟩
  | ⟨_, [], _⟩ => none

def backBy : Nat → Cursor → Option Cursor
  | 0, c => some c
  | n + 1, c => c.back.bind (backBy n)

end Cursor

structure Span where
  start : Nat
  stop : Nat
  deriving DecidableEq, Repr

/-- A place reached, and what the groups have matched on the way; group one comes first. -/
structure MatchState where
  cursor : Cursor
  spans : List (Option Span)
  deriving DecidableEq, Repr

namespace MatchState

def span? (st : MatchState) (index : Nat) : Option Span :=
  if index = 0 then none else st.spans[index - 1]?.join

def remember (st : MatchState) (index : Nat) (span : Span) : MatchState :=
  { st with spans := st.spans.set (index - 1) (some span) }

/-- The characters between two places, which may lie on either side of the cursor. -/
def between (st : MatchState) (span : Span) : List Char :=
  let here := st.cursor.position
  ((st.cursor.behind.take (here - span.start)).reverse.take (span.stop - span.start))
    ++ (st.cursor.ahead.take (span.stop - here)).drop (span.start - here)

end MatchState

/-- What is still to be matched, as a test that may go on to an end state. -/
abbrev Goal := MatchState → Option MatchState

/-- Whether the places before and after are of different kinds: inside a word and outside. An empty
text has no such places, and none of the other sort. -/
def Anchor.boundaryHolds (ascii negated : Bool) (c : Cursor) : Bool :=
  let inWord (x : Option Char) := x.any (CharKind.word.holds ascii)
  if c.behind.isEmpty ∧ c.ahead.isEmpty then false
  else (inWord c.behind.head? != inWord c.ahead.head?) != negated

def Anchor.holds (c : Cursor) : Anchor → Bool
  | .textStart => c.behind.isEmpty
  | .lineStart => c.behind.head?.all (· == '\n')
  | .textEnd => c.ahead.isEmpty
  | .lastLineEnd => c.ahead.isEmpty || c.ahead == ['\n']
  | .lineEnd => c.ahead.head?.all (· == '\n')
  | .boundary ascii negated => boundaryHolds ascii negated c

namespace Pattern

def runOne (set : CharSet) (goal : Goal) (st : MatchState) : Option MatchState :=
  match st.cursor.ahead with
  | [] => none
  | c :: rest =>
    if set.holds c then
      goal { st with cursor := ⟨st.cursor.position + 1, c :: st.cursor.behind, rest⟩ }
    else none

/-- Passes given characters, each one up to a comparison. -/
def runText (fold : Fold) (goal : Goal) : List Char → Goal
  | [], st => goal st
  | t :: text, st =>
    match st.cursor.ahead with
    | [] => none
    | c :: rest =>
      if fold.common c.toNat == fold.common t.toNat then
        runText fold goal text
          { st with cursor := ⟨st.cursor.position + 1, c :: st.cursor.behind, rest⟩ }
      else none

def rounds (body : Goal → Goal) (goal : Goal) : Nat → Goal
  | 0, st => goal st
  | n + 1, st => body (rounds body goal n) st

/-- Up to a number of further rounds, rather more than fewer. A round that leaves the place where
the round before it began is the last one; `began` is that place. -/
def moreRounds (body : Goal → Goal) (goal : Goal) : Nat → Option Nat → Goal
  | 0, _, st => goal st
  | n + 1, began, st =>
    let here := some st.cursor.position
    if began = here then goal st
    else
      match body (moreRounds body goal n here) st with
      | some last => some last
      | none => goal st

/-- Up to a number of further rounds, rather fewer than more. -/
def fewerRounds (body : Goal → Goal) (goal : Goal) : Nat → Option Nat → Goal
  | 0, _, st => goal st
  | n + 1, began, st =>
    let here := some st.cursor.position
    match goal st with
    | some last => some last
    | none => if began = here then none else body (fewerRounds body goal n here) st

/-- As many further rounds as there are, each settled before the next. -/
def allRounds (body : Goal → Goal) : Nat → Option Nat → MatchState → MatchState
  | 0, _, st => st
  | n + 1, began, st =>
    let here := some st.cursor.position
    if began = here then st
    else
      match body some st with
      | some next => allRounds body n here next
      | none => st

/-- A number of rounds, each settled before the next. -/
def settledRounds (body : Goal → Goal) : Nat → MatchState → Option MatchState
  | 0, st => some st
  | n + 1, st => (body some st).bind (settledRounds body n)

/-- How many rounds may follow the ones that must be made: as many as the bounds leave, but no more
than there are characters ahead, and one that is empty. -/
def roundsLeft (low : Nat) (high : Option Nat) (st : MatchState) : Nat :=
  let room := st.cursor.ahead.length + 1
  match high with
  | none => room
  | some high => min (high - low) room

/-- Tries a pattern at a place, and what is still to be matched after it. -/
def run : Pattern → Goal → Goal
  | empty, goal => goal
  | one set, goal => runOne set goal
  | anchor a, goal => fun st => if a.holds st.cursor then goal st else none
  | seq first rest, goal => first.run (rest.run goal)
  | alt left right, goal => fun st =>
    match left.run goal st with
    | some last => some last
    | none => right.run goal st
  | group index body, goal => fun st =>
    body.run (fun last => goal (last.remember index ⟨st.cursor.position, last.cursor.position⟩)) st
  | again low high .greedy body, goal =>
    rounds body.run (fun st => moreRounds body.run goal (roundsLeft low high st) none st) low
  | again low high .lazy body, goal =>
    rounds body.run (fun st => fewerRounds body.run goal (roundsLeft low high st) none st) low
  | again low high .possessive body, goal => fun st =>
    (settledRounds body.run low st).bind fun settled =>
      goal (allRounds body.run (roundsLeft low high settled) none settled)
  | atomic body, goal => fun st => (body.run some st).bind goal
  | look side negated body, goal => fun st =>
    let from? :=
      match side with
      | .ahead => some st.cursor
      | .behind width => st.cursor.backBy width.least
    let found := from?.bind fun cursor => body.run some { st with cursor }
    if negated then if found.isSome then none else goal st
    else found.bind fun last => goal { st with spans := last.spans }
  | back index fold, goal => fun st =>
    match st.span? index with
    | none => none
    | some span => runText fold goal (st.between span) st
  | cond index yes no, goal => fun st =>
    if (st.span? index).isSome then yes.run goal st else no.run goal st

end Pattern

/-- The texts of the groups of an expression in its match at the start of a line, if it matches. -/
def Expression.match? (e : Expression) (line : List Char) : Option (List (Option (List Char))) :=
  (e.pattern.run some ⟨.start line, List.replicate e.groups none⟩).map fun last =>
    last.spans.map fun span? => span?.map fun span =>
      (line.drop span.start).take (span.stop - span.start)

end LineCommand
