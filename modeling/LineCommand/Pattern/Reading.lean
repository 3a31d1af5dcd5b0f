import LineCommand.Pattern.Token

/-!
From tokens to a pattern. Reading goes through the tokens once, from the left, with a stack of the
parentheses that are open; `read` starts it on the tokens of a text and closes what is left.
-/
namespace LineCommand.Pattern

/-- What a part of a sequence is to a repetition that follows it. -/
inductive PartForm
  | anchor
  | repeated
  | plain
  deriving DecidableEq, Repr

structure Part where
  pattern : Pattern
  form : PartForm
  deriving DecidableEq, Repr

inductive Role
  | whole
  | capture (index : Nat)
  | plain
  | atomic
  /-- An assertion; `outermost` where it looks behind and is inside no other that does. -/
  | look (behind negated outermost : Bool)
  | condition (group : Nat)
  deriving DecidableEq, Repr

/-- An open pair of parentheses, or the whole text. Closed alternatives and the parts of the one
being read are kept backwards. -/
structure Scope where
  role : Role
  start : Nat
  flags : PatternFlags
  closed : List Pattern
  parts : List Part
  deriving DecidableEq, Repr

def Scope.alternatives (s : Scope) : List Pattern :=
  (sequence (s.parts.reverse.map Part.pattern) :: s.closed).reverse

def Scope.add (s : Scope) (p : Pattern) (form : PartForm) : Scope :=
  { s with parts := ⟨p, form⟩ :: s.parts }

/-- How far reading has come. -/
structure Progress where
  position : Nat
  scope : Scope
  outer : List Scope
  /-- The groups opened so far, from the first; each with its width once it is closed. -/
  groups : List (Option Width)
  names : List (String × Nat)
  /-- Inside an assertion that looks behind, the number that the first group opened there has. -/
  behindLimit : Option Nat
  /-- Numbers of groups in conditions, and where they are first named. -/
  wanted : List (Nat × Nat)
  unicodeAsked : Bool
  deriving DecidableEq, Repr

def Progress.start (flags : PatternFlags) : Progress :=
  { position := 0, scope := ⟨.whole, 0, flags, [], []⟩, outer := [], groups := [], names := [],
    behindLimit := none, wanted := [], unicodeAsked := false }

def Progress.groupWidth? (r : Progress) (index : Nat) : Option Width :=
  if index = 0 then none else r.groups[index - 1]?.join

def Progress.widths (r : Progress) (index : Nat) : Width := (r.groupWidth? index).getD (.exactly 0)

def refuse {α : Type} (complaint : Complaint) (position : Nat) : Except Misreading α :=
  .error ⟨complaint, some position⟩

/-- Inside an assertion that looks behind, only groups closed before it can be referred to. -/
def Progress.checkBehind (r : Progress) (index position : Nat) : Except Misreading Unit :=
  match r.behindLimit with
  | none => .ok ()
  | some limit =>
    if (r.groupWidth? index).isNone then refuse .openGroup position
    else if limit ≤ index then refuse .groupOfSameLookBehind position
    else .ok ()

def Progress.add (r : Progress) (p : Pattern) (form : PartForm := .plain) : Progress :=
  { r with scope := r.scope.add p form }

/-- A new innermost scope, which opens at the current place. -/
def Progress.enter (r : Progress) (role : Role) (flags : PatternFlags) : Progress :=
  { r with scope := ⟨role, r.position, flags, [], []⟩, outer := r.scope :: r.outer }

def Scope.set (s : Scope) (items : List SetItem) (negated : Bool) : Pattern :=
  .one ⟨items, negated, s.flags.fold, s.flags.ascii⟩

def Progress.refer (r : Progress) (index stop : Nat) : Except Misreading Progress := do
  r.checkBehind index stop
  .ok (r.add (.back index r.scope.flags.fold))

def Progress.repeatLast (r : Progress) (low : Nat) (high : Option Nat) (manner : Manner) :
    Except Misreading Progress :=
  match r.scope.parts with
  | [] => refuse .nothingToRepeat r.position
  | last :: rest =>
    match last.form with
    | .anchor => refuse .nothingToRepeat r.position
    | .repeated => refuse .multipleRepeat r.position
    | .plain =>
      .ok { r with scope := { r.scope with
              parts := ⟨.again low high manner last.pattern, .repeated⟩ :: rest } }

def Progress.nextAlternative (r : Progress) : Except Misreading Progress :=
  match r.scope.role, r.scope.closed with
  | .condition _, _ :: _ => refuse .threeBranches r.position
  | _, _ =>
    .ok { r with scope := { r.scope with
            closed := sequence (r.scope.parts.reverse.map Part.pattern) :: r.scope.closed
            parts := [] } }

def Scope.toPattern (s : Scope) (widths : Nat → Width) : Pattern :=
  let body := choice s.alternatives
  match s.role with
  | .capture index => .group index body
  | .atomic => .atomic body
  | .look behind negated _ =>
    .look (if behind then .behind (body.width widths) else .ahead) negated body
  | .condition index =>
    match s.alternatives with
    | [yes, no] => .cond index yes no
    | _ => .cond index body .empty
  | _ => body

def Progress.leave (r : Progress) : Except Misreading Progress :=
  match r.outer with
  | [] => refuse .unbalanced r.position
  | around :: outer =>
    let p := r.scope.toPattern r.widths
    let groups :=
      match r.scope.role with
      | .capture index => r.groups.set (index - 1) (some (p.width r.widths))
      | _ => r.groups
    let behindLimit :=
      match r.scope.role with
      | .look _ _ true => none
      | _ => r.behindLimit
    .ok { r with scope := around.add p .plain, outer, groups, behindLimit }

def Progress.enterCondition (r : Progress) (index stop : Nat) : Except Misreading Progress := do
  r.checkBehind index stop
  .ok (r.enter (.condition index) r.scope.flags)

def Progress.enterGroup (r : Progress) (name : Option String) : Except Misreading Progress :=
  let index := r.groups.length + 1
  let entered := { r.enter (.capture index) r.scope.flags with groups := r.groups ++ [none] }
  match name with
  | none => .ok entered
  | some name =>
    match r.names.lookup name with
    | some former => refuse (.redefinedGroup name index former) (r.position + 4)
    | none => .ok { entered with names := (name, index) :: r.names }

def Progress.setFlags (r : Progress) (on : List Char) : Except Misreading Progress :=
  if r.outer.isEmpty ∧ r.scope.closed.isEmpty ∧ r.scope.parts.isEmpty then
    let old := r.scope.flags
    let flags := FlagChange.apply ⟨on.filter (· != 'u'), []⟩ old
    .ok { r with
      scope := { r.scope with flags }, unicodeAsked := r.unicodeAsked || on.contains 'u' }
  else refuse .flagsNotAtStart r.position

/-- Takes a token whose text ends at `stop`. -/
def Progress.take (r : Progress) (stop : Nat) : Token → Except Misreading Progress
  | .nothing => .ok r
  | .literal code => .ok (r.add (r.scope.set [.code code] false))
  | .anyChar => .ok (r.add (r.scope.set (if r.scope.flags.dotAll then [] else [.code 10]) true))
  | .set items negated => .ok (r.add (r.scope.set items negated))
  | .lineStart =>
    .ok (r.add (.anchor (if r.scope.flags.multiline then .lineStart else .textStart)) .anchor)
  | .lineEnd =>
    .ok (r.add (.anchor (if r.scope.flags.multiline then .lineEnd else .lastLineEnd)) .anchor)
  | .textStart => .ok (r.add (.anchor .textStart) .anchor)
  | .textEnd => .ok (r.add (.anchor .textEnd) .anchor)
  | .boundary negated => .ok (r.add (.anchor (.boundary r.scope.flags.ascii negated)) .anchor)
  | .back index =>
    if r.groups.length < index then refuse (.invalidGroup index) (r.position + 1)
    else if (r.groupWidth? index).isNone then refuse .openGroup r.position
    else r.refer index stop
  | .namedBack name =>
    match r.names.lookup name with
    | none => refuse (.unknownGroupName name) (r.position + 4)
    | some index =>
      if (r.groupWidth? index).isNone then refuse .openGroup (r.position + 4)
      else r.refer index stop
  | .again low high manner => r.repeatLast low high manner
  | .bar => r.nextAlternative
  | .openGroup name => r.enterGroup name
  | .openPlain => .ok (r.enter .plain r.scope.flags)
  | .openAtomic => .ok (r.enter .atomic r.scope.flags)
  | .openLook behind negated =>
    let outermost := behind && r.behindLimit.isNone
    let entered := r.enter (.look behind negated outermost) r.scope.flags
    .ok (if outermost then { entered with behindLimit := some (r.groups.length + 1) } else entered)
  | .openNumbered index =>
    let wanted :=
      if (r.wanted.lookup index).isSome then r.wanted else r.wanted ++ [(index, r.position + 3)]
    { r with wanted }.enterCondition index stop
  | .openNamed name =>
    match r.names.lookup name with
    | none => refuse (.unknownGroupName name) (r.position + 3)
    | some index => r.enterCondition index stop
  | .openFlags change => .ok (r.enter .plain (change.apply r.scope.flags))
  | .flags on => r.setFlags on
  | .close => r.leave
  | .bad complaint offset => .error ⟨complaint, offset.map (r.position + ·)⟩

/-- Takes a token and goes on to the place after it. -/
def Progress.step (r : Progress) (x : Lexeme) : Except Misreading Progress := do
  let next ← r.take (r.position + x.size) x.token
  .ok { next with position := r.position + x.size }

/-- The whole pattern, once every parenthesis is closed and every group that a condition names is
there. -/
def Progress.finish (r : Progress) : Except Misreading Pattern :=
  if !r.outer.isEmpty then refuse .unterminatedGroup r.scope.start
  else if r.unicodeAsked && r.scope.flags.ascii then .error ⟨.asciiAndUnicode, none⟩
  else
    match r.wanted.find? fun (index, _) => r.groups.length < index with
    | some (index, position) => refuse (.invalidGroup index) position
    | none => .ok (r.scope.toPattern r.widths)

/-- Assertions look behind by a fixed number of characters. -/
def checkWidths (p : Pattern) : Except Misreading Unit :=
  match p.behindWidths.find? fun w => repeatLimit < w.least || w.fixed?.isNone with
  | none => .ok ()
  | some w =>
    .error ⟨if repeatLimit < w.least then .longLookBehind else .variableLookBehind, none⟩

end Pattern

/-- A pattern with the text it was read from and the number of its groups. -/
structure Expression where
  source : String
  pattern : Pattern
  groups : Nat
  deriving DecidableEq, Repr

def Expression.read (flags : PatternFlags) (source : String) : Except Misreading Expression := do
  let progress ←
    (Pattern.lexemes flags.verbose source.toList).foldlM Pattern.Progress.step (.start flags)
  let pattern ← progress.finish
  pattern.checkWidths
  .ok ⟨source, pattern, progress.groups.length⟩

end LineCommand
