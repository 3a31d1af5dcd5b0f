import LineCommand.Pattern.CharSet

/-!
Patterns as trees. A pattern is read from a text once and matched against many lines; every choice
that a flag could change is settled in the tree, so that matching knows no flags.
-/
namespace LineCommand

/-- Choices that hold for a whole pattern or for a part of it. -/
structure PatternFlags where
  ignoreCase : Bool := false
  multiline : Bool := false
  dotAll : Bool := false
  verbose : Bool := false
  ascii : Bool := false
  deriving DecidableEq, Repr, Inhabited

def PatternFlags.fold (f : PatternFlags) : Fold :=
  if f.ignoreCase then if f.ascii then .asciiLetters else .allLetters else .exact

/-- A test of the place between two characters. -/
inductive Anchor
  | textStart
  | lineStart
  | textEnd
  /-- The end of the text, or just before a line feed that ends it. -/
  | lastLineEnd
  | lineEnd
  | boundary (ascii negated : Bool)
  deriving DecidableEq, Repr

/-- How a repetition chooses its number of rounds: many first, few first, or as many as it can
without ever giving one back. -/
inductive Manner
  | greedy
  | lazy
  | possessive
  deriving DecidableEq, Repr

/-- The least and the greatest number of characters that a pattern can match. -/
structure Width where
  least : Nat
  most : Option Nat
  deriving DecidableEq, Repr

namespace Width

/-- Exactly `n` characters. -/
def exactly (n : Nat) : Width := ⟨n, some n⟩

def append (a b : Width) : Width :=
  ⟨a.least + b.least, a.most.bind fun m => b.most.map (m + ·)⟩

def either (a b : Width) : Width :=
  ⟨min a.least b.least, a.most.bind fun m => b.most.map (max m ·)⟩

def times (a : Width) (low : Nat) (high : Option Nat) : Width :=
  ⟨a.least * low, if a.most = some 0 then some 0 else a.most.bind fun m => high.map (m * ·)⟩

def fixed? (w : Width) : Option Nat := if w.most = some w.least then some w.least else none

end Width

/-- The side of the current place on which an assertion looks. -/
inductive Side
  | ahead
  | behind (width : Width)
  deriving DecidableEq, Repr

inductive Pattern
  | empty
  | one (set : CharSet)
  | anchor (a : Anchor)
  | seq (first rest : Pattern)
  | alt (left right : Pattern)
  /-- Remembers what its body matched under a number counted from one. -/
  | group (index : Nat) (body : Pattern)
  | again (low : Nat) (high : Option Nat) (manner : Manner) (body : Pattern)
  /-- Keeps the first match of its body and no other. -/
  | atomic (body : Pattern)
  /-- Looks whether its body matches here, without moving. -/
  | look (side : Side) (negated : Bool) (body : Pattern)
  /-- What a group matched, once more. -/
  | back (index : Nat) (fold : Fold)
  /-- One of two patterns, chosen by whether a group has matched. -/
  | cond (index : Nat) (yes no : Pattern)
  deriving DecidableEq, Repr

namespace Pattern

def sequence (ps : List Pattern) : Pattern := ps.foldr seq empty

def choice : List Pattern → Pattern
  | [] => empty
  | [p] => p
  | p :: rest => alt p (choice rest)

/-- The width of a pattern, given the widths of the groups that it may refer back to. -/
def width (groups : Nat → Width) : Pattern → Width
  | empty => .exactly 0
  | one _ => .exactly 1
  | anchor _ => .exactly 0
  | seq first rest => (first.width groups).append (rest.width groups)
  | alt left right => (left.width groups).either (right.width groups)
  | group _ body => body.width groups
  | again low high _ body => (body.width groups).times low high
  | atomic body => body.width groups
  | look .. => .exactly 0
  | back index _ => groups index
  | cond _ yes no => (yes.width groups).either (no.width groups)

/-- The widths of all assertions that look behind, outer ones before inner ones, from the left. -/
def behindWidths : Pattern → List Width
  | seq first rest => first.behindWidths ++ rest.behindWidths
  | alt left right => left.behindWidths ++ right.behindWidths
  | group _ body => body.behindWidths
  | again _ _ _ body => body.behindWidths
  | atomic body => body.behindWidths
  | look .ahead _ body => body.behindWidths
  | look (.behind w) _ body => w :: body.behindWidths
  | cond _ yes no => yes.behindWidths ++ no.behindWidths
  | _ => []

end Pattern
end LineCommand
