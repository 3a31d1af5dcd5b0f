import LineCommand.Text.Lines

/-!
A place in a text of the data format, with the line and column that indentation is told by. Lines
end at a line feed, a next-line character, or a line or paragraph separator; carriage returns have
been made line feeds before.
-/
namespace LineCommand.Yaml

/-- Tells the characters that end a line from all others. -/
def isBreak (c : Char) : Bool :=
  c == '\n' || c.toNat == 0x85 || c.toNat == 0x2028 || c.toNat == 0x2029

def isPrintable (c : Char) : Bool :=
  let n := c.toNat
  n == 9 || n == 10 || n == 13 || (0x20 ≤ n && n ≤ 0x7E) || n == 0x85
    || (0xA0 ≤ n && n ≤ 0xFFFD) || 0x10000 ≤ n

/-- The mark that may start a text and takes no column. -/
def byteOrderMark : Char := Char.ofNat 0xFEFF

def endsLine (c : Option Char) : Bool := c.all isBreak

def endsWord (c : Option Char) : Bool := c.all fun c => isBreak c || c == ' '

def endsToken (c : Option Char) : Bool := c.all fun c => isBreak c || c == ' ' || c == '\t'

/-- Letters, digits and the two dashes, of which names are made. -/
def isNameChar (c : Char) : Bool := c.isAlphanum || c == '-' || c == '_'

structure Source where
  rest : List Char
  index : Nat := 0
  line : Nat := 0
  column : Nat := 0
  deriving Repr, Inhabited

namespace Source

def advance (s : Source) : Source :=
  match s.rest with
  | [] => s
  | c :: rest =>
    if isBreak c then ⟨rest, s.index + 1, s.line + 1, 0⟩
    else if c = byteOrderMark then ⟨rest, s.index + 1, s.line, s.column⟩
    else ⟨rest, s.index + 1, s.line, s.column + 1⟩

def skip : Nat → Source → Source
  | 0, s => s
  | n + 1, s => skip n s.advance

def peek (s : Source) : Option Char := s.rest.head?

def peekAt (s : Source) (n : Nat) : Option Char := s.rest[n]?

/-- The longest stretch of characters of a kind, and the place after it. -/
def span (p : Char → Bool) (s : Source) : List Char × Source :=
  let stretch := s.rest.takeWhile p
  (stretch, s.skip stretch.length)

/-- The place after the longest stretch of characters of a kind. -/
def skipWhile (p : Char → Bool) (s : Source) : Source := (s.span p).2

def skipSpaces (s : Source) : Source := s.skipWhile (· == ' ')

def skipSpacesTo (column : Nat) (s : Source) : Source :=
  s.skip (min (s.rest.takeWhile (· == ' ')).length (column - s.column))

/-- The place at the end of the line, if only a comment is left of it; otherwise the same place. -/
def skipComment (s : Source) : Source :=
  if s.peek = some '#' then s.skipWhile (!isBreak ·) else s

/-- The end of a line as it counts in a scalar, and the place after it. A next-line character counts
as a line feed. Elsewhere there is no end of a line. -/
def lineBreak (s : Source) : List Char × Source :=
  match s.peek with
  | some c =>
    if c = '\n' ∨ c.toNat = 0x85 then (['\n'], s.advance)
    else if isBreak c then ([c], s.advance)
    else ([], s)
  | none => ([], s)

def atBreak (s : Source) : Bool := s.peek.any isBreak

/-- Whether three equal characters stand here by themselves. -/
def atMark (mark : Char) (s : Source) : Bool :=
  s.rest.take 3 == [mark, mark, mark] && endsToken (s.peekAt 3)

/-- Whether the line starts with the mark of a start or an end of a document. -/
def atDocumentMark (s : Source) : Bool := s.atMark '-' || s.atMark '.'

end Source
end LineCommand.Yaml
