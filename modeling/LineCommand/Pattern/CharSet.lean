import LineCommand.Text.Blank
import LineCommand.Text.Case
import LineCommand.Text.Word

/-! Sets of characters in patterns: single code points, ranges and named kinds, taken together or
all excluded, with or without regard to letter case. -/
namespace LineCommand

inductive CharKind
  | digit
  | blank
  | word
  deriving DecidableEq, Repr

/-- A kind names characters of all scripts, or those of ASCII alone. -/
def CharKind.holds (ascii : Bool) : CharKind → Char → Bool
  | .digit, c => if ascii then '0' ≤ c && c ≤ '9' else Text.isDigit c
  | .blank, c => if ascii then Text.isAsciiBlank c else Text.isBlank c
  | .word, c => if ascii then Text.isAsciiWordChar c else Text.isWordChar c

/-- What becomes of letter case when characters are compared. -/
inductive Fold
  | exact
  | asciiLetters
  | allLetters
  deriving DecidableEq, Repr

/-- The code points that count as `n`, itself among them. -/
def Fold.variants : Fold → Nat → List Nat
  | .exact, n => [n]
  | .asciiLetters, n => Text.asciiCaseVariants n
  | .allLetters, n => Text.caseVariants n

/-- The one code point that stands for `n` and its counterparts in another case. -/
def Fold.common : Fold → Nat → Nat
  | .exact, n => n
  | .asciiLetters, n => Text.asciiLower n
  | .allLetters, n => Text.lowerMap.apply n

inductive SetItem
  | code (n : Nat)
  | range (low high : Nat)
  | kind (k : CharKind) (negated : Bool)
  deriving DecidableEq, Repr

structure CharSet where
  items : List SetItem
  negated : Bool
  fold : Fold
  ascii : Bool
  deriving DecidableEq, Repr

/-- Kinds are asked of the character itself, codes and ranges of all its counterparts. -/
def SetItem.holds (ascii : Bool) (c : Char) (variants : List Nat) : SetItem → Bool
  | .code n => variants.contains n
  | .range low high => variants.any fun n => low ≤ n && n ≤ high
  | .kind k negated => k.holds ascii c != negated

def CharSet.holds (s : CharSet) (c : Char) : Bool :=
  let variants := s.fold.variants c.toNat
  s.items.any (·.holds s.ascii c variants) != s.negated

end LineCommand
