import LineCommand.Text.CaseMap
import LineCommand.Text.Cased

/-! Letter case. Lowering a text looks at the neighbours of a capital sigma; raising it may lengthen
it. Patterns that ignore case compare single characters by `caseVariants`. -/
namespace LineCommand.Text

/-- Whether the nearest character that is not passed over has case. -/
def casedAhead : List Char → Bool
  | [] => false
  | c :: rest =>
    if caseIgnorableRanges.holds c.toNat then casedAhead rest else casedRanges.holds c.toNat

def lowerChar (c : Char) : List Char :=
  if c = 'İ' then ['i', Char.ofNat 0x307] else [Char.ofNat (lowerMap.apply c.toNat)]

/-- Lowers what follows `before`, which is the text read so far, backwards. A capital sigma that
ends its word takes its final form. -/
def lowerFrom (before : List Char) : List Char → List Char
  | [] => []
  | c :: rest =>
    (if c = 'Σ' then [if casedAhead before && !casedAhead rest then 'ς' else 'σ']
      else lowerChar c) ++ lowerFrom (c :: before) rest

def lower (cs : List Char) : List Char := lowerFrom [] cs

/-- The upper case of a character, which may take several characters. -/
def upperChar (c : Char) : List Char :=
  match upperExpansions.lookup c.toNat with
  | some codes => codes.map Char.ofNat
  | none => [Char.ofNat (upperMap.apply c.toNat)]

def upper (cs : List Char) : List Char := cs.flatMap upperChar

/-- All code points that count as `n` where case is ignored: those with the same lower case, or with
a lower case of the same upper case. -/
def caseVariants (n : Nat) : List Nat :=
  let low := lowerMap.apply n
  (low :: (sharedUpper.lookup low).getD []).flatMap fun m => m :: lowerMap.sources m

/-- The lower case of an ASCII letter; any other code point as it is. -/
def asciiLower (n : Nat) : Nat := if 65 ≤ n ∧ n ≤ 90 then n + 32 else n

/-- All code points that count as `n` where only the case of ASCII letters is ignored. -/
def asciiCaseVariants (n : Nat) : List Nat :=
  let low := asciiLower n
  if 97 ≤ low ∧ low ≤ 122 then [low, low - 32] else [n]

def lowered (s : String) : String := String.ofList (lower s.toList)

def raised (s : String) : String := String.ofList (upper s.toList)

end LineCommand.Text
