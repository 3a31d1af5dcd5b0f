import LineCommand.Text.Ranges

/-! Blanks: the characters that separate words. Trimming takes them from both ends of a text,
`words` cuts a text at them. -/
namespace LineCommand.Text

/-- The code points of all blanks: white space of every script and the four information
separators. -/
def blankRanges : Ranges :=
  [(0x9, 0xD), (0x1C, 0x20), (0x85, 0x85), (0xA0, 0xA0), (0x1680, 0x1680), (0x2000, 0x200A),
   (0x2028, 0x2029), (0x202F, 0x202F), (0x205F, 0x205F), (0x3000, 0x3000)]

def isBlank (c : Char) : Bool := blankRanges.holds c.toNat

/-- The blanks of ASCII alone, without the information separators. -/
def isAsciiBlank (c : Char) : Bool :=
  c == ' ' || (9 ≤ c.toNat && c.toNat ≤ 13)

def trimStart (cs : List Char) : List Char := cs.dropWhile isBlank

def trimEnd (cs : List Char) : List Char := (cs.reverse.dropWhile isBlank).reverse

def trim (cs : List Char) : List Char := trimEnd (trimStart cs)

/-- The longest stretches without a blank, in order. `word` is the word read so far, backwards. -/
def wordsFrom (word : List Char) : List Char → List (List Char)
  | [] => if word.isEmpty then [] else [word.reverse]
  | c :: rest =>
    if isBlank c then
      if word.isEmpty then wordsFrom [] rest else word.reverse :: wordsFrom [] rest
    else wordsFrom (c :: word) rest

def words (s : String) : List String := (wordsFrom [] s.toList).map String.ofList

def trimmed (s : String) : String := String.ofList (trim s.toList)

end LineCommand.Text
