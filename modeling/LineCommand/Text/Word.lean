import LineCommand.Text.Letter
import LineCommand.Text.Numeral

/-! Word characters: letters, numerals and the low line. -/
namespace LineCommand.Text

/-- Tells the characters that make up names from all others. -/
def isWordChar (c : Char) : Bool := isLetter c || isNumeral c || c == '_'

def isAsciiWordChar (c : Char) : Bool :=
  let n := c.toNat
  (48 ≤ n && n ≤ 57) || (65 ≤ n && n ≤ 90) || (97 ≤ n && n ≤ 122) || n == 95

end LineCommand.Text
