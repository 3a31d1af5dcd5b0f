import LineCommand.Number.Integer
import LineCommand.Text.CharacterName.Alphabet
import LineCommand.Text.CharacterName.Latin
import LineCommand.Text.CharacterName.Picture
import LineCommand.Text.CharacterName.Punctuation
import LineCommand.Text.CharacterName.Syllable
import LineCommand.Text.CharacterName.Symbol
import LineCommand.Text.Ranges

/-!
Characters by name. A listed name is found in letters of either case; the names that are put
together by a rule, those of ideographs and of Korean syllables, are written in capitals.
-/
namespace LineCommand.Text
open CharacterName

/-- The code points of the ideographs that are named by their code point. -/
def ideographs : Ranges :=
  [(0x3400, 0x4DBF), (0x4E00, 0x9FFF), (0x20000, 0x2A6DF), (0x2A700, 0x2B738), (0x2B740, 0x2B81D),
   (0x2B820, 0x2CEA1), (0x2CEB0, 0x2EBE0), (0x30000, 0x3134A)]

/-- The code point of an ideograph by four or five capital digits of base sixteen. -/
def ideograph? (digits : String) : Option Nat :=
  let cs := digits.toList
  let code := natIn 16 cs
  if (cs.length == 4 || cs.length == 5) && cs.all ("0123456789ABCDEF".toList.contains ·)
    && ideographs.holds code then some code else none

def listedNames : List NameRun :=
  latinNames ++ punctuationNames ++ symbolNames ++ alphabetNames ++ pictureNames

def characterNamed? (name : String) : Option Nat :=
  let after (start : String) : Option String :=
    if name.startsWith start then some (String.ofList (name.toList.drop start.length)) else none
  match after "HANGUL SYLLABLE ", after "CJK UNIFIED IDEOGRAPH-" with
  | some parts, _ => syllable? parts
  | _, some digits => ideograph? digits
  | none, none => listedNames.findSome? (·.find? name.toUpper)

end LineCommand.Text
