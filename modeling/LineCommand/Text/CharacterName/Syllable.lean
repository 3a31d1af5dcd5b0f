/-! Korean syllables, whose names are put together from the names of their parts. -/
namespace LineCommand.Text.CharacterName

def initialParts : List String :=
  ["G", "GG", "N", "D", "DD", "R", "M", "B", "BB", "S", "SS", "", "J", "JJ", "C", "K", "T", "P",
   "H"]

def middleParts : List String :=
  ["A", "AE", "YA", "YAE", "EO", "E", "YEO", "YE", "O", "WA", "WAE", "OE", "YO", "U", "WEO", "WE",
   "WI", "YU", "EU", "YI", "I"]

def finalParts : List String :=
  ["", "G", "GG", "GS", "N", "NJ", "NH", "D", "L", "LG", "LM", "LB", "LS", "LT", "LP", "LH", "M",
   "B", "BS", "S", "SS", "NG", "J", "C", "K", "T", "P", "H"]

/-- The index of the longest of the parts that a text begins with, and the text after it. -/
def longestPart (parts : List String) (cs : List Char) : Option (Nat × List Char) :=
  let candidates := parts.zipIdx.filter fun (part, _) => part.toList.isPrefixOf cs
  let longer (best : Option (String × Nat)) (next : String × Nat) :=
    match best with
    | none => some next
    | some (part, _) => if part.length < next.1.length then some next else best
  (candidates.foldl longer none).map fun (part, index) => (index, cs.drop part.length)

/-- The code point of a syllable by the names of its three parts, written one after the other. -/
def syllable? (parts : String) : Option Nat := do
  let (first, rest) ← longestPart initialParts parts.toList
  let (middle, rest) ← longestPart middleParts rest
  let (last, rest) ← longestPart finalParts rest
  if rest.isEmpty then
    some (0xAC00 + (first * middleParts.length + middle) * finalParts.length + last)
  else none

end LineCommand.Text.CharacterName
