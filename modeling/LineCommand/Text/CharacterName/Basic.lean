/-! How the names of characters are listed: runs of consecutive code points with their names. -/
namespace LineCommand.Text.CharacterName

/-- The names of consecutive code points from `first`: a semicolon or the end of a line stands
between two code points, and a slash between two names of one. -/
structure NameRun where
  first : Nat
  lines : List String
  deriving Repr, DecidableEq

/-- The code point of `first`, or of one after it, whose names, in one entry of the list, include
`name`. -/
def find? (name : String) : Nat → List String → Option Nat
  | _, [] => none
  | code, entry :: rest =>
    if entry.splitOn "/" |>.contains name then some code else find? name (code + 1) rest

def NameRun.find? (run : NameRun) (name : String) : Option Nat :=
  CharacterName.find? name run.first (run.lines.flatMap (·.splitOn ";"))

end LineCommand.Text.CharacterName
