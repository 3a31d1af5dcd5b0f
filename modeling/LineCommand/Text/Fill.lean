/-! Lines of a width. Words go on the line they are on as long as it holds them; a word that is
wider than a line has one of its own. -/
namespace LineCommand.Text

def fillFrom (width : Nat) (line : String) : List String → List String
  | [] => [line]
  | word :: words =>
    if line.length + 1 + word.length ≤ width then fillFrom width (line ++ " " ++ word) words
    else line :: fillFrom width word words

def fill (width : Nat) : List String → List String
  | [] => []
  | word :: words => fillFrom width word words

/-- The words of a text with single spaces between them, in lines. -/
def wrapped (width : Nat) (text : String) : List String := fill width (text.splitOn " ")

def indented (columns : Nat) (line : String) : String :=
  String.ofList (List.replicate columns ' ') ++ line

end LineCommand.Text
