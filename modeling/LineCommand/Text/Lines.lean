/-! Cutting a text into pieces: at the ends of lines, or at a delimiter. -/
namespace LineCommand.Text

def endsLine (c : Char) : Bool :=
  let n := c.toNat
  (10 ≤ n && n ≤ 13) || (28 ≤ n && n ≤ 30) || n == 0x85 || n == 0x2028 || n == 0x2029

/-- The lines of a text without their ends. `line` is the line read so far, backwards. A carriage
return and the line feed after it end one line; what follows the last end is a line if it is not
empty. -/
def linesFrom (line : List Char) : List Char → List (List Char)
  | [] => if line.isEmpty then [] else [line.reverse]
  | '\r' :: '\n' :: rest => line.reverse :: linesFrom [] rest
  | c :: rest =>
    if endsLine c then line.reverse :: linesFrom [] rest else linesFrom (c :: line) rest

def lines (s : String) : List String := (linesFrom [] s.toList).map String.ofList

/-- The rest of a text after `start`, if it starts so. -/
def dropStart? : (start text : List Char) → Option (List Char)
  | [], cs => some cs
  | _, [] => none
  | s :: start, c :: cs => if s = c then dropStart? start cs else none

/-- The pieces between the occurrences of a delimiter, found from the left. `piece` is the piece
read so far, backwards, and `skip` counts the characters of a delimiter still to be passed. -/
def splitFrom (delimiter : List Char) (piece : List Char) (skip : Nat) :
    List Char → List (List Char)
  | [] => [piece.reverse]
  | c :: rest =>
    match skip with
    | skip + 1 => splitFrom delimiter piece skip rest
    | 0 =>
      if (dropStart? delimiter (c :: rest)).isSome then
        piece.reverse :: splitFrom delimiter [] (delimiter.length - 1) rest
      else splitFrom delimiter (c :: piece) 0 rest

/-- The pieces of a text between the occurrences of a delimiter that is not empty. -/
def splitAt (delimiter s : String) : List String :=
  (splitFrom delimiter.toList [] 0 s.toList).map String.ofList

/-- A text with every line end written as one line feed: a carriage return counts as a line end,
alone or before a line feed. -/
def unifyLineEnds : List Char → List Char
  | [] => []
  | '\r' :: '\n' :: rest => '\n' :: unifyLineEnds rest
  | '\r' :: rest => '\n' :: unifyLineEnds rest
  | c :: rest => c :: unifyLineEnds rest

def joined (separator : String) (parts : List String) : String := separator.intercalate parts

def padded (width : Nat) (s : String) : String :=
  s ++ String.ofList (List.replicate (width - s.length) ' ')

end LineCommand.Text
