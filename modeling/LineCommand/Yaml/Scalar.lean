import LineCommand.Fault
import LineCommand.Number.Integer
import LineCommand.Yaml.Source

/-!
Scalars in their three forms: between quotes, as blocks of lines, and plain. Line ends inside a
scalar are folded: a single one is a space, more of them are line feeds. In each loop `left` bounds
the number of rounds.
-/
namespace LineCommand.Yaml

def malformed : Fault := .of .badCatalogText ""

/-! ### Between quotes -/

/-- The character that a letter after a backslash stands for. -/
def escaped? (c : Char) : Option Char :=
  [('0', 0), ('a', 7), ('b', 8), ('t', 9), ('\t', 9), ('n', 10), ('v', 11), ('f', 12), ('r', 13),
   ('e', 27), (' ', 32), ('"', 34), ('\\', 92), ('/', 47), ('N', 0x85), ('_', 0xA0), ('L', 0x2028),
   ('P', 0x2029)].lookup c |>.map Char.ofNat

/-- How many digits of base sixteen follow a letter after a backslash. -/
def escapeWidth? (c : Char) : Option Nat := [('x', 2), ('u', 4), ('U', 8)].lookup c

def isHexDigit (c : Char) : Bool := (baseDigit? c).any (· < 16)

/-- The character with a code; there is none beyond the last code. -/
def characterOf (code : Nat) : Except Fault Char :=
  if 0x110000 ≤ code then .error (.badValue "chr() arg not in range(0x110000)")
  else .ok (if 0xD800 ≤ code ∧ code ≤ 0xDFFF then Char.ofNat 0xFFFD else Char.ofNat code)

/-- The ends of empty lines inside quotes. The mark of a document must not stand there. -/
def quotedBreaks : (left : Nat) → Source → Except Fault (List Char × Source)
  | 0, _ => .error malformed
  | left + 1, s =>
    if s.atDocumentMark then .error malformed
    else
      let s := s.skipWhile fun c => c == ' ' || c == '\t'
      if s.atBreak then do
        let (first, s) := s.lineBreak
        let (rest, s) ← quotedBreaks left s
        .ok (first ++ rest, s)
      else .ok ([], s)

/-- What a line end and the empty lines after it stand for. -/
def folded (first breaks : List Char) : List Char :=
  if first ≠ ['\n'] then first ++ breaks else if breaks.isEmpty then [' '] else breaks

/-- The blanks inside quotes: as they are within a line, folded where the line ends. -/
def quotedBlanks (s : Source) : Except Fault (List Char × Source) :=
  let (blanks, s) := s.span fun c => c == ' ' || c == '\t'
  if s.peek.isNone then .error malformed
  else if s.atBreak then do
    let (first, s) := s.lineBreak
    let (breaks, s) ← quotedBreaks (s.rest.length + 1) s
    .ok (folded first breaks, s)
  else .ok (blanks, s)

/-- What a backslash between double quotes stands for together with what follows it. -/
def quotedEscape (s : Source) : Except Fault (List Char × Source) :=
  let s := s.advance
  match s.peek with
  | none => .error malformed
  | some c =>
    match escaped? c, escapeWidth? c with
    | some e, _ => .ok ([e], s.advance)
    | none, some width => do
      let s := s.advance
      let digits := s.rest.take width
      if digits.length < width || !digits.all isHexDigit then .error malformed
      else do
        let e ← characterOf (natIn 16 digits)
        .ok ([e], s.skip width)
    | none, none =>
      if isBreak c then
        let (_, s) := s.lineBreak
        quotedBreaks (s.rest.length + 1) s
      else .error malformed

def quotedText (quote : Char) : (left : Nat) → Source → Except Fault (List Char × Source)
  | 0, _ => .error malformed
  | left + 1, s =>
    match s.peek with
    | none => .error malformed
    | some c =>
      if c = quote then
        if quote = '\'' ∧ s.peekAt 1 = some '\'' then do
          let (rest, s) ← quotedText quote left (s.skip 2)
          .ok ('\'' :: rest, s)
        else .ok ([], s.advance)
      else do
        let (part, s) ←
          if c = ' ' ∨ c = '\t' ∨ isBreak c then quotedBlanks s
          else if c = '\\' ∧ quote = '"' then quotedEscape s
          else .ok ([c], s.advance)
        let (rest, s) ← quotedText quote left s
        .ok (part ++ rest, s)

def quotedScalar (quote : Char) (s : Source) : Except Fault (String × Source) := do
  let (text, s) ← quotedText quote (s.rest.length + 1) s.advance
  .ok (String.ofList text, s)

/-! ### Blocks -/

inductive Chomp
  | clip
  | strip
  | keep
  deriving DecidableEq, Repr

def chomp? (c : Option Char) : Option Chomp :=
  if c = some '+' then some .keep else if c = some '-' then some .strip else none

/-- The digit for the indentation of a block, if one follows. It is not zero. -/
def blockIndent (s : Source) : Except Fault (Option Nat × Source) :=
  match s.peek.bind Text.asciiDigit? with
  | none => .ok (none, s)
  | some 0 => .error malformed
  | some n => .ok (some n, s.advance)

/-- The indicators after the start of a block, in either order. -/
def blockIndicators (s : Source) : Except Fault ((Chomp × Option Nat) × Source) :=
  match chomp? s.peek with
  | some c => do
    let (n, s) ← blockIndent s.advance
    .ok ((c, n), s)
  | none => do
    let (n, s) ← blockIndent s
    match n, chomp? s.peek with
    | some _, some c => .ok ((c, n), s.advance)
    | _, _ => .ok ((.clip, n), s)

/-- The place after a line of which only blanks and a comment are left. -/
def ignoredLine (s : Source) : Except Fault Source :=
  let s := s.skipSpaces.skipComment
  if endsLine s.peek then .ok s.lineBreak.2 else .error malformed

/-- The empty lines before a block, and the deepest column in them and in the line after them. -/
def blockStart (deepest : Nat) : (left : Nat) → Source → (List Char × Nat) × Source
  | 0, s => (([], deepest), s)
  | left + 1, s =>
    if s.peek = some ' ' then
      let s := s.advance
      blockStart (max deepest s.column) left s
    else if s.atBreak then
      let (first, s) := s.lineBreak
      let ((rest, deepest), s) := blockStart deepest left s
      ((first ++ rest, deepest), s)
    else (([], deepest), s)

/-- Empty lines in a block, up to the next line that is indented as the block is or ends it. -/
def blockBreaks (indent : Nat) : (left : Nat) → Source → List Char × Source
  | 0, s => ([], s)
  | left + 1, s =>
    let s := s.skipSpacesTo indent
    if s.atBreak then
      let (first, s) := s.lineBreak
      let (rest, s) := blockBreaks indent left s
      (first ++ rest, s)
    else ([], s)

/-- The lines of a block from a place that may be the start of one, and what ends them: the last
line end and the empty lines after it. `breaks` are the empty lines before the place. -/
def blockLines (fold : Bool) (indent : Nat) (breaks lastBreak : List Char) :
    (left : Nat) → Source → (List Char × List Char × List Char) × Source
  | 0, s => (([], lastBreak, breaks), s)
  | left + 1, s =>
    if s.column ≠ indent ∨ s.peek.isNone then (([], lastBreak, breaks), s)
    else
      let leadingText := !s.peek.any fun c => c == ' ' || c == '\t'
      let (line, s) := s.span (!isBreak ·)
      let (lineEnd, s) := s.lineBreak
      let (after, s) := blockBreaks indent (s.rest.length + 1) s
      let goesOn := s.column == indent && s.peek.isSome
      let nextText := !s.peek.any fun c => c == ' ' || c == '\t'
      let joint :=
        if !goesOn then []
        else if fold && lineEnd == ['\n'] && leadingText && nextText then
          if after.isEmpty then [' '] else []
        else lineEnd
      let ((rest, tail), s) := blockLines fold indent after lineEnd left s
      ((breaks ++ line ++ joint ++ rest, tail), s)

/-- A block of lines, from its sign on, in a collection that is indented by `parent`. -/
def blockScalar (fold : Bool) (parent : Int) (s : Source) : Except Fault (String × Source) := do
  let ((chomp, given), s) ← blockIndicators s.advance
  if !endsWord s.peek then .error malformed
  else do
    let s ← ignoredLine s
    let least := (max (parent + 1) 1).toNat
    let left := s.rest.length + 1
    let (indent, breaks, s) :=
      match given with
      | some n =>
        let indent := least + n - 1
        let (breaks, s) := blockBreaks indent left s
        (indent, breaks, s)
      | none =>
        let ((breaks, deepest), s) := blockStart 0 left s
        (max least deepest, breaks, s)
    let ((text, lineEnd, after), s) := blockLines fold indent breaks [] left s
    let tail :=
      match chomp with
      | .strip => []
      | .clip => lineEnd
      | .keep => lineEnd ++ after
    .ok (String.ofList (text ++ tail), s)

/-! ### Plain scalars -/

/-- Characters that cannot stand in a plain scalar inside brackets. -/
def isFlowSign (c : Char) : Bool := [',', '?', '[', ']', '\x7b', '\x7d'].contains c

/-- Characters after which a colon ends a plain scalar inside brackets. -/
def endsFlowKey (c : Option Char) : Bool :=
  c.any [',', '[', ']', '\x7b', '\x7d'].contains

def plainRun (inFlow : Bool) : List Char → List Char
  | [] => []
  | c :: rest =>
    if endsToken (some c) then []
    else if c = ':' ∧ (endsToken rest.head? ∨ (inFlow ∧ endsFlowKey rest.head?)) then []
    else if inFlow && isFlowSign c then []
    else c :: plainRun inFlow rest

/-- What stands between two stretches of a plain scalar: its text, unless the scalar is at its end,
and whether a line ends there. -/
structure PlainGap where
  text : List Char
  crossed : Bool

/-- The empty lines between two stretches of a plain scalar, and whether a mark of a document ends
them. -/
def plainBreaks : (left : Nat) → Source → (List Char × Bool) × Source
  | 0, s => (([], false), s)
  | left + 1, s =>
    let s := s.skipSpaces
    if s.atBreak then
      let (first, s) := s.lineBreak
      if s.atDocumentMark then ((first, true), s)
      else
        let ((rest, ended), s) := plainBreaks left s
        ((first ++ rest, ended), s)
    else (([], false), s)

def plainGap (s : Source) : PlainGap × Source :=
  let (spaces, s) := s.span (· == ' ')
  if s.atBreak then
    let (first, s) := s.lineBreak
    if s.atDocumentMark then (⟨[], true⟩, s)
    else
      let ((breaks, ended), s) := plainBreaks (s.rest.length + 1) s
      (⟨if ended then [] else folded first breaks, true⟩, s)
  else (⟨spaces, false⟩, s)

/-- The stretches of a plain scalar in a collection that is indented by `parent`. `gap` stands
before the first of them; the flag says whether the line ended after the last of them. -/
def plainText (inFlow : Bool) (parent : Int) (gap : PlainGap) :
    (left : Nat) → Source → (List Char × Bool) × Source
  | 0, s => (([], gap.crossed), s)
  | left + 1, s =>
    let run := if s.peek = some '#' then [] else plainRun inFlow s.rest
    if run.isEmpty then (([], gap.crossed), s)
    else
      let (next, s) := plainGap (s.skip run.length)
      let ended := next.text.isEmpty || s.peek == some '#'
        || (!inFlow && decide ((s.column : Int) < parent + 1))
      if ended then ((gap.text ++ run, next.crossed), s)
      else
        let ((rest, crossed), s) := plainText inFlow parent next left s
        ((gap.text ++ run ++ rest, crossed), s)

def plainScalar (inFlow : Bool) (parent : Int) (s : Source) : (String × Bool) × Source :=
  let ((text, crossed), s) := plainText inFlow parent ⟨[], false⟩ (s.rest.length + 1) s
  ((String.ofList text, crossed), s)

end LineCommand.Yaml
