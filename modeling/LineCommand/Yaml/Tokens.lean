import LineCommand.Yaml.Mark

/-!
Cutting a text into tokens. Whether a stretch is a key is known only when the colon after it is met,
so the places where keys may have started are kept, one for each depth of brackets; the tokens that
mark a key are put in at such a place afterwards.
-/
namespace LineCommand.Yaml

/-- A place where a key may have started: the number of tokens before it, and where it is. A
required one must turn out to be a key. -/
structure PossibleKey where
  tokens : Nat
  required : Bool
  index : Nat
  line : Nat
  column : Nat
  deriving Repr

/-- A text cut up to a place. `depth` counts open brackets; `indent` is the column of the block
collection that is open, `outer` those of the collections around it. -/
structure Cutting where
  source : Source
  tokens : Array Token := #[]
  depth : Nat := 0
  indent : Int := -1
  outer : List Int := []
  keyAllowed : Bool := true
  keys : List (Nat × PossibleKey) := []

namespace Cutting

def push (c : Cutting) (t : Token) : Cutting := { c with tokens := c.tokens.push t }

/-- The place where a key may have started at the depth of brackets here. -/
def possibleKey? (c : Cutting) : Option PossibleKey := c.keys.lookup c.depth

/-- Gives up the possible key at the depth of brackets here. -/
def dropKey (c : Cutting) : Except Fault Cutting :=
  if c.possibleKey?.any (·.required) then .error malformed
  else .ok { c with keys := c.keys.filter (·.1 != c.depth) }

def saveKey (c : Cutting) : Except Fault Cutting :=
  if !c.keyAllowed then .ok c
  else do
    let required := c.depth == 0 && c.indent == c.source.column
    let c ← c.dropKey
    let s := c.source
    let key : PossibleKey := ⟨c.tokens.size, required, s.index, s.line, s.column⟩
    .ok { c with keys := (c.depth, key) :: c.keys }

/-- Keys lie within one line and within 1024 characters. -/
def isStale (c : Cutting) (k : PossibleKey) : Bool :=
  k.line != c.source.line || 1024 < c.source.index - k.index

/-- Gives up the possible keys that are too far back. -/
def dropStaleKeys (c : Cutting) : Except Fault Cutting :=
  if c.keys.any fun (_, k) => c.isStale k && k.required then .error malformed
  else .ok { c with keys := c.keys.filter fun (_, k) => !c.isStale k }

def closeOuter (column indent : Int) (tokens : Array Token) :
    List Int → Int × List Int × Array Token
  | [] => (indent, [], tokens)
  | parent :: outer =>
    if column < indent then closeOuter column parent (tokens.push .blockEnd) outer
    else (indent, parent :: outer, tokens)

/-- Ends the block collections that are indented deeper than a column. -/
def unwind (c : Cutting) (column : Int) : Cutting :=
  if c.depth != 0 then c
  else
    let (indent, outer, tokens) := closeOuter column c.indent c.tokens c.outer
    { c with indent, outer, tokens }

/-- Starts a block collection at a column, if none is open there. The token that starts it comes
after the first `position` tokens. -/
def openBlock (c : Cutting) (column position : Nat) (start : Token) : Cutting :=
  if c.indent < column then
    { c with
      indent := column
      outer := c.indent :: c.outer
      tokens := c.tokens.insertIdxIfInBounds position start }
  else c

/-- Passes blanks, comments and ends of lines. Outside brackets a key may start on a new line. -/
def skipIdle : (left : Nat) → Cutting → Cutting
  | 0, c => c
  | left + 1, c =>
    let s := c.source.skipSpaces.skipComment
    if s.atBreak then
      skipIdle left { c with source := s.lineBreak.2, keyAllowed := c.keyAllowed || c.depth == 0 }
    else { c with source := s }

def sign (c : Cutting) (width : Nat) (t : Token) : Cutting :=
  { c.push t with source := c.source.skip width }

def documentMark (c : Cutting) (t : Token) : Except Fault Cutting := do
  let c ← (c.unwind (-1)).dropKey
  .ok ({ c with keyAllowed := false }.sign 3 t)

def openFlow (c : Cutting) (t : Token) : Except Fault Cutting := do
  let c ← c.saveKey
  .ok ({ c with depth := c.depth + 1, keyAllowed := true }.sign 1 t)

def closeFlow (c : Cutting) (t : Token) : Except Fault Cutting := do
  let c ← c.dropKey
  if c.depth = 0 then .error malformed
  else .ok ({ c with depth := c.depth - 1, keyAllowed := false }.sign 1 t)

def flowEntry (c : Cutting) : Except Fault Cutting := do
  let c ← { c with keyAllowed := true }.dropKey
  .ok (c.sign 1 .flowEntry)

/-- A dash in front of an item, or a question mark in front of a key. Outside brackets it may open
a block collection. -/
def entry (c : Cutting) (start t : Token) (keyAfter : Bool) : Except Fault Cutting := do
  let c ←
    if c.depth != 0 then .ok c
    else if !c.keyAllowed then .error malformed
    else .ok (c.openBlock c.source.column c.tokens.size start)
  let c ← { c with keyAllowed := keyAfter }.dropKey
  .ok (c.sign 1 t)

/-- A colon. It makes a key of what may be one, or stands after a key that had a mark. -/
def value (c : Cutting) : Except Fault Cutting :=
  match c.possibleKey? with
  | some k =>
    let c :=
      { c with
        keys := c.keys.filter (·.1 != c.depth)
        tokens := c.tokens.insertIdxIfInBounds k.tokens .key
        keyAllowed := false }
    let c := if c.depth = 0 then c.openBlock k.column k.tokens .blockMappingStart else c
    .ok (c.sign 1 .value)
  | none => do
    let c ←
      if c.depth != 0 then .ok c
      else if !c.keyAllowed then .error malformed
      else .ok (c.openBlock c.source.column c.tokens.size .blockMappingStart)
    let c ← { c with keyAllowed := c.depth == 0 }.dropKey
    .ok (c.sign 1 .value)

def keyToken (c : Cutting) (read : Source → Except Fault (Token × Source)) :
    Except Fault Cutting := do
  let c ← c.saveKey
  let (t, source) ← read c.source
  .ok { c.push t with source, keyAllowed := false }

/-- A block of lines, after which a key may start. -/
def block (c : Cutting) (fold : Bool) : Except Fault Cutting := do
  let c ← { c with keyAllowed := true }.dropKey
  let (text, source) ← blockScalar fold c.indent c.source
  .ok { c.push (.scalar text false) with source }

/-- A plain scalar. After it a key may start only if the line ended. -/
def plain (c : Cutting) : Except Fault Cutting := do
  let c ← c.saveKey
  let ((text, crossed), source) := plainScalar (c.depth != 0) c.indent c.source
  .ok { c.push (.scalar text true) with source, keyAllowed := crossed }

/-- Whether a plain scalar can start here. -/
def startsPlain (c : Cutting) : Bool :=
  match c.source.peek with
  | none => false
  | some ch =>
    let signs := ['-', '?', ':', ',', '[', ']', '\x7b', '\x7d', '#', '&', '*', '!', '|', '>', '\'',
      '"', '%', '@', Char.ofNat 0x60]
    (!endsToken (some ch) && !signs.contains ch)
      || (!endsToken (c.source.peekAt 1)
        && (ch == '-' || (c.depth == 0 && (ch == '?' || ch == ':'))))

def next (c : Cutting) (ch : Char) : Except Fault Cutting :=
  let s := c.source
  let inFlow := c.depth != 0
  let alone := inFlow || endsToken (s.peekAt 1)
  if ch = '%' ∧ s.column = 0 then do
    let c ← (c.unwind (-1)).dropKey
    let (t, source) ← directiveToken s
    .ok { c.push t with source, keyAllowed := false }
  else if s.column = 0 ∧ s.atMark '-' then c.documentMark .documentStart
  else if s.column = 0 ∧ s.atMark '.' then c.documentMark .documentEnd
  else if ch = '[' then c.openFlow .flowSequenceStart
  else if ch = '\x7b' then c.openFlow .flowMappingStart
  else if ch = ']' then c.closeFlow .flowSequenceEnd
  else if ch = '\x7d' then c.closeFlow .flowMappingEnd
  else if ch = ',' then c.flowEntry
  else if ch = '-' ∧ endsToken (s.peekAt 1) then c.entry .blockSequenceStart .blockEntry true
  else if ch = '?' ∧ alone then c.entry .blockMappingStart .key (!inFlow)
  else if ch = ':' ∧ alone then c.value
  else if ch = '*' then
    c.keyToken fun s => (anchorName s).map fun (name, s) => (.alias name, s)
  else if ch = '&' then
    c.keyToken fun s => (anchorName s).map fun (name, s) => (.anchor name, s)
  else if ch = '!' then c.keyToken tagToken
  else if ch = '|' ∧ !inFlow then c.block false
  else if ch = '>' ∧ !inFlow then c.block true
  else if ch = '\'' ∨ ch = '"' then
    c.keyToken fun s => (quotedScalar ch s).map fun (text, s) => (.scalar text false, s)
  else if c.startsPlain then c.plain
  else .error malformed

/-- Cuts the rest of the text. Every round passes a character, so that `left` rounds are enough. -/
def run : (left : Nat) → Cutting → Except Fault (List Token)
  | 0, _ => .error malformed
  | left + 1, c => do
    let c ← (skipIdle (c.source.rest.length + 1) c).dropStaleKeys
    let c := c.unwind c.source.column
    match c.source.peek with
    | none => do
      let c ← (c.unwind (-1)).dropKey
      .ok c.tokens.toList
    | some ch => do
      let c ← c.next ch
      run left c

end Cutting

/-- The tokens of a text. A byte order mark in front is none of them. -/
def tokens (text : List Char) : Except Fault (List Token) :=
  if !text.all isPrintable then .error malformed
  else
    let start : Source := ⟨text, 0, 0, 0⟩
    let source := if start.peek = some byteOrderMark then start.advance else start
    Cutting.run (text.length + 1) { source }

end LineCommand.Yaml
