import LineCommand.Yaml.Scalar
import LineCommand.Yaml.Token

/-! Tokens that start with a sign: directives, anchors, aliases and tags. -/
namespace LineCommand.Yaml

def anchorName (s : Source) : Except Fault (String × Source) :=
  let (name, s) := s.advance.span isNameChar
  let ended := endsToken s.peek
    || s.peek.any ['?', ':', ',', ']', '\x7d', '%', '@', Char.ofNat 0x60].contains
  if name.isEmpty || !ended then .error malformed else .ok (String.ofList name, s)

/-- The abbreviation at the start of a tag, between its exclamation marks or a single one. -/
def tagHandle (s : Source) : Except Fault (String × Source) :=
  if s.peek ≠ some '!' then .error malformed
  else
    let after := s.advance
    if after.peek = some ' ' then .ok ("!", after)
    else
      let (name, after) := after.span isNameChar
      if after.peek = some '!' then .ok ("!" ++ String.ofList name ++ "!", after.advance)
      else .error malformed

def isTagChar (c : Char) : Bool :=
  isNameChar c || [';', '/', '?', ':', '@', '&', '=', '+', '$', ',', '.', '!', '~', '*', '\'', '(',
    ')', '[', ']'].contains c

/-- The bytes that are escaped one after another by percent signs. -/
def escapedBytes : (left : Nat) → List Char → Except Fault (List UInt8)
  | 0, _ => .ok []
  | left + 1, '%' :: a :: b :: rest =>
    if isHexDigit a && isHexDigit b then
      (escapedBytes left rest).map (UInt8.ofNat (natIn 16 [a, b]) :: ·)
    else .error malformed
  | _ + 1, '%' :: _ => .error malformed
  | _ + 1, _ => .ok []

/-- The text of a tag after its abbreviation, or as a whole. Escaped bytes are UTF-8. -/
def tagText : (left : Nat) → Source → Except Fault (List Char × Source)
  | 0, _ => .error malformed
  | left + 1, s =>
    match s.peek with
    | some '%' => do
      let bytes ← escapedBytes (s.rest.length + 1) s.rest
      match String.fromUTF8? (ByteArray.mk bytes.toArray) with
      | none => .error malformed
      | some text => do
        let (rest, s) ← tagText left (s.skip (3 * bytes.length))
        .ok (text.toList ++ rest, s)
    | some c =>
      if isTagChar c then do
        let (rest, s) ← tagText left s.advance
        .ok (c :: rest, s)
      else .ok ([], s)
    | none => .ok ([], s)

def tagRest (s : Source) : Except Fault (String × Source) := do
  let (text, t) ← tagText (s.rest.length + 1) s
  if t.index = s.index then .error malformed else .ok (String.ofList text, t)

/-- Whether a further exclamation mark stands in the word that starts here. -/
def hasHandle (s : Source) : Bool :=
  (s.advance.rest.takeWhile fun c => !isBreak c && c != ' ').contains '!'

/-- A tag: verbatim between angle brackets, the mark alone, or with an abbreviation. -/
def tagToken (s : Source) : Except Fault (Token × Source) := do
  let (token, s) ←
    if s.peekAt 1 = some '<' then do
      let (text, s) ← tagRest (s.skip 2)
      if s.peek = some '>' then .ok (Token.tag none text, s.advance) else .error malformed
    else if endsToken (s.peekAt 1) then .ok (Token.tag none "!", s.advance)
    else if hasHandle s then do
      let (handle, s) ← tagHandle s
      let (text, s) ← tagRest s
      .ok (Token.tag (some handle) text, s)
    else do
      let (text, s) ← tagRest s.advance
      .ok (Token.tag (some "!") text, s)
  if endsWord s.peek then .ok (token, s) else .error malformed

def plainNumber (s : Source) : Except Fault (Nat × Source) :=
  let (digits, s) := s.span Char.isDigit
  if digits.isEmpty then .error malformed else .ok (natIn 10 digits, s)

def versionDirective (s : Source) : Except Fault (Directive × Source) := do
  let (major, s) ← plainNumber s.skipSpaces
  if s.peek ≠ some '.' then .error malformed
  else do
    let (_, s) ← plainNumber s.advance
    if endsWord s.peek then .ok (.version major, s) else .error malformed

/-- An abbreviation for the start of tags, and what it stands for. -/
def handleDirective (s : Source) : Except Fault (Directive × Source) := do
  let (name, s) ← tagHandle s.skipSpaces
  if s.peek ≠ some ' ' then .error malformed
  else do
    let (lead, s) ← tagRest s.skipSpaces
    if endsWord s.peek then .ok (.handle name lead, s) else .error malformed

def directiveToken (s : Source) : Except Fault (Token × Source) := do
  let (name, s) := s.advance.span isNameChar
  if name.isEmpty || !endsWord s.peek then .error malformed
  else do
    let (directive, s) ←
      match String.ofList name with
      | "YAML" => versionDirective s
      | "TAG" => handleDirective s
      | _ => .ok (.reserved, s.skipWhile (!isBreak ·))
    let s ← ignoredLine s
    .ok (.directive directive, s)

end LineCommand.Yaml
