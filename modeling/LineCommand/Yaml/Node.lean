import LineCommand.Yaml.Scalar
import LineCommand.Yaml.Tag
import LineCommand.Yaml.Token

/-!
Nodes: what a text stands for, before values are made of it. The tokens are read by the grammar of
the format; aliases are replaced by what their anchors stand for, and every node gets a tag.
-/
namespace LineCommand.Yaml

inductive Node
  | scalar (tag : Tag) (text : String)
  | sequence (tag : Tag) (items : List Node)
  | mapping (tag : Tag) (entries : List (Node × Node))
  deriving Repr

instance : Inhabited Node := ⟨.scalar .null ""⟩

def Node.empty : Node := .scalar .null ""

/-- A reading of tokens: those that are left, what the anchors so far stand for, and what the
abbreviations for tags stand for. -/
structure Progress where
  tokens : List Token
  anchors : List (String × Node)
  handles : List (String × String)

/-- A step of a reading; there is none where the tokens do not follow the grammar. -/
abbrev Step := StateT Progress Option

namespace Step

def peek : Step (Option Token) := do return (← get).tokens.head?

def pass : Step Unit := modify fun p => { p with tokens := p.tokens.tail }

def accept (t : Token) : Step Bool := do
  if (← peek) = some t then
    pass
    return true
  else return false

def expect (t : Token) : Step Unit := do
  if !(← accept t) then failure

def comes (ts : List Token) : Step Bool := do return (← peek).any ts.contains

def define (anchor : Option String) (n : Node) : Step Unit :=
  match anchor with
  | none => pure ()
  | some name => modify fun p => { p with anchors := (name, n) :: p.anchors }

def named (name : String) : Step Node := do
  match (← get).anchors.lookup name with
  | some n => return n
  | none => failure

def newAnchor (name : String) : Step String := do
  if (← get).anchors.any (·.1 == name) then failure else return name

def tagName (handle : Option String) (suffix : String) : Step String :=
  match handle with
  | none => pure suffix
  | some h => do
    match (← get).handles.lookup h with
    | some lead => return lead ++ suffix
    | none => failure

/-- The anchor and the tag in front of a node, in either order. -/
def properties : Step (Option String × Option String) := do
  match ← peek with
  | some (.anchor name) => do
    pass
    match ← peek with
    | some (.tag handle suffix) => do
      pass
      return (some name, some (← tagName handle suffix))
    | _ => return (some name, none)
  | some (.tag handle suffix) => do
    pass
    let name ←
      match ← peek with
      | some (.anchor name) => do
        pass
        pure (some name)
      | _ => pure none
    return (name, some (← tagName handle suffix))
  | _ => return (none, none)

end Step

/-- Whether a node has no tag of its own; a single exclamation mark is none. -/
def isUntagged (tag : Option String) : Bool := tag.all (· == "!")

def collectionTag (tag : Option String) (usual : Tag) : Tag :=
  match tag with
  | none => usual
  | some "!" => usual
  | some name => .ofName name

/-- The node of a scalar. Between quotes it is a text unless it has a tag. -/
def scalarNode (tag : Option String) (text : String) (plain : Bool) : Node :=
  match tag with
  | none => .scalar (if plain then .ofPlain text else .str) text
  | some "!" => .scalar (.ofPlain text) text
  | some name => .scalar (.ofName name) text

/-! In what follows `left` bounds the depth of calls. -/

mutual

/-- A node. Only some places admit block collections, and only some a sequence that is indented no
deeper than the mapping around it. -/
def readNode (block indentless : Bool) : (left : Nat) → Step Node
  | 0 => failure
  | left + 1 => do
    match ← Step.peek with
    | some (.alias name) => do
      Step.pass
      Step.named name
    | _ => do
      let (anchor?, tag) ← Step.properties
      let anchor ← anchor?.mapM Step.newAnchor
      let next ← Step.peek
      let sequence (items : Step (List Node)) : Step Node := do
        let kind := collectionTag tag .seq
        Step.define anchor (.sequence kind [])
        let n := Node.sequence kind (← items)
        Step.define anchor n
        return n
      let mapping (entries : Step (List (Node × Node))) : Step Node := do
        let kind := collectionTag tag .map
        Step.define anchor (.mapping kind [])
        let n := Node.mapping kind (← entries)
        Step.define anchor n
        return n
      match next with
      | some (.scalar text plain) => do
        Step.pass
        let n := scalarNode tag text plain
        Step.define anchor n
        return n
      | some .flowSequenceStart => do
        Step.pass
        sequence (readFlowItems true left)
      | some .flowMappingStart => do
        Step.pass
        mapping (readFlowEntries true left)
      | _ =>
        if indentless && next == some .blockEntry then sequence (readIndentlessItems left)
        else if block && next == some .blockSequenceStart then do
          Step.pass
          sequence (readBlockItems left)
        else if block && next == some .blockMappingStart then do
          Step.pass
          mapping (readBlockEntries left)
        else if anchor.isSome || tag.isSome then do
          let n := if isUntagged tag then Node.empty else scalarNode tag "" false
          Step.define anchor n
          return n
        else failure

def readNodeUnless (stops : List Token) (block indentless : Bool) : (left : Nat) → Step Node
  | 0 => failure
  | left + 1 => do
    if ← Step.comes stops then return Node.empty else readNode block indentless left

def readBlockItems : (left : Nat) → Step (List Node)
  | 0 => failure
  | left + 1 => do
    if ← Step.accept .blockEntry then
      let first ← readNodeUnless [.blockEntry, .blockEnd] true false left
      return first :: (← readBlockItems left)
    else
      Step.expect .blockEnd
      return []

/-- The items of a sequence that is indented no deeper than the mapping around it. -/
def readIndentlessItems : (left : Nat) → Step (List Node)
  | 0 => failure
  | left + 1 => do
    if ← Step.accept .blockEntry then
      let first ← readNodeUnless [.blockEntry, .key, .value, .blockEnd] true false left
      return first :: (← readIndentlessItems left)
    else return []

/-- The entries of a block mapping. A key or a value may be left out. -/
def readBlockEntries : (left : Nat) → Step (List (Node × Node))
  | 0 => failure
  | left + 1 => do
    if ← Step.accept .key then
      let k ← readNodeUnless [.key, .value, .blockEnd] true true left
      let v ←
        if ← Step.accept .value then readNodeUnless [.key, .value, .blockEnd] true true left
        else pure Node.empty
      return (k, v) :: (← readBlockEntries left)
    else
      Step.expect .blockEnd
      return []

/-- The items between square brackets. An item with a key is a mapping of one entry. -/
def readFlowItems (first : Bool) : (left : Nat) → Step (List Node)
  | 0 => failure
  | left + 1 => do
    if ← Step.accept .flowSequenceEnd then return []
    else
      if !first then Step.expect .flowEntry
      if ← Step.accept .key then
        let k ← readNodeUnless [.value, .flowEntry, .flowSequenceEnd] false false left
        let v ←
          if ← Step.accept .value then
            readNodeUnless [.flowEntry, .flowSequenceEnd] false false left
          else pure Node.empty
        return .mapping .map [(k, v)] :: (← readFlowItems false left)
      else if ← Step.accept .flowSequenceEnd then return []
      else
        let item ← readNode false false left
        return item :: (← readFlowItems false left)

/-- The entries between braces. A node without a mark of a key is a key without a value. -/
def readFlowEntries (first : Bool) : (left : Nat) → Step (List (Node × Node))
  | 0 => failure
  | left + 1 => do
    if ← Step.accept .flowMappingEnd then return []
    else
      if !first then Step.expect .flowEntry
      if ← Step.accept .key then
        let k ← readNodeUnless [.value, .flowEntry, .flowMappingEnd] false false left
        let v ←
          if ← Step.accept .value then
            readNodeUnless [.flowEntry, .flowMappingEnd] false false left
          else pure Node.empty
        return (k, v) :: (← readFlowEntries false left)
      else if ← Step.accept .flowMappingEnd then return []
      else
        let k ← readNode false false left
        return (k, Node.empty) :: (← readFlowEntries false left)

end

/-! ### Documents -/

def usualHandles : List (String × String) := [("!", "!"), ("!!", tagLead)]

/-- The directives in front of a document: at most one version, the first one of the format, and
each abbreviation once. -/
def readDirectives (versioned : Bool) (handles : List (String × String)) :
    List Token → Option (List (String × String) × List Token)
  | .directive (.version major) :: rest =>
    if versioned || major != 1 then none else readDirectives true handles rest
  | .directive (.handle name lead) :: rest =>
    if handles.any (·.1 == name) then none
    else readDirectives versioned (handles ++ [(name, lead)]) rest
  | .directive .reserved :: rest => readDirectives versioned handles rest
  | rest => some (handles ++ usualHandles, rest)

def endsDocument : Option Token → Bool
  | none => true
  | some .documentStart => true
  | some .documentEnd => true
  | some (.directive _) => true
  | _ => false

/-- The node of a document whose content starts here, and the tokens after it. An end mark may
follow it. -/
def readContent (handles : List (String × String)) (explicit : Bool) (tokens : List Token) :
    Option (Node × List Token) := do
  let (n, rest) ←
    if explicit && endsDocument tokens.head? then some (Node.empty, tokens)
    else do
      let (n, p) ← readNode true false (4 * tokens.length + 8) ⟨tokens, [], handles⟩
      some (n, p.tokens)
  match rest with
  | .documentEnd :: rest => some (n, rest)
  | rest => some (n, rest)

def readDocument (tokens : List Token) : Option (Option Node) := do
  let start := tokens.head?
  if start.isNone then some none
  else do
    let (n, rest) ←
      match start with
      | some .documentStart => readContent usualHandles true tokens.tail
      | some (.directive _) => do
        let (handles, rest) ← readDirectives false [] tokens
        match rest with
        | .documentStart :: rest => readContent handles true rest
        | _ => none
      | _ => readContent usualHandles false tokens
    if (rest.dropWhile (· == .documentEnd)).isEmpty then some (some n) else none

end LineCommand.Yaml
