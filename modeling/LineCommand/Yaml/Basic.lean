import LineCommand.Text.Case
import LineCommand.Text.Quoted
import LineCommand.Yaml.Binary
import LineCommand.Yaml.Node
import LineCommand.Yaml.Tokens

/-!
From nodes to values. What is wrong with a shallow part of a text is reported before what is wrong
with a deeper one, and within one depth the first problem is reported.
-/
namespace LineCommand.Yaml

/-! ### Scalars -/

/-- The start of a text that an index beyond its end asks for. -/
def noFirst : Fault := .of .badIndex "string index out of range"

def readBase (base : Nat) (cs : List Char) : Except Fault Int :=
  let invalid :=
    let cited := String.ofList ((Text.quote cs).take 200)
    Fault.badValue s!"invalid literal for int() with base {base}: {cited}"
  match looseParts? base cs, integerIn? base cs with
  | some (_, digits), some n =>
    if base = 10 ∧ digitLimit < digits.length then .error (.tooManyDigits digits.length) else .ok n
  | _, _ => .error invalid

/-- The value of parts of base sixty, the last one first. -/
def sixtieths (parts : List Int) : Int := parts.foldr (fun part total => part + 60 * total) 0

def integer (text : String) : Except Fault Int :=
  match text.toList.filter (· != '_') with
  | [] => .error noFirst
  | first :: more =>
    let cs := if first = '-' ∨ first = '+' then more else first :: more
    let size : Except Fault Int :=
      match cs with
      | [] => .error noFirst
      | ['0'] => .ok 0
      | '0' :: 'b' :: digits => readBase 2 digits
      | '0' :: 'x' :: digits => readBase 16 digits
      | '0' :: _ => readBase 8 cs
      | _ =>
        if cs.contains ':' then (colonParts cs).mapM (readBase 10) |>.map (sixtieths ·.reverse)
        else readBase 10 cs
    size.map fun n => if first = '-' then -n else n

def readDouble (cs : List Char) : Except Fault Double :=
  match Double.ofText? cs with
  | some x => .ok x
  | none =>
    let cited := String.ofList (Text.quote cs)
    .error (.badValue s!"could not convert string to float: {cited}")

/-- The sum of parts of base sixty from the last one on, each of them weighed. -/
def doubleSixtieths (total : Double) (weight : Nat) : List Double → Double
  | [] => total
  | part :: rest => doubleSixtieths (total.add (part.scale weight)) (weight * 60) rest

def double (text : String) : Except Fault Double :=
  match Text.lower (text.toList.filter (· != '_')) with
  | [] => .error noFirst
  | first :: more =>
    let cs := if first = '-' ∨ first = '+' then more else first :: more
    let size : Except Fault Double :=
      if cs = ".inf".toList then .ok (.infinite false)
      else if cs = ".nan".toList then .ok .nan
      else if cs.contains ':' then do
        let parts ← (colonParts cs).mapM readDouble
        .ok (doubleSixtieths (.finite false 0) 1 parts.reverse)
      else readDouble cs
    size.map fun x => if first = '-' then x.negate else x

def moment (text : String) : Except Fault Moment :=
  match moment? text.toList with
  | none => .error (.of .noAttribute "'NoneType' object has no attribute 'groupdict'")
  | some m =>
    match sound : m.problem? with
    | some problem => .error (.badValue problem.message)
    | none => .ok ⟨m, sound⟩

def scalarValue (tag : Tag) (text : String) : Except Fault Value :=
  match tag with
  | .null => .ok .none
  | .str => .ok (.text text)
  | .int => (integer text).map .int
  | .float => (double text).map .float
  | .timestamp => (moment text).map .moment
  | .bool =>
    let word := Text.lowered text
    match boolWords.lookup word with
    | some b => .ok (.bool b)
    | none => .error (.of .missingKey (Text.quoted word))
  | .binary =>
    match if text.toList.all (·.toNat < 128) then bytes? text.toList else none with
    | some bytes => .ok (.bytes bytes)
    | none => .error malformed
  | _ => .error malformed

/-! ### Settled nodes -/

def Tag.isScalar : Tag → Bool
  | .null | .bool | .int | .float | .binary | .timestamp | .str => true
  | _ => false

/-- A node that no value can be made of. -/
def Node.hopeless : Node := .scalar .unknown ""

def Node.tag : Node → Tag
  | .scalar tag _ => tag
  | .sequence tag _ => tag
  | .mapping tag _ => tag

mutual

/-- The text of a node: that of a scalar, or of the plain value of a mapping. -/
def Node.text? : Node → Option String
  | .scalar _ text => some text
  | .sequence .. => none
  | .mapping _ entries => defaultText? entries

/-- The text of the first plain value among entries. -/
def defaultText? : List (Node × Node) → Option String
  | [] => none
  | (k, v) :: rest => if k.tag = .default then v.text? else defaultText? rest

end

/-- The entries that a mapping takes in from a node: those of a mapping, or those of the mappings in
a sequence, the first of which wins. -/
def Node.mergedEntries? : Node → Option (List (Node × Node))
  | .mapping _ entries => some entries
  | .sequence _ items => do
    let parts ← items.mapM fun
      | .mapping _ entries => some entries
      | _ => none
    some parts.reverse.flatten
  | .scalar .. => none

/-- Entries with those in front that they take in. The key for a plain value is a text. -/
def takeIn (entries : List (Node × Node)) : List (Node × Node) :=
  let own := entries.filter fun (k, _) => k.tag != .merge
  let own := own.map fun (k, v) =>
    match k with
    | .scalar .default text => (Node.scalar .str text, v)
    | k => (k, v)
  let taken := entries.filterMap fun (k, v) =>
    if k.tag = .merge then some (v.mergedEntries?.getD [(.hopeless, .hopeless)]) else none
  taken.flatten ++ own

mutual

/-- The node with all entries taken in, and with scalars where their tags ask for them. -/
def Node.settled : Node → Node
  | .scalar tag text => .scalar tag text
  | .sequence tag items => if tag.isScalar then .hopeless else .sequence tag (settledItems items)
  | .mapping tag entries =>
    if tag.isScalar then
      match defaultText? entries with
      | some text => .scalar tag text
      | none => .hopeless
    else .mapping tag (takeIn (settledEntries entries))

def settledItems : List Node → List Node
  | [] => []
  | n :: rest => n.settled :: settledItems rest

def settledEntries : List (Node × Node) → List (Node × Node)
  | [] => []
  | (k, v) :: rest => (k.settled, v.settled) :: settledEntries rest

end

/-! ### Values -/

/-- A fault and the depth at which it arises. -/
abbrev Deep (α : Type) := Except (Nat × Fault) α

/-- Both of two results. Of two faults the shallower one counts, and the first one of equals. -/
def Deep.both {α β : Type} (x : Deep α) (y : Deep β) : Deep (α × β) :=
  match x, y with
  | .ok a, .ok b => .ok (a, b)
  | .error e, .ok _ => .error e
  | .ok _, .error f => .error f
  | .error e, .error f => .error (if f.1 < e.1 then f else e)

def isKey : Value → Bool
  | .list _ => false
  | .dict _ => false
  | .set _ => false
  | _ => true

def deepFault {α : Type} (depth : Nat) : Deep α := .error (depth, malformed)

mutual

def Node.value (depth : Nat) : Node → Deep Value
  | .scalar tag text =>
    match tag with
    | .seq | .map | .set | .omap | .pairs => deepFault (depth + 1)
    | tag => (scalarValue tag text).mapError (depth, ·)
  | .sequence tag items =>
    match tag with
    | .seq => (itemValues (depth + 1) items).map .list
    | .omap | .pairs => (pairValues (depth + 1) items).map .list
    | .map | .set => deepFault (depth + 1)
    | _ => deepFault depth
  | .mapping tag entries =>
    match tag with
    | .map => (entryValues (depth + 1) entries).map Value.ofEntries
    | .set => (entryValues (depth + 1) entries).map fun made =>
        match Value.ofEntries made with
        | .dict kept => .set (kept.map (·.1))
        | v => v
    | .seq | .omap | .pairs => deepFault (depth + 1)
    | _ => deepFault depth

def itemValues (depth : Nat) : List Node → Deep (List Value)
  | [] => .ok []
  | n :: rest => (Deep.both (n.value depth) (itemValues depth rest)).map fun (v, vs) => v :: vs

def entryValues (depth : Nat) : List (Node × Node) → Deep (List (Value × Value))
  | [] => .ok []
  | (k, v) :: rest =>
    let key : Deep Value :=
      match k.value depth with
      | .ok key => if isKey key then .ok key else deepFault depth
      | .error e => if depth < e.1 then deepFault depth else .error e
    let entry := Deep.both key (v.value depth)
    (Deep.both entry (entryValues depth rest)).map fun (e, es) => e :: es

/-- The values of items that are mappings of one entry each, as pairs. -/
def pairValues (depth : Nat) : List Node → Deep (List Value)
  | [] => .ok []
  | .mapping _ [(k, v)] :: rest =>
    let pair := Deep.both (k.value depth) (v.value depth)
    (Deep.both pair (pairValues depth rest)).map fun ((a, b), vs) => .tuple [a, b] :: vs
  | _ :: _ => deepFault depth

end

/-- The value of a text: that of its only document. An empty text stands for nothing. -/
def load (text : List Char) : Except Fault Value := do
  let ts ← tokens text
  match readDocument ts with
  | none => .error malformed
  | some none => .ok .none
  | some (some n) => (n.settled.value 0).mapError (·.2)

end LineCommand.Yaml
