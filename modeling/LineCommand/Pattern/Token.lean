import LineCommand.Number.Integer
import LineCommand.Pattern.Basic
import LineCommand.Pattern.Complaint
import LineCommand.Text.CharacterName
import LineCommand.Text.Identifier

/-!
The text of a pattern cut into tokens. Cutting depends on what stands before a token only through
the flag that admits comments and blanks, so the tokens of two texts in a row are those of the first
followed by those of the second wherever no token reaches across.
-/
namespace LineCommand.Pattern

/-- A change of flags written inside a pattern, by letters. -/
structure FlagChange where
  on : List Char
  off : List Char
  deriving DecidableEq, Repr

def FlagChange.apply (change : FlagChange) (f : PatternFlags) : PatternFlags :=
  let turned (letter : Char) (old : Bool) :=
    (old || change.on.contains letter) && !change.off.contains letter
  { ignoreCase := turned 'i' f.ignoreCase
    multiline := turned 'm' f.multiline
    dotAll := turned 's' f.dotAll
    verbose := turned 'x' f.verbose
    ascii := change.on.contains 'a' || (f.ascii && !change.on.contains 'u') }

inductive Token
  /-- Nothing to match: a comment, or a blank where blanks are for the eye only. -/
  | nothing
  | literal (code : Nat)
  | anyChar
  | set (items : List SetItem) (negated : Bool)
  | lineStart
  | lineEnd
  | textStart
  | textEnd
  | boundary (negated : Bool)
  | back (group : Nat)
  | namedBack (name : String)
  | again (low : Nat) (high : Option Nat) (manner : Manner)
  | bar
  | openGroup (name : Option String)
  | openPlain
  | openAtomic
  | openLook (behind negated : Bool)
  | openNumbered (group : Nat)
  | openNamed (name : String)
  | openFlags (change : FlagChange)
  | flags (on : List Char)
  | close
  /-- No token: the complaint is about the place that many characters after the token's start. -/
  | bad (complaint : Complaint) (offset : Option Nat)
  deriving DecidableEq, Repr

/-- A token and the number of characters that write it, at least one. -/
structure Lexeme where
  token : Token
  size : Nat
  deriving DecidableEq, Repr

def flagLetters : List Char := ['i', 'L', 'm', 's', 'x', 'a', 't', 'u']

/-- The largest count that a repetition may name, exclusive. -/
def repeatLimit : Nat := 4294967295

/-- Tells the blanks that are for the eye only where comments are admitted. -/
def isLayout (c : Char) : Bool := Text.isAsciiBlank c

def isAsciiLetter (c : Char) : Bool := ('a' ≤ c && c ≤ 'z') || ('A' ≤ c && c ≤ 'Z')

def isOctal (c : Char) : Bool := '0' ≤ c && c ≤ '7'

def isHex (c : Char) : Bool := (baseDigit? c).any (· < 16)

def isAsciiDigit (c : Char) : Bool := '0' ≤ c && c ≤ '9'

/-- The characters up to a terminator, which is not inside an escape. -/
def upTo (terminator : Char) : List Char → Option (List Char)
  | [] => none
  | '\\' :: c :: rest => (upTo terminator rest).map fun name => '\\' :: c :: name
  | c :: rest => if c = terminator then some [] else (upTo terminator rest).map (c :: ·)

def unit : List Char → List Char
  | '\\' :: c :: _ => ['\\', c]
  | c :: _ => [c]
  | [] => []

def name (terminator : Char) (what : String) (cs : List Char) : Except Complaint (List Char) :=
  match upTo terminator cs with
  | none =>
    .error (if cs.isEmpty then .missing what else .unterminatedName (String.singleton terminator))
  | some [] => .error (.missing what)
  | some found => .ok found

/-! ### Escapes -/

/-- A code point written by a fixed number of digits of base sixteen after the two characters of
`head`. -/
def hexEscape (head : List Char) (width : Nat) (cs : List Char) : Except Complaint (Nat × Nat) :=
  let digits := (cs.take width).takeWhile isHex
  let text := String.ofList (head ++ digits)
  if digits.length < width then .error (.incompleteEscape text)
  else
    let code := natIn 16 digits
    if code < 0x110000 then .ok (code, 2 + width) else .error (.badEscape text)

/-- A code point written by its name between braces. The complaint comes with its offset. -/
def namedEscape (cs : List Char) : Except (Complaint × Nat) (Nat × Nat) :=
  match cs with
  | '{' :: rest =>
    match name '}' "character name" rest with
    | .error complaint => .error (complaint, 3)
    | .ok found =>
      match Text.characterNamed? (String.ofList found) with
      | some code => .ok (code, 4 + found.length)
      | none => .error (.undefinedCharacter (String.ofList found), 0)
  | _ => .error (.noBrace, 2)

/-- A code point written by up to three digits of base eight, of which `first` is the first. -/
def octalEscape (first : Char) (cs : List Char) : Except Complaint (Nat × Nat) :=
  let digits := first :: (cs.take 2).takeWhile isOctal
  let code := natIn 8 digits
  if 255 < code then .error (.octalTooLarge (String.ofList ('\\' :: digits)))
  else .ok (code, 1 + digits.length)

def letterEscape? : Char → Option Nat
  | 'a' => some 7
  | 'b' => some 8
  | 'f' => some 12
  | 'n' => some 10
  | 'r' => some 13
  | 't' => some 9
  | 'v' => some 11
  | '\\' => some 92
  | _ => none

/-- The kinds with an escape of one letter; the capital letter excludes the kind. -/
def kindEscape? : Char → Option (CharKind × Bool)
  | 'd' => some (.digit, false)
  | 'D' => some (.digit, true)
  | 's' => some (.blank, false)
  | 'S' => some (.blank, true)
  | 'w' => some (.word, false)
  | 'W' => some (.word, true)
  | _ => none

/-- The escapes that write one code point by digits or by name, after the backslash and `c`. `none`
where `c` starts no such escape. The result comes with its size. -/
def codeEscape? (c : Char) (cs : List Char) : Option (Except (Complaint × Nat) (Nat × Nat)) :=
  let placed (e : Except Complaint (Nat × Nat)) : Except (Complaint × Nat) (Nat × Nat) :=
    match e with
    | .ok found => .ok found
    | .error complaint => .error (complaint, 0)
  match c with
  | 'x' => some (placed (hexEscape ['\\', 'x'] 2 cs))
  | 'u' => some (placed (hexEscape ['\\', 'u'] 4 cs))
  | 'U' => some (placed (hexEscape ['\\', 'U'] 8 cs))
  | 'N' => some (namedEscape cs)
  | _ => none

/-- An escape of digits that is not inside a set: a code point if it starts with a zero or has three
digits of base eight, else a group to refer back to. -/
def digitEscape (c : Char) (cs : List Char) : Lexeme :=
  if c = '0' then
    match octalEscape c cs with
    | .ok (code, size) => ⟨.literal code, size⟩
    | .error complaint => ⟨.bad complaint (some 0), 2⟩
  else
    match cs with
    | d :: e :: _ =>
      if isAsciiDigit d then
        if isOctal c && isOctal d && isOctal e then
          match octalEscape c cs with
          | .ok (code, size) => ⟨.literal code, size⟩
          | .error complaint => ⟨.bad complaint (some 0), 4⟩
        else ⟨.back (natIn 10 [c, d]), 3⟩
      else ⟨.back (natIn 10 [c]), 2⟩
    | [d] => if isAsciiDigit d then ⟨.back (natIn 10 [c, d]), 3⟩ else ⟨.back (natIn 10 [c]), 2⟩
    | [] => ⟨.back (natIn 10 [c]), 2⟩

def escape : List Char → Lexeme
  | [] => ⟨.bad .endsInEscape (some 0), 1⟩
  | c :: cs =>
    match c with
    | 'A' => ⟨.textStart, 2⟩
    | 'Z' => ⟨.textEnd, 2⟩
    | 'b' => ⟨.boundary false, 2⟩
    | 'B' => ⟨.boundary true, 2⟩
    | _ =>
      match kindEscape? c with
      | some (kind, negated) => ⟨.set [.kind kind negated] false, 2⟩
      | none =>
        match letterEscape? c with
        | some code => ⟨.literal code, 2⟩
        | none =>
          match codeEscape? c cs with
          | some (.ok (code, size)) => ⟨.literal code, size⟩
          | some (.error (complaint, offset)) => ⟨.bad complaint (some offset), 2⟩
          | none =>
            if isAsciiDigit c then digitEscape c cs
            else if isAsciiLetter c then
              ⟨.bad (.badEscape (String.ofList ['\\', c])) (some 0), 2⟩
            else ⟨.literal c.toNat, 2⟩

/-! ### Sets -/

def setMember : List Char → Except (Complaint × Nat) (SetItem × Nat)
  | '\\' :: c :: cs =>
    match letterEscape? c with
    | some code => .ok (.code code, 2)
    | none =>
      match kindEscape? c with
      | some (kind, negated) => .ok (.kind kind negated, 2)
      | none =>
        match codeEscape? c cs with
        | some (.ok (code, size)) => .ok (.code code, size)
        | some (.error found) => .error found
        | none =>
          if isOctal c then
            match octalEscape c cs with
            | .ok (code, size) => .ok (.code code, size)
            | .error complaint => .error (complaint, 0)
          else if isAsciiDigit c || isAsciiLetter c then
            .error (.badEscape (String.ofList ['\\', c]), 0)
          else .ok (.code c.toNat, 2)
  | ['\\'] => .error (.endsInEscape, 0)
  | c :: _ => .ok (.code c.toNat, 1)
  | [] => .error (.unterminatedSet, 0)

/-- How far the reading of a set has come: between members, after a member that may start a range,
or after such a member and a hyphen. The text is how the member is cited. -/
inductive SetProgress
  | between
  | member (item : SetItem) (text : List Char)
  | hyphen (item : SetItem) (text : List Char)

/-- Reads the members of a set up to the bracket that closes it. `items` are the members so far,
backwards, `size` counts the characters up to here from the bracket that opens the set, and `skip`
those already read. -/
def setFrom (negated : Bool) (items : List SetItem) (progress : SetProgress) (size skip : Nat) :
    List Char → Lexeme
  | [] => ⟨.bad .unterminatedSet (some 0), size⟩
  | c :: cs =>
    match skip with
    | skip + 1 => setFrom negated items progress (size + 1) skip cs
    | 0 =>
      let start (items : List SetItem) : Lexeme :=
        if c = ']' ∧ items ≠ [] then ⟨.set items.reverse negated, size + 1⟩
        else
          match setMember (c :: cs) with
          | .error (complaint, offset) => ⟨.bad complaint (some (size + offset)), size + 1⟩
          | .ok (item, taken) =>
            setFrom negated items (.member item (unit (c :: cs))) (size + 1) (taken - 1) cs
      match progress with
      | .between => start items
      | .member item text =>
        if c = '-' then setFrom negated items (.hyphen item text) (size + 1) 0 cs
        else start (item :: items)
      | .hyphen item text =>
        if c = ']' then ⟨.set (.code 45 :: item :: items).reverse negated, size + 1⟩
        else
          match setMember (c :: cs) with
          | .error (complaint, offset) => ⟨.bad complaint (some (size + offset)), size + 1⟩
          | .ok (last, taken) =>
            let lastText := unit (c :: cs)
            let refusal : Lexeme :=
              ⟨.bad (.badRange (String.ofList text) (String.ofList lastText))
                (some (size + taken - (text.length + 1 + lastText.length))), size + 1⟩
            match item, last with
            | .code low, .code high =>
              if high < low then refusal
              else setFrom negated (.range low high :: items) .between (size + 1) (taken - 1) cs
            | _, _ => refusal

def charSet : List Char → Lexeme
  | '^' :: cs => setFrom true [] .between 2 0 cs
  | cs => setFrom false [] .between 1 0 cs

/-! ### Repetitions -/

/-- How a repetition is marked to choose its rounds, and the size of the mark. -/
def manner : List Char → Manner × Nat
  | '?' :: _ => (.lazy, 1)
  | '+' :: _ => (.possessive, 1)
  | _ => (.greedy, 0)

/-- A repetition whose bounds took `size` characters. -/
def repetition (low : Nat) (high : Option Nat) (size : Nat) (rest : List Char) : Lexeme :=
  let (mode, more) := manner rest
  ⟨.again low high mode, size + more⟩

/-- The bound that digits name; no digits name no bound. -/
def bound (digits : List Char) : Except Complaint (Option Nat) :=
  if digits.isEmpty then .ok none
  else if digitLimit < digits.length then .error (.tooManyDigits digits.length)
  else
    let n := natIn 10 digits
    if repeatLimit ≤ n then .error .repeatTooLarge else .ok (some n)

/-- A second bound, if a comma announces one: how many commas there are, its digits, and what
follows. -/
def secondBound : List Char → Nat × List Char × List Char
  | ',' :: more => (1, more.takeWhile isAsciiDigit, more.dropWhile isAsciiDigit)
  | rest => (0, [], rest)

/-- A repetition with bounds between braces, from where the brace that closes them has to stand.
Braces that hold no bounds stand for themselves. -/
def boundsEnd (low : List Char) (comma : Nat) (high : List Char) : List Char → Lexeme
  | '}' :: after =>
    let size := 2 + low.length + comma + high.length
    match bound low, bound (if comma = 0 then low else high) with
    | .error complaint, _ => ⟨.bad complaint none, size⟩
    | .ok _, .error complaint => ⟨.bad complaint none, size⟩
    | .ok least, .ok most =>
      if most.any (· < least.getD 0) then ⟨.bad .minAboveMax (some 1), size⟩
      else repetition (least.getD 0) most size after
  | _ => ⟨.literal 123, 1⟩

/-- A repetition with bounds between braces, after the brace that opens it. -/
def braces (cs : List Char) : Lexeme :=
  if cs.head? = some '}' then ⟨.literal 123, 1⟩
  else
    let (comma, high, rest) := secondBound (cs.dropWhile isAsciiDigit)
    boundsEnd (cs.takeWhile isAsciiDigit) comma high rest

/-! ### Groups -/

/-- Flags to be turned off, up to the colon. `before` counts the characters of the token so far. -/
def flagsOff (on off : List Char) (before : Nat) : List Char → Lexeme
  | [] => ⟨.bad (.missing (if off.isEmpty then "flag" else ":")) (some before), before⟩
  | c :: cs =>
    if c = ':' ∧ off ≠ [] then
      if off.contains 't' then ⟨.bad .globalFlagOff (some before), before + 1⟩
      else if on.any off.contains then ⟨.bad .flagOnAndOff (some before), before + 1⟩
      else ⟨.openFlags ⟨on, off⟩, before + 1⟩
    else if !flagLetters.contains c then
      let wanted := if off.isEmpty then "flag" else ":"
      ⟨.bad (if Text.isLetter c then .unknownFlag else .missing wanted) (some before), before + 1⟩
    else if c = 'a' ∨ c = 'u' ∨ c = 'L' then ⟨.bad .typeFlagOff (some (before + 1)), before + 1⟩
    else flagsOff on (c :: off) (before + 1) cs

/-- Flags to be turned on, up to a hyphen, a colon or the end of the group. -/
def flagsOn (on : List Char) (before : Nat) : List Char → Lexeme
  | [] => ⟨.bad (.missing "-, : or )") (some before), before⟩
  | c :: cs =>
    if c = ')' then ⟨.flags on, before + 1⟩
    else if c = ':' ∨ c = '-' then
      if on.contains 't' then ⟨.bad .globalFlagOn (some before), before + 1⟩
      else if c = ':' then ⟨.openFlags ⟨on, []⟩, before + 1⟩
      else flagsOff on [] (before + 1) cs
    else if !flagLetters.contains c then
      let complaint := if Text.isLetter c then .unknownFlag else .missing "-, : or )"
      ⟨.bad complaint (some before), before + 1⟩
    else if c = 'L' then ⟨.bad .localeFlag (some (before + 1)), before + 1⟩
    else if (c = 'a' ∧ on.contains 'u') ∨ (c = 'u' ∧ on.contains 'a') then
      ⟨.bad .incompatibleFlags (some (before + 1)), before + 1⟩
    else flagsOn (c :: on) (before + 1) cs

/-- A named group or a reference to one, which starts `before` characters after the token. -/
def groupName (terminator : Char) (before : Nat) (cs : List Char) (token : String → Token) :
    Lexeme :=
  match name terminator "group name" cs with
  | .error complaint => ⟨.bad complaint (some before), before⟩
  | .ok found =>
    if Text.isIdentifier found then ⟨token (String.ofList found), before + found.length + 1⟩
    else ⟨.bad (.badGroupName (String.ofList found)) (some before), before⟩

/-- The condition on a group, after `(?(`. -/
def condition (cs : List Char) : Lexeme :=
  match name ')' "group name" cs with
  | .error complaint => ⟨.bad complaint (some 3), 3⟩
  | .ok found =>
    let size := 3 + found.length + 1
    if Text.isIdentifier found then ⟨.openNamed (String.ofList found), size⟩
    else
      match integer? found with
      | some (.ofNat 0) => ⟨.bad .badGroupNumber (some 3), size⟩
      | some (.ofNat n) =>
        if 1073741823 ≤ n then ⟨.bad (.invalidGroup n) (some 3), size⟩ else ⟨.openNumbered n, size⟩
      | _ => ⟨.bad (.badGroupName (String.ofList found)) (some 3), size⟩

/-- How many characters a comment in parentheses takes up to its end, if it has one. -/
def commentSize? : List Char → Option Nat
  | [] => none
  | '\\' :: _ :: rest => (commentSize? rest).map (· + 2)
  | c :: rest => if c = ')' then some 1 else (commentSize? rest).map (· + 1)

def opening : List Char → Lexeme
  | '?' :: rest =>
    match rest with
    | [] => ⟨.bad .unexpectedEnd (some 2), 2⟩
    | 'P' :: '<' :: more => groupName '>' 4 more fun found => .openGroup (some found)
    | 'P' :: '=' :: more => groupName ')' 4 more .namedBack
    | 'P' :: more =>
      if more.isEmpty then ⟨.bad .unexpectedEnd (some 3), 3⟩
      else ⟨.bad (.unknownExtension ("?P" ++ String.ofList (unit more))) (some 1), 3⟩
    | ':' :: _ => ⟨.openPlain, 3⟩
    | '#' :: more =>
      match commentSize? more with
      | some size => ⟨.nothing, 3 + size⟩
      | none => ⟨.bad .unterminatedComment (some 0), 3⟩
    | '=' :: _ => ⟨.openLook false false, 3⟩
    | '!' :: _ => ⟨.openLook false true, 3⟩
    | '<' :: '=' :: _ => ⟨.openLook true false, 4⟩
    | '<' :: '!' :: _ => ⟨.openLook true true, 4⟩
    | '<' :: more =>
      if more.isEmpty then ⟨.bad .unexpectedEnd (some 3), 3⟩
      else ⟨.bad (.unknownExtension ("?<" ++ String.ofList (unit more))) (some 1), 3⟩
    | '(' :: more => condition more
    | '>' :: _ => ⟨.openAtomic, 3⟩
    | '-' :: more => flagsOff [] [] 3 more
    | c :: more =>
      if flagLetters.contains c then flagsOn [] 2 (c :: more)
      else ⟨.bad (.unknownExtension ("?" ++ String.ofList (unit (c :: more)))) (some 1), 3⟩
  | _ => ⟨.openGroup none, 1⟩

/-! ### All tokens -/

/-- How many characters a comment takes that ends with its line. -/
def lineCommentSize : List Char → Nat
  | [] => 0
  | '\\' :: _ :: rest => lineCommentSize rest + 2
  | c :: rest => if c = '\n' then 1 else lineCommentSize rest + 1

/-- The token that starts with `c`. -/
def lexeme (verbose : Bool) (c : Char) (cs : List Char) : Lexeme :=
  if verbose && isLayout c then ⟨.nothing, 1⟩
  else if verbose && c == '#' then ⟨.nothing, 1 + lineCommentSize cs⟩
  else
    match c with
    | '\\' => escape cs
    | '[' => charSet cs
    | '*' => repetition 0 none 1 cs
    | '+' => repetition 1 none 1 cs
    | '?' => repetition 0 (some 1) 1 cs
    | '{' => braces cs
    | '.' => ⟨.anyChar, 1⟩
    | '^' => ⟨.lineStart, 1⟩
    | '$' => ⟨.lineEnd, 1⟩
    | '|' => ⟨.bar, 1⟩
    | '(' => opening cs
    | ')' => ⟨.close, 1⟩
    | _ => ⟨.literal c.toNat, 1⟩

/-- Whether comments are admitted after a token, innermost parenthesis first. -/
def Token.nest (token : Token) (verbose : List Bool) : List Bool :=
  let here := verbose.headD false
  match token with
  | .openGroup _ | .openPlain | .openAtomic | .openLook .. | .openNumbered _ | .openNamed _ =>
    here :: verbose
  | .openFlags change =>
    ((here || change.on.contains 'x') && !change.off.contains 'x') :: verbose
  | .flags on => (here || on.contains 'x') :: verbose.tail
  | .close => verbose.tail
  | _ => verbose

/-- The tokens of a text of which `skip` characters are already read. -/
def lexemesFrom (verbose : List Bool) (skip : Nat) : List Char → List Lexeme
  | [] => []
  | c :: cs =>
    match skip with
    | skip + 1 => lexemesFrom verbose skip cs
    | 0 =>
      let found := lexeme (verbose.headD false) c cs
      found :: lexemesFrom (found.token.nest verbose) (found.size - 1) cs

def lexemes (verbose : Bool) (cs : List Char) : List Lexeme := lexemesFrom [verbose] 0 cs

end LineCommand.Pattern
