import LineCommand.Number.Decimal
import LineCommand.Moment
import LineCommand.Text.Lines

/-!
Tags say what a node of a text stands for. A plain scalar without a tag of its own gets one by its
form: the words for truth values and for nothing, the forms of numbers and the forms of moments.
-/
namespace LineCommand.Yaml

inductive Tag
  | null
  | bool
  | int
  | float
  | binary
  | timestamp
  | omap
  | pairs
  | set
  | str
  | seq
  | map
  /-- The key under which a mapping takes in other mappings. -/
  | merge
  /-- The key under which a mapping has its plain value. -/
  | default
  | unknown
  deriving DecidableEq, Repr

def tagLead : String := "tag:yaml.org,2002:"

def tagNames : List (String × Tag) :=
  [("null", .null), ("bool", .bool), ("int", .int), ("float", .float), ("binary", .binary),
   ("timestamp", .timestamp), ("omap", .omap), ("pairs", .pairs), ("set", .set), ("str", .str),
   ("seq", .seq), ("map", .map), ("merge", .merge), ("value", .default)]

def Tag.ofName (name : String) : Tag :=
  match Text.dropStart? tagLead.toList name.toList with
  | some rest => (tagNames.lookup (String.ofList rest)).getD .unknown
  | none => .unknown

/-! ### Forms of plain scalars -/

def boolWords : List (String × Bool) :=
  [("yes", true), ("no", false), ("true", true), ("false", false), ("on", true), ("off", false)]

/-- The words for truth values in the three letter cases that plain scalars may have. -/
def isBoolForm (s : String) : Bool :=
  boolWords.any fun (w, _) =>
    s == w || s == w.capitalize || s == String.ofList (w.toList.map Char.toUpper)

def isNullForm (s : String) : Bool := ["~", "null", "Null", "NULL", ""].contains s

/-- Digits with low lines among them, the first of them a digit. -/
def isLooseRun (cs : List Char) : Bool :=
  cs.head?.any isAsciiDigit && cs.all fun c => isAsciiDigit c || c == '_'

/-- Digits of base ten with low lines among them, the first of them not zero. -/
def isLooseWhole (cs : List Char) : Bool := isLooseRun cs && cs.head? != some '0'

/-- A part of a number of base sixty after the first one: up to 59, in one digit or two. -/
def isSixtieth (cs : List Char) : Bool :=
  match cs with
  | [d] => isAsciiDigit d
  | [t, d] => '0' ≤ t && t ≤ '5' && isAsciiDigit d
  | _ => false

def colonParts (cs : List Char) : List (List Char) := Text.splitFrom [':'] [] 0 cs

/-- Digits of a base with low lines among them, at least one character. -/
def isBaseRun (base : Nat) (cs : List Char) : Bool :=
  !cs.isEmpty && cs.all fun c => c == '_' || (baseDigit? c).any (· < base)

/-- The forms of integers, which may have a sign: base two, eight, sixteen, ten and sixty. -/
def isIntForm (cs : List Char) : Bool :=
  match (takeSign cs).2 with
  | ['0'] => true
  | '0' :: 'b' :: rest => isBaseRun 2 rest
  | '0' :: 'x' :: rest => isBaseRun 16 rest
  | '0' :: rest => isBaseRun 8 rest
  | unsigned =>
    match colonParts unsigned with
    | first :: others => isLooseWhole first && others.all isSixtieth
    | [] => false

def isExponentForm (cs : List Char) : Bool :=
  match cs with
  | [] => true
  | e :: sign :: digits =>
    (e == 'e' || e == 'E') && (sign == '+' || sign == '-') && !digits.isEmpty
      && digits.all isAsciiDigit
  | _ => false

/-- Digits and low lines, and an exponent after them. -/
def isFractionForm (cs : List Char) : Bool :=
  isExponentForm (cs.dropWhile fun c => isAsciiDigit c || c == '_')

def infinityWords : List String := ["inf", "Inf", "INF"]

def undefinedWords : List String := ["nan", "NaN", "NAN"]

/-- The forms of numbers with a point. A sign needs a digit before the point, or a word after it. -/
def isFloatForm (cs : List Char) : Bool :=
  let unsigned := (takeSign cs).2
  let signed := unsigned.length != cs.length
  match unsigned with
  | '.' :: rest =>
    infinityWords.contains (String.ofList rest)
      || (!signed && (undefinedWords.contains (String.ofList rest)
        || (rest.head?.any isAsciiDigit && isFractionForm rest)))
  | _ =>
    let whole := unsigned.takeWhile (· != '.')
    match unsigned.dropWhile (· != '.') with
    | '.' :: rest =>
      (isLooseRun whole && isFractionForm rest)
        || (match colonParts whole with
          | first :: second :: others =>
            isLooseRun first && (second :: others).all isSixtieth
              && rest.all fun c => isAsciiDigit c || c == '_'
          | _ => false)
    | _ => false

/-! ### Forms of moments -/

/-- A number of at least `low` and at most `high` digits at the start of a text. -/
def takeNumber? (low high : Nat) (cs : List Char) : Option (Nat × List Char) :=
  let digits := (cs.take high).takeWhile isAsciiDigit
  if digits.length < low then none else some (natIn 10 digits, cs.drop digits.length)

/-- The rest of a text after a character that it starts with. -/
def takeChar? (c : Char) (cs : List Char) : Option (List Char) :=
  if cs.head? = some c then some cs.tail else none

def isSpace (c : Char) : Bool := c == ' ' || c == '\t'

/-- An offset from universal time at the end of a text, in seconds; blanks may stand before it. The
end of the text is no offset. -/
def offset? (cs : List Char) : Option (Option Int) :=
  if cs.isEmpty then some none
  else
    match cs.dropWhile isSpace with
    | ['Z'] => some (some 0)
    | sign :: rest =>
      if sign = '+' ∨ sign = '-' then do
        let (hours, rest) ← takeNumber? 1 2 rest
        let minutes ←
          if rest.isEmpty then some 0
          else do
            let rest ← takeChar? ':' rest
            let (minutes, rest) ← takeNumber? 2 2 rest
            if rest.isEmpty then some minutes else none
        let seconds : Int := (hours * 60 + minutes) * 60
        some (some (if sign = '-' then -seconds else seconds))
      else none
    | [] => none

/-- The fraction of a second as millionths, of which only six digits count. -/
def fraction? (cs : List Char) : Nat × List Char :=
  match cs with
  | '.' :: rest =>
    let digits := rest.takeWhile isAsciiDigit
    let six := digits.take 6
    (natIn 10 (six ++ List.replicate (6 - six.length) '0'), rest.drop digits.length)
  | _ => (0, cs)

def clock? (cs : List Char) : Option Clock := do
  let rest ←
    match cs with
    | c :: more =>
      if c = 'T' ∨ c = 't' then some more
      else if isSpace c then some (more.dropWhile isSpace)
      else none
    | [] => none
  let (hour, rest) ← takeNumber? 1 2 rest
  let rest ← takeChar? ':' rest
  let (minute, rest) ← takeNumber? 2 2 rest
  let rest ← takeChar? ':' rest
  let (second, rest) ← takeNumber? 2 2 rest
  let (micro, rest) := fraction? rest
  let offset ← offset? rest
  some ⟨hour, minute, second, micro, offset⟩

def moment? (cs : List Char) : Option MomentNumbers := do
  let (year, rest) ← takeNumber? 4 4 cs
  let rest ← takeChar? '-' rest
  let (month, rest) ← takeNumber? 1 2 rest
  let rest ← takeChar? '-' rest
  let (day, rest) ← takeNumber? 1 2 rest
  if rest.isEmpty then some ⟨⟨year, month, day⟩, none⟩
  else (clock? rest).map fun clock => ⟨⟨year, month, day⟩, some clock⟩

/-- The forms of moments. A day by itself has two digits for the month and two for the day. -/
def isMomentForm (cs : List Char) : Bool :=
  (moment? cs).any fun m => m.clock.isSome || cs.length == 10

def Tag.ofPlain (s : String) : Tag :=
  let cs := s.toList
  if isBoolForm s then .bool
  else if isFloatForm cs then .float
  else if isIntForm cs then .int
  else if s = "<<" then .merge
  else if isNullForm s then .null
  else if isMomentForm cs then .timestamp
  else if s = "=" then .default
  else .str

end LineCommand.Yaml
