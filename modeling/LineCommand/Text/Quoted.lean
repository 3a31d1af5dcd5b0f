import LineCommand.Text.Printable

/-! Quoted text, as messages cite it: between single quotes, or between double quotes where the text
has a single quote and no double one. What would not show is written as an escape. -/
namespace LineCommand.Text

def hexDigit (n : Nat) : Char := "0123456789abcdef".toList.getD (n % 16) '0'

/-- The last `width` digits of a number in base sixteen. -/
def hexDigits : (width : Nat) → Nat → List Char
  | 0, _ => []
  | width + 1, n => hexDigits width (n / 16) ++ [hexDigit n]

/-- A code point as an escape, in the shortest of the three widths that holds it. -/
def escapeCode (n : Nat) : List Char :=
  if n < 0x100 then '\\' :: 'x' :: hexDigits 2 n
  else if n < 0x10000 then '\\' :: 'u' :: hexDigits 4 n
  else '\\' :: 'U' :: hexDigits 8 n

def quoteChar (quote c : Char) : List Char :=
  if c = quote ∨ c = '\\' then ['\\', c]
  else if c = '\n' then ['\\', 'n']
  else if c = '\r' then ['\\', 'r']
  else if c = '\t' then ['\\', 't']
  else if isPrintable c then [c]
  else escapeCode c.toNat

def quoteFor (cs : List Char) : Char :=
  if cs.contains '\'' && !cs.contains '"' then '"' else '\''

def quote (cs : List Char) : List Char :=
  let q := quoteFor cs
  q :: cs.flatMap (quoteChar q) ++ [q]

def quoted (s : String) : String := String.ofList (quote s.toList)

/-- One byte of quoted binary data: ASCII shows, all else is an escape. -/
def quoteByte (quote : Char) (b : UInt8) : List Char :=
  let c := Char.ofNat b.toNat
  if c = quote ∨ c = '\\' then ['\\', c]
  else if c = '\n' then ['\\', 'n']
  else if c = '\r' then ['\\', 'r']
  else if c = '\t' then ['\\', 't']
  else if 32 ≤ b ∧ b < 127 then [c]
  else '\\' :: 'x' :: hexDigits 2 b.toNat

/-- Binary data between quotes, marked by a leading letter b. -/
def quotedBytes (bytes : List UInt8) : String :=
  let q := quoteFor (bytes.map fun b => Char.ofNat b.toNat)
  String.ofList ('b' :: q :: bytes.flatMap (quoteByte q) ++ [q])

end LineCommand.Text
