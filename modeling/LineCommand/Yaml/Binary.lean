/-! Binary data as text: four characters of sixty-four stand for three bytes. -/
namespace LineCommand.Yaml

def sextet? (c : Char) : Option Nat :=
  if 'A' ≤ c ∧ c ≤ 'Z' then some (c.toNat - 65)
  else if 'a' ≤ c ∧ c ≤ 'z' then some (c.toNat - 71)
  else if '0' ≤ c ∧ c ≤ '9' then some (c.toNat + 4)
  else if c = '+' then some 62
  else if c = '/' then some 63
  else none

/-- The bytes of a text from a place within a group of four on: `place` characters of the group have
been read, `carry` holds the bits of theirs that are left, and `pads` counts the equals signs after
them. Other characters do not count. The text may end after a full group only, or be ended by as
many equals signs as fill one. -/
def bytesFrom (place carry pads : Nat) : List Char → Option (List UInt8)
  | [] => if place = 0 then some [] else none
  | c :: rest =>
    if c = '=' then
      if 2 ≤ place then
        if 4 ≤ place + pads + 1 then some [] else bytesFrom place carry (pads + 1) rest
      else bytesFrom place carry pads rest
    else
      match sextet? c with
      | none => bytesFrom place carry pads rest
      | some n =>
        if place = 0 then bytesFrom 1 n 0 rest
        else if place = 1 then
          (bytesFrom 2 (n % 16) 0 rest).map (UInt8.ofNat (carry * 4 + n / 16) :: ·)
        else if place = 2 then
          (bytesFrom 3 (n % 4) 0 rest).map (UInt8.ofNat (carry * 16 + n / 4) :: ·)
        else (bytesFrom 0 0 0 rest).map (UInt8.ofNat (carry * 64 + n) :: ·)

def bytes? (cs : List Char) : Option (List UInt8) := bytesFrom 0 0 0 cs

end LineCommand.Yaml
