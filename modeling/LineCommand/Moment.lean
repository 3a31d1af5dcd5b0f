import LineCommand.Text.Lines

/-!
Days of the Gregorian calendar and times of day, with or without an offset from universal time.
Two times with offsets are equal if they name the same instant.
-/
namespace LineCommand

structure Day where
  year : Nat
  month : Nat
  day : Nat
  deriving DecidableEq, Repr, Inhabited

/-- A time of day. An offset counts seconds east of universal time. -/
structure Clock where
  hour : Nat
  minute : Nat
  second : Nat
  micro : Nat
  offset : Option Int
  deriving DecidableEq, Repr, Inhabited

/-- The numbers of a day, or of a time on a day, whether or not there is one. -/
structure MomentNumbers where
  day : Day
  clock : Option Clock
  deriving DecidableEq, Repr

inductive MomentProblem
  | year (given : Nat)
  | month
  | day
  | hour
  | minute
  | second
  | micro
  | offset (seconds : Int)
  deriving DecidableEq, Repr

namespace MomentNumbers

def isLeap (year : Nat) : Bool := (year % 4 == 0 && year % 100 != 0) || year % 400 == 0

def monthLength (year month : Nat) : Nat :=
  if month = 2 then if isLeap year then 29 else 28
  else if month = 4 ∨ month = 6 ∨ month = 9 ∨ month = 11 then 30
  else 31

def daySeconds : Nat := 86400

def dayProblem? (d : Day) : Option MomentProblem :=
  if d.year = 0 ∨ 9999 < d.year then some (.year d.year)
  else if d.month = 0 ∨ 12 < d.month then some .month
  else if d.day = 0 ∨ monthLength d.year d.month < d.day then some .day
  else none

def clockProblem? (c : Clock) : Option MomentProblem :=
  if 23 < c.hour then some .hour
  else if 59 < c.minute then some .minute
  else if 59 < c.second then some .second
  else if 999999 < c.micro then some .micro
  else none

/-- An offset has to be shorter than a day. -/
def offsetProblem? (c : Clock) : Option MomentProblem :=
  (c.offset.filter fun seconds => daySeconds ≤ seconds.natAbs).map .offset

/-- Why there is no such moment. Offsets are looked at before days. -/
def problem? (m : MomentNumbers) : Option MomentProblem :=
  (m.clock.bind offsetProblem?).or ((dayProblem? m.day).or (m.clock.bind clockProblem?))

end MomentNumbers

structure Moment extends MomentNumbers where
  sound : toMomentNumbers.problem? = none
  deriving DecidableEq, Repr

instance : Inhabited Moment := ⟨⟨⟨1, 1, 1⟩, none⟩, by decide⟩

namespace Moment
open MomentNumbers

def padded (width n : Nat) : String :=
  let digits := Nat.toDigits 10 n
  String.ofList (List.replicate (width - digits.length) '0' ++ digits)

def dayText (d : Day) : String := s!"{padded 4 d.year}-{padded 2 d.month}-{padded 2 d.day}"

def offsetText (seconds : Int) : String :=
  let sign := if seconds < 0 then "-" else "+"
  let minutes := seconds.natAbs / 60
  s!"{sign}{padded 2 (minutes / 60)}:{padded 2 (minutes % 60)}"

def clockText (c : Clock) : String :=
  let fraction := if c.micro = 0 then "" else s!".{padded 6 c.micro}"
  let offset := (c.offset.map offsetText).getD ""
  s!"{padded 2 c.hour}:{padded 2 c.minute}:{padded 2 c.second}{fraction}{offset}"

def plain (m : Moment) : String :=
  match m.clock with
  | none => dayText m.day
  | some c => s!"{dayText m.day} {clockText c}"

/-- A length of time as a call that makes it: days, and the seconds that are left. -/
def deltaText (seconds : Int) : String :=
  let days := seconds.fdiv daySeconds
  let rest := seconds.fmod daySeconds
  let parts := (if days = 0 then [] else [s!"days={days}"])
    ++ (if rest = 0 then [] else [s!"seconds={rest}"])
  let inside := if parts.isEmpty then "0" else Text.joined ", " parts
  s!"datetime.timedelta({inside})"

def zoneText (seconds : Int) : String :=
  if seconds = 0 then "datetime.timezone.utc"
  else s!"datetime.timezone({deltaText seconds})"

def zoneName (seconds : Int) : String :=
  if seconds = 0 then "UTC" else s!"UTC{offsetText seconds}"

/-- A moment as a call that makes it. Seconds are left out if they are zero. -/
def written (m : Moment) : String :=
  let day := [m.day.year, m.day.month, m.day.day]
  let numbers (ns : List Nat) : List String := ns.map fun n => s!"{n}"
  match m.clock with
  | none =>
    let inside := Text.joined ", " (numbers day)
    s!"datetime.date({inside})"
  | some c =>
    let small :=
      if c.micro ≠ 0 then [c.second, c.micro] else if c.second ≠ 0 then [c.second] else []
    let zone := (c.offset.map fun seconds => s!"tzinfo={zoneText seconds}").toList
    let inside := Text.joined ", " (numbers (day ++ [c.hour, c.minute] ++ small) ++ zone)
    s!"datetime.datetime({inside})"

def dayNumber (d : Day) : Nat :=
  let before := d.year - 1
  let months := ((List.range d.month).drop 1).map (monthLength d.year)
  before * 365 + before / 4 - before / 100 + before / 400 + months.foldl (· + ·) 0 + d.day

def localMicros (d : Day) (c : Clock) : Int :=
  ((dayNumber d * daySeconds + c.hour * 3600 + c.minute * 60 + c.second) * 1000000 + c.micro : Nat)

/-- Equality of moments. A day equals no time, and a time with an offset none without. -/
def same (m n : Moment) : Bool :=
  match m.clock, n.clock with
  | none, none => m.day == n.day
  | some c, some d =>
    match c.offset, d.offset with
    | none, none => localMicros m.day c == localMicros n.day d
    | some o, some p =>
      localMicros m.day c - o * 1000000 == localMicros n.day d - p * 1000000
    | _, _ => false
  | _, _ => false

end Moment

def MomentProblem.message : MomentProblem → String
  | .year given => s!"year {given} is out of range"
  | .month => "month must be in 1..12"
  | .day => "day is out of range for month"
  | .hour => "hour must be in 0..23"
  | .minute => "minute must be in 0..59"
  | .second => "second must be in 0..59"
  | .micro => "microsecond must be in 0..999999"
  | .offset seconds =>
    "offset must be a timedelta strictly between -timedelta(hours=24) and timedelta(hours=24), "
      ++ s!"not {Moment.deltaText seconds}."

end LineCommand
