import CameraFleet.Text.Padding

/-!
# Dates and times

An instant is a number of milliseconds since the start of 1970, in UTC. Its
civil date is the one of the proleptic Gregorian calendar: 400 years have
146097 days, and the year is counted from March so that the leap day comes last.

Instants more than 100 million days from 1970 have no date. Neither has an
unknown instant. Each part of such a date is written `NaN`.
-/

namespace CameraFleet
namespace Calendar

/-- A date and a time of day. -/
structure Civil where
  /-- The year; year 0 is the one before year 1. -/
  year : Int
  /-- The month, from 1. -/
  month : Nat
  /-- The day of the month, from 1. -/
  day : Nat
  /-- The hour. -/
  hour : Nat
  /-- The minute. -/
  minute : Nat
  /-- The second. -/
  second : Nat
  /-- The millisecond. -/
  millisecond : Nat
  deriving Repr, DecidableEq

/-- Milliseconds in a day. -/
def msPerDay : Nat := 86400000

/-- Days in 400 years. -/
def daysPerEra : Nat := 146097

/-- The year (from 0), counted from March, of a day (from 0) of an era. -/
def yearOfEra (dayOfEra : Nat) : Nat :=
  (dayOfEra - dayOfEra / 1460 + dayOfEra / 36524 - dayOfEra / 146096) / 365

/-- Days before a year of an era. -/
def daysBeforeYear (year : Nat) : Nat :=
  365 * year + year / 4 - year / 100

/-- The month, counted from March as 0, of a day of such a year. -/
def monthOfYear (dayOfYear : Nat) : Nat :=
  (5 * dayOfYear + 2) / 153

/-- Days before a month of a year that starts in March. -/
def daysBeforeMonth (month : Nat) : Nat :=
  (153 * month + 2) / 5

/-- The year, month and day of a day counted from 1970-01-01. -/
def dateOfDay (dayNumber : Int) : Int × Nat × Nat :=
  let shifted := dayNumber + 719468
  let era := shifted / (daysPerEra : Int)
  let dayOfEra := (shifted % (daysPerEra : Int)).toNat
  let year := yearOfEra dayOfEra
  let dayOfYear := dayOfEra - daysBeforeYear year
  let month := monthOfYear dayOfYear
  let day := dayOfYear - daysBeforeMonth month + 1
  if month < 10 then
    (era * 400 + year, month + 3, day)
  else
    (era * 400 + year + 1, month - 9, day)

/-- The date and time of an instant. -/
def civil (ms : Int) : Civil :=
  let (year, month, day) := dateOfDay (ms / (msPerDay : Int))
  let time := (ms % (msPerDay : Int)).toNat
  { year, month, day
    hour := time / 3600000
    minute := time / 60000 % 60
    second := time / 1000 % 60
    millisecond := time % 1000 }

/-- The greatest distance from 1970 at which an instant has a date, in milliseconds. -/
def maxDistance : Nat := 8640000000000000

/-- The date and time of an instant that may be unknown or out of range. -/
def civil? (instant : Option Int) : Option Civil :=
  instant.bind fun ms => if ms.natAbs ≤ maxDistance then some (civil ms) else none

/-- The written parts of a date and time. -/
structure Parts where
  /-- The year, without padding. -/
  year : String := "NaN"
  /-- The month. -/
  month : String := "NaN"
  /-- The day. -/
  day : String := "NaN"
  /-- The hour. -/
  hour : String := "NaN"
  /-- The minute. -/
  minute : String := "NaN"
  /-- The second. -/
  second : String := "NaN"

/-- The parts of a date and time: two digits each, the year as it is. -/
def Civil.parts (c : Civil) : Parts :=
  { year := toString c.year
    month := Text.padded 2 c.month
    day := Text.padded 2 c.day
    hour := Text.padded 2 c.hour
    minute := Text.padded 2 c.minute
    second := Text.padded 2 c.second }

/-- The parts of an instant that may have no date. -/
def parts (instant : Option Int) : Parts :=
  match civil? instant with
  | some c => c.parts
  | none => {}

/-- The date of the compact form, `YYYYMMDD`. -/
def Parts.compactDate (p : Parts) : String :=
  p.year ++ p.month ++ p.day

/-- The time of the compact form, `HHMMSS`. -/
def Parts.compactTime (p : Parts) : String :=
  p.hour ++ p.minute ++ p.second

/-- An instant as `YYYY-MM-DD HH:MM:SS`. -/
def localTime (instant : Option Int) : String :=
  let p := parts instant
  s!"{p.year}-{p.month}-{p.day} {p.hour}:{p.minute}:{p.second}"

/-- An instant as `YYYYMMDD_HHMMSS`. -/
def compactTime (instant : Option Int) : String :=
  let p := parts instant
  s!"{p.compactDate}_{p.compactTime}"

/-- An instant as `YYYY-MM-DDTHH:MM:SS.mmm+00:00`, the year filled to four characters. -/
def timestamp? (ms : Int) : Option String :=
  (civil? (some ms)).map fun c =>
    let p := c.parts
    let year := Text.zeroFill 4 p.year
    let millisecond := Text.padded 3 c.millisecond
    s!"{year}-{p.month}-{p.day}T{p.hour}:{p.minute}:{p.second}.{millisecond}+00:00"

end Calendar
end CameraFleet
