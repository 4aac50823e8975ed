import CameraFleet.Calendar
import CameraFleet.Number.Numeral
import CameraFleet.Text.Octets
import CameraFleet.Text.Padding

/-!
# Written dates

A format says how an instant is written: each directive stands for a part of its
date, its time of day or its zone. Flags and a width before the letter of a
directive say how the part is filled up and in which case letters are written.
-/

namespace CameraFleet
namespace Programs

open Calendar

/-- A place's difference from universal time. -/
structure Zone where
  /-- The seconds by which its clocks are ahead. -/
  offset : Int := 0
  /-- Its short name. -/
  name : Octets := "UTC"
  deriving Repr, DecidableEq

namespace Zone

/-- A sign, and hours with minutes and seconds after colons, as seconds. -/
def offsetOf? (chars : List Char) : Option Int :=
  let (negative, rest) :=
    match chars with
    | '-' :: rest => (true, rest)
    | '+' :: rest => (false, rest)
    | _ => (false, chars)
  let fields := ((String.ofList rest).splitOn ":").map fun part =>
    if !part.isEmpty && part.all Char.isDigit then part.toNat? else none
  let seconds :=
    match fields with
    | [some hours] => some (hours * 3600)
    | [some hours, some minutes] => some (hours * 3600 + minutes * 60)
    | [some hours, some minutes, some seconds] => some (hours * 3600 + minutes * 60 + seconds)
    | _ => none
  seconds.map fun n => if negative then -(n : Int) else n

/-- The zones that have names and always the same difference: names and hours. -/
def fixed : List (Octets × Int) :=
  [("UTC", 0), ("GMT", 0), ("EST", -5), ("MST", -7), ("HST", -10)]

/-- The zone that a text describes: a name, and by how much its clocks are behind. -/
def ofText (text : Octets) : Zone :=
  let chars := if text.startsWith ":" then text.toList.drop 1 else text.toList
  match fixed.lookup (String.ofList chars) with
  | some hours => { offset := hours * 3600, name := String.ofList chars }
  | none =>
      let (name, rest) :=
        match chars with
        | '<' :: inner =>
            let name := inner.takeWhile (· != '>')
            (name, inner.drop (name.length + 1))
        | _ =>
            let name := chars.takeWhile Char.isAlpha
            (name, chars.drop name.length)
      if name.length < 3 then { name := "" }
      else
        match offsetOf? rest with
        | some behind => { offset := -behind, name := String.ofList name }
        | none => { name := String.ofList name }

/-- The zone of an environment. -/
def ofEnvironment (environment : List (Octets × Octets)) : Zone :=
  match environment.lookup "TZ" with
  | some "" | none => {}
  | some text => ofText text

end Zone

/-- An instant at a place. -/
structure Moment where
  /-- The instant, in milliseconds. -/
  instant : Int
  /-- The zone of the place. -/
  zone : Zone := {}
  deriving Repr, DecidableEq

namespace Moment

/-- The date and time that clocks show. -/
def shown (moment : Moment) : Civil :=
  civil (moment.instant + moment.zone.offset * 1000)

/-- The number of a day, counted from the start of 1970. -/
def dayNumber (year : Int) (month day : Nat) : Int :=
  let shifted := if month ≤ 2 then year - 1 else year
  let era := shifted / 400
  let yearOfEra := (shifted % 400).toNat
  let dayOfYear := daysBeforeMonth ((month + 9) % 12) + day - 1
  era * (daysPerEra : Int) + (daysBeforeYear yearOfEra + dayOfYear : Nat) - 719468

/-- The day of a date. -/
def day (moment : Moment) : Int :=
  (moment.instant + moment.zone.offset * 1000) / (msPerDay : Int)

/-- The day of the week, from Sunday as 0. -/
def weekday (moment : Moment) : Nat :=
  ((moment.day + 4) % 7).toNat

/-- The day of the year, from 0. -/
def dayOfYear (moment : Moment) : Nat :=
  (moment.day - dayNumber moment.shown.year 1 1).toNat

/-- The number of the week, if weeks start at a day of the week. -/
def week (moment : Moment) (start : Nat) : Nat :=
  (moment.dayOfYear + 7 - (moment.weekday + 7 - start) % 7) / 7

/-- The year to which the week belongs, and the number of the week in it; weeks start on Monday. -/
def yearAndWeek (moment : Moment) : Int × Nat :=
  let thursday := moment.day - ((moment.day + 3) % 7) + 3
  let (year, _, _) := dateOfDay thursday
  (year, ((thursday - dayNumber year 1 1) / 7).toNat + 1)

/-- The names of the days of the week. -/
def dayNames : List Octets :=
  ["Sunday", "Monday", "Tuesday", "Wednesday", "Thursday", "Friday", "Saturday"]

/-- The names of the months. -/
def monthNames : List Octets :=
  ["January", "February", "March", "April", "May", "June", "July", "August", "September",
    "October", "November", "December"]

/-- The first three letters of a name. -/
def short (name : Octets) : Octets :=
  String.ofList (name.toList.take 3)

/-- The seconds since the start of 1970. -/
def seconds (moment : Moment) : Int :=
  moment.instant / 1000

/-- The hour on a clock face. -/
def faceHour (hour : Nat) : Nat :=
  if hour % 12 = 0 then 12 else hour % 12

end Moment

/-- How a part of a date is written. -/
structure DateStyle where
  /-- The flag that says how it is filled up. -/
  fill : Option Char := none
  /-- Whether letters are capital. -/
  upper : Bool := false
  /-- Whether the case of letters is the other one. -/
  swapped : Bool := false
  /-- The width. -/
  width : Option Nat := none
  /-- The number of colons. -/
  colons : Nat := 0
  deriving Repr, DecidableEq

namespace DateStyle

/-- A number with so many digits, filled up with a character. -/
def number
    (style : DateStyle)
    (digits : Nat)
    (usual : Char)
    (value : Int) : Octets :=
  let text := toString value.natAbs
  let sign :=
    if value < 0 then "-"
    else if style.fill == some '+' && digits == 4 &&
        (9999 < value || style.width.any (4 < ·)) then "+"
    else ""
  let fill :=
    match style.fill with
    | some '_' => ' '
    | some '+' | some '0' => '0'
    | _ => usual
  if style.fill == some '-' then sign ++ text
  else
    let missing := style.width.getD digits - (text.length + sign.length)
    let filling := String.ofList (List.replicate missing fill)
    if fill == '0' then sign ++ filling ++ text else filling ++ sign ++ text

/-- A text, filled up with blanks. -/
def text (style : DateStyle) (text : Octets) : Octets :=
  let text := if style.upper then text.toUpper else text
  let fill := if style.fill == some '0' || style.fill == some '+' then '0' else ' '
  let missing := if style.fill == some '-' then 0 else style.width.getD 0 - text.length
  String.ofList (List.replicate missing fill) ++ text

/-- The name of something, with capital letters if the case is the other one. -/
def name (style : DateStyle) (name : Octets) : Octets :=
  style.text (if style.swapped then name.toUpper else name)

/-- A difference from universal time; colons say how exactly. -/
def offset (style : DateStyle) (seconds : Int) : Octets :=
  let sign := if seconds < 0 then "-" else "+"
  let total := seconds.natAbs
  let two (n : Nat) : Octets := Text.padded 2 n
  let hours := two (total / 3600)
  let minutes := two (total / 60 % 60)
  let rest := two (total % 60)
  match style.colons with
  | 0 => sign ++ hours ++ minutes
  | 1 => sign ++ hours ++ ":" ++ minutes
  | 2 => sign ++ hours ++ ":" ++ minutes ++ ":" ++ rest
  | _ =>
      if total % 60 != 0 then sign ++ hours ++ ":" ++ minutes ++ ":" ++ rest
      else if total % 3600 != 0 then sign ++ hours ++ ":" ++ minutes
      else sign ++ hours

/-- The fraction of a second, in nine digits or as many as the width says. -/
def fraction (style : DateStyle) (milliseconds : Nat) : Octets :=
  let width := style.width.getD 9
  let digits := Text.padded 3 milliseconds ++ String.ofList (List.replicate (width - 3) '0')
  String.ofList (digits.toList.take width)

end DateStyle

namespace Moment

/-- What a letter is short for. -/
def abbreviations : List (Char × Octets) :=
  [('c', "%a %b %e %H:%M:%S %Y"), ('D', "%m/%d/%y"), ('F', "%+4Y-%m-%d"), ('r', "%I:%M:%S %p"),
    ('R', "%H:%M"), ('T', "%H:%M:%S"), ('x', "%m/%d/%y"), ('X', "%H:%M:%S")]

/-- The part of a date that a letter stands for, unless it is short for several. -/
def part? (moment : Moment) (style : DateStyle) (letter : Char) : Option Octets :=
  let civil := moment.shown
  let dayName := dayNames.getD moment.weekday ""
  let monthName := monthNames.getD (civil.month - 1) ""
  let half := if civil.hour < 12 then "AM" else "PM"
  let two (n : Int) : Octets := style.number 2 '0' n
  let spaced (n : Nat) : Octets := style.number 2 ' ' n
  match letter with
  | 'a' => some (style.name (short dayName))
  | 'A' => some (style.name dayName)
  | 'b' | 'h' => some (style.name (short monthName))
  | 'B' => some (style.name monthName)
  | 'C' => some (two (civil.year / 100))
  | 'd' => some (two civil.day)
  | 'e' => some (spaced civil.day)
  | 'g' => some (two (moment.yearAndWeek.1 % 100))
  | 'G' => some (style.number 4 '0' moment.yearAndWeek.1)
  | 'H' => some (two civil.hour)
  | 'I' => some (two (faceHour civil.hour))
  | 'j' => some (style.number 3 '0' (moment.dayOfYear + 1))
  | 'k' => some (spaced civil.hour)
  | 'l' => some (spaced (faceHour civil.hour))
  | 'm' => some (two civil.month)
  | 'M' => some (two civil.minute)
  | 'n' => some (style.text "\n")
  | 'N' => some (style.fraction civil.millisecond)
  | 'p' => some (style.text (if style.swapped then half.toLower else half))
  | 'P' => some (style.text half.toLower)
  | 'q' => some (style.number 1 '0' ((civil.month + 2) / 3))
  | 's' => some (style.number 1 '0' moment.seconds)
  | 'S' => some (two civil.second)
  | 't' => some (style.text "\t")
  | 'u' => some (style.number 1 '0' (if moment.weekday = 0 then 7 else moment.weekday))
  | 'U' => some (two (moment.week 0))
  | 'V' => some (two moment.yearAndWeek.2)
  | 'w' => some (style.number 1 '0' moment.weekday)
  | 'W' => some (two (moment.week 1))
  | 'y' => some (two (civil.year % 100))
  | 'Y' => some (style.number 4 '0' civil.year)
  | 'z' => some (style.offset moment.zone.offset)
  | 'Z' =>
      some (style.text (if style.swapped then moment.zone.name.toLower else moment.zone.name))
  | '%' => some (style.text "%")
  | _ => none

/-- Read the flags, the width and the colons of a directive. -/
def readStyle : List Char -> DateStyle -> DateStyle × List Char
  | [], style => (style, [])
  | c :: rest, style =>
      if c == '^' then readStyle rest { style with upper := true }
      else if c == '#' then readStyle rest { style with swapped := true }
      else if ['-', '_', '0', '+'].contains c && style.width.isNone then
        readStyle rest { style with fill := some c }
      else
        let (digits, after) := Numeral.digits 10 (c :: rest)
        let style :=
          if digits.isEmpty then style
          else { style with width := some (Numeral.valueOf 10 digits) }
        let colons := after.takeWhile (· == ':')
        let after := after.drop colons.length
        let after :=
          match after with
          | 'E' :: other | 'O' :: other => other
          | _ => after
        ({ style with colons := colons.length }, after)

/-- An instant in a format; the first number bounds the steps, the second one how letters nest. -/
def formatOn (moment : Moment) : Nat -> Nat -> List Char -> Octets
  | _, 0, _ | _, _, [] => ""
  | nesting, fuel + 1, '%' :: rest =>
      let (style, after) := readStyle rest {}
      match after with
      | [] => "%" ++ String.ofList rest
      | letter :: others =>
          let written := '%' :: rest.take (rest.length - others.length)
          let text :=
            match moment.part? style letter, abbreviations.lookup letter, nesting with
            | some text, _, _ => text
            | none, some meaning, nesting + 1 =>
                let text := formatOn moment nesting meaning.length meaning.toList
                style.text text
            | _, _, _ => String.ofList written
          text ++ formatOn moment nesting fuel others
  | nesting, fuel + 1, c :: rest => String.singleton c ++ formatOn moment nesting fuel rest

/-- An instant in a format. -/
def format (moment : Moment) (format : Octets) : Octets :=
  moment.formatOn 2 (format.length + 1) format.toList

end Moment
end Programs
end CameraFleet
