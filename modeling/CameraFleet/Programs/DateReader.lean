import CameraFleet.Programs.DateText

/-!
# Reading dates

A date is described by words and numbers in almost any order: a day, a time of
day, a zone, a day of the week, and how far away it is. What is not said is taken
from the present, or is midnight if a day is named without a time.
-/

namespace CameraFleet
namespace Programs
namespace DateReader

open Calendar

/-! ## Tokens -/

/-- A piece of a description. -/
inductive Token
  /-- A number with so many digits, perhaps with a sign and thousandths. -/
  | number (negative : Option Bool) (value digits thousandths : Nat)
  /-- A word in small letters. -/
  | word (text : String)
  /-- Another character. -/
  | sign (c : Char)
  deriving Repr, DecidableEq

/-- Whether a character is blank. -/
def isBlank (c : Char) : Bool :=
  Numeral.isBlank c

/-- The thousandths that some digits after a point mean. -/
def thousandthsOf (digits : List Char) : Nat :=
  ((String.ofList ((digits ++ ['0', '0', '0']).take 3)).toNat?).getD 0

/-- The number at the start of some characters, and the characters after it. -/
def numberToken
    (negative : Option Bool)
    (chars : List Char) : Token × List Char :=
  let digits := chars.takeWhile Char.isDigit
  let rest := chars.drop digits.length
  let value := ((String.ofList digits).toNat?).getD 0
  match rest with
  | point :: first :: _ =>
      if (point == '.' || point == ',') && first.isDigit then
        let fraction := (rest.drop 1).takeWhile Char.isDigit
        (.number negative value digits.length (thousandthsOf fraction),
          rest.drop (fraction.length + 1))
      else (.number negative value digits.length 0, rest)
  | _ => (.number negative value digits.length 0, rest)

/-- The pieces of a description; the number bounds them. -/
def tokens : Nat -> List Char -> List Token
  | 0, _ | _, [] => []
  | fuel + 1, c :: rest =>
      if isBlank c then tokens fuel rest
      else if c.isDigit then
        let (token, rest) := numberToken none (c :: rest)
        token :: tokens fuel rest
      else if c == '-' || c == '+' then
        let after := rest.dropWhile isBlank
        if after.head?.any Char.isDigit then
          let (token, rest) := numberToken (some (c == '-')) after
          token :: tokens fuel rest
        else tokens fuel rest
      else if c.isAlpha then
        let isPart (d : Char) : Bool := d.isAlpha || d == '.'
        let word := (c :: rest).takeWhile isPart
        let text := String.ofList ((word.filter Char.isAlpha).map Char.toLower)
        .word text :: tokens fuel (rest.drop (word.length - 1))
      else if c == '(' then tokens fuel ((rest.dropWhile (· != ')')).drop 1)
      else .sign c :: tokens fuel rest

/-! ## Words -/

/-- Whether a word is a name or the first three letters of it. -/
def isName (word : String) (name : Octets) : Bool :=
  word == name.toLower || word == (Moment.short name).toLower

/-- The number of a month, from 1. -/
def month? (word : String) : Option Nat :=
  if word == "sept" then some 9
  else (Moment.monthNames.findIdx? (isName word)).map (· + 1)

/-- The number of a day of the week, from Sunday as 0. -/
def weekday? (word : String) : Option Nat :=
  match [("tues", 2), ("wednes", 3), ("thur", 4), ("thurs", 4)].lookup word with
  | some n => some n
  | none => Moment.dayNames.findIdx? (isName word)

/-- The number that an ordinal means. -/
def ordinal? (word : String) : Option Int :=
  [("last", -1), ("this", 0), ("next", 1), ("first", 1), ("third", 3), ("fourth", 4),
    ("fifth", 5), ("sixth", 6), ("seventh", 7), ("eighth", 8), ("ninth", 9), ("tenth", 10),
    ("eleventh", 11), ("twelfth", 12)].lookup word

/-- A distance between dates. -/
structure Distance where
  /-- Years. -/
  years : Int := 0
  /-- Months. -/
  months : Int := 0
  /-- Days. -/
  days : Int := 0
  /-- Milliseconds. -/
  milliseconds : Int := 0
  deriving Repr, DecidableEq

namespace Distance

/-- So many times a distance. -/
def times (distance : Distance) (n : Int) : Distance where
  years := distance.years * n
  months := distance.months * n
  days := distance.days * n
  milliseconds := distance.milliseconds * n

/-- Two distances together. -/
def plus (first second : Distance) : Distance where
  years := first.years + second.years
  months := first.months + second.months
  days := first.days + second.days
  milliseconds := first.milliseconds + second.milliseconds

end Distance

/-- The distance that a unit means. -/
def unit? (word : String) : Option Distance :=
  let units : List (String × Distance) :=
    [("year", { years := 1 }), ("month", { months := 1 }), ("fortnight", { days := 14 }),
      ("week", { days := 7 }), ("day", { days := 1 }), ("hour", { milliseconds := 3600000 }),
      ("minute", { milliseconds := 60000 }), ("min", { milliseconds := 60000 }),
      ("second", { milliseconds := 1000 }), ("sec", { milliseconds := 1000 })]
  match units.lookup word with
  | some unit => some unit
  | none =>
      if word.endsWith "s" then units.lookup (String.ofList (word.toList.dropLast)) else none

/-- The days that a word is away from today. -/
def dayShift? (word : String) : Option Int :=
  [("tomorrow", 1), ("yesterday", -1), ("today", 0), ("now", 0)].lookup word

/-- The seconds by which the clocks of a zone are ahead. -/
def zone? (word : String) : Option Int :=
  let hours : List (String × Int) :=
    [("gmt", 0), ("ut", 0), ("utc", 0), ("wet", 0), ("west", 1), ("bst", 1), ("art", -3),
      ("brt", -3), ("ast", -4), ("adt", -3), ("clt", -4), ("est", -5), ("edt", -4), ("cst", -6),
      ("cdt", -5), ("mst", -7), ("mdt", -6), ("pst", -8), ("pdt", -7), ("akst", -9),
      ("akdt", -8), ("hst", -10), ("hast", -10), ("sst", -12), ("wat", 1), ("cet", 1),
      ("cest", 2), ("met", 1), ("mez", 1), ("mest", 2), ("mesz", 2), ("eet", 2), ("eest", 3),
      ("cat", 2), ("sast", 2), ("eat", 3), ("msk", 3), ("msd", 4), ("sgt", 8), ("kst", 9),
      ("jst", 9), ("gst", 10), ("nzst", 12), ("nzdt", 13), ("z", 0), ("a", 1), ("b", 2), ("c", 3),
      ("d", 4), ("e", 5), ("f", 6), ("g", 7), ("h", 8), ("i", 9), ("k", 10), ("l", 11), ("m", 12),
      ("n", -1), ("o", -2), ("p", -3), ("q", -4), ("r", -5), ("s", -6), ("t", -7), ("u", -8),
      ("v", -9), ("w", -10), ("x", -11), ("y", -12)]
  (hours.lookup word).map (· * 3600)

/-- Whether a word means the second half of a day, if it means a half. -/
def half? (word : String) : Option Bool :=
  [("am", false), ("pm", true)].lookup word

/-! ## What is described -/

/-- What has been read of a description. -/
structure Draft where
  /-- The year with the number of its digits, if it is named. -/
  year : Option (Nat × Nat) := none
  /-- The month and the day. -/
  monthAndDay : Option (Nat × Nat) := none
  /-- The hour, the minute and the milliseconds. -/
  time : Option (Nat × Nat × Nat) := none
  /-- Which half of the day is meant. -/
  half : Option Bool := none
  /-- By how many seconds the clocks are ahead. -/
  zone : Option Int := none
  /-- The day of the week, and which one after today. -/
  weekday : Option (Int × Nat) := none
  /-- How far away it is. -/
  distance : Option Distance := none
  /-- Whether something is said twice, or makes no sense. -/
  isWrong : Bool := false
  deriving Repr, DecidableEq

namespace Draft

/-- Note the month and the day. -/
def onDay (draft : Draft) (month day : Nat) : Draft :=
  { draft with
    monthAndDay := some (month, day), isWrong := draft.isWrong || draft.monthAndDay.isSome }

/-- Note the whole date. -/
def onDate (draft : Draft) (year digits month day : Nat) : Draft :=
  { draft.onDay month day with year := some (year, digits) }

/-- Note the time of day. -/
def atTime (draft : Draft) (hour minute milliseconds : Nat) : Draft :=
  { draft with
    time := some (hour, minute, milliseconds), isWrong := draft.isWrong || draft.time.isSome }

/-- Note the zone. -/
def inZone (draft : Draft) (seconds : Int) : Draft :=
  { draft with
    zone := some seconds
    isWrong := draft.isWrong || draft.zone.isSome || 86400 < seconds.natAbs }

/-- Note a distance. -/
def away (draft : Draft) (distance : Distance) : Draft :=
  { draft with distance := some ((draft.distance.getD {}).plus distance) }

/-- Note a day of the week. -/
def onWeekday (draft : Draft) (ordinal : Int) (weekday : Nat) : Draft :=
  { draft with
    weekday := some (ordinal, weekday), isWrong := draft.isWrong || draft.weekday.isSome }

/-- Note a number that stands alone. -/
def alone (draft : Draft) (value digits : Nat) : Draft :=
  if draft.monthAndDay.isSome && draft.year.isNone && draft.distance.isNone &&
      (draft.time.isSome || 2 < digits) then
    { draft with year := some (value, digits) }
  else if 4 < digits then
    draft.onDate (value / 10000) (digits - 4) (value / 100 % 100) (value % 100)
  else if digits ≤ 2 then draft.atTime value 0 0
  else draft.atTime (value / 100) (value % 100) 0

end Draft

/-- The seconds that a written difference from universal time means. -/
def offsetOf (negative : Bool) (value digits : Nat) (minutes : Option Nat) : Int :=
  let total :=
    match minutes with
    | some minutes => value * 3600 + minutes * 60
    | none => if digits ≤ 2 then value * 3600 else value / 100 * 3600 + value % 100 * 60
  if negative then -(total : Int) else total

/-- Read the zone or the half of the day after a time. -/
def afterTime (draft : Draft) : List Token -> Draft × List Token
  | .number (some negative) value digits _ :: .sign ':' :: .number none minutes _ _ :: rest =>
      (draft.inZone (offsetOf negative value digits (some minutes)), rest)
  | .number (some negative) value digits 0 :: rest =>
      (draft.inZone (offsetOf negative value digits none), rest)
  | .word word :: rest =>
      match half? word with
      | some half => ({ draft with half := some half }, rest)
      | none => (draft, .word word :: rest)
  | rest => (draft, rest)

/-- Note so many units, or their opposite if that is said afterwards. -/
def relative
    (draft : Draft)
    (unit : Distance)
    (count : Int) : List Token -> Draft × List Token
  | .word "ago" :: rest => (draft.away (unit.times (-count)), rest)
  | rest => (draft.away (unit.times count), rest)

/-- A number with its sign. -/
def signed (negative : Option Bool) (value : Nat) : Int :=
  if negative == some true then -(value : Int) else value

/-- Read an item that starts with a number, if it is one. -/
def readNumber (draft : Draft) : List Token -> Option (Draft × List Token)
  | .number none hour _ 0 :: .sign ':' :: .number none minute _ 0 :: .sign ':' ::
      .number none second _ thousandths :: rest =>
      some (afterTime (draft.atTime hour minute (second * 1000 + thousandths)) rest)
  | .number none hour _ 0 :: .sign ':' :: .number none minute _ 0 :: rest =>
      some (afterTime (draft.atTime hour minute 0) rest)
  | .number none year digits 0 :: .number (some true) month _ 0 :: .number (some true) day _ 0 ::
      rest => some (draft.onDate year digits month day, rest)
  | .number none first digits 0 :: .sign '/' :: .number none second _ 0 :: .sign '/' ::
      .number none third lastDigits 0 :: rest =>
      if 4 ≤ digits then some (draft.onDate first digits second third, rest)
      else some (draft.onDate third lastDigits first second, rest)
  | .number none month _ 0 :: .sign '/' :: .number none day _ 0 :: rest =>
      some (draft.onDay month day, rest)
  | .number none day digits 0 :: .word word :: rest =>
      match month? word, half? word, weekday? word, unit? word with
      | some month, _, _, _ =>
          match rest with
          | .number (some true) year digits 0 :: rest =>
              some (draft.onDate year digits month day, rest)
          | .number none year digits 0 :: .sign ':' :: rest =>
              some (draft.onDay month day, .number none year digits 0 :: .sign ':' :: rest)
          | .number none year digits 0 :: rest => some (draft.onDate year digits month day, rest)
          | _ => some (draft.onDay month day, rest)
      | _, some half, _, _ => some ({ draft.atTime day 0 0 with half := some half }, rest)
      | _, _, some weekday, _ => some (draft.onWeekday day weekday, rest)
      | _, _, _, some unit => some (relative draft unit day rest)
      | _, _, _, _ => some (draft.alone day digits, .word word :: rest)
  | .number none value digits 0 :: rest => some (draft.alone value digits, rest)
  | .number negative value _ 0 :: .word word :: rest =>
      (unit? word).map fun unit => relative draft unit (signed negative value) rest
  | .number negative value _ thousandths :: .word word :: rest =>
      if unit? word == some { milliseconds := 1000 } then
        let count := signed negative (value * 1000 + thousandths)
        some (relative draft { milliseconds := 1 } count rest)
      else none
  | _ => none

/-- Read an item that starts with a word, if it is one. -/
def readWord
    (draft : Draft)
    (word : String)
    (rest : List Token) : Option (Draft × List Token) :=
  match month? word, weekday? word, ordinal? word, unit? word, dayShift? word, rest with
  | some month, _, _, _, _, .number none day _ 0 :: .sign ',' :: .number none year digits 0 :: rest
  | some month, _, _, _, _, .number (some true) day _ 0 :: .number (some true) year digits 0 :: rest =>
      some (draft.onDate year digits month day, rest)
  | some month, _, _, _, _, .number none day _ 0 :: rest => some (draft.onDay month day, rest)
  | some _, _, _, _, _, _ => none
  | _, some weekday, _, _, _, .sign ',' :: rest => some (draft.onWeekday 0 weekday, rest)
  | _, some weekday, _, _, _, _ => some (draft.onWeekday 0 weekday, rest)
  | _, _, some count, _, _, .word other :: rest =>
      match weekday? other, unit? other with
      | some weekday, _ => some (draft.onWeekday count weekday, rest)
      | _, some unit => some (relative draft unit count rest)
      | _, _ => none
  | _, _, _, some unit, _, _ => some (relative draft unit 1 rest)
  | _, _, _, _, some days, _ => some (draft.away { days }, rest)
  | _, _, _, _, _, _ =>
      match zone? word, rest with
      | some 0, .number (some negative) value digits 0 :: .sign ':' ::
          .number none minutes _ 0 :: rest =>
          some (draft.inZone (offsetOf negative value digits (some minutes)), rest)
      | some 0, .number (some negative) value digits 0 :: .word unit :: rest =>
          if (unit? unit).isSome then
            some (draft.inZone 0, .number (some negative) value digits 0 :: .word unit :: rest)
          else some (draft.inZone (offsetOf negative value digits none), .word unit :: rest)
      | some 0, .number (some negative) value digits 0 :: rest =>
          some (draft.inZone (offsetOf negative value digits none), rest)
      | some seconds, .word "dst" :: rest => some (draft.inZone (seconds + 3600), rest)
      | some seconds, _ => some (draft.inZone seconds, rest)
      | none, _ => none

/-- Read all items; the number bounds them. -/
def read : Nat -> Draft -> List Token -> Option Draft
  | 0, _, _ => none
  | _ + 1, draft, [] => if draft.isWrong then none else some draft
  | fuel + 1, draft, .word "t" :: .number none hour digits thousandths :: rest =>
      if draft.monthAndDay.isSome && draft.time.isNone then
        read fuel draft (.number none hour digits thousandths :: rest)
      else none
  | fuel + 1, draft, .word word :: rest => do
      let (draft, rest) ← readWord draft word rest
      read fuel draft rest
  | fuel + 1, draft, .number negative value digits thousandths :: rest => do
      let (draft, rest) ← readNumber draft (.number negative value digits thousandths :: rest)
      read fuel draft rest
  | _ + 1, _, .sign _ :: _ => none

/-! ## Dates -/

/-- The number of days of a month. -/
def daysIn (year : Int) (month : Nat) : Int :=
  if month == 12 then 31 else Moment.dayNumber year (month + 1) 1 - Moment.dayNumber year month 1

/-- The whole year that is meant by one with so many digits. -/
def wholeYear (year digits : Nat) : Int :=
  if digits == 2 then if year < 69 then year + 2000 else year + 1900 else year

/-- The hour from midnight, if there is one. -/
def wholeHour? (half : Option Bool) (hour : Nat) : Option Nat :=
  match half with
  | none => if hour < 24 then some hour else none
  | some afternoon =>
      if hour = 0 || 12 < hour then none
      else some (hour % 12 + (if afternoon then 12 else 0))

/-- The instant that is described, if there is one; the present is used for what is not said. -/
def Draft.instant? (draft : Draft) (now : Moment) : Option Int := do
  let present := now.shown
  let year :=
    match draft.year with
    | some (year, digits) => wholeYear year digits
    | none => present.year
  let (month, day) := draft.monthAndDay.getD (present.month, present.day)
  if month = 0 || 12 < month || day = 0 || daysIn year month < day then none
  else
    let keepsTime := draft.distance.isSome && draft.monthAndDay.isNone && draft.weekday.isNone
    let time ←
      match draft.time with
      | some (hour, minute, milliseconds) => do
          let hour ← wholeHour? draft.half hour
          if minute < 60 && milliseconds < 60000 then
            some (hour * 3600000 + minute * 60000 + milliseconds)
          else none
      | none =>
          if keepsTime then
            some (present.hour * 3600000 + present.minute * 60000 + present.second * 1000 +
              present.millisecond)
          else some 0
    let distance := draft.distance.getD {}
    let months := year * 12 + (month - 1 : Nat) + distance.years * 12 + distance.months
    let start := Moment.dayNumber (months / 12) ((months % 12).toNat + 1) 1
    let days := start + (day - 1 : Nat) + distance.days
    let days :=
      match draft.weekday, draft.monthAndDay with
      | some (ordinal, weekday), none =>
          let today := (days + 4) % 7
          let weeks := if 0 < ordinal && today != weekday then ordinal - 1 else ordinal
          days + ((weekday : Int) - today + 7) % 7 + 7 * weeks
      | _, _ => days
    let offset := draft.zone.getD now.zone.offset
    some (days * (msPerDay : Int) + time + distance.milliseconds - offset * 1000)

/-- The instant of a number of seconds, if that is what some tokens are. -/
def stamp? : List Token -> Option Int
  | [.number negative value _ thousandths] =>
      some (signed negative (value * 1000) + signed negative thousandths)
  | _ => none

end DateReader

/-- The instant that a text describes, if it describes one. -/
def Moment.read? (now : Moment) (text : Octets) : Option Int :=
  match DateReader.tokens (text.length + 1) text.toList with
  | .sign '@' :: rest => DateReader.stamp? rest
  | tokens => do
      let draft ← DateReader.read (tokens.length + 1) {} tokens
      draft.instant? now

end Programs
end CameraFleet
