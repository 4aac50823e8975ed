import CameraFleet.Proofs.Calendar
import CameraFleet.Worker.Payload
import Mathlib.Data.List.Lex

/-!
# Names after times

Pictures and uploads are named after instants. The numbers in a name have fixed
widths, so that names of different seconds differ, and are ordered as the
seconds are.
-/

namespace CameraFleet

namespace Text

/-! ## Numbers of a fixed width -/

/-- The last digits of a number, in decimal. -/
def digits : Nat -> Nat -> List Char
  | 0, _ => []
  | width + 1, number => digits width (number / 10) ++ [(number % 10).digitChar]

@[simp] theorem length_digits (width number : Nat) : (digits width number).length = width := by
  induction width generalizing number with
  | zero => rfl
  | succ width ih => simp [digits, ih]

/-- Texts with beginnings of one length are ordered by these first. -/
theorem append_lt_append_iff
    {early early' late late' : List Char}
    (same : early.length = early'.length) :
    early ++ late < early' ++ late' ↔ early < early' ∨ early = early' ∧ late < late' := by
  induction early generalizing early' with
  | nil =>
      obtain rfl : early' = [] := List.eq_nil_of_length_eq_zero same.symm
      simp
  | cons c early ih =>
      cases early' with
      | nil => simp at same
      | cons c' early' =>
          rw [List.cons_append, List.cons_append, List.cons_lt_cons_iff, List.cons_lt_cons_iff,
            ih (by simpa using same), List.cons.injEq]
          tauto

/-- Texts with beginnings of one length are equal part by part. -/
theorem append_eq_append_iff
    {early early' late late' : List Char}
    (same : early.length = early'.length) :
    early ++ late = early' ++ late' ↔ early = early' ∧ late = late' :=
  ⟨fun whole => List.append_inj whole same, fun ⟨first, second⟩ => by rw [first, second]⟩

/-- One digit is before another one as their values are. -/
theorem digitChar_lt_iff :
    ∀ first < 10, ∀ second < 10,
      (Nat.digitChar first < Nat.digitChar second ↔ first < second) ∧
      (Nat.digitChar first = Nat.digitChar second ↔ first = second) := by
  decide

/-- Numbers of a fixed width are ordered as their digits are, and equal if these are. -/
theorem digits_order
    {width first second : Nat}
    (fits : first < 10 ^ width)
    (fits' : second < 10 ^ width) :
    (digits width first < digits width second ↔ first < second) ∧
    (digits width first = digits width second ↔ first = second) := by
  induction width generalizing first second with
  | zero =>
      have : first = 0 ∧ second = 0 := by omega
      simp [this]
  | succ width ih =>
      have high := ih (show first / 10 < 10 ^ width by omega)
        (show second / 10 < 10 ^ width by omega)
      have low := digitChar_lt_iff (first % 10) (by omega) (second % 10) (by omega)
      have last : [Nat.digitChar (first % 10)] < [Nat.digitChar (second % 10)] ↔
          first % 10 < second % 10 := by
        rw [List.cons_lt_cons_iff, low.1]
        simp
      constructor
      · rw [digits, digits, append_lt_append_iff (by simp), high.1, high.2, last]
        omega
      · have snoc : digits (width + 1) first = digits (width + 1) second ↔
            digits width (first / 10) = digits width (second / 10) ∧
              Nat.digitChar (first % 10) = Nat.digitChar (second % 10) :=
          ⟨fun same => by simpa using List.append_inj' same rfl, fun same => by
            rw [digits, digits, same.1, same.2]⟩
        rw [snoc, high.2, low.2]
        omega

/-- Digits that follow digits. -/
theorem digits_append
    (width number width' : Nat)
    {number' : Nat}
    (fits : number' < 10 ^ width') :
    digits width number ++ digits width' number' =
      digits (width + width') (number * 10 ^ width' + number') := by
  induction width' generalizing number' with
  | zero =>
      obtain rfl : number' = 0 := by omega
      simp [digits]
  | succ width' ih =>
      have quotient : (number * 10 ^ (width' + 1) + number') / 10 =
          number * 10 ^ width' + number' / 10 := by
        rw [Nat.pow_succ, ← Nat.mul_assoc]
        omega
      have remainder : (number * 10 ^ (width' + 1) + number') % 10 = number' % 10 := by
        rw [Nat.pow_succ, ← Nat.mul_assoc]
        omega
      rw [digits, ← List.append_assoc, ih (by omega), ← Nat.add_assoc, digits, quotient, remainder]

/-- Two digits are enough for a number below a hundred. -/
theorem toList_padded : ∀ number < 100, (padded 2 number).toList = digits 2 number := by
  decide +kernel

/-- Four digits are what a number from a thousand to ten thousand has. -/
theorem toList_repr_of_four
    {number : Nat}
    (large : 1000 ≤ number)
    (small : number ≤ 9999) :
    number.repr.toList = digits 4 number := by
  rw [Nat.toList_repr, Nat.toDigits_of_base_le (by omega) (by omega),
    Nat.toDigits_of_base_le (by omega) (by omega), Nat.toDigits_of_base_le (by omega) (by omega),
    Nat.toDigits_of_lt_base (by omega)]
  simp only [digits, List.nil_append]
  rw [Nat.mod_eq_of_lt (show number / 10 / 10 / 10 < 10 by omega)]

end Text

namespace Worker

open Calendar Text

/-! ## Dates and times as texts -/

/-- An instant in a year that is written with four digits. -/
structure FourDigitYear (time : Int) : Prop where
  least : 1000 ≤ (civil time).year
  most : (civil time).year ≤ 9999

variable {time time' : Int}

/-- Such an instant has a date. -/
theorem FourDigitYear.civil? (four : FourDigitYear time) :
    civil? (some time) = some (civil time) := by
  have before : dateOfDay (-1000000) = (-768, 2, 4) := by decide +kernel
  have after : dateOfDay 2932897 = (10000, 1, 1) := by decide +kernel
  have inRange := inRange_dateOfDay (time / 86400000)
  have date : (civil time).year = (dateOfDay (time / 86400000)).1 := rfl
  obtain ⟨least, most⟩ := four
  rw [date] at least most
  have notEarly : -1000000 < time / 86400000 := by
    rw [← (dateNumber_dateOfDay _ _).1, before]
    generalize dateOfDay (time / 86400000) = found at *
    obtain ⟨year, month, day⟩ := found
    simp only [dateNumber, InRange] at *
    omega
  have notLate : time / 86400000 < 2932897 := by
    rw [← (dateNumber_dateOfDay _ _).1, after]
    generalize dateOfDay (time / 86400000) = found at *
    obtain ⟨year, month, day⟩ := found
    simp only [dateNumber, InRange] at *
    omega
  simp only [Calendar.civil?, Option.bind_some]
  rw [if_pos]
  unfold maxDistance
  omega

/-- The parts of a date are in their ranges. -/
theorem civil_ranges (time : Int) :
    (civil time).month < 100 ∧ (civil time).day < 100 ∧ (civil time).hour < 24 ∧
      (civil time).minute < 60 ∧ (civil time).second < 60 := by
  have inRange : InRange ((civil time).year, (civil time).month, (civil time).day) :=
    inRange_dateOfDay (time / 86400000)
  obtain ⟨_, month, _, day⟩ := inRange
  refine ⟨by omega, by omega, ?_, ?_, ?_⟩ <;>
    · simp only [civil, msPerDay]
      omega

/-- The date of such an instant is written with eight digits, -/
theorem FourDigitYear.compactDate (four : FourDigitYear time) :
    (parts (some time)).compactDate.toList =
      digits 4 (civil time).year.toNat ++
        digits 4 ((civil time).month * 100 + (civil time).day) := by
  obtain ⟨month, day, _⟩ := civil_ranges time
  obtain ⟨least, most⟩ := four
  have year : (toString (civil time).year).toList = digits 4 (civil time).year.toNat := by
    rw [← toList_repr_of_four (by omega) (by omega)]
    obtain ⟨year, same⟩ := Int.eq_ofNat_of_zero_le (show 0 ≤ (civil time).year by omega)
    rw [same]
    rfl
  rw [parts, FourDigitYear.civil? ⟨least, most⟩]
  simp only [Parts.compactDate, Civil.parts, String.toList_append, year, toList_padded _ month,
    toList_padded _ day, List.append_assoc]
  rw [digits_append 2 _ 2 day]
  rfl

/-- and the time with six. -/
theorem FourDigitYear.compactTime (four : FourDigitYear time) :
    (parts (some time)).compactTime.toList =
      digits 4 ((civil time).hour * 100 + (civil time).minute) ++ digits 2 (civil time).second := by
  obtain ⟨_, _, hour, minute, second⟩ := civil_ranges time
  rw [parts, four.civil?]
  simp only [Parts.compactTime, Civil.parts, String.toList_append,
    toList_padded _ (show (civil time).hour < 100 by omega),
    toList_padded _ (show (civil time).minute < 100 by omega),
    toList_padded _ (show (civil time).second < 100 by omega), List.append_assoc]
  rw [← List.append_assoc, digits_append 2 _ 2 (by omega)]
  rfl

/-! ## Names -/

/-- The digits of an instant, as they are written: the date, and the time of day. -/
theorem FourDigitYear.compactTime_eq (four : FourDigitYear time) :
    (Calendar.compactTime (some time)).toList =
      digits 8 (civil time).dateNumber.toNat ++ '_' :: digits 6 (civil time).timeNumber := by
  obtain ⟨month, day, hour, minute, second⟩ := civil_ranges time
  have year := four.least
  have date : (civil time).dateNumber.toNat =
      (civil time).year.toNat * 10 ^ 4 + ((civil time).month * 100 + (civil time).day) := by
    simp only [Civil.dateNumber, dateNumber]
    omega
  have ofDay : (civil time).timeNumber =
      ((civil time).hour * 100 + (civil time).minute) * 10 ^ 2 + (civil time).second := by
    simp only [Civil.timeNumber]
    omega
  rw [date, ofDay, ← digits_append 4 _ 4 (by omega), ← digits_append 4 _ 2 (by omega),
    ← four.compactDate, ← four.compactTime]
  simp only [Calendar.compactTime, String.toList_append, List.append_assoc]
  rfl

/-- Pictures have the order of the numbers that they are named after. -/
theorem pictureName_order (four : FourDigitYear time) (four' : FourDigitYear time') :
    (pictureName (some time) = pictureName (some time') ↔ time / 1000 = time' / 1000) ∧
    (pictureName (some time) < pictureName (some time') ↔ time / 1000 < time' / 1000) := by
  have name {time : Int} (four : FourDigitYear time) : (pictureName (some time)).toList =
      digits 8 (civil time).dateNumber.toNat ++
        ('_' :: digits 6 (civil time).timeNumber ++ ".png".toList) := by
    rw [pictureName, String.toList_append, four.compactTime_eq, List.append_assoc]
  have fits {time : Int} (four : FourDigitYear time) :
      0 ≤ (civil time).dateNumber ∧ (civil time).dateNumber.toNat < 10 ^ 8 ∧
        (civil time).timeNumber < 10 ^ 6 := by
    obtain ⟨month, day, hour, minute, second⟩ := civil_ranges time
    obtain ⟨least, most⟩ := four
    simp only [Civil.dateNumber, dateNumber, Civil.timeNumber]
    omega
  obtain ⟨positive, date, ofDay⟩ := fits four
  obtain ⟨positive', date', ofDay'⟩ := fits four'
  have days := digits_order date date'
  have seconds := digits_order ofDay ofDay'
  constructor
  · rw [← String.toList_inj, name four, name four', ← civil_eq_iff,
      append_eq_append_iff (by simp), days.2, List.cons_append, List.cons_append,
      List.cons.injEq, append_eq_append_iff (by simp), seconds.2]
    simp
    omega
  · rw [String.lt_iff, name four, name four', ← civil_lt_iff,
      append_lt_append_iff (by simp), days.1, days.2, List.cons_append, List.cons_append,
      List.cons_lt_cons_iff, append_lt_append_iff (by simp), seconds.1]
    simp
    omega

/-- Where an upload goes: what stands around the bucket, the date and the time has a fixed
length. -/
theorem FourDigitYear.uploadTarget_eq (four : FourDigitYear time) (bucket : String) :
    (uploadTarget bucket (some time)).toList =
      "s3://".toList ++ (bucket.toList ++
        ('/' :: (digits 4 (civil time).year.toNat ++
          '-' :: (digits 4 ((civil time).month * 100 + (civil time).day) ++
            ("-scan/".toList ++ (digits 4 (civil time).year.toNat ++
              '-' :: (digits 4 ((civil time).month * 100 + (civil time).day) ++
                '-' :: (digits 4 ((civil time).hour * 100 + (civil time).minute) ++
                  ['/'])))))))) := by
  have date := four.compactDate
  have ofDay := four.compactTime
  have first : (leading 4 (parts (some time)).compactDate).toList =
      digits 4 (civil time).year.toNat := by
    rw [leading, String.toList_ofList, date, List.take_left' (by simp)]
  have second : (trailing 4 (parts (some time)).compactDate).toList =
      digits 4 ((civil time).month * 100 + (civil time).day) := by
    rw [trailing, String.toList_ofList, date, List.drop_left' (by simp)]
  have third : (leading 4 (parts (some time)).compactTime).toList =
      digits 4 ((civil time).hour * 100 + (civil time).minute) := by
    rw [leading, String.toList_ofList, ofDay, List.take_left' (by simp)]
  have plain (text : String) : toString text = text := rfl
  simp only [uploadTarget, String.toList_append, plain, first, second, third, List.append_assoc]
  rfl

/-- The parts of the place are cut out of the compact form. -/
theorem FourDigitYear.uploadTarget_compactTime (four : FourDigitYear time) (bucket : String) :
    uploadTarget bucket (some time) =
      "s3://" ++ bucket ++ "/" ++
        leading 4 (Calendar.compactTime (some time)) ++ "-" ++
          leading 4 (trailing 4 (Calendar.compactTime (some time))) ++ "-scan/" ++
        leading 4 (Calendar.compactTime (some time)) ++ "-" ++
          leading 4 (trailing 4 (Calendar.compactTime (some time))) ++ "-" ++
          leading 4 (trailing 9 (Calendar.compactTime (some time))) ++ "/" := by
  have date : (parts (some time)).compactDate.toList.length = 8 := by
    rw [four.compactDate, List.length_append, length_digits, length_digits]
  have whole : (Calendar.compactTime (some time)).toList =
      (parts (some time)).compactDate.toList ++
        (['_'] ++ (parts (some time)).compactTime.toList) := by
    simp only [Calendar.compactTime, String.toList_append, List.append_assoc]
    rfl
  have first : leading 4 (Calendar.compactTime (some time)) =
      leading 4 (parts (some time)).compactDate := by
    rw [leading, leading, whole, List.take_append_of_le_length (by omega)]
  have second : leading 4 (trailing 4 (Calendar.compactTime (some time))) =
      trailing 4 (parts (some time)).compactDate := by
    rw [leading, trailing, trailing, String.toList_ofList, whole,
      List.drop_append_of_le_length (by omega), List.take_left' (by simp [date])]
  have third : leading 4 (trailing 9 (Calendar.compactTime (some time))) =
      leading 4 (parts (some time)).compactTime := by
    rw [leading, leading, trailing, String.toList_ofList, whole, ← List.append_assoc,
      List.drop_left' (by rw [List.length_append, date]; rfl)]
  rw [first, second, third, ← String.toList_inj]
  have plain (text : String) : toString text = text := rfl
  simp only [uploadTarget, String.toList_append, plain, List.append_assoc]

/-- The minutes of a day, by the hour and the minute. -/
theorem minute_eq_iff (time time' : Int) :
    ((civil time).dateNumber = (civil time').dateNumber ∧
      (civil time).hour * 100 + (civil time).minute =
        (civil time').hour * 100 + (civil time').minute) ↔
      time / 60000 = time' / 60000 := by
  rw [dateNumber_civil, dateNumber_civil, (dateNumber_dateOfDay _ _).2]
  simp only [civil, msPerDay]
  have parts (time : Nat) : time / 3600000 = time / 60000 / 60 := by omega
  rw [parts, parts]
  omega

/-- Uploads go to the same place if their buckets and their minutes are the same. -/
theorem uploadTarget_eq_iff
    (four : FourDigitYear time)
    (four' : FourDigitYear time')
    (bucket bucket' : String) :
    uploadTarget bucket (some time) = uploadTarget bucket' (some time') ↔
      bucket = bucket' ∧ time / 60000 = time' / 60000 := by
  obtain ⟨month, day, hour, minute, _⟩ := civil_ranges time
  obtain ⟨month', day', hour', minute', _⟩ := civil_ranges time'
  obtain ⟨least, most⟩ := four
  obtain ⟨least', most'⟩ := four'
  have years := (digits_order (show (civil time).year.toNat < 10 ^ 4 by omega)
    (show (civil time').year.toNat < 10 ^ 4 by omega)).2
  have days := (digits_order
    (show (civil time).month * 100 + (civil time).day < 10 ^ 4 by omega)
    (show (civil time').month * 100 + (civil time').day < 10 ^ 4 by omega)).2
  have minutes := (digits_order
    (show (civil time).hour * 100 + (civil time).minute < 10 ^ 4 by omega)
    (show (civil time').hour * 100 + (civil time').minute < 10 ^ 4 by omega)).2
  rw [← String.toList_inj, FourDigitYear.uploadTarget_eq ⟨least, most⟩,
    FourDigitYear.uploadTarget_eq ⟨least', most'⟩, List.append_right_inj, ← minute_eq_iff]
  constructor
  · intro same
    obtain ⟨buckets, rest⟩ := List.append_inj' same (by simp)
    simp only [List.cons.injEq, true_and, append_eq_append_iff, length_digits, years, days,
      minutes, and_true] at rest
    refine ⟨String.toList_inj.mp buckets, ?_⟩
    simp only [Civil.dateNumber, dateNumber]
    omega
  · rintro ⟨rfl, date, ofDay⟩
    simp only [Civil.dateNumber, dateNumber] at date
    have sameYear : (civil time).year.toNat = (civil time').year.toNat := by omega
    have sameDay : (civil time).month * 100 + (civil time).day =
        (civil time').month * 100 + (civil time').day := by omega
    rw [sameYear, sameDay, ofDay]

/--
Two instants of years with four digits: pictures have the same name if they are
of the same second, and the name of an earlier second comes first in the order of
texts; uploads go to the same place if the bucket is the same and the minute is.
The parts of the place are those of the compact form.
-/
theorem names_identify_times
    (four : 1000 ≤ (civil time).year ∧ (civil time).year ≤ 9999)
    (four' : 1000 ≤ (civil time').year ∧ (civil time').year ≤ 9999)
    (bucket bucket' : String) :
    (pictureName (some time) = pictureName (some time') ↔ time / 1000 = time' / 1000) ∧
    (pictureName (some time) < pictureName (some time') ↔ time / 1000 < time' / 1000) ∧
    (uploadTarget bucket (some time) = uploadTarget bucket' (some time') ↔
      bucket = bucket' ∧ time / 60000 = time' / 60000) ∧
    uploadTarget bucket (some time) =
      "s3://" ++ bucket ++ "/" ++
        leading 4 (compactTime (some time)) ++ "-" ++
          leading 4 (trailing 4 (compactTime (some time))) ++ "-scan/" ++
        leading 4 (compactTime (some time)) ++ "-" ++
          leading 4 (trailing 4 (compactTime (some time))) ++ "-" ++
          leading 4 (trailing 9 (compactTime (some time))) ++ "/" := by
  have four : FourDigitYear time := ⟨four.1, four.2⟩
  have four' : FourDigitYear time' := ⟨four'.1, four'.2⟩
  obtain ⟨same, before⟩ := pictureName_order four four'
  refine ⟨same, before, uploadTarget_eq_iff four four' bucket bucket', ?_⟩
  exact four.uploadTarget_compactTime bucket

/-- The last instant of 1969, and one on a leap day. -/
theorem names_identify_times_leap_day :
    (1000 ≤ (civil (-1)).year ∧ (civil (-1)).year ≤ 9999) ∧
    (1000 ≤ (civil 1709251199999).year ∧ (civil 1709251199999).year ≤ 9999) ∧
    pictureName (some (-1)) = "19691231_235959.png" ∧
    pictureName (some 1709251199999) = "20240229_235959.png" ∧
    pictureName (some (-1)) < pictureName (some 1709251199999) ∧
    uploadTarget "fleet" (some 1709251199999) = "s3://fleet/2024-0229-scan/2024-0229-2359/" ∧
    uploadTarget "fleet" (some (-1)) ≠ uploadTarget "fleet" (some 1709251199999) := by
  have early : 1000 ≤ (civil (-1)).year ∧ (civil (-1)).year ≤ 9999 := by decide +kernel
  have late : 1000 ≤ (civil 1709251199999).year ∧ (civil 1709251199999).year ≤ 9999 := by
    decide +kernel
  obtain ⟨_, before, same, _⟩ := names_identify_times early late "fleet" "fleet"
  exact ⟨early, late, by decide +kernel, by decide +kernel, before.mpr (by decide),
    by decide +kernel, fun equal => absurd (same.mp equal).2 (by decide)⟩

end Worker
end CameraFleet
