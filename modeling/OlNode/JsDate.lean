import OlNode.Calendar

/-!
# Dates of JavaScript

A `Date` holds a number of milliseconds since 1970 in UTC, or NaN. `Date.UTC` computes with whole
days and months beyond their range, reads the years 0 to 99 as 1900 to 1999, and gives NaN where the
result is more than 100 million days away from 1970.
-/
namespace JsDate

open Calendar

/-- The time value of a date; `none` is the invalid date. -/
abbrev Date := Option Int

def msPerDay : Int := 86400000

def maxTime : Int := 8640000000000000

def timeClip (time : Int) : Date := if -maxTime ≤ time ∧ time ≤ maxTime then some time else none

def makeFullYear (year : Int) : Int := if 0 ≤ year ∧ year ≤ 99 then 1900 + year else year

def makeDay (year month date : Int) : Int := monthStart (monthOfYear year month) + (date - 1)

/-- `Date.UTC` at a full hour. -/
def UTC (year month date hours : Int) : Date :=
  timeClip (makeDay (makeFullYear year) month date * msPerDay + hours * 3600000)

def day (time : Int) : Int := time / msPerDay

def timeWithinDay (time : Int) : Int := time % msPerDay

def getUTCFullYear (time : Int) : Int := monthOf (day time) / 12

def getUTCMonth (time : Int) : Int := monthOf (day time) % 12

def getUTCDate (time : Int) : Int := dateOf (day time)

def getUTCDay (time : Int) : Int := weekday (day time)

/-- `String(n).padStart(width, '0')` for a natural number. -/
def padded (width n : Nat) : String :=
  String.ofList (List.replicate (width - (Nat.toDigits 10 n).length) '0' ++ Nat.toDigits 10 n)

/-- Years beyond four digits have a sign and six digits. -/
def isoYear (year : Int) : String :=
  if 0 ≤ year ∧ year ≤ 9999 then padded 4 year.toNat
  else (if year < 0 then "-" else "+") ++ padded 6 year.natAbs

def isoDate (time : Int) : String :=
  isoYear (getUTCFullYear time) ++ "-" ++ padded 2 (getUTCMonth time + 1).toNat ++ "-" ++
    padded 2 (getUTCDate time).toNat

def isoTime (time : Int) : String :=
  let ms := (timeWithinDay time).toNat
  padded 2 (ms / 3600000) ++ ":" ++ padded 2 (ms / 60000 % 60) ++ ":" ++
    padded 2 (ms / 1000 % 60) ++ "." ++ padded 3 (ms % 1000)

def isoString (time : Int) : String := isoDate time ++ "T" ++ isoTime time ++ "Z"

/-- `none` is the RangeError. -/
def toISOString (date : Date) : Option String := date.map isoString

/-- The day lies in one of the years that `Date.UTC` takes for years of the last century. -/
def TwoDigitYear (day : Int) : Prop := 0 ≤ monthOf day / 12 ∧ monthOf day / 12 ≤ 99

instance (day : Int) : Decidable (TwoDigitYear day) := inferInstanceAs (Decidable (_ ∧ _))

/-- The months by which `Date.UTC` is off in the year of the day. -/
def monthsOff (day : Int) : Int := if TwoDigitYear day then 12 * 1900 else 0

/-! ### Time values -/

theorem timeClip_eq_some_iff {time value : Int} :
    timeClip time = some value ↔ (-maxTime ≤ time ∧ time ≤ maxTime) ∧ time = value := by
  unfold timeClip
  split
  next inside => simp [inside]
  next outside => simp [outside]

theorem timeClip_any {time : Int} {p : Int → Bool} :
    (timeClip time).any p = true ↔ (-maxTime ≤ time ∧ time ≤ maxTime) ∧ p time = true := by
  unfold timeClip
  split
  next inside => simp [inside]
  next outside => simp [outside]

/-! ### Days and months -/

theorem UTC_monthOf (day months date hours : Int) :
    UTC (monthOf day / 12) (monthOf day % 12 + months) date hours =
      timeClip ((monthStart (monthOf day + monthsOff day + months) + (date - 1)) * msPerDay +
        hours * 3600000) := by
  have month : monthOfYear (makeFullYear (monthOf day / 12)) (monthOf day % 12 + months) =
      monthOf day + monthsOff day + months := by
    unfold monthOfYear makeFullYear monthsOff TwoDigitYear
    split <;> omega
  rw [UTC, makeDay, month]

theorem UTC_dateOf {day : Int} (fourDigits : ¬ TwoDigitYear day) (days hours : Int) :
    UTC (monthOf day / 12) (monthOf day % 12) (dateOf day + days) hours =
      timeClip ((day + days) * msPerDay + hours * 3600000) := by
  have same := UTC_monthOf day 0 (dateOf day + days) hours
  have date : monthStart (monthOf day) + (dateOf day + days - 1) = day + days := by
    have whole := monthStart_add_dateOf day
    omega
  rw [monthsOff, if_neg fourDigits, Int.add_zero, Int.add_zero, Int.add_zero, date] at same
  exact same

theorem day_add_time (time : Int) : day time * msPerDay + timeWithinDay time = time := by
  unfold day timeWithinDay
  exact Int.ediv_mul_add_emod time msPerDay

theorem timeWithinDay_bounds (time : Int) :
    0 ≤ timeWithinDay time ∧ timeWithinDay time < msPerDay := by
  unfold timeWithinDay msPerDay
  omega

example : toISOString (UTC 2024 1 29 18) = some "2024-02-29T18:00:00.000Z" := by decide

end JsDate
