import OlNode.IsoText

/-!
# Dates as texts

A date key is a text `YYYY-MM-DD`. The texts that `parseUtcDateKey` takes are those of the days of
the years 100 to 9999, and they are ordered as the days are.
-/
namespace OlNode.DateKeys

open JsDate Calendar

/-- The test of the text, and the date at midnight, if it is one of the calendar. `Date.UTC` carries
a day that the month does not have over to the next. -/
def parseUtcDateKey (key : String) : Option Int :=
  match key.toList with
  | [y1, y2, y3, y4, h1, m1, m2, h2, d1, d2] =>
    if [y1, y2, y3, y4, m1, m2, d1, d2].all Char.isDigit && h1 = '-' && h2 = '-' then
      let y : Int := Nat.ofDigitChars 10 [y1, y2, y3, y4] 0
      let m : Int := Nat.ofDigitChars 10 [m1, m2] 0
      let d : Int := Nat.ofDigitChars 10 [d1, d2] 0
      (UTC y (m - 1) d 0).filter fun dt =>
        getUTCFullYear dt = y && getUTCMonth dt = m - 1 && getUTCDate dt = d
    else none
  | _ => none

/-- The year is not padded. -/
def formatUtcDateKey (time : Int) : String :=
  toString (getUTCFullYear time) ++ "-" ++ padded 2 (getUTCMonth time + 1).toNat ++ "-" ++
    padded 2 (getUTCDate time).toNat

/-- The key of a day, with a year of four digits. -/
def dateKey (d : Int) : String := isoDate (d * msPerDay)

def HasKey (d : Int) : Prop := 100 ≤ monthOf d / 12 ∧ monthOf d / 12 ≤ 9999

/-! ### Keys of days -/

/-- The number of the month of a year, from 1. -/
def monthNumber (d : Int) : Nat := (monthOf d % 12 + 1).toNat

theorem monthNumber_bounds (d : Int) : 1 ≤ monthNumber d ∧ monthNumber d ≤ 12 := by
  unfold monthNumber
  omega

theorem dateOf_toNat (d : Int) : 1 ≤ (dateOf d).toNat ∧ (dateOf d).toNat ≤ 31 ∧
    ((dateOf d).toNat : Int) = dateOf d := by
  have bounds := dateOf_bounds d
  have longest := (monthLength_bounds (monthOf d)).2
  omega

theorem dateKey_toList {d : Int} (hasKey : HasKey d) :
    (dateKey d).toList = digits 4 (monthOf d / 12).toNat ++ ('-' :: (digits 2 (monthNumber d) ++
      ('-' :: digits 2 (dateOf d).toNat))) := by
  have days : day (d * msPerDay) = d := by
    unfold day msPerDay
    omega
  have year : 0 ≤ monthOf d / 12 ∧ monthOf d / 12 ≤ 9999 := by
    unfold HasKey at hasKey
    omega
  have month := monthNumber_bounds d
  have date := dateOf_toNat d
  unfold monthNumber at *
  unfold dateKey isoDate isoYear getUTCFullYear getUTCMonth getUTCDate
  rw [days, if_pos year]
  simp only [String.toList_append, padded_eq 3 _ (show (monthOf d / 12).toNat < _ by omega),
    padded_eq 1 _ (show (monthOf d % 12 + 1).toNat < _ by omega),
    padded_eq 1 _ (show (dateOf d).toNat < _ by omega), List.append_assoc]
  rfl

/-- Keys are ordered as days. -/
theorem dateKey_lt_iff {d e : Int} (hasKey : HasKey d) (hasKey' : HasKey e) :
    dateKey d < dateKey e ↔ d < e := by
  have months := monthNumber_bounds d
  have months' := monthNumber_bounds e
  have dates := dateOf_toNat d
  have dates' := dateOf_toNat e
  rw [String.lt_iff_toList_lt, dateKey_toList hasKey, dateKey_toList hasKey']
  unfold HasKey at *
  rw [digits_append_lt_iff 4 (by omega) (by omega), List.cons_lt_cons_iff,
    digits_append_lt_iff 2 (by omega) (by omega), List.cons_lt_cons_iff]
  have last := digits_append_lt_iff 2 (show (dateOf d).toNat < _ by omega)
    (show (dateOf e).toNat < _ by omega) [] []
  simp only [List.append_nil, List.not_lt_nil, and_false, or_false] at last
  rw [last, lt_iff_month_date]
  simp only [lt_irrefl, false_or, true_and]
  unfold monthNumber at *
  omega

theorem dateKey_injective {d e : Int} (hasKey : HasKey d) (hasKey' : HasKey e)
    (same : dateKey d = dateKey e) : d = e := by
  rcases lt_trichotomy d e with before | equal | after
  · exact absurd ((dateKey_lt_iff hasKey hasKey').mpr before) (same ▸ lt_irrefl _)
  · exact equal
  · exact absurd ((dateKey_lt_iff hasKey' hasKey).mpr after) (same ▸ lt_irrefl _)

theorem dateKey_length {d : Int} (hasKey : HasKey d) : (dateKey d).toList.length = 10 := by
  rw [dateKey_toList hasKey]
  simp [digits_length]

/-! ### Parsing -/

/-- The text with the digits of three numbers. -/
def keyText (y m d : Nat) : List Char :=
  digits 4 y ++ ('-' :: (digits 2 m ++ ('-' :: digits 2 d)))

private theorem parse_keyText {key : String} {y m d : Nat} (year : y < 10000) (month : m < 100)
    (date : d < 100) (text : key.toList = keyText y m d) :
    parseUtcDateKey key = (UTC y ((m : Int) - 1) d 0).filter fun dt =>
      getUTCFullYear dt = y && getUTCMonth dt = (m : Int) - 1 && getUTCDate dt = d := by
  have y4 := ofDigitChars_digits 4 y year
  have m2 := ofDigitChars_digits 2 m month
  have d2 := ofDigitChars_digits 2 d date
  simp only [keyText, digits, List.nil_append, List.cons_append] at text y4 m2 d2
  unfold parseUtcDateKey
  rw [text]
  have last : ∀ n : Nat, n % 10 < 10 := fun n => by omega
  simp only [y4, m2, d2, List.all_cons, List.all_nil, Nat.isDigit_digitChar, last, decide_true,
    Bool.and_self, if_true]

private theorem keyText_of_parse {key : String} {t : Int} (parsed : parseUtcDateKey key = some t) :
    ∃ y m d : Nat, y < 10000 ∧ m < 100 ∧ d < 100 ∧ key.toList = keyText y m d := by
  unfold parseUtcDateKey at parsed
  split at parsed
  next y1 y2 y3 y4 h1 m1 m2 h2 d1 d2 text =>
    split at parsed
    next accepted =>
      simp only [List.all_cons, List.all_nil, Bool.and_eq_true, decide_eq_true_eq,
        Bool.and_true] at accepted
      obtain ⟨⟨⟨a, b, c, e, f, g, h, i⟩, rfl⟩, rfl⟩ := accepted
      obtain ⟨year, yearShort⟩ := digits_ofDigitChars [y1, y2, y3, y4] (by simp [a, b, c, e])
      obtain ⟨month, monthShort⟩ := digits_ofDigitChars [m1, m2] (by simp [f, g])
      obtain ⟨date, dateShort⟩ := digits_ofDigitChars [d1, d2] (by simp [h, i])
      simp only [List.length_cons, List.length_nil, Nat.zero_add, Nat.reduceAdd, Nat.reducePow]
        at yearShort monthShort dateShort
      refine ⟨_, _, _, yearShort, monthShort, dateShort, ?_⟩
      change digits 4 _ = _ at year
      change digits 2 _ = _ at month
      change digits 2 _ = _ at date
      rw [text, keyText, year, month, date]
      rfl
    next => simp at parsed
  next => simp at parsed

theorem HasKey.day_bounds {d : Int} (hasKey : HasKey d) : -700000 ≤ d ∧ d < 3000000 := by
  have first : monthStart 1200 = -683003 := by decide
  have last : monthStart 120000 = 2932897 := by decide
  unfold HasKey at hasKey
  have upper := monthOf_lt_iff.mp (show monthOf d < 120000 by omega)
  have lower : ¬ d < monthStart 1200 := by
    rw [← monthOf_lt_iff]
    omega
  omega

theorem HasKey.timeClip {d : Int} (hasKey : HasKey d) :
    timeClip (d * msPerDay) = some (d * msPerDay) := by
  have bounds := hasKey.day_bounds
  rw [timeClip_eq_some_iff]
  unfold maxTime msPerDay
  omega

theorem HasKey.fourDigits {d : Int} (hasKey : HasKey d) : ¬ TwoDigitYear d := by
  unfold HasKey TwoDigitYear at *
  omega

private theorem year_of_UTC {t : Int} {y m dd : Nat}
    (made : day t = makeDay (makeFullYear y) (m - 1) dd) (same : monthOf (day t) / 12 = y) : 100 ≤ y := by
  by_contra few
  have later : makeFullYear y = 1900 + y := by
    unfold makeFullYear
    rw [if_pos (by omega)]
  have month := monthLength_bounds (monthOfYear (1900 + y) (m - 1) - 1)
  have reached : monthOfYear (1900 + y) (m - 1) - 1 ≤ monthOf (day t) := by
    rw [← monthOf_monthStart (monthOfYear (1900 + y) (m - 1) - 1)]
    apply monthOf_mono
    rw [made, later, makeDay]
    unfold monthLength at month
    rw [Int.sub_add_cancel] at month
    omega
  unfold monthOfYear at reached
  omega

/-- The texts that are parsed are the keys of the days. -/
theorem parseUtcDateKey_iff {key : String} {t : Int} :
    parseUtcDateKey key = some t ↔ ∃ d, HasKey d ∧ key = dateKey d ∧ t = d * msPerDay := by
  constructor
  · intro parsed
    obtain ⟨y, m, dd, year, month, date, text⟩ := keyText_of_parse parsed
    rw [parse_keyText year month date text, Option.filter_eq_some_iff] at parsed
    obtain ⟨made, same⟩ := parsed
    simp only [Bool.and_eq_true, decide_eq_true_eq] at same
    unfold getUTCFullYear getUTCMonth getUTCDate at same
    obtain ⟨-, time⟩ := timeClip_eq_some_iff.mp made
    have days : day t = makeDay (makeFullYear y) (m - 1) dd := by
      unfold day msPerDay at *
      omega
    have hasKey : HasKey (day t) := by
      have four := year_of_UTC days same.1.1
      unfold HasKey
      omega
    refine ⟨day t, hasKey, ?_, ?_⟩
    · apply String.toList_injective
      rw [text, dateKey_toList hasKey, same.1.1, same.2, monthNumber, same.1.2, keyText]
      simp
    · rw [days]
      omega
  · rintro ⟨d, hasKey, rfl, rfl⟩
    have month := monthNumber_bounds d
    have date := dateOf_toNat d
    have text := dateKey_toList hasKey
    have made := UTC_dateOf hasKey.fourDigits 0 0
    have clipped := hasKey.timeClip
    have days : day (d * msPerDay) = d := by
      unfold day msPerDay
      omega
    have y : ((monthOf d / 12).toNat : Int) = monthOf d / 12 := by
      unfold HasKey at hasKey
      omega
    have m : ((monthNumber d : Nat) : Int) - 1 = monthOf d % 12 := by
      unfold monthNumber
      omega
    rw [Int.add_zero, Int.add_zero, Int.zero_mul, Int.add_zero, clipped] at made
    unfold HasKey at hasKey
    rw [parse_keyText (by omega) (by omega) (by omega) text, y, m, date.2.2, made]
    simp [Option.filter, getUTCFullYear, getUTCMonth, getUTCDate, days]

/-! ### Formatting -/

theorem day_midnight (d : Int) : day (d * msPerDay) = d := by
  unfold day msPerDay
  omega

private theorem toString_year {year : Nat} (four : 1000 ≤ year) (short : year ≤ 9999) :
    toString (year : Int) = padded 4 year := by
  have length : (Nat.toDigits 10 year).length = 4 := by
    have upper := (Nat.length_toDigits_le_iff (show 1 < 10 by omega) (show 0 < 4 by omega)).mpr
      (show year < 10 ^ 4 by omega)
    have lower := (Nat.length_toDigits_le_iff (show 1 < 10 by omega) (show 0 < 3 by omega)).mp.mt
      (show ¬ year < 10 ^ 3 by omega)
    omega
  unfold padded
  rw [length]
  simp only [Nat.sub_self, List.replicate_zero, List.nil_append]
  exact Nat.repr_eq_ofList_toDigits

/-- From the year 1000 on, the padding of the year makes no difference. -/
theorem formatUtcDateKey_eq {time : Int} (four : 1000 ≤ monthOf (day time) / 12)
    (hasKey : HasKey (day time)) : formatUtcDateKey time = dateKey (day time) := by
  obtain ⟨year, isYear⟩ := Int.eq_ofNat_of_zero_le (show 0 ≤ monthOf (day time) / 12 by omega)
  unfold HasKey at hasKey
  have text := @toString_year year (by omega) (by omega)
  unfold formatUtcDateKey dateKey isoDate isoYear getUTCFullYear getUTCMonth getUTCDate
  rw [day_midnight, if_pos (by omega), isYear, text]
  rfl

end OlNode.DateKeys
