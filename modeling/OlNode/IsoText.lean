import OlNode.JsDate
import Mathlib.Data.String.Basic
import Mathlib.Data.List.Induction

/-!
# ISO texts of dates

Decimal texts of a fixed length, and the dates that are read from the texts of `toISOString`: such a
text is read back as the time it was written for.
-/
namespace JsDate

open Calendar

/-! ### Digits -/

/-- The last `k` decimal digits. -/
def digits : Nat → Nat → List Char
  | 0, _ => []
  | k + 1, n => digits k (n / 10) ++ [Nat.digitChar (n % 10)]

theorem digits_zero (k : Nat) : digits k 0 = List.replicate k '0' := by
  induction k with
  | zero => rfl
  | succ k ih => rw [digits, Nat.zero_div, ih, List.replicate_succ', Nat.zero_mod]; rfl

theorem padded_eq (k n : Nat) (short : n < 10 ^ (k + 1)) :
    (padded (k + 1) n).toList = digits (k + 1) n := by
  unfold padded
  rw [String.toList_ofList]
  induction k generalizing n with
  | zero =>
    rw [Nat.toDigits_of_lt_base (by omega)]
    have last : n % 10 = n := Nat.mod_eq_of_lt (by omega)
    simp [digits, last]
  | succ k ih =>
    rw [digits]
    rcases Nat.lt_or_ge n 10 with one | more
    · have last : n % 10 = n := Nat.mod_eq_of_lt one
      rw [Nat.toDigits_of_lt_base one, Nat.div_eq_of_lt one, digits_zero, last]
      rfl
    · rw [Nat.toDigits_of_base_le (by omega) more, ← ih (n / 10) (by omega)]
      simp

theorem digitChar_lt_iff {a b : Nat} (first : a < 10) (second : b < 10) :
    Nat.digitChar a < Nat.digitChar b ↔ a < b := by
  rw [Char.lt_def, UInt32.lt_iff_toNat_lt]
  have left := Nat.toNat_digitChar_of_lt_ten first
  have right := Nat.toNat_digitChar_of_lt_ten second
  unfold Char.toNat at left right
  omega

/-- Texts of as many digits are ordered as the numbers. -/
theorem digits_append_lt_iff (k : Nat) {a b : Nat} (first : a < 10 ^ k) (second : b < 10 ^ k)
    (rest rest' : List Char) :
    digits k a ++ rest < digits k b ++ rest' ↔ a < b ∨ a = b ∧ rest < rest' := by
  induction k generalizing a b rest rest' with
  | zero =>
    have zero : a = 0 ∧ b = 0 := by omega
    simp [digits, zero]
  | succ k ih =>
    have lastA : a % 10 < 10 := by omega
    have lastB : b % 10 < 10 := by omega
    rw [digits, digits, List.append_assoc, List.append_assoc, ih (by omega) (by omega)]
    simp only [List.cons_append, List.nil_append, List.cons_lt_cons_iff]
    rw [digitChar_lt_iff lastA lastB]
    have same : Nat.digitChar (a % 10) = Nat.digitChar (b % 10) ↔ a % 10 = b % 10 := by
      constructor
      · intro equal
        have back := congrArg (fun c : Char => c.toNat - 48) equal
        simpa only [Nat.toNat_digitChar_sub_48_of_lt_ten lastA,
          Nat.toNat_digitChar_sub_48_of_lt_ten lastB] using back
      · exact congrArg Nat.digitChar
    rw [same]
    by_cases tail : rest < rest'
    · simp only [tail, and_true]
      omega
    · simp only [tail, and_false, or_false]
      omega

theorem ofDigitChars_digits (k n : Nat) (short : n < 10 ^ k) :
    Nat.ofDigitChars 10 (digits k n) 0 = n := by
  induction k generalizing n with
  | zero =>
    have zero : n = 0 := by omega
    simp [digits, zero, Nat.ofDigitChars]
  | succ k ih =>
    have last : n % 10 < 10 := by omega
    rw [digits, Nat.ofDigitChars_append, ih (n / 10) (by omega),
      Nat.ofDigitChars_cons_digitChar_of_lt_ten last, Nat.ofDigitChars_nil]
    omega

theorem digitChar_digit {c : Char} (digit : c.isDigit = true) :
    Nat.digitChar (c.toNat - 48) = c := by
  have bounds : 48 ≤ c.toNat ∧ c.toNat ≤ 57 := by
    simp only [Char.isDigit, Bool.and_eq_true, decide_eq_true_eq, UInt32.le_iff_toNat_le] at digit
    exact digit
  apply Char.toNat_inj.mp
  rw [Nat.toNat_digitChar_of_lt_ten (by omega)]
  omega

theorem digits_ofDigitChars (text : List Char) (all : ∀ c ∈ text, c.isDigit = true) :
    digits text.length (Nat.ofDigitChars 10 text 0) = text ∧
      Nat.ofDigitChars 10 text 0 < 10 ^ text.length := by
  induction text using List.reverseRecOn with
  | nil => simp [digits, Nat.ofDigitChars]
  | append_singleton text c ih =>
    obtain ⟨same, short⟩ := ih fun d member => all d (List.mem_append_left _ member)
    have digit := digitChar_digit (all c (by simp))
    have small : c.toNat - 48 < 10 := by
      have bounds := all c (by simp)
      simp only [Char.isDigit, Bool.and_eq_true, decide_eq_true_eq,
        UInt32.le_iff_toNat_le] at bounds
      change 48 ≤ c.toNat ∧ c.toNat ≤ 57 at bounds
      omega
    have zero : '0'.toNat = 48 := rfl
    rw [Nat.ofDigitChars_append, Nat.ofDigitChars_cons, Nat.ofDigitChars_nil, List.length_append,
      List.length_singleton, zero]
    constructor
    · rw [digits]
      have front : (10 * Nat.ofDigitChars 10 text 0 + (c.toNat - 48)) / 10 =
          Nat.ofDigitChars 10 text 0 := by omega
      have last : (10 * Nat.ofDigitChars 10 text 0 + (c.toNat - 48)) % 10 = c.toNat - 48 := by
        omega
      rw [front, last, same, digit]
    · rw [Nat.pow_succ]
      omega

theorem digits_length (k n : Nat) : (digits k n).length = k := by
  induction k generalizing n with
  | zero => rfl
  | succ k ih => rw [digits, List.length_append, ih, List.length_singleton]

/-! ### Reading -/

def readNumber (k : Nat) (text : List Char) : Option (Nat × List Char) :=
  if k ≤ text.length ∧ (text.take k).all Char.isDigit then
    some (Nat.ofDigitChars 10 (text.take k) 0, text.drop k)
  else none

def readChar (c : Char) : List Char → Option (List Char)
  | [] => none
  | d :: rest => if d = c then some rest else none

/-- A year of four digits, or of six with a sign; `-000000` is not one. -/
def readYear : List Char → Option (Int × List Char)
  | '+' :: rest => (readNumber 6 rest).map fun read => (read.1, read.2)
  | '-' :: rest => (readNumber 6 rest).bind fun read =>
      if read.1 = 0 then none else some (-read.1, read.2)
  | text => (readNumber 4 text).map fun read => (read.1, read.2)

def timeOf (year : Int) (month date hours minutes seconds ms : Nat) : Date :=
  if 1 ≤ month ∧ month ≤ 12 ∧ 1 ≤ date ∧ (date : Int) ≤ monthLength (monthOfYear year (month - 1)) ∧
      hours ≤ 23 ∧ minutes ≤ 59 ∧ seconds ≤ 59 then
    timeClip (makeDay year (month - 1) date * msPerDay +
      (hours * 3600000 + minutes * 60000 + seconds * 1000 + ms))
  else none

/-- `new Date(text)` of a text `YYYY-MM-DDTHH:mm:ss.sssZ`; other texts are taken for no dates. -/
def parse (text : String) : Date := do
  let (year, rest) ← readYear text.toList
  let rest ← readChar '-' rest
  let (month, rest) ← readNumber 2 rest
  let rest ← readChar '-' rest
  let (date, rest) ← readNumber 2 rest
  let rest ← readChar 'T' rest
  let (hours, rest) ← readNumber 2 rest
  let rest ← readChar ':' rest
  let (minutes, rest) ← readNumber 2 rest
  let rest ← readChar ':' rest
  let (seconds, rest) ← readNumber 2 rest
  let rest ← readChar '.' rest
  let (ms, rest) ← readNumber 3 rest
  let rest ← readChar 'Z' rest
  if rest = [] then timeOf year month date hours minutes seconds ms else none

theorem digits_all (k n : Nat) : (digits k n).all Char.isDigit = true := by
  induction k generalizing n with
  | zero => rfl
  | succ k ih =>
    have last : n % 10 < 10 := by omega
    rw [digits, List.all_append, ih, List.all_cons, List.all_nil, Nat.isDigit_digitChar]
    simpa using last

theorem readNumber_digits {k n : Nat} (short : n < 10 ^ k) (rest : List Char) :
    readNumber k (digits k n ++ rest) = some (n, rest) := by
  have length := digits_length k n
  have front : (digits k n ++ rest).take k = digits k n := List.take_left' length
  have back : (digits k n ++ rest).drop k = rest := List.drop_left' length
  rw [readNumber, front, back, ofDigitChars_digits k n short]
  simp [length, digits_all]

theorem readChar_cons (c : Char) (rest : List Char) : readChar c (c :: rest) = some rest := by
  simp [readChar]

theorem readYear_of_digit {text : List Char} (digit : ∀ c, text.head? = some c → c.isDigit = true) :
    readYear text = (readNumber 4 text).map fun read => ((read.1 : Int), read.2) := by
  unfold readYear
  split
  next => exact absurd (digit '+' rfl) (by decide)
  next => exact absurd (digit '-' rfl) (by decide)
  next => rfl

theorem readYear_isoYear {year : Int} (short : year.natAbs < 1000000) (rest : List Char) :
    readYear ((isoYear year).toList ++ rest) = some (year, rest) := by
  unfold isoYear
  split
  next four =>
    have value : ((year.toNat : Nat) : Int) = year := by omega
    rw [padded_eq 3 year.toNat (by omega), readYear_of_digit, readNumber_digits (by omega),
      Option.map_some, value]
    intro c first
    have member : c ∈ digits 4 year.toNat := by
      cases made : digits 4 year.toNat with
      | nil => simpa [made] using digits_length 4 year.toNat
      | cons d ds =>
        rw [made] at first
        simp_all
    exact List.all_eq_true.mp (digits_all 4 year.toNat) c member
  next six =>
    have text := padded_eq 5 year.natAbs (by omega)
    rw [String.toList_append, text]
    by_cases negative : year < 0
    · have nonzero : year.natAbs ≠ 0 := by omega
      have value : -((year.natAbs : Nat) : Int) = year := by omega
      rw [if_pos negative]
      change readYear ('-' :: (digits 6 year.natAbs ++ rest)) = _
      simp only [readYear, readNumber_digits (show year.natAbs < 10 ^ 6 by omega),
        Option.bind_some, if_neg nonzero, value]
    · have value : ((year.natAbs : Nat) : Int) = year := by omega
      rw [if_neg negative]
      change readYear ('+' :: (digits 6 year.natAbs ++ rest)) = _
      simp only [readYear, readNumber_digits (show year.natAbs < 10 ^ 6 by omega),
        Option.map_some, value]

theorem year_bounds {time : Int} (valid : timeClip time = some time) :
    (getUTCFullYear time).natAbs < 1000000 := by
  have first : monthStart (-3264000) ≤ -100000000 := by decide
  have last : 100000000 < monthStart 3312000 := by decide
  have bounds := (timeClip_eq_some_iff.mp valid).1
  unfold maxTime at bounds
  have upper : monthOf (day time) < 3312000 := by
    rw [monthOf_lt_iff]
    unfold day msPerDay
    omega
  have lower : ¬ monthOf (day time) < -3264000 := by
    rw [monthOf_lt_iff]
    unfold day msPerDay
    omega
  unfold getUTCFullYear
  omega

theorem isoString_toList (time : Int) : (isoString time).toList =
    (isoYear (getUTCFullYear time)).toList ++ '-' ::
      (digits 2 (getUTCMonth time + 1).toNat ++ '-' :: (digits 2 (getUTCDate time).toNat ++ 'T' ::
        (digits 2 ((timeWithinDay time).toNat / 3600000) ++ ':' ::
          (digits 2 ((timeWithinDay time).toNat / 60000 % 60) ++ ':' ::
            (digits 2 ((timeWithinDay time).toNat / 1000 % 60) ++ '.' ::
              (digits 3 ((timeWithinDay time).toNat % 1000) ++ ['Z'])))))) := by
  have within := timeWithinDay_bounds time
  have date := dateOf_bounds (day time)
  have longest := (monthLength_bounds (monthOf (day time))).2
  unfold msPerDay at within
  have hours := padded_eq 1 ((timeWithinDay time).toNat / 3600000) (by omega)
  have minutes := padded_eq 1 ((timeWithinDay time).toNat / 60000 % 60) (by omega)
  have seconds := padded_eq 1 ((timeWithinDay time).toNat / 1000 % 60) (by omega)
  have ms := padded_eq 2 ((timeWithinDay time).toNat % 1000) (by omega)
  have month := padded_eq 1 (getUTCMonth time + 1).toNat (by unfold getUTCMonth; omega)
  have dates := padded_eq 1 (getUTCDate time).toNat (by unfold getUTCDate; omega)
  simp only [isoString, isoDate, isoTime, String.toList_append, hours, minutes, seconds, ms, month,
    dates, List.append_assoc]
  rfl

private theorem bind_of_some {α β : Type} {x : Option α} {a : α} (read : x = some a)
    (next : α → Option β) : (x >>= next) = next a := by
  rw [read]
  rfl

theorem parse_isoString {time : Int} (valid : timeClip time = some time) :
    parse (isoString time) = some time := by
  have within := timeWithinDay_bounds time
  have date := dateOf_bounds (day time)
  have longest := (monthLength_bounds (monthOf (day time))).2
  have whole := monthStart_add_dateOf (day time)
  have sum := day_add_time time
  unfold msPerDay at within sum
  have month : ((getUTCMonth time + 1).toNat : Int) = getUTCMonth time + 1 := by
    unfold getUTCMonth
    omega
  have dates : ((getUTCDate time).toNat : Int) = getUTCDate time := by
    unfold getUTCDate
    omega
  have bounds : 0 ≤ getUTCMonth time ∧ getUTCMonth time ≤ 11 ∧ 1 ≤ getUTCDate time ∧
      getUTCDate time ≤ 31 := by
    unfold getUTCMonth getUTCDate
    omega
  have read : timeOf (getUTCFullYear time) (getUTCMonth time + 1).toNat (getUTCDate time).toNat
      ((timeWithinDay time).toNat / 3600000) ((timeWithinDay time).toNat / 60000 % 60)
      ((timeWithinDay time).toNat / 1000 % 60) ((timeWithinDay time).toNat % 1000) = some time := by
    have own : monthOfYear (getUTCFullYear time) (getUTCMonth time + 1 - 1) =
        monthOf (day time) := by
      unfold monthOfYear getUTCFullYear getUTCMonth
      omega
    have start : makeDay (getUTCFullYear time) (getUTCMonth time + 1 - 1) (getUTCDate time) =
        day time := by
      unfold getUTCDate
      rw [makeDay, own]
      exact whole
    have ms : ((timeWithinDay time).toNat / 3600000 : Nat) * (3600000 : Int) +
        ((timeWithinDay time).toNat / 60000 % 60 : Nat) * 60000 +
          ((timeWithinDay time).toNat / 1000 % 60 : Nat) * 1000 +
            ((timeWithinDay time).toNat % 1000 : Nat) = timeWithinDay time := by
      omega
    rw [timeOf, month, dates, own, start, ms, day_add_time, valid, if_pos]
    unfold getUTCDate at *
    omega
  unfold parse
  rw [isoString_toList]
  refine (bind_of_some (readYear_isoYear (year_bounds valid) _) _).trans ?_
  refine (bind_of_some (readChar_cons '-' _) _).trans ?_
  refine (bind_of_some (readNumber_digits (by omega) _) _).trans ?_
  refine (bind_of_some (readChar_cons '-' _) _).trans ?_
  refine (bind_of_some (readNumber_digits (by omega) _) _).trans ?_
  refine (bind_of_some (readChar_cons 'T' _) _).trans ?_
  refine (bind_of_some (readNumber_digits (by omega) _) _).trans ?_
  refine (bind_of_some (readChar_cons ':' _) _).trans ?_
  refine (bind_of_some (readNumber_digits (by omega) _) _).trans ?_
  refine (bind_of_some (readChar_cons ':' _) _).trans ?_
  refine (bind_of_some (readNumber_digits (by omega) _) _).trans ?_
  refine (bind_of_some (readChar_cons '.' _) _).trans ?_
  refine (bind_of_some (readNumber_digits (by omega) _) _).trans ?_
  refine (bind_of_some (readChar_cons 'Z' _) _).trans ?_
  exact (if_pos rfl).trans read

end JsDate
