import Mathlib.Order.Monotone.Basic
import Mathlib.Tactic.IntervalCases
import Mathlib.Data.Int.ConditionallyCompleteOrder

/-!
# The Gregorian calendar

Days are counted from 1970-01-01, months from January of the year 0; both counts are integers, so
the calendar goes on in both directions. `monthStart` is strictly monotone, and a day belongs to the
month between whose start and the next it lies: this is all that most arguments about dates need.
-/
namespace Calendar

def isLeap (year : Int) : Bool := year % 4 = 0 && (year % 100 ≠ 0 || year % 400 = 0)

def yearStart (year : Int) : Int :=
  365 * (year - 1970) + (year - 1969) / 4 - (year - 1901) / 100 + (year - 1601) / 400

/-- The days of a year before its month, counted from 0. -/
def daysBefore (leap : Bool) (month : Nat) : Int :=
  [0, 31, 59, 90, 120, 151, 181, 212, 243, 273, 304, 334].getD month 365 +
    if leap && 2 ≤ month then 1 else 0

/-- The month of a year, counted from 0, also beyond the end of the year. -/
def monthOfYear (year month : Int) : Int := 12 * year + month

def monthStart (month : Int) : Int :=
  yearStart (month / 12) + daysBefore (isLeap (month / 12)) (month % 12).toNat

/-- An estimate by the mean length of a year, which is off by at most one. -/
def yearOf (day : Int) : Int :=
  let year := 1970 + day * 400 / 146097
  if yearStart (year + 1) ≤ day then year + 1 else if day < yearStart year then year - 1 else year

/-- An estimate by the longest month, which is at most one too early. -/
def monthOf (day : Int) : Int :=
  let month := monthOfYear (yearOf day) ((day - yearStart (yearOf day)) / 31)
  if monthStart (month + 1) ≤ day then month + 1 else month

/-- The day of the month, counted from 1. -/
def dateOf (day : Int) : Int := day - monthStart (monthOf day) + 1

/-- 0 is Sunday. -/
def weekday (day : Int) : Int := (day + 4) % 7

def monthLength (month : Int) : Int := monthStart (month + 1) - monthStart month

/-! ### Years -/

theorem yearStart_succ (year : Int) :
    yearStart (year + 1) = yearStart year + 365 + if isLeap year then 1 else 0 := by
  unfold yearStart isLeap
  by_cases four : year % 4 = 0 <;> by_cases hundred : year % 100 = 0 <;>
    by_cases all : year % 400 = 0 <;> simp [four, hundred, all] <;> omega

theorem yearStart_yearOf (day : Int) :
    yearStart (yearOf day) ≤ day ∧ day < yearStart (yearOf day + 1) := by
  unfold yearOf
  simp only
  split
  next late =>
    refine ⟨late, ?_⟩
    unfold yearStart at *
    omega
  next early =>
    split
    next before =>
      rw [Int.sub_add_cancel]
      refine ⟨?_, before⟩
      unfold yearStart
      omega
    next within => omega

/-! ### Months -/

theorem monthStart_monthOfYear (year : Int) {month : Nat} (within : month < 12) :
    monthStart (monthOfYear year month) = yearStart year + daysBefore (isLeap year) month := by
  have quotient : monthOfYear year month / 12 = year := by unfold monthOfYear; omega
  have remainder : (monthOfYear year month % 12).toNat = month := by unfold monthOfYear; omega
  rw [monthStart, quotient, remainder]

variable (month : Int)

/-- Every month is one of the twelve of a year. -/
theorem exists_monthOfYear :
    ∃ (year : Int) (m : Nat), m < 12 ∧ month = monthOfYear year m :=
  ⟨month / 12, (month % 12).toNat, by omega, by unfold monthOfYear; omega⟩

/-- The same table for the thirteenth month. -/
theorem monthStart_succ_monthOfYear (year : Int) {month : Nat} (within : month < 12) :
    monthStart (monthOfYear year month + 1) =
      yearStart year + daysBefore (isLeap year) (month + 1) := by
  by_cases last : month = 11
  · subst last
    have next : monthOfYear year 11 + 1 = monthOfYear (year + 1) 0 := by unfold monthOfYear; omega
    have january := @monthStart_monthOfYear (year + 1) 0 (by omega)
    rw [Int.natCast_zero] at january
    have decembers : monthOfYear year ((11 : Nat) : Int) = monthOfYear year 11 := rfl
    rw [decembers, next, january, yearStart_succ]
    cases isLeap year <;> cases isLeap (year + 1) <;> simp [daysBefore] <;> omega
  · have next : monthOfYear year month + 1 = monthOfYear year ((month + 1 : Nat) : Int) := by
      unfold monthOfYear
      omega
    rw [next, monthStart_monthOfYear year (by omega)]

theorem monthLength_monthOfYear (year : Int) {month : Nat} (within : month < 12) :
    monthLength (monthOfYear year month) =
      daysBefore (isLeap year) (month + 1) - daysBefore (isLeap year) month := by
  rw [monthLength, monthStart_succ_monthOfYear year within, monthStart_monthOfYear year within]
  omega

theorem monthLength_bounds : 28 ≤ monthLength month ∧ monthLength month ≤ 31 := by
  obtain ⟨year, m, within, rfl⟩ := exists_monthOfYear month
  rw [monthLength_monthOfYear year within]
  interval_cases m <;> cases isLeap year <;> simp [daysBefore]

theorem monthStart_strictMono : StrictMono monthStart := by
  refine strictMono_int_of_lt_succ fun month => ?_
  have longer := (monthLength_bounds month).1
  unfold monthLength at longer
  omega

private theorem estimate_bounds (leap : Bool) {m : Nat} (within : m < 12) :
    daysBefore leap m ≤ 31 * m ∧ 31 * (m + 1) ≤ daysBefore leap (m + 1) + 28 := by
  interval_cases m <;> cases leap <;> simp [daysBefore]

theorem monthStart_add_le (n : Nat) :
    monthStart month + 28 * n ≤ monthStart (month + n) := by
  induction n with
  | zero => simp
  | succ n ih =>
    have longer := (monthLength_bounds (month + n)).1
    unfold monthLength at longer
    rw [Int.natCast_succ, ← Int.add_assoc]
    omega

/-- February, the months of 30 days, and the rest. -/
theorem monthLength_ge :
    28 ≤ monthLength month ∧ (month % 12 ≠ 1 → 30 ≤ monthLength month) ∧
      (month % 12 = 0 ∨ month % 12 = 2 ∨ month % 12 = 11 → 31 ≤ monthLength month) := by
  obtain ⟨year, m, within, rfl⟩ := exists_monthOfYear month
  have remainder : monthOfYear year m % 12 = m := by
    unfold monthOfYear
    omega
  rw [monthLength_monthOfYear year within, remainder]
  interval_cases m <;> cases isLeap year <;> simp [daysBefore]

/-- Three months in a row have 89 days at least, as from February to April. -/
theorem monthStart_add_three : monthStart month + 89 ≤ monthStart (month + 3) := by
  have first := monthLength_ge month
  have second := monthLength_ge (month + 1)
  have third := monthLength_ge (month + 2)
  unfold monthLength at first second third
  rw [Int.add_assoc] at second third
  simp only [Int.reduceAdd] at second third
  omega

theorem monthStart_monthOf (day : Int) :
    monthStart (monthOf day) ≤ day ∧ day < monthStart (monthOf day + 1) := by
  obtain ⟨start, ends⟩ := yearStart_yearOf day
  rw [yearStart_succ] at ends
  have short : (day - yearStart (yearOf day)) / 31 < 12 := by split at ends <;> omega
  obtain ⟨m, estimate⟩ : ∃ m : Nat, (day - yearStart (yearOf day)) / 31 = m :=
    Int.eq_ofNat_of_zero_le (by omega)
  have within : m < 12 := by omega
  have bounds := estimate_bounds (isLeap (yearOf day)) within
  have first := monthStart_monthOfYear (yearOf day) within
  have next := monthStart_succ_monthOfYear (yearOf day) within
  unfold monthOf
  simp only [estimate]
  split
  next later =>
    refine ⟨later, ?_⟩
    -- The month after that is a whole month later.
    have long := (monthLength_bounds (monthOfYear (yearOf day) m + 1)).1
    unfold monthLength at long
    omega
  next earlier => exact ⟨by omega, by omega⟩

theorem monthOf_eq {month day : Int} (start : monthStart month ≤ day)
    (ends : day < monthStart (month + 1)) : monthOf day = month := by
  obtain ⟨own, next⟩ := monthStart_monthOf day
  have notLater : month < monthOf day + 1 := monthStart_strictMono.lt_iff_lt.mp (by omega)
  have notEarlier : monthOf day < month + 1 := monthStart_strictMono.lt_iff_lt.mp (by omega)
  omega

theorem monthOf_lt_iff {day month : Int} : monthOf day < month ↔ day < monthStart month := by
  obtain ⟨own, next⟩ := monthStart_monthOf day
  constructor
  · intro before
    have later : monthStart (monthOf day + 1) ≤ monthStart month :=
      monthStart_strictMono.monotone before
    omega
  · intro before
    exact monthStart_strictMono.lt_iff_lt.mp (by omega)

theorem monthOf_mono {day later : Int} (le : day ≤ later) : monthOf day ≤ monthOf later := by
  have after : ¬ monthOf later < monthOf day := by
    rw [monthOf_lt_iff]
    have own := (monthStart_monthOf day).1
    omega
  omega

theorem lt_iff_month_date {day later : Int} :
    day < later ↔ monthOf day < monthOf later ∨
      monthOf day = monthOf later ∧ dateOf day < dateOf later := by
  rcases lt_trichotomy (monthOf day) (monthOf later) with before | same | after
  · have bound := monthOf_lt_iff.mp before
    have own := (monthStart_monthOf later).1
    simp only [before, true_or, iff_true]
    omega
  · unfold dateOf
    rw [same]
    omega
  · have bound := monthOf_lt_iff.mp after
    have own := (monthStart_monthOf day).1
    omega

theorem monthOf_monthStart : monthOf (monthStart month) = month :=
  monthOf_eq (Int.le_refl _) (monthStart_strictMono (Int.lt_succ month))

theorem dateOf_bounds (day : Int) : 1 ≤ dateOf day ∧ dateOf day ≤ monthLength (monthOf day) := by
  obtain ⟨start, ends⟩ := monthStart_monthOf day
  unfold dateOf monthLength
  omega

theorem monthStart_add_dateOf (day : Int) : monthStart (monthOf day) + (dateOf day - 1) = day := by
  unfold dateOf
  omega

/-! ### Grids -/

/-- A division of the days into consecutive buckets, each known by its index. -/
structure Grid where
  start : Int → Int
  mono : StrictMono start
  index : Int → Int
  covers : ∀ day, start (index day) ≤ day ∧ day < start (index day + 1)

namespace Grid

variable (grid : Grid)

theorem le_index_iff {i day : Int} : i ≤ grid.index day ↔ grid.start i ≤ day := by
  obtain ⟨begun, notOver⟩ := grid.covers day
  constructor
  · exact fun early => (grid.mono.monotone early).trans begun
  · intro started
    have before := grid.mono.lt_iff_lt.mp (lt_of_le_of_lt started notOver)
    omega

theorem index_le_iff {i day : Int} : grid.index day ≤ i ↔ day < grid.start (i + 1) := by
  have next := @le_index_iff grid (i + 1) day
  omega

theorem index_mono {day later : Int} (le : day ≤ later) : grid.index day ≤ grid.index later := by
  rw [le_index_iff]
  exact (grid.covers day).1.trans le

def days : Grid where
  start := id
  mono := strictMono_id
  index := id
  covers day := by
    simp

def weeks : Grid where
  start week := 7 * week + 4
  mono _ _ before := by
    simp only
    omega
  index day := (day - 4) / 7
  covers day := by omega

def months : Grid where
  start := monthStart
  mono := monthStart_strictMono
  index := monthOf
  covers := monthStart_monthOf

end Grid

def downTo (high low : Int) : List Int :=
  (List.range (high + 1 - low).toNat).map fun j : Nat => high - j

theorem mem_downTo {high low i : Int} : i ∈ downTo high low ↔ low ≤ i ∧ i ≤ high := by
  simp only [downTo, List.mem_map, List.mem_range]
  constructor
  · rintro ⟨j, short, rfl⟩
    omega
  · intro within
    exact ⟨(high - i).toNat, by omega, by omega⟩

theorem downTo_cons {high low : Int} (le : low ≤ high) :
    downTo high low = high :: downTo (high - 1) low := by
  have size : (high + 1 - low).toNat = (high - 1 + 1 - low).toNat + 1 := by omega
  rw [downTo, size, List.range_succ_eq_map, List.map_cons, List.map_map, downTo]
  congr 1
  · omega
  · apply List.map_congr_left
    intro j _
    simp only [Function.comp_apply, Nat.succ_eq_add_one]
    omega

theorem downTo_nil {high low : Int} (lt : high < low) : downTo high low = [] := by
  have empty : (high + 1 - low).toNat = 0 := by omega
  rw [downTo, empty]
  rfl

theorem downTo_pairwise (high low : Int) : (downTo high low).Pairwise (· > ·) := by
  unfold downTo
  rw [List.pairwise_map]
  refine List.pairwise_lt_range.imp fun before => ?_
  omega

/-- Each index is followed by the one below. -/
theorem downTo_isChain (high low : Int) : (downTo high low).IsChain fun i j => i = j + 1 := by
  -- By induction on the number of the indices.
  induction size : (high + 1 - low).toNat generalizing high with
  | zero =>
    rw [downTo_nil (by omega)]
    exact .nil
  | succ n ih =>
    have tail := ih (high - 1) (by omega)
    rw [downTo_cons (by omega)]
    rcases Int.lt_or_le (high - 1) low with last | more
    · rw [downTo_nil last]
      exact .singleton _
    · rw [downTo_cons more] at tail ⊢
      refine List.isChain_cons_cons.mpr ⟨?_, tail⟩
      omega

end Calendar
