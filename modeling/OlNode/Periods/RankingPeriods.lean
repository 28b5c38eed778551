import OlNode.Periods.DateKeys
import Mathlib.Data.List.Chain

/-!
# Selectable ranking periods

A board is shown for a day, a week from Monday or a month, known by the date key of its first day.
`isRankingPeriodKeyAllowed` tests any key against the last 90 days, and `listRankingPeriodOptions`
walks back from the current bucket. The buckets of a period are a grid of days, and both come down to
the indices from that of the oldest allowed day to that of today. The lister does not pad years, so
it needs the oldest of these buckets to begin in the year 1000 or later.
-/
namespace OlNode.RankingPeriods

open JsDate Calendar DateKeys

inductive PlatformRankingPeriod where
  | daily | weekly | monthly
  deriving DecidableEq

abbrev DAY_MS : Int := msPerDay

def RANKING_HISTORY_MAX_DAYS : Int := 90

structure PeriodKeys where
  dayKey : String
  weekKey : String
  monthKey : String
  year : Int
  month : Int

/-- `none` is the RangeError of an invalid Monday. -/
def getPeriodKeys (now : Int) : Option PeriodKeys := do
  let y := getUTCFullYear now
  let m := getUTCMonth now
  let d := getUTCDate now
  let dow := if getUTCDay now = 0 then 7 else getUTCDay now
  let monday ← toISOString (UTC y m (d + -(dow - 1)) 0)
  some
    { dayKey := toString y ++ "-" ++ padded 2 (m + 1).toNat ++ "-" ++ padded 2 d.toNat
      weekKey := String.ofList (monday.toList.take 10)
      monthKey := toString y ++ "-" ++ padded 2 (m + 1).toNat ++ "-01"
      year := y
      month := m + 1 }

def PeriodKeys.key (keys : PeriodKeys) : PlatformRankingPeriod → String
  | .daily => keys.dayKey
  | .weekly => keys.weekKey
  | .monthly => keys.monthKey

structure DayRange where
  startDay : Int
  endDayExclusive : Date

def dayRangeFrom (period : PlatformRankingPeriod) (start : Int) : Option DayRange :=
  match period with
  | .daily => some { startDay := start, endDayExclusive := timeClip (start + DAY_MS) }
  | .weekly =>
    let dow := if getUTCDay start = 0 then 7 else getUTCDay start
    if dow ≠ 1 then none
    else some { startDay := start, endDayExclusive := timeClip (start + 7 * DAY_MS) }
  | .monthly =>
    if getUTCDate start ≠ 1 then none
    else some
      { startDay := start
        endDayExclusive := UTC (getUTCFullYear start) (getUTCMonth start + 1) 1 0 }

def rankingPeriodDayRange (period : PlatformRankingPeriod) (periodKey : String) :
    Option DayRange :=
  (parseUtcDateKey periodKey).bind (dayRangeFrom period)

def rankingPeriodEndsAt (period : PlatformRankingPeriod) (periodKey : String) : Option Date :=
  (rankingPeriodDayRange period periodKey).map (·.endDayExclusive)

/-- `none` is the TypeError of a day key that cannot be parsed. -/
def oldestAllowedDay (now : Int) : Option Int := do
  let keys ← getPeriodKeys now
  let today ← parseUtcDateKey keys.dayKey
  some (today - (RANKING_HISTORY_MAX_DAYS - 1) * DAY_MS)

def isRankingPeriodKeyAllowed (period : PlatformRankingPeriod) (periodKey : String) (now : Int) :
    Option Bool :=
  match rankingPeriodDayRange period periodKey with
  | none => some false
  | some range => do
    let oldest ← oldestAllowedDay now
    let current ← getPeriodKeys now
    if current.key period < periodKey then some false
    else some (range.endDayExclusive.any (oldest < ·))

structure RankingPeriodOption where
  periodKey : String
  endsAt : String
  isCurrent : Bool
  label : String
  deriving DecidableEq

/-- What is pushed for a bucket; `none` if its end is not there or not a date. -/
def option (period : PlatformRankingPeriod) (periodKey currentKey currentLabel : String)
    (label : String → String) : Option RankingPeriodOption := do
  let endsAt ← rankingPeriodEndsAt period periodKey
  let endsAt ← toISOString endsAt
  some
    { periodKey
      endsAt
      isCurrent := periodKey = currentKey
      label := if periodKey = currentKey then currentLabel else label periodKey }

def dailyOption (currentKey periodKey : String) : Option RankingPeriodOption :=
  option .daily periodKey currentKey "Current Day" id

def weeklyOption (currentKey periodKey : String) : Option RankingPeriodOption :=
  option .weekly periodKey currentKey "Current Week" ("Week of " ++ ·)

def monthlyOption (currentKey periodKey : String) : Option RankingPeriodOption :=
  option .monthly periodKey currentKey "Current Month" fun key =>
    String.ofList (key.toList.take 7)

def dailyOptions (currentKey : String) (oldest cursor : Int) :
    Option (List RankingPeriodOption) :=
  if oldest ≤ cursor then do
    let first ← dailyOption currentKey (formatUtcDateKey cursor)
    let rest ← dailyOptions currentKey oldest (cursor - DAY_MS)
    some (first :: rest)
  else some []
termination_by (cursor + DAY_MS - oldest).toNat
decreasing_by
  unfold DAY_MS msPerDay
  omega

/-- `pushed` options are in the list already. -/
def weeklyOptions (currentKey : String) (oldest : Int) (pushed : Nat) (cursor : Int) :
    Option (List RankingPeriodOption) :=
  if oldest < cursor + 7 * DAY_MS then do
    let first ← weeklyOption currentKey (formatUtcDateKey cursor)
    if 20 < pushed + 1 then some [first]
    else do
      let rest ← weeklyOptions currentKey oldest (pushed + 1) (cursor - 7 * DAY_MS)
      some (first :: rest)
  else some []
termination_by 21 - pushed
decreasing_by omega

/-- The rounds of the loop that are left, and the month it has come to. -/
def monthlyOptions (currentKey : String) (oldest : Int) :
    Nat → Int → Int → Option (List RankingPeriodOption)
  | 0, _, _ => some []
  | rounds + 1, y, m =>
    let periodKey := toString y ++ "-" ++ padded 2 m.toNat ++ "-01"
    match rankingPeriodDayRange .monthly periodKey with
    | none => some []
    | some range =>
      if range.endDayExclusive.any (· ≤ oldest) && periodKey ≠ currentKey then some []
      else do
        let first ← monthlyOption currentKey periodKey
        let rest ← if m - 1 < 1 then monthlyOptions currentKey oldest rounds (y - 1) 12
          else monthlyOptions currentKey oldest rounds y (m - 1)
        some (first :: rest)

def listRankingPeriodOptions (period : PlatformRankingPeriod) (now : Int) :
    Option (List RankingPeriodOption) := do
  let current ← getPeriodKeys now
  let oldest ← oldestAllowedDay now
  match period with
  | .daily =>
    let cursor ← parseUtcDateKey current.dayKey
    dailyOptions current.dayKey oldest cursor
  | .weekly =>
    let cursor ← parseUtcDateKey current.weekKey
    weeklyOptions current.weekKey oldest 0 cursor
  | .monthly => monthlyOptions current.monthKey oldest 4 current.year current.month

/-! ### Buckets -/

def grid : PlatformRankingPeriod → Grid
  | .daily => .days
  | .weekly => .weeks
  | .monthly => .months

def bucketKey (period : PlatformRankingPeriod) (i : Int) : String :=
  dateKey ((grid period).start i)

def bucketRange (period : PlatformRankingPeriod) (i : Int) : DayRange :=
  { startDay := (grid period).start i * DAY_MS
    endDayExclusive := some ((grid period).start (i + 1) * DAY_MS) }

theorem weekday_weeks (week : Int) : weekday (Grid.weeks.start week) = 1 := by
  simp only [weekday, Grid.weeks]
  omega

/-- A range is that of a bucket of the grid. -/
theorem dayRangeFrom_iff (period : PlatformRankingPeriod) {d : Int} (hasKey : HasKey d)
    {range : DayRange} : dayRangeFrom period (d * DAY_MS) = some range ↔
      ∃ i, d = (grid period).start i ∧ range = bucketRange period i := by
  have bounds := hasKey.day_bounds
  have clip : ∀ e, d ≤ e → e ≤ d + 31 → timeClip (e * DAY_MS) = some (e * DAY_MS) := by
    intro e first last
    rw [timeClip_eq_some_iff]
    unfold maxTime DAY_MS msPerDay
    omega
  cases period with
  | daily =>
    have next : d * DAY_MS + DAY_MS = (d + 1) * DAY_MS := by
      unfold DAY_MS msPerDay
      omega
    simp only [dayRangeFrom, next, clip _ (show d ≤ d + 1 by omega) (by omega),
      Option.some.injEq, bucketRange, grid, Grid.days, id]
    constructor
    · rintro rfl
      exact ⟨d, rfl, rfl⟩
    · rintro ⟨i, rfl, rfl⟩
      rfl
  | weekly =>
    have next : d * DAY_MS + 7 * DAY_MS = (d + 7) * DAY_MS := by
      unfold DAY_MS msPerDay
      omega
    have same : getUTCDay (d * DAY_MS) = weekday d := by rw [getUTCDay, day_midnight]
    simp only [dayRangeFrom, next, clip _ (show d ≤ d + 7 by omega) (by omega), same, bucketRange,
      grid, Grid.weeks]
    constructor
    · intro ranged
      by_cases monday : weekday d = 1
      · refine ⟨(d - 4) / 7, ?_, ?_⟩
        · unfold weekday at monday
          omega
        · have days : 7 * ((d - 4) / 7) + 4 = d ∧ 7 * ((d - 4) / 7 + 1) + 4 = d + 7 := by
            unfold weekday at monday
            omega
          rw [days.1, days.2]
          simpa [monday] using ranged.symm
      · split at ranged <;> simp_all
    · rintro ⟨i, rfl, rfl⟩
      have days : 7 * i + 4 + 7 = 7 * (i + 1) + 4 := by omega
      have monday : weekday (7 * i + 4) = 1 := weekday_weeks i
      simp [monday, days]
  | monthly =>
    have ends := UTC_monthOf d 1 1 0
    have notOver := (monthStart_monthOf d).2
    have longest := (monthLength_bounds (monthOf d)).2
    have whole := monthStart_add_dateOf d
    unfold monthLength at longest
    rw [monthsOff, if_neg hasKey.fourDigits, Int.add_zero, Int.sub_self, Int.add_zero,
      Int.zero_mul, Int.add_zero] at ends
    simp only [dayRangeFrom, getUTCDate, getUTCFullYear, getUTCMonth, day_midnight, ends,
      bucketRange, grid, Grid.months]
    constructor
    · intro ranged
      by_cases first : dateOf d = 1
      · have starts : monthStart (monthOf d) = d := by omega
        refine ⟨monthOf d, starts.symm, ?_⟩
        rw [starts]
        rw [clip _ (by omega) (by omega)] at ranged
        simpa [first] using ranged.symm
      · simp [first] at ranged
    · rintro ⟨i, rfl, rfl⟩
      rw [monthOf_monthStart] at longest notOver ⊢
      have first : dateOf (monthStart i) = 1 := by
        rw [monthOf_monthStart] at whole
        omega
      rw [clip _ (by omega) (by omega)]
      simp [first]

/-- The keys that have a range are those of the buckets. -/
theorem rankingPeriodDayRange_iff {period : PlatformRankingPeriod} {key : String}
    {range : DayRange} : rankingPeriodDayRange period key = some range ↔
      ∃ i, HasKey ((grid period).start i) ∧ key = bucketKey period i ∧
        range = bucketRange period i := by
  unfold rankingPeriodDayRange
  rw [Option.bind_eq_some_iff]
  constructor
  · rintro ⟨start, parsed, ranged⟩
    obtain ⟨d, hasKey, rfl, rfl⟩ := parseUtcDateKey_iff.mp parsed
    obtain ⟨i, rfl, rfl⟩ := (dayRangeFrom_iff period hasKey).mp ranged
    exact ⟨i, hasKey, rfl, rfl⟩
  · rintro ⟨i, hasKey, rfl, rfl⟩
    exact ⟨_, parseUtcDateKey_iff.mpr ⟨_, hasKey, rfl, rfl⟩,
      (dayRangeFrom_iff period hasKey).mpr ⟨i, rfl, rfl⟩⟩

/-! ### Today and the horizon -/

/-- The year of the oldest bucket that reaches into the last 90 days has four digits, and so has
this one. -/
structure FourDigitYears (period : PlatformRankingPeriod) (now : Int) : Prop where
  oldest : 1000 ≤ monthOf ((grid period).start ((grid period).index (day now - 89))) / 12
  current : monthOf (day now) / 12 ≤ 9999

section FourDigits

variable {period : PlatformRankingPeriod} {now : Int}

theorem FourDigitYears.years (four : FourDigitYears period now) {d : Int}
    (first : (grid period).start ((grid period).index (day now - 89)) ≤ d)
    (last : d ≤ day now) : 1000 ≤ monthOf d / 12 ∧ monthOf d / 12 ≤ 9999 := by
  have lower := monthOf_mono first
  have upper := monthOf_mono last
  have bounds := four.oldest
  have bounds' := four.current
  omega

theorem FourDigitYears.today (four : FourDigitYears period now) :
    1000 ≤ monthOf (day now) / 12 ∧ HasKey (day now) := by
  have begun := ((grid period).covers (day now - 89)).1
  have years := four.years (show _ ≤ day now by omega) le_rfl
  unfold HasKey
  omega

theorem FourDigitYears.bucket (four : FourDigitYears period now) {i : Int}
    (first : (grid period).index (day now - 89) ≤ i) (last : i ≤ (grid period).index (day now)) :
    1000 ≤ monthOf ((grid period).start i) / 12 ∧ HasKey ((grid period).start i) := by
  have years := four.years ((grid period).mono.monotone first)
    ((grid period).le_index_iff.mp last)
  unfold HasKey
  omega

end FourDigits

/-! ### Keys of today -/

theorem monthKey_eq {month : Int} (four : 1000 ≤ month / 12) (short : month / 12 ≤ 9999) :
    toString (month / 12) ++ "-" ++ padded 2 (month % 12 + 1).toNat ++ "-01" =
      bucketKey .monthly month := by
  have days : day (monthStart month * msPerDay) = monthStart month := day_midnight _
  have first : dateOf (monthStart month) = 1 := by
    have whole := monthStart_add_dateOf (monthStart month)
    rw [monthOf_monthStart] at whole
    omega
  have text := @formatUtcDateKey_eq (monthStart month * msPerDay)
    (by rwa [days, monthOf_monthStart])
    (by rw [days, HasKey, monthOf_monthStart]; omega)
  unfold formatUtcDateKey getUTCFullYear getUTCMonth getUTCDate at text
  rw [days, monthOf_monthStart, first] at text
  have one : "-" ++ padded 2 (1 : Int).toNat = "-01" := by decide
  rw [String.append_assoc, one] at text
  exact text

section Today

variable {now : Int}

private theorem weekKey_eq (four : 1000 ≤ monthOf (day now) / 12)
    (short : monthOf (day now) / 12 ≤ 9999) :
    (toISOString (UTC (getUTCFullYear now) (getUTCMonth now)
        (getUTCDate now + -((if getUTCDay now = 0 then 7 else getUTCDay now) - 1)) 0)).map
        (fun monday => String.ofList (monday.toList.take 10)) =
      some (bucketKey .weekly ((grid .weekly).index (day now))) := by
  have fourDigits : ¬ TwoDigitYear (day now) := by
    unfold TwoDigitYear
    omega
  have monday : day now + -((if getUTCDay now = 0 then 7 else getUTCDay now) - 1) =
      7 * ((day now - 4) / 7) + 4 := by
    unfold getUTCDay weekday
    split <;> omega
  have made := UTC_dateOf fourDigits
    (-((if getUTCDay now = 0 then 7 else getUTCDay now) - 1)) 0
  rw [monday, Int.zero_mul, Int.add_zero] at made
  have hasKey : HasKey (7 * ((day now - 4) / 7) + 4) := by
    -- The Monday is at most six days back.
    have first := (monthStart_monthOf (day now)).1
    have before := (monthLength_bounds (monthOf (day now) - 1)).1
    unfold monthLength at before
    rw [Int.sub_add_cancel] at before
    have lower : ¬ monthOf (7 * ((day now - 4) / 7) + 4) < monthOf (day now) - 1 := by
      rw [monthOf_lt_iff]
      omega
    have upper := monthOf_mono (show 7 * ((day now - 4) / 7) + 4 ≤ day now by omega)
    unfold HasKey
    omega
  unfold getUTCFullYear getUTCMonth getUTCDate
  rw [made, hasKey.timeClip]
  simp only [toISOString, Option.map_some, Option.some.injEq]
  unfold isoString
  have length := dateKey_length hasKey
  unfold dateKey at length
  apply String.toList_injective
  rw [String.toList_ofList, String.append_assoc, String.append_assoc, String.toList_append,
    List.take_left' length]
  rfl

end Today

/-- The keys of the buckets of today. -/
theorem getPeriodKeys_eq {now : Int} (four : 1000 ≤ monthOf (day now) / 12)
    (short : monthOf (day now) / 12 ≤ 9999) :
    getPeriodKeys now = some
      { dayKey := bucketKey .daily ((grid .daily).index (day now))
        weekKey := bucketKey .weekly ((grid .weekly).index (day now))
        monthKey := bucketKey .monthly ((grid .monthly).index (day now))
        year := monthOf (day now) / 12
        month := monthOf (day now) % 12 + 1 } := by
  have dayKey := formatUtcDateKey_eq four (show HasKey (day now) by unfold HasKey; omega)
  have monthKey := monthKey_eq four short
  have weekKey := weekKey_eq four short
  obtain ⟨monday, made, cut⟩ := Option.map_eq_some_iff.mp weekKey
  unfold formatUtcDateKey at dayKey
  unfold getPeriodKeys
  simp only [made, Option.bind_eq_bind, Option.bind_some, cut, dayKey]
  unfold getUTCFullYear getUTCMonth
  rw [monthKey]
  rfl

section Selectable

variable {period : PlatformRankingPeriod} {now : Int}

theorem getPeriodKeys_key (four : FourDigitYears period now) :
    ∃ keys, getPeriodKeys now = some keys ∧
      keys.key period = bucketKey period ((grid period).index (day now)) := by
  refine ⟨_, getPeriodKeys_eq four.today.1 four.current, ?_⟩
  cases period <;> rfl

theorem oldestAllowedDay_eq (four : FourDigitYears period now) :
    oldestAllowedDay now = some ((day now - 89) * DAY_MS) := by
  have parsed : parseUtcDateKey (bucketKey .daily ((grid .daily).index (day now))) =
      some (day now * msPerDay) :=
    parseUtcDateKey_iff.mpr ⟨day now, four.today.2, rfl, rfl⟩
  unfold oldestAllowedDay
  simp only [getPeriodKeys_eq four.today.1 four.current, Option.bind_eq_bind, Option.bind_some,
    parsed, Option.some.injEq]
  unfold RANKING_HISTORY_MAX_DAYS DAY_MS msPerDay
  omega

/-- The buckets that are selectable: from that of the oldest allowed day to that of today. -/
def Selectable (period : PlatformRankingPeriod) (now i : Int) : Prop :=
  (grid period).index (day now - 89) ≤ i ∧ i ≤ (grid period).index (day now)

variable {i : Int}

theorem oldest_lt_end_iff :
    (bucketRange period i).endDayExclusive.any ((day now - 89) * DAY_MS < ·) = true ↔
      (grid period).index (day now - 89) ≤ i := by
  simp only [bucketRange, Option.any_some, decide_eq_true_eq, Grid.index_le_iff]
  unfold DAY_MS msPerDay
  omega

theorem isRankingPeriodKeyAllowed_iff (four : FourDigitYears period now) {key : String} :
    isRankingPeriodKeyAllowed period key now = some true ↔
      ∃ i, Selectable period now i ∧ key = bucketKey period i := by
  obtain ⟨keys, current, currentKey⟩ := getPeriodKeys_key four
  have oldest := oldestAllowedDay_eq four
  have started := (grid period).index_mono (show day now - 89 ≤ day now by omega)
  have today := four.bucket started le_rfl
  unfold isRankingPeriodKeyAllowed
  cases ranged : rankingPeriodDayRange period key with
  | none =>
    simp only [Option.some.injEq, Bool.false_eq_true, false_iff]
    rintro ⟨i, ⟨first, last⟩, rfl⟩
    have range := rankingPeriodDayRange_iff.mpr ⟨i, (four.bucket first last).2, rfl, rfl⟩
    simp [range] at ranged
  | some range =>
    obtain ⟨i, hasKey, rfl, rfl⟩ := rankingPeriodDayRange_iff.mp ranged
    have later : bucketKey period ((grid period).index (day now)) < bucketKey period i ↔
        (grid period).index (day now) < i := by
      unfold bucketKey
      rw [dateKey_lt_iff today.2 hasKey, (grid period).mono.lt_iff_lt]
    have only : (∃ j, Selectable period now j ∧ bucketKey period i = bucketKey period j) ↔
        Selectable period now i := by
      constructor
      · rintro ⟨j, within, same⟩
        have hasKey' := (four.bucket within.1 within.2).2
        rwa [(grid period).mono.injective (dateKey_injective hasKey hasKey' same)]
      · exact fun within => ⟨i, within, rfl⟩
    rw [only, oldest, current]
    simp only [Option.bind_eq_bind, Option.bind_some, currentKey, later]
    unfold Selectable
    split
    next late =>
      simp only [Option.some.injEq, Bool.false_eq_true, false_iff]
      omega
    next notLate =>
      rw [Option.some.injEq, oldest_lt_end_iff]
      omega

/-! ### The loops of the lister -/

/-- The result is a list, and its keys are those of the buckets from `i` down to the oldest. -/
def ListsFrom (period : PlatformRankingPeriod) (now i : Int)
    (result : Option (List RankingPeriodOption)) : Prop :=
  ∃ options, result = some options ∧ options.map (·.periodKey) =
    (downTo i ((grid period).index (day now - 89))).map (bucketKey period)

theorem ListsFrom.nil (before : i < (grid period).index (day now - 89)) :
    ListsFrom period now i (some []) :=
  ⟨[], rfl, by rw [downTo_nil before]; rfl⟩

theorem ListsFrom.cons (reached : (grid period).index (day now - 89) ≤ i)
    {first : RankingPeriodOption} (key : first.periodKey = bucketKey period i)
    {rest : Option (List RankingPeriodOption)} (lists : ListsFrom period now (i - 1) rest) :
    ListsFrom period now i (rest.bind fun rest => some (first :: rest)) := by
  obtain ⟨options, rfl, keys⟩ := lists
  refine ⟨first :: options, rfl, ?_⟩
  rw [downTo_cons reached, List.map_cons, List.map_cons, keys, key]

theorem option_of_bucket (hasKey : HasKey ((grid period).start i))
    (currentKey currentLabel : String) (label : String → String) :
    ∃ first, option period (bucketKey period i) currentKey currentLabel label = some first ∧
      first.periodKey = bucketKey period i := by
  have range := rankingPeriodDayRange_iff.mpr ⟨i, hasKey, rfl, rfl⟩
  unfold option rankingPeriodEndsAt
  rw [range]
  exact ⟨_, rfl, rfl⟩

theorem formatUtcDateKey_bucket
    (bucket : 1000 ≤ monthOf ((grid period).start i) / 12 ∧ HasKey ((grid period).start i)) :
    formatUtcDateKey ((grid period).start i * DAY_MS) = bucketKey period i := by
  have made := @formatUtcDateKey_eq ((grid period).start i * DAY_MS)
  rw [day_midnight] at made
  exact made bucket.1 bucket.2

theorem dailyOptions_lists (four : FourDigitYears .daily now) (currentKey : String) (n : Nat)
    (left : i = day now - 90 + n) (last : i ≤ day now) :
    ListsFrom .daily now i
      (dailyOptions currentKey ((day now - 89) * DAY_MS) ((grid .daily).start i * DAY_MS)) := by
  -- By induction on the days that are left, from the oldest.
  induction n generalizing i with
  | zero =>
    have gone : ¬ (day now - 89) * DAY_MS ≤ (grid .daily).start i * DAY_MS := by
      simp only [grid, Grid.days, id, DAY_MS, msPerDay]
      omega
    rw [dailyOptions, if_neg gone]
    apply ListsFrom.nil
    simp only [grid, Grid.days, id]
    omega
  | succ n ih =>
    have reached : (grid .daily).index (day now - 89) ≤ i := by
      simp only [grid, Grid.days, id]
      omega
    have bucket := four.bucket reached last
    obtain ⟨first, pushed, key⟩ := option_of_bucket bucket.2 currentKey "Current Day" id
    have within : (day now - 89) * DAY_MS ≤ (grid .daily).start i * DAY_MS := by
      simp only [grid, Grid.days, id, DAY_MS, msPerDay]
      omega
    have cursor : (grid .daily).start i * DAY_MS - DAY_MS = (grid .daily).start (i - 1) * DAY_MS := by
      simp only [grid, Grid.days, id, DAY_MS, msPerDay]
      omega
    rw [dailyOptions, if_pos within, formatUtcDateKey_bucket bucket, dailyOption, pushed, cursor]
    exact ListsFrom.cons reached key (ih (by omega) (by omega))

/-- There are fewer weeks than the 20 of the cap. -/
theorem weeklyOptions_lists (four : FourDigitYears .weekly now) (currentKey : String)
    (n pushed : Nat) (capped : pushed + n ≤ 20)
    (left : i = (grid .weekly).index (day now - 89) - 1 + n)
    (last : i ≤ (grid .weekly).index (day now)) :
    ListsFrom .weekly now i (weeklyOptions currentKey ((day now - 89) * DAY_MS) pushed
      ((grid .weekly).start i * DAY_MS)) := by
  induction n generalizing pushed i with
  | zero =>
    have gone : ¬ (day now - 89) * DAY_MS < (grid .weekly).start i * DAY_MS + 7 * DAY_MS := by
      simp only [grid, Grid.weeks, DAY_MS, msPerDay] at left ⊢
      omega
    rw [weeklyOptions, if_neg gone]
    apply ListsFrom.nil
    omega
  | succ n ih =>
    have reached : (grid .weekly).index (day now - 89) ≤ i := by omega
    have bucket := four.bucket reached last
    obtain ⟨first, pushes, key⟩ :=
      option_of_bucket bucket.2 currentKey "Current Week" ("Week of " ++ ·)
    have within : (day now - 89) * DAY_MS < (grid .weekly).start i * DAY_MS + 7 * DAY_MS := by
      simp only [grid, Grid.weeks, DAY_MS, msPerDay] at left ⊢
      omega
    have cursor : (grid .weekly).start i * DAY_MS - 7 * DAY_MS =
        (grid .weekly).start (i - 1) * DAY_MS := by
      simp only [grid, Grid.weeks, DAY_MS, msPerDay]
      omega
    rw [weeklyOptions, if_pos within, formatUtcDateKey_bucket bucket, weeklyOption, pushes, cursor]
    have below : ¬ 20 < pushed + 1 := by omega
    simp only [Option.bind_eq_bind, Option.bind_some, if_neg below]
    exact ListsFrom.cons reached key (ih (pushed + 1) (by omega) (by omega) (by omega))

/-- The month before the oldest ends the loop, also where its year has only three digits. -/
theorem monthlyOptions_stop (four : FourDigitYears .monthly now) {keys : PeriodKeys}
    (current : getPeriodKeys now = some keys) (rounds : Nat) {month : Int}
    (before : month = (grid .monthly).index (day now - 89) - 1) :
    monthlyOptions keys.monthKey ((day now - 89) * DAY_MS) rounds (month / 12)
      (month % 12 + 1) = some [] := by
  have started := (grid .monthly).index_mono (show day now - 89 ≤ day now by omega)
  have oldest := four.bucket le_rfl started
  obtain ⟨-, today⟩ := four.bucket started le_rfl
  rw [getPeriodKeys_eq four.today.1 four.current, Option.some.injEq] at current
  subst current
  cases rounds with
  | zero => rfl
  | succ rounds =>
    simp only [grid, Grid.months, monthOf_monthStart] at oldest before started today
    have year := oldest.1
    rw [monthlyOptions]
    by_cases four : 1000 ≤ month / 12
    · have hasKey : HasKey (monthStart month) := by
        have short := oldest.2.2
        rw [monthOf_monthStart] at short
        rw [HasKey, monthOf_monthStart]
        omega
      have range := (@rankingPeriodDayRange_iff .monthly).mpr ⟨month, hasKey, rfl, rfl⟩
      have gone : (bucketRange .monthly month).endDayExclusive.any
          (· ≤ (day now - 89) * DAY_MS) = true := by
        have begun := (monthStart_monthOf (day now - 89)).1
        have next : month + 1 = monthOf (day now - 89) := by omega
        simp only [bucketRange, grid, Grid.months, next, Option.any_some, decide_eq_true_eq]
        unfold DAY_MS msPerDay
        omega
      have past : bucketKey .monthly month ≠
          bucketKey .monthly ((grid .monthly).index (day now)) := by
        intro same
        have equal := monthStart_strictMono.injective (dateKey_injective hasKey today same)
        omega
      have short := hasKey.2
      rw [monthOf_monthStart] at short
      rw [monthKey_eq four short]
      simp [range, gone, past]
    · -- The text of December 999 has nine characters.
      have december : month = 11999 := by omega
      have text : rankingPeriodDayRange .monthly (toString ((11999 : Int) / 12) ++ "-" ++
          padded 2 ((11999 : Int) % 12 + 1).toNat ++ "-01") = none := by decide
      rw [december, text]

theorem monthlyOptions_lists (four : FourDigitYears .monthly now) {keys : PeriodKeys}
    (current : getPeriodKeys now = some keys) (n : Nat) {rounds : Nat} (enough : n ≤ rounds)
    {month : Int} (left : month = (grid .monthly).index (day now - 89) - 1 + n)
    (last : month ≤ (grid .monthly).index (day now)) :
    ListsFrom .monthly now month (monthlyOptions keys.monthKey ((day now - 89) * DAY_MS) rounds
      (month / 12) (month % 12 + 1)) := by
  induction n generalizing rounds month with
  | zero =>
    rw [monthlyOptions_stop four current rounds (by omega)]
    apply ListsFrom.nil
    omega
  | succ n ih =>
    obtain ⟨rounds, rfl⟩ : ∃ more, rounds = more + 1 := ⟨rounds - 1, by omega⟩
    have reached : (grid .monthly).index (day now - 89) ≤ month := by omega
    obtain ⟨padded, hasKey⟩ := four.bucket reached last
    obtain ⟨first, pushed, key⟩ := option_of_bucket hasKey keys.monthKey "Current Month"
      fun key => String.ofList (key.toList.take 7)
    have range := rankingPeriodDayRange_iff.mpr ⟨month, hasKey, rfl, rfl⟩
    have notOver : (bucketRange .monthly month).endDayExclusive.any
        (· ≤ (day now - 89) * DAY_MS) = false := by
      have ends := oldest_lt_end_iff.mpr reached
      simp only [bucketRange, Option.any_some, decide_eq_true_eq, decide_eq_false_iff_not]
        at ends ⊢
      omega
    have rest := @ih rounds (by omega) (month - 1) (by omega) (by omega)
    simp only [grid, Grid.months, monthOf_monthStart] at padded
    have short := hasKey.2
    simp only [grid, Grid.months, monthOf_monthStart] at short
    rw [monthlyOptions, monthKey_eq padded short]
    simp only [range, notOver, Bool.false_and, Bool.false_eq_true, if_false, monthlyOption, pushed,
      Option.bind_eq_bind, Option.bind_some]
    -- December comes before January.
    split
    next january =>
      apply ListsFrom.cons reached key
      have year : (month - 1) / 12 = month / 12 - 1 := by omega
      have number : (month - 1) % 12 + 1 = 12 := by omega
      rwa [year, number] at rest
    next later =>
      apply ListsFrom.cons reached key
      have year : (month - 1) / 12 = month / 12 := by omega
      have number : (month - 1) % 12 + 1 = month % 12 + 1 - 1 := by omega
      rwa [year, number] at rest

theorem listRankingPeriodOptions_lists (four : FourDigitYears period now) :
    ListsFrom period now ((grid period).index (day now)) (listRankingPeriodOptions period now) := by
  have keys := getPeriodKeys_eq four.today.1 four.current
  have oldest := oldestAllowedDay_eq four
  have started := (grid period).index_mono (show day now - 89 ≤ day now by omega)
  have today := (four.bucket started le_rfl).2
  unfold listRankingPeriodOptions
  rw [keys, oldest]
  cases period with
  | daily =>
    have parsed : parseUtcDateKey (bucketKey .daily ((grid .daily).index (day now))) =
        some (day now * DAY_MS) := parseUtcDateKey_iff.mpr ⟨day now, today, rfl, rfl⟩
    simp only [Option.bind_eq_bind, Option.bind_some, parsed]
    exact dailyOptions_lists four _ 90 (show day now = _ by omega) le_rfl
  | weekly =>
    have parsed : parseUtcDateKey (bucketKey .weekly ((grid .weekly).index (day now))) =
        some ((grid .weekly).start ((grid .weekly).index (day now)) * DAY_MS) :=
      parseUtcDateKey_iff.mpr ⟨_, today, rfl, rfl⟩
    have few : (grid .weekly).index (day now) - (grid .weekly).index (day now - 89) ≤ 13 := by
      simp only [grid, Grid.weeks]
      omega
    obtain ⟨n, size⟩ := Int.eq_ofNat_of_zero_le (show 0 ≤
      (grid .weekly).index (day now) - ((grid .weekly).index (day now - 89) - 1) by omega)
    simp only [Option.bind_eq_bind, Option.bind_some, parsed]
    exact weeklyOptions_lists four _ n 0 (by omega) (by omega) le_rfl
  | monthly =>
    have few : monthOf (day now) ≤ monthOf (day now - 89) + 3 := by
      -- Otherwise three whole months lie between the two days.
      have own := (monthStart_monthOf (day now)).1
      have next := (monthStart_monthOf (day now - 89)).2
      have quarter := monthStart_add_three (monthOf (day now - 89) + 1)
      have before : monthOf (day now) < monthOf (day now - 89) + 1 + 3 := by
        rw [monthOf_lt_iff]
        omega
      omega
    obtain ⟨n, size⟩ := Int.eq_ofNat_of_zero_le (show 0 ≤
      (grid .monthly).index (day now) - ((grid .monthly).index (day now - 89) - 1) by omega)
    have indices : (grid .monthly).index (day now) = monthOf (day now) ∧
        (grid .monthly).index (day now - 89) = monthOf (day now - 89) := ⟨rfl, rfl⟩
    exact monthlyOptions_lists four keys n (show n ≤ 4 by omega) (by omega) le_rfl

/-- The lister offers what the test accepts. -/
theorem listRankingPeriodOptions_selectable (four : FourDigitYears period now) :
    ∃ options, listRankingPeriodOptions period now = some options ∧
      (∀ key, key ∈ options.map (·.periodKey) ↔
        isRankingPeriodKeyAllowed period key now = some true) ∧
      (options.map (·.periodKey)).Pairwise (· > ·) ∧
      (∃ ranges : List DayRange,
        options.map (fun option => rankingPeriodDayRange period option.periodKey) =
            ranges.map some ∧
          ranges.IsChain fun later earlier => earlier.endDayExclusive = some later.startDay) ∧
      ∃ keys range, getPeriodKeys now = some keys ∧
        rankingPeriodDayRange period (keys.key period) = some range ∧
        range.startDay ≤ now ∧ range.endDayExclusive.any (now < ·) = true := by
  obtain ⟨options, listed, keys⟩ := listRankingPeriodOptions_lists four
  have started := (grid period).index_mono (show day now - 89 ≤ day now by omega)
  have hasKey : ∀ i ∈ downTo ((grid period).index (day now))
      ((grid period).index (day now - 89)), HasKey ((grid period).start i) := by
    intro i member
    obtain ⟨first, last⟩ := mem_downTo.mp member
    exact (four.bucket first last).2
  refine ⟨options, listed, ?_, ?_, ?_, ?_⟩
  · intro key
    rw [isRankingPeriodKeyAllowed_iff four, keys, List.mem_map]
    simp only [mem_downTo, Selectable, eq_comm]
  · rw [keys, List.pairwise_map]
    refine (downTo_pairwise _ _).imp_of_mem fun member member' after => ?_
    exact (dateKey_lt_iff (hasKey _ member') (hasKey _ member)).mpr ((grid period).mono after)
  · refine ⟨(downTo ((grid period).index (day now)) ((grid period).index (day now - 89))).map
      (bucketRange period), ?_, ?_⟩
    · have ranges : options.map (fun option => rankingPeriodDayRange period option.periodKey) =
          (options.map (·.periodKey)).map (rankingPeriodDayRange period) := by
        rw [List.map_map]
        rfl
      rw [ranges, keys, List.map_map, List.map_map]
      apply List.map_congr_left
      intro i member
      exact rankingPeriodDayRange_iff.mpr ⟨i, hasKey i member, rfl, rfl⟩
    · rw [List.isChain_map]
      refine (downTo_isChain _ _).imp ?_
      rintro i j rfl
      rfl
  · obtain ⟨current, made, key⟩ := getPeriodKeys_key four
    obtain ⟨begun, notOver⟩ := (grid period).covers (day now)
    refine ⟨current, _, made, rankingPeriodDayRange_iff.mpr
      ⟨_, (four.bucket started le_rfl).2, key, rfl⟩, ?_, ?_⟩
    · unfold day msPerDay at *
      simp only [bucketRange]
      unfold DAY_MS msPerDay
      omega
    · unfold day msPerDay at *
      simp only [bucketRange, Option.any_some, decide_eq_true_eq]
      unfold DAY_MS msPerDay
      omega

end Selectable

theorem listRankingPeriodOptions_selectable_leapDay :
    FourDigitYears .weekly (19782 * msPerDay) ∧
      ∃ options, listRankingPeriodOptions .weekly (19782 * msPerDay) = some options ∧
        ∀ key, key ∈ options.map (·.periodKey) ↔
          isRankingPeriodKeyAllowed .weekly key (19782 * msPerDay) = some true := by
  have four : FourDigitYears .weekly (19782 * msPerDay) :=
    ⟨by decide, by decide⟩
  obtain ⟨options, listed, selectable, -⟩ := listRankingPeriodOptions_selectable four
  exact ⟨four, options, listed, selectable⟩

/-- On the first day of the year 1000, the month before is accepted as `0999-12-01`, but the loop
stops at its own text for it. -/
theorem listRankingPeriodOptions_year_1000 :
    ¬ ∀ period now, 1000 ≤ getUTCFullYear now → getUTCFullYear now ≤ 9999 → ∀ key,
      (∃ options, listRankingPeriodOptions period now = some options ∧
        key ∈ options.map (·.periodKey)) ↔
          isRankingPeriodKeyAllowed period key now = some true := by
  intro claim
  have listed := (claim .monthly (-354285 * msPerDay) (by decide) (by decide)
    "0999-12-01").mpr (by decide)
  obtain ⟨options, made, member⟩ := listed
  have only : listRankingPeriodOptions .monthly (-354285 * msPerDay) =
      some [⟨"1000-01-01", "1000-02-01T00:00:00.000Z", true, "Current Month"⟩] := by
    decide
  rw [only, Option.some.injEq] at made
  subst made
  simp at member

end OlNode.RankingPeriods
