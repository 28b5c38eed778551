import OlNode.JsDate

/-!
# Reporting windows from 23:30 to 23:30

`calculate1130DateRanges` gives the day, week and month around an instant, each from 23:30 IST, which
is 18:00 UTC. Weekday and month are taken from the calendar date, also before 23:30, when the day
that has begun is that of the date before. So the week is right from 23:30 to midnight only.
-/
namespace OlNode.Ist1130

open JsDate Calendar

structure Ist1130Range where
  start : Date
  ends : Date

structure Ist1130DateRanges where
  today : Ist1130Range
  thisWeek : Ist1130Range
  thisMonth : Ist1130Range

def istOffsetMs : Int := 19800000

/-- With all fields of an invalid date NaN, every comparison fails and every range is invalid. -/
def invalidRanges : Ist1130DateRanges :=
  { today := ⟨none, none⟩, thisWeek := ⟨none, none⟩, thisMonth := ⟨none, none⟩ }

/-- 18:00 UTC on the calendar day of `istDate`, or some days later. -/
def utc1800 (istDate : Int) (days : Int) : Date :=
  UTC (getUTCFullYear istDate) (getUTCMonth istDate) (getUTCDate istDate + days) 18

def todayRange (nowDate istDate : Int) : Ist1130Range :=
  let today2330Utc := utc1800 istDate 0
  if today2330Utc.any (· ≤ nowDate) then { start := today2330Utc, ends := utc1800 istDate 1 }
  else { start := utc1800 istDate (-1), ends := today2330Utc }

def daysSinceSunday (nowDate istDate : Int) : Int :=
  let dayOfWeek := getUTCDay istDate
  if dayOfWeek = 0 && (utc1800 istDate 0).any (nowDate < ·) then 7 else dayOfWeek

/-- The week from 18:00 UTC of a day some days before. -/
def weekRange (todayStartUtc : Date) (days : Int) : Ist1130Range :=
  let sundayStartUtc := todayStartUtc.bind fun start => timeClip (start - days * msPerDay)
  let weekStartUtc := sundayStartUtc.bind fun start => utc1800 start 0
  { start := weekStartUtc
    ends := weekStartUtc.bind fun start => timeClip (start + 7 * msPerDay) }

def monthRange (istDate : Int) : Ist1130Range :=
  { start := UTC (getUTCFullYear istDate) (getUTCMonth istDate) 1 18
    ends := UTC (getUTCFullYear istDate) (getUTCMonth istDate + 1) 1 18 }

def rangesAt (nowDate istDate : Int) : Ist1130DateRanges :=
  let today := todayRange nowDate istDate
  { today
    thisWeek := weekRange today.start (daysSinceSunday nowDate istDate)
    thisMonth := monthRange istDate }

def calculate1130DateRanges (nowDate : Int) : Ist1130DateRanges :=
  match timeClip (nowDate + istOffsetMs) with
  | none => invalidRanges
  | some istDate => rangesAt nowDate istDate

/-! ### What is reported -/

def Ist1130Range.contains (range : Ist1130Range) (now : Int) : Bool :=
  range.start.any (· ≤ now) && range.ends.any (now < ·)

/-- 23:30 of a Sunday in IST. -/
def isSunday2330 (start : Date) : Bool :=
  start.any fun start =>
    getUTCDay (start + istOffsetMs) = 0 && timeWithinDay (start + istOffsetMs) = 84600000

/-- The windows of one instant are around it. -/
structure Covers (ranges : Ist1130DateRanges) (now : Int) : Prop where
  today : ranges.today.contains now = true
  thisWeek : ranges.thisWeek.contains now = true
  sunday : isSunday2330 ranges.thisWeek.start = true
  thisMonth : ranges.thisMonth.contains now = true

def EqualOrDisjoint (first second : Ist1130Range) : Prop :=
  first = second ∨ ∀ now, ¬ (first.contains now = true ∧ second.contains now = true)

/-- The windows of two instants fit into one partition of the time line. -/
structure Tile (a b : Int) : Prop where
  first : Covers (calculate1130DateRanges a) a
  second : Covers (calculate1130DateRanges b) b
  today : EqualOrDisjoint (calculate1130DateRanges a).today (calculate1130DateRanges b).today
  thisWeek : EqualOrDisjoint (calculate1130DateRanges a).thisWeek
    (calculate1130DateRanges b).thisWeek
  thisMonth : EqualOrDisjoint (calculate1130DateRanges a).thisMonth
    (calculate1130DateRanges b).thisMonth

def istDay (now : Int) : Int := day (now + istOffsetMs)

/-- In a year that `Date.UTC` takes as it is, and not in the first or last month of the dates that
there are. -/
structure Dated (now : Int) : Prop where
  year : ¬ TwoDigitYear (istDay now)
  notFirst : monthOfYear (-271821) 4 ≤ monthOf (istDay now)
  notLast : monthOf (istDay now) ≤ monthOfYear 275760 7

structure Regular (now : Int) : Prop extends Dated now where
  late : 84600000 ≤ timeWithinDay (now + istOffsetMs)
  weekYear : ¬ TwoDigitYear (istDay now - weekday (istDay now))

/-! ### Boundaries -/

/-- 18:00 UTC, which is 23:30 IST of the same date. -/
def boundary (d : Int) : Int := d * msPerDay + 18 * 3600000

theorem day_boundary (d : Int) : day (boundary d) = d := by
  unfold day boundary msPerDay
  omega

theorem istDay_boundary (d : Int) : istDay (boundary d) = d := by
  unfold istDay day boundary msPerDay istOffsetMs
  omega

theorem timeWithinDay_boundary (d : Int) :
    timeWithinDay (boundary d + istOffsetMs) = 84600000 := by
  unfold timeWithinDay boundary msPerDay istOffsetMs
  omega

/-- An instant is within its day in IST, and late exactly from the boundary on. -/
theorem boundary_le_iff (now : Int) :
    boundary (istDay now) ≤ now ↔ 84600000 ≤ timeWithinDay (now + istOffsetMs) := by
  unfold boundary istDay day timeWithinDay msPerDay istOffsetMs
  omega

theorem istDay_bounds (now : Int) :
    boundary (istDay now - 1) ≤ now ∧ now < boundary (istDay now + 1) := by
  unfold boundary istDay day msPerDay istOffsetMs
  omega

theorem boundary_le_boundary {d e : Int} : boundary d ≤ boundary e ↔ d ≤ e := by
  unfold boundary msPerDay
  omega

theorem boundary_lt_boundary {d e : Int} : boundary d < boundary e ↔ d < e := by
  unfold boundary msPerDay
  omega

/-- The day that `Date.UTC` makes of the date of a day. -/
def readBack (d : Int) : Int := monthStart (monthOf d + monthsOff d) + (dateOf d - 1)

theorem readBack_eq {d : Int} (fourDigits : ¬ TwoDigitYear d) : readBack d = d := by
  rw [readBack, monthsOff, if_neg fourDigits, Int.add_zero, monthStart_add_dateOf]

theorem readBack_late {d : Int} (twoDigits : TwoDigitYear d) : d + 600000 ≤ readBack d := by
  have later := monthStart_add_le (monthOf d) 22800
  have whole := monthStart_add_dateOf d
  rw [readBack, monthsOff, if_pos twoDigits]
  have centuries : (12 * 1900 : Int) = 22800 := by norm_num
  rw [centuries]
  norm_cast at later
  omega

theorem utc1800_boundary (d : Int) : utc1800 (boundary d) 0 = timeClip (boundary (readBack d)) := by
  have same := UTC_monthOf d 0 (dateOf d) 18
  rw [Int.add_zero, Int.add_zero] at same
  unfold utc1800 getUTCFullYear getUTCMonth getUTCDate
  rw [day_boundary, Int.add_zero]
  exact same

theorem utc1800_istDate {now : Int} (year : ¬ TwoDigitYear (istDay now)) (days : Int) :
    utc1800 (now + istOffsetMs) days = timeClip (boundary (istDay now + days)) :=
  UTC_dateOf year days 18

/-- Representable. -/
def Valid (time : Int) : Prop := -maxTime ≤ time ∧ time ≤ maxTime

theorem timeClip_of_valid {time : Int} (valid : Valid time) : timeClip time = some time :=
  timeClip_eq_some_iff.mpr ⟨valid, rfl⟩

/-! ### The ranges by days -/

/-- The day at whose boundary the window of an instant begins. -/
def startDay (now : Int) : Int :=
  if boundary (istDay now) ≤ now then istDay now else istDay now - 1

/-- The day that the code takes for the Sunday of the week. -/
def weekDay (now : Int) : Int :=
  startDay now - if weekday (istDay now) = 0 ∧ ¬ boundary (istDay now) ≤ now then 7
    else weekday (istDay now)

theorem monthRange_eq (now : Int) :
    monthRange (now + istOffsetMs) =
      { start := timeClip (boundary
          (monthStart (monthOf (istDay now) + monthsOff (istDay now))))
        ends := timeClip (boundary
          (monthStart (monthOf (istDay now) + monthsOff (istDay now) + 1))) } := by
  have start := UTC_monthOf (istDay now) 0 1 18
  have ends := UTC_monthOf (istDay now) 1 1 18
  rw [Int.add_zero, Int.add_zero, Int.sub_self, Int.add_zero] at start
  rw [Int.sub_self, Int.add_zero] at ends
  unfold boundary
  rw [← start, ← ends]
  rfl

section Ordinary

variable {now : Int}

theorem todayRange_eq (year : ¬ TwoDigitYear (istDay now)) (valid : Valid (boundary (istDay now))) :
    todayRange now (now + istOffsetMs) =
      { start := timeClip (boundary (startDay now))
        ends := timeClip (boundary (startDay now + 1)) } := by
  unfold todayRange startDay
  simp only [utc1800_istDate year, Int.add_zero, timeClip_of_valid valid, Option.any_some,
    decide_eq_true_eq]
  split
  next => simp only [timeClip_of_valid valid]
  next =>
    rw [Int.sub_add_cancel, timeClip_of_valid valid]
    rfl

theorem daysSinceSunday_eq (year : ¬ TwoDigitYear (istDay now))
    (valid : Valid (boundary (istDay now))) :
    startDay now - daysSinceSunday now (now + istOffsetMs) = weekDay now := by
  unfold daysSinceSunday weekDay
  simp only [utc1800_istDate year, Int.add_zero, timeClip_of_valid valid, Option.any_some,
    Bool.and_eq_true, decide_eq_true_eq, Int.not_le]
  rfl

theorem weekRange_eq {d days : Int} (valid : Valid (boundary (d - days))) :
    weekRange (some (boundary d)) days =
      { start := timeClip (boundary (readBack (d - days)))
        ends := (timeClip (boundary (readBack (d - days)))).bind fun start =>
          timeClip (start + 7 * msPerDay) } := by
  have back : boundary d - days * msPerDay = boundary (d - days) := by
    unfold boundary msPerDay
    omega
  unfold weekRange
  simp only [Option.bind_some, back, timeClip_of_valid valid, utc1800_boundary]

end Ordinary

theorem contains_timeClip {start ends now : Int} :
    ({ start := timeClip start, ends := timeClip ends } : Ist1130Range).contains now = true ↔
      (Valid start ∧ start ≤ now) ∧ Valid ends ∧ now < ends := by
  simp only [Ist1130Range.contains, Bool.and_eq_true, timeClip_any, decide_eq_true_eq, Valid]

/-! ### The dates that there are -/

theorem valid_boundary_iff {d : Int} : Valid (boundary d) ↔ -100000000 ≤ d ∧ d < 100000000 := by
  unfold Valid boundary maxTime msPerDay
  omega

theorem notFirst_iff {month : Int} :
    monthOfYear (-271821) 4 ≤ month ↔ -100000000 ≤ monthStart month := by
  have may : monthStart (monthOfYear (-271821) 4) = -99999989 := by decide
  have april : monthStart (monthOfYear (-271821) 3) = -100000019 := by decide
  constructor
  · intro later
    have mono := monthStart_strictMono.monotone later
    omega
  · intro inside
    by_contra before
    have mono : monthStart month ≤ monthStart (monthOfYear (-271821) 3) :=
      monthStart_strictMono.monotone (by unfold monthOfYear at *; omega)
    omega

theorem notLast_iff {month : Int} :
    month ≤ monthOfYear 275760 7 ↔ monthStart (month + 1) < 100000000 := by
  have september : monthStart (monthOfYear 275760 8) = 99999988 := by decide
  have october : monthStart (monthOfYear 275760 9) = 100000018 := by decide
  constructor
  · intro earlier
    have mono : monthStart (month + 1) ≤ monthStart (monthOfYear 275760 8) :=
      monthStart_strictMono.monotone (by unfold monthOfYear at *; omega)
    omega
  · intro inside
    by_contra after
    have mono : monthStart (monthOfYear 275760 9) ≤ monthStart (month + 1) :=
      monthStart_strictMono.monotone (by unfold monthOfYear at *; omega)
    omega

/-! ### When the windows are right -/

section Covers

variable {now : Int}

/-- The month says where on the time line the instant is. -/
theorem dated_of_month (contains : (monthRange (now + istOffsetMs)).contains now = true) :
    Dated now := by
  rw [monthRange_eq, contains_timeClip, valid_boundary_iff, valid_boundary_iff] at contains
  obtain ⟨⟨⟨startValid, -⟩, started⟩, ⟨-, endsValid⟩, -⟩ := contains
  obtain ⟨begun, notOver⟩ := monthStart_monthOf (istDay now)
  have year : ¬ TwoDigitYear (istDay now) := by
    intro twoDigits
    have late := boundary_lt_boundary.mp (started.trans_lt (istDay_bounds now).2)
    rw [monthsOff, if_pos twoDigits] at late
    have centuries := monthStart_add_le (monthOf (istDay now) + 1) 22799
    have month : monthOf (istDay now) + 12 * 1900 = monthOf (istDay now) + 1 + 22799 := by omega
    rw [month] at late
    norm_cast at centuries
    omega
  rw [monthsOff, if_neg year, Int.add_zero] at startValid endsValid
  exact ⟨year, notFirst_iff.mpr startValid, notLast_iff.mpr endsValid⟩

theorem Dated.inside (dated : Dated now) : -99999989 ≤ istDay now ∧ istDay now < 99999988 := by
  have may : monthStart (monthOfYear (-271821) 4) = -99999989 := by decide
  have september : monthStart (monthOfYear 275760 7 + 1) = 99999988 := by decide
  obtain ⟨begun, notOver⟩ := monthStart_monthOf (istDay now)
  have lower := monthStart_strictMono.monotone dated.notFirst
  have upper : monthStart (monthOf (istDay now) + 1) ≤ monthStart (monthOfYear 275760 7 + 1) :=
    monthStart_strictMono.monotone (Int.add_le_add_right dated.notLast 1)
  omega

theorem weekDay_bounds (now : Int) : istDay now - 8 ≤ weekDay now ∧ weekDay now ≤ istDay now := by
  unfold weekDay startDay weekday
  split <;> split <;> omega

/-- Before 23:30, the day that is taken for the Sunday is a Saturday. -/
theorem weekday_weekDay (now : Int) :
    weekday (weekDay now) = if boundary (istDay now) ≤ now then 0 else 6 := by
  unfold weekDay startDay weekday
  split <;> split <;> omega

theorem Dated.calculate_eq (dated : Dated now) :
    calculate1130DateRanges now = rangesAt now (now + istOffsetMs) := by
  have inside := dated.inside
  have valid : Valid (now + istOffsetMs) := by
    unfold istDay day Valid maxTime msPerDay at *
    omega
  rw [calculate1130DateRanges, timeClip_of_valid valid]

theorem startDay_cases (now : Int) :
    startDay now = istDay now ∨ startDay now = istDay now - 1 := by
  unfold startDay
  split
  · exact .inl rfl
  · exact .inr rfl

theorem Dated.week_eq (dated : Dated now) :
    (calculate1130DateRanges now).thisWeek =
      { start := timeClip (boundary (readBack (weekDay now)))
        ends := (timeClip (boundary (readBack (weekDay now)))).bind fun start =>
          timeClip (start + 7 * msPerDay) } := by
  have inside := dated.inside
  have near := weekDay_bounds now
  have starts := startDay_cases now
  have valid : Valid (boundary (istDay now)) := valid_boundary_iff.mpr (by omega)
  have started : Valid (boundary (startDay now)) := valid_boundary_iff.mpr (by omega)
  have days := daysSinceSunday_eq dated.year valid
  have validWeek : Valid (boundary (startDay now - daysSinceSunday now (now + istOffsetMs))) := by
    rw [days, valid_boundary_iff]
    omega
  rw [dated.calculate_eq]
  unfold rangesAt
  simp only [todayRange_eq dated.year valid, timeClip_of_valid started]
  rw [weekRange_eq validWeek, days]

theorem Dated.calculate_days (dated : Dated now) (weekYear : ¬ TwoDigitYear (weekDay now)) :
    calculate1130DateRanges now =
      { today := ⟨some (boundary (startDay now)), some (boundary (startDay now + 1))⟩
        thisWeek := ⟨some (boundary (weekDay now)), some (boundary (weekDay now + 7))⟩
        thisMonth := ⟨some (boundary (monthStart (monthOf (istDay now)))),
          some (boundary (monthStart (monthOf (istDay now) + 1)))⟩ } := by
  have inside := dated.inside
  have near := weekDay_bounds now
  have starts := startDay_cases now
  obtain ⟨begun, notOver⟩ := monthStart_monthOf (istDay now)
  have first := notFirst_iff.mp dated.notFirst
  have last := notLast_iff.mp dated.notLast
  have clip : ∀ d, -100000000 ≤ d → d < 100000000 → timeClip (boundary d) = some (boundary d) :=
    fun d lower upper => timeClip_of_valid (valid_boundary_iff.mpr ⟨lower, upper⟩)
  have week := dated.week_eq
  have later : boundary (weekDay now) + 7 * msPerDay = boundary (weekDay now + 7) := by
    unfold boundary msPerDay
    omega
  rw [readBack_eq weekYear, clip _ (by omega) (by omega), Option.bind_some, later,
    clip _ (by omega) (by omega)] at week
  have month := monthRange_eq now
  rw [monthsOff, if_neg dated.year, Int.add_zero, clip _ first (by omega),
    clip _ (by omega) last] at month
  have today := todayRange_eq dated.year (valid_boundary_iff.mpr (by omega))
  rw [clip _ (by omega) (by omega), clip _ (by omega) (by omega)] at today
  rw [dated.calculate_eq] at week ⊢
  unfold rangesAt at week ⊢
  simp only at week ⊢
  rw [week, today, month]

theorem contains_boundaries {d e : Int} :
    ({ start := some (boundary d), ends := some (boundary e) } : Ist1130Range).contains now =
      true ↔ boundary d ≤ now ∧ now < boundary e := by
  simp [Ist1130Range.contains]

theorem isSunday2330_boundary (d : Int) :
    isSunday2330 (some (boundary d)) = decide (weekday d = 0) := by
  have same := istDay_boundary d
  unfold istDay at same
  simp [isSunday2330, getUTCDay, same, timeWithinDay_boundary]

private theorem weekYear_of_contains (dated : Dated now)
    (contains : (calculate1130DateRanges now).thisWeek.contains now = true) :
    ¬ TwoDigitYear (weekDay now) := by
  intro twoDigits
  have near := weekDay_bounds now
  have far := readBack_late twoDigits
  rw [dated.week_eq, Ist1130Range.contains, Bool.and_eq_true, timeClip_any] at contains
  have started : boundary (readBack (weekDay now)) ≤ now := by simpa using contains.1.2
  have before := boundary_lt_boundary.mp (started.trans_lt (istDay_bounds now).2)
  omega

/-- The windows are around the instant exactly if it is between 23:30 and midnight. -/
theorem covers_iff (now : Int) : Covers (calculate1130DateRanges now) now ↔ Regular now := by
  constructor
  · intro covers
    have dated : Dated now := by
      have month := covers.thisMonth
      unfold calculate1130DateRanges at month
      split at month
      next => simp [invalidRanges, Ist1130Range.contains] at month
      next istDate clipped =>
        obtain ⟨-, rfl⟩ := timeClip_eq_some_iff.mp clipped
        exact dated_of_month month
    have weekYear := weekYear_of_contains dated covers.thisWeek
    have sunday := covers.sunday
    rw [dated.calculate_days weekYear, isSunday2330_boundary, decide_eq_true_eq,
      weekday_weekDay] at sunday
    have late : boundary (istDay now) ≤ now := by
      by_contra early
      simp [early] at sunday
    have day : weekDay now = istDay now - weekday (istDay now) := by
      simp [weekDay, startDay, late]
    exact { dated with late := (boundary_le_iff now).mp late, weekYear := day ▸ weekYear }
  · intro regular
    have late := (boundary_le_iff now).mpr regular.late
    have day : weekDay now = istDay now - weekday (istDay now) := by
      simp [weekDay, startDay, late]
    have start : startDay now = istDay now := by simp [startDay, late]
    have ends := (istDay_bounds now).2
    obtain ⟨begun, notOver⟩ := monthStart_monthOf (istDay now)
    have weekdays : 0 ≤ weekday (istDay now) ∧ weekday (istDay now) < 7 := by
      unfold weekday
      omega
    rw [regular.toDated.calculate_days (day ▸ regular.weekYear)]
    constructor
    · rw [contains_boundaries, start]
      exact ⟨late, ends⟩
    · rw [contains_boundaries]
      exact ⟨(boundary_le_boundary.mpr (by omega)).trans late,
        ends.trans_le (boundary_le_boundary.mpr (by omega))⟩
    · rw [isSunday2330_boundary, weekday_weekDay, if_pos late]
      rfl
    · rw [contains_boundaries]
      exact ⟨(boundary_le_boundary.mpr begun).trans late,
        ends.trans_le (boundary_le_boundary.mpr (by omega))⟩

end Covers

/-! ### The windows of two instants -/

theorem equalOrDisjoint_boundaries {d e d' e' : Int} (apart : d = d' ∧ e = e' ∨ e ≤ d' ∨ e' ≤ d) :
    EqualOrDisjoint { start := some (boundary d), ends := some (boundary e) }
      { start := some (boundary d'), ends := some (boundary e') } := by
  rcases apart with ⟨rfl, rfl⟩ | before | after
  · exact .inl rfl
  · refine .inr fun now => ?_
    rw [contains_boundaries, contains_boundaries]
    have ordered := boundary_le_boundary.mpr before
    omega
  · refine .inr fun now => ?_
    rw [contains_boundaries, contains_boundaries]
    have ordered := boundary_le_boundary.mpr after
    omega

/-- The windows of two instants fit into one partition exactly if both are between 23:30 and
midnight. -/
theorem tile_iff (a b : Int) : Tile a b ↔ Regular a ∧ Regular b := by
  constructor
  · exact fun tile => ⟨(covers_iff a).mp tile.first, (covers_iff b).mp tile.second⟩
  · rintro ⟨first, second⟩
    have firstCovers := (covers_iff a).mpr first
    have secondCovers := (covers_iff b).mpr second
    have sundays := And.intro firstCovers.sunday secondCovers.sunday
    have days := first.toDated.calculate_days
      (weekYear_of_contains first.toDated firstCovers.thisWeek)
    have days' := second.toDated.calculate_days
      (weekYear_of_contains second.toDated secondCovers.thisWeek)
    rw [days, days', isSunday2330_boundary, isSunday2330_boundary, decide_eq_true_eq,
      decide_eq_true_eq] at sundays
    refine ⟨firstCovers, secondCovers, ?_, ?_, ?_⟩ <;> rw [days, days']
    · exact equalOrDisjoint_boundaries (by omega)
    · -- Two Sundays are whole weeks apart.
      apply equalOrDisjoint_boundaries
      unfold weekday at sundays
      omega
    · apply equalOrDisjoint_boundaries
      rcases lt_trichotomy (monthOf (istDay a)) (monthOf (istDay b)) with before | same | after
      · exact .inr (.inl (monthStart_strictMono.monotone before))
      · exact .inl (by simp [same])
      · exact .inr (.inr (monthStart_strictMono.monotone after))

/-- Noon of a Sunday in IST: the week has ended the evening before. -/
theorem not_tile : ¬ Tile 1709447400000 1709447400000 := by
  intro tile
  exact absurd tile.first.thisWeek (by decide)

end OlNode.Ist1130
