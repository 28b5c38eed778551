import OlNode.Agency.Level

/-!
# The tier lock of an agency

`snapshotAdminTierLock` assigns a level and stores the difference between its threshold and the
window total of that moment. While the lock lasts this difference is added to the total, and the
threshold is a floor: days that leave the window cannot lower the level, and what is earned since
raises it as soon as it fills the gap to the next level.
-/
namespace OlNode.AgencyLevel

/-! ### The snapshot -/

def computeTierLockBonus (minWindowPoints actualAtAssignment : Int) : Int :=
  minWindowPoints - actualAtAssignment

def lockUntilFromNow (now : Time) (totalMinutes : Nat) : Time :=
  now + max 1 totalMinutes * 60000

def invalidCommissionTier : LedgerError :=
  .app { status := 400, message := "Invalid commission tier", code := .invalidCommissionTier }

/-- The agency's row after the UPDATE; `actual` is the window total of this moment. -/
def snapshotAdminTierLock (cfg : LevelConfig) (level : String) (actual : Int) (now : Time)
    (agency : AgencyRow) : Except LedgerError AgencyRow :=
  match cfg.levels.find? fun row => decide (row.level = level) with
  | none => .error invalidCommissionTier
  | some tierRow =>
    .ok { agency with
      currentLevel := tierRow.level
      currentWindowTotalPoints := actual
      lastLevelRecomputedAt := some now
      lock :=
        { tierLockLevel := some tierRow.level
          tierLockUntil := some (lockUntilFromNow now (agencyCommissionWindowTotalMinutes cfg))
          tierLockBonusPoints := some (computeTierLockBonus tierRow.minWindowPoints actual) } }

/-- The level that a total is matched to under a lock. -/
def levelUnderLock (cfg : LevelConfig) (lock : AgencyTierLockState) (actual : Int) (now : Time) :
    String :=
  matchAgencyLevel (effectiveTotal cfg lock actual now).effective cfg.levels

/-! ### Ascending ladders -/

def Ascending (levels : List AgencyCommissionLevelRow) : Prop :=
  levels.Pairwise fun row next => row.minWindowPoints < next.minWindowPoints

theorem Ascending.lowestFirst {levels : List AgencyCommissionLevelRow}
    (ascending : Ascending levels) : LowestFirst levels := by
  intro first isFirst row member
  cases levels with
  | nil => cases isFirst
  | cons other rest =>
    cases isFirst
    rcases List.mem_cons.mp member with rfl | later
    · exact Int.le_refl _
    · exact Int.le_of_lt ((List.pairwise_cons.mp ascending).1 row later)

/-- What is found from the end is the highest row within reach. -/
theorem find_highest {rows : List AgencyCommissionLevelRow} {total : Int}
    (descending : rows.Pairwise fun row next => next.minWindowPoints < row.minWindowPoints)
    {found : AgencyCommissionLevelRow}
    (isFound : rows.find? (fun row => decide (row.minWindowPoints ≤ total)) = some found) :
    ∀ row ∈ rows, row.minWindowPoints ≤ total → row.minWindowPoints ≤ found.minWindowPoints := by
  induction rows with
  | nil => cases isFound
  | cons first rest ih =>
    obtain ⟨below, descendingRest⟩ := List.pairwise_cons.mp descending
    intro row member reach
    by_cases reached : first.minWindowPoints ≤ total
    · rw [List.find?_cons_of_pos (by simpa using reached)] at isFound
      cases isFound
      rcases List.mem_cons.mp member with rfl | later
      · exact Int.le_refl _
      · exact Int.le_of_lt (below row later)
    · rw [List.find?_cons_of_neg (by simpa using reached)] at isFound
      rcases List.mem_cons.mp member with rfl | later
      · exact absurd reach reached
      · exact ih descendingRest isFound row later reach

section Ladder

variable {cfg : LevelConfig} {total : Int} {row : AgencyCommissionLevelRow}
  (ascending : Ascending cfg.levels) (member : row ∈ cfg.levels)
  (reach : row.minWindowPoints ≤ total)
include ascending member reach

/-- A total within reach of some level is matched to the highest such level. -/
theorem matchAgencyLevel_reached :
    ∃ found ∈ cfg.levels, matchAgencyLevel total cfg.levels = found.level ∧
      found.minWindowPoints ≤ total ∧
      ∀ other ∈ cfg.levels, other.minWindowPoints ≤ total →
        other.minWindowPoints ≤ found.minWindowPoints := by
  cases search : cfg.levels.reverse.find? (fun r => decide (r.minWindowPoints ≤ total)) with
  | none =>
    have unreached := List.find?_eq_none.mp search row (List.mem_reverse.mpr member)
    exact absurd (decide_eq_true reach) unreached
  | some found =>
    refine ⟨found, List.mem_reverse.mp (List.mem_of_find?_eq_some search), ?_, ?_, ?_⟩
    · rw [matchAgencyLevel, search]
      rfl
    · simpa using List.find?_some search
    · intro other otherMember
      have descending := List.pairwise_reverse.mpr ascending
      exact find_highest descending search other (List.mem_reverse.mpr otherMember)

/-- It is matched to a level just when it reaches no higher one. -/
theorem matchAgencyLevel_eq_iff :
    matchAgencyLevel total cfg.levels = row.level ↔
      ∀ higher ∈ cfg.levels, row.minWindowPoints < higher.minWindowPoints →
        total < higher.minWindowPoints := by
  obtain ⟨found, foundMember, matched, within, highest⟩ :=
    matchAgencyLevel_reached ascending member reach
  rw [matched]
  constructor
  · intro same higher higherMember above
    -- Levels have different names.
    obtain rfl := List.inj_on_of_nodup_map cfg.levels_nodup foundMember member same
    by_contra reached
    have := highest higher higherMember (by omega)
    omega
  · intro unreached
    have atLeast := highest row member reach
    by_cases above : row.minWindowPoints < found.minWindowPoints
    · have := unreached found foundMember above
      omega
    · -- And they have different thresholds.
      have thresholds : (cfg.levels.map (·.minWindowPoints)).Nodup :=
        List.pairwise_map.mpr (ascending.imp fun less => Int.ne_of_lt less)
      have same : found.minWindowPoints = row.minWindowPoints := by omega
      rw [List.inj_on_of_nodup_map thresholds foundMember member same]

theorem rank_matchAgencyLevel_ge :
    row.minWindowPoints ≤ rank cfg.levels (matchAgencyLevel total cfg.levels) := by
  obtain ⟨found, foundMember, matched, -, highest⟩ :=
    matchAgencyLevel_reached ascending member reach
  rw [matched, rank_eq foundMember]
  exact highest row member reach

end Ladder

/-! ### The lock -/

/-- The lock that a snapshot of this level at this total leaves. -/
structure Locks (cfg : LevelConfig) (locked : AgencyCommissionLevelRow) (actualAtAssignment : Int)
    (lock : AgencyTierLockState) : Prop where
  member : locked ∈ cfg.levels
  level : lock.tierLockLevel = some locked.level
  bonus : lock.tierLockBonusPoints =
    some (computeTierLockBonus locked.minWindowPoints actualAtAssignment)

theorem snapshotAdminTierLock_locks {cfg : LevelConfig} {level : String} {actual : Int}
    {now : Time} {agency agency' : AgencyRow}
    (snapshot : snapshotAdminTierLock cfg level actual now agency = .ok agency') :
    ∃ locked, locked.level = level ∧ Locks cfg locked actual agency'.lock := by
  unfold snapshotAdminTierLock at snapshot
  split at snapshot
  · cases snapshot
  next tierRow found =>
    cases snapshot
    have named : tierRow.level = level := by simpa using List.find?_some found
    exact ⟨tierRow, named, List.mem_of_find?_eq_some found, rfl, rfl⟩

section Locked

variable {cfg : LevelConfig} {locked : AgencyCommissionLevelRow} {actualAtAssignment : Int}
  {lock : AgencyTierLockState} {now : Time}

theorem Locks.effective (locks : Locks cfg locked actualAtAssignment lock)
    (active : isAgencyTierLockActive lock now = true) (actual : Int) :
    (effectiveTotal cfg lock actual now).effective =
      max locked.minWindowPoints
        (actual + computeTierLockBonus locked.minWindowPoints actualAtAssignment) := by
  have threshold : lockLevelMinWindowPoints cfg lock = some locked.minWindowPoints := by
    rw [lockLevelMinWindowPoints, locks.level, Option.bind_some,
      Keyed.find?_of_mem cfg.levels_nodup locks.member]
    rfl
  unfold effectiveTotal effectiveTierWindowTotal
  rw [active, threshold, locks.bonus]
  rfl

theorem effectiveTotal_of_inactive (inactive : isAgencyTierLockActive lock now = false)
    (actual : Int) : (effectiveTotal cfg lock actual now).effective = actual := by
  unfold effectiveTotal effectiveTierWindowTotal
  rw [inactive]

theorem isAgencyTierLockActive_expired (ended : ∀ t, lock.tierLockUntil = some t → t ≤ now) :
    isAgencyTierLockActive lock now = false := by
  unfold isAgencyTierLockActive
  cases ends : lock.tierLockUntil with
  | none => rfl
  | some t =>
    have : ¬ now < t := Nat.not_lt.mpr (ended t ends)
    simp [this]

end Locked

/-- What a lock promises of the levels that totals are matched to: none below its own while it lasts;
its own while nothing was earned, and until what was earned fills the gap to the next level; no lower
one for a higher total; and afterwards that of the total alone. -/
structure Floors (cfg : LevelConfig) (locked : AgencyCommissionLevelRow) (actualAtAssignment : Int)
    (lock : AgencyTierLockState) : Prop where
  floor : ∀ now actual, isAgencyTierLockActive lock now = true →
    rank cfg.levels locked.level ≤ rank cfg.levels (levelUnderLock cfg lock actual now)
  unearned : ∀ now actual, isAgencyTierLockActive lock now = true → actual ≤ actualAtAssignment →
    levelUnderLock cfg lock actual now = locked.level
  exact : ∀ now actual, isAgencyTierLockActive lock now = true →
    (levelUnderLock cfg lock actual now = locked.level ↔
      ∀ higher ∈ cfg.levels, locked.minWindowPoints < higher.minWindowPoints →
        actual - actualAtAssignment < higher.minWindowPoints - locked.minWindowPoints)
  monotone : ∀ now actual more, isAgencyTierLockActive lock now = true → actual ≤ more →
    rank cfg.levels (levelUnderLock cfg lock actual now) ≤
      rank cfg.levels (levelUnderLock cfg lock more now)
  expired : ∀ now actual, (∀ t, lock.tierLockUntil = some t → t ≤ now) →
    levelUnderLock cfg lock actual now = matchAgencyLevel actual cfg.levels

theorem Locks.floors {cfg : LevelConfig} {locked : AgencyCommissionLevelRow}
    {actualAtAssignment : Int} {lock : AgencyTierLockState} (ascending : Ascending cfg.levels)
    (locks : Locks cfg locked actualAtAssignment lock) :
    Floors cfg locked actualAtAssignment lock := by
  have exact : ∀ now actual, isAgencyTierLockActive lock now = true →
      (levelUnderLock cfg lock actual now = locked.level ↔
        ∀ higher ∈ cfg.levels, locked.minWindowPoints < higher.minWindowPoints →
          actual - actualAtAssignment < higher.minWindowPoints - locked.minWindowPoints) := by
    intro now actual active
    rw [levelUnderLock, locks.effective active,
      matchAgencyLevel_eq_iff ascending locks.member (Int.le_max_left _ _)]
    unfold computeTierLockBonus
    -- Of the two totals that the maximum is taken of, the threshold never reaches a higher level.
    constructor
    · intro unreached higher member above
      have := unreached higher member above
      omega
    · intro unfilled higher member above
      have := unfilled higher member above
      omega
  constructor
  · intro now actual active
    rw [levelUnderLock, locks.effective active, rank_eq locks.member]
    exact rank_matchAgencyLevel_ge ascending locks.member (Int.le_max_left _ _)
  · intro now actual active unearned
    rw [exact now actual active]
    intro higher _ above
    omega
  · exact exact
  · intro now actual more _ grows
    exact matchAgencyLevel_mono ascending.lowestFirst (effectiveTotal_mono cfg lock now grows)
  · intro now actual ended
    rw [levelUnderLock, effectiveTotal_of_inactive (isAgencyTierLockActive_expired ended)]

/-- On an ascending ladder, every snapshot leaves a lock that keeps its promises. -/
theorem snapshot_floors {cfg : LevelConfig} (ascending : Ascending cfg.levels) {level : String}
    {actualAtAssignment : Int} {assignedAt : Time} {agency agency' : AgencyRow}
    (snapshot : snapshotAdminTierLock cfg level actualAtAssignment assignedAt agency = .ok agency') :
    ∃ locked, locked.level = level ∧ Floors cfg locked actualAtAssignment agency'.lock := by
  obtain ⟨locked, named, locks⟩ := snapshotAdminTierLock_locks snapshot
  exact ⟨locked, named, locks.floors ascending⟩

theorem smallLadder_ascending : Ascending smallLadder.levels := by
  unfold Ascending smallLadder
  decide

/-- An agency without a tier, assigned the higher one. -/
theorem snapshot_floors_small : ∃ agency',
    snapshotAdminTierLock smallLadder "C" 300 3456001000 ⟨"D", 300, none, noLock⟩ = .ok agency' ∧
      ∃ locked, locked.level = "C" ∧ Floors smallLadder locked 300 agency'.lock := by
  have snapshot : snapshotAdminTierLock smallLadder "C" 300 3456001000 ⟨"D", 300, none, noLock⟩ =
      .ok _ := rfl
  exact ⟨_, snapshot, snapshot_floors smallLadder_ascending snapshot⟩

/-- One point that was earned since does not lift an agency from D to C. -/
theorem not_exactly_unearned : ¬ ∀ (cfg : LevelConfig), Ascending cfg.levels →
    ∀ (level : String) (actualAtAssignment : Int) (assignedAt : Time) (agency agency' : AgencyRow),
      snapshotAdminTierLock cfg level actualAtAssignment assignedAt agency = .ok agency' →
      ∀ (now : Time) (earned left : Nat), isAgencyTierLockActive agency'.lock now = true →
        (levelUnderLock cfg agency'.lock (actualAtAssignment + earned - left) now = level ↔
          earned = 0) := by
  intro claim
  have iff := claim smallLadder smallLadder_ascending "D" 0 0 ⟨"D", 0, none, noLock⟩ _ rfl 0 1 0
    (by decide)
  exact absurd (iff.mp (by decide)) (by decide)

/-! ### Histories -/

def earned (rows : List EarningRow) : Int := (rows.map fun row => (row.amount : Int)).sum

/-- The window total of `now` counts this row. -/
def counts (cfg : LevelConfig) (now : Time) (row : EarningRow) : Bool :=
  (match row.source with
    | .hostEarnings => cfg.includeHostEarnings
    | .agencyCommission => cfg.includeAgencyCommission) &&
    decide (rollingWindowFrom cfg now ≤ row.createdAt ∧ row.createdAt < now)

section History

variable (cfg : LevelConfig) {now now' : Time}

theorem resolveTierWindowTotal_cons (now : Time) (row : EarningRow) (rows : List EarningRow) :
    resolveTierWindowTotal cfg (row :: rows) now =
      (if counts cfg now row then (row.amount : Int) else 0) +
        resolveTierWindowTotal cfg rows now := by
  unfold resolveTierWindowTotal sumLedgerWindow counts
  simp only [Totals.sumWhere_cons]
  cases source : row.source with
  | hostEarnings =>
    cases cfg.includeHostEarnings <;> cases cfg.includeAgencyCommission <;> simp [Int.add_assoc]
  | agencyCommission =>
    cases cfg.includeHostEarnings <;> cases cfg.includeAgencyCommission <;>
      simp [Int.add_left_comm]

theorem rollingWindowFrom_mono (later : now ≤ now') :
    rollingWindowFrom cfg now ≤ rollingWindowFrom cfg now' := by
  have midnight : utcStartOfDay now ≤ utcStartOfDay now' :=
    Nat.mul_le_mul_right _ (Nat.div_le_div_right later)
  unfold rollingWindowFrom
  dsimp only
  split
  · exact Int.sub_le_sub_right (Int.ofNat_le.mpr midnight) _
  · exact Int.sub_le_sub_right (Int.ofNat_le.mpr later) _

/-- A window that moves on loses old rows, and gains at most what was earned meanwhile. -/
theorem resolveTierWindowTotal_later (rows : List EarningRow) (later : now ≤ now') :
    resolveTierWindowTotal cfg rows now' ≤ resolveTierWindowTotal cfg rows now +
      earned (rows.filter fun row => now ≤ row.createdAt) := by
  induction rows with
  | nil => simp [resolveTierWindowTotal, sumLedgerWindow, earned]
  | cons row rest ih =>
    have moved := rollingWindowFrom_mono cfg later
    rw [resolveTierWindowTotal_cons, resolveTierWindowTotal_cons]
    by_cases new : now ≤ row.createdAt
    · rw [List.filter_cons_of_pos (by simpa using new)]
      simp only [earned, List.map_cons, List.sum_cons] at ih ⊢
      split <;> split <;> omega
    · have still : counts cfg now' row = true → counts cfg now row = true := by
        simp only [counts, Bool.and_eq_true, decide_eq_true_eq]
        exact fun counted => ⟨counted.1, Int.le_trans moved counted.2.1, Nat.lt_of_not_le new⟩
      rw [List.filter_cons_of_neg (by simpa using new)]
      split
      next counted =>
        rw [if_pos (still counted)]
        omega
      next => split <;> omega

/-- Whatever days leave the window, the agency keeps the assigned level until what it earned since
fills the gap to the next one, and no evaluation during the lock writes a lower one. -/
theorem snapshot_history (ascending : Ascending cfg.levels) {level : String}
    {agency agency' : AgencyRow} {rows : List EarningRow}
    (snapshot : snapshotAdminTierLock cfg level (resolveTierWindowTotal cfg rows now) now agency =
      .ok agency') (later : now ≤ now') :
    ∃ locked ∈ cfg.levels, locked.level = level ∧
      (isAgencyTierLockActive agency'.lock now' = true →
        (∀ higher ∈ cfg.levels, locked.minWindowPoints < higher.minWindowPoints →
          earned (rows.filter fun row => now ≤ row.createdAt) <
            higher.minWindowPoints - locked.minWindowPoints) →
        levelUnderLock cfg agency'.lock (resolveTierWindowTotal cfg rows now') now' = level) ∧
      ∀ atDayStart live row, isAgencyTierLockActive agency'.lock (utcStartOfDay now') = true →
        rank cfg.levels level ≤
          rank cfg.levels (evaluatedRow cfg now' agency'.lock atDayStart live row).currentLevel := by
  obtain ⟨locked, rfl, locks⟩ := snapshotAdminTierLock_locks snapshot
  have floors := locks.floors ascending
  refine ⟨locked, locks.member, rfl, fun active unfilled => ?_, fun atDayStart live row active => ?_⟩
  · rw [floors.exact now' _ active]
    intro higher member above
    have gained := resolveTierWindowTotal_later cfg rows later
    have gap := unfilled higher member above
    omega
  · unfold evaluatedRow
    dsimp only
    rw [rank_higherLevel]
    exact Int.le_trans (floors.floor _ atDayStart active) (Int.le_max_left _ _)

end History

def dayTen : List EarningRow := [⟨.hostEarnings, 864000000, 300⟩]

theorem snapshot_history_dayTen : ∃ agency', snapshotAdminTierLock smallLadder "C"
      (resolveTierWindowTotal smallLadder dayTen 3456001000) 3456001000 ⟨"D", 0, none, noLock⟩ =
        .ok agency' ∧
    levelUnderLock smallLadder agency'.lock
      (resolveTierWindowTotal smallLadder dayTen 3542401000) 3542401000 = "C" := by
  obtain ⟨locked, -, -, kept, -⟩ := @snapshot_history smallLadder 3456001000 3542401000
    smallLadder_ascending "C" ⟨"D", 0, none, noLock⟩ _ dayTen rfl (by decide)
  refine ⟨_, rfl, kept (by decide) fun higher _ above => ?_⟩
  have none : earned (dayTen.filter fun row => 3456001000 ≤ row.createdAt) = 0 := by decide
  omega

end OlNode.AgencyLevel
