import OlNode.ReadCommitted.Undisturbed
import OlNode.Keyed
import OlNode.Schema
import OlNode.Totals

/-!
# The level of an agency during a day

`recomputeAgencyLevel` evaluates the level from the window totals and writes it with a compare-and-
swap on the time of the last evaluation; `refreshWindowProgress` only raises it, with a compare-and-
swap on the level itself. Neither sees the other's write: an evaluation that is overtaken by a
refresh puts the lower level back. As long as nobody writes an evaluation while another call is
between its reads and its write, unless that call finds the evaluation time changed, the level never
drops before the next day.
-/
namespace OlNode.AgencyLevel

open ReadCommitted

/-! ### Levels -/

/-- The columns of `agency_commission_levels` the evaluation reads. -/
structure AgencyCommissionLevelRow where
  level : String
  minWindowPoints : Int

structure AgencyTierLockState where
  tierLockLevel : Option String
  tierLockUntil : Option Time
  tierLockBonusPoints : Option Int
  deriving DecidableEq

def noLock : AgencyTierLockState := ⟨none, none, none⟩

def isAgencyTierLockActive (lock : AgencyTierLockState) (now : Time) : Bool :=
  lock.tierLockUntil.any (decide <| now < ·) && lock.tierLockLevel.any (decide <| · ≠ "") &&
    lock.tierLockBonusPoints.isSome

structure EffectiveTotal where
  effective : Int
  lockActive : Bool

def effectiveTierWindowTotal (actual : Int) (lock : AgencyTierLockState)
    (lockLevelMinWindowPoints : Option Int) (now : Time) : EffectiveTotal :=
  match isAgencyTierLockActive lock now, lockLevelMinWindowPoints with
  | true, some floor => ⟨max floor (actual + lock.tierLockBonusPoints.getD 0), true⟩
  | _, _ => ⟨actual, false⟩

def matchAgencyLevel (total : Int) (levels : List AgencyCommissionLevelRow) : String :=
  ((levels.reverse.find? fun row => decide (row.minWindowPoints ≤ total)).map (·.level)).getD
    ((levels.head?.map (·.level)).getD "D")

/-- A level missing from the ladder ranks lowest. -/
def rank (levels : List AgencyCommissionLevelRow) (level : String) : Int :=
  ((levels.find? fun row => decide (row.level = level)).map (·.minWindowPoints)).getD (-1)

def higherLevel (a b : String) (levels : List AgencyCommissionLevelRow) : String :=
  if rank levels a < rank levels b then b else a

/-! ### Windows -/

def millisOfDay : Nat := 86400000

/-- The number of the UTC day; instants are milliseconds. -/
def utcDay (t : Time) : Nat := t / millisOfDay

def utcStartOfDay (t : Time) : Time := utcDay t * millisOfDay

/-- The configuration a day is evaluated with. `level` is the primary key of the levels, which come
in their sort order. -/
structure LevelConfig where
  levels : List AgencyCommissionLevelRow
  windowDays : Nat
  windowHours : Nat
  windowMinutes : Nat
  includeHostEarnings : Bool
  includeAgencyCommission : Bool
  levels_nodup : (levels.map (·.level)).Nodup

def agencyCommissionWindowTotalMinutes (cfg : LevelConfig) : Nat :=
  max 1 (cfg.windowDays * (24 * 60) + cfg.windowHours * 60 + cfg.windowMinutes)

/-- `from` of `resolveAgencyCommissionRollingWindowBounds`; `toExclusive` is `now`. -/
def rollingWindowFrom (cfg : LevelConfig) (now : Time) : Int :=
  let totalMinutes := agencyCommissionWindowTotalMinutes cfg
  let anchor := if totalMinutes % (24 * 60) = 0 then utcStartOfDay now else now
  (anchor : Int) - (totalMinutes * 60000 : Nat)

inductive EarningSource where
  | hostEarnings | agencyCommission
  deriving DecidableEq

/-- A point credit that counts for the agency: of one of its hosts, or a commission. -/
structure EarningRow where
  source : EarningSource
  createdAt : Time
  amount : Nat

/-- `sumHostEarningsLedgerWindow` and `sumAgencyCommissionLedgerWindow`. -/
def sumLedgerWindow (rows : List EarningRow) (source : EarningSource) (start : Int)
    (toExclusive : Time) : Int :=
  Totals.sumWhere
    (fun row => decide (row.source = source ∧ start ≤ row.createdAt ∧ row.createdAt < toExclusive))
    (fun row => (row.amount : Int)) rows

def resolveTierWindowTotal (cfg : LevelConfig) (rows : List EarningRow) (now : Time) : Int :=
  let start := rollingWindowFrom cfg now
  (if cfg.includeHostEarnings then sumLedgerWindow rows .hostEarnings start now else 0) +
    (if cfg.includeAgencyCommission then sumLedgerWindow rows .agencyCommission start now else 0)

/-! ### The calls -/

/-- The columns of `agencies` the level is about. -/
structure AgencyRow where
  currentLevel : String
  currentWindowTotalPoints : Int
  lastLevelRecomputedAt : Option Time
  lock : AgencyTierLockState
  deriving DecidableEq

/-- What is stored for one agency, and the clock. -/
structure LevelDb where
  now : Time
  agency : Option AgencyRow
  earnings : List EarningRow

inductive LevelLock where
  | clock | agency | ledger
  deriving DecidableEq

abbrev LevelTx := Tx LevelDb LevelLock LedgerError
abbrev LevelProg := Prog LevelDb LevelLock LedgerError

def utcNow : LevelProg Time := Prog.select LevelDb.now

def LevelDb.setAgency (db : LevelDb) (f : AgencyRow → AgencyRow) : LevelDb :=
  { db with agency := db.agency.map f }

/-- One conditional UPDATE of the agency's row; the answer is the number of rows changed. -/
def updateMany (guard : AgencyRow → Bool) (f : AgencyRow → AgencyRow) : LevelTx Nat := do
  Tx.lockRow .agency
  let row ← Tx.select LevelDb.agency
  if row.any guard then
    Tx.update .agency fun db => db.setAgency f
    pure 1
  else pure 0

def lockLevelMinWindowPoints (cfg : LevelConfig) (lock : AgencyTierLockState) : Option Int :=
  lock.tierLockLevel.bind fun level =>
    (cfg.levels.find? fun row => decide (row.level = level)).map (·.minWindowPoints)

/-- What the total counts for under the tier lock of the agency. -/
def effectiveTotal (cfg : LevelConfig) (lock : AgencyTierLockState) (actual : Int) (now : Time) :
    EffectiveTotal :=
  effectiveTierWindowTotal actual lock (lockLevelMinWindowPoints cfg lock) now

def AgencyRow.evaluatedOn (day : Nat) (row : AgencyRow) : Bool :=
  row.lastLevelRecomputedAt.any fun t => decide (utcDay t = day)

def evaluatedRow (cfg : LevelConfig) (now : Time) (lock : AgencyTierLockState)
    (atDayStart live : Int) (row : AgencyRow) : AgencyRow :=
  let atDayStartEff := effectiveTotal cfg lock atDayStart (utcStartOfDay now)
  let liveEff := effectiveTotal cfg lock live now
  { currentLevel := higherLevel (matchAgencyLevel atDayStartEff.effective cfg.levels)
      (matchAgencyLevel liveEff.effective cfg.levels) cfg.levels
    currentWindowTotalPoints := live
    lastLevelRecomputedAt := some now
    lock := if atDayStartEff.lockActive then row.lock else noLock }

/-- The compare-and-swap of `evaluate`. -/
def swap (cfg : LevelConfig) (now : Time) (cur : Option AgencyRow) (atDayStart live : Int) :
    LevelProg Nat :=
  Prog.transaction (updateMany
    (fun row => decide (row.lastLevelRecomputedAt = cur.bind (·.lastLevelRecomputedAt)))
    (evaluatedRow cfg now ((cur.map (·.lock)).getD noLock) atDayStart live))

def evaluate (cfg : LevelConfig) (now : Time) (cur : Option AgencyRow) : LevelProg Nat := do
  let atDayStart ← Prog.select fun db => resolveTierWindowTotal cfg db.earnings (utcStartOfDay now)
  let live ← Prog.select fun db => resolveTierWindowTotal cfg db.earnings now
  swap cfg now cur atDayStart live

/-- `recomputeAgencyLevel` with so many attempts left. -/
def recomputeAttempts (cfg : LevelConfig) (skipDailyDedupe : Bool) : Nat → LevelProg Unit
  | 0 => pure ()
  | attempts + 1 => do
    let now ← utcNow
    let cur ← Prog.select LevelDb.agency
    if !skipDailyDedupe && cur.any (AgencyRow.evaluatedOn (utcDay now)) then pure ()
    else
      let count ← evaluate cfg now cur
      if count = 1 then pure () else recomputeAttempts cfg skipDailyDedupe attempts

def MAX_CAS_ATTEMPTS : Nat := 5

def recomputeAgencyLevel (cfg : LevelConfig) (skipDailyDedupe : Bool) : LevelProg Unit :=
  recomputeAttempts cfg skipDailyDedupe MAX_CAS_ATTEMPTS

def storeProgress (total : Int) : LevelProg Unit :=
  Prog.autocommit .agency fun db =>
    db.setAgency fun row => { row with currentWindowTotalPoints := total }

/-- A refresh of an agency that was evaluated today, from the total on. -/
def raise (cfg : LevelConfig) (now : Time) (cur : AgencyRow) : LevelProg Unit := do
  let total ← Prog.select fun db => resolveTierWindowTotal cfg db.earnings now
  let reached := matchAgencyLevel (effectiveTotal cfg cur.lock total now).effective cfg.levels
  if higherLevel reached cur.currentLevel cfg.levels ≠ cur.currentLevel then
    let count ← Prog.transaction (updateMany
      (fun row => decide (row.currentLevel = cur.currentLevel))
      (fun row => { row with currentLevel := reached, currentWindowTotalPoints := total }))
    if count = 1 then pure () else storeProgress total
  else storeProgress total

def refreshWindowProgress (cfg : LevelConfig) : LevelProg Unit := do
  let now ← utcNow
  let cur ← Prog.select LevelDb.agency
  match cur with
  | none => pure ()
  | some cur =>
    if cur.evaluatedOn (utcDay now) then raise cfg now cur else recomputeAgencyLevel cfg false

inductive Request where
  | recompute (skipDailyDedupe : Bool)
  | refresh
  /-- `applyCommission`: rows that count from now on. -/
  | credit (rows : List EarningRow)
  /-- Time passes. -/
  | clock (now : Time)

def Request.evaluates : Request → Bool
  | .recompute _ | .refresh => true
  | .credit _ | .clock _ => false

def handler (cfg : LevelConfig) : Request → LevelProg Unit
  | .recompute skipDailyDedupe => recomputeAgencyLevel cfg skipDailyDedupe
  | .refresh => refreshWindowProgress cfg
  | .credit rows => Prog.autocommit .ledger fun db => { db with earnings := db.earnings ++ rows }
  | .clock now => Prog.autocommit .clock fun db => { db with now := max db.now now }

/-! ### Ladders and totals -/

theorem rank_eq {cfg : LevelConfig} {row : AgencyCommissionLevelRow} (member : row ∈ cfg.levels) :
    rank cfg.levels row.level = row.minWindowPoints := by
  rw [rank, Keyed.find?_of_mem cfg.levels_nodup member]
  rfl

def LowestFirst (levels : List AgencyCommissionLevelRow) : Prop :=
  ∀ first, levels.head? = some first → ∀ row ∈ levels, first.minWindowPoints ≤ row.minWindowPoints

private theorem find_mono {total total' : Int} (grows : total ≤ total')
    {rows : List AgencyCommissionLevelRow} {row : AgencyCommissionLevelRow}
    (found : rows.find? (fun r => decide (r.minWindowPoints ≤ total)) = some row) :
    ∃ row', rows.find? (fun r => decide (r.minWindowPoints ≤ total')) = some row' ∧
      row.minWindowPoints ≤ row'.minWindowPoints := by
  have reach : row.minWindowPoints ≤ total := by simpa using List.find?_some found
  induction rows with
  | nil => simp at found
  | cons first rows ih =>
    by_cases reached : first.minWindowPoints ≤ total'
    · refine ⟨first, by simp [reached], ?_⟩
      by_cases before : first.minWindowPoints ≤ total
      · simp only [List.find?_cons, before, decide_true, Option.some.injEq] at found
        exact Int.le_of_eq (by rw [found])
      · omega
    · have before : ¬ first.minWindowPoints ≤ total := by omega
      simp only [List.find?_cons, before, decide_false] at found
      simpa [List.find?_cons, reached] using ih found

theorem matchAgencyLevel_mono {cfg : LevelConfig} (lowest : LowestFirst cfg.levels)
    {total total' : Int} (grows : total ≤ total') :
    rank cfg.levels (matchAgencyLevel total cfg.levels) ≤
      rank cfg.levels (matchAgencyLevel total' cfg.levels) := by
  have ranked : ∀ {t : Int} {row : AgencyCommissionLevelRow},
      cfg.levels.reverse.find? (fun r => decide (r.minWindowPoints ≤ t)) = some row →
      rank cfg.levels (matchAgencyLevel t cfg.levels) = row.minWindowPoints ∧
        row ∈ cfg.levels := by
    intro t row found
    have member : row ∈ cfg.levels := List.mem_reverse.mp (List.mem_of_find?_eq_some found)
    refine ⟨?_, member⟩
    rw [matchAgencyLevel, found, ← rank_eq member]
    rfl
  cases found : cfg.levels.reverse.find? (fun r => decide (r.minWindowPoints ≤ total)) with
  | some row =>
    obtain ⟨row', found', higher⟩ := find_mono grows found
    rw [(ranked found).1, (ranked found').1]
    exact higher
  | none =>
    cases found' : cfg.levels.reverse.find? (fun r => decide (r.minWindowPoints ≤ total')) with
    | none =>
      have same : matchAgencyLevel total cfg.levels = matchAgencyLevel total' cfg.levels := by
        rw [matchAgencyLevel, matchAgencyLevel, found, found']
      exact Int.le_of_eq (by rw [same])
    | some row' =>
      -- Nothing was reached before, and the level to start from is the lowest one.
      obtain ⟨higher, member⟩ := ranked found'
      rw [higher, matchAgencyLevel, found]
      cases first : cfg.levels.head? with
      | none => simp [List.head?_eq_none_iff.mp first] at member
      | some row =>
        have bottom : rank cfg.levels row.level = row.minWindowPoints :=
          rank_eq (List.mem_of_mem_head? first)
        simp only [Option.map_none, Option.getD_none, Option.map_some, Option.getD_some, bottom]
        exact lowest row first row' member

theorem rank_higherLevel (a b : String) (levels : List AgencyCommissionLevelRow) :
    rank levels (higherLevel a b levels) = max (rank levels a) (rank levels b) := by
  unfold higherLevel
  split <;> omega

theorem effectiveTotal_mono (cfg : LevelConfig) (lock : AgencyTierLockState) (now : Time)
    {actual actual' : Int} (grows : actual ≤ actual') :
    (effectiveTotal cfg lock actual now).effective ≤
      (effectiveTotal cfg lock actual' now).effective := by
  unfold effectiveTotal effectiveTierWindowTotal
  split
  · simp only
    omega
  · exact grows

private theorem sumLedgerWindow_append (rows more : List EarningRow) (source : EarningSource)
    (start : Int) (toExclusive : Time) :
    sumLedgerWindow rows source start toExclusive ≤
      sumLedgerWindow (rows ++ more) source start toExclusive := by
  have added : 0 ≤ sumLedgerWindow more source start toExclusive :=
    Totals.sumWhere_nonneg fun row _ => Int.natCast_nonneg row.amount
  simp only [sumLedgerWindow, Totals.sumWhere, List.filter_append, List.map_append,
    List.sum_append] at added ⊢
  omega

theorem resolveTierWindowTotal_append (cfg : LevelConfig) (rows more : List EarningRow)
    (now : Time) :
    resolveTierWindowTotal cfg rows now ≤ resolveTierWindowTotal cfg (rows ++ more) now := by
  have host := sumLedgerWindow_append rows more .hostEarnings (rollingWindowFrom cfg now) now
  have commission :=
    sumLedgerWindow_append rows more .agencyCommission (rollingWindowFrom cfg now) now
  simp only [resolveTierWindowTotal]
  split <;> split <;> omega

/-- On the same rows, the window of a later instant of the day has no lower total. -/
def WindowGrows (cfg : LevelConfig) (day : Nat) (rows : List EarningRow) : Prop :=
  ∀ now now', utcDay now = day → utcDay now' = day → now ≤ now' →
    resolveTierWindowTotal cfg rows now ≤ resolveTierWindowTotal cfg rows now'

private theorem sumLedgerWindow_mono (rows : List EarningRow) (source : EarningSource)
    (start : Int) {now now' : Time} (later : now ≤ now') :
    sumLedgerWindow rows source start now ≤ sumLedgerWindow rows source start now' := by
  induction rows with
  | nil => simp [sumLedgerWindow]
  | cons row rows ih =>
    simp only [sumLedgerWindow, Totals.sumWhere_cons, decide_eq_true_eq] at ih ⊢
    by_cases before : row.source = source ∧ start ≤ row.createdAt ∧ row.createdAt < now
    · have kept : row.source = source ∧ start ≤ row.createdAt ∧ row.createdAt < now' :=
        ⟨before.1, before.2.1, Nat.lt_of_lt_of_le before.2.2 later⟩
      simp only [before, kept, and_self, if_true]
      omega
    · simp only [before, if_false]
      split <;> omega

/-- A window of whole days starts at a midnight, and only grows until the next one. -/
theorem windowGrows_of_wholeDays {cfg : LevelConfig}
    (wholeDays : agencyCommissionWindowTotalMinutes cfg % (24 * 60) = 0) (day : Nat)
    (rows : List EarningRow) : WindowGrows cfg day rows := by
  intro now now' ofDay ofDay' later
  have anchored : rollingWindowFrom cfg now = rollingWindowFrom cfg now' := by
    simp only [rollingWindowFrom, wholeDays, if_true, utcStartOfDay, ofDay, ofDay']
  have host := sumLedgerWindow_mono rows .hostEarnings (rollingWindowFrom cfg now') later
  have commission := sumLedgerWindow_mono rows .agencyCommission (rollingWindowFrom cfg now') later
  simp only [resolveTierWindowTotal, anchored]
  split <;> split <;> omega

/-! ### A day -/

section Day

variable (cfg : LevelConfig) (day : Nat)

def AgencyRow.levelRank (row : AgencyRow) : Int := rank cfg.levels row.currentLevel

/-- The level the agency's tier lock and a window total make. -/
def AgencyRow.matched (row : AgencyRow) (now : Time) (total : Int) : Int :=
  rank cfg.levels
    (matchAgencyLevel (effectiveTotal cfg row.lock total now).effective cfg.levels)

def startOfDay : Time := day * millisOfDay

/-- The tier lock does not end in the course of the day. -/
def AgencyTierLockState.Steady (lock : AgencyTierLockState) : Prop :=
  ∀ ends, lock.tierLockUntil = some ends → ends ≤ startOfDay day ∨ startOfDay (day + 1) ≤ ends

/-- The level and what it was evaluated with and when, without the progress. -/
def LevelDb.evaluation (db : LevelDb) : Option (String × Option Time × AgencyTierLockState) :=
  db.agency.map fun row => (row.currentLevel, row.lastLevelRecomputedAt, row.lock)

/-- The level is at least the one of the last window total that was stored. -/
def Covered (db : LevelDb) : Prop :=
  ∀ row, db.agency = some row → row.evaluatedOn day →
    row.matched cfg (startOfDay day) row.currentWindowTotalPoints ≤ row.levelRank cfg

/-- What holds between the calls. Once the day's first evaluation is made, the level is one that
the totals of the day account for. -/
structure Settled (db : LevelDb) : Prop where
  today : utcDay db.now = day
  steady : ∀ row, db.agency = some row → row.lock.Steady day
  window : WindowGrows cfg day db.earnings
  earned : ∀ row, db.agency = some row → row.evaluatedOn day →
    row.levelRank cfg ≤
      max (row.matched cfg (startOfDay day)
          (resolveTierWindowTotal cfg db.earnings (startOfDay day)))
        (row.matched cfg (startOfDay day) (resolveTierWindowTotal cfg db.earnings db.now))
  covered : Covered cfg day db

/-- What a call can bear while it is under way: credits, the clock, and progress that is stored. -/
structure Bearable (s t : LevelDb) : Prop where
  evaluation : t.evaluation = s.evaluation
  now : s.now ≤ t.now
  today : utcDay s.now = day → utcDay t.now = day
  window : WindowGrows cfg day s.earnings → WindowGrows cfg day t.earnings
  totals : ∀ now, resolveTierWindowTotal cfg s.earnings now ≤
    resolveTierWindowTotal cfg t.earnings now
  covered : Covered cfg day s → Covered cfg day t

structure Advances (s t : LevelDb) : Prop where
  level : ∀ row, s.agency = some row → row.evaluatedOn day →
    ∃ row', t.agency = some row' ∧ row'.evaluatedOn day ∧ row.levelRank cfg ≤ row'.levelRank cfg
  bearable : t.evaluation = s.evaluation → Bearable cfg day s t

variable {cfg} {day}

theorem Bearable.refl (s : LevelDb) : Bearable cfg day s s :=
  ⟨rfl, Nat.le_refl _, id, id, fun _ => Int.le_refl _, id⟩

theorem Bearable.trans {s t u : LevelDb} (first : Bearable cfg day s t)
    (second : Bearable cfg day t u) : Bearable cfg day s u where
  evaluation := second.evaluation.trans first.evaluation
  now := Nat.le_trans first.now second.now
  today := second.today ∘ first.today
  window := second.window ∘ first.window
  totals now := Int.le_trans (first.totals now) (second.totals now)
  covered := second.covered ∘ first.covered

structure AgencyRow.Like (row other : AgencyRow) : Prop where
  level : row.currentLevel = other.currentLevel
  last : row.lastLevelRecomputedAt = other.lastLevelRecomputedAt
  lock : row.lock = other.lock

namespace AgencyRow.Like

variable {row other : AgencyRow} (like : row.Like other)

include like

theorem evaluatedOn : row.evaluatedOn day = other.evaluatedOn day := by
  rw [AgencyRow.evaluatedOn, like.last, AgencyRow.evaluatedOn]

theorem levelRank : row.levelRank cfg = other.levelRank cfg := by
  rw [AgencyRow.levelRank, like.level, AgencyRow.levelRank]

theorem matched (now : Time) (total : Int) :
    row.matched cfg now total = other.matched cfg now total := by
  rw [AgencyRow.matched, like.lock, AgencyRow.matched]

end AgencyRow.Like

theorem AgencyRow.Like.trans {a b c : AgencyRow} (first : a.Like b) (second : b.Like c) :
    a.Like c :=
  ⟨first.level.trans second.level, first.last.trans second.last, first.lock.trans second.lock⟩

theorem like_of_evaluation {s t : LevelDb} (same : s.evaluation = t.evaluation) {row : AgencyRow}
    (found : t.agency = some row) : ∃ other, s.agency = some other ∧ other.Like row := by
  simp only [LevelDb.evaluation, found, Option.map_some] at same
  obtain ⟨other, foundOther, equal⟩ := Option.map_eq_some_iff.mp same
  simp only [Prod.mk.injEq] at equal
  exact ⟨other, foundOther, equal.1, equal.2.1, equal.2.2⟩

theorem AgencyRow.matched_mono (lowest : LowestFirst cfg.levels) (row : AgencyRow) (now : Time)
    {total total' : Int} (grows : total ≤ total') :
    row.matched cfg now total ≤ row.matched cfg now total' :=
  matchAgencyLevel_mono lowest (effectiveTotal_mono cfg row.lock now grows)

private theorem of_day {now : Nat} (today : utcDay now = day) :
    startOfDay day ≤ now ∧ now < startOfDay (day + 1) := by
  subst today
  have positive : 0 < millisOfDay := by decide
  exact ⟨Nat.div_mul_le_self now millisOfDay, Nat.lt_mul_of_div_lt (Nat.lt_succ_self _) positive⟩

variable {lock : AgencyTierLockState}

private theorem before_end_iff (steady : lock.Steady day) {now ends : Nat}
    (today : utcDay now = day) (bound : lock.tierLockUntil = some ends) :
    now < ends ↔ startOfDay day < ends := by
  obtain ⟨after, before⟩ := of_day today
  rcases steady ends bound with passed | still
  · exact ⟨Nat.lt_of_le_of_lt after, fun later => absurd later (Nat.not_lt.mpr passed)⟩
  · exact ⟨Nat.lt_of_le_of_lt after, fun _ => Nat.lt_of_lt_of_le before still⟩

private theorem active_steady (steady : lock.Steady day) {now : Time} (today : utcDay now = day) :
    isAgencyTierLockActive lock now = isAgencyTierLockActive lock (startOfDay day) := by
  have same : lock.tierLockUntil.any (decide <| now < ·) =
      lock.tierLockUntil.any (decide <| startOfDay day < ·) := by
    cases bound : lock.tierLockUntil with
    | none => rw [Option.any_none, Option.any_none]
    | some ends =>
      rw [Option.any_some, Option.any_some, decide_eq_decide]
      exact before_end_iff steady today bound
  rw [isAgencyTierLockActive, same, isAgencyTierLockActive]

theorem effectiveTotal_steady (steady : lock.Steady day) {now : Time} (today : utcDay now = day)
    (actual : Int) :
    effectiveTotal cfg lock actual now = effectiveTotal cfg lock actual (startOfDay day) := by
  unfold effectiveTotal effectiveTierWindowTotal
  rw [active_steady steady today]

theorem Settled.bear (lowest : LowestFirst cfg.levels) {s t : LevelDb}
    (bearable : Bearable cfg day s t) (settled : Settled cfg day s) : Settled cfg day t where
  today := bearable.today settled.today
  steady row found := by
    obtain ⟨before, foundBefore, like⟩ := like_of_evaluation bearable.evaluation.symm found
    exact like.lock ▸ settled.steady before foundBefore
  window := bearable.window settled.window
  earned row found evaluated := by
    obtain ⟨before, foundBefore, like⟩ := like_of_evaluation bearable.evaluation.symm found
    have earned := settled.earned before foundBefore (like.evaluatedOn.trans evaluated)
    rw [like.levelRank, like.matched, like.matched] at earned
    have atDayStart := row.matched_mono lowest (startOfDay day) (bearable.totals (startOfDay day))
    have live := row.matched_mono lowest (startOfDay day)
      (Int.le_trans (bearable.totals s.now) (bearable.window settled.window s.now t.now
        settled.today (bearable.today settled.today) bearable.now))
    omega
  covered := bearable.covered settled.covered

/-! ### What the calls commit -/

/-- The calls of a day, as requests that must not disturb each other. -/
def discipline (cfg : LevelConfig) (day : Nat) (lowest : LowestFirst cfg.levels) :
    Discipline Request LevelDb where
  mine request := request.evaluates = true
  env := Bearable cfg day
  step := Advances cfg day
  rest := Settled cfg day
  mayStop _ := True
  refl := Bearable.refl
  trans _ _ _ := Bearable.trans
  rest_stable _ _ := Settled.bear lowest
  mayStop_stable _ _ _ := id

/-- `row'` may take the place of `row` in `db`. -/
structure Improves (cfg : LevelConfig) (day : Nat) (db : LevelDb) (row row' : AgencyRow) :
    Prop where
  steady : row'.lock.Steady day
  level : row.evaluatedOn day → row.levelRank cfg ≤ row'.levelRank cfg
  evaluated : row'.evaluatedOn day
  earned : row'.levelRank cfg ≤
    max (row'.matched cfg (startOfDay day)
        (resolveTierWindowTotal cfg db.earnings (startOfDay day)))
      (row'.matched cfg (startOfDay day) (resolveTierWindowTotal cfg db.earnings db.now))
  covered : row'.matched cfg (startOfDay day) row'.currentWindowTotalPoints ≤ row'.levelRank cfg

theorem Settled.set {db : LevelDb} {row : AgencyRow} {f : AgencyRow → AgencyRow}
    (settled : Settled cfg day db) (found : db.agency = some row)
    (improves : Improves cfg day db row (f row)) : Settled cfg day (db.setAgency f) := by
  have written : (db.setAgency f).agency = some (f row) := by simp [LevelDb.setAgency, found]
  refine ⟨settled.today, ?_, settled.window, ?_, ?_⟩
  · intro row' found'
    obtain rfl := Option.some.inj (written.symm.trans found')
    exact improves.steady
  · intro row' found' _
    obtain rfl := Option.some.inj (written.symm.trans found')
    exact improves.earned
  · intro row' found' _
    obtain rfl := Option.some.inj (written.symm.trans found')
    exact improves.covered

theorem Advances.set {db : LevelDb} {row : AgencyRow} {f : AgencyRow → AgencyRow}
    (found : db.agency = some row) (improves : Improves cfg day db row (f row)) :
    Advances cfg day db (db.setAgency f) := by
  have written : (db.setAgency f).agency = some (f row) := by simp [LevelDb.setAgency, found]
  constructor
  · intro before foundBefore evaluated
    obtain rfl := Option.some.inj (found.symm.trans foundBefore)
    exact ⟨f row, written, improves.evaluated, improves.level evaluated⟩
  · intro same
    refine ⟨same, Nat.le_refl _, id, id, fun _ => Int.le_refl _, ?_⟩
    intro _ row' found' _
    obtain rfl := Option.some.inj (written.symm.trans found')
    exact improves.covered

section Serves

variable {lowest : LowestFirst cfg.levels} {s : LevelDb} {cur : AgencyRow}
  {f : AgencyRow → AgencyRow}

open Prog in
theorem commits_set (settled : Settled cfg day s) (found : s.agency = some cur)
    (improves : ∀ t row, Bearable cfg day s t → Settled cfg day t → t.agency = some row →
      row.Like cur → Improves cfg day t row (f row)) :
    CommitsTo (discipline cfg day lowest) (Settled cfg day) (fun db => db.setAgency f) s := by
  intro t bearable
  obtain ⟨row, foundRow, like⟩ := like_of_evaluation bearable.evaluation found
  have settledT := settled.bear lowest bearable
  have better := improves t row bearable settledT foundRow like
  have after := settledT.set foundRow better
  exact ⟨.set foundRow better, fun _ => after, after⟩

variable {guard : AgencyRow → Bool}

open Prog in
/-- A conditional UPDATE, whichever way the condition turns out. -/
theorem updateMany_serves {post : Except LedgerError Nat → LevelDb → Prop}
    (changed : ∀ t row, Bearable cfg day s t → t.agency = some row → guard row = true →
      CommitsTo (discipline cfg day lowest) (post (.ok 1)) (fun db => db.setAgency f) t)
    (unchanged : ∀ t, Bearable cfg day s t → t.agency.any guard = false →
      CommitsTo (discipline cfg day lowest) (post (.ok 0)) id t) :
    (Prog.transaction (updateMany guard f)).Serves (discipline cfg day lowest) post id s := by
  refine serves_transaction ?_
  intro t bearable
  change Tx.Serves _ _ _ (if t.agency.any guard then _ else _) _ _
  by_cases passes : t.agency.any guard = true
  · rw [if_pos passes]
    obtain ⟨row, found, holds⟩ := (Option.any_eq_true _ _).mp passes
    exact changed t row bearable found holds
  · rw [if_neg passes]
    exact unchanged t bearable (by simpa using passes)

/-- A conditional UPDATE whose condition fails. -/
theorem missed_serves (settled : Settled cfg day s)
    (misses : ∀ t row, Bearable cfg day s t → t.agency = some row → guard row = false) :
    (Prog.transaction (updateMany guard f)).Serves (discipline cfg day lowest)
      (fun _ t => Settled cfg day t) id s := by
  refine updateMany_serves ?_ ?_
  · intro t row bearable found passes
    simp [misses t row bearable found] at passes
  · intro t toT _ u toU
    have settledU := (settled.bear lowest toT).bear lowest toU
    exact ⟨⟨fun row found evaluated => ⟨row, found, evaluated, Int.le_refl _⟩, fun _ => .refl u⟩,
      fun _ => settledU, settledU⟩

/-- A compare-and-swap that finds the row as it was read. -/
theorem swap_serves (settled : Settled cfg day s) (found : s.agency = some cur)
    (passes : ∀ row, row.Like cur → guard row = true)
    (improves : ∀ t row, Bearable cfg day s t → t.agency = some row → row.Like cur →
      Improves cfg day t row (f row)) :
    (Prog.transaction (updateMany guard f)).Serves (discipline cfg day lowest)
      (fun result t => result = .ok 1 ∧ Settled cfg day t) id s := by
  refine updateMany_serves ?_ ?_
  · intro t row bearable foundRow _ u further
    obtain ⟨before, foundBefore, like⟩ := like_of_evaluation bearable.evaluation found
    have commits : Prog.CommitsTo (discipline cfg day lowest) (Settled cfg day)
        (fun db => db.setAgency f) t :=
      commits_set (settled.bear lowest bearable) foundBefore fun v row' more _ foundRow' like' =>
        improves v row' (bearable.trans more) foundRow' (like'.trans like)
    obtain ⟨advances, calm, after⟩ := commits u further
    exact ⟨advances, calm, rfl, after⟩
  · intro t bearable failed
    obtain ⟨row, foundRow, like⟩ := like_of_evaluation bearable.evaluation found
    simp [foundRow, passes row like] at failed

open Prog in
theorem storeProgress_serves {total : Int} (settled : Settled cfg day s)
    (found : s.agency = some cur) (evaluated : cur.evaluatedOn day)
    (below : cur.matched cfg (startOfDay day) total ≤ cur.levelRank cfg) :
    (storeProgress total).Serves (discipline cfg day lowest) (fun _ t => Settled cfg day t) id s := by
  refine serves_autocommit (commits_set settled found ?_)
  intro t row _ settledT foundRow like
  refine ⟨settledT.steady row foundRow, fun _ => Int.le_refl _, like.evaluatedOn.trans evaluated,
    settledT.earned row foundRow (like.evaluatedOn.trans evaluated), ?_⟩
  rw [← like.matched, ← like.levelRank] at below
  exact below

private theorem total_le {s t : LevelDb} {now : Time} (settled : Settled cfg day s)
    (bearable : Bearable cfg day s t) (today : utcDay now = day) (past : now ≤ s.now) :
    resolveTierWindowTotal cfg s.earnings now ≤ resolveTierWindowTotal cfg t.earnings t.now :=
  Int.le_trans (bearable.totals now) (bearable.window settled.window now t.now today
    (bearable.today settled.today) (Nat.le_trans past bearable.now))

open Prog in
theorem raise_serves {now : Time} (settled : Settled cfg day s) (found : s.agency = some cur)
    (evaluated : cur.evaluatedOn day) (today : utcDay now = day) (past : now ≤ s.now) :
    (raise cfg now cur).Serves (discipline cfg day lowest) (fun _ t => Settled cfg day t) id s := by
  refine serves_select fun t bearable => ?_
  obtain ⟨row, foundRow, like⟩ := like_of_evaluation bearable.evaluation found
  have settledT := settled.bear lowest bearable
  have evaluatedRow : row.evaluatedOn day := like.evaluatedOn.trans evaluated
  generalize observed : resolveTierWindowTotal cfg t.earnings now = total
  have reached : rank cfg.levels
      (matchAgencyLevel (effectiveTotal cfg cur.lock total now).effective cfg.levels) =
      cur.matched cfg (startOfDay day) total := by
    rw [AgencyRow.matched, effectiveTotal_steady (settled.steady cur found) today]
  have higher := rank_higherLevel
    (matchAgencyLevel (effectiveTotal cfg cur.lock total now).effective cfg.levels)
    cur.currentLevel cfg.levels
  simp only []
  split
  next rises =>
    -- The level that was read is still stored, so that the compare-and-swap succeeds.
    have notLower : cur.levelRank cfg ≤ cur.matched cfg (startOfDay day) total := by
      rw [← reached]
      by_contra lower
      exact rises (if_pos (by simpa [AgencyRow.levelRank] using lower))
    have improves : ∀ u row', Bearable cfg day t u → u.agency = some row' → row'.Like cur →
        Improves cfg day u row' { row' with
          currentLevel :=
            matchAgencyLevel (effectiveTotal cfg cur.lock total now).effective cfg.levels,
          currentWindowTotalPoints := total } := by
      intro u row' further foundRow' likeCur
      have live := cur.matched_mono lowest (startOfDay day)
        (total_le settledT further today (Nat.le_trans past bearable.now))
      rw [observed] at live
      constructor
      · exact likeCur.lock ▸ settled.steady cur found
      · intro _
        rw [likeCur.levelRank]
        exact Int.le_trans notLower (Int.le_of_eq reached.symm)
      · exact likeCur.evaluatedOn.trans evaluated
      · simp only [AgencyRow.levelRank, AgencyRow.matched, likeCur.lock] at reached live ⊢
        rw [reached]
        omega
      · simp only [AgencyRow.levelRank, AgencyRow.matched, likeCur.lock] at reached ⊢
        exact Int.le_of_eq reached.symm
    refine (swap_serves settledT foundRow ?_ ?_).seq ?_ ?_
    · exact fun row' like' => by simp [like'.level.trans like.level]
    · exact fun u row' further foundRow' like' =>
        improves u row' further foundRow' (like'.trans like)
    · rintro count u ⟨one, rests⟩
      obtain rfl : count = 1 := Except.ok.inj one
      exact serves_pure rests
    · rintro e u ⟨one, -⟩
      cases one
  next stays =>
    refine storeProgress_serves settledT foundRow evaluatedRow ?_
    rw [like.matched, like.levelRank, ← reached, AgencyRow.levelRank]
    have kept : higherLevel _ _ cfg.levels = cur.currentLevel := not_not.mp stays
    rw [kept] at higher
    omega

private theorem effectiveTotal_cleared {lock : AgencyTierLockState} {actual : Int} {now : Time}
    (inactive : (effectiveTotal cfg lock actual now).lockActive = false) (other : Int) :
    effectiveTotal cfg noLock other now = effectiveTotal cfg lock other now := by
  have cleared : effectiveTotal cfg noLock other now = ⟨other, false⟩ := by
    simp [effectiveTotal, effectiveTierWindowTotal, isAgencyTierLockActive, noLock]
  rw [cleared]
  unfold effectiveTotal effectiveTierWindowTotal at inactive ⊢
  split at inactive
  · simp at inactive
  · rfl

/-- The row an evaluation writes in `u`, of totals that were read since the clock was read in
`s`. -/
theorem evaluatedRow_improves (lowest : LowestFirst cfg.levels) {s u : LevelDb}
    {before cur row : AgencyRow} {atDayStart live : Int} (settled : Settled cfg day s)
    (found : s.agency = some before) (likeBefore : before.Like cur) (like : row.Like cur)
    (steady : cur.lock.Steady day)
    (dayGrown : resolveTierWindowTotal cfg s.earnings (startOfDay day) ≤ atDayStart)
    (dayGrows : atDayStart ≤ resolveTierWindowTotal cfg u.earnings (startOfDay day))
    (liveGrown : resolveTierWindowTotal cfg s.earnings s.now ≤ live)
    (liveGrows : live ≤ resolveTierWindowTotal cfg u.earnings u.now) :
    Improves cfg day u row (evaluatedRow cfg s.now cur.lock atDayStart live row) := by
  have today := settled.today
  have start : utcStartOfDay s.now = startOfDay day := by rw [utcStartOfDay, today, startOfDay]
  have level : (evaluatedRow cfg s.now cur.lock atDayStart live row).levelRank cfg =
      max (cur.matched cfg (startOfDay day) atDayStart) (cur.matched cfg (startOfDay day) live) := by
    rw [AgencyRow.levelRank, evaluatedRow, rank_higherLevel, start,
      effectiveTotal_steady steady today, AgencyRow.matched, AgencyRow.matched]
  have lock : ∀ total, (evaluatedRow cfg s.now cur.lock atDayStart live row).matched cfg
      (startOfDay day) total = cur.matched cfg (startOfDay day) total := by
    intro total
    simp only [AgencyRow.matched, evaluatedRow, start, like.lock]
    split
    · rfl
    next inactive => rw [effectiveTotal_cleared (by simpa using inactive)]
  have dayBefore := cur.matched_mono lowest (startOfDay day) dayGrown
  have liveBefore := cur.matched_mono lowest (startOfDay day) liveGrown
  have dayAfter := cur.matched_mono lowest (startOfDay day) dayGrows
  have liveAfter := cur.matched_mono lowest (startOfDay day) liveGrows
  constructor
  · simp only [evaluatedRow, start]
    split
    · exact like.lock ▸ steady
    · intro ends bound
      simp [noLock] at bound
  · intro evaluated
    -- The level that is replaced was earned when the clock was read.
    have earned := settled.earned before found
      ((likeBefore.evaluatedOn.trans like.evaluatedOn.symm).trans evaluated)
    rw [likeBefore.levelRank, likeBefore.matched, likeBefore.matched] at earned
    rw [like.levelRank, level]
    omega
  · simp [AgencyRow.evaluatedOn, evaluatedRow, today]
  · rw [level, lock, lock]
    omega
  · rw [level, lock]
    exact Int.le_max_right _ _

open Prog in
/-- An attempt that read the clock in `s` and the row in `t`. -/
theorem evaluate_serves {s t : LevelDb} (settled : Settled cfg day s)
    (bearable : Bearable cfg day s t) :
    (evaluate cfg s.now t.agency).Serves (discipline cfg day lowest)
      (fun _ u => Settled cfg day u) id t := by
  have start : utcStartOfDay s.now = startOfDay day := by
    rw [utcStartOfDay, settled.today, startOfDay]
  refine serves_select fun u toU => ?_
  refine serves_select fun v toV => ?_
  have settledV := ((settled.bear lowest bearable).bear lowest toU).bear lowest toV
  cases found : t.agency with
  | none =>
    -- Nobody creates the agency: nothing is found, and nothing written.
    refine missed_serves settledV fun w row toW foundRow => ?_
    obtain ⟨other, foundOther, -⟩ := like_of_evaluation
      ((toU.trans toV).trans toW).evaluation.symm foundRow
    rw [found] at foundOther
    cases foundOther
  | some cur =>
    obtain ⟨before, foundBefore, likeBefore⟩ := like_of_evaluation bearable.evaluation.symm found
    obtain ⟨row, foundRow, like⟩ := like_of_evaluation (toU.trans toV).evaluation found
    have steady := (settled.bear lowest bearable).steady cur found
    refine (swap_serves settledV foundRow ?_ ?_).imp fun _ _ => And.right
    · exact fun row' like' => by simp [like'.last.trans like.last]
    · intro w row' toW _ like'
      have toEnd := (bearable.trans toU).trans toV
      refine evaluatedRow_improves lowest settled foundBefore likeBefore (like'.trans like) steady
        ?_ ?_ (toEnd.totals s.now) ?_
      · rw [start]
        exact (bearable.trans toU).totals (startOfDay day)
      · rw [start]
        exact (toV.trans toW).totals (startOfDay day)
      · exact total_le settledV toW settled.today toEnd.now

open Prog in
theorem recomputeAttempts_serves (skipDailyDedupe : Bool) (attempts : Nat)
    (settled : Settled cfg day s) :
    (recomputeAttempts cfg skipDailyDedupe attempts).Serves (discipline cfg day lowest)
      (fun _ t => Settled cfg day t) id s := by
  induction attempts generalizing s with
  | zero => exact serves_pure settled
  | succ attempts ih =>
    refine serves_select fun t bearable => ?_
    have settledT := settled.bear lowest bearable
    refine serves_select fun u further => ?_
    split
    · exact serves_pure (settledT.bear lowest further)
    · refine (evaluate_serves settledT further).seq ?_ ?_
      · intro count v settledV
        split
        · exact serves_pure settledV
        · exact ih settledV
      · exact fun _ _ => id

open Prog in
theorem refreshWindowProgress_serves (settled : Settled cfg day s) :
    (refreshWindowProgress cfg).Serves (discipline cfg day lowest)
      (fun _ t => Settled cfg day t) id s := by
  refine serves_select fun t bearable => ?_
  have settledT := settled.bear lowest bearable
  refine serves_select fun u further => ?_
  have settledU := settledT.bear lowest further
  cases found : u.agency with
  | none => exact serves_pure settledU
  | some cur =>
    simp only [settledT.today]
    split
    next evaluated => exact raise_serves settledU found evaluated settledT.today further.now
    · exact recomputeAttempts_serves false MAX_CAS_ATTEMPTS settledU

/-- An evaluation that read the row `cur`, and has not come to its compare-and-swap. -/
inductive Evaluating (cfg : LevelConfig) (cur : Option AgencyRow) : LevelProg Nat → Prop where
  | row (now : Time) : Evaluating cfg cur (evaluate cfg now cur)
  | dayStart (now : Time) (atDayStart : Int) : Evaluating cfg cur do
      let live ← Prog.select fun db => resolveTierWindowTotal cfg db.earnings now
      swap cfg now cur atDayStart live
  | live (now : Time) (atDayStart live : Int) : Evaluating cfg cur (swap cfg now cur atDayStart live)

/-- A recompute that is not misled when `db` is committed: it reads everything anew, or will find
that the agency was evaluated since it read the row. -/
inductive Notices (cfg : LevelConfig) (db : LevelDb) : LevelProg Unit → Prop where
  | anew (skipDailyDedupe : Bool) (attempts : Nat) :
      Notices cfg db (recomputeAttempts cfg skipDailyDedupe attempts)
  | stale {cur : Option AgencyRow} {p : LevelProg Nat} (evaluating : Evaluating cfg cur p)
      (since : db.agency.bind (·.lastLevelRecomputedAt) ≠ cur.bind (·.lastLevelRecomputedAt))
      (skipDailyDedupe : Bool) (attempts : Nat) : Notices cfg db do
        let count ← p
        if count = 1 then pure () else recomputeAttempts cfg skipDailyDedupe attempts

open Prog in
theorem Notices.serves {p : LevelProg Unit} (notices : Notices cfg s p)
    (settled : Settled cfg day s) :
    p.Serves (discipline cfg day lowest) (fun _ t => Settled cfg day t) id s := by
  cases notices with
  | anew skipDailyDedupe attempts =>
    exact recomputeAttempts_serves skipDailyDedupe attempts settled
  | @stale cur p evaluating since skipDailyDedupe attempts =>
    have missed : ∀ now atDayStart live t, Bearable cfg day s t →
        (swap cfg now cur atDayStart live).Serves (discipline cfg day lowest)
          (fun _ u => Settled cfg day u) id t := by
      intro now atDayStart live t toT
      refine missed_serves (settled.bear lowest toT) fun u row toU found => ?_
      obtain ⟨before, foundBefore, like⟩ :=
        like_of_evaluation (toT.trans toU).evaluation.symm found
      rw [foundBefore, Option.bind_some, like.last] at since
      exact decide_eq_false since
    have serves : p.Serves (discipline cfg day lowest) (fun _ u => Settled cfg day u) id s := by
      cases evaluating with
      | row now =>
        exact serves_select fun t toT => serves_select fun u toU => missed _ _ _ u (toT.trans toU)
      | dayStart now atDayStart => exact serves_select fun t toT => missed _ _ _ t toT
      | live now atDayStart live => exact missed _ _ _ s (.refl s)
    refine serves.seq (fun count t settledT => ?_) fun _ _ => id
    split
    · exact serves_pure settledT
    · exact recomputeAttempts_serves skipDailyDedupe attempts settledT

theorem handler_serves {request : Request} (evaluates : request.evaluates = true)
    (settled : Settled cfg day s) :
    (handler cfg request).Serves (discipline cfg day lowest) (fun _ t => Settled cfg day t) id s := by
  cases request with
  | recompute skipDailyDedupe =>
    exact recomputeAttempts_serves skipDailyDedupe MAX_CAS_ATTEMPTS settled
  | refresh => exact refreshWindowProgress_serves settled
  | credit rows => cases evaluates
  | clock now => cases evaluates

end Serves

/-! ### Runs -/

abbrev LevelRun := Config Request LevelDb LevelLock LedgerError

/-- The event stays within the day, and the window totals only grow. -/
def WithinDay (cfg : LevelConfig) (day : Nat) (c : LevelRun) (e : Event Request) : Prop :=
  ∀ c', c.apply (handler cfg) e = some c' →
    utcDay c'.db.now = day ∧ WindowGrows cfg day c'.db.earnings

/-- The level, the time of its evaluation and the tier lock only change while no other call minds:
each of the others has returned, has not made its first read, or is a recompute that notices. -/
def Undisturbed (cfg : LevelConfig) (c : LevelRun) (e : Event Request) : Prop :=
  ∀ i c', e = .advance i → c.apply (handler cfg) e = some c' →
    c'.db.evaluation ≠ c.db.evaluation → ∀ j u, j ≠ i → c.threads[j]? = some u →
    u.request.evaluates = true →
    u.prog.finished = true ∨ u.Unbegun (handler cfg) ∨ u.pending = [] ∧ Notices cfg c'.db u.prog

/-- The day has begun; its first evaluation is still to come. -/
structure DayBegins (cfg : LevelConfig) (day : Nat) (db : LevelDb) : Prop where
  today : utcDay db.now = day
  window : WindowGrows cfg day db.earnings
  unevaluated : ∀ row, db.agency = some row → ¬ row.evaluatedOn day

/-- If the day's first evaluation was made before `db`, then in `db'` the level is at least that of
`db`, and at least the level of the window total that was observed last before `db`. -/
def KeepsLevel (cfg : LevelConfig) (day : Nat) (db db' : LevelDb) : Prop :=
  ∀ row, db.agency = some row → row.evaluatedOn day →
    ∃ row', db'.agency = some row' ∧ row.levelRank cfg ≤ row'.levelRank cfg ∧
      row.matched cfg db.now row.currentWindowTotalPoints ≤ row'.levelRank cfg

structure Passes (cfg : LevelConfig) (s t : LevelDb) : Prop where
  agency : t.agency = s.agency
  now : s.now ≤ t.now
  totals : ∀ now, resolveTierWindowTotal cfg s.earnings now ≤
    resolveTierWindowTotal cfg t.earnings now

theorem Passes.bearable {s t : LevelDb} (passes : Passes cfg s t) (today : utcDay t.now = day)
    (window : WindowGrows cfg day t.earnings) : Bearable cfg day s t where
  evaluation := by rw [LevelDb.evaluation, passes.agency, LevelDb.evaluation]
  now := passes.now
  today _ := today
  window _ := window
  totals := passes.totals
  covered covered := by
    unfold Covered
    rw [passes.agency]
    exact covered

theorem handler_passes {request : Request} (others : ¬ request.evaluates = true) :
    (handler cfg request).Writes fun f => ∀ s, Passes cfg s (f s) := by
  cases request with
  | recompute skipDailyDedupe => exact absurd rfl others
  | refresh => exact absurd rfl others
  | credit rows =>
    exact ⟨fun s => ⟨rfl, Nat.le_refl _, resolveTierWindowTotal_append cfg s.earnings rows⟩,
      trivial⟩
  | clock now => exact ⟨fun s => ⟨rfl, Nat.le_max_left _ _, fun _ => Int.le_refl _⟩, trivial⟩

private theorem passes_refl (s : LevelDb) : Passes cfg s s :=
  ⟨rfl, Nat.le_refl _, fun _ => Int.le_refl _⟩

private theorem passes_trans (s t u : LevelDb) (first : Passes cfg s t) (second : Passes cfg t u) :
    Passes cfg s u :=
  ⟨second.agency.trans first.agency, Nat.le_trans first.now second.now,
    fun now => Int.le_trans (first.totals now) (second.totals now)⟩

/-- The state of a run whose calls do not disturb each other. -/
structure Orderly (cfg : LevelConfig) (day : Nat) (lowest : LowestFirst cfg.levels)
    (c : LevelRun) : Prop extends (discipline cfg day lowest).Tracked (handler cfg) c where
  passing : ∀ t ∈ c.threads, ¬ t.request.evaluates = true → t.Along (Passes cfg)

theorem Orderly.apply {lowest : LowestFirst cfg.levels} {c c' : LevelRun} {e : Event Request}
    (orderly : Orderly cfg day lowest c) (within : WithinDay cfg day c e)
    (undisturbed : Undisturbed cfg c e) (applied : c.apply (handler cfg) e = some c') :
    Orderly cfg day lowest c' ∧ (Bearable cfg day c.db c'.db ∨ Advances cfg day c.db c'.db) := by
  obtain ⟨today, window⟩ := within c' applied
  have others : ∀ i t t', e = .advance i → c.threads[i]? = some t →
      ¬ (discipline cfg day lowest).mine t.request → t.Moves c.db t' c'.db →
      Bearable cfg day c.db c'.db := by
    intro i t t' _ found other moves
    have along := orderly.passing t (List.mem_of_getElem? found) other
    exact (along.moves passes_refl passes_trans moves).1.bearable today window
  have apart : ∀ i, e = .advance i → Advances cfg day c.db c'.db →
      Settled cfg day c'.db →
      Bearable cfg day c.db c'.db ∨ (discipline cfg day lowest).Apart (handler cfg) c i c'.db := by
    intro i isAdvance advances settled
    by_cases same : c'.db.evaluation = c.db.evaluation
    · exact .inl (advances.bearable same)
    · refine .inr fun j u different found evaluates => ?_
      refine (undisturbed i c' isAdvance applied same j u different found evaluates).imp_right ?_
      refine Or.imp_right fun ⟨nothing, notices⟩ => ?_
      have view : u.view = id := by
        unfold Thread.view
        rw [nothing]
        rfl
      exact view ▸ notices.serves settled
  obtain ⟨tracked, how⟩ := orderly.toTracked.apply
    (fun _ evaluates _ settled => handler_serves evaluates settled) (fun _ => trivial)
    others apart applied
  refine ⟨⟨tracked, ?_⟩, how⟩
  exact Config.apply_along passes_refl passes_trans (fun _ other => handler_passes other)
    orderly.passing applied

private theorem level_mono {lowest : LowestFirst cfg.levels} {c c' : LevelRun}
    (orderly : Orderly cfg day lowest c)
    (run : Reaches (handler cfg) (fun c e => WithinDay cfg day c e ∧ Undisturbed cfg c e) c c') :
    Orderly cfg day lowest c' ∧ ∀ row, c.db.agency = some row → row.evaluatedOn day →
      ∃ row', c'.db.agency = some row' ∧ row'.evaluatedOn day ∧
        row.levelRank cfg ≤ row'.levelRank cfg := by
  induction run with
  | refl => exact ⟨orderly, fun row found evaluated => ⟨row, found, evaluated, Int.le_refl _⟩⟩
  | step before allowed applied ih =>
    obtain ⟨orderlyMid, kept⟩ := ih
    obtain ⟨orderlyEnd, how⟩ := orderlyMid.apply allowed.1 allowed.2 applied
    refine ⟨orderlyEnd, fun row found evaluated => ?_⟩
    obtain ⟨mid, foundMid, evaluatedMid, higher⟩ := kept row found evaluated
    rcases how with bearable | advances
    · obtain ⟨row', found', like⟩ := like_of_evaluation bearable.evaluation foundMid
      exact ⟨row', found', like.evaluatedOn.trans evaluatedMid, like.levelRank.symm ▸ higher⟩
    · obtain ⟨row', found', evaluated', further⟩ := advances.level mid foundMid evaluatedMid
      exact ⟨row', found', evaluated', Int.le_trans higher further⟩

/-- In a run of one day whose calls do not disturb each other, and in which no tier lock ends, the
level never drops after the day's first evaluation. -/
theorem level_kept_of_undisturbed (lowest : LowestFirst cfg.levels) {db : LevelDb}
    (begins : DayBegins cfg day db)
    (steady : ∀ row, db.agency = some row → row.lock.Steady day) {c c' : LevelRun}
    (run : Reaches (handler cfg) (fun c e => WithinDay cfg day c e ∧ Undisturbed cfg c e)
      (Config.idle db) c)
    (later : Reaches (handler cfg) (fun c e => WithinDay cfg day c e ∧ Undisturbed cfg c e) c c') :
    KeepsLevel cfg day c.db c'.db := by
  have settled : Settled cfg day db :=
    ⟨begins.today, steady, begins.window,
      fun row found evaluated => absurd evaluated (begins.unevaluated row found),
      fun row found evaluated => absurd evaluated (begins.unevaluated row found)⟩
  have idle : Orderly cfg day lowest (Config.idle db) :=
    ⟨Discipline.tracked_idle settled, by simp [Config.idle]⟩
  have orderly := (level_mono idle run).1
  intro row found evaluated
  obtain ⟨row', found', -, higher⟩ := (level_mono orderly later).2 row found evaluated
  refine ⟨row', found', higher, Int.le_trans ?_ higher⟩
  rw [AgencyRow.matched,
    effectiveTotal_steady (orderly.rest.steady row found) orderly.rest.today]
  exact orderly.rest.covered row found evaluated

end Day

/-! ### Two runs on a small ladder -/

def smallLadder : LevelConfig where
  levels := [⟨"D", 0⟩, ⟨"C", 1000⟩]
  windowDays := 30
  windowHours := 0
  windowMinutes := 0
  includeHostEarnings := true
  includeAgencyCommission := false
  levels_nodup := by decide

/-- An agency at one second past the midnight of day 40. -/
def morning : LevelDb where
  now := 3456001000
  agency := some ⟨"D", 0, none, noLock⟩
  earnings := []

/-- A host received 1000 points half a second past midnight. -/
def hostCredit : Request := .credit [⟨.hostEarnings, 3456000500, 1000⟩]

theorem smallLadder_lowestFirst : LowestFirst smallLadder.levels := by
  intro first isFirst
  obtain rfl : ⟨"D", 0⟩ = first := Option.some.inj isFirst
  decide

private theorem smallLadder_window (day : Nat) (rows : List EarningRow) :
    WindowGrows smallLadder day rows :=
  windowGrows_of_wholeDays (by decide) day rows

private theorem morning_begins : DayBegins smallLadder 40 morning :=
  ⟨by decide, smallLadder_window 40 [], by
    intro row found
    obtain rfl := Option.some.inj found
    decide⟩

private theorem morning_steady : ∀ row, morning.agency = some row → row.lock.Steady 40 := by
  intro row found ends bound
  obtain rfl := Option.some.inj found
  cases bound

def inDay (c : LevelRun) (e : Event Request) : Bool :=
  (c.apply (handler smallLadder) e).all fun c' => decide (utcDay c'.db.now = 40)

private theorem inDay_sound (c : LevelRun) (e : Event Request) (checked : inDay c e = true) :
    WithinDay smallLadder 40 c e := by
  intro c' applied
  rw [inDay, applied] at checked
  exact ⟨by simpa using checked, smallLadder_window 40 _⟩

/-- The agency is at this level, with this progress, since the morning's evaluation. -/
def stands (level : String) (progress : Int) (c : LevelRun) : Bool :=
  decide (c.db.agency = some ⟨level, progress, some 3456001000, noLock⟩)

/-- The event stays within day 40 and is made while no other call is under way. -/
def inDayAlone (c : LevelRun) (e : Event Request) : Bool :=
  inDay c e && match e with
    | .advance i => c.threads.zipIdx.all fun (u, j) =>
        decide (j = i) || u.prog.finished || !u.request.evaluates
    | _ => true

private theorem inDayAlone_sound (c : LevelRun) (e : Event Request)
    (checked : inDayAlone c e = true) :
    WithinDay smallLadder 40 c e ∧ Undisturbed smallLadder c e := by
  obtain ⟨within, alone⟩ := Bool.and_eq_true_iff.mp checked
  refine ⟨inDay_sound c e within, ?_⟩
  rintro i c' rfl - - j u different found evaluates
  have member : (u, j) ∈ c.threads.zipIdx := List.mem_zipIdx_iff_getElem?.mpr found
  have passed := List.all_eq_true.mp alone (u, j) member
  simp only [different, decide_false, Bool.false_or, evaluates, Bool.not_true, Bool.or_false]
    at passed
  exact .inl passed

/-- A run of one day: the first evaluation, a credit, and the refresh that follows it. -/
theorem level_kept_smallLadder : ∃ c c' : LevelRun,
    Reaches (handler smallLadder)
      (fun c e => WithinDay smallLadder 40 c e ∧ Undisturbed smallLadder c e)
      (Config.idle morning) c ∧
    Reaches (handler smallLadder)
      (fun c e => WithinDay smallLadder 40 c e ∧ Undisturbed smallLadder c e) c c' ∧
    stands "D" 0 c = true ∧ stands "C" 1000 c' = true ∧ KeepsLevel smallLadder 40 c.db c'.db := by
  obtain ⟨c, run, tested⟩ := reaches_of_checked (handler smallLadder) inDayAlone
    (serve (Request.recompute true) 0 8) (Config.idle morning)
    (fun c => stands "D" 0 c && (c.runChecked (handler smallLadder) inDayAlone
      (serve hostCredit 1 2 ++ serve Request.refresh 2 7)).any (stands "C" 1000))
    inDayAlone_sound (by decide)
  obtain ⟨before, after⟩ := Bool.and_eq_true_iff.mp tested
  obtain ⟨c', later, raised⟩ := reaches_of_checked (handler smallLadder) inDayAlone
    (serve hostCredit 1 2 ++ serve Request.refresh 2 7) c (stands "C" 1000) inDayAlone_sound after
  exact ⟨c, c', run, later, before, raised, level_kept_of_undisturbed smallLadder_lowestFirst
    morning_begins morning_steady run later⟩

/-- A forced evaluation that read the totals before a credit writes after the refresh that followed
the credit, and takes the agency from C back to D. -/
theorem level_drops_when_overtaken :
    ¬ ∀ (db : LevelDb) (c c' : LevelRun), DayBegins smallLadder 40 db →
      Reaches (handler smallLadder) (WithinDay smallLadder 40) (Config.idle db) c →
      Reaches (handler smallLadder) (WithinDay smallLadder 40) c c' →
      KeepsLevel smallLadder 40 c.db c'.db := by
  intro keeps
  obtain ⟨c, run, tested⟩ := reaches_of_checked (handler smallLadder) inDay
    (serve (Request.recompute true) 0 8 ++ serve (Request.recompute true) 1 4 ++
      serve hostCredit 2 2 ++
      serve Request.refresh 3 7) (Config.idle morning)
    (fun c => stands "C" 1000 c && (c.runChecked (handler smallLadder) inDay
      (List.replicate 4 (Event.advance 1))).any (stands "D" 0))
    inDay_sound (by decide)
  obtain ⟨before, after⟩ := Bool.and_eq_true_iff.mp tested
  obtain ⟨c', later, dropped⟩ := reaches_of_checked (handler smallLadder) inDay
    (List.replicate 4 (Event.advance 1)) c (stands "D" 0) inDay_sound after
  have found := of_decide_eq_true before
  obtain ⟨row, foundRow, higher, -⟩ := keeps morning c c' morning_begins run later _ found
    (by decide)
  obtain rfl := Option.some.inj ((of_decide_eq_true dropped).symm.trans foundRow)
  exact absurd higher (by decide)

end OlNode.AgencyLevel
