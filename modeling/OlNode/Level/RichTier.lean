import OlNode.Ladder
import OlNode.Schema
import Mathlib.Algebra.Order.Ring.Int
import Mathlib.Data.List.Perm.Basic

/-!
# Rich tiers: recharges and the monthly rollover

A recharge adds to the aggregate of the current month and may raise the user's badge. The rollover
closes a month: what was reached there becomes a carry-over into the next month, and the badge
starts again from it, together with the recharges the new month has seen already. The two commute,
because both derive the badge from carry-over and aggregate, and a ladder never falls when coins
are added.
-/
namespace OlNode.RichTier

open ReadCommitted

structure RichTierLadderRow where
  tier : Int
  minRechargeCoins : Int
  displayName : String
  deriving DecidableEq

structure Month where
  year : Int
  month : Nat
  deriving DecidableEq

def nextYearMonth (m : Month) : Month :=
  if m.month = 12 then { year := m.year + 1, month := 1 }
  else { year := m.year, month := m.month + 1 }

/-! ### The ladder -/

/-- White space in the sense of `String.prototype.trim`. -/
def isWhiteSpace (c : Char) : Bool :=
  (0x9 ≤ c.val && c.val ≤ 0xD) || (0x2000 ≤ c.val && c.val ≤ 0x200A) ||
    [0x20, 0xA0, 0x1680, 0x2028, 0x2029, 0x202F, 0x205F, 0x3000, 0xFEFF].contains c.val

def trim (text : String) : String :=
  String.ofList
    ((text.toList.dropWhile isWhiteSpace).reverse.dropWhile isWhiteSpace).reverse

private def validationError (message : String) : LedgerError :=
  .app { status := 400, message, code := .validationError }

/-- The checks of `replaceTierConfig` on the rows from index `i` on, with the threshold of the row
before. -/
def checkTiers (i : Nat) (before : Option Int) : List RichTierLadderRow → Except LedgerError Unit
  | [] => .ok ()
  | row :: rows =>
    if row.tier ≠ i + 1 then .error (validationError "Tiers must be uniquely 1 through 10")
    else if row.minRechargeCoins ≤ 0 then
      .error (validationError "minRechargeCoins must be a positive integer")
    else if row.displayName = "" then .error (validationError "displayName is required")
    else if before.any (row.minRechargeCoins ≤ ·) then
      .error (validationError "minRechargeCoins must strictly increase with tier")
    else checkTiers (i + 1) (some row.minRechargeCoins) rows

/-- The ladder that is stored, if the rows are accepted. -/
def replaceTierConfig (tiers : List RichTierLadderRow) :
    Except LedgerError (List RichTierLadderRow) :=
  let parsed := tiers.map fun t => { t with displayName := trim t.displayName }
  if parsed.length ≠ 10 then
    .error (validationError "Exactly 10 rich tiers (1–10) are required")
  else
    let sorted := parsed.mergeSort fun a b => decide (a.tier ≤ b.tier)
    match checkTiers 0 none sorted with
    | .ok () => .ok sorted
    | .error error => .error error

def sortedLadder (ladder : List RichTierLadderRow) : List RichTierLadderRow :=
  ladder.mergeSort fun a b => decide (a.tier < b.tier ∨
    (a.tier = b.tier ∧ a.minRechargeCoins < b.minRechargeCoins))

def thresholdForTier (tier : Int) (ladder : List RichTierLadderRow) : Int :=
  ((ladder.find? fun row => row.tier = tier).map (·.minRechargeCoins)).getD 0

def computeTier (coins : Int) (ladder : List RichTierLadderRow) : Int :=
  Ladder.climb RichTierLadderRow.tier RichTierLadderRow.minRechargeCoins coins 0
    (sortedLadder ladder)

def retentionLandingTier (closedMonthTier : Int) : Int :=
  if closedMonthTier ≤ 2 then 0
  else if closedMonthTier ≤ 6 then closedMonthTier - 2
  else if closedMonthTier ≤ 9 then closedMonthTier - 3
  else if closedMonthTier = 10 then 7
  else 0

def applyRetentionRule (newTier : Int) (ladder : List RichTierLadderRow) : Int :=
  let landing := retentionLandingTier newTier
  if landing ≤ 0 then 0
  else
    let floor := thresholdForTier landing ladder
    let next := thresholdForTier (landing + 1) ladder
    if next ≤ floor then floor else floor + (next - floor) / 2

/-! ### The operations -/

structure UserRichTier where
  currentTier : Int
  evaluatedFrom : Month
  evaluatedRechargeCoins : Int
  carryoverCoins : Int

structure MonthlyRechargeAggregate where
  totalRechargeCoins : Int
  rechargeCount : Nat

structure RichTierHistory where
  tier : Int
  totalProgressCoins : Int
  carryoverApplied : Int
  pureRechargeCoins : Int

structure RichDb where
  row : Option UserRichTier
  aggregate : Month → Option MonthlyRechargeAggregate
  history : Month → Option RichTierHistory

inductive RichRow where
  | userRichTier | aggregate (m : Month) | history (m : Month)

abbrev RichTx := Tx RichDb RichRow LedgerError
abbrev RichProg := Prog RichDb RichRow LedgerError

def RichDb.total (db : RichDb) (m : Month) : Int :=
  ((db.aggregate m).map (·.totalRechargeCoins)).getD 0

def RichDb.carryover (db : RichDb) : Int := (db.row.map (·.carryoverCoins)).getD 0

def RichDb.tier (db : RichDb) : Int := (db.row.map (·.currentTier)).getD 0

def addedTo (agg : Option MonthlyRechargeAggregate) (deltaCoins : Int) :
    MonthlyRechargeAggregate :=
  match agg with
  | none => ⟨deltaCoins, 1⟩
  | some agg => ⟨agg.totalRechargeCoins + deltaCoins, agg.rechargeCount + 1⟩

/-- `upsertMonthlyAggregate`. -/
def RichDb.addRecharge (db : RichDb) (m : Month) (deltaCoins : Int) : RichDb :=
  let aggregate := Function.update db.aggregate m (some (addedTo (db.aggregate m) deltaCoins))
  { db with aggregate }

/-- The upsert of a raised badge. -/
def RichDb.raiseTier (db : RichDb) (m : Month) (liveTier : Int) : RichDb :=
  match db.row with
  | none => { db with row := some ⟨liveTier, m, 0, 0⟩ }
  | some row => { db with row := some { row with currentTier := liveTier } }

def upsertUserRichTier (row : UserRichTier) : RichTx Unit :=
  Tx.update .userRichTier fun db => { db with row := some row }

def insertHistory (m : Month) (closed : RichTierHistory) : RichTx Unit := do
  Tx.lockRow (.history m)
  let existing ← Tx.select fun db => db.history m
  Tx.ensure existing.isNone .uniqueViolation
  Tx.update (.history m) fun db =>
    { db with history := Function.update db.history m (some closed) }

/-- `applyRecharge` in the month `m`. -/
def applyRecharge (ladder : List RichTierLadderRow) (m : Month) (amountCoins : Int) :
    RichTx Unit := do
  Tx.update (.aggregate m) fun db => db.addRecharge m amountCoins
  let monthTotal ← Tx.select fun db => ((db.aggregate m).map (·.totalRechargeCoins)).getD amountCoins
  let (carryover, previousTier) ← Tx.select fun db => (db.carryover, db.tier)
  let liveTier := computeTier (carryover + monthTotal) ladder
  Tx.when (previousTier < liveTier)
    (Tx.update .userRichTier fun db => db.raiseTier m liveTier)

/-- `processMonthlyRolloverForUser` for the closed month `prev`. -/
def processMonthlyRollover (ladder : List RichTierLadderRow) (prev : Month) : RichTx Unit := do
  let closed ← Tx.select fun db => (db.history prev).isSome
  if closed then pure ()
  else
    let carryIn ← Tx.select RichDb.carryover
    let pureRecharge ← Tx.select fun db => db.total prev
    let progressTotal := carryIn + pureRecharge
    let effectiveTier := computeTier progressTotal ladder
    let newCarryover := applyRetentionRule effectiveTier ladder
    let openTotal ← Tx.select fun db => db.total (nextYearMonth prev)
    let openMonthTier := computeTier (newCarryover + openTotal) ladder
    upsertUserRichTier ⟨openMonthTier, prev, progressTotal, newCarryover⟩
    insertHistory prev ⟨effectiveTier, progressTotal, newCarryover, pureRecharge⟩

inductive Request where
  /-- A recharge in the month that is open. -/
  | recharge (amountCoins : Int)
  | rollover

def handler (ladder : List RichTierLadderRow) (prev : Month) : Request → RichProg Unit
  | .recharge amountCoins =>
    Prog.transaction (applyRecharge ladder (nextYearMonth prev) amountCoins)
  | .rollover => Prog.transaction (processMonthlyRollover ladder prev)

/-- The state after the requests have been served in this order. -/
def serveAll (ladder : List RichTierLadderRow) (prev : Month) (requests : List Request)
    (db : RichDb) : RichDb :=
  requests.foldl (fun s request => ((handler ladder prev request).call s).2) db

def Request.ofAmount : Request → Prop
  | .recharge amountCoins => 0 ≤ amountCoins
  | .rollover => True

/-! ### Accepted ladders -/

private theorem checkTiers_ascending {rows : List RichTierLadderRow} {i : Nat}
    {before : Option Int} (checked : checkTiers i before rows = .ok ()) :
    (∀ row ∈ rows, (i : Int) < row.tier ∧ ∀ t ∈ before, t < row.minRechargeCoins) ∧
      rows.Pairwise fun row next =>
        row.tier < next.tier ∧ row.minRechargeCoins < next.minRechargeCoins := by
  induction rows generalizing i before with
  | nil => simp
  | cons row rows ih =>
    rw [checkTiers] at checked
    split at checked
    · cases checked
    next tier =>
    split at checked
    · cases checked
    split at checked
    · cases checked
    split at checked
    · cases checked
    next increases =>
    obtain ⟨later, ascending⟩ := ih checked
    have numbered : row.tier = i + 1 := by simpa using tier
    have above : ∀ t ∈ before, t < row.minRechargeCoins := by
      intro t given
      simp only [Option.mem_def] at given
      simpa [given] using increases
    constructor
    · intro next member
      rcases List.mem_cons.mp member with rfl | member
      · exact ⟨by omega, above⟩
      · obtain ⟨higher, more⟩ := later next member
        refine ⟨by push_cast at higher; omega, fun t given => ?_⟩
        exact (above t given).trans (more row.minRechargeCoins rfl)
    · refine List.pairwise_cons.mpr ⟨fun next member => ?_, ascending⟩
      obtain ⟨higher, more⟩ := later next member
      exact ⟨by push_cast at higher; omega, more row.minRechargeCoins rfl⟩

theorem replaceTierConfig_ascending {tiers ladder : List RichTierLadderRow}
    (accepted : replaceTierConfig tiers = .ok ladder) :
    (∀ row ∈ ladder, 0 < row.tier) ∧ ladder.Pairwise fun row next =>
      row.tier < next.tier ∧ row.minRechargeCoins < next.minRechargeCoins := by
  rw [replaceTierConfig] at accepted
  dsimp only at accepted
  split at accepted
  · cases accepted
  · split at accepted
    next checked =>
      cases accepted
      obtain ⟨tiers, ascending⟩ := checkTiers_ascending checked
      exact ⟨fun row member => (tiers row member).1, ascending⟩
    · cases accepted

/-- Sorting an accepted ladder again changes nothing. -/
theorem sortedLadder_eq {ladder : List RichTierLadderRow} (ascending : ladder.Pairwise
    fun row next => row.tier < next.tier ∧ row.minRechargeCoins < next.minRechargeCoins) :
    sortedLadder ladder = ladder := by
  refine List.mergeSort_of_pairwise ?_
  exact ascending.imp fun less => by simp [less.1]

/-! ### What the operations do -/

/-- The badge is raised to a tier, and stays where it is if it is higher. -/
def RichDb.raisedTo (db : RichDb) (m : Month) (tier : Int) : RichDb :=
  if db.tier < tier then db.raiseTier m tier else db

def recharged (ladder : List RichTierLadderRow) (m : Month) (amountCoins : Int) (db : RichDb) :
    RichDb :=
  (db.addRecharge m amountCoins).raisedTo m
    (computeTier (db.carryover + (db.total m + amountCoins)) ladder)

/-- The history row of the closed month. -/
def closing (ladder : List RichTierLadderRow) (prev : Month) (db : RichDb) : RichTierHistory :=
  let progressTotal := db.carryover + db.total prev
  let effectiveTier := computeTier progressTotal ladder
  ⟨effectiveTier, progressTotal, applyRetentionRule effectiveTier ladder, db.total prev⟩

def rolledOver (ladder : List RichTierLadderRow) (prev : Month) (db : RichDb) : RichDb :=
  if (db.history prev).isSome then db
  else
    let closed := closing ladder prev db
    { db with
      row := some ⟨computeTier (closed.carryoverApplied + db.total (nextYearMonth prev)) ladder,
        prev, closed.totalProgressCoins, closed.carryoverApplied⟩
      history := Function.update db.history prev (some closed) }

section Effects

variable {ladder : List RichTierLadderRow} {m : Month} {db : RichDb} (amount : Int)

@[simp] theorem total_addRecharge :
    (db.addRecharge m amount).total m = db.total m + amount := by
  cases found : db.aggregate m <;> simp [RichDb.total, RichDb.addRecharge, addedTo, found]

theorem total_addRecharge_other {other : Month} (different : other ≠ m) (amount : Int) :
    (db.addRecharge m amount).total other = db.total other := by
  simp [RichDb.total, RichDb.addRecharge, different]

@[simp] theorem tier_addRecharge : (db.addRecharge m amount).tier = db.tier := rfl

@[simp] theorem carryover_addRecharge :
    (db.addRecharge m amount).carryover = db.carryover := rfl

@[simp] theorem history_addRecharge :
    (db.addRecharge m amount).history = db.history := rfl

theorem addRecharge_comm (first second : Int) :
    (db.addRecharge m first).addRecharge m second =
      (db.addRecharge m second).addRecharge m first := by
  cases found : db.aggregate m with
  | none => simp [RichDb.addRecharge, addedTo, found, add_comm]
  | some agg => simp [RichDb.addRecharge, addedTo, found, add_right_comm]

variable (tier : Int)

theorem tier_raiseTier : (db.raiseTier m tier).tier = tier := by
  cases row : db.row <;> simp [RichDb.raiseTier, RichDb.tier, row]

theorem carryover_raiseTier : (db.raiseTier m tier).carryover = db.carryover := by
  cases row : db.row <;> simp [RichDb.raiseTier, RichDb.carryover, row]

theorem raiseTier_raiseTier (first second : Int) :
    (db.raiseTier m first).raiseTier m second = db.raiseTier m second := by
  cases row : db.row <;> simp [RichDb.raiseTier, row]

theorem raiseTier_addRecharge (tier amount : Int) :
    (db.raiseTier m tier).addRecharge m amount = (db.addRecharge m amount).raiseTier m tier := by
  cases row : db.row <;> simp [RichDb.raiseTier, RichDb.addRecharge, row]

theorem total_raiseTier (other : Month) :
    (db.raiseTier m tier).total other = db.total other := by
  cases row : db.row <;> simp [RichDb.raiseTier, RichDb.total, row]

theorem history_raiseTier : (db.raiseTier m tier).history = db.history := by
  cases row : db.row <;> simp [RichDb.raiseTier, row]

theorem carryover_raisedTo : (db.raisedTo m tier).carryover = db.carryover := by
  unfold RichDb.raisedTo
  split
  · exact carryover_raiseTier tier
  · rfl

theorem total_raisedTo (other : Month) :
    (db.raisedTo m tier).total other = db.total other := by
  unfold RichDb.raisedTo
  split
  · exact total_raiseTier tier other
  · rfl

theorem aggregate_raisedTo : (db.raisedTo m tier).aggregate = db.aggregate := by
  unfold RichDb.raisedTo
  split
  · cases row : db.row <;> simp [RichDb.raiseTier, row]
  · rfl

/-- With a badge that is not above the tier, the badge becomes that tier. -/
theorem raisedTo_of_row {row : UserRichTier} {tier : Int} (found : db.row = some row)
    (below : row.currentTier ≤ tier) :
    db.raisedTo m tier = { db with row := some { row with currentTier := tier } } := by
  have current : db.tier = row.currentTier := by simp [RichDb.tier, found]
  unfold RichDb.raisedTo
  split
  · simp [RichDb.raiseTier, found]
  next reached =>
    have same : row.currentTier = tier := by omega
    rw [← same, ← found]

theorem history_raisedTo : (db.raisedTo m tier).history = db.history := by
  unfold RichDb.raisedTo
  split
  · exact history_raiseTier tier
  · rfl

theorem raisedTo_addRecharge (tier amount : Int) :
    (db.raisedTo m tier).addRecharge m amount = (db.addRecharge m amount).raisedTo m tier := by
  unfold RichDb.raisedTo
  rw [tier_addRecharge]
  split
  · exact raiseTier_addRecharge tier amount
  · rfl

/-- Raising the badge on the way to a tier that is at least as high makes no difference. -/
theorem raisedTo_raisedTo {first second : Int} (climbs : first ≤ second) :
    (db.raisedTo m first).raisedTo m second = db.raisedTo m second := by
  by_cases low : db.tier < first
  · have lower : db.tier < second := by omega
    rw [RichDb.raisedTo, RichDb.raisedTo, RichDb.raisedTo, if_pos low, if_pos lower,
      tier_raiseTier, raiseTier_raiseTier]
    split
    · rfl
    next equal =>
      have same : first = second := by omega
      rw [same]
  · rw [show db.raisedTo m first = db from if_neg low]

/-- The badge only ever rises. -/
theorem tier_raisedTo {amount : Int} :
    db.tier ≤ ((db.addRecharge m amount).raisedTo m tier).tier := by
  unfold RichDb.raisedTo
  rw [tier_addRecharge]
  split
  next low =>
    rw [tier_raiseTier]
    omega
  · exact le_refl _

theorem eval_applyRecharge :
    (applyRecharge ladder m amount).eval db = .ok ((), recharged ladder m amount db) := by
  have total : (((db.addRecharge m amount).aggregate m).map (·.totalRechargeCoins)).getD amount =
      db.total m + amount := by
    cases found : db.aggregate m <;> simp [RichDb.total, RichDb.addRecharge, addedTo, found]
  rw [applyRecharge, Tx.eval_update_bind, Tx.eval_select_bind, total, Tx.eval_select_bind]
  refine (Tx.eval_when (db.tier < computeTier (db.carryover + (db.total m + amount)) ladder)
    _ _).trans ?_
  rw [recharged, RichDb.raisedTo, tier_addRecharge]
  split <;> rfl

theorem eval_processMonthlyRollover {prev : Month} :
    (processMonthlyRollover ladder prev).eval db = .ok ((), rolledOver ladder prev db) := by
  rw [processMonthlyRollover, Tx.eval_select_bind, rolledOver]
  split
  · rfl
  next unclosed =>
    have isNone : (db.history prev).isNone = true := by simpa using unclosed
    simp [upsertUserRichTier, insertHistory, closing, isNone]

end Effects

/-! ### They commute -/

section Commute

variable {ladder : List RichTierLadderRow}

theorem nextYearMonth_ne (m : Month) : m ≠ nextYearMonth m := by
  intro same
  unfold nextYearMonth at same
  split at same
  · have year := congrArg Month.year same
    simp at year
  · have month := congrArg Month.month same
    simp at month

theorem computeTier_mono {tiers : List RichTierLadderRow}
    (accepted : replaceTierConfig tiers = .ok ladder) {coins more : Int} (grows : coins ≤ more) :
    computeTier coins ladder ≤ computeTier more ladder := by
  obtain ⟨positive, ascending⟩ := replaceTierConfig_ascending accepted
  rw [computeTier, computeTier, sortedLadder_eq ascending]
  refine Ladder.climb_mono ?_ (fun row member => (positive row member).le) grows
  exact ascending.imp fun less => ⟨less.1, less.2.le⟩

variable {tiers : List RichTierLadderRow} (accepted : replaceTierConfig tiers = .ok ladder)

include accepted

theorem recharged_comm (m : Month) {first second : Int} (nonneg : 0 ≤ first) (more : 0 ≤ second)
    (db : RichDb) :
    recharged ladder m second (recharged ladder m first db) =
      recharged ladder m first (recharged ladder m second db) := by
  -- Both orders raise the badge to the tier of the sum.
  have both : ∀ {x y : Int}, 0 ≤ y → recharged ladder m y (recharged ladder m x db) =
      ((db.addRecharge m x).addRecharge m y).raisedTo m
        (computeTier (db.carryover + (db.total m + x + y)) ladder) := by
    intro x y amount
    rw [recharged, recharged, carryover_raisedTo, total_raisedTo, raisedTo_addRecharge,
      carryover_addRecharge, total_addRecharge]
    exact raisedTo_raisedTo (computeTier_mono accepted (by omega))
  rw [both more, both nonneg, addRecharge_comm]
  have sum : db.total m + first + second = db.total m + second + first := by omega
  rw [sum]

theorem recharged_rolledOver (prev : Month) {amount : Int} (nonneg : 0 ≤ amount) (db : RichDb) :
    recharged ladder (nextYearMonth prev) amount (rolledOver ladder prev db) =
      rolledOver ladder prev (recharged ladder (nextYearMonth prev) amount db) := by
  have history : (recharged ladder (nextYearMonth prev) amount db).history = db.history := by
    rw [recharged, history_raisedTo, history_addRecharge]
  by_cases closed : (db.history prev).isSome
  · rw [rolledOver, rolledOver, history, if_pos closed, if_pos closed]
  · have same : closing ladder prev (recharged ladder (nextYearMonth prev) amount db) =
        closing ladder prev db := by
      simp only [closing, recharged, carryover_raisedTo, total_raisedTo, carryover_addRecharge,
        total_addRecharge_other (nextYearMonth_ne prev)]
    have total : (recharged ladder (nextYearMonth prev) amount db).total (nextYearMonth prev) =
        db.total (nextYearMonth prev) + amount := by
      rw [recharged, total_raisedTo, total_addRecharge]
    have aggregate : (recharged ladder (nextYearMonth prev) amount db).aggregate =
        (db.addRecharge (nextYearMonth prev) amount).aggregate := by
      rw [recharged, aggregate_raisedTo]
    -- After the rollover the badge stands for the carry-over and what the month has seen.
    have below := computeTier_mono accepted
      (show (closing ladder prev db).carryoverApplied + db.total (nextYearMonth prev) ≤
        (closing ladder prev db).carryoverApplied + (db.total (nextYearMonth prev) + amount) by
          omega)
    rw [rolledOver, rolledOver, history, if_neg closed, if_neg closed]
    dsimp only
    rw [same, total, aggregate, recharged]
    refine (raisedTo_of_row rfl ?_).trans ?_
    · exact below
    · rfl

end Commute

def served (ladder : List RichTierLadderRow) (prev : Month) (db : RichDb) : Request → RichDb
  | .recharge amountCoins => recharged ladder (nextYearMonth prev) amountCoins db
  | .rollover => rolledOver ladder prev db

theorem call_handler (ladder : List RichTierLadderRow) (prev : Month) (request : Request)
    (db : RichDb) : ((handler ladder prev request).call db).2 = served ladder prev db request := by
  cases request with
  | recharge amountCoins => simp [handler, eval_applyRecharge, served]
  | rollover => simp [handler, eval_processMonthlyRollover, served]

theorem rolledOver_rolledOver (ladder : List RichTierLadderRow) (prev : Month) (db : RichDb) :
    rolledOver ladder prev (rolledOver ladder prev db) = rolledOver ladder prev db := by
  have closed : ((rolledOver ladder prev db).history prev).isSome := by
    unfold rolledOver
    split
    next before => exact before
    · simp
  conv_lhs => rw [rolledOver, if_pos closed]

theorem served_comm {tiers ladder : List RichTierLadderRow}
    (accepted : replaceTierConfig tiers = .ok ladder) (prev : Month) {first second : Request}
    (nonneg : first.ofAmount) (more : second.ofAmount) (db : RichDb) :
    served ladder prev (served ladder prev db first) second =
      served ladder prev (served ladder prev db second) first := by
  cases first with
  | recharge x =>
    cases second with
    | recharge y => exact recharged_comm accepted _ nonneg more db
    | rollover => exact (recharged_rolledOver accepted prev nonneg db).symm
  | rollover =>
    cases second with
    | recharge y => exact recharged_rolledOver accepted prev more db
    | rollover => rfl

/-- Recharges and the rollover may come in any order and the rollover more than once: all that is
stored for the user comes out the same. -/
theorem rollover_recharge_commute {tiers ladder : List RichTierLadderRow}
    (accepted : replaceTierConfig tiers = .ok ladder) (prev : Month) :
    (∀ (db : RichDb) (requests other : List Request), requests.Perm other →
      (∀ request ∈ requests, request.ofAmount) →
      serveAll ladder prev requests db = serveAll ladder prev other db) ∧
    (∀ db, serveAll ladder prev [.rollover, .rollover] db =
      serveAll ladder prev [.rollover] db) ∧
    ∀ (db : RichDb) (amountCoins : Int),
      db.tier ≤ (serveAll ladder prev [.recharge amountCoins] db).tier := by
  refine ⟨?_, ?_, ?_⟩
  · intro db requests other permuted amounts
    simp only [serveAll, call_handler]
    refine permuted.foldl_eq' ?_ db
    intro first member second member' z
    exact served_comm accepted prev (amounts first member) (amounts second member') z
  · intro db
    simp only [serveAll, List.foldl_cons, List.foldl_nil, call_handler, served]
    exact rolledOver_rolledOver ladder prev db
  · intro db amountCoins
    simp only [serveAll, List.foldl_cons, List.foldl_nil, call_handler, served, recharged]
    exact tier_raisedTo (m := nextYearMonth prev)
      (computeTier (db.carryover + (db.total (nextYearMonth prev) + amountCoins)) ladder)

section Badge

variable {tiers ladder : List RichTierLadderRow} {prev : Month} {db : RichDb}

/-- Once the month before is closed, the badge stands for the carry-over and for what the open month
has seen. -/
def BadgeExact (ladder : List RichTierLadderRow) (prev : Month) (db : RichDb) : Prop :=
  (db.history prev).isSome →
    db.tier = computeTier (db.carryover + db.total (nextYearMonth prev)) ladder

theorem served_badgeExact (accepted : replaceTierConfig tiers = .ok ladder) {request : Request}
    (nonneg : request.ofAmount) (exact : BadgeExact ladder prev db) :
    BadgeExact ladder prev (served ladder prev db request) := by
  intro closed
  cases request with
  | recharge coins =>
    have amount : 0 ≤ coins := nonneg
    rw [served, recharged, history_raisedTo] at closed
    have was := exact closed
    have grown := computeTier_mono accepted
      (show db.carryover + db.total (nextYearMonth prev) ≤
        db.carryover + (db.total (nextYearMonth prev) + coins) by omega)
    rw [served, recharged, carryover_raisedTo, total_raisedTo, total_addRecharge, RichDb.raisedTo,
      tier_addRecharge]
    split
    · exact tier_raiseTier _
    · rw [tier_addRecharge, carryover_addRecharge]
      omega
  | rollover =>
    rw [served, rolledOver] at closed ⊢
    split
    next before => exact exact before
    next => rfl

theorem badge_exact (accepted : replaceTierConfig tiers = .ok ladder) {requests : List Request}
    (amounts : ∀ request ∈ requests, request.ofAmount) (exact : BadgeExact ladder prev db) :
    BadgeExact ladder prev (serveAll ladder prev requests db) := by
  induction requests generalizing db with
  | nil => exact exact
  | cons request rest ih =>
    rw [serveAll, List.foldl_cons, call_handler]
    exact ih (fun later member => amounts later (List.mem_cons_of_mem request member))
      (served_badgeExact accepted (amounts request List.mem_cons_self) exact)

end Badge

/-- The seeded ladder. -/
def defaultRichTierLadder : List RichTierLadderRow :=
  [⟨1, 3000000, "RICH I"⟩, ⟨2, 5000000, "RICH II"⟩, ⟨3, 10000000, "RICH III"⟩,
   ⟨4, 20000000, "RICH IV"⟩, ⟨5, 30000000, "RICH V"⟩, ⟨6, 50000000, "RICH VI"⟩,
   ⟨7, 100000000, "RICH VII"⟩, ⟨8, 200000000, "RICH VIII"⟩, ⟨9, 500000000, "RICH IX"⟩,
   ⟨10, 1000000000, "RICH X"⟩]

private theorem accepted_of_sorted {tiers : List RichTierLadderRow} (ten : tiers.length = 10)
    (trimmed : tiers.map (fun t => { t with displayName := trim t.displayName }) = tiers)
    (sorted : tiers.Pairwise fun a b => decide (a.tier ≤ b.tier) = true)
    (checked : checkTiers 0 none tiers = .ok ()) : replaceTierConfig tiers = .ok tiers := by
  rw [replaceTierConfig]
  dsimp only
  rw [trimmed, if_neg (by simp [ten]), List.mergeSort_of_pairwise sorted, checked]

theorem default_accepted : replaceTierConfig defaultRichTierLadder = .ok defaultRichTierLadder := by
  refine accepted_of_sorted rfl ?_ (by decide) ?_
  · decide
  · rfl

/-- A user who has recharged ten million coins in September. -/
def september : RichDb where
  row := some ⟨3, ⟨2026, 8⟩, 0, 0⟩
  aggregate := Function.update (fun _ => none) ⟨2026, 9⟩ (some ⟨10000000, 1⟩)
  history _ := none

private theorem computeTier_default (coins : Int) :
    computeTier coins defaultRichTierLadder = Ladder.climb RichTierLadderRow.tier
      RichTierLadderRow.minRechargeCoins coins 0 defaultRichTierLadder := by
  rw [computeTier, sortedLadder_eq (replaceTierConfig_ascending default_accepted).2]

theorem rollover_recharge_commute_september :
    serveAll defaultRichTierLadder ⟨2026, 9⟩ [.recharge 2000000, .rollover] september =
      serveAll defaultRichTierLadder ⟨2026, 9⟩ [.rollover, .recharge 2000000] september ∧
    (serveAll defaultRichTierLadder ⟨2026, 9⟩ [.rollover, .recharge 2000000] september).tier =
      2 := by
  constructor
  · exact (rollover_recharge_commute default_accepted ⟨2026, 9⟩).1 september _ _
      (List.Perm.swap _ _ _) (by simp [Request.ofAmount])
  · simp only [serveAll, List.foldl_cons, List.foldl_nil, call_handler, served, recharged,
      rolledOver, closing, computeTier_default]
    decide

theorem badge_exact_september : BadgeExact defaultRichTierLadder ⟨2026, 9⟩
    (serveAll defaultRichTierLadder ⟨2026, 9⟩ [.recharge 2000000, .rollover] september) :=
  badge_exact default_accepted (by simp [Request.ofAmount]) (by simp [BadgeExact, september])

end OlNode.RichTier
