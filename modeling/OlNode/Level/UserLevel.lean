import OlNode.Ladder
import OlNode.ReadCommitted.Within
import OlNode.Schema
import Mathlib.Algebra.Order.Ring.Int

/-!
# Wealth and livestream levels

`walletLevelService` keeps one row for each user and level type: a cumulative total and the level
it is worth. Three operations write it, all under the row's lock; `applyLevel` of the internal
ledger also copies the result into the legacy table `user_levels`. The level is always computed
from the new total, so the row is consistent whatever was read, and the total stays above zero
because the total that was read does.
-/
namespace OlNode.UserLevel

open ReadCommitted

structure LevelThreshold where
  level : Int
  threshold : Int

structure WalletUserLevel where
  currentLevel : Int
  cumulativeTotal : Int
  deriving DecidableEq

/-- What is stored for one user and level type; `mirror` is the row of `user_levels`. -/
structure LevelDb where
  row : Option WalletUserLevel
  mirror : Option WalletUserLevel
  deriving DecidableEq

inductive LevelRow where
  | walletUserLevel | userLevels
  deriving DecidableEq

abbrev LevelTx := Tx LevelDb LevelRow LedgerError
abbrev LevelProg := Prog LevelDb LevelRow LedgerError

/-- Level 1, and from there up to the first threshold that is not reached. -/
def computeLevel (cumulativeTotal : Int) (thresholds : List LevelThreshold) : Int :=
  Ladder.climb LevelThreshold.level LevelThreshold.threshold cumulativeTotal 1 thresholds

/-- The row `ensureRow` inserts. -/
def newRow : WalletUserLevel := { currentLevel := 1, cumulativeTotal := 0 }

/-- `walletUserLevelRepository.getOrCreate` with `lock`. -/
def getOrCreate : LevelTx WalletUserLevel := do
  Tx.update .walletUserLevel fun db => { db with row := some (db.row.getD newRow) }
  Tx.select fun db => db.row.getD newRow

structure LevelApplyResult where
  newLevel : Int
  previousLevel : Int
  newCumulative : Int

def store (thresholds : List LevelThreshold) (previousLevel newCumulative : Int) :
    LevelTx LevelApplyResult := do
  let newLevel := computeLevel newCumulative thresholds
  Tx.update .walletUserLevel fun db =>
    { db with row := some { currentLevel := newLevel, cumulativeTotal := newCumulative } }
  pure { newLevel, previousLevel, newCumulative }

def applyCredit (thresholds : List LevelThreshold) (increment : Int) :
    LevelTx LevelApplyResult := do
  let current ← getOrCreate
  store thresholds current.currentLevel (current.cumulativeTotal + increment)

def applyDebit (thresholds : List LevelThreshold) (decrement : Int) :
    LevelTx LevelApplyResult := do
  let current ← getOrCreate
  if decrement ≤ 0 then
    pure { newLevel := current.currentLevel, previousLevel := current.currentLevel,
           newCumulative := current.cumulativeTotal }
  else
    store thresholds current.currentLevel
      (if decrement < current.cumulativeTotal then current.cumulativeTotal - decrement else 0)

def LevelApplyResult.row (result : LevelApplyResult) : WalletUserLevel :=
  { currentLevel := result.newLevel, cumulativeTotal := result.newCumulative }

/-- `applyLevel` of the internal ledger. -/
def applyLevel (thresholds : List LevelThreshold) (increment : Int) :
    LevelTx LevelApplyResult := do
  let result ← applyCredit thresholds increment
  Tx.update .userLevels fun db => { db with mirror := some result.row }
  pure result

private def appError (status : Nat) (message : String) (code : ErrorCode) : LedgerError :=
  .app { status, message, code }

def setLevelTx (thresholds : List LevelThreshold) (targetThreshold : Int) :
    LevelTx LevelApplyResult := do
  let current ← getOrCreate
  Tx.ensure (current.cumulativeTotal ≠ targetThreshold)
    (appError 400 "User is already at the target level threshold" .levelAlreadyAtTarget)
  store thresholds current.currentLevel targetThreshold

def setLevel (thresholds : List LevelThreshold) (targetLevel : Int) :
    LevelProg LevelApplyResult := do
  match thresholds.getLast? with
  | none => Prog.fail (appError 500 "Level thresholds not configured" .configError)
  | some last =>
    let maxLevel := last.level
    Prog.ensure (1 ≤ targetLevel && targetLevel ≤ maxLevel) (appError 400
      s!"targetLevel must be an integer between 1 and {maxLevel}" .invalidTargetLevel)
    match thresholds.find? (fun t => t.level = targetLevel) with
    | none => Prog.fail (appError 400 "Unknown target level" .invalidTargetLevel)
    | some target => Prog.transaction (setLevelTx thresholds target.threshold)

/-! ### Requests -/

inductive LevelOp where
  | applyCredit (increment : Int)
  | applyDebit (decrement : Int)
  | applyLevel (increment : Int)

def LevelOp.run (thresholds : List LevelThreshold) : LevelOp → LevelTx LevelApplyResult
  | .applyCredit increment => UserLevel.applyCredit thresholds increment
  | .applyDebit decrement => UserLevel.applyDebit thresholds decrement
  | .applyLevel increment => UserLevel.applyLevel thresholds increment

def runAll (thresholds : List LevelThreshold) : List LevelOp → LevelTx Unit
  | [] => pure ()
  | op :: ops => do
    let _ ← op.run thresholds
    runAll thresholds ops

inductive Request where
  /-- A money transaction with its level updates. -/
  | money (ops : List LevelOp)
  | setLevel (targetLevel : Int)

def handler (thresholds : List LevelThreshold) : Request → LevelProg Unit
  | .money ops => Prog.transaction (runAll thresholds ops)
  | .setLevel targetLevel => do
    let _ ← UserLevel.setLevel thresholds targetLevel
    pure ()

/-- What is credited is an amount of coins or points. -/
def LevelOp.ofAmount : LevelOp → Prop
  | .applyCredit increment => 0 ≤ increment
  | .applyDebit _ => True
  | .applyLevel increment => 0 ≤ increment

def Request.ofAmounts : Request → Prop
  | .money ops => ∀ op ∈ ops, op.ofAmount
  | .setLevel _ => True

/-- Requests credit amounts. -/
def OfAmounts (_ : Config Request LevelDb LevelRow LedgerError) : Event Request → Prop
  | .start request => request.ofAmounts
  | .advance _ => True
  | .crash _ => True

/-! ### The statement -/

/-- A list of thresholds as it is configured: levels and thresholds ascend, no threshold is
negative, and what is reached with nothing is level 1. -/
structure LevelTable where
  thresholds : List LevelThreshold
  ascending : Ladder.Ascending LevelThreshold.level LevelThreshold.threshold thresholds
  nonneg : ∀ t ∈ thresholds, 0 ≤ t.threshold
  start : ∀ t ∈ thresholds, t.threshold = 0 → t.level = 1

/-- The level is the highest one whose threshold is at most the total, and 1 if no threshold is
reached. -/
structure Consistent (thresholds : List LevelThreshold) (row : WalletUserLevel) : Prop where
  nonneg : 0 ≤ row.cumulativeTotal
  level : Ladder.Highest LevelThreshold.level LevelThreshold.threshold thresholds 1
    row.cumulativeTotal row.currentLevel

structure LevelsConsistent (thresholds : List LevelThreshold) (db : LevelDb) : Prop where
  row : ∀ row ∈ db.row, Consistent thresholds row
  mirror : ∀ row ∈ db.mirror, Consistent thresholds row

/-- Total and level as `getOrCreate` gives them. -/
def standing (db : LevelDb) : WalletUserLevel := db.row.getD newRow

/-! ### Every write -/

section Writes

variable (table : LevelTable)

theorem consistent_computeLevel {total : Int} (nonneg : 0 ≤ total) :
    Consistent table.thresholds
      { currentLevel := computeLevel total table.thresholds, cumulativeTotal := total } where
  nonneg := nonneg
  level := Ladder.climb_highest table.ascending total 1

/-- With a total of zero the level is 1: only level 1 may have the threshold zero. -/
theorem computeLevel_zero : computeLevel 0 table.thresholds = 1 := by
  rcases (Ladder.climb_highest table.ascending 0 1).attained with
    ⟨row, member, graded, reach⟩ | ⟨stays, -⟩
  · have zero : row.threshold = 0 := by
      have nonneg := table.nonneg row member
      omega
    rw [computeLevel, ← graded]
    exact table.start row member zero
  · exact stays

theorem consistent_newRow : Consistent table.thresholds newRow := by
  have fresh := consistent_computeLevel table (le_refl 0)
  rw [computeLevel_zero] at fresh
  exact fresh

private abbrev Kept : (LevelDb → LevelDb) → Prop :=
  Harmless (LevelsConsistent table.thresholds) fun _ _ => True

private theorem harmless_row {row : WalletUserLevel} (consistent : Consistent table.thresholds row) :
    Kept table fun db => { db with row := some row } := by
  intro db inv
  refine ⟨⟨?_, inv.mirror⟩, trivial⟩
  intro stored found
  cases found
  exact consistent

private theorem harmless_ensure :
    Kept table fun db => { db with row := some (db.row.getD newRow) } := by
  intro db inv
  refine ⟨⟨?_, inv.mirror⟩, trivial⟩
  intro stored found
  cases found
  cases row : db.row with
  | none => exact consistent_newRow table
  | some current => exact inv.row current row

private theorem consistent_read {db : LevelDb} (inv : LevelsConsistent table.thresholds db) :
    Consistent table.thresholds (db.row.getD newRow) := by
  cases row : db.row with
  | none => exact consistent_newRow table
  | some current => exact inv.row current row

/-- The body keeps the rows consistent, and what it returns satisfies `Q`. -/
private abbrev KeepsTo {α : Type} (x : LevelTx α) (Q : α → Prop) : Prop :=
  x.WithinTo (LevelsConsistent table.thresholds) (fun _ _ => True)
    fun result => ∀ value, result = .ok value → Q value

private theorem keepsTo_pure {α : Type} {value : α} {Q : α → Prop} (holds : Q value) :
    KeepsTo table (pure value) Q := by
  intro returned same
  cases same
  exact holds

private theorem KeepsTo.bind {α β : Type} {x : LevelTx α} {k : α → LevelTx β} {mid : α → Prop}
    {Q : β → Prop} (first : KeepsTo table x mid) (rest : ∀ a, mid a → KeepsTo table (k a) Q) :
    KeepsTo table (x >>= k) Q := by
  refine Tx.WithinTo.bind first (fun a returned => rest a (returned a rfl)) ?_
  intro error _ value impossible
  cases impossible

private theorem getOrCreate_keeps : KeepsTo table getOrCreate (Consistent table.thresholds) := by
  refine Tx.withinTo_update_bind (harmless_ensure table) fun db inv => ?_
  exact keepsTo_pure table (consistent_read table inv)

private theorem store_keeps {newCumulative : Int} (previousLevel : Int)
    (nonneg : 0 ≤ newCumulative) :
    KeepsTo table (store table.thresholds previousLevel newCumulative)
      fun result => Consistent table.thresholds result.row := by
  have consistent := consistent_computeLevel table nonneg
  exact Tx.withinTo_update_bind (harmless_row table consistent) (keepsTo_pure table consistent)

private theorem applyCredit_keeps {increment : Int} (amount : 0 ≤ increment) :
    KeepsTo table (applyCredit table.thresholds increment)
      fun result => Consistent table.thresholds result.row := by
  refine KeepsTo.bind table (getOrCreate_keeps table) fun current consistent => ?_
  have nonneg := consistent.nonneg
  exact store_keeps table _ (by omega)

private theorem applyDebit_keeps (decrement : Int) :
    KeepsTo table (applyDebit table.thresholds decrement)
      fun result => Consistent table.thresholds result.row := by
  refine KeepsTo.bind table (getOrCreate_keeps table) fun current consistent => ?_
  have nonneg := consistent.nonneg
  split
  · exact keepsTo_pure table consistent
  · refine store_keeps table _ ?_
    split <;> omega

private theorem applyLevel_keeps {increment : Int} (amount : 0 ≤ increment) :
    KeepsTo table (applyLevel table.thresholds increment)
      fun result => Consistent table.thresholds result.row := by
  refine KeepsTo.bind table (applyCredit_keeps table amount) fun result consistent => ?_
  refine Tx.withinTo_update_bind ?_ (keepsTo_pure table consistent)
  -- The copy holds what has just been stored.
  intro db inv
  refine ⟨⟨inv.row, ?_⟩, trivial⟩
  intro stored found
  cases found
  exact consistent

private theorem op_keeps {op : LevelOp} (amount : op.ofAmount) :
    KeepsTo table (op.run table.thresholds)
      fun result => Consistent table.thresholds result.row := by
  cases op with
  | applyCredit increment => exact applyCredit_keeps table amount
  | applyDebit decrement => exact applyDebit_keeps table decrement
  | applyLevel increment => exact applyLevel_keeps table amount

private theorem runAll_keeps {ops : List LevelOp} (amounts : ∀ op ∈ ops, op.ofAmount) :
    KeepsTo table (runAll table.thresholds ops) fun _ => True := by
  induction ops with
  | nil => exact keepsTo_pure table trivial
  | cons op ops ih =>
    have first := op_keeps table (amounts op List.mem_cons_self)
    refine KeepsTo.bind table first fun _ _ => ih fun other member => ?_
    exact amounts other (List.mem_cons_of_mem _ member)

private theorem setLevelTx_keeps {targetThreshold : Int} (nonneg : 0 ≤ targetThreshold) :
    KeepsTo table (setLevelTx table.thresholds targetThreshold)
      fun result => Consistent table.thresholds result.row := by
  refine KeepsTo.bind table (getOrCreate_keeps table) fun current _ => ?_
  refine Tx.withinTo_ensure_bind ?_ (store_keeps table _ nonneg)
  intro value impossible
  cases impossible

private theorem setLevel_within (targetLevel : Int) :
    (setLevel table.thresholds targetLevel).WithinTo (LevelsConsistent table.thresholds)
      (fun _ _ => True) fun _ => True := by
  unfold setLevel
  split
  · trivial
  · refine Prog.withinTo_ensure_bind trivial ?_
    split
    · trivial
    next target found =>
      have nonneg := table.nonneg target (List.mem_of_find?_eq_some found)
      exact Prog.withinTo_transaction ((setLevelTx_keeps table nonneg).imp fun _ _ => trivial)

private theorem handler_within {request : Request} (amounts : request.ofAmounts) :
    (handler table.thresholds request).Within (LevelsConsistent table.thresholds)
      fun _ _ => True := by
  cases request with
  | money ops => exact (Prog.withinTo_transaction (runAll_keeps table amounts)).within
  | setLevel targetLevel =>
    have whole : (handler table.thresholds (.setLevel targetLevel)).WithinTo
        (LevelsConsistent table.thresholds) (fun _ _ => True) fun _ => True :=
      (setLevel_within table targetLevel).bind (fun _ _ => trivial) fun _ _ => trivial
    exact whole.within

end Writes

/-! ### Runs -/

private theorem level_eq {table : LevelTable} {row : WalletUserLevel}
    (consistent : Consistent table.thresholds row) :
    row.currentLevel = computeLevel row.cumulativeTotal table.thresholds :=
  consistent.level.unique (Ladder.climb_highest table.ascending row.cumulativeTotal 1)

variable (thresholds : List LevelThreshold)

private theorem standing_credit (s : LevelDb) (amount : Int) :
    standing ((handler thresholds (.money [.applyCredit amount])).call s).2 =
      ⟨computeLevel ((standing s).cumulativeTotal + amount) thresholds,
        (standing s).cumulativeTotal + amount⟩ := rfl

private theorem standing_debit (s : LevelDb) {amount : Int} (positive : 0 < amount) :
    standing ((handler thresholds (.money [.applyDebit amount])).call s).2 =
      ⟨computeLevel (if amount < (standing s).cumulativeTotal then
          (standing s).cumulativeTotal - amount else 0) thresholds,
        if amount < (standing s).cumulativeTotal then (standing s).cumulativeTotal - amount
        else 0⟩ := by
  have some : ¬ amount ≤ 0 := by omega
  have body : applyDebit thresholds amount = (getOrCreate >>= fun current =>
      store thresholds current.currentLevel
        (if amount < current.cumulativeTotal then current.cumulativeTotal - amount else 0)) := by
    simp only [applyDebit, some, if_false]
  rw [handler, runAll, LevelOp.run, body]
  rfl

private theorem standing_debit_zero (s : LevelDb) :
    standing ((handler thresholds (.money [.applyDebit 0])).call s).2 = standing s := rfl

private theorem debit_restores (table : LevelTable) {s : LevelDb}
    (consistent : LevelsConsistent table.thresholds s) {amount : Int} (nonneg : 0 ≤ amount) :
    standing ((handler table.thresholds (.money [.applyDebit amount])).call
      ((handler table.thresholds (.money [.applyCredit amount])).call s).2).2 = standing s := by
  have read : Consistent table.thresholds (standing s) := consistent_read table consistent
  have total := read.nonneg
  have level := level_eq read
  rcases nonneg.eq_or_lt with rfl | positive
  · rw [standing_debit_zero, standing_credit, add_zero, ← level]
  · rw [standing_debit _ _ positive, standing_credit]
    have back : (if amount < (standing s).cumulativeTotal + amount then
        (standing s).cumulativeTotal + amount - amount else 0) = (standing s).cumulativeTotal := by
      split <;> omega
    dsimp only
    rw [back, ← level]

/-- In every run the stored level is the one the stored total is worth, and crediting an amount and
debiting it again changes neither. -/
theorem levels_consistent (table : LevelTable) :
    (∀ (c : Config Request LevelDb LevelRow LedgerError),
      Reaches (handler table.thresholds) OfAmounts (Config.idle ⟨none, none⟩) c →
      LevelsConsistent table.thresholds c.db) ∧
    ∀ (s : LevelDb) (amount : Int), LevelsConsistent table.thresholds s → 0 ≤ amount →
      standing ((handler table.thresholds (.money [.applyDebit amount])).call
        ((handler table.thresholds (.money [.applyCredit amount])).call s).2).2 = standing s := by
  constructor
  · intro c run
    have fresh : LevelsConsistent table.thresholds ⟨none, none⟩ := ⟨by simp, by simp⟩
    refine (run.within (fun _ => trivial) (fun _ _ _ _ _ => trivial) ?_ fresh ?_).1
    · exact fun _ request amounts => handler_within table amounts
    · simp [Config.idle]
  · exact fun s amount consistent nonneg => debit_restores table consistent nonneg

def seedTable : LevelTable where
  thresholds := [⟨1, 0⟩, ⟨2, 1000⟩, ⟨3, 5000⟩]
  ascending := by simp [Ladder.Ascending]
  nonneg := by simp
  start := by simp

def credited (amount : Int) : List (Event Request) := serve (.money [.applyCredit amount]) 0 4

private theorem credited_ofAmounts {amount : Int} (nonneg : 0 ≤ amount) :
    ∀ e ∈ credited amount, ∀ c, OfAmounts c e := by
  intro e member c
  rcases List.mem_cons.mp member with rfl | later
  · intro op listed
    rw [List.mem_singleton.mp listed]
    exact nonneg
  · rw [List.eq_of_mem_replicate later]
    trivial

theorem levels_consistent_credited :
    (∃ c : Config Request LevelDb LevelRow LedgerError,
      Reaches (handler seedTable.thresholds) OfAmounts (Config.idle ⟨none, none⟩) c ∧
      c.db.row = some ⟨2, 1200⟩ ∧ LevelsConsistent seedTable.thresholds c.db) ∧
    standing ((handler seedTable.thresholds (.money [.applyDebit 4000])).call
      ((handler seedTable.thresholds (.money [.applyCredit 4000])).call
        ⟨some ⟨2, 1200⟩, none⟩).2).2 = ⟨2, 1200⟩ := by
  obtain ⟨c, run, stored⟩ : ∃ c : Config Request LevelDb LevelRow LedgerError,
      Reaches (handler seedTable.thresholds) OfAmounts (Config.idle ⟨none, none⟩) c ∧
      decide (c.db = ⟨some ⟨2, 1200⟩, none⟩) = true :=
    reaches_of_any _ (credited 1200) _ _ (credited_ofAmounts (by decide)) (by decide)
  have db := of_decide_eq_true stored
  have consistent := (levels_consistent seedTable).1 c run
  refine ⟨⟨c, run, by rw [db], consistent⟩, ?_⟩
  rw [db] at consistent
  exact (levels_consistent seedTable).2 _ 4000 consistent (by decide)

/-- Level 1 is also the level of a user who has reached no threshold at all. -/
theorem not_levels_reached :
    ¬ ∀ (thresholds : List LevelThreshold),
      Ladder.Ascending LevelThreshold.level LevelThreshold.threshold thresholds →
      ∀ c : Config Request LevelDb LevelRow LedgerError,
        Reaches (handler thresholds) OfAmounts (Config.idle ⟨none, none⟩) c →
        ∀ row ∈ c.db.row, ∃ t ∈ thresholds,
          t.level = row.currentLevel ∧ t.threshold ≤ row.cumulativeTotal := by
  intro claim
  obtain ⟨c, run, stored⟩ : ∃ c : Config Request LevelDb LevelRow LedgerError,
      Reaches (handler [⟨1, 100⟩]) OfAmounts (Config.idle ⟨none, none⟩) c ∧
      decide (c.db = ⟨some ⟨1, 10⟩, none⟩) = true :=
    reaches_of_any _ (credited 10) _ _ (credited_ofAmounts (by decide)) (by decide)
  have db := of_decide_eq_true stored
  have reached := claim [⟨1, 100⟩] (by simp [Ladder.Ascending]) c run
  rw [db] at reached
  obtain ⟨t, member, -, reach⟩ := reached _ rfl
  rw [List.mem_singleton.mp member] at reach
  exact absurd reach (by decide)

end OlNode.UserLevel
