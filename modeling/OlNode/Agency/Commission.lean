import OlNode.Ledger.Wallets

/-!
# Agency commission and its reversal

`applyCommission` and `reverseCommission` with the agency's daily earnings. What was applied is
known afterwards from the commission row of the agent; if there is none, because the agency was
paused or the commission rounds to nothing, the reversal takes the host's agency of that moment and
lowers its earnings of the day.
-/
namespace OlNode.AgencyCommission

open ReadCommitted

/-- The primary key of `agency_daily_earnings`. -/
structure DailyKey where
  agencyUserId : UserId
  hostUserId : UserId
  day : Nat
  deriving DecidableEq

structure AgencyDailyEarning where
  hostEarningsPoints : Int
  hostCommissionPoints : Int
  hostWasActive : Bool := true
  lastCreditAt : Option Time

structure CommissionDb where
  money : MoneyDb
  /-- `created_at` of the point ledger rows. -/
  createdAt : LedgerKey → Time
  daily : DailyKey → Option AgencyDailyEarning

abbrev CommissionTx := Tx CommissionDb Lock LedgerError

def setMoney (money : MoneyDb) (db : CommissionDb) : CommissionDb := { db with money }

def onMoney {α : Type} (x : LedgerTx α) : CommissionTx α := x.zoom CommissionDb.money setMoney

/-- The number of the UTC day; instants are milliseconds. -/
def utcDayFromTimestamp (t : Time) : Nat := t / 86400000

/-- `GREATEST(0, …)` of the row that is there, or of a new one. -/
def AgencyDailyEarning.upsert (row : Option AgencyDailyEarning) (now : Time)
    (hostEarningsDelta hostCommissionDelta : Int) : AgencyDailyEarning where
  hostEarningsPoints := max 0 ((row.map (·.hostEarningsPoints)).getD 0 + hostEarningsDelta)
  hostCommissionPoints := max 0 ((row.map (·.hostCommissionPoints)).getD 0 + hostCommissionDelta)
  lastCreditAt := some now

def CommissionDb.addDaily (db : CommissionDb) (k : DailyKey) (now : Time)
    (hostEarningsDelta hostCommissionDelta : Int) : CommissionDb :=
  { db with daily := fun other =>
      if other = k then some (.upsert (db.daily k) now hostEarningsDelta hostCommissionDelta)
      else db.daily other }

def upsertDailyEarning (now : Time) (k : DailyKey) (hostEarningsDelta hostCommissionDelta : Int) :
    CommissionTx Unit :=
  Tx.update (.agencyDailyEarning k.agencyUserId k.hostUserId k.day) fun db =>
    db.addDaily k now hostEarningsDelta hostCommissionDelta

structure ApplyCommissionParams where
  hostUserId : UserId
  hostLedgerEntryId : LedgerKey
  hostPointsCredited : Int
  hostTxType : PointTxType
  day : Nat

def creditAgency (agencyUserId hostUserId : UserId) (hostEntry : LedgerKey)
    (commissionPoints : Int) : LedgerTx Unit := do
  let host ← PointLedgerRepository.findByIdempotencyKey hostEntry
  let businessRefId := (host.bind (·.refId)).getD (.ledgerEntry hostEntry)
  let _ ← PointWallet.creditRow agencyUserId commissionPoints .agentCommission
    { idempotencyKey := .agencyCommission hostEntry, refId := some businessRefId,
      counterpartyId := some hostUserId }
  pure ()

/-- What the rate of the agency's level makes of a credit. -/
def commissionPoints (cfg : AgencyCommissionLevel) (params : ApplyCommissionParams) : Int :=
  let rateBp := if params.hostTxType ∈ LIVE_COMMISSION_TX_TYPES then cfg.liveRateBp
    else cfg.matchChatRateBp
  (params.hostPointsCredited * rateBp).tdiv 10000

/-- What a commission that is not a duplicate books. -/
def book (now : Time) (agencyUserId : UserId) (params : ApplyCommissionParams) (points : Int) :
    CommissionTx (Option UserId) := do
  let fresh ← onMoney (markCommissionProcessed params.hostLedgerEntryId)
  if fresh then
    upsertDailyEarning now ⟨agencyUserId, params.hostUserId, params.day⟩
      params.hostPointsCredited points
    Tx.when (0 < points)
      (onMoney (creditAgency agencyUserId params.hostUserId params.hostLedgerEntryId points))
    pure (some agencyUserId)
  else pure none

def applyCommission (now : Time) (params : ApplyCommissionParams) :
    CommissionTx (Option UserId) := do
  let resolved ← onMoney (resolveCommissionAgency params.hostUserId)
  match resolved with
  | none => pure none
  | some agencyUserId =>
    if params.hostTxType ∈ LIVE_COMMISSION_TX_TYPES ++ MATCH_CHAT_COMMISSION_TX_TYPES then
      let agencyRow ← Tx.select fun db => db.money.agency agencyUserId
      if agencyPaused agencyRow now then
        let _ ← onMoney (markCommissionProcessed params.hostLedgerEntryId)
        pure none
      else
        let levelCfg ← Tx.select fun db =>
          db.money.commissionLevel ((agencyRow.map (·.currentLevel)).getD 0)
        match levelCfg with
        | none => Tx.fail (.app
            { status := 500, message := "Missing agency commission level row",
              code := .configError })
        | some cfg => book now agencyUserId params (commissionPoints cfg params)
    else pure none

structure ReverseCommissionResult where
  bustAgentUserId : Option UserId
  reversed : Bool
  commissionPoints : Option Int

/-- The agency the reversal goes to, and the commission it takes back from the agent. -/
def takeBack (hostUserId : UserId) (hostEntry : LedgerKey) :
    CommissionTx (Option UserId × Int) := do
  let commissionEntry ←
    onMoney (PointLedgerRepository.findByIdempotencyKey (.agencyCommission hostEntry))
  match commissionEntry with
  | some entry =>
    let _ ← onMoney (PointWallet.debit entry.wallet.userId entry.amount .adjustment
      { idempotencyKey := .agencyCommissionReverse hostEntry,
        counterpartyId := some hostUserId, refId := some (.ledgerEntry hostEntry) })
    pure (some entry.wallet.userId, entry.amount)
  | none =>
    let agencyUserId ← onMoney (resolveCommissionAgency hostUserId)
    pure (agencyUserId, 0)

/-- Lower the earnings of the agency, if there is one. -/
def lowerEarnings (now : Time) (agencyUserId : Option UserId) (hostEntry : PointLedgerEntry)
    (day : Nat) (points : Int) : CommissionTx Unit :=
  match agencyUserId with
  | some agencyUserId =>
    upsertDailyEarning now ⟨agencyUserId, hostEntry.wallet.userId, day⟩ (-hostEntry.amount) (-points)
  | none => pure ()

def CommissionDb.unmark (db : CommissionDb) (hostEntry : LedgerKey) : CommissionDb :=
  { db with money := { db.money with
      commissionProcessed := db.money.commissionProcessed.filter (· ≠ hostEntry) } }

def reverseCommission (now : Time) (hostLedgerEntryId : LedgerKey) :
    CommissionTx ReverseCommissionResult := do
  let processed ← Tx.select fun db => db.money.commissionProcessed.contains hostLedgerEntryId
  let hostEntry ← onMoney (PointLedgerRepository.findByIdempotencyKey hostLedgerEntryId)
  match processed, hostEntry with
  | true, some hostEntry =>
    let createdAt ← Tx.select fun db => db.createdAt hostLedgerEntryId
    let (agencyUserId, points) ← takeBack hostEntry.wallet.userId hostLedgerEntryId
    lowerEarnings now agencyUserId hostEntry (utcDayFromTimestamp createdAt) points
    Tx.update (.commissionProcessed hostLedgerEntryId) (·.unmark hostLedgerEntryId)
    pure
      { bustAgentUserId := agencyUserId, reversed := true,
        commissionPoints := if 0 < points then some points else none }
  | _, _ => pure { bustAgentUserId := none, reversed := false, commissionPoints := none }

/-! ### Standing of agencies and agents -/

namespace CommissionDb

/-- Earnings and commission of an agency from a host on a day; no row is nothing. -/
def earned (db : CommissionDb) (k : DailyKey) : Int × Int :=
  ((db.daily k).map fun row => (row.hostEarningsPoints, row.hostCommissionPoints)).getD (0, 0)

def points (db : CommissionDb) (userId : UserId) : Int :=
  latestBalance db.money.pointLedger ⟨userId, .point⟩

def mark (db : CommissionDb) (hostEntry : LedgerKey) : CommissionDb :=
  { db with money := { db.money with
      commissionProcessed := db.money.commissionProcessed ++ [hostEntry] } }

def addPoint (db : CommissionDb) (entry : PointLedgerEntry) : CommissionDb :=
  { db with money := db.money.addPoint entry }

end CommissionDb

/-- A host credit as `applyCommission` finds it: its row is there, nothing else is booked under its
id. Rates are 0 to 10000 by the checks of the admin service, earnings at least 0 by the upsert. -/
structure HostCredit (db : CommissionDb) (params : ApplyCommissionParams) : Prop where
  entry : ∃ e, findByKey db.money.pointLedger params.hostLedgerEntryId = some e ∧
    e.wallet.userId = params.hostUserId ∧ e.amount = params.hostPointsCredited
  positive : 0 < params.hostPointsCredited
  unmarked : params.hostLedgerEntryId ∉ db.money.commissionProcessed
  uncommissioned :
    findByKey db.money.pointLedger (.agencyCommission params.hostLedgerEntryId) = none
  unreversed :
    findByKey db.money.pointLedger (.agencyCommissionReverse params.hostLedgerEntryId) = none
  rates : ∀ level cfg, db.money.commissionLevel level = some cfg →
    0 ≤ cfg.liveRateBp ∧ 0 ≤ cfg.matchChatRateBp
  earned : ∀ k, 0 ≤ (db.earned k).1 ∧ 0 ≤ (db.earned k).2

section Evaluation

variable {α β : Type}

theorem eval_onMoney (x : LedgerTx α) (db : CommissionDb) :
    (onMoney x).eval db = (x.eval db.money).map fun r => (r.1, setMoney r.2 db) := by
  have getSet : ∀ (m : MoneyDb) (t : CommissionDb), (setMoney m t).money = m := fun _ _ => rfl
  have setGet : ∀ t : CommissionDb, setMoney t.money t = t := fun _ => rfl
  have setSet : ∀ (m m' : MoneyDb) (t : CommissionDb),
      setMoney m (setMoney m' t) = setMoney m t := fun _ _ _ => rfl
  exact Tx.eval_zoom getSet setGet setSet x db

variable {money : MoneyDb}

end Evaluation

/-! ### What was applied -/

section Reversal

variable {db : CommissionDb} {hostEntry : LedgerKey} {e : PointLedgerEntry}

end Reversal

/-! ### Both together -/

section Both

variable {now at' : Time} {db : CommissionDb} {params : ApplyCommissionParams}
  {later : Affiliations} (credit : HostCredit db params)
include credit

variable {points : Int}

end Both

end OlNode.AgencyCommission
