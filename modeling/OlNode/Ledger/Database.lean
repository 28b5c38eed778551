import OlNode.Schema

/-!
# The database of the money services

`MoneyDb` holds the tables the ledger operations read and write. Ledger tables are lists in
insertion order, so "newest row of a wallet" (`orderBy: createdAt desc`) is the last matching
element. `Lock` names everything a statement can hold a lock on: rows, and unique keys of rows
being inserted.
-/
namespace OlNode

open ReadCommitted

inductive LuckyBand where
  | critical | low | normal | high
  deriving DecidableEq

inductive LuckyOutcome where
  | miss | half | equal | medium | jackpot
  deriving DecidableEq

/-- Weight of each outcome, for each band. -/
structure BandWeights where
  miss : Nat
  half : Nat
  equal : Nat
  medium : Nat
  jackpot : Nat
  deriving DecidableEq

structure BandWeightsByBand where
  critical : BandWeights
  low : BandWeights
  normal : BandWeights
  high : BandWeights
  deriving DecidableEq

structure LambdaThresholds where
  criticalMaxBp : Nat
  lowMaxBp : Nat
  normalMaxBp : Nat
  deriving DecidableEq

/-- The tiers the CHECK constraints of all tier tables allow. -/
inductive LuckyTierId where
  | t100 | t500 | t2k | t10k | t50k
  deriving DecidableEq

/-- The position of a tier in `ORDER BY tier_id`, which compares the texts. -/
def LuckyTierId.order : LuckyTierId → Nat
  | .t100 => 0
  | .t10k => 1
  | .t2k => 2
  | .t500 => 3
  | .t50k => 4

/-- A row of `lucky_tier_config`. The bounds are CHECK constraints of the table. -/
structure LuckyTierConfig where
  tierId : LuckyTierId
  version : Nat
  priceMin : Int
  priceMax : Option Int
  rBp : Int
  jBp : Int
  l0 : Int
  floor : Int
  thresholds : LambdaThresholds
  bandWeights : BandWeightsByBand
  mMax : Int
  dailyWinCapCoins : Int
  coolDownAfterBigWinSeconds : Nat
  rBp_pos : 0 < rBp
  l0_pos : 0 < l0
  floor_nonneg : 0 ≤ floor
  floor_le_l0 : floor ≤ l0
  mMax_pos : 0 < mMax

inductive LuckyTierMode where
  | off | shadow | enforce
  deriving DecidableEq

inductive SeedChoice where
  | seed | startEmpty | cappedLadder
  deriving DecidableEq

structure LuckyTierSeedLog where
  tierId : LuckyTierId
  amount : Int
  choice : SeedChoice

structure LuckyTierPool where
  balance : Int
  configVersion : Nat

/-- An enforce draw is keyed by the send, a shadow draw by the settled gift it replays. -/
inductive AuditKey where
  | send (base : LuckyKeyBase)
  | shadow (giftTransactionId : Nat)
  deriving DecidableEq

inductive DrawMode where
  | enforce | shadow
  deriving DecidableEq

/-- The labels of `resolveCategory`, and the caller's own label on the legacy path. -/
inductive LuckyCategory where
  | miss | small | equal | medium | jackpot | unlucky | normal | breakEven | winner
  | caller (label : Nat)

/-- What a lucky send is: `payloadFingerprint` hashes exactly these four fields. -/
structure LuckyPayload where
  senderId : UserId
  giftId : Nat
  count : Nat
  receiverId : Option UserId
  deriving DecidableEq

/-- A row of `lucky_draw_audit` (engine `water_v1`, the only engine that writes one). -/
structure LuckyDrawAudit where
  idempotencyKey : AuditKey
  payloadFingerprint : Option LuckyPayload
  mode : DrawMode
  tierId : LuckyTierId
  senderUserId : UserId
  giftTransactionId : Nat
  inflow : Int
  bigWin : Bool
  breakdownArray : List Int
  category : LuckyCategory
  paidReward : Int
  senderBalanceAfter : Option Int
  configVersion : Nat
  createdAt : Time

/-- How far the shadow worker has come; no `lastId` is the id that sorts after every other. -/
structure LuckyShadowCursor where
  lastCreatedAt : Time
  lastId : Option Nat

structure LuckyDb where
  configs : List LuckyTierConfig
  mode : LuckyTierId → Option LuckyTierMode
  seedLog : List LuckyTierSeedLog
  pool : LuckyTierId → Option LuckyTierPool
  shadowPool : LuckyTierId → Option LuckyTierPool
  audits : List LuckyDrawAudit
  shadowCursor : Option LuckyShadowCursor

structure MoneyDb where
  coinLedger : List CoinLedgerEntry
  pointLedger : List PointLedgerEntry
  unconfirmedPoints : UserId → Int
  freezeFlags : UserId → Option WalletFreezeFlags
  currentAgencyId : UserId → Option UserId
  agency : UserId → Option Agency
  commissionLevel : Nat → Option AgencyCommissionLevel
  commissionProcessed : List LedgerKey
  userLevel : UserId → LevelType → Option WalletUserLevel
  levelThresholds : LevelType → List LevelThreshold
  gift : Nat → Option Gift
  giftTransactions : List GiftTransaction
  session : Nat → Option VideoCallSession
  lucky : LuckyDb

/-- A database without rows, except that every user exists and nobody is frozen. -/
def MoneyDb.empty : MoneyDb where
  coinLedger := []
  pointLedger := []
  unconfirmedPoints := fun _ => 0
  freezeFlags := fun _ => some ⟨false, false, false⟩
  currentAgencyId := fun _ => none
  agency := fun _ => none
  commissionLevel := fun _ => none
  commissionProcessed := []
  userLevel := fun _ _ => none
  levelThresholds := fun _ => []
  gift := fun _ => none
  giftTransactions := []
  session := fun _ => none
  lucky :=
    { configs := [], mode := fun _ => none, seedLog := [], pool := fun _ => none,
      shadowPool := fun _ => none, audits := [], shadowCursor := none }

inductive Lock where
  | wallet (wallet : Wallet)
  | coinKey (key : LedgerKey)
  | pointKey (key : LedgerKey)
  | commissionProcessed (hostEntry : LedgerKey)
  | agencyDailyEarning (agencyUserId hostUserId : UserId) (day : Nat)
  | agency (userId : UserId)
  | userLevel (userId : UserId) (levelType : LevelType)
  | giftTransaction (id : Nat)
  | session (id : Nat)
  | luckyPool (tierId : LuckyTierId)
  | luckyShadowPool (tierId : LuckyTierId)
  | luckyAudit (key : AuditKey)
  | luckyCursor
  | luckyTier (tierId : LuckyTierId)
  | settings
  | withdrawal
  | assignment (id : AssignmentId)
  | job
  | subscription
  | subscriptionAccess
  | userBlock
  | walletIdem (key : LedgerKey)
  | topupOrder (id : Nat)
  /-- The unique key of a wallet row that is being inserted. -/
  | walletRow (wallet : Wallet)
  | balanceCache (wallet : Wallet)
  | gameLink (providerId orderId : Nat)
  | gameAnswer
  | vipPublicId (publicId : Nat)
  | vipAssignment (id : Nat)
  | user (id : UserId)
  /-- The unique index on the rare id a user shows. -/
  | vipOverlay (publicId : Nat)
  | richAggregate (userId : UserId)
  | guardian (guardianUserId targetUserId : UserId)
  /-- The unique index on the ledger entry of a VIP purchase. -/
  | vipMembershipPurchase (ledgerEntryId : LedgerKey)
  /-- `store-active:<user>:<category>`, an advisory lock. -/
  | storeActive (userId : UserId) (category : StoreItemCategory)
  | userStoreItem (id : Nat)
  | withdrawalRow (id : Nat)
  /-- The unique index on the idempotency key of a withdrawal. -/
  | withdrawalKey (key : WithdrawalKey)
  | companyCash
  /-- The unique index on the record of a movement. -/
  | movement (key : MovementKey)
  | coinTradingTransfer (id : TransferId)
  /-- The marker of a client's key in Redis. -/
  | requestIdem (userId : UserId) (key : Nat)
  | clock
  /-- Where a client keeps the answers it gets. -/
  | answers
  | customGiftRequest (id : Nat)
  /-- The unique index on the ledger entry of a custom gift request. -/
  | customGiftEntry (ledgerEntryId : LedgerKey)
  /-- The unique index on the pending custom gift request of a user. -/
  | customGiftPending (userId : UserId)
  | royalHostClaim (userId : UserId) (weekStart : Time) (rewardType : String)
  | normalHostTier (userId : UserId) (rewardDate : Time)
  | normalHostClaim (userId : UserId) (rewardDate : Time) (hourSlot : Nat)
  deriving DecidableEq

abbrev LedgerTx := Tx MoneyDb Lock LedgerError

/-- The state after one more coin ledger row. -/
def MoneyDb.addCoin (db : MoneyDb) (entry : CoinLedgerEntry) : MoneyDb :=
  { db with coinLedger := db.coinLedger ++ [entry] }

def MoneyDb.addPoint (db : MoneyDb) (entry : PointLedgerEntry) : MoneyDb :=
  { db with pointLedger := db.pointLedger ++ [entry] }

/-! ### Errors shared by the services -/

def invalidAmount : LedgerError :=
  .app { status := 400, message := "amount must be a positive whole number", code := .invalidAmount }

def insufficientCoins : LedgerError :=
  .app { status := 402, message := "Insufficient coins", code := .insufficientCoins }

def insufficientPoints : LedgerError :=
  .app { status := 400, message := "Insufficient available points", code := .insufficientPoints }

/-! ### Repositories -/

def newest {T : Type} (ledger : List (LedgerEntry T)) (wallet : Wallet) :
    Option (LedgerEntry T) :=
  (ledger.filter fun entry => entry.wallet = wallet).getLast?

/-- `last?.balanceAfter ?? 0n`. -/
def latestBalance {T : Type} (ledger : List (LedgerEntry T)) (wallet : Wallet) : Int :=
  ((newest ledger wallet).map (·.balanceAfter)).getD 0

def findByKey {T : Type} (ledger : List (LedgerEntry T)) (key : LedgerKey) :
    Option (LedgerEntry T) :=
  ledger.find? fun entry => entry.idempotencyKey = key

def latestCoinBalance (wallet : Wallet) : LedgerTx Int :=
  Tx.select fun db => latestBalance db.coinLedger wallet

def latestPointBalance (wallet : Wallet) : LedgerTx Int :=
  Tx.select fun db => latestBalance db.pointLedger wallet

def assertPositiveAmount (amount : Int) : LedgerTx Unit :=
  Tx.ensure (0 < amount) invalidAmount

namespace CoinLedgerRepository

def findByIdempotencyKey (key : LedgerKey) : LedgerTx (Option CoinLedgerEntry) :=
  Tx.select fun db => findByKey db.coinLedger key

/-- The INSERT waits for a concurrent insert of the same key and then fails on the unique index. -/
def insert (entry : CoinLedgerEntry) : LedgerTx CoinLedgerEntry := do
  assertPositiveAmount entry.amount
  Tx.lockRow (.coinKey entry.idempotencyKey)
  let existing ← findByIdempotencyKey entry.idempotencyKey
  Tx.ensure existing.isNone .uniqueViolation
  Tx.update (.coinKey entry.idempotencyKey) fun db => db.addCoin entry
  pure entry

end CoinLedgerRepository

namespace PointLedgerRepository

def findByIdempotencyKey (key : LedgerKey) : LedgerTx (Option PointLedgerEntry) :=
  Tx.select fun db => findByKey db.pointLedger key

def insert (entry : PointLedgerEntry) : LedgerTx PointLedgerEntry := do
  assertPositiveAmount entry.amount
  Tx.lockRow (.pointKey entry.idempotencyKey)
  let existing ← findByIdempotencyKey entry.idempotencyKey
  Tx.ensure existing.isNone .uniqueViolation
  Tx.update (.pointKey entry.idempotencyKey) fun db => db.addPoint entry
  pure entry

end PointLedgerRepository

/-- `walletRepository.lockForUpdate`: SELECT ... FOR UPDATE on the wallet row. -/
def lockForUpdate (wallet : Wallet) : LedgerTx Unit := Tx.lockRow (.wallet wallet)

section Lemmas

variable {T : Type} {ledger : List (LedgerEntry T)} {entry : LedgerEntry T} {wallet : Wallet}

theorem findByKey_eq_none (key : LedgerKey) :
    findByKey ledger key = none ↔ ∀ e ∈ ledger, e.idempotencyKey ≠ key := by
  simp [findByKey]

theorem findByKey_isSome (key : LedgerKey) :
    (findByKey ledger key).isSome ↔ ∃ e ∈ ledger, e.idempotencyKey = key := by
  simp [findByKey]

theorem findByKey_append_eq_none (key : LedgerKey) :
    findByKey (ledger ++ [entry]) key = none ↔
      findByKey ledger key = none ∧ entry.idempotencyKey ≠ key := by
  simp only [findByKey_eq_none, List.mem_append, List.mem_singleton]
  constructor
  · intro absent
    exact ⟨fun e member => absent e (.inl member), absent entry (.inr rfl)⟩
  · rintro ⟨absent, different⟩ e (member | rfl)
    · exact absent e member
    · exact different

theorem latestBalance_append_same (same : entry.wallet = wallet) :
    latestBalance (ledger ++ [entry]) wallet = entry.balanceAfter := by
  simp [latestBalance, newest, same]

theorem latestBalance_append_other (other : entry.wallet ≠ wallet) :
    latestBalance (ledger ++ [entry]) wallet = latestBalance ledger wallet := by
  simp [latestBalance, newest, other]

end Lemmas

theorem CoinLedgerRepository.eval_insert (entry : CoinLedgerEntry) (db : MoneyDb) :
    (CoinLedgerRepository.insert entry).eval db =
      if 0 < entry.amount then
        if findByKey db.coinLedger entry.idempotencyKey = none then .ok (entry, db.addCoin entry)
        else .error .uniqueViolation
      else .error invalidAmount := by
  simp [CoinLedgerRepository.insert, assertPositiveAmount,
    CoinLedgerRepository.findByIdempotencyKey]

theorem CoinLedgerRepository.insert_ok {entry result : CoinLedgerEntry} {db db' : MoneyDb}
    (inserted : (CoinLedgerRepository.insert entry).eval db = .ok (result, db')) :
    0 < entry.amount ∧ findByKey db.coinLedger entry.idempotencyKey = none ∧ result = entry ∧
      db' = db.addCoin entry := by
  rw [eval_insert] at inserted
  split at inserted
  next positive =>
    split at inserted
    next absent =>
      cases inserted
      exact ⟨positive, absent, rfl, rfl⟩
    next => cases inserted
  next => cases inserted

theorem PointLedgerRepository.eval_insert (entry : PointLedgerEntry) (db : MoneyDb) :
    (PointLedgerRepository.insert entry).eval db =
      if 0 < entry.amount then
        if findByKey db.pointLedger entry.idempotencyKey = none then .ok (entry, db.addPoint entry)
        else .error .uniqueViolation
      else .error invalidAmount := by
  simp [PointLedgerRepository.insert, assertPositiveAmount,
    PointLedgerRepository.findByIdempotencyKey]

theorem PointLedgerRepository.insert_ok {entry result : PointLedgerEntry} {db db' : MoneyDb}
    (inserted : (PointLedgerRepository.insert entry).eval db = .ok (result, db')) :
    0 < entry.amount ∧ findByKey db.pointLedger entry.idempotencyKey = none ∧ result = entry ∧
      db' = db.addPoint entry := by
  rw [eval_insert] at inserted
  split at inserted
  next positive =>
    split at inserted
    next absent =>
      cases inserted
      exact ⟨positive, absent, rfl, rfl⟩
    next => cases inserted
  next => cases inserted

end OlNode
