import OlNode.Ledger.Database

/-!
# Coin and point wallets

`walletLevelService`, `wallet-freeze.service`, `coinWalletService`, `pointWalletService` and
`agencyCommissionService.applyCommission`, each on the transaction it is given. Every balance is
the `balanceAfter` of the newest row of the wallet, read after the wallet row is locked.
-/
namespace OlNode

open ReadCommitted

/-! ### Levels -/

structure LevelResult where
  newLevel : Nat
  previousLevel : Nat
  newCumulative : Int

/-- Highest level whose threshold is reached; the loop stops at the first one that is not. -/
def computeLevel (cumulativeTotal : Int) (thresholds : List LevelThreshold) : Nat :=
  (thresholds.takeWhile fun t => decide (t.threshold ≤ cumulativeTotal)).foldl
    (fun _ t => t.level) 1

def MoneyDb.setLevel (db : MoneyDb) (userId : UserId) (levelType : LevelType)
    (row : WalletUserLevel) : MoneyDb :=
  { db with userLevel := fun u t =>
      if u = userId ∧ t = levelType then some row else db.userLevel u t }

/-- `walletLevelService.applyCredit`; a missing row starts at level 1 with total 0. -/
def applyCredit (userId : UserId) (levelType : LevelType) (increment : Int) :
    LedgerTx LevelResult := do
  Tx.lockRow (.userLevel userId levelType)
  let current ← Tx.select fun db => (db.userLevel userId levelType).getD ⟨1, 0⟩
  let thresholds ← Tx.select fun db => db.levelThresholds levelType
  let newCumulative := current.cumulativeTotal + increment
  let newLevel := computeLevel newCumulative thresholds
  Tx.update (.userLevel userId levelType) fun db =>
    db.setLevel userId levelType ⟨newLevel, newCumulative⟩
  pure { newLevel, previousLevel := current.currentLevel, newCumulative }

/-! ### Freeze flags -/

def getUserWalletFreezeFlags (userId : UserId) : LedgerTx WalletFreezeFlags := do
  let row ← Tx.select fun db => db.freezeFlags userId
  match row with
  | none => Tx.fail (.app { status := 404, message := "User not found", code := .userNotFound })
  | some flags => pure flags

def throwIfCoinFrozen (flags : WalletFreezeFlags) (currencyType : WalletCurrencyType) :
    LedgerTx Unit :=
  if currencyType = .coin ∧ flags.personalCoinsFrozen then
    Tx.fail (.app
      { status := 403, message := "Personal coins are frozen", code := .personalCoinsFrozen })
  else if currencyType = .tradingCoin ∧ flags.tradingCoinsFrozen then
    Tx.fail (.app
      { status := 403, message := "Trading coins are frozen", code := .tradingCoinsFrozen })
  else pure ()

def assertCoinDebitAllowedInTx (userId : UserId) (currencyType : WalletCurrencyType) :
    LedgerTx Unit := do
  let flags ← getUserWalletFreezeFlags userId
  throwIfCoinFrozen flags currencyType

def assertPointsDebitAllowedInTx (userId : UserId) : LedgerTx Unit := do
  let flags ← getUserWalletFreezeFlags userId
  Tx.ensure (!flags.pointsFrozen)
    (.app { status := 403, message := "Points are frozen", code := .pointsFrozen })

/-! ### Coins -/

structure LedgerReceipt where
  ledgerEntryId : LedgerKey
  balanceAfter : Int

structure CoinOptions where
  idempotencyKey : LedgerKey
  counterpartyId : Option UserId := none
  currencyType : WalletCurrencyType := .coin
  /-- `applyWealthXp` of a debit, `applyWealthCredit` of a credit. -/
  applyWealth : Bool := false
  freezeCheck : Bool := true

namespace CoinWallet

def debit (userId : UserId) (amount : Int) (txType : CoinTxType) (options : CoinOptions) :
    LedgerTx LedgerReceipt := do
  assertPositiveAmount amount
  let existing ← CoinLedgerRepository.findByIdempotencyKey options.idempotencyKey
  match existing with
  | some row => pure ⟨row.idempotencyKey, row.balanceAfter⟩
  | none =>
    let wallet : Wallet := ⟨userId, options.currencyType⟩
    lockForUpdate wallet
    Tx.when options.freezeCheck (assertCoinDebitAllowedInTx userId options.currencyType)
    let balance ← latestCoinBalance wallet
    Tx.ensure (amount ≤ balance) insufficientCoins
    let entry ← CoinLedgerRepository.insert
      { wallet, direction := .debit, txType, amount, balanceAfter := balance - amount,
        idempotencyKey := options.idempotencyKey, counterpartyId := options.counterpartyId }
    Tx.when (options.applyWealth ∧ options.currencyType = .coin) do
      let _ ← applyCredit userId .wealth amount
      pure ()
    pure ⟨entry.idempotencyKey, entry.balanceAfter⟩

def credit (userId : UserId) (amount : Int) (txType : CoinTxType) (options : CoinOptions) :
    LedgerTx LedgerReceipt := do
  assertPositiveAmount amount
  let existing ← CoinLedgerRepository.findByIdempotencyKey options.idempotencyKey
  match existing with
  | some row => pure ⟨row.idempotencyKey, row.balanceAfter⟩
  | none =>
    let wallet : Wallet := ⟨userId, options.currencyType⟩
    lockForUpdate wallet
    let balance ← latestCoinBalance wallet
    Tx.when (options.applyWealth ∧ options.currencyType = .coin) do
      let _ ← applyCredit userId .wealth amount
      pure ()
    let entry ← CoinLedgerRepository.insert
      { wallet, direction := .credit, txType, amount, balanceAfter := balance + amount,
        idempotencyKey := options.idempotencyKey, counterpartyId := options.counterpartyId }
    pure ⟨entry.idempotencyKey, entry.balanceAfter⟩

end CoinWallet

/-! ### Points -/

structure PointOptions where
  idempotencyKey : LedgerKey
  refId : Option RefId := none
  counterpartyId : Option UserId := none
  applyLivestreamLevel : Bool := false
  availabilityCheck : Bool := true
  freezeCheck : Bool := true

namespace PointWallet

/-- The row of a point credit: everything `creditInTransaction` does before commission and XP. -/
def creditRow (userId : UserId) (amount : Int) (txType : PointTxType) (options : PointOptions) :
    LedgerTx (PointLedgerEntry × Bool) := do
  assertPositiveAmount amount
  let existing ← PointLedgerRepository.findByIdempotencyKey options.idempotencyKey
  match existing with
  | some row => pure (row, false)
  | none =>
    let wallet : Wallet := ⟨userId, .point⟩
    lockForUpdate wallet
    let last ← latestPointBalance wallet
    let entry ← PointLedgerRepository.insert
      { wallet, direction := .credit, txType, amount, balanceAfter := last + amount,
        refId := options.refId, counterpartyId := options.counterpartyId,
        idempotencyKey := options.idempotencyKey }
    pure (entry, true)

/-- A point credit under a fresh key appends one row. -/
theorem eval_creditRow {money : MoneyDb} {amount : Int} {options : PointOptions}
    (positive : 0 < amount) (fresh : findByKey money.pointLedger options.idempotencyKey = none)
    (userId : UserId) (txType : PointTxType) :
    ∃ entry : PointLedgerEntry, entry.wallet = ⟨userId, .point⟩ ∧ entry.amount = amount ∧
      entry.idempotencyKey = options.idempotencyKey ∧
      entry.balanceAfter = latestBalance money.pointLedger ⟨userId, .point⟩ + amount ∧
      (creditRow userId amount txType options).eval money =
        .ok ((entry, true), money.addPoint entry) := by
  let entry : PointLedgerEntry :=
    { wallet := ⟨userId, .point⟩, direction := .credit, txType, amount,
      balanceAfter := latestBalance money.pointLedger ⟨userId, .point⟩ + amount,
      refId := options.refId, counterpartyId := options.counterpartyId,
      idempotencyKey := options.idempotencyKey }
  have inserted : (PointLedgerRepository.insert entry).eval money =
      .ok (entry, money.addPoint entry) := by
    rw [PointLedgerRepository.eval_insert, if_pos positive, if_pos fresh]
  refine ⟨entry, rfl, rfl, rfl, rfl, ?_⟩
  rw [creditRow, assertPositiveAmount, Tx.eval_ensure_bind, if_pos (by simpa),
    PointLedgerRepository.findByIdempotencyKey, Tx.eval_select_bind, fresh]
  simp only [lockForUpdate, latestPointBalance, Tx.eval_lockRow_bind, Tx.eval_select_bind]
  exact Tx.eval_bind_of_ok _ inserted

end PointWallet

/-! ### Agency commission -/

def LIVE_COMMISSION_TX_TYPES : List PointTxType := [.giftReceive, .livestreamGift]

def MATCH_CHAT_COMMISSION_TX_TYPES : List PointTxType := [.videoCall]

/-- The agency a host's commission goes to: the one joined, else the one owned. -/
def resolveCommissionAgency (hostUserId : UserId) : LedgerTx (Option UserId) :=
  Tx.select fun db =>
    match db.currentAgencyId hostUserId with
    | some agencyUserId => some agencyUserId
    | none => (db.agency hostUserId).map fun _ => hostUserId

/-- INSERT of the processed marker; a marker that exists already is caught as P2002. -/
def markCommissionProcessed (hostEntry : LedgerKey) : LedgerTx Bool := do
  Tx.lockRow (.commissionProcessed hostEntry)
  let processed ← Tx.select fun db => db.commissionProcessed.contains hostEntry
  if processed then pure false
  else
    Tx.update (.commissionProcessed hostEntry) fun db =>
      { db with commissionProcessed := db.commissionProcessed ++ [hostEntry] }
    pure true

def agencyPaused (row : Option Agency) (now : Time) : Bool :=
  match row with
  | none => false
  | some a => a.pausedAt.isSome && (match a.pausedUntil with | none => true | some u => now < u)

/-- `agencyCommissionService.applyCommission`. The agency is credited through the same code as any
other point credit; its type is AGENT_COMMISSION, for which commission and XP are both off. -/
def applyCommission (now : Time) (hostUserId : UserId) (hostEntry : LedgerKey)
    (hostPointsCredited : Int) (hostTxType : PointTxType) : LedgerTx (Option UserId) := do
  let resolved ← resolveCommissionAgency hostUserId
  match resolved with
  | none => pure none
  | some agencyUserId =>
    if hostTxType ∈ LIVE_COMMISSION_TX_TYPES ++ MATCH_CHAT_COMMISSION_TX_TYPES then
      let agencyRow ← Tx.select fun db => db.agency agencyUserId
      if agencyPaused agencyRow now then
        let _ ← markCommissionProcessed hostEntry
        pure none
      else
        -- `currentLevel ?? 'D'`: level 0 stands for the default tier.
        let levelCfg ← Tx.select fun db =>
          db.commissionLevel ((agencyRow.map (·.currentLevel)).getD 0)
        match levelCfg with
        | none => Tx.fail (.app
            { status := 500, message := "Missing agency commission level row",
              code := .configError })
        | some cfg =>
          let rateBp := if hostTxType ∈ LIVE_COMMISSION_TX_TYPES then cfg.liveRateBp
            else cfg.matchChatRateBp
          let commissionPoints := (hostPointsCredited * rateBp).tdiv 10000
          let fresh ← markCommissionProcessed hostEntry
          if fresh then
            Tx.when (0 < commissionPoints) do
              let host ← PointLedgerRepository.findByIdempotencyKey hostEntry
              let businessRefId := (host.bind (·.refId)).getD (.ledgerEntry hostEntry)
              let _ ← PointWallet.creditRow agencyUserId commissionPoints .agentCommission
                { idempotencyKey := .agencyCommission hostEntry, refId := some businessRefId,
                  counterpartyId := some hostUserId }
              pure ()
            pure (some agencyUserId)
          else pure none
    else pure none

namespace PointWallet

/-- The host credits that go through `applyCommission`. -/
def creditsWithCommission : List PointTxType :=
  [.livestreamGift, .giftReceive, .videoCall, .subscription, .guardianPurchase]

def creditInTransaction (now : Time) (userId : UserId) (amount : Int) (txType : PointTxType)
    (options : PointOptions) : LedgerTx LedgerReceipt := do
  let (entry, inserted) ← creditRow userId amount txType options
  Tx.when (inserted ∧ txType ∈ creditsWithCommission) do
    let _ ← applyCommission now userId entry.idempotencyKey amount txType
    pure ()
  Tx.when (inserted ∧ options.applyLivestreamLevel ∧ txType ≠ .agentCommission ∧
      txType ≠ .agentPointTransfer) do
    let _ ← applyCredit userId .livestream amount
    pure ()
  pure ⟨entry.idempotencyKey, entry.balanceAfter⟩

/-- The wallet row comes from the upsert made before the lock, so `unconfirmed` is read first. -/
def debit (userId : UserId) (amount : Int) (txType : PointTxType) (options : PointOptions) :
    LedgerTx LedgerReceipt := do
  assertPositiveAmount amount
  let existing ← PointLedgerRepository.findByIdempotencyKey options.idempotencyKey
  match existing with
  | some row => pure ⟨row.idempotencyKey, row.balanceAfter⟩
  | none =>
    let wallet : Wallet := ⟨userId, .point⟩
    let unconfirmed ← Tx.select fun db => db.unconfirmedPoints userId
    lockForUpdate wallet
    Tx.when options.freezeCheck (assertPointsDebitAllowedInTx userId)
    let balance ← latestPointBalance wallet
    let available := if options.availabilityCheck then balance - unconfirmed else balance
    Tx.ensure (amount ≤ available) insufficientPoints
    let entry ← PointLedgerRepository.insert
      { wallet, direction := .debit, txType, amount, balanceAfter := balance - amount,
        refId := options.refId, counterpartyId := options.counterpartyId,
        idempotencyKey := options.idempotencyKey }
    pure ⟨entry.idempotencyKey, entry.balanceAfter⟩

/-- A soft escrow marker: the row carries the running balance forward unchanged. -/
def escrow (userId : UserId) (amount : Int) (txType : PointTxType) (options : PointOptions) :
    LedgerTx LedgerReceipt := do
  assertPositiveAmount amount
  let existing ← PointLedgerRepository.findByIdempotencyKey options.idempotencyKey
  match existing with
  | some row => pure ⟨row.idempotencyKey, row.balanceAfter⟩
  | none =>
    assertPointsDebitAllowedInTx userId
    let wallet : Wallet := ⟨userId, .point⟩
    lockForUpdate wallet
    let runningBalance ← latestPointBalance wallet
    let entry ← PointLedgerRepository.insert
      { wallet, direction := .debit, txType, amount, balanceAfter := runningBalance,
        refId := options.refId, counterpartyId := options.counterpartyId,
        idempotencyKey := options.idempotencyKey }
    pure ⟨entry.idempotencyKey, entry.balanceAfter⟩

end PointWallet

end OlNode
