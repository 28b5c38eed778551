import OlNode.InternalLedger.Operations
import OlNode.Ledger.Retry

/-!
# Trading transfers, their reversals and diamond conversions

`coinTradingService.transferTradingCoins` and `reverseTransfer`, and `buyDiamonds` and
`redeemDiamonds` of `diamondConversionService`, with `computeRecovery`, `readAvailableBalance` and
`insertReversalRecord` of the admin reversals. All of them move coins between two wallets in one
transaction that also records the movement.

The balance caches that are refreshed after the commit swallow their errors and are left out. The
list of recent users is not: `invalidateTradingTransferCaches` deletes it with a call to Redis whose
error reaches the caller.
-/
namespace OlNode.Trading

open ReadCommitted InternalLedger

inductive RecipientWalletType where
  | personal | trading
  deriving DecidableEq

inductive RevertMode where
  | full | force
  deriving DecidableEq

inductive DiamondConversionDirection where
  | buy | redeem
  deriving DecidableEq

structure CoinTradingTransfer where
  id : TransferId
  recipientUserId : UserId
  tradingCoinsDebited : Int
  coinsCredited : Int
  recipientWalletType : RecipientWalletType
  senderLedgerEntryId : LedgerKey
  recipientLedgerEntryId : LedgerKey
  reversedAt : Option Time := none
  reversedByAdminId : Option UserId := none
  reverseReason : Option Nat := none

/-- A row of `admin_transaction_reversals` whose source is a trading transfer. -/
structure AdminTransactionReversal where
  sourceId : TransferId
  currency : WalletCurrencyType
  senderUserId : UserId
  receiverUserId : UserId
  originalAmount : Int
  recoveredAmount : Int
  shortfallAmount : Int
  forced : Bool
  reason : Nat
  adminUserId : UserId
  debitLedgerEntryId : LedgerKey
  creditLedgerEntryId : LedgerKey

structure DiamondConversion where
  userId : UserId
  direction : DiamondConversionDirection
  coinAmount : Int
  diamondAmount : Int
  coinLedgerEntryId : LedgerKey
  diamondLedgerEntryId : LedgerKey
  idempotencyKey : Nat

structure TradingUser where
  id : UserId
  isAgent : Bool

structure TradingDb where
  money : MoneyDb
  /-- The wallet rows that exist. -/
  wallets : List Wallet
  user : UserId → Option TradingUser
  userByPublicId : Nat → Option TradingUser
  transfers : List CoinTradingTransfer
  reversals : List AdminTransactionReversal
  conversions : List DiamondConversion

abbrev TradingTx := Tx TradingDb Lock LedgerError
abbrev TradingProg := Prog TradingDb Lock LedgerError

def TradingDb.setMoney (db : TradingDb) (money : MoneyDb) : TradingDb := { db with money }

def onMoney {α : Type} (x : LedgerTx α) : TradingTx α :=
  x.zoom TradingDb.money fun money db => db.setMoney money

/-! ### Wallets and legs -/

def TradingDb.addWallet (db : TradingDb) (wallet : Wallet) : TradingDb :=
  { db with wallets := db.wallets ++ [wallet] }

/-- The INSERT waits for a concurrent insert of the same wallet and then fails on the unique
index. -/
def insertWallet (wallet : Wallet) : TradingTx Unit := do
  Tx.lockRow (.walletRow wallet)
  let taken ← Tx.select fun db => db.wallets.contains wallet
  Tx.ensure (!taken) .uniqueViolation
  Tx.update (.walletRow wallet) fun db => db.addWallet wallet

def getOrCreate (wallet : Wallet) : TradingTx Unit := do
  let found ← Tx.select fun db => db.wallets.contains wallet
  if found then pure () else insertWallet wallet

def openWallets (first second : Wallet) : TradingTx Unit := do
  getOrCreate first
  getOrCreate second
  onMoney (lockWalletsInOrder [first, second])

structure Side where
  wallet : Wallet
  txType : CoinTxType
  counterpartyId : Option UserId := none
  freezeCheck : Bool := true

/-- The debit and then the credit, under the keys `<key>:out` and `<key>:in`. -/
def moveCoins (key : MovementKey) (amount : Int) (source target : Side) :
    TradingTx (LedgerReceipt × LedgerReceipt) := do
  let debit ← onMoney (CoinWallet.debit source.wallet.userId amount source.txType
    { idempotencyKey := .movementDebit key, counterpartyId := source.counterpartyId,
      currencyType := source.wallet.currencyType, freezeCheck := source.freezeCheck })
  let credit ← onMoney (CoinWallet.credit target.wallet.userId amount target.txType
    { idempotencyKey := .movementCredit key, counterpartyId := target.counterpartyId,
      currencyType := target.wallet.currencyType })
  pure (debit, credit)

/-- An INSERT into a table with a unique key, or with several that are taken together. -/
def createUnique (key : MovementKey) (taken : TradingDb → Bool) (error : LedgerError)
    (add : TradingDb → TradingDb) : TradingTx Unit := do
  Tx.lockRow (.movement key)
  let present ← Tx.select taken
  Tx.ensure (!present) error
  Tx.update (.movement key) add

/-! ### Transfers -/

structure TransferInput where
  recipientPublicId : Nat
  tradingCoins : Int
  targetWalletType : Option RecipientWalletType
  idempotencyKey : Nat

/-- What one call runs in: its clock, after how many statements the database aborts its first
attempts, and whether Redis answers when the list of recent users is deleted. -/
structure CallEnvironment where
  now : Time
  aborts : List Nat
  recentUsersDeleted : Bool

def TRADING_COIN_TRANSFER_STEP : Int := 100

def assertPositiveAmountMultiple (amount step : Int) (belowMinCode : ErrorCode)
    (unitLabel : String) : TradingProg Unit := do
  Prog.ensure (step ≤ amount) (appError 400 s!"Minimum {unitLabel} is {step}" belowMinCode)
  Prog.ensure (amount % step = 0)
    (appError 400 s!"{unitLabel} must be an exact multiple of {step}" .invalidAmountStep)

def resolveRecipientWalletType (recipient : TradingUser)
    (targetWalletType : Option RecipientWalletType) : WalletCurrencyType :=
  if !recipient.isAgent then .coin
  else if targetWalletType = some .personal then .coin
  else .tradingCoin

def walletTypeFromTransferRecord : RecipientWalletType → WalletCurrencyType
  | .trading => .tradingCoin
  | .personal => .coin

def findTransfer (db : TradingDb) (id : TransferId) : Option CoinTradingTransfer :=
  db.transfers.find? fun transfer => transfer.id = id

def TradingDb.addTransfer (db : TradingDb) (transfer : CoinTradingTransfer) : TradingDb :=
  { db with transfers := db.transfers ++ [transfer] }

def createTransfer (transfer : CoinTradingTransfer) : TradingTx Unit :=
  createUnique (.tradingTransfer transfer.id) (fun db => (findTransfer db transfer.id).isSome)
    .uniqueViolation fun db => db.addTransfer transfer

def runTransferTransaction (id : TransferId) (recipientUserId : UserId)
    (recipientWalletType : WalletCurrencyType) (tradingCoins : Int) :
    TradingTx CoinTradingTransfer := do
  let existing ← Tx.select fun db => findTransfer db id
  match existing with
  | some transfer => pure transfer
  | none => do
    let senderWallet : Wallet := ⟨id.senderAgentUserId, .tradingCoin⟩
    let recipientWallet : Wallet := ⟨recipientUserId, recipientWalletType⟩
    openWallets senderWallet recipientWallet
    let legs ← moveCoins (.tradingTransfer id) tradingCoins
      { wallet := senderWallet, txType := .tradingTransferOut,
        counterpartyId := some recipientUserId }
      { wallet := recipientWallet, txType := .tradingTransferIn,
        counterpartyId := some id.senderAgentUserId }
    let transfer : CoinTradingTransfer :=
      { id, recipientUserId, tradingCoinsDebited := tradingCoins, coinsCredited := tradingCoins,
        recipientWalletType := if recipientWalletType = .coin then .personal else .trading,
        senderLedgerEntryId := legs.1.ledgerEntryId,
        recipientLedgerEntryId := legs.2.ledgerEntryId }
    createTransfer transfer
    pure transfer

/-- A plain error of the Redis client. -/
def redisUnavailable : LedgerError := appError 500 "Redis unavailable" .internalError

def invalidateTradingTransferCaches (env : CallEnvironment) : TradingProg Unit :=
  Prog.ensure env.recentUsersDeleted redisUnavailable

/-- The loser of a parallel duplicate runs once more and finds the transfer of the winner. -/
def transferOnce (aborts : List Nat) (run : TradingTx CoinTradingTransfer) :
    TradingProg CoinTradingTransfer := do
  let outcome ← (withSerializationRetry run 3 aborts).attempt
  match outcome with
  | .ok transfer => pure transfer
  | .error error => if error = .uniqueViolation then Prog.transaction run else Prog.fail error

def transferTradingCoins (env : CallEnvironment) (senderAgentUserId : UserId)
    (input : TransferInput) : TradingProg CoinTradingTransfer := do
  assertPositiveAmountMultiple input.tradingCoins TRADING_COIN_TRANSFER_STEP .minTransfer
    "trading coins to transfer"
  let sender ← Prog.select fun db => db.user senderAgentUserId
  Prog.ensure (sender.any TradingUser.isAgent) (appError 403 "Agent only" .agentOnly)
  let agency ← Prog.select fun db => db.money.agency senderAgentUserId
  Prog.ensure (!agencyPaused agency env.now) (appError 403 "Agency is paused" .agencyPaused)
  let recipient ← Prog.select fun db => db.userByPublicId input.recipientPublicId
  match recipient with
  | none => Prog.fail (appError 404 "Recipient not found" .recipientNotFound)
  | some recipient => do
    Prog.ensure (!(recipient.id = senderAgentUserId ∧ input.targetWalletType ≠ some .personal))
      (appError 400 "Self transfer only allowed to personal coin wallet" .selfTransfer)
    let transfer ← transferOnce env.aborts (runTransferTransaction
      ⟨senderAgentUserId, input.idempotencyKey⟩ recipient.id
      (resolveRecipientWalletType recipient input.targetWalletType) input.tradingCoins)
    invalidateTradingTransferCaches env
    pure transfer

/-! ### Reversals -/

structure Recovery where
  recovered : Int
  shortfall : Int
  sufficient : Bool

def computeRecovery (original available : Int) (mode : RevertMode) : Recovery :=
  let available := if 0 < available then available else 0
  let sufficient : Bool := original ≤ available
  if mode = .full ∨ sufficient then { recovered := original, shortfall := 0, sufficient }
  else { recovered := available, shortfall := original - available, sufficient }

/-- A wallet that does not exist has nothing. -/
def readAvailableBalance (wallet : Wallet) : TradingTx Int := do
  let found ← Tx.select fun db => db.wallets.contains wallet
  if found then do
    let balance ← Tx.select fun db => latestBalance db.money.coinLedger wallet
    pure (if 0 < balance then balance else 0)
  else pure 0

def CoinTradingTransfer.reversed (transfer : CoinTradingTransfer) (now : Time)
    (adminUserId : UserId) (reason : Nat) : CoinTradingTransfer :=
  { transfer with
      reversedAt := some now, reversedByAdminId := some adminUserId, reverseReason := some reason }

def TradingDb.markReversed (db : TradingDb) (id : TransferId) (now : Time) (adminUserId : UserId)
    (reason : Nat) : TradingDb :=
  { db with transfers := db.transfers.map fun transfer =>
      if transfer.id = id then transfer.reversed now adminUserId reason else transfer }

def findReversal (db : TradingDb) (id : TransferId) : Option AdminTransactionReversal :=
  db.reversals.find? fun reversal => reversal.sourceId = id

def TradingDb.addReversal (db : TradingDb) (reversal : AdminTransactionReversal) : TradingDb :=
  { db with reversals := db.reversals ++ [reversal] }

def insertReversalRecord (reversal : AdminTransactionReversal) : TradingTx Unit :=
  createUnique (.tradingReversal reversal.sourceId)
    (fun db => (findReversal db reversal.sourceId).isSome)
    (appError 409 "Transaction already reverted" .alreadyReverted)
    fun db => db.addReversal reversal

structure ReversalInput where
  adminUserId : UserId
  transferId : TransferId
  reason : Nat
  mode : RevertMode

def runReversal (now : Time) (input : ReversalInput) (transfer : CoinTradingTransfer) :
    TradingTx Recovery := do
  let recipientWalletType := walletTypeFromTransferRecord transfer.recipientWalletType
  let recipientWallet : Wallet := ⟨transfer.recipientUserId, recipientWalletType⟩
  let senderWallet : Wallet := ⟨transfer.id.senderAgentUserId, .tradingCoin⟩
  openWallets recipientWallet senderWallet
  let available ← readAvailableBalance recipientWallet
  let recovery := computeRecovery transfer.coinsCredited available input.mode
  Tx.ensure (0 < recovery.recovered)
    (appError 409 "Recipient has nothing left to recover" .nothingToRecover)
  let legs ← moveCoins (.tradingReversal transfer.id) recovery.recovered
    { wallet := recipientWallet, txType := .tradingTransferReversal, freezeCheck := false }
    { wallet := senderWallet, txType := .tradingTransferReversal }
  Tx.update (.coinTradingTransfer transfer.id) fun db =>
    db.markReversed transfer.id now input.adminUserId input.reason
  insertReversalRecord
    { sourceId := transfer.id, currency := recipientWalletType,
      senderUserId := transfer.id.senderAgentUserId, receiverUserId := transfer.recipientUserId,
      originalAmount := transfer.coinsCredited, recoveredAmount := recovery.recovered,
      shortfallAmount := recovery.shortfall, forced := 0 < recovery.shortfall,
      reason := input.reason, adminUserId := input.adminUserId,
      debitLedgerEntryId := legs.1.ledgerEntryId, creditLedgerEntryId := legs.2.ledgerEntryId }
  pure recovery

def reversalRefusal (transfer : CoinTradingTransfer) (error : LedgerError) : LedgerError :=
  if error = insufficientCoins then
    if walletTypeFromTransferRecord transfer.recipientWalletType = .tradingCoin then
      appError 402 "Insufficient trading coins on receiver to revert" .insufficientTradingCoins
    else appError 402 "Insufficient coins on receiver to revert" .insufficientCoins
  else error

def reverseTransfer (env : CallEnvironment) (input : ReversalInput) : TradingProg Recovery := do
  let transfer ← Prog.select fun db => findTransfer db input.transferId
  match transfer with
  | none => Prog.fail (appError 404 "Transfer not found" .transferNotFound)
  | some transfer => do
    Prog.ensure transfer.reversedAt.isNone
      (appError 409 "Transfer already reversed" .transferAlreadyReversed)
    let recovery ← Prog.transactionCatch (runReversal env.now input transfer) fun error =>
      Prog.fail (reversalRefusal transfer error)
    invalidateTradingTransferCaches env
    pure recovery

/-! ### Conversions -/

def conversionKey (direction : DiamondConversionDirection) (userId : UserId)
    (idempotencyKey : Nat) : MovementKey :=
  match direction with
  | .buy => .diamondBuy userId idempotencyKey
  | .redeem => .diamondRedeem userId idempotencyKey

def DiamondConversion.key (conversion : DiamondConversion) : MovementKey :=
  conversionKey conversion.direction conversion.userId conversion.idempotencyKey

def findExistingConversion (db : TradingDb) (key : MovementKey) : Option DiamondConversion :=
  db.conversions.find? fun conversion => conversion.key = key

def DiamondConversion.clashes (conversion other : DiamondConversion) : Bool :=
  conversion.key = other.key ∨ conversion.coinLedgerEntryId = other.coinLedgerEntryId ∨
    conversion.diamondLedgerEntryId = other.diamondLedgerEntryId

def TradingDb.addConversion (db : TradingDb) (conversion : DiamondConversion) : TradingDb :=
  { db with conversions := db.conversions ++ [conversion] }

def createConversion (conversion : DiamondConversion) : TradingTx Unit :=
  createUnique conversion.key (fun db => db.conversions.any fun other => conversion.clashes other)
    .uniqueViolation fun db => db.addConversion conversion

def conversionSource (direction : DiamondConversionDirection) (userId : UserId) : Side :=
  match direction with
  | .buy => { wallet := ⟨userId, .coin⟩, txType := .diamondPurchaseOut }
  | .redeem => { wallet := ⟨userId, .diamond⟩, txType := .diamondRedeemOut }

def conversionTarget (direction : DiamondConversionDirection) (userId : UserId) : Side :=
  match direction with
  | .buy => { wallet := ⟨userId, .diamond⟩, txType := .diamondPurchaseIn }
  | .redeem => { wallet := ⟨userId, .coin⟩, txType := .diamondRedeemIn }

/-- One coin is one diamond, in both directions. -/
def runConversion (direction : DiamondConversionDirection) (userId : UserId) (amount : Int)
    (idempotencyKey : Nat) : TradingTx DiamondConversion := do
  let key := conversionKey direction userId idempotencyKey
  let existing ← Tx.select fun db => findExistingConversion db key
  match existing with
  | some conversion => pure conversion
  | none => do
    openWallets ⟨userId, .coin⟩ ⟨userId, .diamond⟩
    let legs ← moveCoins key amount (conversionSource direction userId)
      (conversionTarget direction userId)
    let conversion : DiamondConversion :=
      { userId, direction, coinAmount := amount, diamondAmount := amount,
        coinLedgerEntryId :=
          (if direction = .buy then legs.1 else legs.2).ledgerEntryId
        diamondLedgerEntryId :=
          (if direction = .buy then legs.2 else legs.1).ledgerEntryId
        idempotencyKey }
    createConversion conversion
    pure conversion

/-- A unique violation means a parallel duplicate if its conversion can be found. -/
def convertOnce (aborts : List Nat) (key : MovementKey) (run : TradingTx DiamondConversion) :
    TradingProg DiamondConversion := do
  let outcome ← (withSerializationRetry run 3 aborts).attempt
  match outcome with
  | .ok conversion => pure conversion
  | .error error =>
    if error = .uniqueViolation then do
      let existing ← Prog.select fun db => findExistingConversion db key
      match existing with
      | some conversion => pure conversion
      | none => Prog.fail error
    else Prog.fail error

def convert (env : CallEnvironment) (direction : DiamondConversionDirection) (label : String)
    (userId : UserId) (amount : Int) (idempotencyKey : Nat) : TradingProg DiamondConversion := do
  Prog.ensure (0 < amount) (appError 400 s!"{label} must be positive" .invalidAmount)
  convertOnce env.aborts (conversionKey direction userId idempotencyKey)
    (runConversion direction userId amount idempotencyKey)

def buyDiamonds (env : CallEnvironment) (userId : UserId) (coinAmount : Int)
    (idempotencyKey : Nat) : TradingProg DiamondConversion :=
  convert env .buy "coinAmount" userId coinAmount idempotencyKey

def redeemDiamonds (env : CallEnvironment) (userId : UserId) (diamondAmount : Int)
    (idempotencyKey : Nat) : TradingProg DiamondConversion :=
  convert env .redeem "diamondAmount" userId diamondAmount idempotencyKey

/-! ### Requests -/

inductive Call where
  | transfer (senderAgentUserId : UserId) (input : TransferInput)
  | reverse (input : ReversalInput)
  | buyDiamonds (userId : UserId) (coinAmount : Int) (idempotencyKey : Nat)
  | redeemDiamonds (userId : UserId) (diamondAmount : Int) (idempotencyKey : Nat)

structure Request where
  env : CallEnvironment
  call : Call

def handler (request : Request) : TradingProg Unit :=
  match request.call with
  | .transfer sender input => (transferTradingCoins request.env sender input).forget
  | .reverse input => (reverseTransfer request.env input).forget
  | .buyDiamonds userId amount key => (buyDiamonds request.env userId amount key).forget
  | .redeemDiamonds userId amount key => (redeemDiamonds request.env userId amount key).forget

abbrev TradingConfig := Config Request TradingDb Lock LedgerError

end OlNode.Trading
