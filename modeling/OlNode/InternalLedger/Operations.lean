import OlNode.Ledger.Wallets
import OlNode.LuckyWater.Tiers

/-!
# The internal ledger

`internalLedger.service.ts`: gifts, lucky gifts, call minutes and global messages. Each operation
locks every wallet it writes, charges the payer, credits the host and settles commission and levels
in one transaction; when that transaction hits a unique key, the operation is replayed from the
rows it wrote the first time. Rankings, the reserve pool counters, the legacy level mirror and the
caches refreshed after a commit are left out.
-/
namespace OlNode.InternalLedger

open ReadCommitted

/-- What an operation takes from its surroundings: the clock, the revenue shares in force, the
caches of the tier resolution and the random numbers. -/
structure Environment where
  now : Time
  shares : HostRevenueShares
  caches : LuckyCaches
  rolls : Nat → Nat

def GLOBAL_MESSAGE_COST : Int := 10000

def appError (status : Nat) (message : String) (code : ErrorCode) : LedgerError :=
  .app { status, message, code }

/-! ### Revenue shares -/

def hostPointsFromGift (coinCost giftReceiveBp : Int) : Int :=
  if coinCost ≤ 0 then 0 else (coinCost * giftReceiveBp).tdiv 10000

/-- Ceiling division. -/
def callerCoinDebitForCall (hostPricePerMin hostShareBp : Int) : Int :=
  if hostPricePerMin ≤ 0 then 0
  else (hostPricePerMin * 10000 + hostShareBp - 1).tdiv hostShareBp

/-! ### In-transaction helpers -/

/-- The source sorts by wallet id, which decides only who waits for whom. -/
def lockWalletsInOrder : List Wallet → LedgerTx Unit
  | [] => pure ()
  | wallet :: wallets => do
    lockForUpdate wallet
    lockWalletsInOrder wallets

def commissionAgency (hostUserId : Option UserId) (withCommission : Bool) :
    LedgerTx (Option UserId) :=
  match hostUserId with
  | some host => if withCommission then resolveCommissionAgency host else pure none
  | none => pure none

def lockForOperation (payerUserId : UserId) (hostUserId : Option UserId)
    (withCommission : Bool) : LedgerTx Unit := do
  let agencyUserId ← commissionAgency hostUserId withCommission
  let points := hostUserId.toList ++ agencyUserId.toList
  lockWalletsInOrder (⟨payerUserId, .coin⟩ :: points.map fun userId => ⟨userId, .point⟩)
  assertCoinDebitAllowedInTx payerUserId .coin

def settleHostCredit (now : Time) (hostUserId : UserId) (hostLedgerEntryId : LedgerKey)
    (points : Int) (txType : PointTxType) (withCommission : Bool) : LedgerTx (Option UserId) :=
  if withCommission then applyCommission now hostUserId hostLedgerEntryId points txType
  else pure none

/-- INSERT of a gift transaction; its id is unique. -/
def createGiftTransaction (row : GiftTransaction) : LedgerTx Unit := do
  Tx.lockRow (.giftTransaction row.id)
  let taken ← Tx.select fun db => db.giftTransactions.any fun g => g.id = row.id
  Tx.ensure (!taken) .uniqueViolation
  Tx.update (.giftTransaction row.id) fun db =>
    { db with giftTransactions := db.giftTransactions ++ [row] }

/-! ### Replays -/

def currentLevel (userId : UserId) (levelType : LevelType) : LedgerProg LevelResult :=
  Prog.select fun db =>
    let row := (db.userLevel userId levelType).getD ⟨1, 0⟩
    { newLevel := row.currentLevel, previousLevel := row.currentLevel,
      newCumulative := row.cumulativeTotal }

def duplicate : LedgerError :=
  appError 409 "Duplicate ledger operation (already processed)" .duplicateLedgerKey

/-- The primary row exists already: the same request gets its result back, any other an error. -/
def replayOrDuplicate {α : Type} (primaryKey : LedgerKey) (requestId : Nat)
    (rebuild : CoinLedgerEntry → LedgerProg α) : LedgerProg α := do
  let row ← Prog.select fun db => findByKey db.coinLedger primaryKey
  match row with
  | none => Prog.fail duplicate
  | some row =>
    Prog.ensure (row.requestId = some requestId) duplicate
    rebuild row

def pointBalanceAfterKey (key : LedgerKey) : LedgerProg (Option Int) :=
  Prog.select fun db => (findByKey db.pointLedger key).map (·.balanceAfter)

def giftNotFound : LedgerError := appError 404 "Gift not found or is inactive." .giftNotFound

def wrongGiftKind (lucky : Bool) : LedgerError :=
  appError 400 (if lucky then "This gift is not a lucky gift."
    else "Lucky gifts use the lucky-gift operation.") .wrongGiftKind

def loadSendableGift (giftId : Nat) (lucky : Bool) : LedgerProg Gift := do
  let row ← Prog.select fun db => db.gift giftId
  match row with
  | none => Prog.fail giftNotFound
  | some gift =>
    Prog.ensure gift.isActive giftNotFound
    Prog.ensure (lucky = gift.isLucky) (wrongGiftKind lucky)
    pure gift

/-! ### Gifts -/

inductive SendContext where
  | liveStream | videoCall
  deriving DecidableEq

structure GiftSendInput where
  requestId : Nat
  context : SendContext
  senderId : UserId
  receiverId : UserId
  giftId : Nat
  quantity : Nat
  giftTransactionId : Nat
  idemBase : Nat
  sessionId : Option Nat := none

structure GiftSendResult where
  transactionId : Nat
  coinCost : Int
  pointsAwarded : Int
  balanceAfterCoins : Int
  balanceAfterPoints : Int
  wealth : LevelResult
  agencyUserId : Option UserId
  replayed : Bool

/-- What the transaction of `giftSend` returns. -/
structure GiftSettled where
  balanceAfterCoins : Int
  balanceAfterPoints : Int
  wealth : LevelResult
  agencyUserId : Option UserId

/-- A gift in a call: both ends must be participants of an active session. -/
def checkCallGift (input : GiftSendInput) : LedgerProg Unit :=
  match input.context with
  | .liveStream => pure ()
  | .videoCall => do
    Prog.ensure (input.senderId ≠ input.receiverId)
      (appError 400 "Cannot send a gift to yourself" .invalidRequest)
    match input.sessionId with
    | none => Prog.fail (appError 400 "sessionId is required" .invalidRequest)
    | some sessionId =>
      let session ← Prog.select fun db => db.session sessionId
      match session with
      | none => Prog.fail (appError 404 "Video call session not found." .callNotFound)
      | some session =>
        Prog.ensure (session.status = .active)
          (appError 409 "Video call session is not active." .callNotActive)
        let participants := [session.callerId, session.creatorId]
        Prog.ensure (input.senderId ∈ participants ∧ input.receiverId ∈ participants)
          (appError 403 "Not a participant of this call" .forbidden)

/-- The host's side of a gift; a share that rounds to 0 writes no row. -/
def creditGiftHost (input : GiftSendInput) (points balanceAfterPoints : Int) : LedgerTx Bool :=
  if 0 < points then do
    let _ ← PointLedgerRepository.insert
      { wallet := ⟨input.receiverId, .point⟩, direction := .credit, txType := .giftReceive,
        amount := points, balanceAfter := balanceAfterPoints,
        idempotencyKey := .giftPoint input.idemBase,
        refId := some (.giftTransaction input.giftTransactionId),
        counterpartyId := some input.senderId }
    pure true
  else pure false

def giftSendTx (env : Environment) (input : GiftSendInput) (gift : Gift) (coinCost points : Int) :
    LedgerTx GiftSettled := do
  lockForOperation input.senderId (some input.receiverId) true
  let coins ← latestCoinBalance ⟨input.senderId, .coin⟩
  Tx.ensure (coinCost ≤ coins) insufficientCoins
  let balanceAfterCoins := coins - coinCost
  let pointsBefore ← latestPointBalance ⟨input.receiverId, .point⟩
  let balanceAfterPoints := pointsBefore + points
  let _ ← CoinLedgerRepository.insert
    { wallet := ⟨input.senderId, .coin⟩, direction := .debit, txType := .giftSend,
      amount := coinCost, balanceAfter := balanceAfterCoins,
      idempotencyKey := .giftCoin input.idemBase,
      refId := some (.giftTransaction input.giftTransactionId),
      counterpartyId := some input.receiverId, requestId := some input.requestId }
  let credited ← creditGiftHost input points balanceAfterPoints
  createGiftTransaction
    { id := input.giftTransactionId, senderUserId := input.senderId,
      receiverUserId := input.receiverId, giftId := gift.id,
      -- the live-stream row stores the unit cost, the video-call row the total
      coinCost := if input.context = .liveStream then gift.coinCost else coinCost,
      quantity := input.quantity, pointsAwarded := points,
      context := if input.context = .liveStream then .liveStream else .videoCall,
      createdAt := env.now }
  let wealth ← applyCredit input.senderId .wealth coinCost
  if credited then
    let _ ← applyCredit input.receiverId .livestream points
    let agencyUserId ← settleHostCredit env.now input.receiverId (.giftPoint input.idemBase)
      points .giftReceive true
    pure { balanceAfterCoins, balanceAfterPoints, wealth, agencyUserId }
  else pure { balanceAfterCoins, balanceAfterPoints, wealth, agencyUserId := none }

/-- The replay of `giftSend`: balances from the ledger rows, amounts computed anew. -/
def replayGiftSend (input : GiftSendInput) (coinCost points : Int) : LedgerProg GiftSendResult :=
  replayOrDuplicate (.giftCoin input.idemBase) input.requestId fun row => do
    let pointBalance ← pointBalanceAfterKey (.giftPoint input.idemBase)
    let wealth ← currentLevel input.senderId .wealth
    let transactionId := match row.refId with
      | some (.giftTransaction id) => id
      | _ => input.giftTransactionId
    pure
      { transactionId, coinCost, pointsAwarded := points, balanceAfterCoins := row.balanceAfter,
        balanceAfterPoints := pointBalance.getD 0, wealth, agencyUserId := none,
        replayed := true }

def giftSend (env : Environment) (input : GiftSendInput) : LedgerProg GiftSendResult := do
  checkCallGift input
  let gift ← loadSendableGift input.giftId false
  let coinCost := gift.coinCost * input.quantity
  let points := hostPointsFromGift coinCost env.shares.giftReceiveBp
  (giftSendTx env input gift coinCost points).run
    (fun settled => pure
      { transactionId := input.giftTransactionId, coinCost, pointsAwarded := points,
        balanceAfterCoins := settled.balanceAfterCoins,
        balanceAfterPoints := settled.balanceAfterPoints, wealth := settled.wealth,
        agencyUserId := settled.agencyUserId, replayed := false })
    (fun error => if error = .uniqueViolation then replayGiftSend input coinCost points
      else Prog.fail error)

/-! ### Lucky gifts -/

structure LuckyGiftInput where
  requestId : Nat
  senderId : UserId
  /-- `none` is the sender. -/
  receiverId : Option UserId
  giftId : Nat
  count : Nat
  giftTransactionId : Nat
  txKeyBase : LuckyKeyBase
  /-- Drawn by the caller; only the legacy engine looks at it. -/
  rewardCoins : Int
  category : Nat
  supportsServerDraw : Bool := false

inductive EngineName where
  | legacy | waterV1
  deriving DecidableEq

structure LuckyGiftResult where
  transactionId : Nat
  totalCost : Int
  hostPoints : Int
  rewardCoins : Int
  finalBalanceCoins : Int
  pointsAfterHost : Option Int
  effectiveReceiverId : UserId
  wealth : LevelResult
  agencyUserId : Option UserId
  replayed : Bool
  engine : EngineName
  category : LuckyCategory
  tierId : Option LuckyTierId
  configVersion : Option Nat
  breakdownArray : Option (List Int)

/-- What the transaction of `luckyGiftSend` returns. -/
structure LuckySettled where
  finalBalanceCoins : Int
  pointsAfterHost : Option Int
  wealth : LevelResult
  agencyUserId : Option UserId
  engine : EngineName
  rewardCoins : Int
  category : LuckyCategory
  tierId : Option LuckyTierId
  configVersion : Option Nat
  breakdownArray : Option (List Int)

namespace LuckyGiftInput

variable (input : LuckyGiftInput)

def receiver : UserId := input.receiverId.getD input.senderId

def isCombo : Bool := 1 < input.count

def hasClientTxId : Bool :=
  match input.txKeyBase with
  | .clientScoped _ _ => true
  | .plain _ => false

def payload : LuckyPayload := ⟨input.senderId, input.giftId, input.count, input.receiverId⟩

/-- Single: at most 10 times the cost; combo: at most twice. -/
def maxReward (totalCost : Int) : Int := totalCost * if input.isCombo then 2 else 10

end LuckyGiftInput

/-- The host's cut; none when it rounds to 0. Returns the host's new balance and the agency. -/
def creditLuckyHost (env : Environment) (input : LuckyGiftInput) (hostPoints : Int)
    (withCommission : Bool) : LedgerTx (Option Int × Option UserId) :=
  if 0 < hostPoints then do
    let before ← latestPointBalance ⟨input.receiver, .point⟩
    let _ ← PointLedgerRepository.insert
      { wallet := ⟨input.receiver, .point⟩, direction := .credit, txType := .livestreamGift,
        amount := hostPoints, balanceAfter := before + hostPoints,
        idempotencyKey := .luckyHostCut input.txKeyBase,
        refId := some (.giftTransaction input.giftTransactionId),
        counterpartyId := some input.senderId }
    let _ ← applyCredit input.receiver .livestream hostPoints
    let agencyUserId ← settleHostCredit env.now input.receiver (.luckyHostCut input.txKeyBase)
      hostPoints .livestreamGift withCommission
    pure (some (before + hostPoints), agencyUserId)
  else pure (none, none)

def luckyGiftTransaction (env : Environment) (input : LuckyGiftInput) (gift : Gift)
    (totalCost hostPoints : Int) : GiftTransaction :=
  { id := input.giftTransactionId, senderUserId := input.senderId,
    receiverUserId := input.receiver, giftId := gift.id, coinCost := totalCost,
    quantity := input.count, pointsAwarded := hostPoints,
    context := if input.isCombo then .luckyCombo else .luckySingle, createdAt := env.now }

/-- The PLATFORM_REWARD row; none for a reward of 0. Returns the sender's balance. -/
def payReward (input : LuckyGiftInput) (coinsAfterDebit reward : Int) : LedgerTx Int :=
  if 0 < reward then do
    let _ ← CoinLedgerRepository.insert
      { wallet := ⟨input.senderId, .coin⟩, direction := .credit, txType := .platformReward,
        amount := reward, balanceAfter := coinsAfterDebit + reward,
        idempotencyKey := .luckyReward input.txKeyBase,
        refId := some (.giftTransaction input.giftTransactionId) }
    pure (coinsAfterDebit + reward)
  else pure coinsAfterDebit

/-- The draw of a water_v1 send under the pool's row lock, and its settlement. -/
def drawFromPool (env : Environment) (input : LuckyGiftInput) (unitPrice totalCost : Int)
    (config : LuckyTierConfig) : LedgerTx (DrawUnitsResult × Int) := do
  let caps ← readWaterUserCaps env.now input.senderId config.dailyWinCapCoins
    config.coolDownAfterBigWinSeconds
  let poolBalance ← lockPool config
  let inflow := (totalCost * config.rBp).tdiv 10000
  let draw := drawUnits
    (config.drawParams unitPrice input.count (poolBalance + inflow) caps env.rolls)
  let affected ← settlePool config draw.totalPaid draw.finalWater
  Tx.ensure (affected = 1) luckyPoolFloor
  pure (draw, inflow)

def waterPayout (env : Environment) (input : LuckyGiftInput) (gift : Gift)
    (totalCost hostPoints coinsAfterDebit : Int) (withCommission : Bool) (wealth : LevelResult)
    (config : LuckyTierConfig) : LedgerTx LuckySettled := do
  let (pointsAfterHost, agencyUserId) ← creditLuckyHost env input hostPoints withCommission
  createGiftTransaction (luckyGiftTransaction env input gift totalCost hostPoints)
  let (draw, inflow) ← drawFromPool env input gift.coinCost totalCost config
  let reward := draw.totalPaid
  let category := resolveCategory input.count gift.coinCost reward
  let breakdown := collapseBreakdown draw.rewards
  let finalBalanceCoins ← payReward input coinsAfterDebit reward
  createDrawAudit
    { idempotencyKey := .send input.txKeyBase, payloadFingerprint := some input.payload,
      mode := .enforce, tierId := config.tierId, senderUserId := input.senderId,
      giftTransactionId := input.giftTransactionId, inflow, bigWin := draw.bigWin,
      breakdownArray := breakdown, category, paidReward := reward,
      senderBalanceAfter := some finalBalanceCoins, configVersion := config.version,
      createdAt := env.now }
  pure
    { finalBalanceCoins, pointsAfterHost, wealth, agencyUserId, engine := .waterV1,
      rewardCoins := reward, category, tierId := some config.tierId,
      configVersion := some config.version, breakdownArray := some breakdown }

def legacyPayout (env : Environment) (input : LuckyGiftInput) (gift : Gift)
    (totalCost hostPoints coinsAfterDebit : Int) (withCommission : Bool) (wealth : LevelResult) :
    LedgerTx LuckySettled := do
  let finalBalanceCoins ← payReward input coinsAfterDebit input.rewardCoins
  let (pointsAfterHost, agencyUserId) ← creditLuckyHost env input hostPoints withCommission
  createGiftTransaction (luckyGiftTransaction env input gift totalCost hostPoints)
  pure
    { finalBalanceCoins, pointsAfterHost, wealth, agencyUserId, engine := .legacy,
      rewardCoins := input.rewardCoins, category := .caller input.category, tierId := none,
      configVersion := none, breakdownArray := none }

def checkEngine (input : LuckyGiftInput) (unitPrice totalCost : Int) :
    LuckyEngine → LedgerTx Unit
  | .waterV1 config => Tx.ensure (10000 ≤ unitPrice * config.rBp)
      (appError 400 "Lucky price too low for the pool" .luckyPriceTooLow)
  | .legacy => Tx.ensure (0 ≤ input.rewardCoins ∧ input.rewardCoins ≤ input.maxReward totalCost)
      (appError 400 "Lucky reward out of range" .invalidLuckyReward)

/-- Legacy pays the agency on combos, water_v1 only when the flag is on. -/
def luckyCommission (env : Environment) (input : LuckyGiftInput) (hostPoints : Int) :
    LuckyEngine → Bool
  | .waterV1 _ => env.shares.luckyWaterAgencyCommission && 0 < hostPoints
  | .legacy => input.isCombo && 0 < hostPoints

def luckyGiftTx (env : Environment) (input : LuckyGiftInput) (gift : Gift)
    (totalCost hostPoints : Int) : LedgerTx LuckySettled := do
  let engine ← resolveEngine env.caches gift.coinCost input.supportsServerDraw
  let withCommission := luckyCommission env input hostPoints engine
  lockForOperation input.senderId (some input.receiver) withCommission
  checkEngine input gift.coinCost totalCost engine
  let coins ← latestCoinBalance ⟨input.senderId, .coin⟩
  Tx.ensure (totalCost ≤ coins) insufficientCoins
  let coinsAfterDebit := coins - totalCost
  let _ ← CoinLedgerRepository.insert
    { wallet := ⟨input.senderId, .coin⟩, direction := .debit, txType := .giftSend,
      amount := totalCost, balanceAfter := coinsAfterDebit,
      idempotencyKey := .luckyDebit input.txKeyBase,
      refId := some (.giftTransaction input.giftTransactionId),
      counterpartyId := some input.receiver, requestId := some input.requestId }
  let wealth ← applyCredit input.senderId .wealth totalCost
  match engine with
  | .waterV1 config =>
    waterPayout env input gift totalCost hostPoints coinsAfterDebit withCommission wealth config
  | .legacy => legacyPayout env input gift totalCost hostPoints coinsAfterDebit withCommission wealth

/-- Who may have the result of a water_v1 send back: with a client transaction id the same sender
and payload, otherwise the same request. -/
def checkWaterReplay (input : LuckyGiftInput) (audit : LuckyDrawAudit)
    (debit : Option CoinLedgerEntry) : LedgerProg Unit :=
  if input.hasClientTxId then do
    Prog.ensure (audit.senderUserId = input.senderId) duplicate
    Prog.ensure (audit.payloadFingerprint.all (· = input.payload))
      (appError 409 "Lucky payload does not match the original send" .luckyReplayMismatch)
  else Prog.ensure ((debit.bind (·.requestId)) = some input.requestId) duplicate

def replayWater (input : LuckyGiftInput) (totalCost hostPoints : Int) (audit : LuckyDrawAudit)
    (debit : Option CoinLedgerEntry) : LedgerProg LuckyGiftResult := do
  checkWaterReplay input audit debit
  let pointsAfterHost ← pointBalanceAfterKey (.luckyHostCut input.txKeyBase)
  let wealth ← currentLevel input.senderId .wealth
  pure
    { transactionId := audit.giftTransactionId, totalCost, hostPoints,
      rewardCoins := audit.paidReward, finalBalanceCoins := audit.senderBalanceAfter.getD 0,
      pointsAfterHost, effectiveReceiverId := input.receiver, wealth, agencyUserId := none,
      replayed := true, engine := .waterV1, category := audit.category,
      tierId := some audit.tierId, configVersion := some audit.configVersion,
      breakdownArray := some audit.breakdownArray }

def replayLegacy (input : LuckyGiftInput) (totalCost hostPoints : Int) :
    LedgerProg LuckyGiftResult :=
  replayOrDuplicate (.luckyDebit input.txKeyBase) input.requestId fun _ => do
    let rewardRow ← Prog.select fun db => findByKey db.coinLedger (.luckyReward input.txKeyBase)
    let debitRow ← Prog.select fun db => findByKey db.coinLedger (.luckyDebit input.txKeyBase)
    let pointsAfterHost ← pointBalanceAfterKey (.luckyHostCut input.txKeyBase)
    let wealth ← currentLevel input.senderId .wealth
    let debitBalance := (debitRow.map (·.balanceAfter)).getD 0
    pure
      { transactionId := input.giftTransactionId, totalCost, hostPoints,
        rewardCoins := (rewardRow.map (·.amount)).getD 0,
        finalBalanceCoins := (rewardRow.map (·.balanceAfter)).getD debitBalance,
        pointsAfterHost, effectiveReceiverId := input.receiver, wealth, agencyUserId := none,
        replayed := true, engine := .legacy, category := .caller input.category, tierId := none,
        configVersion := none, breakdownArray := none }

/-- The rows an earlier send left behind decide how it is replayed. -/
def replayLucky (input : LuckyGiftInput) (totalCost hostPoints : Int)
    (debit : Option CoinLedgerEntry) : LedgerProg LuckyGiftResult := do
  let audit ← Prog.select fun db =>
    db.lucky.audits.find? fun a => a.idempotencyKey = .send input.txKeyBase
  match audit with
  | some audit => replayWater input totalCost hostPoints audit debit
  | none => replayLegacy input totalCost hostPoints

def luckyGiftSend (env : Environment) (input : LuckyGiftInput) : LedgerProg LuckyGiftResult := do
  let gift ← loadSendableGift input.giftId true
  let totalCost := gift.coinCost * input.count
  let hostPoints := (totalCost * env.shares.luckyHostShareBp).tdiv 10000
  let existingDebit ← Prog.select fun db => findByKey db.coinLedger (.luckyDebit input.txKeyBase)
  match existingDebit with
  | some debit => replayLucky input totalCost hostPoints (some debit)
  | none =>
    (luckyGiftTx env input gift totalCost hostPoints).run
      (fun settled => pure
        { transactionId := input.giftTransactionId, totalCost, hostPoints,
          rewardCoins := settled.rewardCoins, finalBalanceCoins := settled.finalBalanceCoins,
          pointsAfterHost := settled.pointsAfterHost, effectiveReceiverId := input.receiver,
          wealth := settled.wealth, agencyUserId := settled.agencyUserId, replayed := false,
          engine := settled.engine, category := settled.category, tierId := settled.tierId,
          configVersion := settled.configVersion, breakdownArray := settled.breakdownArray })
      (fun error =>
        if error = .uniqueViolation then do
          let debit ← Prog.select fun db =>
            findByKey db.coinLedger (.luckyDebit input.txKeyBase)
          replayLucky input totalCost hostPoints debit
        else Prog.fail error)

/-! ### Calls -/

def MoneyDb.setSession (db : MoneyDb) (session : VideoCallSession) : MoneyDb :=
  { db with session := fun id => if id = session.id then some session else db.session id }

def lockSession (sessionId : Nat) : LedgerTx (Option VideoCallSession) := do
  Tx.lockRow (.session sessionId)
  Tx.select fun db => db.session sessionId

structure MinuteBill where
  coinRate : Int
  pointRate : Int
  balanceAfterCoins : Int
  balanceAfterPoints : Int
  agencyUserId : Option UserId
  hostLedgerId : LedgerKey

/-- One call minute: caller debit, host credit, XP and commission. -/
def billMinute (env : Environment) (session : VideoCallSession) (minute requestId : Nat) :
    LedgerTx MinuteBill := do
  let pointRate := session.pricePerMin
  let coinRate := callerCoinDebitForCall pointRate env.shares.videoCallHostShareBp
  lockForOperation session.callerId (some session.creatorId) true
  let coins ← latestCoinBalance ⟨session.callerId, .coin⟩
  Tx.ensure (coinRate ≤ coins) insufficientCoins
  let balanceAfterCoins := coins - coinRate
  let _ ← CoinLedgerRepository.insert
    { wallet := ⟨session.callerId, .coin⟩, direction := .debit, txType := .videoCall,
      amount := coinRate, balanceAfter := balanceAfterCoins,
      idempotencyKey := .callMinuteCoins session.id minute, refId := some (.session session.id),
      counterpartyId := some session.creatorId, requestId := some requestId }
  let pointsBefore ← latestPointBalance ⟨session.creatorId, .point⟩
  let balanceAfterPoints := pointsBefore + pointRate
  let hostLedger ← PointLedgerRepository.insert
    { wallet := ⟨session.creatorId, .point⟩, direction := .credit, txType := .videoCall,
      amount := pointRate, balanceAfter := balanceAfterPoints,
      idempotencyKey := .callMinutePoints session.id minute, refId := some (.session session.id),
      counterpartyId := some session.callerId }
  let _ ← applyCredit session.callerId .wealth coinRate
  let _ ← applyCredit session.creatorId .livestream pointRate
  let agencyUserId ← settleHostCredit env.now session.creatorId hostLedger.idempotencyKey
    pointRate .videoCall true
  pure
    { coinRate, pointRate, balanceAfterCoins, balanceAfterPoints, agencyUserId,
      hostLedgerId := hostLedger.idempotencyKey }

structure CallAcceptInput where
  requestId : Nat
  sessionId : Nat
  receiverId : UserId

structure CallAcceptResult where
  session : VideoCallSession
  hostLedgerId : Option LedgerKey
  coinRate : Int
  pointRate : Int
  balanceAfterCoins : Option Int
  agencyUserId : Option UserId
  replayed : Bool

def invalidCallState (replayable : Bool) : LedgerError :=
  .app { status := 409, message := "Invalid session or unauthorized.", code := .invalidCallState,
         replayable }

/-- The row is locked, so the updated row is the locked one with the new fields. -/
def updateSession (session : VideoCallSession) : LedgerTx VideoCallSession := do
  Tx.update (.session session.id) fun db => MoneyDb.setSession db session
  pure session

def callAcceptTx (env : Environment) (input : CallAcceptInput) :
    LedgerTx (MinuteBill × VideoCallSession) := do
  let session ← lockSession input.sessionId
  match session with
  | none => Tx.fail (invalidCallState false)
  | some session =>
    Tx.ensure (session.creatorId = input.receiverId) (invalidCallState false)
    -- a retry of an accept that has committed ends here and is replayed
    Tx.ensure (session.status = .ringing) (invalidCallState true)
    let bill ← billMinute env session 1 input.requestId
    let updated ← updateSession
      { session with status := .active, startedAt := env.now, minsCharged := 1,
                     coinsDeducted := bill.coinRate, pointsAwarded := bill.pointRate }
    pure (bill, updated)

def LedgerError.replayable : LedgerError → Bool
  | .uniqueViolation => true
  | .app error => error.replayable
  | .serializationAbort => false

/-- The replay of an accept. A first minute of another request is reported as a stale state. -/
def replayCallAccept (env : Environment) (input : CallAcceptInput) :
    LedgerProg CallAcceptResult := do
  let row ← Prog.select fun db => findByKey db.coinLedger (.callMinuteCoins input.sessionId 1)
  if (row.bind (·.requestId)) = some input.requestId then
    let session ← Prog.select fun db => db.session input.sessionId
    match session with
    | none => Prog.fail (appError 404 "No VideoCallSession found" .notFound)
    | some session =>
      pure
        { session, hostLedgerId := none,
          coinRate := callerCoinDebitForCall session.pricePerMin env.shares.videoCallHostShareBp,
          pointRate := session.pricePerMin, balanceAfterCoins := none, agencyUserId := none,
          replayed := true }
  else Prog.fail (invalidCallState false)

def callAccept (env : Environment) (input : CallAcceptInput) : LedgerProg CallAcceptResult :=
  (callAcceptTx env input).run
    (fun (bill, session) => pure
      { session, hostLedgerId := some bill.hostLedgerId, coinRate := bill.coinRate,
        pointRate := bill.pointRate, balanceAfterCoins := some bill.balanceAfterCoins,
        agencyUserId := bill.agencyUserId, replayed := false })
    (fun error => if LedgerError.replayable error then replayCallAccept env input
      else Prog.fail error)

structure CallMinuteInput where
  requestId : Nat
  sessionId : Nat
  minute : Nat

/-- The bill of the minute, or nothing when it was billed before. -/
def callMinuteTx (env : Environment) (input : CallMinuteInput) : LedgerTx (Option MinuteBill) := do
  let session ← lockSession input.sessionId
  match session with
  | none => Tx.fail (appError 404 "Session not found" .callNotFound)
  | some session =>
    if input.minute ≤ session.minsCharged then pure none
    else
      Tx.ensure (session.status = .active) (appError 409 "Call is not active" .callNotActive)
      Tx.ensure (session.minsCharged = input.minute - 1)
        (appError 409 "Minutes must be billed in order" .minuteOutOfOrder)
      let bill ← billMinute env session input.minute input.requestId
      let _ ← updateSession
        { session with minsCharged := input.minute,
                       coinsDeducted := session.coinsDeducted + bill.coinRate,
                       pointsAwarded := session.pointsAwarded + bill.pointRate }
      pure (some bill)

def callMinute (env : Environment) (input : CallMinuteInput) : LedgerProg (Option MinuteBill) :=
  Prog.transaction (callMinuteTx env input)

/-! ### Global messages -/

structure GlobalMessageInput where
  requestId : Nat
  senderId : UserId
  messageTxId : Nat
  idemKey : Nat

structure GlobalMessageResult where
  transactionId : Nat
  balanceAfterCoins : Int
  wealthLevel : Nat
  replayed : Bool

def globalMessageTx (input : GlobalMessageInput) : LedgerTx (Int × LevelResult) := do
  lockForOperation input.senderId none false
  let coins ← latestCoinBalance ⟨input.senderId, .coin⟩
  Tx.ensure (GLOBAL_MESSAGE_COST ≤ coins) insufficientCoins
  let balanceAfterCoins := coins - GLOBAL_MESSAGE_COST
  let _ ← CoinLedgerRepository.insert
    { wallet := ⟨input.senderId, .coin⟩, direction := .debit, txType := .globalMessage,
      amount := GLOBAL_MESSAGE_COST, balanceAfter := balanceAfterCoins,
      idempotencyKey := .globalMessage input.idemKey, refId := some (.message input.messageTxId),
      requestId := some input.requestId }
  let wealth ← applyCredit input.senderId .wealth GLOBAL_MESSAGE_COST
  pure (balanceAfterCoins, wealth)

def globalMessage (input : GlobalMessageInput) : LedgerProg GlobalMessageResult :=
  (globalMessageTx input).run
    (fun (balanceAfterCoins, wealth) => pure
      { transactionId := input.messageTxId, balanceAfterCoins, wealthLevel := wealth.newLevel,
        replayed := false })
    (fun error =>
      if error = .uniqueViolation then
        replayOrDuplicate (.globalMessage input.idemKey) input.requestId fun row => do
          let level ← currentLevel input.senderId .wealth
          pure
            { transactionId := input.messageTxId, balanceAfterCoins := row.balanceAfter,
              wealthLevel := level.newLevel, replayed := true }
      else Prog.fail error)

end OlNode.InternalLedger
