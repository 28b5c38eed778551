import OlNode.InternalLedger.Operations
import OlNode.ReadCommitted.Interleaving

/-!
# The money services as one system

The requests that reach the wallets, the call sessions and the lucky pools. Other services call
the wallet operations inside transactions of their own, so a request may be any list of them. The
tables the money services only read (prices, agencies, freeze flags) may change at any time and in
any way.
-/
namespace OlNode.InternalLedger

open ReadCommitted

/-- A call of `coinWalletService` or `pointWalletService`. No caller passes WITHDRAWAL_ESCROW to
`creditInTransaction` or `debit`, and it is the only type `escrow` is meant for. -/
inductive WalletOp where
  | coinCredit (userId : UserId) (amount : Int) (txType : CoinTxType) (options : CoinOptions)
  | coinDebit (userId : UserId) (amount : Int) (txType : CoinTxType) (options : CoinOptions)
  | pointCredit (userId : UserId) (amount : Int) (txType : PointTxType)
      (options : PointOptions) (real : txType ≠ .withdrawalEscrow)
  | pointDebit (userId : UserId) (amount : Int) (txType : PointTxType)
      (options : PointOptions) (real : txType ≠ .withdrawalEscrow)
  | escrow (userId : UserId) (amount : Int) (options : PointOptions)

namespace WalletOp

def tx (now : Time) : WalletOp → LedgerTx LedgerReceipt
  | coinCredit userId amount txType options => CoinWallet.credit userId amount txType options
  | coinDebit userId amount txType options => CoinWallet.debit userId amount txType options
  | pointCredit userId amount txType options _ =>
    PointWallet.creditInTransaction now userId amount txType options
  | pointDebit userId amount txType options _ => PointWallet.debit userId amount txType options
  | escrow userId amount options => PointWallet.escrow userId amount .withdrawalEscrow options

/-- The key of the row the operation writes. -/
def key : WalletOp → LedgerKey
  | coinCredit _ _ _ options | coinDebit _ _ _ options => options.idempotencyKey
  | pointCredit _ _ _ options _ | pointDebit _ _ _ options _ | escrow _ _ options =>
    options.idempotencyKey

end WalletOp

/-- A transaction of another service, as far as the wallets see it. -/
def walletTx (now : Time) : List WalletOp → LedgerTx Unit
  | [] => pure ()
  | op :: ops => do
    let _ ← op.tx now
    walletTx now ops

/-- The tables that the money services read and other services write. -/
structure Settings where
  freezeFlags : UserId → Option WalletFreezeFlags
  currentAgencyId : UserId → Option UserId
  agency : UserId → Option Agency
  commissionLevel : Nat → Option AgencyCommissionLevel
  levelThresholds : LevelType → List LevelThreshold
  gift : Nat → Option Gift

def MoneyDb.setSettings (db : MoneyDb) (s : Settings) : MoneyDb :=
  { db with
    freezeFlags := s.freezeFlags, currentAgencyId := s.currentAgencyId, agency := s.agency,
    commissionLevel := s.commissionLevel, levelThresholds := s.levelThresholds, gift := s.gift }

/-- `createSession`, or a ringing session of Live-server; the counters start at 0. -/
def createSession (session : VideoCallSession) : LedgerTx Unit := do
  Tx.lockRow (.session session.id)
  let existing ← Tx.select fun db => db.session session.id
  Tx.ensure existing.isNone .uniqueViolation
  Tx.update (.session session.id) fun db => MoneyDb.setSession db
    { session with minsCharged := 0, coinsDeducted := 0, pointsAwarded := 0 }

/-- An UPDATE of one session row, if it exists. -/
def MoneyDb.modifySession (db : MoneyDb) (sessionId : Nat)
    (f : VideoCallSession → VideoCallSession) : MoneyDb :=
  { db with session := fun id => if id = sessionId then (db.session id).map f else db.session id }

inductive Request where
  | wallet (ops : List WalletOp)
  | giftSend (input : GiftSendInput)
  | luckyGiftSend (input : LuckyGiftInput)
  | callAccept (input : CallAcceptInput)
  | callMinute (input : CallMinuteInput)
  | globalMessage (input : GlobalMessageInput)
  | createSession (session : VideoCallSession)
  /-- `endSession` and `closeSession`: one UPDATE of the status. -/
  | closeSession (sessionId : Nat) (status : CallStatus)
  | recordSeedDecision (tierId : LuckyTierId) (choice : SeedChoice) (amount : Int)
  | createConfigVersion (tierId : LuckyTierId) (patch : LuckyTierPatch) (econValid : Bool)
  | setMode (tierId : LuckyTierId) (mode : LuckyTierMode) (allowed : Bool)
  | shadowWorkerTick (rolls : Nat → Nat → Nat)
  | changeSettings (settings : Settings)

/-- A request with the surroundings it is served in. -/
structure Call where
  env : Environment
  request : Request

def handler (call : Call) : LedgerProg Unit :=
  match call.request with
  | .wallet ops => Prog.transaction (walletTx call.env.now ops)
  | .giftSend input => (InternalLedger.giftSend call.env input).forget
  | .luckyGiftSend input => (InternalLedger.luckyGiftSend call.env input).forget
  | .callAccept input => (InternalLedger.callAccept call.env input).forget
  | .callMinute input => (InternalLedger.callMinute call.env input).forget
  | .globalMessage input => (InternalLedger.globalMessage input).forget
  | .createSession session => Prog.transaction (InternalLedger.createSession session)
  | .closeSession sessionId status => Prog.autocommit (.session sessionId) fun db =>
      MoneyDb.modifySession db sessionId fun session => { session with status }
  | .recordSeedDecision tierId choice amount =>
    (OlNode.recordSeedDecision tierId choice amount).forget
  | .createConfigVersion tierId patch econValid =>
    (OlNode.createConfigVersion tierId patch econValid).forget
  | .setMode tierId mode allowed => OlNode.setMode tierId mode allowed
  | .shadowWorkerTick rolls => runShadowWorkerTick call.env.now call.env.caches rolls
  | .changeSettings settings => Prog.autocommit .settings fun db => MoneyDb.setSettings db settings

abbrev LedgerConfig := Config Call MoneyDb Lock LedgerError

/-- Surroundings for examples: the default shares, empty caches, all rolls 0. -/
def noon : Environment where
  now := 43200000
  shares := DEFAULT_HOST_REVENUE_SHARES
  caches := ⟨none, fun _ => none⟩
  rolls := fun _ => 0

/-- The same with winning rolls. -/
def luckyNoon : Environment := { noon with rolls := fun _ => 9999 }

def topUp (userId : UserId) (amount : Int) (key : Nat) : Call :=
  ⟨noon, .wallet [.coinCredit userId amount .topup { idempotencyKey := .other key }]⟩

/-- A roll below 5000 misses, any other wins the jackpot. -/
def allOrNothing : BandWeights := ⟨5000, 0, 0, 0, 5000⟩

/-- A tier for every price: 90 % flows into the pool, at most 2000 coins a day for each user, an
hour of cool-down after a big win. -/
def onlyTier : LuckyTierConfig where
  tierId := .t100
  version := 1
  priceMin := 0
  priceMax := none
  rBp := 9000
  jBp := 0
  l0 := 1000
  floor := 0
  thresholds := ⟨1000, 5000, 9000⟩
  bandWeights := ⟨allOrNothing, allOrNothing, allOrNothing, allOrNothing⟩
  mMax := 10
  dailyWinCapCoins := 2000
  coolDownAfterBigWinSeconds := 3600
  rBp_pos := by decide
  l0_pos := by decide
  floor_nonneg := by decide
  floor_le_l0 := by decide
  mMax_pos := Int.succ_ofNat_pos 9

/-- Gift 1 is a lucky gift for 100 coins, drawn by the server once its tier is seeded. -/
def luckyDb : MoneyDb :=
  { MoneyDb.empty with
    gift := fun id => if id = 1 then some { id := 1, coinCost := 100, isActive := true,
                                            isLucky := true } else none
    lucky := { MoneyDb.empty.lucky with configs := [onlyTier], mode := fun _ => some .enforce } }

/-- User 1 sends one lucky gift to user 2; `key` names the send. -/
def luckySend (key : Nat) : LuckyGiftInput where
  requestId := key
  senderId := 1
  receiverId := some 2
  giftId := 1
  count := 1
  giftTransactionId := key
  txKeyBase := .plain key
  rewardCoins := 0
  category := 0
  supportsServerDraw := true

end OlNode.InternalLedger
