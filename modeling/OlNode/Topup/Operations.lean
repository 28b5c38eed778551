import OlNode.Ledger.Wallets
import OlNode.ReadCommitted.Effects

/-!
# Confirming a personal top-up

`coinWalletService.confirmTopup` with its three callers (the user's route, the gateway's webhook
and the webhook's retry worker), for one order: the order's row, the wallets, the recharges that
were applied to the monthly aggregate, and the in-flight markers in Redis. The signature check of
the webhook has passed.
-/
namespace OlNode.Topups

open ReadCommitted

/-- The texts the code writes into `coin_topup_orders.status`. -/
inductive OrderStatus where
  | pending | paid
  deriving DecidableEq

structure CoinTopupOrder where
  userId : UserId
  coins : Int
  status : OrderStatus
  gatewayRef : Option Nat
  ledgerEntryId : Option LedgerKey
  deriving DecidableEq

structure ConfirmResponse where
  ledgerEntryId : LedgerKey
  coins : Int
  balanceAfter : Int
  wealthLevel : WalletUserLevel
  deriving DecidableEq

/-- What a marker holds: 'processing', or the response of the call that has set it. -/
structure IdemMarker where
  response : Option ConfirmResponse
  expiresAt : Time
  deriving DecidableEq

/-- The fields of the gateway's payload that are read; the order is the one of the model. -/
structure EpayPayload where
  gatewayRef : Nat
  userId : Option UserId

structure Recharge where
  userId : UserId
  deltaCoins : Int

structure TopupDb where
  clock : Time
  money : MoneyDb
  order : Option CoinTopupOrder
  /-- The gateway references of all other orders; the column is unique. -/
  otherGatewayRefs : List Nat
  recharges : List Recharge
  idem : LedgerKey → Option IdemMarker
  retryJobs : List EpayPayload

abbrev TopupTx := Tx TopupDb Lock LedgerError
abbrev TopupProg := Prog TopupDb Lock LedgerError

/-- Milliseconds; the code passes seconds. -/
def WALLET_IDEM_TTL : Nat := 300 * 1000

def TopupDb.setMoney (db : TopupDb) (money : MoneyDb) : TopupDb := { db with money }

def TopupDb.setIdem (db : TopupDb) (key : LedgerKey) (marker : IdemMarker) : TopupDb :=
  { db with idem := Function.update db.idem key (some marker) }

def onMoney {α : Type} (x : LedgerTx α) : TopupTx α :=
  x.zoom TopupDb.money fun money db => db.setMoney money

/-! ### In-flight markers -/

/-- A marker that has not expired. -/
def TopupDb.marker (db : TopupDb) (key : LedgerKey) : Option IdemMarker :=
  (db.idem key).filter fun m => db.clock < m.expiresAt

def getCachedIdemResponse (key : LedgerKey) : TopupProg (Option ConfirmResponse) :=
  Prog.select fun db => (db.marker key).bind fun m => m.response

/-- SET NX EX. -/
def acquireIdemKey (key : LedgerKey) : TopupProg Bool := Prog.transaction do
  Tx.lockRow (.walletIdem key)
  let present ← Tx.select fun db => (db.marker key).isSome
  if present then pure false
  else
    Tx.update (.walletIdem key) fun db =>
      db.setIdem key { response := none, expiresAt := db.clock + WALLET_IDEM_TTL }
    pure true

def resolveIdemKey (key : LedgerKey) (response : ConfirmResponse) : TopupProg Unit :=
  Prog.autocommit (.walletIdem key) fun db =>
    db.setIdem key { response := some response, expiresAt := db.clock + WALLET_IDEM_TTL }

/-! ### Confirming -/

def idemConflict : LedgerError :=
  .app { status := 409, message := "Request is already processing", code := .idemConflict }

def orderNotFound : LedgerError :=
  .app { status := 404, message := "Order not found or already processed", code := .orderNotFound }

/-- What the database client throws for `userId: undefined` in a unique `where`. -/
def invalidUserId : LedgerError :=
  .app { status := 500, message := "Argument `userId` is missing.", code := .internalError }

/-- `richTierService.applyRecharge`, as far as it counts: the month's total grows. -/
def applyRecharge (userId : UserId) (amountCoins : Int) : TopupTx Unit :=
  Tx.update (.richAggregate userId) fun db =>
    { db with recharges := db.recharges ++ [{ userId, deltaCoins := amountCoins }] }

/-- The update of the order is by id only; the reference must not be another order's. -/
def markPaid (orderId : Nat) (gatewayRef : Nat) (entry : LedgerKey) : TopupTx Unit := do
  Tx.lockRow (.topupOrder orderId)
  let taken ← Tx.select fun db => db.otherGatewayRefs.contains gatewayRef
  Tx.ensure (!taken) .uniqueViolation
  Tx.update (.topupOrder orderId) fun db =>
    { db with order := db.order.map fun o =>
        { o with status := .paid, gatewayRef := some gatewayRef, ledgerEntryId := some entry } }

def topupEntry (orderId : Nat) (userId : UserId) (order : CoinTopupOrder) (gatewayRef : Nat)
    (idempotencyKey : LedgerKey) (currentBalance : Int) : CoinLedgerEntry :=
  { wallet := ⟨userId, .coin⟩, direction := .credit, txType := .topup, amount := order.coins,
    balanceAfter := currentBalance + order.coins, refId := some (.other gatewayRef),
    orderId := some orderId, idempotencyKey }

def insertTopup (orderId : Nat) (userId : UserId) (order : CoinTopupOrder) (gatewayRef : Nat)
    (idempotencyKey : LedgerKey) : LedgerTx CoinLedgerEntry := do
  let wallet : Wallet := ⟨userId, .coin⟩
  lockForUpdate wallet
  let currentBalance ← latestCoinBalance wallet
  CoinLedgerRepository.insert
    (topupEntry orderId userId order gatewayRef idempotencyKey currentBalance)

def confirmTx (orderId : Nat) (userId : UserId) (order : CoinTopupOrder) (gatewayRef : Nat)
    (idempotencyKey : LedgerKey) : TopupTx CoinLedgerEntry := do
  let entry ← onMoney (insertTopup orderId userId order gatewayRef idempotencyKey)
  markPaid orderId gatewayRef entry.idempotencyKey
  applyRecharge userId order.coins
  pure entry

/-- `findFirst` with `userId: undefined` does not filter by user. -/
def CoinTopupOrder.isPendingFor (order : CoinTopupOrder) (userId : Option UserId) : Bool :=
  order.status = .pending ∧ userId.all fun u => u = order.userId

/-- The part of `confirmTopup` after the marker has been set. -/
def confirmAcquired (orderId : Nat) (userId : Option UserId) (gatewayRef : Nat)
    (idempotencyKey : LedgerKey) : TopupProg ConfirmResponse := do
  let found ← Prog.select fun db => db.order.filter fun o => o.isPendingFor userId
  match found, userId with
  | none, _ => Prog.fail orderNotFound
  | some _, none => Prog.fail invalidUserId
  | some order, some userId => do
    let entry ← Prog.transaction (confirmTx orderId userId order gatewayRef idempotencyKey)
    let wealthLevel ← Prog.select fun db => (db.money.userLevel userId .wealth).getD ⟨1, 0⟩
    let response : ConfirmResponse :=
      { ledgerEntryId := entry.idempotencyKey, coins := order.coins,
        balanceAfter := entry.balanceAfter, wealthLevel }
    resolveIdemKey idempotencyKey response
    pure response

def confirmTopup (orderId : Nat) (userId : Option UserId) (gatewayRef : Nat)
    (idempotencyKey : LedgerKey) : TopupProg ConfirmResponse := do
  let cached ← getCachedIdemResponse idempotencyKey
  match cached with
  | some response => pure response
  | none => do
    let acquired ← acquireIdemKey idempotencyKey
    Prog.ensure acquired idemConflict
    confirmAcquired orderId userId gatewayRef idempotencyKey

/-! ### The callers -/

/-- The body of the webhook's try block. -/
def webhookBody (orderId : Nat) (payload : EpayPayload) : TopupProg Unit := do
  let order ← Prog.select fun db => db.order
  match order with
  | none => pure ()
  | some order => do
    let _ ← confirmTopup orderId (some order.userId) payload.gatewayRef
      (.epayPersonalTopup orderId)
    pure ()

/-- POST /epay: every error is handed to the retry queue. -/
def epayWebhook (orderId : Nat) (payload : EpayPayload) : TopupProg Unit := do
  let outcome ← (webhookBody orderId payload).attempt
  match outcome with
  | .ok _ => pure ()
  | .error _ => Prog.autocommit .job fun db => { db with retryJobs := db.retryJobs ++ [payload] }

/-- The retry worker takes the user from the payload. -/
def epayWebhookRetry (orderId : Nat) (payload : EpayPayload) : TopupProg Unit := do
  let _ ← confirmTopup orderId payload.userId payload.gatewayRef (.epayPersonalTopup orderId)
  pure ()

inductive Request where
  /-- POST /topup/confirm of a signed-in user, with a key of the client's choice. -/
  | confirm (userId : UserId) (gatewayRef : Nat) (idempotencyKey : LedgerKey)
  | webhook (payload : EpayPayload)
  | retry (payload : EpayPayload)
  | wait (duration : Nat)
  /-- Whatever the other services do to the money tables. -/
  | elsewhere (change : MoneyDb → MoneyDb)

def credits (orderId : Nat) (money : MoneyDb) : List CoinLedgerEntry :=
  money.coinLedger.filter fun entry => entry.txType = .topup ∧ entry.orderId = some orderId

/-- Nobody else writes a TOPUP row of the order. -/
def elsewhere (orderId : Nat) (change : MoneyDb → MoneyDb) : TopupProg Unit :=
  Prog.autocommit .settings fun db =>
    if credits orderId (change db.money) = credits orderId db.money then
      db.setMoney (change db.money)
    else db

def handler (orderId : Nat) : Request → TopupProg Unit
  | .confirm userId gatewayRef idempotencyKey =>
    (confirmTopup orderId (some userId) gatewayRef idempotencyKey).forget
  | .webhook payload => epayWebhook orderId payload
  | .retry payload => epayWebhookRetry orderId payload
  | .wait duration => Prog.autocommit .settings fun db => { db with clock := db.clock + duration }
  | .elsewhere change => elsewhere orderId change

/-! ### A sample order -/

def ordered : TopupDb where
  clock := 0
  money := MoneyDb.empty
  order := some
    { userId := 1, coins := 500, status := .pending, gatewayRef := some 90, ledgerEntryId := none }
  otherGatewayRefs := []
  recharges := []
  idem := fun _ => none
  retryJobs := []

end OlNode.Topups
