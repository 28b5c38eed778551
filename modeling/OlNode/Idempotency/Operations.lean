import OlNode.Schema
import OlNode.Idempotency.Keys

/-!
# Requests that carry a client's idempotency key

`exchangePointsForTradingCoins`, `initiateTopup`, `confirmTopup` and `transferPointsToAgent`, over
the tables their keys are unique in. What they look up elsewhere (the user row, rates, packages,
the payment gateway, freeze flags) is given with the request.

Markers and ledger rows carry the user whose request wrote them (`author`), and so does every
answer that rests on one of them: a stored response, a refusal as a duplicate, and the ledger rows
that stand for a request's debit and credit. Nothing in the code reads an author.
-/
namespace OlNode.Idempotency

open ReadCommitted

/-! ### Tables -/

inductive LedgerTable where
  | coin | point
  deriving DecidableEq

/-- A row of a ledger; it is identified by its unique key. -/
structure Entry where
  userId : Uuid
  currencyType : WalletCurrencyType
  direction : LedgerDirection
  amount : Int
  balanceAfter : Int
  idempotencyKey : String
  counterpartyId : Option Uuid := none
  author : Uuid
  deriving DecidableEq

inductive OrderStatus where
  | pending | paid
  deriving DecidableEq

structure CoinTopupOrder where
  id : Uuid
  userId : Uuid
  coins : Int
  priceCents : Int
  gatewayRef : Option String
  status : OrderStatus
  ledgerEntryId : Option String
  idempotencyKey : String

structure AgentPointTransfer where
  id : Uuid
  senderAgentUserId : Uuid
  recipientAgentUserId : Uuid
  points : Int
  idempotencyKey : String
  deriving DecidableEq

/-- What the four requests respond with; of a transfer also the amounts in other currencies, which
are left out. -/
inductive Response where
  | exchanged (coinsAwarded : Int) (walletType : WalletCurrencyType) (exchangeRate : Nat)
  | initiated (orderId : Uuid) (coins priceCents : Int) (paymentUrl : String)
  | confirmed (ledgerEntryId : String) (coins balanceAfter : Int)
  | transferred (transferId : Uuid) (points : Int)
  deriving DecidableEq

/-- A marker in Redis: 'processing', or the response. -/
structure Marker where
  response : Option Response
  author : Uuid

/-- What a request can throw. The two errors about keys name the author of the record found. -/
inductive Failure where
  | app (error : AppError)
  | idemConflict (message : String) (author : Uuid)
  | uniqueViolation (author : Uuid)
  /-- The payment gateway's own reference is taken. -/
  | gatewayRefTaken
  deriving DecidableEq

inductive Outcome where
  /-- The response a marker held. -/
  | stored (response : Response) (author : Uuid)
  /-- The transfer that was there before. -/
  | replayed (transfer : AgentPointTransfer)
  /-- The request was carried out; the rows stand for its debit and its credit. -/
  | settled (response : Response) (rows : List Entry)
  | refused (failure : Failure)
  deriving DecidableEq

/-! ### Requests -/

/-- What an exchange finds: the user (whether an agent), the agency's pause, the rate of the tier,
the reference it draws and the wallet's flags. -/
structure ExchangeEnvironment where
  isAgent : Option Bool
  paused : Bool
  coinsPerUsd : Option Nat
  drawn : Uuid
  pointsFrozen : Bool
  unconfirmedPoints : Int
  deriving DecidableEq

structure CoinPackage where
  coins : Int
  priceCents : Int
  deriving DecidableEq

structure EpayOrder where
  gatewayRef : String
  paymentUrl : String
  deriving DecidableEq

structure InitiateEnvironment where
  package : Option CoinPackage
  orderId : Uuid
  epay : Option EpayOrder
  deriving DecidableEq

structure TransferEnvironment where
  now : Nat
  transferId : Uuid
  faceIndexed : Bool
  recipientIsAgent : Bool
  pointsFrozen : Bool
  unconfirmedPoints : Int
  deriving DecidableEq

inductive Request where
  | exchange (userId : Uuid) (pointsToExchange : Int) (clientKey : Option ClientKey)
      (env : ExchangeEnvironment)
  | initiate (userId : Uuid) (clientKey : ClientKey) (env : InitiateEnvironment)
  | confirm (userId orderId : Uuid) (gatewayRef : String) (clientKey : ClientKey)
  | transfer (userId recipientId : Uuid) (points : Int) (clientKey : Option ClientKey)
      (env : TransferEnvironment)
  /-- A marker expires. -/
  | expire (key : String)
  deriving DecidableEq

def Request.userId : Request → Option Uuid
  | .exchange userId .. => some userId
  | .initiate userId .. => some userId
  | .confirm userId .. => some userId
  | .transfer userId .. => some userId
  | .expire _ => none

structure KeyDb where
  marker : String → Option Marker
  ledger : LedgerTable → List Entry
  orders : List CoinTopupOrder
  transfers : List AgentPointTransfer
  answers : List (Request × Outcome)

inductive Row where
  | marker (key : String)
  | wallet (userId : Uuid) (currencyType : WalletCurrencyType)
  | ledgerKey (table : LedgerTable) (key : String)
  | orderKey (key : String)
  | order (id : Uuid)
  | gatewayRef (ref : String)
  | transferKey (key : String)
  | answers
  deriving DecidableEq

abbrev KeyTx := Tx KeyDb Row Failure
abbrev KeyProg := Prog KeyDb Row Failure

/-! ### The marker -/

def KeyDb.setMarker (db : KeyDb) (key : String) (marker : Option Marker) : KeyDb :=
  { db with marker := fun other => if other = key then marker else db.marker other }

/-- `walletService.getCachedIdemResponse`. -/
def getCachedIdemResponse (key : String) : KeyProg (Option (Response × Uuid)) :=
  Prog.select fun db =>
    (db.marker key).bind fun marker => marker.response.map fun response => (response, marker.author)

/-- `walletService.acquireIdemKey` (SET NX) with the refusal of its caller. -/
def acquireIdemKey (author : Uuid) (key message : String) : KeyProg Unit := Prog.transaction do
  Tx.lockRow (.marker key)
  let present ← Tx.select fun db => db.marker key
  match present with
  | some marker => Tx.fail (.idemConflict message marker.author)
  | none => Tx.update (.marker key) fun db => db.setMarker key (some ⟨none, author⟩)

def resolveIdemKey (author : Uuid) (key : String) (response : Response) : KeyProg Unit :=
  Prog.autocommit (.marker key) fun db => db.setMarker key (some ⟨some response, author⟩)

def deleteIdemKey (key : String) : KeyProg Unit :=
  Prog.autocommit (.marker key) fun db => db.setMarker key none

/-- A request under a marker: a response that is stored is returned, and a marker without one
refuses it. -/
def withIdemKey (author : Uuid) (key message : String) (run : KeyProg Outcome) :
    KeyProg Outcome := do
  let cached ← getCachedIdemResponse key
  match cached with
  | some (response, writer) => pure (.stored response writer)
  | none =>
    acquireIdemKey author key message
    run

/-! ### Ledgers -/

def appError (status : Nat) (message : String) (code : ErrorCode) : Failure :=
  .app { status, message, code }

def findByIdempotencyKey (table : LedgerTable) (key : String) : KeyTx (Option Entry) :=
  Tx.select fun db => (db.ledger table).find? fun entry => entry.idempotencyKey = key

def latestBalance (table : LedgerTable) (userId : Uuid) (currencyType : WalletCurrencyType) :
    KeyTx Int :=
  Tx.select fun db =>
    ((((db.ledger table).filter fun entry =>
      entry.userId = userId ∧ entry.currencyType = currencyType).getLast?).map
        (·.balanceAfter)).getD 0

def KeyDb.addEntry (db : KeyDb) (table : LedgerTable) (entry : Entry) : KeyDb :=
  { db with ledger := fun other =>
      if other = table then db.ledger table ++ [entry] else db.ledger other }

/-- `pointLedgerRepository.insert` and `coinLedgerRepository.insert`. -/
def insertEntry (table : LedgerTable) (entry : Entry) : KeyTx Entry := do
  Tx.ensure (0 < entry.amount)
    (appError 400 "amount must be a positive whole number" .invalidAmount)
  Tx.lockRow (.ledgerKey table entry.idempotencyKey)
  let existing ← findByIdempotencyKey table entry.idempotencyKey
  match existing with
  | some row => Tx.fail (.uniqueViolation row.author)
  | none =>
    Tx.update (.ledgerKey table entry.idempotencyKey) fun db => db.addEntry table entry
    pure entry

structure Posting where
  author : Uuid
  userId : Uuid
  amount : Int
  idempotencyKey : String
  counterpartyId : Option Uuid := none

def assertPositiveAmount (amount : Int) : KeyTx Unit :=
  Tx.ensure (0 < amount) (appError 400 "amount must be a positive whole number" .invalidAmount)

/-- `pointWalletService.debit`: a row with its key, whoever it belongs to, stands for the debit. -/
def pointDebit (posting : Posting) (pointsFrozen : Bool) (unconfirmedPoints : Int) :
    KeyTx Entry := do
  assertPositiveAmount posting.amount
  let existing ← findByIdempotencyKey .point posting.idempotencyKey
  match existing with
  | some row => pure row
  | none =>
    Tx.lockRow (.wallet posting.userId .point)
    Tx.ensure (!pointsFrozen) (appError 403 "Points are frozen" .pointsFrozen)
    let balance ← latestBalance .point posting.userId .point
    Tx.ensure (posting.amount ≤ balance - unconfirmedPoints)
      (appError 400 "Insufficient available points" .insufficientPoints)
    insertEntry .point
      { userId := posting.userId, currencyType := .point, direction := .debit,
        amount := posting.amount, balanceAfter := balance - posting.amount,
        idempotencyKey := posting.idempotencyKey, counterpartyId := posting.counterpartyId,
        author := posting.author }

/-- `coinWalletService.credit` and `pointWalletService.creditInTransaction`. -/
def credit (table : LedgerTable) (currencyType : WalletCurrencyType) (posting : Posting) :
    KeyTx Entry := do
  assertPositiveAmount posting.amount
  let existing ← findByIdempotencyKey table posting.idempotencyKey
  match existing with
  | some row => pure row
  | none =>
    Tx.lockRow (.wallet posting.userId currencyType)
    let balance ← latestBalance table posting.userId currencyType
    insertEntry table
      { userId := posting.userId, currencyType, direction := .credit,
        amount := posting.amount, balanceAfter := balance + posting.amount,
        idempotencyKey := posting.idempotencyKey, counterpartyId := posting.counterpartyId,
        author := posting.author }

def assertPositiveAmountMultiple (amount step : Int) (belowMinCode : ErrorCode)
    (unitLabel : String) : KeyProg Unit := do
  Prog.ensure (step ≤ amount)
    (appError 400 ("Minimum " ++ unitLabel ++ " is " ++ toString step) belowMinCode)
  Prog.ensure (amount % step = 0)
    (appError 400 (unitLabel ++ " must be an exact multiple of " ++ toString step)
      .invalidAmountStep)

/-! ### Point exchange -/

def POINTS_EXCHANGE_STEP : Int := 10000

def duplicateExchange : String := "Duplicate exchange (already processed)"

/-- The duplicate guard of a request with a client key. -/
def assertNotExchanged (clientKey : Option ClientKey) (refId : String) : KeyTx Unit :=
  match clientKey with
  | none => pure ()
  | some _ => do
    let dup ← findByIdempotencyKey .point (exchangePointKey refId)
    match dup with
    | some row => Tx.fail (.idemConflict duplicateExchange row.author)
    | none => pure ()

def targetWalletType (isAgent : Bool) : WalletCurrencyType :=
  if isAgent then .tradingCoin else .coin

def exchangeTx (userId : Uuid) (points coinsAwarded : Int) (clientKey : Option ClientKey)
    (isAgent : Bool) (env : ExchangeEnvironment) : KeyTx (List Entry) := do
  let refId := exchangeRefId userId clientKey env.drawn
  assertNotExchanged clientKey refId
  Tx.lockRow (.wallet userId .point)
  Tx.lockRow (.wallet userId (targetWalletType isAgent))
  let debited ← pointDebit
    { author := userId, userId, amount := points, idempotencyKey := exchangePointKey refId }
    env.pointsFrozen env.unconfirmedPoints
  let credited ← credit .coin (targetWalletType isAgent)
    { author := userId, userId, amount := coinsAwarded,
      idempotencyKey := exchangeCoinKey isAgent refId }
  pure [debited, credited]

/-- `coinsAwarded` is rounded down. -/
def executeExchangeInternal (userId : Uuid) (points : Int) (clientKey : Option ClientKey)
    (env : ExchangeEnvironment) : KeyProg (Response × List Entry) := do
  assertPositiveAmountMultiple points POINTS_EXCHANGE_STEP .minPointsExchange "points to exchange"
  match env.isAgent with
  | none => Prog.fail (appError 404 "User not found" .userNotFound)
  | some isAgent =>
    Prog.ensure (!(isAgent && env.paused)) (appError 403 "Agency is paused" .agencyPaused)
    match env.coinsPerUsd with
    | none => Prog.fail (appError 400 "No rate tier" .rateNotFound)
    | some coinsPerUsd =>
      let coinsAwarded := points * coinsPerUsd / 10000
      let rows ← Prog.transaction (exchangeTx userId points coinsAwarded clientKey isAgent env)
      pure (.exchanged coinsAwarded (targetWalletType isAgent) coinsPerUsd, rows)

/-- What follows the exchange: its response is kept; an error other than a unique violation
deletes the marker. -/
def settleExchange (userId : Uuid) (marker : String) :
    Except Failure (Response × List Entry) → KeyProg Outcome
  | .ok (response, rows) => do
    resolveIdemKey userId marker response
    pure (.settled response rows)
  | .error (.uniqueViolation author) => Prog.fail (.idemConflict duplicateExchange author)
  | .error failure => do
    deleteIdemKey marker
    Prog.fail failure

def exchangePointsForTradingCoins (userId : Uuid) (points : Int) (clientKey : Option ClientKey)
    (env : ExchangeEnvironment) : KeyProg Outcome :=
  match clientKey with
  | none => do
    let (response, rows) ← executeExchangeInternal userId points none env
    pure (.settled response rows)
  | some key =>
    withIdemKey userId (exchangeMarker userId key) "Already processing" do
      let outcome ← (executeExchangeInternal userId points (some key) env).attempt
      settleExchange userId (exchangeMarker userId key) outcome

/-! ### Personal top-up -/

/-- INSERT into `coin_topup_orders`, whose idempotency key is unique. -/
def createOrder (order : CoinTopupOrder) : KeyTx Unit := do
  Tx.lockRow (.orderKey order.idempotencyKey)
  let existing ← Tx.select fun db =>
    db.orders.find? fun other => other.idempotencyKey = order.idempotencyKey
  match existing with
  | some other => Tx.fail (.uniqueViolation other.userId)
  | none =>
    Tx.update (.orderKey order.idempotencyKey) fun db => { db with orders := db.orders ++ [order] }

def KeyDb.updateOrder (db : KeyDb) (id : Uuid) (f : CoinTopupOrder → CoinTopupOrder) : KeyDb :=
  { db with orders := db.orders.map fun order => if order.id = id then f order else order }

/-- UPDATE of an order that sets its gateway reference, which is unique. -/
def setGatewayRef (id : Uuid) (gatewayRef : String) (f : CoinTopupOrder → CoinTopupOrder) :
    KeyTx Unit := do
  Tx.lockRow (.gatewayRef gatewayRef)
  let taken ← Tx.select fun db =>
    db.orders.any fun order => order.id ≠ id ∧ order.gatewayRef = some gatewayRef
  Tx.ensure (!taken) .gatewayRefTaken
  Tx.update (.order id) fun db =>
    db.updateOrder id fun order => f { order with gatewayRef := some gatewayRef }

def requestProcessing : String := "Request is already processing"

def initiateAcquired (userId : Uuid) (clientKey : ClientKey) (env : InitiateEnvironment) :
    KeyProg Outcome :=
  match env.package with
  | none => Prog.fail (appError 404 "Package not found" .packageNotFound)
  | some pkg => do
    Prog.transaction (createOrder
      { id := env.orderId, userId, coins := pkg.coins, priceCents := pkg.priceCents,
        gatewayRef := none, status := .pending, ledgerEntryId := none,
        idempotencyKey := clientKey.text })
    match env.epay with
    -- the gateway's own error
    | none => Prog.fail (appError 500 "" .internalError)
    | some epay =>
      Prog.transaction (setGatewayRef env.orderId epay.gatewayRef id)
      let response := .initiated env.orderId pkg.coins pkg.priceCents epay.paymentUrl
      resolveIdemKey userId clientKey.text response
      pure (.settled response [])

def initiateTopup (userId : Uuid) (clientKey : ClientKey) (env : InitiateEnvironment) :
    KeyProg Outcome :=
  withIdemKey userId clientKey.text requestProcessing (initiateAcquired userId clientKey env)

def confirmTx (userId : Uuid) (order : CoinTopupOrder) (gatewayRef : String)
    (clientKey : ClientKey) : KeyTx Entry := do
  Tx.lockRow (.wallet userId .coin)
  let balance ← latestBalance .coin userId .coin
  let entry ← insertEntry .coin
    { userId, currencyType := .coin, direction := .credit, amount := order.coins,
      balanceAfter := balance + order.coins, idempotencyKey := clientKey.text, author := userId }
  setGatewayRef order.id gatewayRef fun row =>
    { row with status := .paid, ledgerEntryId := some entry.idempotencyKey }
  pure entry

def confirmAcquired (userId orderId : Uuid) (gatewayRef : String) (clientKey : ClientKey) :
    KeyProg Outcome := do
  let order ← Prog.select fun db => db.orders.find? fun order =>
    order.id = orderId ∧ order.userId = userId ∧ order.status = .pending
  match order with
  | none => Prog.fail (appError 404 "Order not found or already processed" .orderNotFound)
  | some order =>
    let entry ← Prog.transaction (confirmTx userId order gatewayRef clientKey)
    let response := .confirmed entry.idempotencyKey order.coins entry.balanceAfter
    resolveIdemKey userId clientKey.text response
    pure (.settled response [entry])

def confirmTopup (userId orderId : Uuid) (gatewayRef : String) (clientKey : ClientKey) :
    KeyProg Outcome :=
  withIdemKey userId clientKey.text requestProcessing
    (confirmAcquired userId orderId gatewayRef clientKey)

/-! ### Agent point transfer -/

def AGENT_POINT_TRANSFER_STEP : Int := 100000

def findTransfer (key : String) (db : KeyDb) : Option AgentPointTransfer :=
  db.transfers.find? fun transfer => transfer.idempotencyKey = key

/-- INSERT into `agent_point_transfers`, whose idempotency key is unique. -/
def insertTransfer (transfer : AgentPointTransfer) : KeyTx Unit := do
  Tx.lockRow (.transferKey transfer.idempotencyKey)
  let existing ← Tx.select (findTransfer transfer.idempotencyKey)
  match existing with
  | some other => Tx.fail (.uniqueViolation other.senderAgentUserId)
  | none =>
    Tx.update (.transferKey transfer.idempotencyKey) fun db =>
      { db with transfers := db.transfers ++ [transfer] }

def runTransferTransaction (senderUserId recipientId : Uuid) (points : Int) (key : String)
    (env : TransferEnvironment) : KeyTx Outcome := do
  let existing ← Tx.select (findTransfer key)
  match existing with
  | some transfer => pure (.replayed transfer)
  | none =>
    let debited ← pointDebit
      { author := senderUserId, userId := senderUserId, amount := points,
        idempotencyKey := transferDebitKey key, counterpartyId := some recipientId }
      env.pointsFrozen env.unconfirmedPoints
    let credited ← credit .point .point
      { author := senderUserId, userId := recipientId, amount := points,
        idempotencyKey := transferCreditKey key, counterpartyId := some senderUserId }
    insertTransfer
      { id := env.transferId, senderAgentUserId := senderUserId,
        recipientAgentUserId := recipientId, points, idempotencyKey := key }
    pure (.settled (.transferred env.transferId points) [debited, credited])

/-- A unique violation re-runs the transaction once. -/
def retryTransfer (body : KeyTx Outcome) : Failure → KeyProg Outcome
  | .uniqueViolation _ => Prog.transaction body
  | failure => Prog.fail failure

def transferPointsToAgent (senderUserId recipientId : Uuid) (points : Int) (key : String)
    (env : TransferEnvironment) : KeyProg Outcome := do
  Prog.ensure (senderUserId ≠ recipientId)
    (appError 400 "Cannot transfer to yourself" .invalidRecipient)
  assertPositiveAmountMultiple points AGENT_POINT_TRANSFER_STEP .minTransferViolation
    "points to transfer"
  Prog.ensure env.faceIndexed
    (appError 403 "Face verification must be completed and indexed before transferring points"
      .faceNotIndexed)
  Prog.ensure env.recipientIsAgent (appError 400 "Recipient is not an agent" .invalidRecipient)
  let existingBefore ← Prog.select (findTransfer key)
  match existingBefore with
  | some transfer => pure (.replayed transfer)
  | none =>
    Prog.transactionCatch (runTransferTransaction senderUserId recipientId points key env)
      (retryTransfer (runTransferTransaction senderUserId recipientId points key env))

/-! ### The server -/

def outcomeOf : Except Failure Outcome → Outcome
  | .ok outcome => outcome
  | .error failure => .refused failure

/-- The client receives what its request returned or threw. -/
def reply (request : Request) (run : KeyProg Outcome) : KeyProg Unit := do
  let result ← run.attempt
  Prog.autocommit .answers fun db =>
    { db with answers := db.answers ++ [(request, outcomeOf result)] }

def handler : Request → KeyProg Unit
  | .exchange userId points clientKey env =>
    reply (.exchange userId points clientKey env)
      (exchangePointsForTradingCoins userId points clientKey env)
  | .initiate userId clientKey env =>
    reply (.initiate userId clientKey env) (initiateTopup userId clientKey env)
  | .confirm userId orderId gatewayRef clientKey =>
    reply (.confirm userId orderId gatewayRef clientKey)
      (confirmTopup userId orderId gatewayRef clientKey)
  | .transfer userId recipientId points clientKey env =>
    reply (.transfer userId recipientId points clientKey env)
      (transferPointsToAgent userId recipientId points (transferKey userId clientKey env.now) env)
  | .expire key => deleteIdemKey key

end OlNode.Idempotency
