import OlNode.InternalLedger.Operations
import OlNode.Ledger.Retry

/-!
# Settling game rounds

`baishunSessionService.changeBalance` on DIAMOND wallets, with `diamondWalletService.getBalance`,
its Redis cache and `walletRepository.getOrCreate`. What the game provider is told is kept in
`answered`, one element for every call that returned.

The client runs an upsert with an empty update as a SELECT and an INSERT, so of two transactions
that create the same wallet one fails on the unique index.
-/
namespace OlNode.Games

open ReadCommitted InternalLedger

inductive BaishunDiffMsg where
  | bet | result | refund
  deriving DecidableEq

structure GameSession where
  userId : UserId
  providerId : Nat
  ssTokenExpiresAt : Option Time

structure GameRoundLedgerLink where
  providerId : Nat
  orderId : Nat
  gameId : Nat
  roomId : Option Nat
  diffMsg : BaishunDiffMsg
  userId : UserId
  currencyDiff : Int
  userLedgerEntryId : LedgerKey
  houseLedgerEntryId : LedgerKey

structure ChangeBalanceParams where
  ssToken : Nat
  currencyDiff : Int
  diffMsg : BaishunDiffMsg
  gameId : Nat
  roomId : Option Nat
  orderId : Nat
  userId : Option UserId
  deriving DecidableEq

/-- What one call runs in: its clock, GAME_SESSION_USER_CHECK_MODE, and after how many statements
the database aborts its first attempts. -/
structure CallEnvironment where
  now : Time
  enforceUserCheck : Bool
  aborts : List Nat

structure GameDb where
  money : MoneyDb
  /-- The wallet rows that exist. -/
  wallets : List Wallet
  /-- The balances in Redis. -/
  cache : Wallet → Option Int
  session : Nat → Option GameSession
  /-- The first active GAME_HOUSE account. -/
  gameHouseUserId : Option UserId
  links : List GameRoundLedgerLink
  answered : List (ChangeBalanceParams × Int)

abbrev GameTx := Tx GameDb Lock LedgerError
abbrev GameProg := Prog GameDb Lock LedgerError

def GameDb.setMoney (db : GameDb) (money : MoneyDb) : GameDb := { db with money }

def onMoney {α : Type} (x : LedgerTx α) : GameTx α :=
  x.zoom GameDb.money fun money db => db.setMoney money

/-! ### Wallet rows and cached balances -/

def GameDb.addWallet (db : GameDb) (wallet : Wallet) : GameDb :=
  { db with wallets := db.wallets ++ [wallet] }

/-- The INSERT waits for a concurrent insert of the same wallet and then fails on the unique
index. -/
def insertWallet (wallet : Wallet) : GameTx Unit := do
  Tx.lockRow (.walletRow wallet)
  let taken ← Tx.select fun db => db.wallets.contains wallet
  Tx.ensure (!taken) .uniqueViolation
  Tx.update (.walletRow wallet) fun db => db.addWallet wallet

def getOrCreate (wallet : Wallet) : GameTx Unit := do
  let found ← Tx.select fun db => db.wallets.contains wallet
  if found then pure () else insertWallet wallet

def setCache (wallet : Wallet) (balance : Option Int) : GameProg Unit :=
  Prog.autocommit (.balanceCache wallet) fun db =>
    { db with cache := Function.update db.cache wallet balance }

/-- The cache is looked up twice, the second time by the one caller of a process that fills it. -/
def getBalance (wallet : Wallet) : GameProg Int := do
  let cached ← Prog.select fun db => db.cache wallet
  match cached with
  | some balance => pure balance
  | none => do
    let again ← Prog.select fun db => db.cache wallet
    match again with
    | some balance => pure balance
    | none => do
      Prog.transaction (getOrCreate wallet)
      let balance ← Prog.select fun db => latestBalance db.money.coinLedger wallet
      setCache wallet (some balance)
      pure balance

def bustBalanceCache (wallet : Wallet) : GameProg Unit := setCache wallet none

/-! ### The settlement -/

structure Settlement where
  userIsDebit : Bool
  userTxType : CoinTxType
  houseTxType : CoinTxType
  amount : Int

def resolveSettlement (diffMsg : BaishunDiffMsg) (currencyDiff : Int) : Settlement :=
  let amount := if currencyDiff < 0 then -currencyDiff else currencyDiff
  match diffMsg with
  | .bet =>
    { userIsDebit := true, userTxType := .gameWagerOut, houseTxType := .gameWagerIn, amount }
  | .result =>
    { userIsDebit := false, userTxType := .gameResultIn, houseTxType := .gameResultOut, amount }
  | .refund =>
    { userIsDebit := false, userTxType := .gameRefundIn, houseTxType := .gameRefundOut, amount }

def diamonds (userId : UserId) : Wallet := ⟨userId, .diamond⟩

/-- `diamondWalletService.debit` or `credit`. -/
def leg (isDebit : Bool) (userId : UserId) (amount : Int) (txType : CoinTxType)
    (idempotencyKey : LedgerKey) : GameTx LedgerReceipt :=
  onMoney (if isDebit then
      CoinWallet.debit userId amount txType { idempotencyKey, currencyType := .diamond }
    else CoinWallet.credit userId amount txType { idempotencyKey, currencyType := .diamond })

def findLink (db : GameDb) (providerId orderId : Nat) : Option GameRoundLedgerLink :=
  db.links.find? fun link => link.providerId = providerId ∧ link.orderId = orderId

def GameRoundLedgerLink.clashes (link other : GameRoundLedgerLink) : Bool :=
  (link.providerId = other.providerId ∧ link.orderId = other.orderId) ∨
    link.userLedgerEntryId = other.userLedgerEntryId ∨
    link.houseLedgerEntryId = other.houseLedgerEntryId

def GameDb.addLink (db : GameDb) (link : GameRoundLedgerLink) : GameDb :=
  { db with links := db.links ++ [link] }

def createLink (link : GameRoundLedgerLink) : GameTx Unit := do
  Tx.lockRow (.gameLink link.providerId link.orderId)
  let taken ← Tx.select fun db => db.links.any fun other => link.clashes other
  Tx.ensure (!taken) .uniqueViolation
  Tx.update (.gameLink link.providerId link.orderId) fun db => db.addLink link

/-- The two legs and the link. -/
def settle (session : GameSession) (houseUserId : UserId) (params : ChangeBalanceParams) :
    GameTx Unit := do
  let { userIsDebit, userTxType, houseTxType, amount } :=
    resolveSettlement params.diffMsg params.currencyDiff
  let userLeg ← leg userIsDebit session.userId amount userTxType
    (.gameRoundUser session.providerId params.orderId)
  let houseLeg ← leg (!userIsDebit) houseUserId amount houseTxType
    (.gameRoundHouse session.providerId params.orderId)
  createLink
    { providerId := session.providerId, orderId := params.orderId, gameId := params.gameId,
      roomId := params.roomId, diffMsg := params.diffMsg, userId := session.userId,
      currencyDiff := params.currencyDiff, userLedgerEntryId := userLeg.ledgerEntryId,
      houseLedgerEntryId := houseLeg.ledgerEntryId }

def runSettlement (session : GameSession) (houseUserId : UserId) (params : ChangeBalanceParams) :
    GameTx Unit := do
  let dup ← Tx.select fun db => findLink db session.providerId params.orderId
  match dup with
  | some _ => pure ()
  | none => do
    getOrCreate (diamonds session.userId)
    getOrCreate (diamonds houseUserId)
    onMoney (lockWalletsInOrder [diamonds session.userId, diamonds houseUserId])
    settle session houseUserId params

/-- A unique violation is taken for a settlement that somebody else has made. -/
def settleOnce (aborts : List Nat) (session : GameSession) (houseUserId : UserId)
    (params : ChangeBalanceParams) : GameProg Unit := do
  let outcome ← (withSerializationRetry (runSettlement session houseUserId params) 3 aborts).attempt
  match outcome with
  | .ok () => pure ()
  | .error error => if error = .uniqueViolation then pure () else Prog.fail error

/-! ### The callback -/

def gameHouseNotConfigured : LedgerError :=
  appError 500 "No active GAME_HOUSE ledger account configured" .gameHouseNotConfigured

def sessionRefusal (env : CallEnvironment) (session : GameSession) (claimed : Option UserId) :
    Option LedgerError :=
  if session.ssTokenExpiresAt.all fun expiresAt => expiresAt < env.now then
    some (appError 401 "Session expired" .gameSessionExpired)
  else if env.enforceUserCheck ∧ claimed.any fun user => user ≠ session.userId then
    some (appError 401 "ss_token does not belong to this user" .gameSessionUserMismatch)
  else none

def settleAndReport (env : CallEnvironment) (session : GameSession) (houseUserId : UserId)
    (params : ChangeBalanceParams) : GameProg Int := do
  let existing ← Prog.select fun db => findLink db session.providerId params.orderId
  match existing with
  | some _ => getBalance (diamonds session.userId)
  | none => do
    settleOnce env.aborts session houseUserId params
    bustBalanceCache (diamonds session.userId)
    bustBalanceCache (diamonds houseUserId)
    getBalance (diamonds session.userId)

def changeBalance (env : CallEnvironment) (params : ChangeBalanceParams) : GameProg Int := do
  Prog.ensure (params.currencyDiff ≠ 0)
    (appError 400 "currency_diff must not be zero" .invalidRequest)
  let session ← Prog.select fun db => db.session params.ssToken
  match session with
  | none => Prog.fail (appError 401 "Session not found" .gameSessionNotFound)
  | some session =>
    match sessionRefusal env session params.userId with
    | some error => Prog.fail error
    | none => do
      let house ← Prog.select fun db => db.gameHouseUserId
      match house with
      | none => Prog.fail gameHouseNotConfigured
      | some houseUserId => settleAndReport env session houseUserId params

/-- The provider receives the answer of a call that returns. -/
def answer (params : ChangeBalanceParams) (currencyBalance : Int) : GameProg Unit :=
  Prog.autocommit .gameAnswer fun db =>
    { db with answered := db.answered ++ [(params, currencyBalance)] }

structure Request where
  env : CallEnvironment
  params : ChangeBalanceParams

def handler (request : Request) : GameProg Unit := do
  let currencyBalance ← changeBalance request.env request.params
  answer request.params currencyBalance

abbrev GameConfig := Config Request GameDb Lock LedgerError

end OlNode.Games
