import OlNode.Ledger.Retry
import OlNode.Ledger.Wallets

/-!
# Custom gift requests

`customGiftService.createRequest` charges the price of a package and stores the request in one
transaction, under a key of the client or a fresh uuid. `customGiftAdminService` resolves a pending
request, once: it is completed, or it fails, with or without a refund.

Each commit that resolves a request is kept as a resolution, and what each call of `createRequest`
has been answered is kept with the request its key had when the call began.
-/
namespace OlNode.CustomGift

open ReadCommitted

inductive CustomGiftRequestStatus where
  | pending | completed | failed
  deriving DecidableEq

structure CustomGiftRequest where
  id : Nat
  userId : UserId
  whatsappNumber : String
  note : Option String
  validityDays : Nat
  coinCost : Int
  ledgerEntryId : LedgerKey
  status : CustomGiftRequestStatus := .pending
  giftId : Option Nat := none
  adminNote : Option String := none
  failureReason : Option String := none
  refunded : Bool := false
  refundLedgerEntryId : Option LedgerKey := none
  resolvedByAdminId : Option UserId := none

structure CustomGiftConfig where
  coinCost : Int
  coinCost1Month : Int
  coinCost3Months : Int
  enabled : Bool

structure Resolution where
  requestId : Nat
  status : CustomGiftRequestStatus
  refund : Bool
  deriving DecidableEq

inductive CreateOutcome where
  | returned (requestId : Nat)
  | refused (error : LedgerError)
  deriving DecidableEq

structure CreateAnswer where
  key : LedgerKey
  /-- The key came from the client. -/
  fromClient : Bool
  enabled : Bool
  /-- The request of the key when the call began. -/
  before : Option Nat
  outcome : CreateOutcome
  deriving DecidableEq

structure CustomGiftDb where
  money : MoneyDb
  config : CustomGiftConfig
  requests : List CustomGiftRequest := []
  resolutions : List Resolution := []
  answers : List CreateAnswer := []

abbrev CustomGiftTx := Tx CustomGiftDb Lock LedgerError
abbrev CustomGiftProg := Prog CustomGiftDb Lock LedgerError

namespace CustomGiftDb

variable (db : CustomGiftDb)

def setMoney (money : MoneyDb) (db : CustomGiftDb) : CustomGiftDb := { db with money }

def findById (id : Nat) : Option CustomGiftRequest := db.requests.find? (·.id = id)

def findPendingByUserId (userId : UserId) : Option CustomGiftRequest :=
  db.requests.find? fun request => request.userId = userId && request.status = .pending

def findByLedgerEntryId (ledgerEntryId : LedgerKey) : Option CustomGiftRequest :=
  db.requests.find? (·.ledgerEntryId = ledgerEntryId)

def addRequest (request : CustomGiftRequest) : CustomGiftDb :=
  { db with requests := db.requests ++ [request] }

def updateRequest (id : Nat) (change : CustomGiftRequest → CustomGiftRequest) : CustomGiftDb :=
  { db with requests := db.requests.map fun request =>
      if request.id = id then change request else request }

end CustomGiftDb

def onMoney {α : Type} (x : LedgerTx α) : CustomGiftTx α :=
  x.zoom CustomGiftDb.money CustomGiftDb.setMoney

/-! ### Prices -/

/-- The durations that the schema of the body admits. -/
inductive CustomGiftDurationMonths where
  | one | three
  deriving DecidableEq

def CustomGiftDurationMonths.toNat : CustomGiftDurationMonths → Nat
  | .one => 1
  | .three => 3

def DAYS_PER_MONTH : Nat := 30

def validityDaysForDuration (durationMonths : CustomGiftDurationMonths) : Nat :=
  durationMonths.toNat * DAYS_PER_MONTH

/-- Prefer explicit `durationMonths`; otherwise map legacy `validityDays` 90 → 3 months. -/
def resolveCustomGiftDuration (durationMonths : Option CustomGiftDurationMonths)
    (validityDays : Option Nat) : CustomGiftDurationMonths :=
  match durationMonths with
  | some durationMonths => durationMonths
  | none => if validityDays = some 90 then .three else .one

def coinCostForDuration (config : CustomGiftConfig) : CustomGiftDurationMonths → Int
  | .three => config.coinCost3Months
  | .one => if 0 < config.coinCost1Month then config.coinCost1Month else config.coinCost

/-! ### Creating -/

structure CreateParams where
  userId : UserId
  whatsappNumber : String
  note : Option String := none
  durationMonths : Option CustomGiftDurationMonths := none
  validityDays : Option Nat := none
  idempotencyKey : Option Nat := none
  /-- The uuid generated for the key, if the client sends none. -/
  uuid : Nat
  /-- The generated id of the row. -/
  requestId : Nat
  /-- After how many statements the database aborts the first attempts, and the re-run. -/
  aborts : List Nat := []
  rerunAbort : Option Nat := none

def CreateParams.key (params : CreateParams) : LedgerKey :=
  .customGift params.userId (params.idempotencyKey.getD params.uuid)

def customGiftDisabled : LedgerError :=
  .app { status := 403, message := "Custom gift requests are currently disabled"
         code := .customGiftDisabled }

def customGiftRequestPending : LedgerError :=
  .app { status := 409, message := "You already have a pending custom gift request"
         code := .customGiftRequestPending }

/-- INSERT, under the primary key and both unique indexes. -/
def insertRequest (request : CustomGiftRequest) : CustomGiftTx CustomGiftRequest := do
  Tx.lockRow (.customGiftRequest request.id)
  let taken ← Tx.select (·.findById request.id)
  Tx.ensure taken.isNone .uniqueViolation
  Tx.lockRow (.customGiftEntry request.ledgerEntryId)
  let charged ← Tx.select (·.findByLedgerEntryId request.ledgerEntryId)
  Tx.ensure charged.isNone .uniqueViolation
  Tx.lockRow (.customGiftPending request.userId)
  let pending ← Tx.select (·.findPendingByUserId request.userId)
  Tx.ensure pending.isNone .uniqueViolation
  Tx.update (.customGiftRequest request.id) (·.addRequest request)
  pure request

section Create

variable (params : CreateParams)

/-- Replay before the pending gate. -/
def findPrior : CustomGiftTx (Option CustomGiftRequest) :=
  match params.idempotencyKey with
  | none => pure none
  | some _ => do
    let priorLedger ← Tx.select fun db => findByKey db.money.coinLedger params.key
    match priorLedger with
    | none => pure none
    | some row => Tx.select (·.findByLedgerEntryId row.idempotencyKey)

def chargeRequest (coinCost : Int) (validityDays : Nat) : CustomGiftTx CustomGiftRequest := do
  let pending ← Tx.select (·.findPendingByUserId params.userId)
  Tx.ensure pending.isNone customGiftRequestPending
  let receipt ← onMoney (CoinWallet.debit params.userId coinCost .customGiftRequest
    { idempotencyKey := params.key, applyWealth := true })
  let existing ← Tx.select (·.findByLedgerEntryId receipt.ledgerEntryId)
  match existing with
  | some request => pure request
  | none =>
    insertRequest
      { id := params.requestId, userId := params.userId, whatsappNumber := params.whatsappNumber
        note := params.note, validityDays, coinCost, ledgerEntryId := receipt.ledgerEntryId }

def runTransaction (coinCost : Int) (validityDays : Nat) : CustomGiftTx CustomGiftRequest := do
  let prior ← findPrior params
  match prior with
  | some request => pure request
  | none => chargeRequest params coinCost validityDays

/-- A unique violation is answered by one re-run. -/
def settleRequest (coinCost : Int) (validityDays : Nat) : CustomGiftProg CustomGiftRequest := do
  let outcome ← (withSerializationRetry (runTransaction params coinCost validityDays) 3
    params.aborts).attempt
  match outcome with
  | .ok request => pure request
  | .error error =>
    if error = .uniqueViolation then
      withSerializationRetry (runTransaction params coinCost validityDays) 1
        params.rerunAbort.toList
    else Prog.fail error

def placeRequest (config : CustomGiftConfig) : CustomGiftProg CustomGiftRequest := do
  Prog.ensure config.enabled customGiftDisabled
  let durationMonths := resolveCustomGiftDuration params.durationMonths params.validityDays
  settleRequest params (coinCostForDuration config durationMonths)
    (validityDaysForDuration durationMonths)

def CreateOutcome.of : Except LedgerError CustomGiftRequest → CreateOutcome
  | .ok request => .returned request.id
  | .error error => .refused error

def createRequest : CustomGiftProg Unit := do
  let (config, before) ← Prog.select fun db => (db.config, db.findByLedgerEntryId params.key)
  let outcome ← (placeRequest params config).attempt
  Prog.autocommit .answers fun db =>
    { db with answers := db.answers ++ [
        { key := params.key, fromClient := params.idempotencyKey.isSome
          enabled := config.enabled, before := before.map (·.id), outcome := .of outcome }] }

end Create

/-! ### Resolving -/

def customGiftRequestNotFound : LedgerError :=
  .app { status := 404, message := "Custom gift request not found"
         code := .customGiftRequestNotFound }

def customGiftRequestAlreadyResolved : LedgerError :=
  .app { status := 409, message := "Request is already resolved"
         code := .customGiftRequestAlreadyResolved }

def linkedGiftNotFound : LedgerError :=
  .app { status := 404, message := "Linked gift not found", code := .giftNotFound }

/-- What a resolution writes besides the status. -/
structure ResolveData where
  giftId : Option Nat := none
  adminNote : Option String := none
  failureReason : Option String := none
  resolvedByAdminId : UserId

def CustomGiftRequest.resolve (status : CustomGiftRequestStatus) (data : ResolveData)
    (request : CustomGiftRequest) : CustomGiftRequest :=
  { request with
    status, giftId := data.giftId, adminNote := data.adminNote
    failureReason := data.failureReason, resolvedByAdminId := some data.resolvedByAdminId }

/-- UPDATE ... WHERE status = 'PENDING'; returns whether there was such a row. -/
def resolvePending (id : Nat) (status : CustomGiftRequestStatus) (data : ResolveData)
    (refund : Bool) : CustomGiftTx Bool := do
  Tx.lockRow (.customGiftRequest id)
  let pending ← Tx.select fun db => (db.findById id).any (·.status = .pending)
  Tx.when (pending = true) (Tx.update (.customGiftRequest id) fun db =>
    { db.updateRequest id (·.resolve status data) with
      resolutions := db.resolutions ++ [⟨id, status, refund⟩] })
  pure pending

structure CompleteBody where
  /-- The linked gift, and whether there is one with this id. -/
  giftId : Option Nat := none
  giftExists : Bool := true
  adminNote : Option String := none

def completeRequest (id : Nat) (body : CompleteBody) (adminId : UserId) : CustomGiftProg Unit := do
  let row ← Prog.select (·.findById id)
  Prog.ensure row.isSome customGiftRequestNotFound
  Prog.ensure (body.giftId.isNone || body.giftExists) linkedGiftNotFound
  let updated ← Prog.transaction (resolvePending id .completed
    { giftId := body.giftId, adminNote := body.adminNote, resolvedByAdminId := adminId } false)
  Prog.ensure updated customGiftRequestAlreadyResolved

structure FailBody where
  reason : String
  refund : Bool
  adminNote : Option String := none

def refundRequest (row : CustomGiftRequest) : CustomGiftTx Unit := do
  let receipt ← onMoney (CoinWallet.credit row.userId row.coinCost .customGiftRefund
    { idempotencyKey := .customGiftRefund row.id })
  Tx.update (.customGiftRequest row.id) (·.updateRequest row.id fun request =>
    { request with refunded := true, refundLedgerEntryId := some receipt.ledgerEntryId })

def failTransaction (row : CustomGiftRequest) (body : FailBody) (adminId : UserId) :
    CustomGiftTx Bool := do
  let updated ← resolvePending row.id .failed
    { adminNote := body.adminNote, failureReason := some body.reason, resolvedByAdminId := adminId }
    body.refund
  Tx.when (updated = true ∧ body.refund = true) (refundRequest row)
  pure updated

def failRequest (id : Nat) (body : FailBody) (adminId : UserId) : CustomGiftProg Unit := do
  let row ← Prog.select (·.findById id)
  match row with
  | none => Prog.fail customGiftRequestNotFound
  | some row => do
    let updated ← Prog.transaction (failTransaction row body adminId)
    Prog.ensure updated customGiftRequestAlreadyResolved

inductive Request where
  | createRequest (params : CreateParams)
  | completeRequest (id : Nat) (body : CompleteBody) (adminId : UserId)
  | failRequest (id : Nat) (body : FailBody) (adminId : UserId)
  | updateConfig (config : CustomGiftConfig)

def handler : Request → CustomGiftProg Unit
  | .createRequest params => createRequest params
  | .completeRequest id body adminId => completeRequest id body adminId
  | .failRequest id body adminId => failRequest id body adminId
  | .updateConfig config => Prog.autocommit .settings fun db => { db with config }

end OlNode.CustomGift
