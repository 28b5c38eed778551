import OlNode.Ledger.Envelope
import OlNode.Ledger.Retry
import OlNode.Withdrawal.Operations

/-!
# Withdrawals as clients create them

`createWithdrawal` on the whole table of withdrawals: the envelope in Redis around
`executeCreateWithdrawal`, whose transaction writes the debit and the row under the client's key.
A call may fail at any of its statements, the attempts of its transaction may be aborted, and the
steps after the commit (assignment to an agency, the cached response) may be reached or not.

Left out are the payment method's last use, caches and messages; where they can fail, the call
fails at the statement before or after them.
-/
namespace OlNode.WithdrawalCreation

open ReadCommitted

/-- A row of `withdrawals` with its unique key. -/
structure WithdrawalRecord where
  row : Withdrawal
  idempotencyKey : WithdrawalKey

structure CreateWithdrawalResponse where
  withdrawalId : Nat
  status : WithdrawalStatus
  grossPoints : Int
  hostPayoutPoints : Int
  platformFeePoints : Option Int
  agentRewardPoints : Option Int
  serviceFeePoints : Option Int
  methodType : WithdrawalMethodType
  payoutHandler : WithdrawalPayoutHandler

structure WithdrawalsDb where
  money : MoneyDb
  withdrawals : List WithdrawalRecord
  assignments : Nat → List PayrollAssignment
  jobs : Nat → List PayrollJob
  /-- The Redis markers, by user and client key. -/
  idem : UserId × Nat → Option (Option CreateWithdrawalResponse)

abbrev WithdrawalsTx := Tx WithdrawalsDb Lock LedgerError
abbrev WithdrawalsProg := Prog WithdrawalsDb Lock LedgerError

namespace WithdrawalsDb

def setMoney (money : MoneyDb) (db : WithdrawalsDb) : WithdrawalsDb := { db with money }

def findById (db : WithdrawalsDb) (id : Nat) : Option WithdrawalRecord :=
  db.withdrawals.find? fun record => record.row.id = id

def findByKey (db : WithdrawalsDb) (key : WithdrawalKey) : Option WithdrawalRecord :=
  db.withdrawals.find? fun record => record.idempotencyKey = key

/-- What the operations on one withdrawal see. -/
def payroll (id : Nat) (db : WithdrawalsDb) : WithdrawalDb where
  money := db.money
  withdrawal := (db.findById id).map (·.row)
  assignments := db.assignments id
  jobs := db.jobs id

/-- What such an operation has made of its withdrawal, put back into the tables. -/
def setPayroll (id : Nat) (one : WithdrawalDb) (db : WithdrawalsDb) : WithdrawalsDb where
  money := one.money
  withdrawals := db.withdrawals.map fun record =>
    if record.row.id = id then { record with row := one.withdrawal.getD record.row } else record
  assignments := Function.update db.assignments id one.assignments
  jobs := Function.update db.jobs id one.jobs
  idem := db.idem

end WithdrawalsDb

def onMoney {α : Type} (x : LedgerTx α) : WithdrawalsTx α :=
  x.zoom WithdrawalsDb.money WithdrawalsDb.setMoney

/-- The locks of one withdrawal's operations among those of all. -/
def lockOf (id : Nat) : Lock → Lock
  | .withdrawal => .withdrawalRow id
  | row => row

def onWithdrawal {α : Type} (id : Nat) (p : WithdrawalProg α) : WithdrawalsProg α :=
  p.embed (WithdrawalsDb.payroll id) (WithdrawalsDb.setPayroll id) (lockOf id)

/-- INSERT of a withdrawal: its id and its key are both unique. -/
def create (record : WithdrawalRecord) : WithdrawalsTx Unit := do
  Tx.lockRow (.withdrawalRow record.row.id)
  Tx.lockRow (.withdrawalKey record.idempotencyKey)
  let taken ← Tx.select fun db =>
    (db.findById record.row.id).isSome || (db.findByKey record.idempotencyKey).isSome
  Tx.ensure (!taken) .uniqueViolation
  Tx.update (.withdrawalRow record.row.id) fun db =>
    { db with withdrawals := db.withdrawals ++ [record] }

structure CreateParams where
  userId : UserId
  grossPoints : Int
  idempotencyKey : Nat

def CreateParams.idem (params : CreateParams) : WithdrawalKey :=
  .create params.userId params.idempotencyKey

/-- What a call finds outside the tables, and where it fails. -/
structure CreateEnvironment where
  withdrawalId : Nat
  faceIndexed : Bool
  /-- The type of the payment method, if there is one. -/
  method : Option WithdrawalMethodType
  railEnabled : Bool
  fees : FeeSchedule
  payroll : Environment
  aborts : List Nat
  /-- The call fails with this error after so many statements. -/
  failure : Option (Nat × LedgerError)
  /-- DEL of the marker after an error is best effort. -/
  released : Bool

def CreateEnvironment.input (env : CreateEnvironment) (params : CreateParams)
    (methodType : WithdrawalMethodType) : CreateWithdrawalInput where
  userId := params.userId
  grossPoints := params.grossPoints
  methodType := methodType
  faceIndexed := env.faceIndexed
  railEnabled := env.railEnabled
  fees := env.fees

def creationMarkers : IdemMarkers WithdrawalsDb (UserId × Nat) CreateWithdrawalResponse where
  get db key := db.idem key
  set key marker db := { db with idem := Function.update db.idem key marker }
  lock key := .requestIdem key.1 key.2

private def appError (status : Nat) (message : String) (code : ErrorCode) : LedgerError :=
  .app { status, message, code }

def responseOf (w : Withdrawal) : CreateWithdrawalResponse where
  withdrawalId := w.id
  status := w.status
  grossPoints := w.amountPoints
  hostPayoutPoints := withdrawalHostPayoutPoints w
  platformFeePoints := w.platformFeePoints
  agentRewardPoints := w.agentRewardPoints
  serviceFeePoints := w.serviceFeePoints
  methodType := w.methodType
  payoutHandler := w.payoutHandler

/-- `findUniqueOrThrow`, and the response cached under the client's key. -/
def createWithdrawalResponse (params : CreateParams) (withdrawalId : Nat) :
    WithdrawalsProg CreateWithdrawalResponse := do
  let refreshed ← Prog.select fun db => db.findById withdrawalId
  match refreshed with
  | none => Prog.fail (appError 404 "No Withdrawal found" .notFound)
  | some record =>
    creationMarkers.resolveIdemKey (params.userId, params.idempotencyKey) (responseOf record.row)
    pure (responseOf record.row)

def assertPointsDebitAllowed (userId : UserId) : WithdrawalsProg Unit := do
  let row ← Prog.select fun db => db.money.freezeFlags userId
  match row with
  | none => Prog.fail (appError 404 "User not found" .userNotFound)
  | some flags =>
    Prog.ensure (!flags.pointsFrozen) (appError 403 "Points are frozen" .pointsFrozen)

def debitAndCreate (params : CreateParams) (row : Withdrawal) : WithdrawalsTx Unit := do
  let unconfirmed ← Tx.select fun db => db.money.unconfirmedPoints params.userId
  let totalPoints ← onMoney (latestPointBalance ⟨params.userId, .point⟩)
  Tx.ensure (params.grossPoints ≤ totalPoints - unconfirmed) insufficientPoints
  let _ ← onMoney (PointWallet.debit params.userId params.grossPoints .withdrawal
    { idempotencyKey := .withdrawalDebit row.id, refId := some (.withdrawal row.id) })
  create ⟨row, params.idem⟩

/-- The transaction; a call with the same key that committed before is answered instead. -/
def createTx (params : CreateParams) (row : Withdrawal) : WithdrawalsTx (Option Nat) := do
  onMoney (lockForUpdate ⟨params.userId, .point⟩)
  let sameKey ← Tx.select fun db => db.findByKey params.idem
  match sameKey with
  | some record => pure (some record.row.id)
  | none =>
    debitAndCreate params row
    pure none

/-- A unique violation is answered with the winner of the race, if there is one. -/
def orWinner (params : CreateParams) :
    Except LedgerError (Option Nat) → WithdrawalsProg (Option Nat)
  | .ok replayOf => pure replayOf
  | .error error =>
    if error = .uniqueViolation then do
      let winner ← Prog.select fun db => db.findByKey params.idem
      match winner with
      | none => Prog.fail error
      | some record => pure (some record.row.id)
    else Prog.fail error

/-- After the transaction: a replay is answered, a new withdrawal to a bank goes to an agency. -/
def finish (env : CreateEnvironment) (params : CreateParams) (methodType : WithdrawalMethodType) :
    Option Nat → WithdrawalsProg CreateWithdrawalResponse
  | some withdrawalId => createWithdrawalResponse params withdrawalId
  | none => do
    Prog.when (methodType = .bank)
      (onWithdrawal env.withdrawalId (assignToAgency env.payroll {}))
    createWithdrawalResponse params env.withdrawalId

def executeCreateWithdrawal (env : CreateEnvironment) (params : CreateParams) :
    WithdrawalsProg CreateWithdrawalResponse := do
  let prior ← Prog.select fun db => db.findByKey params.idem
  match prior with
  | some record => createWithdrawalResponse params record.row.id
  | none =>
    Prog.ensure env.faceIndexed (appError 403
      "Face verification must be completed and indexed before withdrawing points" .faceNotIndexed)
    assertPointsDebitAllowed params.userId
    match env.method with
    | none => Prog.fail (appError 404 "Payment method not found" .notFound)
    | some methodType =>
      Prog.ensure env.railEnabled
        (appError 403 "payment method is currently disabled" .paymentMethodDisabled)
      match calculateWithdrawalAmounts params.grossPoints env.fees methodType with
      | .error error => Prog.fail error
      | .ok amounts =>
        let row := newWithdrawal env.withdrawalId (env.input params methodType) amounts
        let outcome ← (withSerializationRetry (createTx params row) 3 env.aborts).attempt
        let replayOf ← orWinner params outcome
        finish env params methodType replayOf

def CreateEnvironment.failing {α : Type} (env : CreateEnvironment) (p : WithdrawalsProg α) :
    WithdrawalsProg α :=
  match env.failure with
  | none => p
  | some (statements, error) => p.failAfter error statements false

/-- An error releases the marker, so that a corrected retry is not locked out. -/
def releaseOnError (env : CreateEnvironment) (params : CreateParams) :
    Except LedgerError CreateWithdrawalResponse → WithdrawalsProg CreateWithdrawalResponse
  | .ok response => pure response
  | .error error => do
    Prog.when env.released
      (creationMarkers.forgetIdemKey (params.userId, params.idempotencyKey))
    Prog.fail error

def createWithdrawal (env : CreateEnvironment) (params : CreateParams) :
    WithdrawalsProg CreateWithdrawalResponse := do
  let cached ← creationMarkers.getCachedIdemResponse (params.userId, params.idempotencyKey)
  match cached with
  | some response => pure response
  | none =>
    let acquired ← creationMarkers.acquireIdemKey (params.userId, params.idempotencyKey)
    Prog.ensure acquired IdemMarkers.alreadyProcessing
    let outcome ← (env.failing (executeCreateWithdrawal env params)).attempt
    releaseOnError env params outcome

/-! ### Requests -/

inductive Request where
  | create (env : CreateEnvironment) (params : CreateParams)
  /-- A marker expires or is lost. -/
  | forgetIdem (userId : UserId) (clientKey : Nat)
  /-- Points a user gets from elsewhere. -/
  | earn (userId : UserId) (amount : Int) (ref : Nat)

def handler : Request → WithdrawalsProg Unit
  | .create env params => (createWithdrawal env params).forget
  | .forgetIdem userId clientKey => creationMarkers.forgetIdemKey (userId, clientKey)
  | .earn userId amount ref => (Prog.transaction (onMoney (PointWallet.creditRow userId amount
      .adjustment { idempotencyKey := .other ref }))).forget

end OlNode.WithdrawalCreation
