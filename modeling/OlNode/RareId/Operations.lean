import OlNode.Ledger.Retry
import OlNode.Ledger.Wallets

/-!
# Rare public ids

`executePurchaseRareId`, `processRareIdExpiryJob` and `revokeVip`, on the inventory of ids, their
assignments and the ids the users show. A user's shown id is unique in the database.
-/
namespace OlNode.RareIds

open ReadCommitted

structure VipPublicId where
  isAvailable : Bool
  currentOwnerId : Option UserId
  priceCredits : Option Int
  purchasedAt : Option Time
  expiresAt : Option Time
  assignedAt : Option Time

structure UserVipAssignment where
  id : Nat
  userId : UserId
  publicId : Nat
  startsAt : Time
  expiresAt : Time
  revokedAt : Option Time
  isActive : Bool

structure User where
  id : UserId
  currentVipPublicId : Option Nat
  vipPublicIdExpiresAt : Option Time
  vipPurchaseAt : Option Time

structure RareIdDb where
  money : MoneyDb
  vipPublicId : Nat → Option VipPublicId
  assignments : List UserVipAssignment
  users : List User
  follows : UserId → UserId → Bool

abbrev RareIdTx := Tx RareIdDb Lock LedgerError
abbrev RareIdProg := Prog RareIdDb Lock LedgerError

def RareIdDb.setMoney (db : RareIdDb) (money : MoneyDb) : RareIdDb := { db with money }

def onMoney {α : Type} (x : LedgerTx α) : RareIdTx α :=
  x.zoom RareIdDb.money fun money db => db.setMoney money

def RareIdDb.modifyRow (db : RareIdDb) (publicId : Nat) (f : VipPublicId → VipPublicId) :
    RareIdDb :=
  { db with vipPublicId := Function.update db.vipPublicId publicId ((db.vipPublicId publicId).map f) }

def RareIdDb.modifyAssignment (db : RareIdDb) (id : Nat)
    (f : UserVipAssignment → UserVipAssignment) : RareIdDb :=
  { db with assignments := db.assignments.map fun row => if row.id = id then f row else row }

def RareIdDb.modifyUser (db : RareIdDb) (id : UserId) (f : User → User) : RareIdDb :=
  { db with users := db.users.map fun row => if row.id = id then f row else row }

def findAssignment (db : RareIdDb) (id : Nat) : Option UserVipAssignment :=
  db.assignments.find? fun row => row.id = id

/-! ### Purchases -/

structure PurchaseParams where
  buyerId : UserId
  publicId : Nat
  recipientId : UserId
  idempotencyKey : Nat

/-- What one purchase runs in: its clock, STORE_RARE_ID_DURATION_DAYS in milliseconds, the id the
database generates, and the attempts that are aborted. -/
structure PurchaseEnvironment where
  now : Time
  duration : Time
  assignmentId : Nat
  aborts : List Nat

def rareIdNotAvailable : LedgerError :=
  .app { status := 404, message := "Rare ID not available", code := .rareIdNotAvailable }

def rareIdNoLongerAvailable : LedgerError :=
  .app { status := 409, message := "Rare ID no longer available", code := .rareIdNotAvailable }

def giftNotAllowed : LedgerError :=
  .app { status := 403, message := "Gifting requires follower/following relation",
         code := .giftNotAllowed }

def rareIdAlreadyOwned : LedgerError :=
  .app { status := 409, message := "Recipient already has this rare ID",
         code := .rareIdAlreadyOwned }

/-- No lookup of the key comes first: a key that is taken is found by the unique index. -/
def debitForVipPurchase (userId : UserId) (amount : Int) (recipientId : UserId)
    (idempotencyKey : LedgerKey) : LedgerTx Unit := do
  assertCoinDebitAllowedInTx userId .coin
  let wallet : Wallet := ⟨userId, .coin⟩
  lockForUpdate wallet
  let balance ← latestCoinBalance wallet
  Tx.ensure (amount ≤ balance) insufficientCoins
  let _ ← CoinLedgerRepository.insert
    { wallet, direction := .debit, txType := .vipPurchase, amount,
      balanceAfter := balance - amount, counterpartyId := some recipientId, idempotencyKey }
  let _ ← applyCredit userId .wealth amount
  pure ()

def sell (recipientId : UserId) (now expiresAt : Time) (row : VipPublicId) : VipPublicId :=
  { row with isAvailable := false, currentOwnerId := some recipientId, purchasedAt := some now,
             expiresAt := some expiresAt }

def createAssignment (assignment : UserVipAssignment) : RareIdTx Unit := do
  Tx.lockRow (.vipAssignment assignment.id)
  let taken ← Tx.select fun db => (findAssignment db assignment.id).isSome
  Tx.ensure (!taken) .uniqueViolation
  Tx.update (.vipAssignment assignment.id) fun db =>
    { db with assignments := db.assignments ++ [assignment] }

/-- The UPDATE of the recipient fails on the unique index while another user shows the id. -/
def showRareId (userId : UserId) (publicId : Nat) (expiresAt now : Time) : RareIdTx Unit := do
  Tx.lockRow (.vipOverlay publicId)
  let shown ← Tx.select fun db =>
    db.users.any fun user => user.id ≠ userId ∧ user.currentVipPublicId = some publicId
  Tx.ensure (!shown) .uniqueViolation
  Tx.update (.user userId) fun db => db.modifyUser userId fun user =>
    { user with currentVipPublicId := some publicId, vipPublicIdExpiresAt := some expiresAt,
                vipPurchaseAt := some now }

/-- The part of the purchase under the lock of the id's row. -/
def reserve (env : PurchaseEnvironment) (params : PurchaseParams) : RareIdTx Unit := do
  Tx.lockRow (.vipPublicId params.publicId)
  let locked ← Tx.select fun db => db.vipPublicId params.publicId
  Tx.ensure (locked.any (·.isAvailable)) rareIdNoLongerAvailable
  let expiresAt := env.now + env.duration
  Tx.update (.vipPublicId params.publicId) fun db =>
    db.modifyRow params.publicId (sell params.recipientId env.now expiresAt)
  createAssignment
    { id := env.assignmentId, userId := params.recipientId, publicId := params.publicId,
      startsAt := env.now, expiresAt, revokedAt := none, isActive := true }
  Tx.when (params.recipientId = params.buyerId)
    (showRareId params.recipientId params.publicId expiresAt env.now)

def purchaseTx (env : PurchaseEnvironment) (params : PurchaseParams) (priceCredits : Int) :
    RareIdTx Unit := do
  onMoney (debitForVipPurchase params.buyerId priceCredits params.recipientId
    (.vipPurchase params.idempotencyKey))
  reserve env params

/-- The recipient holds the id already, by an assignment that has not run out. -/
def alreadyOwned (db : RareIdDb) (params : PurchaseParams) (now : Time) : Bool :=
  db.assignments.any fun row => row.userId = params.recipientId ∧ row.publicId = params.publicId ∧
    row.isActive ∧ row.revokedAt = none ∧ now < row.expiresAt

def priceOf (db : RareIdDb) (publicId : Nat) : Option Int :=
  (db.vipPublicId publicId).bind fun row => if row.isAvailable then row.priceCredits else none

def executePurchaseRareId (env : PurchaseEnvironment) (params : PurchaseParams) :
    RareIdProg Unit := do
  let price ← Prog.select fun db => priceOf db params.publicId
  match price with
  | none => Prog.fail rareIdNotAvailable
  | some priceCredits => do
    let follows ← Prog.select fun db =>
      db.follows params.buyerId params.recipientId || db.follows params.recipientId params.buyerId
    Prog.ensure (params.recipientId = params.buyerId || follows) giftNotAllowed
    let existing ← Prog.select fun db => alreadyOwned db params env.now
    Prog.ensure (!existing) rareIdAlreadyOwned
    withSerializationRetry (purchaseTx env params priceCredits) 3 env.aborts

/-! ### The end of a lease -/

def RareIdDb.clearOverlay (db : RareIdDb) (userId : UserId) (publicId : Nat) : RareIdDb :=
  db.modifyUser userId fun user =>
    if user.currentVipPublicId = some publicId then
      { user with currentVipPublicId := none, vipPublicIdExpiresAt := none }
    else user

def free (row : VipPublicId) : VipPublicId :=
  { row with isAvailable := true, currentOwnerId := none, expiresAt := none, purchasedAt := none,
             assignedAt := none }

/-- The id goes back to the store; nothing is checked again. -/
def expiryTx (assignment : UserVipAssignment) : RareIdTx Unit := do
  Tx.update (.vipAssignment assignment.id) fun db =>
    db.modifyAssignment assignment.id fun row => { row with isActive := false }
  Tx.update (.user assignment.userId) fun db =>
    db.clearOverlay assignment.userId assignment.publicId
  Tx.update (.vipPublicId assignment.publicId) fun db => db.modifyRow assignment.publicId free

def processRareIdExpiryJob (assignmentId : Nat) : RareIdProg Unit := do
  let assignment ← Prog.select fun db => findAssignment db assignmentId
  match assignment with
  | none => pure ()
  | some assignment => Prog.when (assignment.isActive = true) (Prog.transaction (expiryTx assignment))

/-! ### Revocations -/

def plainError (message : String) : LedgerError :=
  .app { status := 500, message, code := .internalError }

def findOwned (db : RareIdDb) (assignmentId : Nat) (userId : UserId) : Option UserVipAssignment :=
  (findAssignment db assignmentId).filter fun row => row.userId = userId

def revokeVip (now : Time) (userId : UserId) (assignmentId : Nat) : RareIdProg Unit := do
  let assignment ← Prog.select fun db => findOwned db assignmentId userId
  match assignment with
  | none => Prog.fail (plainError "Assignment not found")
  | some assignment => do
    Prog.ensure assignment.isActive (plainError "Assignment is not active")
    let existing ← Prog.select fun db => findOwned db assignmentId userId
    Prog.ensure existing.isSome (plainError "Assignment not found")
    Prog.autocommit (.vipAssignment assignmentId) fun db =>
      db.modifyAssignment assignmentId fun row =>
        { row with revokedAt := some now, isActive := false }

inductive Request where
  | purchase (env : PurchaseEnvironment) (params : PurchaseParams)
  | expiryJob (assignmentId : Nat)
  | revoke (now : Time) (userId : UserId) (assignmentId : Nat)

def handler : Request → RareIdProg Unit
  | .purchase env params => executePurchaseRareId env params
  | .expiryJob assignmentId => processRareIdExpiryJob assignmentId
  | .revoke now userId assignmentId => revokeVip now userId assignmentId

abbrev RareIdConfig := Config Request RareIdDb Lock LedgerError

end OlNode.RareIds
