import Mathlib.Data.List.Sort
import OlNode.Ledger.Wallets
import OlNode.Ledger.Retry
import OlNode.Ledger.Envelope

/-!
# Guardians and VIP membership

`guardianService.purchaseGuardian` with its Redis envelope, `vipMembershipService.purchase`, and the
two expiry jobs. The wall clock is part of the database and moves only forward; each `new Date()` of
the code is a read of it. A client keeps the answers to its VIP purchases.
-/
namespace OlNode.Memberships

open ReadCommitted

inductive GuardianTier where
  | silver | gold | king
  deriving DecidableEq

/-- A row of `guardians`. The pair is unique and rows are never deleted, so it stands for the id. -/
structure GuardianId where
  guardianUserId : UserId
  targetUserId : UserId
  deriving DecidableEq

structure Guardian where
  tier : GuardianTier
  durationMonths : Nat
  coinsPaid : Int
  expiresAt : Time
  isExpired : Bool
  purchasedAt : Time
  deriving DecidableEq

structure VipSubscription where
  expiresAt : Option Time
  startAt : Option Time
  active : Bool

inductive VipMembershipTier where
  | diamond | svip
  deriving DecidableEq

/-- A row of `vip_membership_purchases`; UUIDs are compared as numbers. -/
structure VipMembershipPurchase where
  id : Nat
  userId : UserId
  tier : VipMembershipTier
  periodDays : Nat
  coinCost : Int
  ledgerEntryId : LedgerKey
  expiresAtBefore : Option Time
  expiresAtAfter : Time
  createdAt : Time
  deriving DecidableEq

/-- The answer to a VIP purchase. `bought` is the purchase of the key when the request came in. -/
structure VipAnswer where
  key : LedgerKey
  bought : Option VipMembershipPurchase
  outcome : LedgerError ⊕ Time

structure GuardianPurchaseResult where
  guardianId : GuardianId
  row : Guardian

structure MembershipDb where
  now : Time
  money : MoneyDb
  guardians : GuardianId → Option Guardian
  /-- No columns: there is no such user. -/
  vip : UserId → Option VipSubscription
  purchases : List VipMembershipPurchase
  /-- Markers in Redis: 'processing', or the response. -/
  idem : LedgerKey → Option (Option GuardianPurchaseResult)
  answers : List VipAnswer

abbrev MembershipTx := Tx MembershipDb Lock LedgerError
abbrev MembershipProg := Prog MembershipDb Lock LedgerError

def MembershipDb.setMoney (db : MembershipDb) (money : MoneyDb) : MembershipDb := { db with money }

def onMoney {α : Type} (x : LedgerTx α) : MembershipTx α :=
  x.zoom MembershipDb.money fun money db => db.setMoney money

def userNotFound : LedgerError :=
  .app { status := 404, message := "User not found", code := .userNotFound }

/-! ### Guardians -/

def MONTHLY_PRICE : GuardianTier → Int
  | .silver => 150000
  | .gold => 300000
  | .king => 1500000

def DURATION_MULTIPLIER (durationMonths : Nat) : Option Int :=
  match durationMonths with
  | 1 => some 1
  | 3 => some 3
  | 6 => some 6
  | 12 => some 12
  | _ => none

structure PurchaseGuardianInput where
  targetUserId : UserId
  tier : GuardianTier
  durationMonths : Nat
  idempotencyKey : Option Nat

/-- What a call runs in: `addMonths`, which depends on the calendar, the host's share, the UUID of a
request without a key, and the aborts of its first attempts. -/
structure GuardianEnvironment where
  addMonths : Time → Nat → Time
  guardianPurchaseBp : Int
  uuid : Nat
  aborts : List Nat

def MembershipDb.setGuardian (db : MembershipDb) (id : GuardianId) (row : Guardian) :
    MembershipDb :=
  { db with guardians := Function.update db.guardians id (some row) }

def hostPointsFromGuardian (coinCost guardianPurchaseBp : Int) : Int :=
  if coinCost ≤ 0 then 0 else (coinCost * guardianPurchaseBp).tdiv 10000

/-- `coinWalletService.debitForGuardianPurchase`; the freeze check reads outside the transaction. -/
def debitForGuardianPurchase (userId : UserId) (amount : Int) (targetUserId : UserId)
    (idempotencyKey : LedgerKey) : LedgerTx Unit := do
  assertCoinDebitAllowedInTx userId .coin
  let wallet : Wallet := ⟨userId, .coin⟩
  lockForUpdate wallet
  let balance ← latestCoinBalance wallet
  Tx.ensure (amount ≤ balance) insufficientCoins
  let _ ← CoinLedgerRepository.insert
    { wallet, direction := .debit, txType := .guardianPurchase, amount,
      balanceAfter := balance - amount, counterpartyId := some targetUserId, idempotencyKey }
  let _ ← applyCredit userId .wealth amount
  pure ()

/-- A row that is created is not expired; one that is updated is not expired any more. -/
def upsertGuardian (id : GuardianId) (input : PurchaseGuardianInput) (coinsPaid : Int)
    (expiresAt : Time) : MembershipTx Guardian := do
  let purchasedAt ← Tx.select fun db => db.now
  let row : Guardian :=
    { tier := input.tier, durationMonths := input.durationMonths, coinsPaid, expiresAt,
      isExpired := false, purchasedAt }
  Tx.update (.guardian id.guardianUserId id.targetUserId) fun db => db.setGuardian id row
  pure row

def duplicateGuardianPurchase : LedgerError :=
  .app { status := 409, message := "Duplicate guardian purchase (already processed)",
         code := .idemConflict }

def guardDuplicate (guarded : Bool) (key : LedgerKey) : MembershipTx Unit :=
  Tx.when guarded do
    let dup ← onMoney (CoinLedgerRepository.findByIdempotencyKey key)
    Tx.ensure dup.isNone duplicateGuardianPurchase

def guardianTx (env : GuardianEnvironment) (guardianUserId : UserId) (input : PurchaseGuardianInput)
    (key : LedgerKey) (guarded : Bool) (totalCoins : Int) (expiresAt : Time) :
    MembershipTx Guardian := do
  guardDuplicate guarded key
  onMoney (debitForGuardianPurchase guardianUserId totalCoins input.targetUserId key)
  let row ← upsertGuardian ⟨guardianUserId, input.targetUserId⟩ input totalCoins expiresAt
  let hostPoints := hostPointsFromGuardian totalCoins env.guardianPurchaseBp
  let now ← Tx.select fun db => db.now
  Tx.when (0 < hostPoints) do
    let _ ← onMoney (PointWallet.creditInTransaction now input.targetUserId hostPoints
      .guardianPurchase
      { idempotencyKey := .hostPoints key, counterpartyId := some guardianUserId,
        applyLivestreamLevel := true })
    pure ()
  pure row

def invalidDuration : LedgerError :=
  .app { status := 400, message := "Invalid duration", code := .invalidDuration }

def executePurchaseGuardian (env : GuardianEnvironment) (guardianUserId : UserId)
    (input : PurchaseGuardianInput) (key : LedgerKey) (guarded : Bool) :
    MembershipProg GuardianPurchaseResult := do
  Prog.ensure (guardianUserId ≠ input.targetUserId)
    (.app { status := 400, message := "Cannot guardian yourself", code := .cannotGuardianSelf })
  let target ← Prog.select fun db => db.vip input.targetUserId
  Prog.ensure target.isSome userNotFound
  match DURATION_MULTIPLIER input.durationMonths with
  | none => Prog.fail invalidDuration
  | some mult =>
    let totalCoins := MONTHLY_PRICE input.tier * mult
    let now ← Prog.select fun db => db.now
    let expiresAt := env.addMonths now input.durationMonths
    let row ← withSerializationRetry
      (guardianTx env guardianUserId input key guarded totalCoins expiresAt) 3 env.aborts
    pure ⟨⟨guardianUserId, input.targetUserId⟩, row⟩

def guardianMarkers : IdemMarkers MembershipDb LedgerKey GuardianPurchaseResult where
  get db key := db.idem key
  set key marker db := { db with idem := Function.update db.idem key marker }
  lock key := .walletIdem key

def purchaseGuardian (env : GuardianEnvironment) (guardianUserId : UserId)
    (input : PurchaseGuardianInput) : MembershipProg GuardianPurchaseResult :=
  match input.idempotencyKey with
  | none => executePurchaseGuardian env guardianUserId input (.guardianPurchaseOnce env.uuid) false
  | some clientKey =>
    let key := LedgerKey.guardianPurchase guardianUserId clientKey
    guardianMarkers.around key duplicateGuardianPurchase
      (executePurchaseGuardian env guardianUserId input key true)

/-- `guardianRepository.markExpired`. -/
def markExpired (id : GuardianId) (db : MembershipDb) : MembershipDb :=
  { db with guardians := Function.update db.guardians id ((db.guardians id).map fun row =>
      { row with isExpired := true }) }

/-- `guardianService.processExpiryJob`. -/
def processGuardianExpiry (id : GuardianId) : MembershipProg Unit := do
  let row ← Prog.select fun db => db.guardians id
  match row with
  | none => pure ()
  | some g =>
    if g.isExpired then pure ()
    else
      let now ← Prog.select fun db => db.now
      if now < g.expiresAt then pure ()
      else Prog.autocommit (.guardian id.guardianUserId id.targetUserId) (markExpired id)

/-! ### VIP -/

def VIP_DURATION_CAP_DAYS : Nat := 730
def VIP_MS_PER_DAY : Nat := 86400000

structure TierConfig where
  periodDays : Nat
  coinCost : Int

def tierConfig : VipMembershipTier → TierConfig
  | .diamond => ⟨30, 1000000⟩
  | .svip => ⟨365, 12990000⟩

def addUtcDays (date : Time) (days : Nat) : Time := date + days * VIP_MS_PER_DAY

def computeProposedExpiresAt (now : Time) (currentExpiresAt : Option Time) (periodDays : Nat) :
    Time :=
  match currentExpiresAt with
  | none => addUtcDays now periodDays
  | some current => addUtcDays (if now < current then current else now) periodDays

/-- The test of `assertWithinCap`. -/
def withinCap (proposedExpiresAt now : Time) (capDays : Nat) : Bool :=
  proposedExpiresAt ≤ addUtcDays now capDays

def vipDurationCap : LedgerError :=
  .app { status := 400, message := "VIP membership cannot extend beyond 2 years from now",
         code := .vipDurationCap }

/-- `sortPurchases`: by creation, then by id. -/
def purchasedBefore (a b : VipMembershipPurchase) : Prop :=
  a.createdAt < b.createdAt ∨ a.createdAt = b.createdAt ∧ a.id ≤ b.id

instance : DecidableRel purchasedBefore := fun a b =>
  inferInstanceAs (Decidable (a.createdAt < b.createdAt ∨ a.createdAt = b.createdAt ∧ a.id ≤ b.id))

/-- `stackedExpiresAtAfter` on rows of the table, in which `expiresAtAfter` is never missing. -/
def stackedExpiresAtAfter (purchases : List VipMembershipPurchase) : List Time :=
  (purchases.insertionSort purchasedBefore).map (·.expiresAtAfter)

/-- `updateMembershipState` with `active: true`; the start is set only once. -/
def MembershipDb.extendVip (db : MembershipDb) (userId : UserId) (expiresAt now : Time) :
    MembershipDb :=
  { db with vip := Function.update db.vip userId ((db.vip userId).map fun v =>
      { expiresAt := some expiresAt, startAt := v.startAt.or (some now), active := true }) }

def findPurchaseByLedgerEntryId (purchases : List VipMembershipPurchase) (key : LedgerKey) :
    Option VipMembershipPurchase :=
  purchases.find? fun p => p.ledgerEntryId = key

def insertPurchase (row : Time → VipMembershipPurchase) (key : LedgerKey) : MembershipTx Unit := do
  Tx.lockRow (.vipMembershipPurchase key)
  let existing ← Tx.select fun db => findPurchaseByLedgerEntryId db.purchases key
  Tx.ensure existing.isNone .uniqueViolation
  let createdAt ← Tx.select fun db => db.now
  Tx.update (.vipMembershipPurchase key) fun db =>
    { db with purchases := db.purchases ++ [row createdAt] }

/-- The part after the debit: the membership is read again, now under the wallet's lock. -/
def stackPurchase (id : Nat) (userId : UserId) (tier : VipMembershipTier) (entry : LedgerKey) :
    MembershipTx Time := do
  let u ← Tx.select fun db => db.vip userId
  match u with
  | none => Tx.fail userNotFound
  | some v =>
    let now ← Tx.select fun db => db.now
    let proposed := computeProposedExpiresAt now v.expiresAt (tierConfig tier).periodDays
    Tx.ensure (withinCap proposed now VIP_DURATION_CAP_DAYS) vipDurationCap
    Tx.update (.user userId) fun db => db.extendVip userId proposed now
    insertPurchase (fun createdAt =>
      { id, userId, tier, periodDays := (tierConfig tier).periodDays,
        coinCost := (tierConfig tier).coinCost, ledgerEntryId := entry,
        expiresAtBefore := v.expiresAt, expiresAtAfter := proposed, createdAt }) entry
    pure proposed

def runPurchaseTransaction (id : Nat) (userId : UserId) (tier : VipMembershipTier)
    (key : LedgerKey) : MembershipTx Time := do
  let preRead ← Tx.select fun db => db.vip userId
  match preRead with
  | none => Tx.fail userNotFound
  | some v =>
    let preNow ← Tx.select fun db => db.now
    let proposed := computeProposedExpiresAt preNow v.expiresAt (tierConfig tier).periodDays
    Tx.ensure (withinCap proposed preNow VIP_DURATION_CAP_DAYS) vipDurationCap
    let debit ← onMoney (CoinWallet.debit userId (tierConfig tier).coinCost .vipMembershipPurchase
      { idempotencyKey := key, applyWealth := true })
    let existing ← Tx.select fun db => findPurchaseByLedgerEntryId db.purchases debit.ledgerEntryId
    match existing with
    | some purchase => pure purchase.expiresAtAfter
    | none => stackPurchase id userId tier debit.ledgerEntryId

/-- `vipMembershipService.purchase`; a unique violation makes it run the transaction once more. -/
def purchase (id : Nat) (userId : UserId) (tier : VipMembershipTier) (key : LedgerKey)
    (aborts : List Nat) : MembershipProg Time := do
  let outcome ← (withSerializationRetry (runPurchaseTransaction id userId tier key) 3 aborts).attempt
  match outcome with
  | .ok expiresAt => pure expiresAt
  | .error .uniqueViolation => Prog.transaction (runPurchaseTransaction id userId tier key)
  | .error error => Prog.fail error

/-- The write of `vipMembershipService.processExpiryJob`, at the instant it was given. -/
def deactivate (userId : UserId) (now : Time) (db : MembershipDb) : MembershipDb :=
  { db with vip := Function.update db.vip userId ((db.vip userId).map fun v =>
      if v.expiresAt.any (· ≤ now) then { v with active := false } else v) }

/-- `vipMembershipService.processExpiryJob`. -/
def processVipExpiry (userId : UserId) : MembershipProg Unit := do
  let u ← Prog.select fun db => (db.vip userId).bind (·.expiresAt)
  match u with
  | none => pure ()
  | some expiresAt =>
    let now ← Prog.select fun db => db.now
    if now < expiresAt then pure ()
    else
      let later ← Prog.select fun db => db.now
      Prog.autocommit (.user userId) (deactivate userId later)

/-! ### Requests -/

inductive Request where
  | tick (milliseconds : Nat)
  | guardian (env : GuardianEnvironment) (guardianUserId : UserId) (input : PurchaseGuardianInput)
  | guardianExpiry (id : GuardianId)
  /-- The markers in Redis are lost or have expired. -/
  | forgetIdem (key : LedgerKey)
  | vip (id : Nat) (userId : UserId) (tier : VipMembershipTier) (clientKey : Nat)
      (aborts : List Nat)
  | vipExpiry (userId : UserId)

/-- The route scopes the client's key by the user. -/
def vipKey (userId : UserId) (clientKey : Nat) : LedgerKey :=
  .vipMembershipPurchase userId clientKey

def toAnswer : Except LedgerError Time → LedgerError ⊕ Time
  | .ok expiresAt => .inr expiresAt
  | .error error => .inl error

def isVipKey : LedgerKey → Bool
  | .vipMembershipPurchase _ _ => true
  | _ => false

def recordAnswer (key : LedgerKey) (bought : Option VipMembershipPurchase)
    (outcome : Except LedgerError Time) : MembershipProg Unit :=
  Prog.autocommit .answers fun db =>
    { db with answers := db.answers ++ [⟨key, bought, toAnswer outcome⟩] }

def answerPurchase (id : Nat) (userId : UserId) (tier : VipMembershipTier) (key : LedgerKey)
    (aborts : List Nat) : MembershipProg Unit := do
  let bought ← Prog.select fun db => findPurchaseByLedgerEntryId db.purchases key
  let outcome ← (purchase id userId tier key aborts).attempt
  recordAnswer key bought outcome

def handler : Request → MembershipProg Unit
  | .tick milliseconds => Prog.autocommit .clock fun db => { db with now := db.now + milliseconds }
  | .guardian env guardianUserId input => (purchaseGuardian env guardianUserId input).forget
  | .guardianExpiry id => processGuardianExpiry id
  | .forgetIdem key => guardianMarkers.forgetIdemKey key
  | .vip id userId tier clientKey aborts =>
    answerPurchase id userId tier (vipKey userId clientKey) aborts
  | .vipExpiry userId => processVipExpiry userId

/-! ### What the guardian requests write -/

section Guardian

variable {P : (MembershipDb → MembershipDb) → Prop}

theorem executePurchaseGuardian_only (env : GuardianEnvironment) (guardianUserId : UserId)
    (input : PurchaseGuardianInput) (key : LedgerKey) (guarded : Bool)
    (tx : ∀ totalCoins expiresAt,
      (guardianTx env guardianUserId input key guarded totalCoins expiresAt).Writes P) :
    (executePurchaseGuardian env guardianUserId input key guarded).Only P false := by
  refine Prog.only_ensure_bind fun _ => Prog.only_select_bind fun target => ?_
  refine Prog.only_ensure_bind fun _ => ?_
  cases DURATION_MULTIPLIER input.durationMonths with
  | none => exact Prog.only_fail
  | some mult =>
    refine Prog.only_select_bind fun now => ?_
    exact .bind (withSerializationRetry_only (tx _ _) 3 env.aborts) fun _ => Prog.only_pure

theorem purchaseGuardian_only (env : GuardianEnvironment) (guardianUserId : UserId)
    (input : PurchaseGuardianInput)
    (tx : ∀ key guarded totalCoins expiresAt, isVipKey key = false →
      (guardianTx env guardianUserId input key guarded totalCoins expiresAt).Writes P)
    (marks : ∀ key marker, P (guardianMarkers.set key marker)) :
    (purchaseGuardian env guardianUserId input).Only P false := by
  unfold purchaseGuardian
  cases input.idempotencyKey with
  | none =>
    exact executePurchaseGuardian_only env guardianUserId input _ _ fun _ _ => tx _ _ _ _ rfl
  | some clientKey =>
    refine IdemMarkers.around_only (marks _) _ ?_
    exact executePurchaseGuardian_only env guardianUserId input _ _ fun _ _ => tx _ _ _ _ rfl

end Guardian

end OlNode.Memberships
