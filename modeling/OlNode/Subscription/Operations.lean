import OlNode.Subscription.Model

/-!
# Subscribing, cancelling, renewing

The four operations on a subscription, and what else can happen to the pair: a block, the passing
of time, other movements of the wallets, and the queues' own moves.
-/
namespace OlNode.Subscriptions

open ReadCommitted

/-! ### Money -/

def hostPointsFromSubscription (coinCost subscriptionBp : Int) : Int :=
  if coinCost ≤ 0 then 0 else (coinCost * subscriptionBp).tdiv 10000

/-- No lookup of the key comes first: a key that is taken is found by the unique index. -/
def debitForCreatorSubscription (userId : UserId) (amount : Int) (creatorId : UserId)
    (idempotencyKey : LedgerKey) : LedgerTx Unit := do
  assertCoinDebitAllowedInTx userId .coin
  let wallet : Wallet := ⟨userId, .coin⟩
  lockForUpdate wallet
  let balance ← latestCoinBalance wallet
  Tx.ensure (amount ≤ balance) insufficientCoins
  let _ ← CoinLedgerRepository.insert
    { wallet, direction := .debit, txType := .creatorSubscription, amount,
      balanceAfter := balance - amount, counterpartyId := some creatorId, idempotencyKey }
  let _ ← applyCredit userId .wealth amount
  pure ()

/-- The host's row is keyed by the text of the coin row with the host's own prefix. -/
def creditCreatorSubscriptionPoints (pair : Pair) (now : Time) (coinsPaid hostShareBp : Int)
    (idempotencyKey : LedgerKey) : LedgerTx Unit :=
  let hostPoints := hostPointsFromSubscription coinsPaid hostShareBp
  Tx.when (0 < hostPoints) do
    let _ ← PointWallet.creditInTransaction now pair.creatorId hostPoints .subscription
      { idempotencyKey, refId := some (.other pair.subscriptionId),
        counterpartyId := some pair.subscriberId, applyLivestreamLevel := true }
    pure ()

/-- The money transaction of a renewal or of a recovery. -/
def payTx (pair : Pair) (shares : HostRevenueShares) (idempotencyKey : LedgerKey) :
    SubscriptionTx Unit := do
  onMoney (debitForCreatorSubscription pair.subscriberId SUBSCRIPTION_COIN_COST pair.creatorId
    idempotencyKey)
  let now ← Tx.select fun db => db.clock
  onMoney (creditCreatorSubscriptionPoints pair now SUBSCRIPTION_COIN_COST shares.subscriptionBp
    idempotencyKey)

/-! ### Cancelling -/

def CreatorSubscription.renews (sub : CreatorSubscription) : Bool :=
  sub.status = .active ∨ sub.status = .grace

def SubscriptionDb.renewing (db : SubscriptionDb) : Bool := db.sub.any fun sub => sub.renews

def stopRenewalKeepingAccess (sub : CreatorSubscription) : SubscriptionProg Unit := do
  SubscriptionRepository.updateById fun row => { row with status := .cancelled, graceUntil := none }
  cancelSubscriptionRenewalJob
  cancelSubscriptionGraceJob
  let now ← Prog.select fun db => db.clock
  if now < sub.nextRenewalAt then setSubscriptionAccess sub.nextRenewalAt
  else dropSubscriptionAccess

def stopRenewalDueToBlockKeepingAccess : SubscriptionProg Unit := do
  let row ← Prog.select fun db => db.sub
  match row with
  | none => pure ()
  | some sub => Prog.when (sub.renews = true) (stopRenewalKeepingAccess sub)

def cancelSubscription : SubscriptionProg Unit := do
  let row ← Prog.select fun db => db.sub
  match row with
  | none => Prog.fail (.app
      { status := 404, message := "Subscription not found", code := .notFound })
  | some sub => do
    Prog.ensure sub.renews (.app
      { status := 404, message := "Subscription not active", code := .notFound })
    stopRenewalKeepingAccess sub

/-- `blockUser` of either side. Of the two directions it stops, the other one is another pair. -/
def blockUser (byCreator : Bool) : SubscriptionProg Unit := do
  let existing ← Prog.select fun db =>
    if byCreator then db.blockedByCreator else db.blockedBySubscriber
  Prog.ensure (!existing) (.app
    { status := 409, message := "Already blocked", code := .alreadyBlocked })
  Prog.autocommit .userBlock fun db =>
    if byCreator then { db with blockedByCreator := true }
    else { db with blockedBySubscriber := true }
  stopRenewalDueToBlockKeepingAccess

def unblockUser (byCreator : Bool) : SubscriptionProg Unit := do
  let existing ← Prog.select fun db =>
    if byCreator then db.blockedByCreator else db.blockedBySubscriber
  Prog.ensure existing (.app
    { status := 404, message := "Block not found", code := .blockNotFound })
  Prog.autocommit .userBlock fun db =>
    if byCreator then { db with blockedByCreator := false }
    else { db with blockedBySubscriber := false }

def isBlockedEitherWay (pair : Pair) : SubscriptionProg Bool :=
  Prog.select fun db =>
    pair.subscriberId ≠ pair.creatorId ∧ (db.blockedByCreator ∨ db.blockedBySubscriber)

/-! ### Subscribing -/

def assertNotBlockedEitherWay : SubscriptionProg Unit := do
  let blockedByCreator ← Prog.select fun db => db.blockedByCreator
  Prog.ensure (!blockedByCreator) (.app
    { status := 403, message := "User has blocked you", code := .userBlocked })
  let blockedBySubscriber ← Prog.select fun db => db.blockedBySubscriber
  Prog.ensure (!blockedBySubscriber) (.app
    { status := 403, message := "You have blocked this user", code := .youAreBlocked })

def subscribeTx (pair : Pair) (shares : HostRevenueShares) (period : Period)
    (idempotencyKey : LedgerKey) : SubscriptionTx CreatorSubscription := do
  onMoney (debitForCreatorSubscription pair.subscriberId SUBSCRIPTION_COIN_COST pair.creatorId
    idempotencyKey)
  let created ← SubscriptionRepository.upsertActiveInTx period
  let now ← Tx.select fun db => db.clock
  onMoney (creditCreatorSubscriptionPoints pair now SUBSCRIPTION_COIN_COST shares.subscriptionBp
    idempotencyKey)
  pure created

/-- The part of a subscribe that pays for a new period. -/
def subscribePaid (pair : Pair) (existing : Option CreatorSubscription) :
    SubscriptionProg CreatorSubscription := do
  let now ← Prog.select fun db => db.clock
  let period : Period := { start := now, finish := now + SUBSCRIPTION_PERIOD_MS }
  let idempotencyKey := LedgerKey.subscriptionInitial pair.subscriberId pair.creatorId
    (existing.map fun sub => (pair.subscriptionId, sub.nextRenewalAt))
  let shares ← Prog.select fun db => db.shares
  let row ← Prog.transaction (subscribeTx pair shares period idempotencyKey)
  setSubscriptionAccess row.nextRenewalAt
  enqueueSubscriptionRenewal row.nextRenewalAt
  pure row

def announceResumed (resumed : CreatorSubscription) : SubscriptionProg CreatorSubscription := do
  setSubscriptionAccess resumed.nextRenewalAt
  cancelSubscriptionRenewalJob
  enqueueSubscriptionRenewal resumed.nextRenewalAt
  pure resumed

/-- A cancelled subscription inside its paid period is resumed; if the period has ended by the time
of the update, it is paid for like a new one. -/
def resumeOrSubscribe (pair : Pair) (sub : CreatorSubscription) :
    SubscriptionProg CreatorSubscription := do
  let resumed ← SubscriptionRepository.resumeCancelledWithinPeriod
  match resumed with
  | some row => announceResumed row
  | none => subscribePaid pair (some sub)

def createSubscriptionOnce (pair : Pair) : SubscriptionProg CreatorSubscription := do
  Prog.ensure (pair.subscriberId ≠ pair.creatorId) (.app
    { status := 400, message := "Cannot subscribe to yourself", code := .invalidRequest })
  assertNotBlockedEitherWay
  let creator ← Prog.select fun db => db.money.freezeFlags pair.creatorId
  Prog.ensure creator.isSome (.app
    { status := 404, message := "Creator not found", code := .notFound })
  let existing ← Prog.select fun db => db.sub
  match existing with
  | none => subscribePaid pair none
  | some sub => do
    Prog.ensure (!sub.renews) (.app
      { status := 409, message := "Already subscribed to this creator",
        code := .subscriptionDuplicate })
    let now ← Prog.select fun db => db.clock
    if sub.status = .cancelled ∧ now < sub.nextRenewalAt then resumeOrSubscribe pair sub
    else subscribePaid pair (some sub)

/-- The whole flow is run once more when the ledger key turns out to be taken. -/
def createSubscription (pair : Pair) : SubscriptionProg CreatorSubscription := do
  let outcome ← (createSubscriptionOnce pair).attempt
  match outcome with
  | .ok row => pure row
  | .error .uniqueViolation => createSubscriptionOnce pair
  | .error error => Prog.fail error

/-! ### Renewing -/

def isInsufficientCoins : LedgerError → Bool
  | .app error => error.code = .insufficientCoins
  | _ => false

def afterRenewal (sub : CreatorSubscription) : SubscriptionProg Unit := do
  let nextRenewalAt := sub.nextRenewalAt + SUBSCRIPTION_PERIOD_MS
  grantPeriod { start := sub.nextRenewalAt, finish := nextRenewalAt }
  cancelSubscriptionGraceJob
  setSubscriptionAccess nextRenewalAt
  enqueueSubscriptionRenewal nextRenewalAt

/-- The coins did not suffice at the renewal. -/
def moveToGrace : SubscriptionProg Unit := do
  let now ← Prog.select fun db => db.clock
  let graceUntil := now + SUBSCRIPTION_GRACE_MS
  SubscriptionRepository.updateById fun row =>
    { row with status := .grace, graceUntil := some graceUntil }
  dropSubscriptionAccess
  cancelSubscriptionRenewalJob
  enqueueSubscriptionGrace graceUntil

/-- The body of the try block, and the catch block for INSUFFICIENT_COINS. -/
def tryPaying (body insufficient : SubscriptionProg Unit) : SubscriptionProg Unit := do
  let outcome ← body.attempt
  match outcome with
  | .ok _ => pure ()
  | .error error => if isInsufficientCoins error then insufficient else Prog.fail error

def renew (pair : Pair) (sub : CreatorSubscription) : SubscriptionProg Unit := do
  let shares ← Prog.select fun db => db.shares
  tryPaying
    (do
      Prog.transaction
        (payTx pair shares (.subscriptionRenewal pair.subscriptionId sub.nextRenewalAt))
      afterRenewal sub)
    moveToGrace

def processRenewalJob (pair : Pair) : SubscriptionProg Unit := do
  let row ← Prog.select fun db => db.sub
  match row with
  | none => pure ()
  | some sub =>
    if sub.status = .active then do
      let blocked ← isBlockedEitherWay pair
      if blocked then stopRenewalDueToBlockKeepingAccess else renew pair sub
    else pure ()

/-- After the payment of a recovery: the new period starts now. -/
def afterRecovery : SubscriptionProg Unit := do
  let now ← Prog.select fun db => db.clock
  let nextRenewalAt := now + SUBSCRIPTION_PERIOD_MS
  grantPeriod { start := now, finish := nextRenewalAt }
  setSubscriptionAccess nextRenewalAt
  enqueueSubscriptionRenewal nextRenewalAt
  cancelSubscriptionGraceJob

def expire : SubscriptionProg Unit := do
  SubscriptionRepository.updateById fun row => { row with status := .expired, graceUntil := none }
  dropSubscriptionAccess
  cancelSubscriptionGraceJob

def recover (pair : Pair) (graceUntil : Time) : SubscriptionProg Unit := do
  let shares ← Prog.select fun db => db.shares
  tryPaying
    (do
      Prog.transaction (payTx pair shares (.subscriptionGrace pair.subscriptionId graceUntil))
      afterRecovery)
    expire

def processGraceJob (pair : Pair) : SubscriptionProg Unit := do
  let row ← Prog.select fun db => db.sub
  match row with
  | none => pure ()
  | some sub =>
    if sub.status = .grace then
      match sub.graceUntil with
      | none => pure ()
      | some graceUntil => do
        let now ← Prog.select fun db => db.clock
        if now < graceUntil then pure ()
        else do
          let blocked ← isBlockedEitherWay pair
          if blocked then stopRenewalDueToBlockKeepingAccess else recover pair graceUntil
    else pure ()

/-! ### Requests -/

inductive Request where
  | createSubscription
  | cancelSubscription
  | blockUser (byCreator : Bool)
  | unblockUser (byCreator : Bool)
  | processRenewalJob
  | processGraceJob
  /-- Time passes. -/
  | wait (duration : Nat)
  /-- Whatever the other services do to the money tables. -/
  | elsewhere (change : MoneyDb → MoneyDb)
  /-- A queue takes, completes or fails its job, or runs it again. -/
  | queueMove (queue : Queue) (job : Option Job)
  deriving Inhabited

/-- The committed debits for the pair's subscription. -/
def charges (pair : Pair) (money : MoneyDb) : List CoinLedgerEntry :=
  money.coinLedger.filter fun entry =>
    entry.wallet = ⟨pair.subscriberId, .coin⟩ ∧ entry.txType = .creatorSubscription ∧
      entry.counterpartyId = some pair.creatorId

/-- Nobody else writes a CREATOR_SUBSCRIPTION row of the pair. -/
def elsewhere (pair : Pair) (change : MoneyDb → MoneyDb) : SubscriptionProg Unit :=
  Prog.autocommit .settings fun db =>
    if charges pair (change db.money) = charges pair db.money then db.setMoney (change db.money)
    else db

/-- The jobs as functions that anyone may call at any time. -/
def handler (pair : Pair) : Request → SubscriptionProg Unit
  | .createSubscription => (createSubscription pair).forget
  | .cancelSubscription => cancelSubscription
  | .blockUser byCreator => blockUser byCreator
  | .unblockUser byCreator => unblockUser byCreator
  | .processRenewalJob => processRenewalJob pair
  | .processGraceJob => processGraceJob pair
  | .wait duration => Prog.autocommit .settings fun db => { db with clock := db.clock + duration }
  | .elsewhere change => elsewhere pair change
  | .queueMove queue job => Prog.autocommit .job fun db => db.setJob queue job

/-! ### A sample pair -/

def samplePair : Pair := { subscriberId := 1, creatorId := 2, subscriptionId := 3 }

/-- Nobody has subscribed yet; the subscriber has topped up. -/
def funded (coins : Int) : SubscriptionDb where
  clock := 0
  money :=
    { MoneyDb.empty with
      coinLedger :=
        [{ wallet := ⟨1, .coin⟩, direction := .credit, txType := .topup, amount := coins,
           balanceAfter := coins, idempotencyKey := .other 0 }] }
  shares := DEFAULT_HOST_REVENUE_SHARES
  blockedByCreator := false
  blockedBySubscriber := false
  sub := none
  access := none
  job := fun _ => none
  granted := []

end OlNode.Subscriptions
