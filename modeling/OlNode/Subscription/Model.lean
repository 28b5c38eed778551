import OlNode.Ledger.Wallets
import OlNode.ReadCommitted.Interleaving

/-!
# Creator subscriptions

`subscription.service`, `subscription.repository`, `subscription.queue` and
`debitForCreatorSubscription`, for one subscriber and one creator: their row (the pair is unique),
its access key in Redis, its job in each of the two queues, and the wallets. `Date.now()` is a read
of the clock. A Redis or BullMQ call is a statement that commits on its own.
-/
namespace OlNode.Subscriptions

open ReadCommitted

inductive CreatorSubscriptionStatus where
  | active | grace | cancelled | expired
  deriving DecidableEq

structure CreatorSubscription where
  status : CreatorSubscriptionStatus
  nextRenewalAt : Time
  graceUntil : Option Time

/-- The queues; the job of a subscription has the same id each time it is added. -/
inductive Queue where
  | renewal | grace
  deriving DecidableEq

/-- `removeOnComplete` takes a completed job out of the queue; a failed one stays. -/
inductive JobState where
  | delayed | processed | failed
  deriving DecidableEq

structure Job where
  dueAt : Time
  state : JobState

structure Period where
  start : Time
  finish : Time

/-- Who subscribes to whom, and the id of their row. -/
structure Pair where
  subscriberId : UserId
  creatorId : UserId
  subscriptionId : Nat

structure SubscriptionDb where
  clock : Time
  money : MoneyDb
  shares : HostRevenueShares
  /-- The creator has blocked the subscriber, and the other way round. -/
  blockedByCreator : Bool
  blockedBySubscriber : Bool
  sub : Option CreatorSubscription
  /-- When the access key expires. -/
  access : Option Time
  job : Queue → Option Job
  /-- The periods granted against payment so far. No code reads this; it is what the writes of a
  paid `nextRenewalAt` amount to. -/
  granted : List Period

abbrev SubscriptionTx := Tx SubscriptionDb Lock LedgerError
abbrev SubscriptionProg := Prog SubscriptionDb Lock LedgerError

def SUBSCRIPTION_COIN_COST : Int := 50000
def SUBSCRIPTION_PERIOD_MS : Nat := 30 * 24 * 60 * 60 * 1000
def SUBSCRIPTION_GRACE_MS : Nat := 3 * 24 * 60 * 60 * 1000

namespace SubscriptionDb

def setMoney (db : SubscriptionDb) (money : MoneyDb) : SubscriptionDb := { db with money }

def setJob (db : SubscriptionDb) (queue : Queue) (job : Option Job) : SubscriptionDb :=
  { db with job := Function.update db.job queue job }

def grant (db : SubscriptionDb) (period : Period) : SubscriptionDb :=
  { db with granted := db.granted ++ [period] }

/-- `prisma.creatorSubscription.update` on the columns that `data` changes. -/
def updateRow (db : SubscriptionDb) (data : CreatorSubscription → CreatorSubscription) :
    SubscriptionDb :=
  { db with sub := db.sub.map data }

end SubscriptionDb

/-- The wallet services inside a transaction of this service. -/
def onMoney {α : Type} (x : LedgerTx α) : SubscriptionTx α :=
  x.zoom SubscriptionDb.money fun money db => db.setMoney money

/-! ### Queues -/

/-- Adding a job whose id is in the queue, in whatever state, does nothing. -/
def enqueue (queue : Queue) (runAt : Time) : SubscriptionProg Unit := do
  let now ← Prog.select fun db => db.clock
  Prog.autocommit .job fun db =>
    if (db.job queue).isSome then db
    else db.setJob queue (some { dueAt := now + (runAt - now), state := .delayed })

def jobLocked : LedgerError :=
  .app { status := 500, code := .internalError,
         message := "Job could not be removed because it is locked by another worker" }

/-- `remove()`; it throws on a job that is being processed. -/
def removeJob (queue : Queue) : SubscriptionTx Unit := do
  Tx.lockRow .job
  let job ← Tx.select fun db => db.job queue
  Tx.ensure (job.all fun j => j.state ≠ .processed) jobLocked
  Tx.update .job fun db => db.setJob queue none

def cancelJob (queue : Queue) : SubscriptionProg Unit := do
  let job ← Prog.select fun db => db.job queue
  Prog.when (job.isSome = true) (Prog.transaction (removeJob queue))

def enqueueSubscriptionRenewal : Time → SubscriptionProg Unit := enqueue .renewal
def enqueueSubscriptionGrace : Time → SubscriptionProg Unit := enqueue .grace
def cancelSubscriptionRenewalJob : SubscriptionProg Unit := cancelJob .renewal
def cancelSubscriptionGraceJob : SubscriptionProg Unit := cancelJob .grace

/-! ### Access key -/

/-- The subtraction stops at zero, and a ttl is at least one second. -/
def accessTtlSeconds (nextRenewalAt now : Time) : Nat := max 1 ((nextRenewalAt - now) / 1000)

def setSubscriptionAccess (nextRenewalAt : Time) : SubscriptionProg Unit := do
  let now ← Prog.select fun db => db.clock
  Prog.autocommit .subscriptionAccess fun db =>
    { db with access := some (db.clock + 1000 * accessTtlSeconds nextRenewalAt now) }

def dropSubscriptionAccess : SubscriptionProg Unit :=
  Prog.autocommit .subscriptionAccess fun db => { db with access := none }

/-! ### The row -/

namespace SubscriptionRepository

def updateById (data : CreatorSubscription → CreatorSubscription) : SubscriptionProg Unit :=
  Prog.autocommit .subscription fun db => db.updateRow data

/-- CANCELLED to ACTIVE if the period is still running; the row as it is read afterwards. -/
def resumeCancelledWithinPeriod : SubscriptionProg (Option CreatorSubscription) := do
  let now ← Prog.select fun db => db.clock
  let count ← Prog.transaction do
    Tx.lockRow .subscription
    let row ← Tx.select fun db => db.sub
    if row.any fun r => r.status = .cancelled ∧ now < r.nextRenewalAt then
      Tx.update .subscription fun db =>
        db.updateRow fun r => { r with status := .active, graceUntil := none }
      pure 1
    else pure 0
  if count = 0 then pure none else Prog.select fun db => db.sub

/-- The upsert of a paid subscription: the period up to `nextRenewalAt` is granted. -/
def upsertActiveInTx (period : Period) : SubscriptionTx CreatorSubscription := do
  let row : CreatorSubscription :=
    { status := .active, nextRenewalAt := period.finish, graceUntil := none }
  Tx.update .subscription fun db => { db.grant period with sub := some row }
  pure row

end SubscriptionRepository

/-- The job writes the row of a period that was paid for. -/
def grantPeriod (period : Period) : SubscriptionProg Unit :=
  Prog.autocommit .subscription fun db => (db.grant period).updateRow fun _ =>
    { status := .active, nextRenewalAt := period.finish, graceUntil := none }

end OlNode.Subscriptions
