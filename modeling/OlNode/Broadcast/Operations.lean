import OlNode.Schema

/-!
# Notification broadcasts

A campaign is planned once: its recipients are cut into batches, which are kept in a Redis hash
until a batch job has sent its messages and claims the batch. The job that claims the last one
reports the campaign and deletes what is left of it; a sweep enqueues batches again that are still
pending after a while. Redis runs a transaction or a script as one statement.

Jobs are delivered at least once: a batch job that was enqueued may run at any time and again, so
that a failed one which the sweep retries is one more run. The recipients of a batch are sent to in
any order. Expiry of the keys is left out.
-/
namespace OlNode.Broadcast

open ReadCommitted

def BROADCAST_BATCH_SIZE : Nat := 200

def BROADCAST_STALE_MS : Nat := 10 * 60000

structure Batch where
  batchIndex : Nat
  userIds : List UserId
  deriving DecidableEq

/-- The hash `notify:broadcast:state`. HINCRBY creates a hash without `total` and `createdAt`. -/
structure CampaignState where
  total : Option Nat := none
  remaining : Int := 0
  sent : Int := 0
  createdAt : Option Time := none

/-- `nobody` is the report of a campaign without recipients. A claim comes with the number of
messages the run has created and what the script returns. -/
inductive BroadcastEvent where
  | planned
  | nobody
  | claimed (batchIndex : Nat) (sent : Nat) (remaining : Int)
  | reported (recipientCount sent : Int)
  deriving DecidableEq

/-- `messages` are the recipients of the messages with the campaign's client message ids. `jobs` are
the batch jobs that were enqueued, `reporting` says that the last batch was claimed by a run that has
not reported yet, and `history` what happened, oldest first. -/
structure BroadcastDb where
  now : Time
  state : Option CampaignState := none
  pending : List Batch := []
  active : Bool := false
  jobs : List Batch := []
  messages : List UserId := []
  reporting : Bool := false
  history : List BroadcastEvent := []

inductive Lock where
  | clock | redis | queue | audit
  | message (userId : UserId)
  deriving DecidableEq

inductive BroadcastError where
  | unavailable
  deriving DecidableEq

abbrev BroadcastTx := Tx BroadcastDb Lock BroadcastError
abbrev BroadcastProg := Prog BroadcastDb Lock BroadcastError

/-! ### Statements -/

namespace BroadcastDb

variable (db : BroadcastDb)

def record (e : BroadcastEvent) : BroadcastDb := { db with history := db.history ++ [e] }

/-- A job id that exists is not added again. -/
def addJob (batch : Batch) : BroadcastDb :=
  if db.jobs.any (·.batchIndex = batch.batchIndex) then db
  else { db with jobs := db.jobs ++ [batch] }

/-- The MULTI of the planner. -/
def plan (total : Nat) (batches : List Batch) : BroadcastDb :=
  { db with
    state := some { total := some total, remaining := batches.length, sent := 0
                    createdAt := some db.now }
    pending := batches
    active := true
    history := db.history ++ [.planned] }

def addMessage (userId : UserId) : BroadcastDb :=
  { db with messages := if userId ∈ db.messages then db.messages else db.messages ++ [userId] }

/-- What `CLAIM_BATCH_LUA` returns for a batch that is still pending. -/
def claimResult (batchIndex : Nat) : Option Int :=
  if db.pending.any (·.batchIndex = batchIndex)
  then some ((db.state.getD {}).remaining - 1) else none

/-- HDEL and the two HINCRBY of `CLAIM_BATCH_LUA`. -/
def claim (batchIndex : Nat) (sent : Nat) (remaining : Int) : BroadcastDb :=
  { db with
    pending := db.pending.filter (·.batchIndex ≠ batchIndex)
    state := some { db.state.getD {} with
      sent := (db.state.getD {}).sent + sent
      remaining := (db.state.getD {}).remaining - 1 }
    reporting := db.reporting || decide (remaining = 0)
    history := db.history ++ [.claimed batchIndex sent remaining] }

def report (recipientCount sent : Int) : BroadcastDb :=
  { db with reporting := false, history := db.history ++ [.reported recipientCount sent] }

/-- The MULTI that deletes a campaign that is complete. -/
def cleanup : BroadcastDb := { db with state := none, pending := [], active := false }

/-- The MULTI of the sweep for a campaign without state. -/
def drop : BroadcastDb := { db with pending := [], active := false }

end BroadcastDb

/-! ### Planner -/

/-- `userIds.slice(i, i + BROADCAST_BATCH_SIZE)` for each multiple `i` of the size. -/
def batchesOf (userIds : List UserId) : List Batch :=
  (List.range ((userIds.length + BROADCAST_BATCH_SIZE - 1) / BROADCAST_BATCH_SIZE)).map fun index =>
    ⟨index, (userIds.drop (index * BROADCAST_BATCH_SIZE)).take BROADCAST_BATCH_SIZE⟩

def enqueueAll : List Batch → BroadcastProg Unit
  | [] => pure ()
  | batch :: rest => do
    Prog.autocommit .queue (·.addJob batch)
    enqueueAll rest

def planNew (userIds : List UserId) : BroadcastProg Unit :=
  if batchesOf userIds = [] then Prog.autocommit .audit (·.record .nobody)
  else do
    Prog.autocommit .redis (·.plan userIds.length (batchesOf userIds))
    enqueueAll (batchesOf userIds)

def replan : BroadcastProg Unit := do
  let pending ← Prog.select (·.pending)
  enqueueAll pending

def processPlatformNotificationBroadcastJob (userIds : List UserId) : BroadcastProg Unit := do
  let planned ← Prog.select (·.state.isSome)
  if planned then replan else planNew userIds

/-! ### Batches -/

/-- `sendPlatformMessage` for a user who exists: whether the message was created. -/
def createMessage (userId : UserId) : BroadcastTx Bool := do
  Tx.lockRow (.message userId)
  let present ← Tx.select (·.messages.contains userId)
  Tx.when (present = false) (Tx.update (.message userId) (·.addMessage userId))
  pure (!present)

/-- A message to a user who is missing is skipped. -/
def sendPlatformMessage (known : UserId → Bool) (userId : UserId) : BroadcastProg Bool :=
  if known userId then Prog.transaction (createMessage userId) else pure false

def sendAll (known : UserId → Bool) : List UserId → BroadcastProg Nat
  | [] => pure 0
  | userId :: rest => do
    let created ← sendPlatformMessage known userId
    let sent ← sendAll known rest
    pure (created.toNat + sent)

def claimFound (batchIndex sent : Nat) : Option Int → BroadcastTx Int
  | none => pure (-1)
  | some remaining => do
    Tx.update .redis (·.claim batchIndex sent remaining)
    pure remaining

def claimBatch (batchIndex sent : Nat) : BroadcastTx Int := do
  Tx.lockRow .redis
  let result ← Tx.select (·.claimResult batchIndex)
  claimFound batchIndex sent result

def complete : BroadcastProg Unit := do
  let state ← Prog.select (·.state)
  let counts := state.getD {}
  Prog.autocommit .audit (·.report (counts.total.getD 0) counts.sent)
  Prog.autocommit .redis (·.cleanup)

def completeIf (remaining : Int) : BroadcastProg Unit :=
  if remaining = 0 then complete else pure ()

def sendAndClaim (known : UserId → Bool) (batchIndex : Nat) (order : List UserId) :
    BroadcastProg Unit := do
  let sent ← sendAll known order
  let remaining ← Prog.transaction (claimBatch batchIndex sent)
  completeIf remaining

def runJob (known : UserId → Bool) (order : List UserId) : Option Batch → BroadcastProg Unit
  | none => pure ()
  | some batch =>
    if order.Perm batch.userIds then sendAndClaim known batch.batchIndex order else pure ()

/-- A run of a batch job, with the order in which its messages are sent. -/
def processPlatformNotificationBroadcastBatchJob (known : UserId → Bool) (batchIndex : Nat)
    (order : List UserId) : BroadcastProg Unit := do
  let job ← Prog.select (·.jobs.find? (·.batchIndex = batchIndex))
  runJob known order job

/-! ### Sweep -/

def requeue : List Batch → BroadcastProg Unit
  | [] => pure ()
  | batch :: rest => do
    let existing ← Prog.select (·.jobs.any (·.batchIndex = batch.batchIndex))
    if existing then requeue rest
    else do
      Prog.autocommit .queue (·.addJob batch)
      requeue rest

def sweepPending : BroadcastProg Unit := do
  let pending ← Prog.select (·.pending)
  requeue pending

def sweepStale (createdAt now : Time) : BroadcastProg Unit :=
  if now - createdAt < BROADCAST_STALE_MS then pure () else sweepPending

def sweepState : Option Time → BroadcastProg Unit
  | none => Prog.autocommit .redis (·.drop)
  | some createdAt => do
    let now ← Prog.select (·.now)
    sweepStale createdAt now

def sweepCampaign : BroadcastProg Unit := do
  let state ← Prog.select (·.state)
  sweepState (state.bind (·.createdAt))

def sweepStalePlatformBroadcasts : BroadcastProg Unit := do
  let active ← Prog.select (·.active)
  if active then sweepCampaign else pure ()

inductive Request where
  | plan
  | batch (batchIndex : Nat) (order : List UserId)
  | sweep
  | tick (elapsed : Time)

def handler (known : UserId → Bool) (userIds : List UserId) : Request → BroadcastProg Unit
  | .plan => processPlatformNotificationBroadcastJob userIds
  | .batch batchIndex order => processPlatformNotificationBroadcastBatchJob known batchIndex order
  | .sweep => sweepStalePlatformBroadcasts
  | .tick elapsed => Prog.autocommit .clock fun db => { db with now := db.now + elapsed }

end OlNode.Broadcast
