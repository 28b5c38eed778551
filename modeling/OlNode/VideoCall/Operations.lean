import OlNode.InternalLedger.Requests

/-!
# Video calls billed by the client's ticks

`videoCallService.tick` and `end` beside the internal ledger, which bills the same sessions. A tick
reads the session before its transaction, books the minute under keys of its own, and raises the
session's counters in a statement of its own after the commit.
-/
namespace OlNode.VideoCalls

open ReadCommitted InternalLedger

def sessionNotFound : LedgerError := appError 404 "Session not found" .notFound

def forbidden : LedgerError := appError 403 "Forbidden" .forbidden

def callNotActive : LedgerError := appError 409 "Call is not active" .callNotActive

/-- What `assertCoinDebitAllowed` throws for these flags, if anything. -/
def coinDebitRefusal : Option WalletFreezeFlags → Option LedgerError
  | none => some (appError 404 "User not found" .userNotFound)
  | some flags =>
    if flags.personalCoinsFrozen then
      some (appError 403 "Personal coins are frozen" .personalCoinsFrozen)
    else none

/-- `endSession`: one UPDATE by id. The room is deleted best-effort afterwards. -/
def endInternal (sessionId : Nat) (status : CallStatus) : LedgerProg Unit :=
  Prog.autocommit (.session sessionId) fun db =>
    MoneyDb.modifySession db sessionId fun session => { session with status }

def countMinute (coinsDeducted pointsAwarded : Int) (session : VideoCallSession) :
    VideoCallSession :=
  { session with minsCharged := session.minsCharged + 1,
                 coinsDeducted := session.coinsDeducted + coinsDeducted,
                 pointsAwarded := session.pointsAwarded + pointsAwarded }

def incrementMinute (sessionId : Nat) (coinsDeducted pointsAwarded : Int) : LedgerProg Unit :=
  Prog.autocommit (.session sessionId) fun db =>
    MoneyDb.modifySession db sessionId (countMinute coinsDeducted pointsAwarded)

def tickCoinEntry (sessionId : Nat) (session : VideoCallSession) (minuteNum : Nat)
    (callerDebit coinBalance : Int) : CoinLedgerEntry :=
  { wallet := ⟨session.callerId, .coin⟩, direction := .debit, txType := .videoCall,
    amount := callerDebit, balanceAfter := coinBalance - callerDebit,
    idempotencyKey := .videoCallCoin sessionId minuteNum, refId := some (.session sessionId),
    counterpartyId := some session.creatorId }

def tickPointEntry (sessionId : Nat) (session : VideoCallSession) (minuteNum : Nat)
    (pointBalance : Int) : PointLedgerEntry :=
  { wallet := ⟨session.creatorId, .point⟩, direction := .credit, txType := .videoCall,
    amount := session.pricePerMin, balanceAfter := pointBalance + session.pricePerMin,
    idempotencyKey := .videoCallPoint sessionId minuteNum, refId := some (.session sessionId),
    counterpartyId := some session.callerId }

/-- The money of one tick, for the session as it was read. -/
def tickTx (env : Environment) (sessionId : Nat) (session : VideoCallSession) (minuteNum : Nat)
    (callerDebit : Int) : LedgerTx Unit := do
  lockWalletsInOrder [⟨session.callerId, .coin⟩, ⟨session.creatorId, .point⟩]
  let coinBalance ← latestCoinBalance ⟨session.callerId, .coin⟩
  Tx.ensure (callerDebit ≤ coinBalance) insufficientCoins
  let _ ← CoinLedgerRepository.insert
    (tickCoinEntry sessionId session minuteNum callerDebit coinBalance)
  let _ ← applyCredit session.callerId .wealth callerDebit
  let pointBalance ← latestPointBalance ⟨session.creatorId, .point⟩
  let ptEntry ← PointLedgerRepository.insert
    (tickPointEntry sessionId session minuteNum pointBalance)
  let _ ← applyCommission env.now session.creatorId ptEntry.idempotencyKey session.pricePerMin
    .videoCall
  let _ ← applyCredit session.creatorId .livestream session.pricePerMin
  pure ()

structure TickResult where
  canContinue : Bool
  coinsRemaining : Int

/-- The counters, and the end of a call whose caller cannot pay the next minute. The balance is
read after its cache entry was dropped. -/
def afterTick (sessionId : Nat) (session : VideoCallSession) (callerDebit : Int) :
    LedgerProg TickResult := do
  incrementMinute sessionId callerDebit session.pricePerMin
  let remainingBalance ← Prog.select fun db =>
    latestBalance db.coinLedger ⟨session.callerId, .coin⟩
  if callerDebit ≤ remainingBalance then pure ⟨true, remainingBalance⟩
  else do
    endInternal sessionId .insufficientCoins
    pure ⟨false, remainingBalance⟩

/-- A tick of a session that was read as ACTIVE. -/
def tickActive (env : Environment) (sessionId : Nat) (session : VideoCallSession) :
    LedgerProg TickResult := do
  let callerDebit := callerCoinDebitForCall session.pricePerMin env.shares.videoCallHostShareBp
  let refusal ← Prog.select fun db => coinDebitRefusal (db.freezeFlags session.callerId)
  match refusal with
  | some error => do
    -- only frozen coins end the call
    Prog.when (error = appError 403 "Personal coins are frozen" .personalCoinsFrozen)
      (endInternal sessionId .ended)
    Prog.fail error
  | none => do
    Prog.transaction (tickTx env sessionId session (session.minsCharged + 1) callerDebit)
    afterTick sessionId session callerDebit

def tick (env : Environment) (sessionId : Nat) (callerId : UserId) : LedgerProg TickResult := do
  let session ← Prog.select fun db => db.session sessionId
  match session with
  | none => Prog.fail sessionNotFound
  | some session => do
    Prog.ensure (session.callerId = callerId) forbidden
    Prog.ensure (session.status = .active) callNotActive
    tickActive env sessionId session

/-- `end`; a call that is not active any more is left as it is. -/
def endCall (sessionId : Nat) (requesterId : UserId) : LedgerProg CallStatus := do
  let session ← Prog.select fun db => db.session sessionId
  match session with
  | none => Prog.fail sessionNotFound
  | some session => do
    Prog.ensure (session.callerId = requesterId ∨ session.creatorId = requesterId) forbidden
    if session.status = .active then do
      endInternal sessionId .ended
      pure .ended
    else pure session.status

inductive Request where
  | tick (env : Environment) (sessionId : Nat) (callerId : UserId)
  | endCall (sessionId : Nat) (requesterId : UserId)
  /-- Everything the internal ledger serves, `callAccept` and `callMinute` among it. -/
  | ledger (call : Call)

def handler : Request → LedgerProg Unit
  | .tick env sessionId callerId => (tick env sessionId callerId).forget
  | .endCall sessionId requesterId => (endCall sessionId requesterId).forget
  | .ledger call => InternalLedger.handler call

abbrev VideoConfig := Config Request MoneyDb Lock LedgerError

end OlNode.VideoCalls
