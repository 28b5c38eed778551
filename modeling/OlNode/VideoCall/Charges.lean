import OlNode.InternalLedger.Calls
import OlNode.Ledger.Coins
import OlNode.ReadCommitted.Phases
import OlNode.VideoCall.Operations

/-!
# What the two billing paths write for a call session

A session's minutes are booked under two sets of keys: the internal ledger's, together with the
session's counters and under its lock, and the ticks', before the counters and without the lock.
Between its charge and its counter update a tick owes the session what it has charged.
-/
namespace OlNode.VideoCalls

open ReadCommitted InternalLedger

/-- The session whose minute a tick's coin row charges. -/
def tickCoinMinute : LedgerKey → Option Nat
  | .videoCallCoin sessionId _ => some sessionId
  | _ => none

def tickPointMinute : LedgerKey → Option Nat
  | .videoCallPoint sessionId _ => some sessionId
  | _ => none

structure TickRows where
  coins : List CoinLedgerEntry
  points : List PointLedgerEntry

def tickRows (db : MoneyDb) (sessionId : Nat) : TickRows where
  coins := db.coinLedger.filter fun e => tickCoinMinute e.idempotencyKey = some sessionId
  points := db.pointLedger.filter fun e => tickPointMinute e.idempotencyKey = some sessionId

def NoTick (key : LedgerKey) : Prop := tickCoinMinute key = none ∧ tickPointMinute key = none

def minuteOf : LedgerKey → Nat
  | .callMinuteCoins _ minute => minute
  | .callMinutePoints _ minute => minute
  | .videoCallCoin _ minute => minute
  | .videoCallPoint _ minute => minute
  | _ => 0

/-- The caller's debits for the session, by either path. -/
def charges (sessionId : Nat) (db : MoneyDb) : List CoinLedgerEntry :=
  (callRows db sessionId).coins ++ (tickRows db sessionId).coins

/-- The host's credits for the session, by either path. -/
def credits (sessionId : Nat) (db : MoneyDb) : List PointLedgerEntry :=
  (callRows db sessionId).points ++ (tickRows db sessionId).points

def minutes (sessionId : Nat) (db : MoneyDb) : List Nat :=
  (charges sessionId db).map fun e => minuteOf e.idempotencyKey

theorem tickRows_addCoin (db : MoneyDb) (e : CoinLedgerEntry) (sessionId : Nat) :
    tickRows (db.addCoin e) sessionId =
      if tickCoinMinute e.idempotencyKey = some sessionId then
        { tickRows db sessionId with coins := (tickRows db sessionId).coins ++ [e] }
      else tickRows db sessionId := by
  split
  next own => simp [tickRows, MoneyDb.addCoin, own]
  next other => simp [tickRows, MoneyDb.addCoin, other]

theorem tickRows_addPoint (db : MoneyDb) (e : PointLedgerEntry) (sessionId : Nat) :
    tickRows (db.addPoint e) sessionId =
      if tickPointMinute e.idempotencyKey = some sessionId then
        { tickRows db sessionId with points := (tickRows db sessionId).points ++ [e] }
      else tickRows db sessionId := by
  split
  next own => simp [tickRows, MoneyDb.addPoint, own]
  next other => simp [tickRows, MoneyDb.addPoint, other]

/-! ### Everything but the ticks -/

/-- Writes that leave the ticks' rows alone. -/
def besideTicks : LedgerFootprint where
  write f := ∀ db, tickRows (f db) = tickRows db

theorem ticksPlainFrame : PlainFrame besideTicks :=
  ⟨fun _ _ same => .inl same.symm, fun _ _ => trivial⟩

theorem ticksWalletFrame : WalletFrame besideTicks NoTick where
  toPlainFrame := ticksPlainFrame
  level := fun _ _ => trivial
  setLevel := fun _ _ _ _ => rfl
  commission := fun _ => trivial
  mark := fun _ _ => rfl
  gift := fun _ => trivial
  addGift := fun _ _ => rfl
  wallet := fun _ => trivial
  coinKey := fun _ _ => trivial
  pointKey := fun _ _ => trivial
  addCoin := fun e noTick db => by
    funext id
    rw [tickRows_addCoin, noTick.1]
    simp
  addPoint := fun e noTick db => by
    funext id
    rw [tickRows_addPoint, noTick.2]
    simp
  commissionKey := fun _ => ⟨rfl, rfl⟩

theorem ticksPoolFrame : PoolFrame besideTicks (fun _ => True) where
  toPlainFrame := ticksPlainFrame
  stored := fun _ _ _ _ => trivial
  pool := fun _ => trivial
  ensurePool := fun _ _ _ => rfl
  setPool := fun _ _ _ => rfl
  audit := fun _ => trivial
  addAudit := fun _ _ _ _ => rfl
  sent := fun _ s s' same => by rw [show s = s' from same]
  floor := trivial

theorem ticksShadowFrame : ShadowFrame besideTicks where
  toPlainFrame := ticksPlainFrame
  same_eq := fun _ _ same => same.symm
  pool := fun _ => trivial
  ensurePool := fun _ _ => rfl
  setPool := fun _ _ _ => rfl
  audit := fun _ => trivial
  addAudit := fun _ _ _ _ => rfl
  cursor := trivial
  setCursor := fun _ _ => rfl

/-- No other service writes under the key of a call minute, and a call that was closed stays so.
Store purchases, rare ids and top-ups write the key the client sent, which may be any string. -/
def Beside : Event Request → Prop
  | .start (.ledger ⟨_, .wallet ops⟩) => ∀ op ∈ ops, NoMinute op.key ∧ NoTick op.key
  | .start (.ledger ⟨_, .closeSession _ status⟩) => status ≠ .ringing ∧ status ≠ .active
  | _ => True

theorem ledger_besideTicks {call : Call} (beside : Beside (.start (.ledger call))) :
    (InternalLedger.handler call).Touches besideTicks := by
  obtain ⟨env, request⟩ := call
  have frame := ticksWalletFrame
  have tiers : TierFrame besideTicks fun _ => True :=
    ⟨ticksPlainFrame, fun _ _ _ _ => trivial, fun _ => trivial, fun _ _ _ => rfl,
      fun _ _ _ => rfl⟩
  have sessions : SessionFrame besideTicks :=
    ⟨ticksPlainFrame, fun _ => trivial, fun _ _ => rfl⟩
  cases request with
  | wallet ops =>
    exact Prog.touches_transaction (walletTx_touches frame _ fun op member => (beside op member).2)
  | giftSend input => exact (giftSend_touches frame env input ⟨rfl, rfl⟩ ⟨rfl, rfl⟩).forget
  | luckyGiftSend input =>
    refine (luckyGiftSend_touches frame ticksPoolFrame ?_ (fun _ _ => trivial) ⟨rfl, rfl⟩
      ⟨rfl, rfl⟩ ⟨rfl, rfl⟩).forget
    exact fun _ _ s s' same => by rw [show s = s' from same]
  | callAccept input =>
    exact (callAccept_touches sessions frame (fun _ _ => ⟨rfl, rfl⟩) (fun _ _ => ⟨rfl, rfl⟩) env
      input).forget
  | callMinute input =>
    exact (Prog.touches_transaction (callMinuteTx_touches sessions frame (fun _ _ => ⟨rfl, rfl⟩)
      (fun _ _ => ⟨rfl, rfl⟩) env input)).forget
  | globalMessage input => exact (globalMessage_touches frame input ⟨rfl, rfl⟩).forget
  | createSession session => exact createSession_touches sessions session
  | closeSession sessionId status => exact Prog.touches_autocommit trivial fun _ => rfl
  | recordSeedDecision tierId choice amount =>
    exact (recordSeedDecision_touches tiers tierId choice amount trivial (fun _ => rfl)
      fun _ _ => rfl).forget
  | createConfigVersion tierId patch econValid =>
    exact (createConfigVersion_touches tiers tierId econValid fun _ _ _ _ => trivial).forget
  | setMode tierId mode isAllowed => exact setMode_touches tiers tierId mode isAllowed
  | shadowWorkerTick rolls => exact runShadowWorkerTick_touches ticksShadowFrame _ _ _
  | changeSettings settings => exact Prog.touches_autocommit trivial fun _ => rfl

/-! ### The ticks -/

/-- A tick has charged so much for a session and not counted it yet. -/
structure Debt where
  sessionId : Nat
  coins : Int
  points : Int

/-- The charge of a tick: a row in each ledger, and nothing else of any session. -/
def Charges (minute : Nat) (debt : Debt) (w : MoneyDb → MoneyDb) : Prop :=
  ∃ (coin : CoinLedgerEntry) (point : PointLedgerEntry),
    coin.idempotencyKey = .videoCallCoin debt.sessionId minute ∧ coin.amount = debt.coins ∧
    point.idempotencyKey = .videoCallPoint debt.sessionId minute ∧ point.amount = debt.points ∧
    ∀ db, callRows (w db) = callRows db ∧
      tickRows (w db) = Function.update (tickRows db) debt.sessionId
        ⟨(tickRows db debt.sessionId).coins ++ [coin],
          (tickRows db debt.sessionId).points ++ [point]⟩

def counts (debt : Debt) (db : MoneyDb) : MoneyDb :=
  MoneyDb.modifySession db debt.sessionId (countMinute debt.coins debt.points)

def Ends (sessionId : Nat) (w : MoneyDb → MoneyDb) : Prop :=
  ∃ status, status ≠ .ringing ∧ status ≠ .active ∧
    w = fun db => MoneyDb.modifySession db sessionId fun session => { session with status }

/-- What a commit of the request does to what its thread owes. -/
def Request.Settles (request : Request) (owed : Option Debt) (w : MoneyDb → MoneyDb)
    (owed' : Option Debt) : Prop :=
  match request with
  | .tick _ sessionId _ =>
    (∃ minute debt, debt.sessionId = sessionId ∧ owed = none ∧ owed' = some debt ∧
      Charges minute debt w) ∨
    (∃ debt, debt.sessionId = sessionId ∧ owed = some debt ∧ owed' = none ∧ w = counts debt) ∨
    (owed = none ∧ owed' = none ∧ Ends sessionId w)
  | .endCall sessionId _ => owed = none ∧ owed' = none ∧ Ends sessionId w
  | .ledger _ => owed = none ∧ owed' = none ∧ ∀ db, tickRows (w db) = tickRows db

/-- A tick that owes something cannot end before its counter update. -/
def debts : Phases Request MoneyDb (Option Debt) where
  first _ := none
  next := Request.Settles
  mayEnd owed := owed = none
  gone := none
  gone_ends := rfl

/-- Writes that leave all rows of all sessions alone. -/
def besideSessions : LedgerFootprint where
  write f := ∀ db, callRows (f db) = callRows db ∧ tickRows (f db) = tickRows db

theorem sessionsWalletFrame : WalletFrame besideSessions (fun key => NoMinute key ∧ NoTick key) where
  same := fun _ _ same => .inl same.symm
  errors := fun _ _ => trivial
  level := fun _ _ => trivial
  setLevel := fun _ _ _ _ => ⟨rfl, rfl⟩
  commission := fun _ => trivial
  mark := fun _ _ => ⟨rfl, rfl⟩
  gift := fun _ => trivial
  addGift := fun _ _ => ⟨rfl, rfl⟩
  wallet := fun _ => trivial
  coinKey := fun _ _ => trivial
  pointKey := fun _ _ => trivial
  addCoin := fun e beside db =>
    ⟨funext (callWalletFrame.addCoin e beside.1 db), ticksWalletFrame.addCoin e beside.2 db⟩
  addPoint := fun e beside db =>
    ⟨funext (callWalletFrame.addPoint e beside.1 db), ticksWalletFrame.addPoint e beside.2 db⟩
  commissionKey := fun _ => ⟨⟨rfl, rfl⟩, ⟨rfl, rfl⟩⟩

theorem Charges.beside {minute : Nat} {debt : Debt} {f w : MoneyDb → MoneyDb}
    (beside : besideSessions.write f) (charged : Charges minute debt w) :
    Charges minute debt (f ∘ w) := by
  obtain ⟨coin, point, coinKey, coins, pointKey, points, rows⟩ := charged
  refine ⟨coin, point, coinKey, coins, pointKey, points, fun db => ?_⟩
  obtain ⟨calls, ticks⟩ := beside (w db)
  exact ⟨calls.trans (rows db).1, ticks.trans (rows db).2⟩

/-- The caller's row and everything until the host's row. -/
def ChargesCaller (coin : CoinLedgerEntry) (w : MoneyDb → MoneyDb) : Prop :=
  ∀ db, callRows (w db) = callRows db ∧ tickRows (w db) = tickRows (db.addCoin coin)

theorem ChargesCaller.charges {minute : Nat} {debt : Debt} {coin : CoinLedgerEntry}
    {point : PointLedgerEntry} {w : MoneyDb → MoneyDb} (charged : ChargesCaller coin w)
    (coinKey : coin.idempotencyKey = .videoCallCoin debt.sessionId minute)
    (coins : coin.amount = debt.coins)
    (pointKey : point.idempotencyKey = .videoCallPoint debt.sessionId minute)
    (points : point.amount = debt.points) :
    Charges minute debt ((fun db => db.addPoint point) ∘ w) := by
  refine ⟨coin, point, coinKey, coins, pointKey, points, fun db => ⟨?_, ?_⟩⟩
  · rw [Function.comp_apply, ← (charged db).1]
    exact funext (callWalletFrame.addPoint point (by rw [pointKey]; exact ⟨rfl, rfl⟩) (w db))
  · funext id
    have caller : tickRows (w db) id = tickRows (db.addCoin coin) id := congrFun (charged db).2 id
    rw [Function.comp_apply, tickRows_addPoint, caller, tickRows_addCoin, coinKey, pointKey]
    by_cases same : id = debt.sessionId
    · subst same
      simp [tickCoinMinute, tickPointMinute]
    · simp [tickCoinMinute, tickPointMinute, same, Ne.symm same]

theorem tickTx_effects (env : Environment) (sessionId : Nat) (session : VideoCallSession)
    (minute : Nat) (callerDebit : Int) :
    (tickTx env sessionId session minute callerDebit).Effects
      (fun _ w => Charges minute ⟨sessionId, callerDebit, session.pricePerMin⟩ w) id := by
  have frame := sessionsWalletFrame
  have seen : ∀ s, besideSessions.same s s := fun _ => rfl
  have beside : ∀ (f w : MoneyDb → MoneyDb), besideSessions.write f →
      Charges minute ⟨sessionId, callerDebit, session.pricePerMin⟩ w →
      Charges minute ⟨sessionId, callerDebit, session.pricePerMin⟩ (f ∘ w) :=
    fun _ _ write charged => charged.beside write
  refine .bind ?_
  rw [lockWalletsInOrder, lockForUpdate, Tx.effects_lockRow_bind, lockWalletsInOrder,
    lockForUpdate, Tx.effects_lockRow_bind]
  refine fun db => Tx.effects_ensure_bind fun _ => .bind ?_
  refine CoinLedgerRepository.insert_effects ?_
  -- The level is written between the two rows.
  refine .bind (((applyCredit_touches frame.toSideFrame _ _ _).writes seen).effects_after
    (Q := ChargesCaller (tickCoinEntry sessionId session minute callerDebit
      (latestBalance db.coinLedger ⟨session.callerId, .coin⟩))) ?_ ?_ |>.imp fun _ w charged => ?_)
  · intro f w write charged db'
    obtain ⟨calls, ticks⟩ := write (w db')
    exact ⟨calls.trans (charged db').1, ticks.trans (charged db').2⟩
  · exact fun db' => ⟨funext (callWalletFrame.addCoin _ ⟨rfl, rfl⟩ db'), rfl⟩
  rw [latestPointBalance, Tx.effects_select_bind]
  refine fun db' => .bind (PointLedgerRepository.insert_effects ?_)
  have both : Charges minute ⟨sessionId, callerDebit, session.pricePerMin⟩
      ((fun db => db.addPoint (tickPointEntry sessionId session minute
        (latestBalance db'.pointLedger ⟨session.creatorId, .point⟩))) ∘ w) :=
    charged.charges rfl rfl rfl rfl
  have commission := (applyCommission_touches frame env.now session.creatorId
    (.videoCallPoint sessionId minute) session.pricePerMin .videoCall).writes seen
  refine .bind ((commission.effects_after beside both).imp fun _ _ charged => ?_)
  have level := (applyCredit_touches frame.toSideFrame session.creatorId .livestream
    session.pricePerMin).writes seen
  exact .bind ((level.effects_after beside charged).imp fun _ _ charged => charged)

/-! ### What every handler owes at each of its commits -/

theorem afterTick_follows (env : Environment) (sessionId : Nat) (callerId : UserId)
    (session : VideoCallSession) (callerDebit : Int) :
    (afterTick sessionId session callerDebit).Follows debts (.tick env sessionId callerId)
      (fun _ owed _ => owed = none) (some ⟨sessionId, callerDebit, session.pricePerMin⟩) id := by
  refine Prog.follows_autocommit_bind none ?_ (Prog.follows_select_bind fun db => ?_)
  · exact .inr (.inl ⟨⟨sessionId, callerDebit, session.pricePerMin⟩, rfl, rfl, rfl, rfl⟩)
  split
  · rfl
  · refine Prog.follows_autocommit_bind none ?_ rfl
    exact .inr (.inr ⟨rfl, rfl, .insufficientCoins, by decide, by decide, rfl⟩)

theorem tick_follows (env : Environment) (sessionId : Nat) (callerId : UserId) :
    (tick env sessionId callerId).Follows debts (.tick env sessionId callerId)
      (fun _ owed _ => owed = none) none id := by
  refine Prog.follows_select_bind fun db => ?_
  split
  · rfl
  next session _ =>
    refine Prog.follows_ensure_bind rfl fun _ => Prog.follows_ensure_bind rfl fun _ => ?_
    refine Prog.follows_select_bind fun db' => ?_
    split
    next error _ =>
      unfold Prog.when
      split
      · refine Prog.follows_autocommit_bind none ?_ rfl
        exact .inr (.inr ⟨rfl, rfl, .ended, by decide, by decide, rfl⟩)
      · rfl
    next =>
      refine Prog.follows_transaction_bind rfl ((tickTx_effects env sessionId session _ _).imp ?_)
      intro _ w charged
      refine ⟨some _, .inl ⟨_, _, rfl, rfl, rfl, charged⟩, ?_⟩
      exact afterTick_follows env sessionId callerId session _

theorem endCall_follows (sessionId : Nat) (requesterId : UserId) :
    (endCall sessionId requesterId).Follows debts (.endCall sessionId requesterId)
      (fun _ owed _ => owed = none) none id := by
  refine Prog.follows_select_bind fun db => ?_
  split
  · rfl
  next session _ =>
    refine Prog.follows_ensure_bind rfl fun _ => ?_
    split
    · exact Prog.follows_autocommit_bind none
        ⟨rfl, rfl, .ended, by decide, by decide, rfl⟩ rfl
    · rfl

theorem handler_follows (request : Request) (beside : Beside (.start request)) :
    (handler request).Follows debts request (fun _ owed _ => debts.mayEnd owed) none id := by
  cases request with
  | tick env sessionId callerId =>
    exact .bind ((tick_follows env sessionId callerId).imp fun _ _ _ nothing => nothing)
  | endCall sessionId requesterId =>
    exact .bind ((endCall_follows sessionId requesterId).imp fun _ _ _ nothing => nothing)
  | ledger call =>
    refine (((ledger_besideTicks beside).writes fun _ => rfl).follows
      (A := fun w => ∀ db, tickRows (w db) = tickRows db) ?_ (fun _ => rfl) rfl ?_ fun _ =>
      rfl).imp fun _ owed _ nothing => nothing
    · exact fun f w write so db => (write (w db)).trans (so db)
    · exact fun w so => ⟨rfl, rfl, so⟩

end OlNode.VideoCalls
