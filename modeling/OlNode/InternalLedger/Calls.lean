import OlNode.InternalLedger.Frame
import OlNode.ReadCommitted.Atomic

/-!
# Billing of private calls

The parts are the call sessions: the session row together with the ledger rows of its minutes,
which are written under keys that name the session. Everything that bills or closes a session holds
the lock on its row.
-/
namespace OlNode.InternalLedger

open ReadCommitted

/-- The session whose minute a coin row charges. -/
def coinMinute : LedgerKey → Option Nat
  | .callMinuteCoins sessionId _ => some sessionId
  | _ => none

/-- The session whose minute a point row pays. -/
def pointMinute : LedgerKey → Option Nat
  | .callMinutePoints sessionId _ => some sessionId
  | _ => none

/-- A key that belongs to no call minute. -/
def NoMinute (key : LedgerKey) : Prop := coinMinute key = none ∧ pointMinute key = none

structure CallRows where
  session : Option VideoCallSession
  coins : List CoinLedgerEntry
  points : List PointLedgerEntry

def callRows (db : MoneyDb) (sessionId : Nat) : CallRows where
  session := db.session sessionId
  coins := db.coinLedger.filter fun e => coinMinute e.idempotencyKey = some sessionId
  points := db.pointLedger.filter fun e => pointMinute e.idempotencyKey = some sessionId

/-- The minutes 1 to `minsCharged` were billed, each once and in order; the counters of the session
are the sums of the caller's debits and the host's credits. -/
structure BilledTo (sessionId : Nat) (session : VideoCallSession) (coins : List CoinLedgerEntry)
    (points : List PointLedgerEntry) : Prop where
  own : session.id = sessionId
  coinMinutes : coins.map (·.idempotencyKey) =
    (List.range session.minsCharged).map fun m => .callMinuteCoins sessionId (m + 1)
  pointMinutes : points.map (·.idempotencyKey) =
    (List.range session.minsCharged).map fun m => .callMinutePoints sessionId (m + 1)
  coinsDeducted : session.coinsDeducted = (coins.map (·.amount)).sum
  pointsAwarded : session.pointsAwarded = (points.map (·.amount)).sum
  debits : ∀ e ∈ coins, e.wallet = ⟨session.callerId, .coin⟩ ∧ e.direction = .debit
  credits : ∀ e ∈ points, e.wallet = ⟨session.creatorId, .point⟩ ∧ e.direction = .credit

namespace CallRows

/-- A session that does not exist was never billed. -/
def Billed (sessionId : Nat) (v : CallRows) : Prop :=
  match v.session with
  | none => v.coins = [] ∧ v.points = []
  | some session => BilledTo sessionId session v.coins v.points

/-- One more minute: which status the session had, and what was booked. -/
def BillsMinute (status : CallStatus) (minute : Nat) (v v' : CallRows) : Prop :=
  ∃ session session' coin point, v.session = some session ∧ session.status = status ∧
    session.minsCharged + 1 = minute ∧ v'.session = some session' ∧
    session'.minsCharged = minute ∧ v'.coins = v.coins ++ [coin] ∧ v'.points = v.points ++ [point]

end CallRows

/-- What serving a request may do to a session. -/
def Request.MovesCall (sessionId : Nat) (v v' : CallRows) : Request → Prop
  | .callAccept input => input.sessionId = sessionId ∧ v.BillsMinute .ringing 1 v'
  | .callMinute input => input.sessionId = sessionId ∧ v.BillsMinute .active input.minute v'
  | .createSession session =>
    session.id = sessionId ∧ v.session = none ∧ v'.coins = v.coins ∧ v'.points = v.points
  | .closeSession closed status =>
    closed = sessionId ∧ v' = { v with session := v.session.map fun s => { s with status } }
  | _ => False

/-- Minute `minute` is booked on a session of that status, for its two parties. -/
structure MinuteBooked (sessionId : Nat) (status : CallStatus) (minute : Nat) (v v' : CallRows)
    (session session' : VideoCallSession) (coin : CoinLedgerEntry) (point : PointLedgerEntry) :
    Prop where
  before : v.session = some session
  status : session.status = status
  after : v'.session = some session'
  own : session'.id = session.id
  caller : session'.callerId = session.callerId
  creator : session'.creatorId = session.creatorId
  active : session'.status = .active
  counted : session'.minsCharged = minute
  coinKey : coin.idempotencyKey = .callMinuteCoins sessionId minute
  pointKey : point.idempotencyKey = .callMinutePoints sessionId minute
  debit : coin.wallet = ⟨session.callerId, .coin⟩ ∧ coin.direction = .debit
  credit : point.wallet = ⟨session.creatorId, .point⟩ ∧ point.direction = .credit
  absent : ∀ e ∈ v.coins, e.idempotencyKey ≠ .callMinuteCoins sessionId minute
  coins : v'.coins = v.coins ++ [coin]
  points : v'.points = v.points ++ [point]

/-- What a request of the internal ledger does to a session, whoever else changes its counters. -/
def MovesSession (sessionId : Nat) (v v' : CallRows) : Request → Prop
  | .callAccept input => input.sessionId = sessionId ∧ ∃ session session' coin point,
      MinuteBooked sessionId .ringing 1 v v' session session' coin point ∧
      session'.coinsDeducted = coin.amount ∧ session'.pointsAwarded = point.amount
  | .callMinute input => input.sessionId = sessionId ∧ ∃ session session' coin point,
      MinuteBooked sessionId .active input.minute v v' session session' coin point ∧
      session.minsCharged + 1 = input.minute ∧
      session'.coinsDeducted = session.coinsDeducted + coin.amount ∧
      session'.pointsAwarded = session.pointsAwarded + point.amount
  | .createSession session => session.id = sessionId ∧ v.session = none ∧
      v' = ⟨some { session with minsCharged := 0, coinsDeducted := 0, pointsAwarded := 0 },
        v.coins, v.points⟩
  | .closeSession closed status => closed = sessionId ∧
      v' = { v with session := v.session.map fun session => { session with status } }
  | _ => False

def OwnId (sessionId : Nat) (v : CallRows) : Prop :=
  ∀ session, v.session = some session → session.id = sessionId

def callParts : Parts MoneyDb Lock LedgerError Nat CallRows where
  part := callRows
  lockOf := .session
  inv := CallRows.Billed

/-- The same parts with any invariant. -/
def sessionParts (inv : Nat → CallRows → Prop) : Parts MoneyDb Lock LedgerError Nat CallRows where
  part := callRows
  lockOf := .session
  inv := inv

theorem sessionParts_separate {inv : Nat → CallRows → Prop} (sessionId other : Nat)
    (same : (sessionParts inv).lockOf other = (sessionParts inv).lockOf sessionId) :
    other = sessionId := by
  simpa [sessionParts] using same

/-- Every session is as it was, or the call has moved it. -/
def MayMove (moves : Nat → CallRows → CallRows → Request → Prop) (call : Call)
    (rows rows' : Nat → CallRows) : Prop :=
  ∀ sessionId, rows' sessionId = rows sessionId ∨
    moves sessionId (rows sessionId) (rows' sessionId) call.request

/-- What serving a call may do to the sessions. -/
abbrev MayBill : Call → (Nat → CallRows) → (Nat → CallRows) → Prop := MayMove Request.MovesCall

/-! ### Everything else -/

theorem callRows_addCoin (db : MoneyDb) (e : CoinLedgerEntry) (sessionId : Nat) :
    callRows (db.addCoin e) sessionId =
      if coinMinute e.idempotencyKey = some sessionId then
        { callRows db sessionId with coins := (callRows db sessionId).coins ++ [e] }
      else callRows db sessionId := by
  split
  next own => simp [callRows, MoneyDb.addCoin, own]
  next other => simp [callRows, MoneyDb.addCoin, other]

theorem callRows_addPoint (db : MoneyDb) (e : PointLedgerEntry) (sessionId : Nat) :
    callRows (db.addPoint e) sessionId =
      if pointMinute e.idempotencyKey = some sessionId then
        { callRows db sessionId with points := (callRows db sessionId).points ++ [e] }
      else callRows db sessionId := by
  split
  next own => simp [callRows, MoneyDb.addPoint, own]
  next other => simp [callRows, MoneyDb.addPoint, other]

theorem callRows_setSession (db : MoneyDb) (session : VideoCallSession) (sessionId : Nat) :
    callRows (MoneyDb.setSession db session) sessionId =
      if sessionId = session.id then { callRows db sessionId with session := some session }
      else callRows db sessionId := by
  split
  next same => simp [callRows, MoneyDb.setSession, same]
  next other => simp [callRows, MoneyDb.setSession, other]

theorem callRows_modifySession (db : MoneyDb) (closed : Nat)
    (f : VideoCallSession → VideoCallSession) (sessionId : Nat) :
    callRows (MoneyDb.modifySession db closed f) sessionId =
      if sessionId = closed then
        { callRows db sessionId with session := (callRows db sessionId).session.map f }
      else callRows db sessionId := by
  split
  next same => simp [callRows, MoneyDb.modifySession, same]
  next other => simp [callRows, MoneyDb.modifySession, other]

theorem callPlainFrame : PlainFrame callParts.outside := plainFrame_outside fun _ _ => trivial

theorem callWalletFrame : WalletFrame callParts.outside NoMinute where
  toPlainFrame := callPlainFrame
  level := by simp [Parts.outside, callParts]
  setLevel := fun _ _ _ _ _ => rfl
  commission := by simp [Parts.outside, callParts]
  mark := fun _ _ _ => rfl
  gift := by simp [Parts.outside, callParts]
  addGift := fun _ _ _ => rfl
  wallet := by simp [Parts.outside, callParts]
  coinKey := by simp [Parts.outside, callParts]
  pointKey := by simp [Parts.outside, callParts]
  addCoin := fun e noMinute db id => by
    rw [show callParts.part = callRows from rfl, callRows_addCoin, noMinute.1]
    simp
  addPoint := fun e noMinute db id => by
    rw [show callParts.part = callRows from rfl, callRows_addPoint, noMinute.2]
    simp
  commissionKey := fun _ => ⟨rfl, rfl⟩

theorem callPoolFrame : PoolFrame callParts.outside (fun _ => True) where
  toPlainFrame := callPlainFrame
  stored := fun _ _ _ _ => trivial
  pool := by simp [Parts.outside, callParts]
  ensurePool := fun _ _ _ _ => rfl
  setPool := fun _ _ _ _ => rfl
  audit := by simp [Parts.outside, callParts]
  addAudit := fun _ _ _ _ _ => rfl
  sent := fun _ => Parts.outside_blind _ _
  floor := trivial

theorem callShadowFrame : ShadowFrame callParts.outside where
  toPlainFrame := callPlainFrame
  same_eq := fun _ _ same => same.symm
  pool := by simp [Parts.outside, callParts]
  ensurePool := fun _ _ _ => rfl
  setPool := fun _ _ _ _ => rfl
  audit := by simp [Parts.outside, callParts]
  addAudit := fun _ _ _ _ _ => rfl
  cursor := by simp [Parts.outside, callParts]
  setCursor := fun _ _ _ => rfl

/-! ### One minute -/

section Minute

variable {inv : Nat → CallRows → Prop} {K : Knowledge Nat CallRows} {sessionId : Nat}
  {before now : CallRows}

theorem insertMinuteCoin_safe {entry : CoinLedgerEntry}
    {Q : CoinLedgerEntry → Knowledge Nat CallRows → Prop}
    (minute : coinMinute entry.idempotencyKey = some sessionId)
    (held : K sessionId = .held before now)
    (after : (∀ e ∈ now.coins, e.idempotencyKey ≠ entry.idempotencyKey) →
      Q entry (Function.update K sessionId
        (.held before { now with coins := now.coins ++ [entry] }))) :
    (CoinLedgerRepository.insert entry).Safe (sessionParts inv) K Q := by
  refine Tx.safe_check trivial fun _ => ?_
  refine (Tx.safe_lockRow_bind _ _).mpr fun committed _ => ?_
  rw [Knowledge.lock_other (by simp [sessionParts])]
  refine (Tx.safe_select_bind _ _).mpr fun db seen => ?_
  refine Tx.safe_check trivial fun absent => ?_
  refine .bind (Tx.safe_update
    (fun id v => if id = sessionId then { v with coins := v.coins ++ [entry] } else v)
    (fun db id => (callRows_addCoin db entry id).trans
      (by simp only [minute, Option.some.injEq, eq_comm (a := sessionId)]; rfl))
    (by simp [sessionParts]) ?_)
  rw [Knowledge.push_own, held]
  refine after fun e member => ?_
  -- the key is taken by no row at all, so by none of this session
  have rows := seen.part sessionId
  rw [held] at rows
  rw [← show (callRows db sessionId).coins = now.coins from congrArg CallRows.coins rows] at member
  have inLedger := (List.mem_filter.mp member).1
  exact (findByKey_eq_none _).mp (by simpa using absent) e inLedger

theorem insertMinutePoint_safe {entry : PointLedgerEntry}
    {Q : PointLedgerEntry → Knowledge Nat CallRows → Prop}
    (minute : pointMinute entry.idempotencyKey = some sessionId)
    (held : K sessionId = .held before now)
    (after : Q entry (Function.update K sessionId
      (.held before { now with points := now.points ++ [entry] }))) :
    (PointLedgerRepository.insert entry).Safe (sessionParts inv) K Q := by
  refine Tx.safe_check trivial fun _ => ?_
  refine (Tx.safe_lockRow_bind _ _).mpr fun committed _ => ?_
  rw [Knowledge.lock_other (by simp [sessionParts])]
  refine (Tx.safe_select_bind _ _).mpr fun db _ => Tx.safe_check trivial fun _ => ?_
  refine .bind (Tx.safe_update
    (fun id v => if id = sessionId then { v with points := v.points ++ [entry] } else v)
    (fun db id => (callRows_addPoint db entry id).trans
      (by simp only [minute, Option.some.injEq, eq_comm (a := sessionId)]; rfl))
    (by simp [sessionParts]) ?_)
  rw [Knowledge.push_own, held]
  exact after

theorem billMinute_bills {env : Environment} {session : VideoCallSession} {minute requestId : Nat}
    {Q : MinuteBill → Knowledge Nat CallRows → Prop} (held : K session.id = .held before now)
    (after : ∀ (bill : MinuteBill) (coin : CoinLedgerEntry) (point : PointLedgerEntry),
      coin.idempotencyKey = .callMinuteCoins session.id minute →
      point.idempotencyKey = .callMinutePoints session.id minute →
      coin.wallet = ⟨session.callerId, .coin⟩ ∧ coin.direction = .debit →
      point.wallet = ⟨session.creatorId, .point⟩ ∧ point.direction = .credit →
      coin.amount = bill.coinRate → point.amount = bill.pointRate →
      (∀ e ∈ now.coins, e.idempotencyKey ≠ .callMinuteCoins session.id minute) →
      Q bill (Function.update K session.id (.held before
        { now with coins := now.coins ++ [coin], points := now.points ++ [point] }))) :
    (billMinute env session minute requestId).Safe (sessionParts inv) K Q := by
  have frame := callWalletFrame
  refine .bind (Tx.Touches.safe (lockForOperation_touches frame _ _ _) fun _ => ?_)
  refine (Tx.safe_select_bind _ _).mpr fun db _ => ?_
  refine Tx.safe_check trivial fun _ => ?_
  refine .bind (insertMinuteCoin_safe rfl held fun absent => ?_)
  refine (Tx.safe_select_bind _ _).mpr fun db' _ => ?_
  refine .bind (insertMinutePoint_safe rfl (Function.update_self ..) ?_)
  rw [Function.update_idem]
  refine .bind (Tx.Touches.safe (applyCredit_touches frame.toSideFrame _ _ _) fun _ => ?_)
  refine .bind (Tx.Touches.safe (applyCredit_touches frame.toSideFrame _ _ _) fun _ => ?_)
  refine .bind (Tx.Touches.safe (settleHostCredit_touches frame _ _ _ _ _ _) fun _ => ?_)
  exact after _ _ _ rfl rfl ⟨rfl, rfl⟩ ⟨rfl, rfl⟩ rfl rfl absent

theorem lockSession_bind {β : Type} {k : Option VideoCallSession → LedgerTx β}
    {Q : β → Knowledge Nat CallRows → Prop}
    (next : ∀ v, inv sessionId v → (k v.session).Safe (sessionParts inv)
      (Function.update (Knowledge.initial : Knowledge Nat CallRows) sessionId (.held v v)) Q) :
    (lockSession sessionId >>= k).Safe (sessionParts inv) .initial Q := by
  refine .bind ((Tx.safe_lockRow_bind _ _).mpr fun committed valid => ?_)
  rw [show Lock.session sessionId = (sessionParts inv).lockOf sessionId from rfl,
    Knowledge.lock_own sessionParts_separate]
  refine (Tx.safe_select _).mpr fun db seen => ?_
  have rows := seen.part sessionId
  rw [Function.update_self] at rows
  rw [show db.session sessionId = (committed sessionId).session from congrArg CallRows.session rows]
  exact next _ (valid sessionId)

theorem updateSession_bind {session : VideoCallSession} {β : Type}
    {k : VideoCallSession → LedgerTx β} {Q : β → Knowledge Nat CallRows → Prop}
    (held : K session.id = .held before now)
    (next : (k session).Safe (sessionParts inv)
      (Function.update K session.id (.held before { now with session := some session })) Q) :
    (updateSession session >>= k).Safe (sessionParts inv) K Q := by
  refine .bind (.bind ⟨fun id v => if id = session.id then { v with session := some session } else v,
    fun db id => callRows_setSession db session id, fun committed _ => ?_⟩)
  rw [show Lock.session session.id = (sessionParts inv).lockOf session.id from rfl,
    Knowledge.lock_own sessionParts_separate, Knowledge.push_own, Function.update_self,
    Function.update_idem, held]
  exact next

theorem modifySession_safe {f : VideoCallSession → VideoCallSession}
    {Q : Unit → Knowledge Nat CallRows → Prop}
    (after : ∀ v, inv sessionId v → Q () (Function.update Knowledge.initial sessionId
      (.held v { v with session := v.session.map f }))) :
    (Tx.update (.session sessionId) fun db => MoneyDb.modifySession db sessionId f :
      LedgerTx Unit).Safe (sessionParts inv) .initial Q := by
  refine ⟨fun id v => if id = sessionId then { v with session := v.session.map f } else v,
    fun db id => callRows_modifySession db sessionId f id, fun committed valid => ?_⟩
  rw [show Lock.session sessionId = (sessionParts inv).lockOf sessionId from rfl,
    Knowledge.lock_own sessionParts_separate, Knowledge.push_own, Function.update_self,
    Function.update_idem]
  exact after _ (valid sessionId)

end Minute

/-- The invariant carries over to a session with one more minute. -/
theorem BilledTo.bill {sessionId : Nat} {session session' : VideoCallSession}
    {coins : List CoinLedgerEntry} {points : List PointLedgerEntry} {coin : CoinLedgerEntry}
    {point : PointLedgerEntry} (billed : BilledTo sessionId session coins points)
    (own : session'.id = session.id) (caller : session'.callerId = session.callerId)
    (creator : session'.creatorId = session.creatorId)
    (minutes : session'.minsCharged = session.minsCharged + 1)
    (deducted : session'.coinsDeducted = session.coinsDeducted + coin.amount)
    (awarded : session'.pointsAwarded = session.pointsAwarded + point.amount)
    (coinKey : coin.idempotencyKey = .callMinuteCoins session.id session'.minsCharged)
    (pointKey : point.idempotencyKey = .callMinutePoints session.id session'.minsCharged)
    (debit : coin.wallet = ⟨session.callerId, .coin⟩ ∧ coin.direction = .debit)
    (credit : point.wallet = ⟨session.creatorId, .point⟩ ∧ point.direction = .credit) :
    BilledTo sessionId session' (coins ++ [coin]) (points ++ [point]) where
  own := own.trans billed.own
  coinMinutes := by
    simp [coinKey, minutes, billed.own, billed.coinMinutes, List.range_succ]
  pointMinutes := by
    simp [pointKey, minutes, billed.own, billed.pointMinutes, List.range_succ]
  coinsDeducted := by simp [deducted, billed.coinsDeducted]
  pointsAwarded := by simp [awarded, billed.pointsAwarded]
  debits := by
    intro e member
    rcases List.mem_append.mp member with old | new
    · rw [caller]
      exact billed.debits e old
    · rw [List.mem_singleton] at new
      rw [new, caller]
      exact debit
  credits := by
    intro e member
    rcases List.mem_append.mp member with old | new
    · rw [creator]
      exact billed.credits e old
    · rw [List.mem_singleton] at new
      rw [new, creator]
      exact credit

/-- A session whose first minute is not billed yet has nothing billed. -/
theorem BilledTo.unbilled {sessionId : Nat} {session : VideoCallSession}
    {coins : List CoinLedgerEntry} {points : List PointLedgerEntry}
    (billed : BilledTo sessionId session coins points)
    (absent : ∀ e ∈ coins, e.idempotencyKey ≠ .callMinuteCoins sessionId 1) :
    session.minsCharged = 0 ∧ session.coinsDeducted = 0 ∧ session.pointsAwarded = 0 := by
  have none : session.minsCharged = 0 := by
    rcases Nat.eq_zero_or_pos session.minsCharged with zero | positive
    · exact zero
    · have first : LedgerKey.callMinuteCoins sessionId 1 ∈ coins.map (·.idempotencyKey) := by
        rw [billed.coinMinutes]
        exact List.mem_map.mpr ⟨0, List.mem_range.mpr positive, rfl⟩
      obtain ⟨e, member, key⟩ := List.mem_map.mp first
      exact absurd key (absent e member)
  have coins0 : coins = [] := by simpa [none] using billed.coinMinutes
  have points0 : points = [] := by simpa [none] using billed.pointMinutes
  refine ⟨none, ?_, ?_⟩
  · simpa [coins0] using billed.coinsDeducted
  · simpa [points0] using billed.pointsAwarded

/-! ### One request -/

/-- An invariant of the sessions that every move of a session keeps, and what it tells of the
move. -/
structure Follows (inv : Nat → CallRows → Prop)
    (moves : Nat → CallRows → CallRows → Request → Prop) : Prop where
  ownId {sessionId : Nat} {v : CallRows} : inv sessionId v → OwnId sessionId v
  step {sessionId : Nat} {v v' : CallRows} {request : Request} : inv sessionId v →
    MovesSession sessionId v v' request → inv sessionId v' ∧ moves sessionId v v' request

namespace Follows

variable {inv : Nat → CallRows → Prop} {moves : Nat → CallRows → CallRows → Request → Prop}

/-- The commit of a transaction that has changed one session. -/
theorem settles {sessionId : Nat} {v v' : CallRows} {call : Call} (follows : Follows inv moves)
    (valid : inv sessionId v) (moved : v' = v ∨ MovesSession sessionId v v' call.request) :
    Knowledge.Settles (sessionParts inv) (MayMove moves call)
      (Function.update (Knowledge.initial : Knowledge Nat CallRows) sessionId (.held v v')) := by
  have stepped : inv sessionId v' ∧ (v' = v ∨ moves sessionId v v' call.request) := by
    rcases moved with rfl | moved
    · exact ⟨valid, .inl rfl⟩
    · exact (follows.step valid moved).imp_right .inr
  refine Knowledge.settles_own _ stepped.1 fun committed _ before id => ?_
  by_cases same : id = sessionId
  · subst same
    rw [Function.update_self, before]
    exact stepped.2
  · rw [Function.update_of_ne same]
    exact .inl rfl

theorem callAcceptTx (follows : Follows inv moves) (env : Environment) (input : CallAcceptInput)
    (call : Call) (isAccept : call.request = .callAccept input) :
    (callAcceptTx env input).Safe (sessionParts inv) .initial fun _ K' =>
      K'.Settles (sessionParts inv) (MayMove moves call) := by
  refine lockSession_bind fun v valid => ?_
  cases found : v.session with
  | none => trivial
  | some session =>
    have own := follows.ownId valid session found
    refine Tx.safe_check trivial fun _ => ?_
    refine Tx.safe_check trivial fun ringing => ?_
    have held : Function.update (Knowledge.initial : Knowledge Nat CallRows) input.sessionId
        (.held v v) session.id = .held v v := by rw [own, Function.update_self]
    refine .bind (billMinute_bills held ?_)
    intro bill coin point coinKey pointKey debit credit coinAmount pointAmount absent
    refine updateSession_bind (Function.update_self ..) ?_
    rw [Function.update_idem, own, Function.update_idem]
    rw [own] at coinKey pointKey absent
    refine follows.settles valid (.inr ?_)
    rw [isAccept]
    refine ⟨rfl, session, _, coin, point, ⟨found, by simpa using ringing, rfl, own.symm, rfl, rfl,
      rfl, rfl, coinKey, pointKey, debit, credit, absent, rfl, rfl⟩, coinAmount.symm, pointAmount.symm⟩

theorem callMinuteTx (follows : Follows inv moves) (env : Environment) (input : CallMinuteInput)
    (call : Call) (isMinute : call.request = .callMinute input) :
    (callMinuteTx env input).Safe (sessionParts inv) .initial fun _ K' =>
      K'.Settles (sessionParts inv) (MayMove moves call) := by
  refine lockSession_bind fun v valid => ?_
  cases found : v.session with
  | none => trivial
  | some session =>
    have own := follows.ownId valid session found
    dsimp only
    split
    · -- nothing was written, only the session was locked
      exact follows.settles valid (.inl rfl)
    next later =>
      refine Tx.safe_check trivial fun active => ?_
      refine Tx.safe_check trivial fun order => ?_
      have isActive : session.status = .active := by simpa using active
      have next : session.minsCharged + 1 = input.minute := by
        have : session.minsCharged = input.minute - 1 := by simpa using order
        omega
      have held : Function.update (Knowledge.initial : Knowledge Nat CallRows) input.sessionId
          (.held v v) session.id = .held v v := by rw [own, Function.update_self]
      refine .bind (billMinute_bills held ?_)
      intro bill coin point coinKey pointKey debit credit coinAmount pointAmount absent
      refine updateSession_bind (Function.update_self ..) ?_
      rw [Function.update_idem, own, Function.update_idem]
      rw [own] at coinKey pointKey absent
      refine follows.settles valid (.inr ?_)
      rw [isMinute]
      refine ⟨rfl, session, _, coin, point, ⟨found, isActive, rfl, own.symm, rfl, rfl, isActive, rfl,
        coinKey, pointKey, debit, credit, absent, rfl, rfl⟩, next, ?_, ?_⟩
      · exact congrArg (session.coinsDeducted + ·) coinAmount.symm
      · exact congrArg (session.pointsAwarded + ·) pointAmount.symm

theorem createSession (follows : Follows inv moves) (session : VideoCallSession) (call : Call)
    (isCreate : call.request = .createSession session) :
    (createSession session).Safe (sessionParts inv) .initial fun _ K' =>
      K'.Settles (sessionParts inv) (MayMove moves call) := by
  change (lockSession session.id >>= fun existing =>
    Tx.ensure existing.isNone .uniqueViolation >>= fun _ => _).Safe _ _ _
  refine lockSession_bind fun v valid => ?_
  refine Tx.safe_check trivial fun absent => ?_
  refine Tx.Safe.mono (updateSession_bind (k := fun _ => pure ()) (Function.update_self ..) ?_)
    fun _ _ settles => settles
  rw [Function.update_idem]
  refine follows.settles valid (.inr ?_)
  rw [isCreate]
  exact ⟨rfl, by simpa using absent, rfl⟩

end Follows

/-- A minute more, and what the request booked. -/
theorem MinuteBooked.billed {sessionId minute : Nat} {status : CallStatus} {v v' : CallRows}
    {session session' : VideoCallSession} {coin : CoinLedgerEntry} {point : PointLedgerEntry}
    (booked : MinuteBooked sessionId status minute v v' session session' coin point)
    (billed : BilledTo sessionId session v.coins v.points)
    (next : session.minsCharged + 1 = minute)
    (deducted : session'.coinsDeducted = session.coinsDeducted + coin.amount)
    (awarded : session'.pointsAwarded = session.pointsAwarded + point.amount) :
    v'.Billed sessionId ∧ v.BillsMinute status minute v' := by
  refine ⟨?_, session, session', coin, point, booked.before, booked.status, next, booked.after,
    booked.counted, booked.coins, booked.points⟩
  rw [CallRows.Billed, booked.after, booked.coins, booked.points]
  refine billed.bill booked.own booked.caller booked.creator (booked.counted.trans next.symm)
    deducted awarded ?_ ?_ booked.debit booked.credit
  · rw [booked.coinKey, billed.own, booked.counted]
  · rw [booked.pointKey, billed.own, booked.counted]

theorem billed_some {sessionId : Nat} {v : CallRows} {session : VideoCallSession}
    (found : v.session = some session) :
    v.Billed sessionId ↔ BilledTo sessionId session v.coins v.points := by
  rw [CallRows.Billed, found]

/-- Whatever moves a session keeps it billed. -/
theorem billed_follows : Follows CallRows.Billed Request.MovesCall where
  ownId billed session found := ((billed_some found).mp billed).own
  step {sessionId v v' request} billed moved := by
    cases request with
    | callAccept input =>
      obtain ⟨own, session, session', coin, point, booked, deducted, awarded⟩ := moved
      have billed := (billed_some booked.before).mp billed
      -- a RINGING session that was billed before would have hit the unique key of its first minute
      obtain ⟨mins, noCoins, noPoints⟩ := billed.unbilled booked.absent
      have := booked.billed billed (by simp [mins]) (by simp [deducted, noCoins])
        (by simp [awarded, noPoints])
      exact this.imp_right fun bills => ⟨own, bills⟩
    | callMinute input =>
      obtain ⟨own, session, session', coin, point, booked, next, deducted, awarded⟩ := moved
      have billed := (billed_some booked.before).mp billed
      exact (booked.billed billed next deducted awarded).imp_right fun bills => ⟨own, bills⟩
    | createSession session =>
      obtain ⟨rfl, none, rfl⟩ := moved
      have empty : v.coins = [] ∧ v.points = [] := by simpa [CallRows.Billed, none] using billed
      refine ⟨⟨rfl, ?_, ?_, ?_, ?_, ?_, ?_⟩, rfl, none, rfl, rfl⟩ <;> simp [empty]
    | closeSession closed status =>
      obtain ⟨rfl, rfl⟩ := moved
      refine ⟨?_, rfl, rfl⟩
      cases found : v.session with
      | none => simpa [CallRows.Billed, found] using billed
      | some session =>
        have billed := (billed_some found).mp billed
        exact ⟨billed.own, billed.coinMinutes, billed.pointMinutes, billed.coinsDeducted,
          billed.pointsAwarded, billed.debits, billed.credits⟩
    | _ => exact moved.elim

/-! ### Every interleaving -/

/-- No other service writes under the key of a call minute. -/
def KeepsMinutes (_ : LedgerConfig) : Event Call → Prop
  | .start ⟨_, .wallet ops⟩ => ∀ op ∈ ops, NoMinute op.key
  | _ => True

def Request.Bills : Request → Prop
  | .callAccept _ | .callMinute _ => True
  | _ => False

theorem bills_commitsLast (call : Call) (bills : call.request.Bills) :
    (handler call).CommitsLast := by
  obtain ⟨env, request⟩ := call
  cases request with
  | callAccept input =>
    refine .forget (Prog.commitsLast_run (fun bill => ⟨_, rfl⟩) fun error => ?_)
    split
    · have plain : PlainFrame {} := ⟨fun _ _ same => .inl same.symm, fun _ _ => trivial⟩
      exact (replayCallAccept_reads plain env input).commitsLast
    · trivial
  | callMinute input => exact .forget (Prog.commitsLast_run (fun bill => ⟨_, rfl⟩) fun _ => trivial)
  | _ => exact bills.elim

def Request.LocksSession : Request → Prop
  | .callAccept _ | .callMinute _ | .createSession _ | .closeSession _ _ => True
  | _ => False

theorem handler_outside {c : LedgerConfig} {call : Call} (allowed : KeepsMinutes c (.start call))
    (other : ¬ call.request.LocksSession) : (handler call).Touches callParts.outside := by
  obtain ⟨env, request⟩ := call
  have tiers : TierFrame callParts.outside fun _ => True :=
    ⟨callPlainFrame, fun _ _ _ _ => trivial, by simp [Parts.outside, callParts],
      fun _ _ _ _ => rfl, fun _ _ _ _ => rfl⟩
  have frame := callWalletFrame
  cases request with
  | wallet ops => exact Prog.touches_transaction (walletTx_touches frame _ allowed)
  | giftSend input => exact (giftSend_touches frame env input ⟨rfl, rfl⟩ ⟨rfl, rfl⟩).forget
  | luckyGiftSend input =>
    exact (luckyGiftSend_touches frame callPoolFrame (fun _ _ => Parts.outside_blind _ _)
      (fun _ _ => trivial) ⟨rfl, rfl⟩ ⟨rfl, rfl⟩ ⟨rfl, rfl⟩).forget
  | callAccept input => exact absurd trivial other
  | callMinute input => exact absurd trivial other
  | globalMessage input => exact (globalMessage_touches frame input ⟨rfl, rfl⟩).forget
  | createSession session => exact absurd trivial other
  | closeSession sessionId status => exact absurd trivial other
  | recordSeedDecision tierId choice amount =>
    refine Prog.Touches.forget (recordSeedDecision_touches tiers tierId choice amount ?_ ?_ ?_)
    · simp [Parts.outside, callParts]
    · exact fun _ _ => rfl
    · exact fun _ _ _ => rfl
  | createConfigVersion tierId patch econValid =>
    exact (createConfigVersion_touches tiers tierId econValid fun _ _ _ _ => trivial).forget
  | setMode tierId mode isAllowed => exact setMode_touches tiers tierId mode isAllowed
  | shadowWorkerTick rolls => exact runShadowWorkerTick_touches callShadowFrame _ _ _
  | changeSettings settings =>
    exact Prog.touches_autocommit (by simp [Parts.outside, callParts]) fun _ _ => rfl

theorem Follows.handler {inv : Nat → CallRows → Prop}
    {moves : Nat → CallRows → CallRows → Request → Prop} (follows : Follows inv moves)
    (c : LedgerConfig) (call : Call) (allowed : KeepsMinutes c (.start call)) :
    (handler call).Safe (sessionParts inv) (MayMove moves call) .initial := by
  by_cases locks : call.request.LocksSession
  · obtain ⟨env, request⟩ := call
    cases request with
    | callAccept input =>
      refine .forget (.run ((follows.callAcceptTx env input _ rfl).mono fun _ _ settles =>
        ⟨settles, trivial⟩) fun error _ => ?_)
      split
      · have plain : PlainFrame (sessionParts inv).outside := callPlainFrame
        exact (replayCallAccept_reads plain env input).safe
      · trivial
    | callMinute input =>
      exact .forget (.run ((follows.callMinuteTx env input _ rfl).mono fun _ _ settles =>
        ⟨settles, trivial⟩) fun _ _ => trivial)
    | createSession session =>
      exact .run ((follows.createSession session _ rfl).mono fun _ _ settles =>
        ⟨settles, trivial⟩) fun _ _ => trivial
    | closeSession sessionId status =>
      exact .run (modifySession_safe fun v valid =>
        ⟨follows.settles valid (.inr ⟨rfl, rfl⟩), trivial⟩) fun _ _ => trivial
    | _ => exact locks.elim
  · have outside : (InternalLedger.handler call).Touches (sessionParts inv).outside :=
      handler_outside allowed locks
    exact outside.safe fun _ _ => .inl rfl

/-- In every interleaving of money requests every session has been billed for the minutes 1 to
`minsCharged`, each once, and its counters are the sums of those rows. A session changes only by a
request for it: an accept bills minute 1 of a RINGING session, a tick the next minute of an ACTIVE
one. A billing that does not return has changed nothing at all. -/
theorem calls_billed (db : MoneyDb) (start : ∀ sessionId, (callRows db sessionId).Billed sessionId)
    (c : LedgerConfig) (run : Reaches handler KeepsMinutes (.idle db) c) :
    (∀ sessionId, (callRows c.db sessionId).Billed sessionId) ∧
      ∀ event c', c.apply handler event = some c' →
        (∀ sessionId, callRows c'.db sessionId = callRows c.db sessionId ∨
          ∃ i thread, event = .advance i ∧ c.threads[i]? = some thread ∧
            thread.request.request.MovesCall sessionId (callRows c.db sessionId)
              (callRows c'.db sessionId)) ∧
        ∀ i thread, event = .advance i → c.threads[i]? = some thread →
          thread.request.request.Bills →
          c'.db = c.db ∨ ∃ thread', c'.threads[i]? = some thread' ∧ thread'.prog = .done () := by
  have guarded : Guarded callParts MayBill c :=
    run.guarded (fun c call allowed => billed_follows.handler c call allowed) start
      fun _ _ _ _ _ _ => trivial
  have last := run.commitsLast (fun call => call.request.Bills) bills_commitsLast (by simp [Config.idle])
  refine ⟨guarded.valid, fun event c' applied => ⟨fun sessionId => ?_, ?_⟩⟩
  · rcases guarded.moves (fun _ _ _ => trivial) applied with same | ⟨i, thread, isAdvance, found, unchanged | moved⟩
    · exact .inl (by rw [same])
    · exact .inl (congrFun unchanged sessionId)
    · rcases moved sessionId with unchanged | moves
      · exact .inl unchanged
      · exact .inr ⟨i, thread, isAdvance, found, moves⟩
  · rintro i thread rfl found bills
    exact apply_commitsLast found (last thread (List.mem_of_getElem? found) bills) applied

theorem billed_empty (sessionId : Nat) :
    (callRows MoneyDb.empty sessionId).Billed sessionId := by
  simp [CallRows.Billed, callRows, MoneyDb.empty]

/-- User 1 calls host 2, who asks 60 points a minute. -/
def ringing : VideoCallSession where
  id := 5
  callerId := 1
  creatorId := 2
  pricePerMin := 60
  status := .ringing
  minsCharged := 0
  coinsDeducted := 0
  pointsAwarded := 0
  startedAt := 0

/-- The caller tops up, the host accepts, and a second minute begins. -/
def twoMinutes : List (Event Call) :=
  serve (topUp 1 1000 1) 0 7 ++ serve ⟨noon, .createSession ringing⟩ 1 4 ++
  serve ⟨noon, .callAccept ⟨9, 5, 2⟩⟩ 2 25 ++ serve ⟨noon, .callMinute ⟨10, 5, 2⟩⟩ 3 25

theorem calls_billed_twoMinutes :
    ∃ c : LedgerConfig, Reaches handler KeepsMinutes (.idle MoneyDb.empty) c ∧
      (c.db.session 5).map (fun s => (s.minsCharged, s.coinsDeducted)) = some (2, 200) ∧
      ∀ sessionId, (callRows c.db sessionId).Billed sessionId := by
  have allowed : ∀ e ∈ twoMinutes, ∀ c, KeepsMinutes c e := by
    simp [twoMinutes, serve, topUp, KeepsMinutes, WalletOp.key, NoMinute, coinMinute, pointMinute]
  obtain ⟨c, run, billed⟩ := reaches_of_any handler twoMinutes (.idle MoneyDb.empty)
    (fun c => (c.db.session 5).map (fun s => (s.minsCharged, s.coinsDeducted)) = some (2, 200))
    allowed (by decide)
  exact ⟨c, run, by simpa using billed, (calls_billed _ billed_empty c run).1⟩

end OlNode.InternalLedger
