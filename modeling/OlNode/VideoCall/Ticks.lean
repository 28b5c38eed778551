import OlNode.VideoCall.Billing

/-!
# Every minute once, by whichever path

A session whose counters agree with its rows can be billed on: the keys of its next minute are
free. The main theorem puts the account of every reachable state in the terms of the ledger.
-/
namespace OlNode.VideoCalls

open ReadCommitted InternalLedger

/-! ### A tick that is not refused -/

/-- The body does not fail on a unique key. -/
def Unrefused {α : Type} (x : LedgerTx α) (db : MoneyDb) : Prop :=
  x.eval db ≠ .error .uniqueViolation

section Unrefused

variable {α β : Type} {x : LedgerTx α} {k : α → LedgerTx β} {db : MoneyDb}

theorem Unrefused.bind (first : Unrefused x db)
    (rest : ∀ a db', x.eval db = .ok (a, db') → Unrefused (k a) db') : Unrefused (x >>= k) db := by
  unfold Unrefused
  rw [Tx.eval_bind]
  cases ended : x.eval db with
  | ok r => exact rest r.1 r.2 ended
  | error error =>
    intro refused
    exact first (by rw [ended, Except.error.inj refused])

theorem unrefused_pure (value : α) : Unrefused (pure value : LedgerTx α) db :=
  fun refused => by cases refused

theorem unrefused_select_bind {q : MoneyDb → α} (rest : Unrefused (k (q db)) db) :
    Unrefused (Tx.select q >>= k) db := rest

theorem unrefused_ensure_bind {condition : Bool} {error : LedgerError} {k : Unit → LedgerTx β}
    (other : error ≠ .uniqueViolation) (rest : condition = true → Unrefused (k ()) db) :
    Unrefused (Tx.ensure condition error >>= k) db := by
  cases condition
  · exact fun refused => other (Except.error.inj refused)
  · exact rest rfl

theorem unrefused_when {condition : Prop} [Decidable condition] {x : LedgerTx Unit}
    (does : Unrefused x db) : Unrefused (Tx.when condition x) db := by
  unfold Tx.when
  split
  · exact does
  · exact unrefused_pure ()

theorem applyCredit_unrefused (userId : UserId) (levelType : LevelType) (increment : Int) :
    Unrefused (applyCredit userId levelType increment) db := by
  simp [Unrefused, applyCredit]

theorem applyCredit_keepsPoints {userId : UserId} {levelType : LevelType} {increment : Int}
    {db' : MoneyDb} {r : LevelResult}
    (ended : (applyCredit userId levelType increment).eval db = .ok (r, db')) :
    db'.pointLedger = db.pointLedger := by
  simp [applyCredit] at ended
  rw [← ended.2]
  rfl

theorem insertCoin_unrefused {entry : CoinLedgerEntry}
    (free : findByKey db.coinLedger entry.idempotencyKey = none) :
    Unrefused (CoinLedgerRepository.insert entry) db := by
  rw [Unrefused, CoinLedgerRepository.eval_insert, if_pos free]
  split
  · simp
  · exact fun refused => by cases Except.error.inj refused

theorem insertPoint_unrefused {entry : PointLedgerEntry}
    (free : findByKey db.pointLedger entry.idempotencyKey = none) :
    Unrefused (PointLedgerRepository.insert entry) db := by
  rw [Unrefused, PointLedgerRepository.eval_insert, if_pos free]
  split
  · simp
  · exact fun refused => by cases Except.error.inj refused

/-- The credit of the agency looks for its own row before it writes it. -/
theorem creditRow_unrefused (userId : UserId) (amount : Int) (txType : PointTxType)
    (options : PointOptions) : Unrefused (PointWallet.creditRow userId amount txType options) db := by
  refine unrefused_ensure_bind (by decide) fun _ => unrefused_select_bind ?_
  cases found : findByKey db.pointLedger options.idempotencyKey with
  | some row => exact unrefused_pure _
  | none =>
    change Unrefused (PointLedgerRepository.insert _ >>= fun entry => pure (entry, true)) db
    exact (insertPoint_unrefused found).bind fun _ _ _ => unrefused_pure _

theorem markCommissionProcessed_unrefused (hostEntry : LedgerKey) :
    Unrefused (markCommissionProcessed hostEntry) db := by
  change Unrefused (if db.commissionProcessed.contains hostEntry then pure false
    else _ : LedgerTx Bool) db
  split
  · exact unrefused_pure _
  · exact fun refused => by cases refused

theorem applyCommission_unrefused (now : Time) (hostUserId : UserId) (hostEntry : LedgerKey)
    (hostPointsCredited : Int) (hostTxType : PointTxType) :
    Unrefused (applyCommission now hostUserId hostEntry hostPointsCredited hostTxType) db := by
  refine unrefused_select_bind ?_
  split
  · exact unrefused_pure _
  next agencyUserId _ =>
    split
    · refine unrefused_select_bind ?_
      split
      · exact (markCommissionProcessed_unrefused hostEntry).bind fun _ _ _ => unrefused_pure _
      · refine unrefused_select_bind ?_
        split
        · exact fun refused => by cases Except.error.inj refused
        · refine (markCommissionProcessed_unrefused hostEntry).bind fun fresh db' _ => ?_
          split
          · refine Unrefused.bind (unrefused_when (unrefused_select_bind ?_)) fun _ _ _ =>
              unrefused_pure _
            exact (creditRow_unrefused _ _ _ _).bind fun _ _ _ => unrefused_pure _
          · exact unrefused_pure _
    · exact unrefused_pure _

/-- A tick whose two keys are free may fail for other reasons, but not as a duplicate. -/
theorem tickTx_unrefused (env : Environment) (sessionId : Nat) (session : VideoCallSession)
    {minute : Nat} (callerDebit : Int)
    (coinFree : findByKey db.coinLedger (.videoCallCoin sessionId minute) = none)
    (pointFree : findByKey db.pointLedger (.videoCallPoint sessionId minute) = none) :
    Unrefused (tickTx env sessionId session minute callerDebit) db := by
  change Unrefused (Tx.ensure _ insufficientCoins >>= fun _ => _) db
  refine unrefused_ensure_bind (by decide) fun _ => ?_
  refine (insertCoin_unrefused coinFree).bind fun entry db₁ inserted => ?_
  obtain ⟨-, -, -, rfl⟩ := CoinLedgerRepository.insert_ok inserted
  refine (applyCredit_unrefused _ _ _).bind fun level db₂ levelled => ?_
  have points : db₂.pointLedger = db.pointLedger :=
    (applyCredit_keepsPoints levelled).trans rfl
  change Unrefused (PointLedgerRepository.insert _ >>= fun _ => _) db₂
  refine (insertPoint_unrefused (by rw [points]; exact pointFree)).bind fun ptEntry db₃ _ => ?_
  refine (applyCommission_unrefused _ _ _ _ _).bind fun _ db₄ _ => ?_
  exact (applyCredit_unrefused _ _ _).bind fun _ _ _ => unrefused_pure _

end Unrefused

theorem afterTick_returns (sessionId : Nat) (session : VideoCallSession) (callerDebit : Int)
    (db : MoneyDb) : ∃ result, ((afterTick sessionId session callerDebit).call db).1 = .ok result := by
  simp only [afterTick, incrementMinute, Prog.call_autocommit_bind, Prog.call_select_bind]
  split
  · exact ⟨_, rfl⟩
  · exact ⟨_, rfl⟩

theorem tick_unrefused (env : Environment) (sessionId : Nat) (callerId : UserId) {db : MoneyDb}
    (free : ∀ session, db.session sessionId = some session →
      findByKey db.coinLedger (.videoCallCoin sessionId (session.minsCharged + 1)) = none ∧
      findByKey db.pointLedger (.videoCallPoint sessionId (session.minsCharged + 1)) = none) :
    ((tick env sessionId callerId).call db).1 ≠ .error .uniqueViolation := by
  rw [tick, Prog.call_select_bind]
  cases found : db.session sessionId with
  | none => exact fun refused => by cases Except.error.inj refused
  | some session =>
    obtain ⟨coinFree, pointFree⟩ := free session found
    dsimp only
    rw [Prog.call_ensure_bind]
    split
    · rw [Prog.call_ensure_bind]
      split
      · rw [tickActive, Prog.call_select_bind]
        split
        next error isError =>
          have other : error ≠ .uniqueViolation := by
            rintro rfl
            revert isError
            cases db.freezeFlags session.callerId with
            | none => exact fun impossible => by cases impossible
            | some flags =>
              unfold coinDebitRefusal
              dsimp only
              split
              · exact fun impossible => by cases impossible
              · exact fun impossible => by cases impossible
          unfold Prog.when
          split
          · exact fun refused => other (Except.error.inj refused)
          · exact fun refused => other (Except.error.inj refused)
        · rw [Prog.call_transaction_bind]
          have unrefused := tickTx_unrefused env sessionId session
            (callerCoinDebitForCall session.pricePerMin env.shares.videoCallHostShareBp)
            coinFree pointFree
          split
          next r ended =>
            obtain ⟨result, returned⟩ := afterTick_returns sessionId session
              (callerCoinDebitForCall session.pricePerMin env.shares.videoCallHostShareBp) r.2
            rw [returned]
            exact fun refused => by cases refused
          next error failed =>
            rw [Unrefused, failed] at unrefused
            exact fun refused => unrefused (by rw [Except.error.inj refused])
      · exact fun refused => by cases Except.error.inj refused
    · exact fun refused => by cases Except.error.inj refused

/-! ### Runs -/

/-- Each minute is charged once; the counters are the rows while no tick is between its charge and
its counter update, and then the next tick is not refused; a charge is made only on a call that is
being set up or active. -/
structure BilledOnce (sessionId : Nat) (c : VideoConfig) : Prop where
  once : (minutes sessionId c.db).Nodup
  counters : nobodyOwes sessionId c = true →
    ∀ session, c.db.session sessionId = some session →
      session.minsCharged = (charges sessionId c.db).length ∧
      session.coinsDeducted = ((charges sessionId c.db).map (·.amount)).sum ∧
      session.pointsAwarded = ((credits sessionId c.db).map (·.amount)).sum
  nextTick : nobodyOwes sessionId c = true → ∀ env callerId,
    ((tick env sessionId callerId).call c.db).1 ≠ .error .uniqueViolation
  whileOpen : ∀ e c', InOrder c e → c.apply handler e = some c' →
    minutes sessionId c'.db ≠ minutes sessionId c.db →
    ∃ session, c.db.session sessionId = some session ∧
      (session.status = .ringing ∨ session.status = .active)

def NoCalls (db : MoneyDb) : Prop :=
  ∀ sessionId, db.session sessionId = none ∧ charges sessionId db = [] ∧ credits sessionId db = []

theorem NoCalls.ownId {db : MoneyDb} (fresh : NoCalls db) (sessionId : Nat) :
    OwnId sessionId (callRows db sessionId) := by
  intro session found
  have vacant : (callRows db sessionId).session = none := (fresh sessionId).1
  rw [vacant] at found
  cases found

theorem billing_of_run {db : MoneyDb} {c : VideoConfig} (fresh : NoCalls db)
    (run : Reaches handler InOrder (Config.idle db) c) :
    ∃ phase, Phased debts c phase ∧ Billing c phase := by
  refine run.phased Billing (fun _ request allowed => handler_follows request allowed.1) ?_ ?_
  · intro id
    obtain ⟨vacant, coins, points⟩ := fresh id
    have absent : (callRows db id).session = none := vacant
    refine ⟨none, fun _ _ impossible => (by cases impossible), ?_⟩
    unfold Account
    rw [Config.idle, absent]
    exact ⟨coins, points, rfl⟩
  · intro c e c' phase phase' before phased billing allowed applied move
    exact billing.step before fresh.ownId phased allowed applied move

/-- A session whose account is settled has the keys of its next minute free. -/
theorem Accounted.free {sessionId : Nat} {db : MoneyDb} {session : VideoCallSession}
    (account : Accounted (callRows db sessionId) (tickRows db sessionId) session none) :
    findByKey db.coinLedger (.videoCallCoin sessionId (session.minsCharged + 1)) = none ∧
      findByKey db.pointLedger (.videoCallPoint sessionId (session.minsCharged + 1)) = none := by
  have last : session.minsCharged + 1 ∉
      (tickRows db sessionId).coins.map fun e => minuteOf e.idempotencyKey := by
    intro member
    have charged : session.minsCharged + 1 ∈ List.range' 1 (session.minsCharged + 0) := by
      refine account.minutes.mem_iff.mp ?_
      rw [List.map_append]
      exact List.mem_append_right _ member
    rw [List.mem_range'_1] at charged
    omega
  constructor
  · refine (findByKey_eq_none _).mpr fun e member key => last ?_
    refine List.mem_map.mpr ⟨e, List.mem_filter.mpr ⟨member, ?_⟩, by rw [key]; rfl⟩
    rw [key]
    simp [tickCoinMinute]
  · refine (findByKey_eq_none _).mpr fun e member key => last ?_
    rw [← account.paired]
    refine List.mem_map.mpr ⟨e, List.mem_filter.mpr ⟨member, ?_⟩, by rw [key]; rfl⟩
    rw [key]
    simp [tickPointMinute]

section Charging

variable {sessionId i : Nat} {c c' : VideoConfig} {db : MoneyDb}
  {t : Thread Request MoneyDb Lock LedgerError}

/-- The internal ledger charges sessions that ring or are active. -/
theorem open_of_moves {v v' : CallRows} {request : InternalLedger.Request}
    (moves : MovesSession sessionId v v' request) (charged : v'.coins ≠ v.coins) :
    ∃ session, v.session = some session ∧ (session.status = .ringing ∨ session.status = .active) := by
  cases request with
  | callAccept input =>
    obtain ⟨-, session, session', coin, point, books, -⟩ := moves
    exact ⟨session, books.before, .inl books.status⟩
  | callMinute input =>
    obtain ⟨-, session, session', coin, point, books, -⟩ := moves
    exact ⟨session, books.before, .inr books.status⟩
  | createSession session =>
    obtain ⟨-, -, rfl⟩ := moves
    exact absurd rfl charged
  | closeSession closed status =>
    obtain ⟨-, rfl⟩ := moves
    exact absurd rfl charged
  | _ => exact moves.elim

/-- A commit that charges, in order, finds the call open. -/
theorem open_of_commit {phase : Nat → Option Debt} {g : Option Debt} (fresh : NoCalls db)
    (run : Reaches handler InOrder (Config.idle db) c) (allowed : InOrder c (.advance i))
    (applied : c.apply handler (.advance i) = some c') (found : c.threads[i]? = some t)
    (step : debts.next t.request (phase i) t.view g) (now : c'.db = t.view c.db)
    (charged : minutes sessionId c'.db ≠ minutes sessionId c.db) :
    ∃ session, c.db.session sessionId = some session ∧
      (session.status = .ringing ∨ session.status = .active) := by
  cases isRequest : t.request with
  | tick env s callerId =>
    rw [isRequest] at step
    rcases step with ⟨minute, debt, rfl, -, -, charges⟩ | ⟨debt, rfl, -, -, counted⟩ |
      ⟨-, -, status, -, -, ended⟩
    · by_cases same : sessionId = debt.sessionId
      · subst same
        obtain ⟨-, session, row, active, -⟩ :=
          tick_charges_next run found isRequest charges allowed applied now
        exact ⟨session, row, .inr active⟩
      · obtain ⟨coin, point, -, -, -, -, rows⟩ := charges
        obtain ⟨calls, ticks⟩ := rows c.db
        refine absurd ?_ charged
        rw [now, minutes, VideoCalls.charges, calls, ticks, Function.update_of_ne same]
        rfl
    · rw [now, counted] at charged
      exact absurd rfl charged
    · rw [now, ended] at charged
      exact absurd rfl charged
  | endCall s requesterId =>
    rw [isRequest] at step
    obtain ⟨-, -, status, -, -, ended⟩ := step
    rw [now, ended] at charged
    exact absurd rfl charged
  | ledger call =>
    rw [isRequest] at step
    have ticks : tickRows c'.db = tickRows c.db := by rw [now, step.2.2]
    have internal : (callRows c'.db sessionId).coins ≠ (callRows c.db sessionId).coins := by
      intro same
      rw [minutes, minutes, charges, charges, same, ticks] at charged
      exact charged rfl
    rcases ledger_moves run fresh.ownId found isRequest applied sessionId with same | moves
    · rw [same] at internal
      exact absurd rfl internal
    · exact open_of_moves moves internal

end Charging

/-- In every run whose steps are all in order, the two paths together bill every session once. -/
theorem ticks_billed_once {db : MoneyDb} {c : VideoConfig} (fresh : NoCalls db)
    (run : Reaches handler InOrder (Config.idle db) c) (sessionId : Nat) :
    BilledOnce sessionId c := by
  obtain ⟨phase, phased, billing⟩ := billing_of_run fresh run
  obtain ⟨owed, by_, account⟩ := billing sessionId
  have settled : nobodyOwes sessionId c = true → ∀ session,
      c.db.session sessionId = some session →
      Accounted (callRows c.db sessionId) (tickRows c.db sessionId) session none := by
    intro nobody session found
    rw [by_.unique (settled_of_nobodyOwes phased billing nobody)] at account
    exact (account_some found).mp account
  refine ⟨account.nodup, fun nobody session found => ?_, fun nobody env callerId => ?_, ?_⟩
  · have right := settled nobody session found
    have counted := right.minutes.length_eq
    simp only [List.length_map, List.length_range', owedMinutes, Nat.add_zero] at counted
    refine ⟨counted.symm, ?_, ?_⟩
    · simpa [owedCoins, charges] using right.coins.symm
    · simpa [owedPoints, credits] using right.points.symm
  · exact tick_unrefused env sessionId callerId fun session found =>
      (settled nobody session found).free
  · intro e c' allowed applied charged
    obtain ⟨phase', -, move⟩ := phased.apply
      (fun request started => handler_follows request (started ▸ allowed.1)) applied
    cases move with
    | started request same => exact absurd (by rw [same]) charged
    | still i same => exact absurd (by rw [same]) charged
    | committed i t g found step now =>
      exact open_of_commit fresh run allowed applied found step now charged
    | died i t found same => exact absurd (by rw [same]) charged

theorem noCalls_empty : NoCalls MoneyDb.empty := fun _ => ⟨rfl, rfl, rfl⟩

private def checkBeside : Event Request → Bool
  | .start (.ledger ⟨_, .wallet ops⟩) => ops.all fun op =>
      coinMinute op.key = none ∧ pointMinute op.key = none ∧
        tickCoinMinute op.key = none ∧ tickPointMinute op.key = none
  | .start (.ledger ⟨_, .closeSession _ status⟩) => status ≠ .ringing ∧ status ≠ .active
  | _ => true

private theorem checkBeside_sound (e : Event Request) (checked : checkBeside e = true) :
    Beside e := by
  unfold checkBeside at checked
  split at checked
  · intro op member
    have all := List.all_eq_true.mp checked op member
    rw [decide_eq_true_eq] at all
    exact ⟨⟨all.1, all.2.1⟩, all.2.2⟩
  · rw [decide_eq_true_eq] at checked
    exact checked
  next other other' =>
    unfold Beside
    split
    · exact absurd rfl (other _ _)
    · exact absurd rfl (other' _ _ _)
    · trivial

private def checkOrder (c : VideoConfig) (e : Event Request) : Bool := checkBeside e && inOrder c e

private theorem checkOrder_sound (c : VideoConfig) (e : Event Request)
    (checked : checkOrder c e = true) : InOrder c e := by
  rw [checkOrder, Bool.and_eq_true] at checked
  exact ⟨checkBeside_sound e checked.1, checked.2⟩

/-- The caller tops up and is in a call with host 2. -/
def inCall : List (Event Request) :=
  serve (Request.ledger (topUp 1 1000 1)) 0 7 ++
  serve (Request.ledger ⟨noon, .createSession { ringing with status := .active }⟩) 1 4

/-- Minute 1 is billed by a tick and minute 2 by the internal ledger. -/
theorem ticks_billed_once_bothPaths :
    ∃ c : VideoConfig, Reaches handler InOrder (Config.idle MoneyDb.empty) c ∧
      minutes 5 c.db = [2, 1] ∧ BilledOnce 5 c := by
  obtain ⟨c, run, passed⟩ : ∃ c, Reaches handler InOrder (Config.idle MoneyDb.empty) c ∧
      minutes 5 c.db = [2, 1] :=
    exists_reaches_checked checkOrder_sound [inCall, serve (.tick noon 5 1) 2 25,
      serve (.ledger ⟨noon, .callMinute ⟨9, 5, 2⟩⟩) 3 25] (by decide +kernel)
  exact ⟨c, run, passed, ticks_billed_once noCalls_empty run 5⟩

/-- A tick has charged minute 2 and not counted it yet when the internal ledger bills minute 2. -/
theorem not_ticks_billed_once :
    ¬ ∀ (db : MoneyDb) (c : VideoConfig) (sessionId : Nat), NoCalls db →
      Reaches handler (fun _ e => Beside e) (Config.idle db) c → BilledOnce sessionId c := by
  intro claim
  obtain ⟨c, run, passed⟩ : ∃ c, Reaches handler (fun _ e => Beside e)
      (Config.idle MoneyDb.empty) c ∧ minutes 5 c.db = [2, 1, 2] :=
    exists_reaches_checked (fun _ e => checkBeside_sound e) [inCall, serve (.tick noon 5 1) 2 25,
      serve (.tick noon 5 1) 3 22, serve (.ledger ⟨noon, .callMinute ⟨9, 5, 2⟩⟩) 4 25]
      (by decide +kernel)
  have once := (claim MoneyDb.empty c 5 noCalls_empty run).once
  rw [passed] at once
  exact absurd once (by decide)

end OlNode.VideoCalls
