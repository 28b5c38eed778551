import OlNode.VideoCall.Sessions

/-!
# When ticks, ends and the internal ledger bill a session correctly together

The counters of a session agree with its rows, up to what one tick still owes, as long as no charge
is made on a session that has moved on since the tick has read it, no charge is made while a tick
owes its counter update, and no tick dies in between.
-/
namespace OlNode.VideoCalls

open ReadCommitted InternalLedger

/-! ### The account of a session -/

def owedMinutes : Option Debt → Nat
  | none => 0
  | some _ => 1

def owedCoins (owed : Option Debt) : Int := (owed.map (·.coins)).getD 0

def owedPoints (owed : Option Debt) : Int := (owed.map (·.points)).getD 0

/-- The rows of the session are its counters and what is still owed; minutes 1 to the last were
charged once each. -/
structure Accounted (v : CallRows) (ticks : TickRows) (session : VideoCallSession)
    (owed : Option Debt) : Prop where
  minutes : ((v.coins ++ ticks.coins).map fun e => minuteOf e.idempotencyKey).Perm
    (List.range' 1 (session.minsCharged + owedMinutes owed))
  coins : ((v.coins ++ ticks.coins).map (·.amount)).sum = session.coinsDeducted + owedCoins owed
  points : ((v.points ++ ticks.points).map (·.amount)).sum =
    session.pointsAwarded + owedPoints owed
  paired : (ticks.points.map fun e => minuteOf e.idempotencyKey) =
    ticks.coins.map fun e => minuteOf e.idempotencyKey
  ringing : session.status = .ringing → session.minsCharged = 0 ∧ session.coinsDeducted = 0 ∧
    session.pointsAwarded = 0 ∧ owed = none

/-- A session that does not exist was never charged. -/
def Account (v : CallRows) (ticks : TickRows) (owed : Option Debt) : Prop :=
  match v.session with
  | none => v.coins ++ ticks.coins = [] ∧ v.points ++ ticks.points = [] ∧ owed = none
  | some session => Accounted v ticks session owed

section Account

variable {v v' : CallRows} {ticks : TickRows} {session session' : VideoCallSession}
  {owed : Option Debt} {coin : CoinLedgerEntry} {point : PointLedgerEntry}

theorem account_some (found : v.session = some session) :
    Account v ticks owed ↔ Accounted v ticks session owed := by
  simp [Account, found]

theorem Accounted.charge (account : Accounted v ticks session none) {debt : Debt}
    (active : session.status = .active)
    (minute : minuteOf coin.idempotencyKey = session.minsCharged + 1)
    (same : minuteOf point.idempotencyKey = minuteOf coin.idempotencyKey)
    (coins : coin.amount = debt.coins) (points : point.amount = debt.points) :
    Accounted v ⟨ticks.coins ++ [coin], ticks.points ++ [point]⟩ session (some debt) := by
  refine ⟨?_, ?_, ?_, by simp [account.paired, same], fun ringing => ?_⟩
  · have appended := account.minutes.append_right [session.minsCharged + 1]
    simp only [owedMinutes, Nat.add_zero] at appended
    rw [owedMinutes, List.range'_1_concat, Nat.add_comm 1]
    simpa [minute] using appended
  · have sum := account.coins
    simp only [owedCoins, Option.map_none, Option.getD_none, Int.add_zero] at sum
    rw [← List.append_assoc, List.map_append, List.sum_append, sum]
    simp [owedCoins, coins]
  · have sum := account.points
    simp only [owedPoints, Option.map_none, Option.getD_none, Int.add_zero] at sum
    rw [← List.append_assoc, List.map_append, List.sum_append, sum]
    simp [owedPoints, points]
  · rw [active] at ringing
    cases ringing

theorem Accounted.count {debt : Debt} (account : Accounted v ticks session (some debt)) :
    Accounted { v with session := some (countMinute debt.coins debt.points session) } ticks
      (countMinute debt.coins debt.points session) none := by
  refine ⟨account.minutes, ?_, ?_, account.paired, fun ringing => ?_⟩
  · simpa [owedCoins, countMinute] using account.coins
  · simpa [owedPoints, countMinute] using account.points
  · have impossible := (account.ringing ringing).2.2.2
    cases impossible

theorem Accounted.close {status : CallStatus} (account : Accounted v ticks session owed)
    (closed : status ≠ .ringing) :
    Accounted { v with session := some { session with status } } ticks { session with status }
      owed :=
  ⟨account.minutes, account.coins, account.points, account.paired,
    fun ringing => absurd ringing closed⟩

variable (coin point) in
/-- A minute of the internal ledger, on top of rows that the counters agree with. -/
theorem Accounted.book (account : Accounted v ticks session none)
    (active : session'.status = .active)
    (minute : minuteOf coin.idempotencyKey = session.minsCharged + 1)
    (counted : session'.minsCharged = session.minsCharged + 1)
    (deducted : session'.coinsDeducted = session.coinsDeducted + coin.amount)
    (awarded : session'.pointsAwarded = session.pointsAwarded + point.amount)
    (coins : v'.coins = v.coins ++ [coin]) (points : v'.points = v.points ++ [point]) :
    Accounted v' ticks session' none := by
  have coinRows : (v'.coins ++ ticks.coins).Perm ((v.coins ++ ticks.coins) ++ [coin]) := by
    rw [coins, List.append_assoc, List.append_assoc]
    exact List.perm_append_comm.append_left v.coins
  have pointRows : (v'.points ++ ticks.points).Perm ((v.points ++ ticks.points) ++ [point]) := by
    rw [points, List.append_assoc, List.append_assoc]
    exact List.perm_append_comm.append_left v.points
  refine ⟨?_, ?_, ?_, account.paired, fun ringing => ?_⟩
  · refine (coinRows.map _).trans ?_
    have appended := account.minutes.append_right [session.minsCharged + 1]
    simp only [owedMinutes, Nat.add_zero] at appended
    rw [owedMinutes, Nat.add_zero, counted, List.range'_1_concat, Nat.add_comm 1]
    simpa [minute] using appended
  · have sum := account.coins
    simp only [owedCoins, Option.map_none, Option.getD_none, Int.add_zero] at sum
    rw [(coinRows.map (·.amount)).sum_eq, List.map_append, List.sum_append, sum, deducted]
    simp [owedCoins]
  · have sum := account.points
    simp only [owedPoints, Option.map_none, Option.getD_none, Int.add_zero] at sum
    rw [(pointRows.map (·.amount)).sum_eq, List.map_append, List.sum_append, sum, awarded]
    simp [owedPoints]
  · rw [active] at ringing
    cases ringing

/-- The minutes are 1, 2, … in some order, so none was charged twice. -/
theorem Account.nodup (account : Account v ticks owed) :
    ((v.coins ++ ticks.coins).map fun e => minuteOf e.idempotencyKey).Nodup := by
  unfold Account at account
  split at account
  · rw [account.1]
    exact List.nodup_nil
  · exact account.minutes.nodup_iff.mpr List.nodup_range'

end Account

/-! ### The condition on each step -/

/-- The session a request is about, if it may charge or end one. -/
def Request.session : Request → Option Nat
  | .tick _ sessionId _ => some sessionId
  | .endCall sessionId _ => some sessionId
  | .ledger ⟨_, .callAccept input⟩ => some input.sessionId
  | .ledger ⟨_, .callMinute input⟩ => some input.sessionId
  | .ledger _ => none

def Request.isTick : Request → Bool
  | .tick _ _ _ => true
  | _ => false

def counter (sessionId : Nat) (db : MoneyDb) : Option Nat :=
  (db.session sessionId).map (·.minsCharged)

/-- The thread is between its charge and its counter update: what it commits next raises the
counter and charges nothing. -/
def owes (sessionId : Nat) (db : MoneyDb) (t : Thread Request MoneyDb Lock LedgerError) : Bool :=
  (t.prog.segment (t.view db)).any fun r =>
    minutes sessionId r.1 = minutes sessionId db ∧ counter sessionId r.1 ≠ counter sessionId db

def nobodyOwes (sessionId : Nat) (c : VideoConfig) : Bool :=
  c.threads.all fun t => !owes sessionId c.db t

def charging (sessionId : Nat) (c : VideoConfig) (e : Event Request) : Bool :=
  (c.apply handler e).any fun c' => minutes sessionId c'.db ≠ minutes sessionId c.db

/-- A tick begun at this very moment would charge the same minute. -/
def upToDate (sessionId : Nat) (c : VideoConfig) (t : Thread Request MoneyDb Lock LedgerError) :
    Bool :=
  (t.origin.segment c.db).any fun r => minutes sessionId r.1 = minutes sessionId (t.view c.db)

/-- A charge is made while no tick owes its counter update and, by a tick, only if it rests on
nothing stale; a tick that owes its counter update does not die. -/
def inOrder (c : VideoConfig) : Event Request → Bool
  | .start _ => true
  | .advance i => (c.threads[i]?).all fun t => t.request.session.all fun sessionId =>
      !charging sessionId c (.advance i) ||
        (nobodyOwes sessionId c && (!t.request.isTick || upToDate sessionId c t))
  | .crash i => (c.threads[i]?).all fun t => t.request.session.all fun sessionId =>
      !owes sessionId c.db t

def InOrder (c : VideoConfig) (e : Event Request) : Prop := Beside e ∧ inOrder c e = true

/-! ### What a tick charges -/

def ChargesNobody (w : MoneyDb → MoneyDb) : Prop :=
  ∀ db sessionId, minutes sessionId (w db) = minutes sessionId db

theorem minutes_modifySession (db : MoneyDb) (changed : Nat)
    (f : VideoCallSession → VideoCallSession) (sessionId : Nat) :
    minutes sessionId (MoneyDb.modifySession db changed f) = minutes sessionId db := rfl

theorem Charges.minutes {minute : Nat} {debt : Debt} {w : MoneyDb → MoneyDb}
    (charged : Charges minute debt w) (db : MoneyDb) :
    minutes debt.sessionId (w db) = minutes debt.sessionId db ++ [minute] := by
  obtain ⟨coin, point, coinKey, -, -, -, rows⟩ := charged
  obtain ⟨calls, ticks⟩ := rows db
  simp [VideoCalls.minutes, charges, calls, ticks, coinKey, minuteOf]

theorem afterTick_chargesNobody (sessionId : Nat) (session : VideoCallSession)
    (callerDebit : Int) : (afterTick sessionId session callerDebit).Commits ChargesNobody id := by
  refine .bind (Prog.commits_autocommit fun _ _ => rfl) fun _ => ?_
  refine Prog.commits_select_bind fun db => ?_
  split
  · exact Prog.commits_pure _
  · exact .bind (Prog.commits_autocommit fun _ _ => rfl) fun _ => Prog.commits_pure _

theorem tick_commitsAfterFirst (env : Environment) (sessionId : Nat) (callerId : UserId) :
    (handler (.tick env sessionId callerId)).CommitsAfterFirst ChargesNobody := by
  refine .forget (Prog.commitsAfterFirst_select_bind fun db => ?_)
  split
  · trivial
  next session _ =>
    refine Prog.commitsAfterFirst_ensure_bind fun _ => ?_
    refine Prog.commitsAfterFirst_ensure_bind fun _ => ?_
    refine Prog.commitsAfterFirst_select_bind fun db' => ?_
    split
    · unfold Prog.when
      split
      · exact Prog.commitsAfterFirst_transaction_bind fun _ => Prog.commits_fail _
      · trivial
    · exact Prog.commitsAfterFirst_transaction_bind fun _ => afterTick_chargesNobody sessionId _ _

/-- What a tick that runs alone up to its first commit charges. -/
theorem tick_segment {env : Environment} {sessionId : Nat} {callerId : UserId} {db db' : MoneyDb}
    {k : LedgerProg Unit}
    (ran : (handler (.tick env sessionId callerId)).segment db = some (db', k)) :
    minutes sessionId db' = minutes sessionId db ∨
      ∃ session, db.session sessionId = some session ∧ session.status = .active ∧
        minutes sessionId db' = minutes sessionId db ++ [session.minsCharged + 1] := by
  rw [handler, tick, Prog.forget_bind, Prog.segment_select_bind] at ran
  cases found : db.session sessionId with
  | none =>
    rw [found] at ran
    cases ran
  | some session =>
    rw [found] at ran
    dsimp only at ran
    rw [Prog.forget_bind, Prog.segment_ensure_bind] at ran
    split at ran
    · rw [Prog.forget_bind, Prog.segment_ensure_bind] at ran
      split at ran
      next active =>
        rw [tickActive, Prog.forget_bind, Prog.segment_select_bind] at ran
        split at ran
        · rw [Prog.forget_bind, Prog.when] at ran
          split at ran
          · rw [endInternal, Prog.segment_autocommit_bind] at ran
            cases ran
            exact .inl rfl
          · cases ran
        · rw [Prog.forget_bind, Prog.segment_transaction_bind] at ran
          split at ran
          next r ended =>
            cases ran
            obtain ⟨w, charged, now⟩ := (tickTx_effects env sessionId session _ _).eval ended
            refine .inr ⟨session, rfl, by simpa using active, ?_⟩
            rw [now]
            exact charged.minutes db
          next => cases ran
      next => cases ran
    · cases ran

/-! ### Runs -/

/-- What is owed to the session by all threads together; at most one owes anything. -/
def OwedBy (sessionId : Nat) (phase : Nat → Option Debt) : Option Debt → Prop
  | none => ∀ i debt, phase i = some debt → debt.sessionId ≠ sessionId
  | some debt => debt.sessionId = sessionId ∧ ∃ i, phase i = some debt ∧
      ∀ j debt', phase j = some debt' → debt'.sessionId = sessionId → j = i

/-- Every session's account is right up to what is owed. -/
def Billing (c : VideoConfig) (phase : Nat → Option Debt) : Prop :=
  ∀ sessionId, ∃ owed, OwedBy sessionId phase owed ∧
    Account (callRows c.db sessionId) (tickRows c.db sessionId) owed

section Steps

variable {sessionId : Nat} {phase : Nat → Option Debt} {owed : Option Debt} {i : Nat}
  {c c' : VideoConfig}

/-- A thread that owes the session nothing before and after does not matter to it. -/
theorem OwedBy.update (by_ : OwedBy sessionId phase owed) {debt : Option Debt}
    (before : ∀ d, phase i = some d → d.sessionId ≠ sessionId)
    (after : ∀ d, debt = some d → d.sessionId ≠ sessionId) :
    OwedBy sessionId (Function.update phase i debt) owed := by
  cases owed with
  | none =>
    intro j d changed
    by_cases same : j = i
    · subst same
      rw [Function.update_self] at changed
      exact after d changed
    · rw [Function.update_of_ne same] at changed
      exact by_ j d changed
  | some d =>
    obtain ⟨own, k, owes, only⟩ := by_
    have other : k ≠ i := by
      rintro rfl
      exact before d owes own
    refine ⟨own, k, ?_, fun j d' changed ownToo => ?_⟩
    · rw [Function.update_of_ne other]
      exact owes
    · by_cases same : j = i
      · subst same
        rw [Function.update_self] at changed
        exact absurd ownToo (after d' changed)
      · rw [Function.update_of_ne same] at changed
        exact only j d' changed ownToo

variable {debt : Debt}

theorem OwedBy.paid (by_ : OwedBy debt.sessionId phase owed) (owes : phase i = some debt) :
    owed = some debt ∧ OwedBy debt.sessionId (Function.update phase i none) none := by
  cases owed with
  | none => exact absurd rfl (by_ i debt owes)
  | some d =>
    obtain ⟨own, k, owesToo, only⟩ := by_
    have this := only i debt owes rfl
    subst this
    rw [owes, Option.some.injEq] at owesToo
    subst owesToo
    refine ⟨rfl, fun j d' changed ownToo => ?_⟩
    by_cases same : j = i
    · subst same
      rw [Function.update_self] at changed
      cases changed
    · rw [Function.update_of_ne same] at changed
      exact same (only j d' changed ownToo)

/-- The only one that owes has just charged. -/
theorem OwedBy.charged (by_ : OwedBy debt.sessionId phase none) :
    OwedBy debt.sessionId (Function.update phase i (some debt)) (some debt) := by
  refine ⟨rfl, i, Function.update_self .., fun j d changed own => ?_⟩
  by_contra other
  rw [Function.update_of_ne other] at changed
  exact by_ j d changed own

theorem OwedBy.unique (by_ : OwedBy sessionId phase owed) (settled : OwedBy sessionId phase none) :
    owed = none := by
  cases owed with
  | none => rfl
  | some debt =>
    obtain ⟨own, k, owing, -⟩ := by_
    exact absurd own (settled k debt owing)

theorem owes_of_debt (phased : Phased debts c phase) (owing : phase i = some debt)
    (exists_ : (c.db.session debt.sessionId).isSome = true) :
    ∃ t, c.threads[i]? = some t ∧ t.request.session = some debt.sessionId ∧
      owes debt.sessionId c.db t = true := by
  have bound : ¬ debts.mayEnd (phase i) := by
    rw [owing]
    exact fun impossible => by cases impossible
  obtain ⟨t, found, follows, -⟩ := phased.bound bound
  obtain ⟨w, g, k, step, segment⟩ := follows.segment bound (fun _ _ => bound) c.db
  rw [owing] at step
  obtain ⟨session, row⟩ := Option.isSome_iff_exists.mp exists_
  cases isRequest : t.request with
  | tick env s callerId =>
    rw [isRequest] at step
    rcases step with ⟨_, _, _, impossible, _⟩ | ⟨debt', own, same, -, rfl⟩ | ⟨impossible, _⟩
    · cases impossible
    · rw [Option.some.injEq] at same
      subst same
      refine ⟨t, found, by rw [isRequest, own]; rfl, ?_⟩
      have raised : counter debt.sessionId (counts debt c.db) ≠ counter debt.sessionId c.db := by
        simp [counts, counter, MoneyDb.modifySession, row, countMinute]
      have uncharged : minutes debt.sessionId (counts debt c.db) = minutes debt.sessionId c.db :=
        minutes_modifySession _ _ _ _
      simp [owes, segment, raised, uncharged]
    · cases impossible
  | endCall s requesterId =>
    rw [isRequest] at step
    cases step.1
  | ledger call =>
    rw [isRequest] at step
    cases step.1

/-- An event that concerns one session only. -/
theorem Billing.at_session {debt : Option Debt} (billing : Billing c phase) (s : Nat)
    (others : ∀ id, id ≠ s →
      callRows c'.db id = callRows c.db id ∧ tickRows c'.db id = tickRows c.db id)
    (before : ∀ d, phase i = some d → d.sessionId = s)
    (after : ∀ d, debt = some d → d.sessionId = s)
    (own : ∀ owed, OwedBy s phase owed → Account (callRows c.db s) (tickRows c.db s) owed →
      ∃ owed', OwedBy s (Function.update phase i debt) owed' ∧
        Account (callRows c'.db s) (tickRows c'.db s) owed') :
    Billing c' (Function.update phase i debt) := by
  intro id
  obtain ⟨owed, by_, account⟩ := billing id
  by_cases same : id = s
  · subst same
    exact own owed by_ account
  · obtain ⟨calls, ticks⟩ := others id same
    refine ⟨owed, by_.update ?_ ?_, ?_⟩
    · exact fun d owing mine => same (mine.symm.trans (before d owing))
    · exact fun d owing mine => same (mine.symm.trans (after d owing))
    · rw [calls, ticks]
      exact account

theorem Billing.ends {w : MoneyDb → MoneyDb} (billing : Billing c phase) (ends : Ends sessionId w)
    (now : c'.db = w c.db) (nothing : phase i = none) :
    Billing c' (Function.update phase i none) := by
  obtain ⟨status, notRinging, -, rfl⟩ := ends
  have rows := fun id => callRows_modifySession c.db sessionId
    (fun session => { session with status }) id
  refine billing.at_session sessionId (fun id other => ?_) ?_ ?_ fun owed by_ account => ?_
  · rw [now, rows id, if_neg other]
    exact ⟨rfl, rfl⟩
  · intro d owing
    rw [nothing] at owing
    cases owing
  · exact fun d owing => by cases owing
  · have unchanged : Function.update phase i none = phase := by
      rw [← nothing, Function.update_eq_self]
    rw [unchanged, now, rows sessionId, if_pos rfl]
    refine ⟨owed, by_, ?_⟩
    cases found : (callRows c.db sessionId).session with
    | none =>
      simp only [Account, found] at account ⊢
      exact account
    | some session =>
      rw [account_some found] at account
      exact (account_some rfl).mpr (account.close notRinging)

theorem Billing.counts (billing : Billing c phase) (owing : phase i = some debt)
    (now : c'.db = counts debt c.db) : Billing c' (Function.update phase i none) := by
  have rows := fun id => callRows_modifySession c.db debt.sessionId
    (countMinute debt.coins debt.points) id
  refine billing.at_session debt.sessionId (fun id other => ?_) ?_ ?_ fun owed by_ account => ?_
  · rw [now, VideoCalls.counts, rows id, if_neg other]
    exact ⟨rfl, rfl⟩
  · intro d owing'
    rw [owing, Option.some.injEq] at owing'
    rw [owing']
  · exact fun d owing' => by cases owing'
  · obtain ⟨rfl, paid⟩ := by_.paid owing
    refine ⟨none, paid, ?_⟩
    rw [now, VideoCalls.counts, rows debt.sessionId, if_pos rfl]
    cases found : (callRows c.db debt.sessionId).session with
    | none =>
      simp only [Account, found] at account
      cases account.2.2
    | some session =>
      rw [account_some found] at account
      exact (account_some rfl).mpr account.count

/-- A tick's charge of the next minute of an active session that nothing is owed to. -/
theorem Billing.charges {minute : Nat} {session : VideoCallSession} {w : MoneyDb → MoneyDb}
    (billing : Billing c phase) (nothing : phase i = none) (charged : Charges minute debt w)
    (now : c'.db = w c.db) (row : c.db.session debt.sessionId = some session)
    (active : session.status = .active) (next : minute = session.minsCharged + 1)
    (settled : OwedBy debt.sessionId phase none) :
    Billing c' (Function.update phase i (some debt)) := by
  obtain ⟨coin, point, coinKey, coins, pointKey, points, rows⟩ := charged
  obtain ⟨calls, ticks⟩ := rows c.db
  rw [← now] at calls ticks
  refine billing.at_session debt.sessionId (fun id other => ?_) ?_ ?_ fun owed by_ account => ?_
  · rw [calls, ticks, Function.update_of_ne other]
    exact ⟨rfl, rfl⟩
  · intro d owing
    rw [nothing] at owing
    cases owing
  · intro d owing
    rw [Option.some.injEq] at owing
    rw [owing]
  · have nobody := by_.unique settled
    subst nobody
    refine ⟨some debt, settled.charged, ?_⟩
    rw [calls, ticks, Function.update_self]
    have found : (callRows c.db debt.sessionId).session = some session := row
    rw [account_some found] at account
    refine (account_some found).mpr (account.charge active ?_ ?_ coins points)
    · rw [coinKey, next]
      rfl
    · rw [coinKey, pointKey]
      rfl

/-- What the internal ledger does to one session keeps its account. -/
theorem account_moves {v v' : CallRows} {ticks : TickRows} {call : Call}
    (account : Account v ticks owed) (beside : Beside (.start (.ledger call)))
    (moves : MovesSession sessionId v v' call.request)
    (settled : ∀ input, call.request = .callMinute input → owed = none) :
    Account v' ticks owed := by
  obtain ⟨env, request⟩ := call
  cases request with
  | callAccept input =>
    obtain ⟨-, session, session', coin, point, books, deducted, awarded⟩ := moves
    rw [account_some books.before] at account
    obtain ⟨uncounted, noCoins, noPoints, rfl⟩ := account.ringing books.status
    refine (account_some books.after).mpr (account.book coin point books.active
      ?_ ?_ ?_ ?_ books.coins books.points)
    · rw [books.coinKey, uncounted]
      rfl
    · rw [books.counted, uncounted]
    · rw [deducted, noCoins, Int.zero_add]
    · rw [awarded, noPoints, Int.zero_add]
  | callMinute input =>
    obtain ⟨-, session, session', coin, point, books, next, deducted, awarded⟩ := moves
    rw [settled input rfl, account_some books.before] at account
    rw [settled input rfl]
    refine (account_some books.after).mpr (account.book coin point books.active
      ?_ ?_ deducted awarded books.coins books.points)
    · rw [books.coinKey, next]
      rfl
    · rw [books.counted, next]
  | createSession session =>
    obtain ⟨-, vacant, rfl⟩ := moves
    simp only [Account, vacant] at account
    obtain ⟨coins, points, rfl⟩ := account
    refine ⟨?_, ?_, ?_, ?_, fun _ => ⟨rfl, rfl, rfl, rfl⟩⟩
    · simp [coins, owedMinutes]
    · simp [coins, owedCoins]
    · simp [points, owedPoints]
    · rw [(List.append_eq_nil_iff.mp coins).2, (List.append_eq_nil_iff.mp points).2]
      rfl
  | closeSession closed status =>
    obtain ⟨-, rfl⟩ := moves
    cases found : v.session with
    | none =>
      simp only [Account, found] at account ⊢
      exact account
    | some session =>
      rw [account_some found] at account
      exact (account_some rfl).mpr (account.close beside.1)
  | _ => exact moves.elim

variable {db : MoneyDb}

/-- In every run the requests are those that keep beside the calls. -/
theorem run_beside (run : Reaches handler InOrder (Config.idle db) c) :
    ∀ t ∈ c.threads, Beside (.start t.request) :=
  run.requests fun _ _ allowed => allowed.1

/-- What is owed is owed to a session that exists. -/
theorem Billing.session_of_debt (billing : Billing c phase) (owing : phase i = some debt) :
    (c.db.session debt.sessionId).isSome = true := by
  obtain ⟨owed, by_, account⟩ := billing debt.sessionId
  obtain ⟨rfl, -⟩ := by_.paid owing
  cases found : c.db.session debt.sessionId with
  | none =>
    have vacant : (callRows c.db debt.sessionId).session = none := found
    simp only [Account, vacant] at account
    cases account.2.2
  | some session => rfl

/-- While nobody owes a counter update, nothing is owed. -/
theorem settled_of_nobodyOwes (phased : Phased debts c phase) (billing : Billing c phase)
    (nobody : nobodyOwes sessionId c = true) : OwedBy sessionId phase none := by
  intro k debt owing own
  subst own
  obtain ⟨t, foundT, -, owes⟩ := owes_of_debt phased owing (billing.session_of_debt owing)
  have nothing := List.all_eq_true.mp nobody t (List.mem_of_getElem? foundT)
  rw [owes] at nothing
  cases nothing

variable {t : Thread Request MoneyDb Lock LedgerError}

/-- A tick that charges, in order, charges the next minute of an active session. -/
theorem tick_charges_next {minute : Nat} {env : Environment} {callerId : UserId}
    (run : Reaches handler InOrder (Config.idle db) c) (found : c.threads[i]? = some t)
    (isTick : t.request = .tick env debt.sessionId callerId)
    (charged : Charges minute debt t.view) (allowed : InOrder c (.advance i))
    (applied : c.apply handler (.advance i) = some c') (now : c'.db = t.view c.db) :
    nobodyOwes debt.sessionId c = true ∧ ∃ session, c.db.session debt.sessionId = some session ∧
      session.status = .active ∧ minute = session.minsCharged + 1 := by
  have added : minutes debt.sessionId c'.db = minutes debt.sessionId c.db ++ [minute] := by
    rw [now]
    exact charged.minutes c.db
  have charging : charging debt.sessionId c (.advance i) = true := by
    simp [VideoCalls.charging, applied, added]
  have order := allowed.2
  simp only [inOrder, found, Option.all_some, isTick, Request.session, Request.isTick, charging,
    Bool.not_true, Bool.false_or, Bool.and_eq_true] at order
  refine ⟨order.1, ?_⟩
  have ticks : ∀ request : Request, request.isTick = true →
      (handler request).CommitsAfterFirst ChargesNobody := by
    intro request own
    cases request with
    | tick env s callerId => exact tick_commitsAfterFirst env s callerId
    | _ => cases own
  rcases run.origins (fun request => request.isTick = true) ticks t (List.mem_of_getElem? found)
    (by rw [isTick]; rfl) with ⟨begun, -⟩ | later
  · have current := order.2
    rw [upToDate, begun, isTick] at current
    obtain ⟨r, ran, same⟩ := (Option.any_eq_true _ _).mp current
    rw [decide_eq_true_eq, ← now, added] at same
    rcases tick_segment ran with unchanged | ⟨session, row, active, next⟩
    · rw [unchanged] at same
      simp at same
    · rw [next, List.append_cancel_left_eq, List.cons.injEq] at same
      exact ⟨session, row, active, same.1.symm⟩
  · -- a tick that has ended its first transaction charges nobody
    obtain ⟨i', t₁, t', isAdvance, found', moves, -⟩ | impossible :=
      (Config.apply_cases applied).resolve_left (by rintro ⟨_, impossible, _⟩; cases impossible)
    · cases isAdvance
      rw [found, Option.some.injEq] at found'
      subst found'
      have kept : minutes debt.sessionId c'.db = minutes debt.sessionId c.db := by
        rcases (Thread.commits_moves later moves).2 with same | ⟨nobody, now'⟩
        · rw [same]
        · rw [now']
          exact nobody _ _
      rw [added] at kept
      simp at kept
    · obtain ⟨_, _, impossible, _⟩ := impossible
      cases impossible

/-- What a commit of the internal ledger does to a session. -/
theorem ledger_moves {call : Call} (run : Reaches handler InOrder (Config.idle db) c)
    (start : ∀ id, OwnId id (callRows db id)) (found : c.threads[i]? = some t)
    (isLedger : t.request = .ledger call) (applied : c.apply handler (.advance i) = some c')
    (id : Nat) :
    callRows c'.db id = callRows c.db id ∨
      MovesSession id (callRows c.db id) (callRows c'.db id) call.request := by
  have guarded : Guarded (sessionParts OwnId) Request.MayMove c :=
    run.guarded (fun _ request allowed => handler_safe request allowed.1) start
      fun _ _ _ _ _ _ => trivial
  rcases guarded.moves (fun _ _ _ => trivial) applied with same | ⟨i', t', isAdvance, found', unchanged | moved⟩
  · exact .inl (by rw [same])
  · exact .inl (congrFun unchanged id)
  · cases isAdvance
    rw [found, Option.some.injEq] at found'
    subst found'
    rw [isLedger] at moved
    exact moved id

/-- The internal ledger bills a minute only while no tick owes its counter update. -/
theorem callMinute_alone {call : Call} {input : CallMinuteInput} (found : c.threads[i]? = some t)
    (isLedger : t.request = .ledger call) (isMinute : call.request = .callMinute input)
    (moves : MovesSession sessionId (callRows c.db sessionId) (callRows c'.db sessionId) call.request)
    (ticks : tickRows c'.db sessionId = tickRows c.db sessionId)
    (allowed : InOrder c (.advance i)) (applied : c.apply handler (.advance i) = some c') :
    nobodyOwes sessionId c = true := by
  obtain ⟨env, request⟩ := call
  change request = .callMinute input at isMinute
  subst isMinute
  obtain ⟨own, session, session', coin, point, books, -⟩ := moves
  have added : (minutes sessionId c'.db).length = (minutes sessionId c.db).length + 1 := by
    simp [minutes, charges, books.coins, ticks]
    omega
  have charging : charging sessionId c (.advance i) = true := by
    simp only [VideoCalls.charging, applied, Option.any_some, decide_eq_true_eq]
    intro same
    rw [same] at added
    omega
  have order := allowed.2
  simp only [inOrder, found, Option.all_some, isLedger, Request.session, own, charging,
    Bool.not_true, Bool.false_or, Bool.and_eq_true] at order
  exact order.1

/-- Every step that is in order keeps every session's account. -/
theorem Billing.step {e : Event Request} {phase' : Nat → Option Debt}
    (run : Reaches handler InOrder (Config.idle db) c) (start : ∀ id, OwnId id (callRows db id))
    (phased : Phased debts c phase) (billing : Billing c phase) (allowed : InOrder c e)
    (applied : c.apply handler e = some c') (move : PhaseMove debts c c' phase e phase') :
    Billing c' phase' := by
  cases move with
  | started request same =>
    intro id
    obtain ⟨owed, by_, account⟩ := billing id
    refine ⟨owed, by_.update ?_ ?_, ?_⟩
    · rw [phased.absent _ (Nat.le_refl _)]
      exact fun d impossible => by cases impossible
    · exact fun d impossible => by cases impossible
    · rw [same]
      exact account
  | still i same =>
    intro id
    rw [same]
    exact billing id
  | died i t found same =>
    have nothing : phase i = none := by
      cases owing : phase i with
      | none => rfl
      | some debt =>
        obtain ⟨t', found', own, owes⟩ :=
          owes_of_debt phased owing (billing.session_of_debt owing)
        have order := allowed.2
        simp [inOrder, found', own, owes] at order
    intro id
    obtain ⟨owed, by_, account⟩ := billing id
    refine ⟨owed, by_.update ?_ ?_, ?_⟩
    · rw [nothing]
      exact fun d impossible => by cases impossible
    · exact fun d impossible => by cases impossible
    · rw [same]
      exact account
  | committed i t g found step now =>
    have beside := run_beside run t (List.mem_of_getElem? found)
    cases isRequest : t.request with
    | tick env s callerId =>
      rw [isRequest] at step
      rcases step with ⟨minute, debt, rfl, nothing, rfl, charged⟩ | ⟨debt, rfl, owing, rfl, counted⟩ |
        ⟨nothing, rfl, ends⟩
      · obtain ⟨nobody, session, row, active, next⟩ :=
          tick_charges_next run found isRequest charged allowed applied now
        exact billing.charges nothing charged now row active next
          (settled_of_nobodyOwes phased billing nobody)
      · rw [counted] at now
        exact billing.counts owing now
      · exact billing.ends ends now nothing
    | endCall s requesterId =>
      rw [isRequest] at step
      obtain ⟨nothing, rfl, ends⟩ := step
      exact billing.ends ends now nothing
    | ledger call =>
      rw [isRequest] at step beside
      obtain ⟨nothing, rfl, ticks⟩ := step
      have unchanged : Function.update phase i none = phase := by
        rw [← nothing, Function.update_eq_self]
      rw [unchanged]
      intro id
      obtain ⟨owed, by_, account⟩ := billing id
      have ticksNow : tickRows c'.db id = tickRows c.db id := by rw [now, ticks]
      refine ⟨owed, by_, ?_⟩
      rw [ticksNow]
      rcases ledger_moves run start found isRequest applied id with same | moves
      · rw [same]
        exact account
      · refine account_moves account beside moves fun input isMinute => ?_
        refine by_.unique (settled_of_nobodyOwes phased billing ?_)
        exact callMinute_alone found isRequest isMinute moves ticksNow allowed applied

end Steps

end OlNode.VideoCalls
