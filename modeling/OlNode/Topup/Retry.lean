import OlNode.Topup.Credit

/-!
# When a later delivery of the webhook succeeds

The marker that `confirmTopup` sets before it does anything is never removed when it fails, and the
retry worker takes the user from the payload, not from the order. So a later delivery credits the
order only when no attempt is remembered as in flight and, through the worker, only when the
payload names the owner.
-/
namespace OlNode.Topups

open ReadCommitted

variable {orderId : Nat} {s : TopupDb}

/-- A delivery of the gateway's payload, by the route itself or by the retry worker. -/
inductive Delivery where
  | direct (payload : EpayPayload)
  | worker (payload : EpayPayload)

def Delivery.payload : Delivery → EpayPayload
  | .direct payload => payload
  | .worker payload => payload

/-- What the delivery runs; the route hands an error on to the retry queue. -/
def deliver (orderId : Nat) : Delivery → TopupProg Unit
  | .direct payload => webhookBody orderId payload
  | .worker payload => epayWebhookRetry orderId payload

def Delivery.user (delivery : Delivery) (order : CoinTopupOrder) : Option UserId :=
  match delivery with
  | .direct _ => some order.userId
  | .worker payload => payload.userId

/-- The delivery is not refused as already processing, credits the owner unless that was done, and
credits nobody else. -/
structure RetryWorks (orderId : Nat) (delivery : Delivery) (order : CoinTopupOrder) (s : TopupDb) :
    Prop where
  unblocked : ((deliver orderId delivery).call s).1 ≠ .error idemConflict
  credited : credits orderId s.money = [] → ∃ entry,
    credits orderId ((deliver orderId delivery).call s).2.money = [entry] ∧
      entry.wallet = ⟨order.userId, .coin⟩ ∧ entry.amount = order.coins
  others : ∀ wallet, wallet ≠ ⟨order.userId, .coin⟩ →
    (((deliver orderId delivery).call s).2.money.coinLedger.filter fun e => e.wallet = wallet) =
      s.money.coinLedger.filter fun e => e.wallet = wallet

/-- The state before a delivery that works: no attempt is remembered as in flight, and if the order
is still to be credited, no response is remembered either, the user is the owner, and neither the
key nor the reference has been used for something else. -/
structure Retriable (orderId : Nat) (delivery : Delivery) (order : CoinTopupOrder) (s : TopupDb) :
    Prop where
  notInFlight : ∀ marker, s.marker (.epayPersonalTopup orderId) = some marker →
    marker.response.isSome = true
  open_ : credits orderId s.money = [] →
    s.marker (.epayPersonalTopup orderId) = none ∧ delivery.user order = some order.userId ∧
      0 < order.coins ∧ findByKey s.money.coinLedger (.epayPersonalTopup orderId) = none ∧
      delivery.payload.gatewayRef ∉ s.otherGatewayRefs

/-! ### The transaction -/

theorem eval_insertTopup (userId : UserId) (order : CoinTopupOrder) (gatewayRef : Nat)
    (key : LedgerKey) (money : MoneyDb) :
    (insertTopup orderId userId order gatewayRef key).eval money =
      let entry := topupEntry orderId userId order gatewayRef key
        (latestBalance money.coinLedger ⟨userId, .coin⟩)
      if 0 < order.coins then
        if findByKey money.coinLedger key = none then .ok (entry, money.addCoin entry)
        else .error .uniqueViolation
      else .error invalidAmount := by
  simp [insertTopup, lockForUpdate, latestCoinBalance, CoinLedgerRepository.eval_insert, topupEntry]

theorem eval_onMoney {α : Type} (x : LedgerTx α) (s : TopupDb) :
    (onMoney x).eval s = (x.eval s.money).map fun r => (r.1, s.setMoney r.2) := by
  unfold onMoney
  refine Tx.eval_zoom ?_ ?_ ?_ x s <;> intros <;> rfl

/-- What has to hold for the transaction to commit. -/
def Creditable (order : CoinTopupOrder) (gatewayRef : Nat) (key : LedgerKey) (s : TopupDb) : Prop :=
  0 < order.coins ∧ findByKey s.money.coinLedger key = none ∧ gatewayRef ∉ s.otherGatewayRefs

variable {order : CoinTopupOrder} {gatewayRef : Nat} {key : LedgerKey}

theorem confirmTx_creditable (orderId : Nat) (userId : UserId)
    (creditable : Creditable order gatewayRef key s) :
    ∃ t, (confirmTx orderId userId order gatewayRef key).eval s =
        .ok (topupEntry orderId userId order gatewayRef key
          (latestBalance s.money.coinLedger ⟨userId, .coin⟩), t) ∧
      t.money = s.money.addCoin (topupEntry orderId userId order gatewayRef key
        (latestBalance s.money.coinLedger ⟨userId, .coin⟩)) := by
  obtain ⟨positive, absent, free⟩ := creditable
  simp [confirmTx, markPaid, applyRecharge, Tx.eval_bind, eval_onMoney, eval_insertTopup, positive,
    absent, free, Except.map, Except.bind, TopupDb.setMoney]

theorem confirmTx_refused (orderId : Nat) (userId : UserId)
    (refused : ¬ Creditable order gatewayRef key s) :
    ∃ error, error ≠ idemConflict ∧
      (confirmTx orderId userId order gatewayRef key).eval s = .error error := by
  unfold confirmTx
  rw [Tx.eval_bind, eval_onMoney, eval_insertTopup]
  dsimp only
  split
  next positive =>
    split
    next absent =>
      have taken : gatewayRef ∈ s.otherGatewayRefs := by
        by_contra free
        exact refused ⟨positive, absent, free⟩
      refine ⟨.uniqueViolation, by decide, ?_⟩
      simp [markPaid, Tx.eval_bind, Except.map, Except.bind, TopupDb.setMoney, taken]
    next => exact ⟨.uniqueViolation, by decide, rfl⟩
  next => exact ⟨invalidAmount, by decide, rfl⟩

/-! ### The call -/

/-- The order is credited, as far as the order and the ledger are concerned. -/
def Confirmable (order : CoinTopupOrder) (userId : Option UserId) (gatewayRef : Nat)
    (key : LedgerKey) (s : TopupDb) : Prop :=
  order.status = .pending ∧ userId = some order.userId ∧ Creditable order gatewayRef key s

theorem confirmAcquired_confirmable (orderId : Nat) {userId : Option UserId}
    (row : s.order = some order) (confirmable : Confirmable order userId gatewayRef key s) :
    ∃ response, ((confirmAcquired orderId userId gatewayRef key).call s).1 = .ok response ∧
      ((confirmAcquired orderId userId gatewayRef key).call s).2.money =
        s.money.addCoin (topupEntry orderId order.userId order gatewayRef key
          (latestBalance s.money.coinLedger ⟨order.userId, .coin⟩)) := by
  obtain ⟨pending, rfl, creditable⟩ := confirmable
  obtain ⟨t, committed, money⟩ := confirmTx_creditable orderId order.userId creditable
  have found : (s.order.filter fun o => o.isPendingFor (some order.userId)) = some order := by
    simp [row, CoinTopupOrder.isPendingFor, pending]
  simp only [confirmAcquired, Prog.call_select_bind, found, Prog.call_transaction_bind, committed]
  exact ⟨_, rfl, money⟩

theorem confirmAcquired_refused (orderId : Nat) {userId : Option UserId}
    (row : s.order = some order) (refused : ¬ Confirmable order userId gatewayRef key s) :
    ∃ error, error ≠ idemConflict ∧
      (confirmAcquired orderId userId gatewayRef key).call s = (.error error, s) := by
  by_cases found : order.isPendingFor userId = true
  · have read : (s.order.filter fun o => o.isPendingFor userId) = some order := by
      rw [row, Option.filter, if_pos found]
    simp only [confirmAcquired, Prog.call_select_bind, read]
    cases userId with
    | none => exact ⟨invalidUserId, by decide, rfl⟩
    | some user =>
      simp only [CoinTopupOrder.isPendingFor, Option.all_some, decide_eq_true_eq] at found
      obtain ⟨pending, rfl⟩ := found
      have uncreditable : ¬ Creditable order gatewayRef key s :=
        fun creditable => refused ⟨pending, rfl, creditable⟩
      obtain ⟨error, other, failed⟩ := confirmTx_refused orderId order.userId uncreditable
      exact ⟨error, other, by simp only [Prog.call_transaction_bind, failed]⟩
  · have read : (s.order.filter fun o => o.isPendingFor userId) = none := by
      rw [row, Option.filter, if_neg found]
    simp only [confirmAcquired, Prog.call_select_bind, read]
    exact ⟨orderNotFound, by decide, rfl⟩

/-- The marker decides first. -/
theorem call_confirmTopup (userId : Option UserId) (gatewayRef : Nat) (key : LedgerKey) :
    (confirmTopup orderId userId gatewayRef key).call s =
      match s.marker key with
      | none => (confirmAcquired orderId userId gatewayRef key).call
          (s.setIdem key { response := none, expiresAt := s.clock + WALLET_IDEM_TTL })
      | some marker =>
        match marker.response with
        | none => (.error idemConflict, s)
        | some response => (.ok response, s) := by
  cases marked : s.marker key with
  | none => simp [confirmTopup, getCachedIdemResponse, acquireIdemKey, marked, Tx.eval_bind,
      Prog.call_transaction_bind, Except.bind]
  | some marker =>
    cases responded : marker.response with
    | none => simp [confirmTopup, getCachedIdemResponse, acquireIdemKey, marked, responded,
        Tx.eval_bind, Prog.call_transaction_bind, Except.bind]
    | some response => simp [confirmTopup, getCachedIdemResponse, marked, responded]

theorem call_deliver (orderId : Nat) (delivery : Delivery) (row : s.order = some order) :
    (deliver orderId delivery).call s =
      let confirmed := (confirmTopup orderId (delivery.user order) delivery.payload.gatewayRef
        (.epayPersonalTopup orderId)).call s
      (confirmed.1.map fun _ => (), confirmed.2) := by
  cases delivery with
  | direct payload =>
    simp only [deliver, webhookBody, Prog.call_select_bind, row]
    exact Prog.call_bind_pure _ (fun _ => ()) s
  | worker payload => exact Prog.call_bind_pure _ (fun _ => ()) s

/-! ### Every delivery after every run -/

/-- A delivery that changes nothing in the ledger works only if there is nothing left to do. -/
theorem retryWorks_of_unchanged {delivery : Delivery}
    (unblocked : ((deliver orderId delivery).call s).1 ≠ .error idemConflict)
    (unchanged : ((deliver orderId delivery).call s).2.money = s.money) :
    RetryWorks orderId delivery order s ↔ credits orderId s.money ≠ [] := by
  constructor
  · intro works uncredited
    obtain ⟨entry, credited, -⟩ := works.credited uncredited
    rw [unchanged, uncredited] at credited
    cases credited
  · intro credited
    refine ⟨unblocked, fun uncredited => absurd uncredited credited, fun wallet _ => ?_⟩
    rw [unchanged]

theorem retryWorks_of_credited {delivery : Delivery} (balance : Int)
    (unblocked : ((deliver orderId delivery).call s).1 ≠ .error idemConflict)
    (money : ((deliver orderId delivery).call s).2.money = s.money.addCoin
      (topupEntry orderId order.userId order delivery.payload.gatewayRef
        (.epayPersonalTopup orderId) balance)) :
    RetryWorks orderId delivery order s := by
  refine ⟨unblocked, fun uncredited => ?_, fun wallet other => ?_⟩
  · refine ⟨topupEntry orderId order.userId order delivery.payload.gatewayRef
      (.epayPersonalTopup orderId) balance, ?_, rfl, rfl⟩
    rw [credits] at uncredited
    simp only [money, credits, MoneyDb.addCoin, List.filter_append, uncredited]
    simp [topupEntry]
  · rw [money]
    simp only [MoneyDb.addCoin, List.filter_append]
    simp [topupEntry, Ne.symm other]

theorem retryWorks_iff {delivery : Delivery} (row : s.order = some order)
    (consistent : Consistent orderId s) :
    RetryWorks orderId delivery order s ↔ Retriable orderId delivery order s := by
  have call := call_deliver orderId delivery row
  rw [call_confirmTopup] at call
  have uncredited : credits orderId s.money = [] ↔ order.status = .pending := by
    have paid := consistent.paid
    simp only [TopupDb.isPaid, row, Option.any_some, decide_eq_true_eq] at paid
    cases status : order.status <;> simp_all
  cases marked : s.marker (.epayPersonalTopup orderId) with
  | some marker =>
    cases responded : marker.response with
    | none =>
      simp only [marked, responded] at call
      constructor
      · intro works
        refine absurd ?_ works.unblocked
        rw [call]
        rfl
      · intro retriable
        have answered := retriable.notInFlight marker marked
        rw [responded] at answered
        cases answered
    | some response =>
      simp only [marked, responded] at call
      rw [retryWorks_of_unchanged (by rw [call]; simp [Except.map]) (by rw [call])]
      constructor
      · intro credited
        refine ⟨fun other found => ?_, fun empty => absurd empty credited⟩
        rw [marked, Option.some.injEq] at found
        rw [← found, responded]
        rfl
      · intro retriable empty
        have free := (retriable.open_ empty).1
        rw [marked] at free
        cases free
  | none =>
    simp only [marked] at call
    let acquired := s.setIdem (.epayPersonalTopup orderId)
      { response := none, expiresAt := s.clock + WALLET_IDEM_TTL }
    by_cases confirmable : Confirmable order (delivery.user order) delivery.payload.gatewayRef
        (.epayPersonalTopup orderId) acquired
    · obtain ⟨response, answer, money⟩ := confirmAcquired_confirmable orderId (s := acquired) row
        confirmable
      have works : RetryWorks orderId delivery order s := by
        refine retryWorks_of_credited (latestBalance s.money.coinLedger ⟨order.userId, .coin⟩) ?_ ?_
        · rw [call, answer]
          simp [Except.map]
        · rw [call]
          exact money
      obtain ⟨pending, user, positive, absent, free⟩ := confirmable
      have retriable : Retriable orderId delivery order s := by
        refine ⟨fun marker found => ?_, fun _ => ⟨marked, user, positive, absent, free⟩⟩
        rw [marked] at found
        cases found
      exact iff_of_true works retriable
    · obtain ⟨error, other, failed⟩ := confirmAcquired_refused orderId (s := acquired) row
        confirmable
      rw [failed] at call
      have unblocked : ((deliver orderId delivery).call s).1 ≠ .error idemConflict := by
        rw [call]
        exact fun conflict => other (Except.error.inj conflict)
      rw [retryWorks_of_unchanged unblocked (by rw [call]; rfl)]
      constructor
      · intro credited
        refine ⟨fun marker found => ?_, fun empty => absurd empty credited⟩
        rw [marked] at found
        cases found
      · intro retriable empty
        obtain ⟨-, user, positive, absent, free⟩ := retriable.open_ empty
        exact confirmable ⟨uncredited.mp empty, user, positive, absent, free⟩

/-- After every run, with any number of attempts that failed or died at any step, a delivery works
exactly when no attempt is remembered as in flight and, for an order still to be credited, nothing
else stands in its way. -/
theorem retry_works_iff {db : TopupDb} {c : Config Request TopupDb Lock LedgerError}
    {order : CoinTopupOrder} (unpaid : Unpaid orderId db)
    (run : Reaches (handler orderId) (fun _ _ => True) (Config.idle db) c)
    (row : c.db.order = some order) (delivery : Delivery) :
    RetryWorks orderId delivery order c.db ↔ Retriable orderId delivery order c.db :=
  retryWorks_iff row (consistent_of_run unpaid run)

private def sampleOrder : CoinTopupOrder :=
  { userId := 1, coins := 500, status := .pending, gatewayRef := some 90, ledgerEntryId := none }

private theorem unpaid_sample : Unpaid 7 ordered := ⟨⟨_, rfl, by decide⟩, rfl, rfl⟩

/-- The first attempt died before it had set the marker. -/
theorem retry_works_unmarked :
    ∃ c : Config Request TopupDb Lock LedgerError,
      Reaches (handler 7) (fun _ _ => True) (Config.idle ordered) c ∧ c.threads.length = 1 ∧
      RetryWorks 7 (.direct ⟨90, none⟩) sampleOrder c.db := by
  obtain ⟨c, run, started, row, uncredited, unmarked, absent, refs⟩ : ∃ c, Reaches (handler 7)
      (fun _ _ => True) (Config.idle ordered) c ∧ c.threads.length = 1 ∧
      c.db.order = some sampleOrder ∧ credits 7 c.db.money = [] ∧
      c.db.marker (.epayPersonalTopup 7) = none ∧
      findByKey c.db.money.coinLedger (.epayPersonalTopup 7) = none ∧ c.db.otherGatewayRefs = [] :=
    exists_reaches [serve (.webhook ⟨90, none⟩) 0 1, [.crash 0]] (by decide +kernel)
  refine ⟨c, run, started, (retry_works_iff unpaid_sample run row _).mpr ?_⟩
  refine ⟨fun marker found => ?_, fun _ => ⟨unmarked, rfl, by decide, absent, by simp [refs]⟩⟩
  rw [unmarked] at found
  cases found

/-- The first attempt dies after it has set the marker: the next delivery is refused as already
processing. -/
theorem not_retry_works :
    ¬ ∀ (orderId : Nat) (db : TopupDb) (c : Config Request TopupDb Lock LedgerError)
      (order : CoinTopupOrder) (delivery : Delivery), Unpaid orderId db →
      Reaches (handler orderId) (fun _ _ => True) (Config.idle db) c → c.db.order = some order →
      RetryWorks orderId delivery order c.db := by
  intro claim
  obtain ⟨c, run, row, marked⟩ : ∃ c, Reaches (handler 7) (fun _ _ => True)
      (Config.idle ordered) c ∧ c.db.order = some sampleOrder ∧
      c.db.marker (.epayPersonalTopup 7) = some ⟨none, 300000⟩ :=
    exists_reaches [serve (.webhook ⟨90, none⟩) 0 6, [.crash 0]] (by decide +kernel)
  have works := claim 7 ordered c sampleOrder (.direct ⟨90, none⟩) unpaid_sample run row
  have retriable := (retryWorks_iff row (consistent_of_run unpaid_sample run)).mp works
  exact absurd (retriable.notInFlight _ marked) (by decide)

end OlNode.Topups
