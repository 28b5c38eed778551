import OlNode.Topup.Operations

/-!
# A top-up order is credited at most once while it is pending

The order is read before the transaction and updated by its id only, and the ledger's unique key is
whatever the caller supplies. So two callers with different keys that have both read the order as
PENDING both credit it. What holds in every interleaving is that the row, the order's status and
the recharge are written together.
-/
namespace OlNode.Topups

open ReadCommitted

variable {orderId : Nat}

structure Untouched (orderId : Nat) (s t : TopupDb) : Prop where
  credits : credits orderId t.money = credits orderId s.money
  order : t.order = s.order
  recharges : t.recharges = s.recharges

/-- One more row, PAID, and one more recharge of the same amount. -/
structure CreditsOrder (orderId : Nat) (s t : TopupDb) : Prop where
  credits : ∃ entry, credits orderId t.money = credits orderId s.money ++ [entry] ∧
    t.recharges.map (fun r => r.deltaCoins) = s.recharges.map (fun r => r.deltaCoins) ++ [entry.amount]
  order : t.order.map (fun o => o.status) = s.order.map fun _ => .paid

def Commit (orderId : Nat) (w : TopupDb → TopupDb) : Prop :=
  (∀ s, Untouched orderId s (w s)) ∨ ∀ s, CreditsOrder orderId s (w s)

/-- The coin row has the order's amount, whatever the balance was. -/
theorem insertTopup_effects (orderId : Nat) (userId : UserId) (order : CoinTopupOrder)
    (gatewayRef : Nat) (key : LedgerKey) :
    (insertTopup orderId userId order gatewayRef key).Effects
      (fun _ g => ∃ entry : CoinLedgerEntry, entry.amount = order.coins ∧
        ∀ money, credits orderId (g money) = credits orderId money ++ [entry]) id := by
  simp only [insertTopup, lockForUpdate, latestCoinBalance, Tx.effects_lockRow_bind,
    Tx.effects_select_bind, CoinLedgerRepository.insert, assertPositiveAmount,
    CoinLedgerRepository.findByIdempotencyKey]
  refine fun db => Tx.effects_ensure_bind fun _ => ?_
  rw [Tx.effects_lockRow_bind, Tx.effects_select_bind]
  refine fun db' => Tx.effects_ensure_bind fun _ => ?_
  rw [Tx.effects_update_bind, Tx.effects_pure]
  refine ⟨topupEntry orderId userId order gatewayRef key
    (latestBalance db.coinLedger ⟨userId, .coin⟩), rfl, fun money => ?_⟩
  simp only [credits, MoneyDb.addCoin, Function.comp_apply, id_eq, List.filter_append]
  simp [topupEntry]

theorem confirmTx_effects (orderId : Nat) (userId : UserId) (order : CoinTopupOrder)
    (gatewayRef : Nat) (key : LedgerKey) :
    (confirmTx orderId userId order gatewayRef key).Effects
      (fun _ w => ∀ s, CreditsOrder orderId s (w s)) id := by
  have inserted : (onMoney (insertTopup orderId userId order gatewayRef key)).Effects
      (fun _ w => ∃ entry : CoinLedgerEntry, entry.amount = order.coins ∧
        ∀ s : TopupDb, credits orderId (w s).money = credits orderId s.money ++ [entry] ∧
          (w s).order = s.order ∧ (w s).recharges = s.recharges) id := by
    change (onMoney _).Effects _ fun t => (id t).setMoney (id (TopupDb.money (id t)))
    refine Tx.Effects.zoom ?_ ?_ ?_
    · exact fun _ _ => rfl
    · exact fun _ _ _ => rfl
    refine (insertTopup_effects orderId userId order gatewayRef key).imp ?_
    rintro _ g ⟨entry, amount, added⟩
    exact ⟨entry, amount, fun s => ⟨added s.money, rfl, rfl⟩⟩
  refine .bind (inserted.imp fun entry w written => ?_)
  obtain ⟨row, amount, added⟩ := written
  simp only [markPaid, applyRecharge]
  refine .bind ?_
  rw [Tx.effects_lockRow_bind, Tx.effects_select_bind]
  refine fun db => Tx.effects_ensure_bind fun _ => fun s => ?_
  obtain ⟨credited, order', recharges⟩ := added s
  refine ⟨⟨row, credited, ?_⟩, ?_⟩
  · simp [recharges, amount]
  · simp [order', Function.comp_def]

theorem untouched_setIdem (key : LedgerKey) (marker : TopupDb → IdemMarker) :
    Commit orderId fun db => db.setIdem key (marker db) :=
  .inl fun _ => ⟨rfl, rfl, rfl⟩

theorem confirmTopup_commits (userId : Option UserId) (gatewayRef : Nat) (key : LedgerKey) :
    (confirmTopup orderId userId gatewayRef key).Commits (Commit orderId) id := by
  refine Prog.commits_select_bind fun s => ?_
  split
  · exact Prog.commits_pure _
  refine .bind (Prog.commits_transaction ?_) fun acquired => ?_
  · rw [Tx.effects_lockRow_bind, Tx.effects_select_bind]
    intro db
    split
    · exact .inl fun _ => ⟨rfl, rfl, rfl⟩
    · exact untouched_setIdem key _
  refine Prog.commits_ensure_bind fun _ => Prog.commits_select_bind fun t => ?_
  split
  · exact Prog.commits_fail _
  · exact Prog.commits_fail _
  · refine .bind (Prog.commits_transaction ?_) fun entry => Prog.commits_select_bind fun u => ?_
    · exact (confirmTx_effects orderId _ _ gatewayRef key).imp fun _ _ credited => .inr credited
    · exact .bind (Prog.commits_autocommit (untouched_setIdem key _)) fun _ => Prog.commits_pure _

theorem handler_commits (request : Request) :
    (handler orderId request).Commits (Commit orderId) id := by
  cases request with
  | confirm userId gatewayRef key =>
    exact .bind (confirmTopup_commits (some userId) gatewayRef key) fun _ => Prog.commits_pure _
  | webhook payload =>
    refine .bind (.attempt ?_) fun outcome => ?_
    · refine Prog.commits_select_bind fun s => ?_
      split
      · exact Prog.commits_pure _
      · exact .bind (confirmTopup_commits _ _ _) fun _ => Prog.commits_pure _
    · cases outcome with
      | ok _ => exact Prog.commits_pure _
      | error error => exact Prog.commits_autocommit (.inl fun _ => ⟨rfl, rfl, rfl⟩)
  | retry payload => exact .bind (confirmTopup_commits _ _ _) fun _ => Prog.commits_pure _
  | wait duration => exact Prog.commits_autocommit (.inl fun _ => ⟨rfl, rfl, rfl⟩)
  | elsewhere change =>
    refine Prog.commits_autocommit (.inl fun s => ?_)
    dsimp only
    split
    next same => exact ⟨same, rfl, rfl⟩
    next => exact ⟨rfl, rfl, rfl⟩

/-! ### Runs -/

/-- The order has been placed and nothing has been credited for it. -/
structure Unpaid (orderId : Nat) (db : TopupDb) : Prop where
  order : ∃ order, db.order = some order ∧ order.status ≠ .paid
  credits : credits orderId db.money = []
  recharges : db.recharges = []

def TopupDb.isPaid (db : TopupDb) : Bool := db.order.any fun o => o.status = .paid

def TopupDb.isPending (db : TopupDb) : Bool := db.order.any fun o => o.status = .pending

/-- The row, the status and the recharges agree. -/
structure Consistent (orderId : Nat) (db : TopupDb) : Prop where
  order : db.order.isSome = true
  paid : db.isPaid = true ↔ credits orderId db.money ≠ []
  recharged : db.recharges.map (fun r => r.deltaCoins) =
    (credits orderId db.money).map fun entry => entry.amount

theorem Unpaid.consistent {db : TopupDb} (unpaid : Unpaid orderId db) : Consistent orderId db := by
  obtain ⟨order, row, status⟩ := unpaid.order
  refine ⟨by rw [row]; rfl, ?_, by rw [unpaid.credits, unpaid.recharges]; rfl⟩
  simp [TopupDb.isPaid, row, status, unpaid.credits]

theorem Untouched.consistent {s t : TopupDb} (untouched : Untouched orderId s t)
    (consistent : Consistent orderId s) : Consistent orderId t := by
  refine ⟨untouched.order ▸ consistent.order, ?_, ?_⟩
  · rw [TopupDb.isPaid, untouched.order, untouched.credits]
    exact consistent.paid
  · rw [untouched.recharges, untouched.credits]
    exact consistent.recharged

theorem CreditsOrder.consistent {s t : TopupDb} (credited : CreditsOrder orderId s t)
    (consistent : Consistent orderId s) : Consistent orderId t := by
  obtain ⟨entry, added, recharged⟩ := credited.credits
  obtain ⟨order, row⟩ := Option.isSome_iff_exists.mp consistent.order
  have paid := credited.order
  rw [row] at paid
  obtain ⟨order', row', status⟩ := Option.map_eq_some_iff.mp paid
  refine ⟨by rw [row']; rfl, ?_, ?_⟩
  · simp [TopupDb.isPaid, row', status, added]
  · rw [recharged, consistent.recharged, added, List.map_append]
    rfl

/-- In every run whatsoever, the row, the status and the recharge are written together. -/
theorem consistent_of_run {db : TopupDb} {c : Config Request TopupDb Lock LedgerError}
    {ok : Config Request TopupDb Lock LedgerError → Event Request → Prop}
    (unpaid : Unpaid orderId db) (run : Reaches (handler orderId) ok (Config.idle db) c) :
    Consistent orderId c.db := by
  induction run with
  | refl => exact unpaid.consistent
  | step before _ applied consistent =>
    rcases Config.apply_commits (before.commits handler_commits) applied with
      same | ⟨i, t, -, -, commit, now⟩
    · rw [same]
      exact consistent
    · rw [now]
      rcases commit with untouched | credited
      · exact (untouched _).consistent consistent
      · exact (credited _).consistent consistent

/-- A step that credits the order finds it still PENDING. -/
def CreditsWhilePending (orderId : Nat) (c : Config Request TopupDb Lock LedgerError)
    (e : Event Request) : Prop :=
  ∀ c', c.apply (handler orderId) e = some c' →
    credits orderId c'.db.money ≠ credits orderId c.db.money → c.db.isPending = true

/-- At most one TOPUP row, PAID exactly when it exists, one recharge for it. -/
structure CreditedOnce (orderId : Nat) (db : TopupDb) : Prop extends Consistent orderId db where
  once : (credits orderId db.money).length ≤ 1

/-- An order that is PENDING has not been credited. -/
theorem Consistent.uncredited {db : TopupDb} (consistent : Consistent orderId db)
    (pending : db.isPending = true) : credits orderId db.money = [] := by
  by_contra some
  have paid := consistent.paid.mpr some
  obtain ⟨order, row, status⟩ := Option.any_eq_true _ _ |>.mp pending
  simp only [decide_eq_true_eq] at status
  simp [TopupDb.isPaid, row, status] at paid

/-- In every run whose crediting steps all find the order PENDING, the order is credited at most
once; a crediting step that does not find it PENDING credits it again. -/
theorem credited_once {db : TopupDb} {c : Config Request TopupDb Lock LedgerError}
    (unpaid : Unpaid orderId db) :
    (Reaches (handler orderId) (CreditsWhilePending orderId) (Config.idle db) c →
      CreditedOnce orderId c.db) ∧
    (Reaches (handler orderId) (fun _ _ => True) (Config.idle db) c →
      ∀ e c', c.apply (handler orderId) e = some c' → ¬ CreditsWhilePending orderId c e →
        1 < (credits orderId c'.db.money).length) := by
  constructor
  · intro run
    refine ⟨consistent_of_run unpaid run, ?_⟩
    induction run with
    | refl => simp [Config.idle, unpaid.credits]
    | step before allowed applied once =>
      rcases Config.apply_commits (before.commits handler_commits) applied with
        same | ⟨i, t, -, -, commit, now⟩
      · rw [same]
        exact once
      · rcases commit with untouched | credited
        · rw [now, (untouched _).credits]
          exact once
        · obtain ⟨entry, added, -⟩ := (credited _).credits
          rw [← now] at added
          have pending := allowed _ applied (by rw [added]; simp)
          rw [added, (consistent_of_run unpaid before).uncredited pending]
          exact Nat.le_refl 1
  · intro run e c' applied violated
    have consistent := consistent_of_run unpaid run
    simp only [CreditsWhilePending, not_forall] at violated
    obtain ⟨c'', applied', credited, notPending⟩ := violated
    rw [applied, Option.some.injEq] at applied'
    subst applied'
    rcases Config.apply_commits (run.commits handler_commits) applied with
      same | ⟨i, t, -, -, commit, now⟩
    · exact absurd (by rw [same]) credited
    · rcases commit with untouched | credits
      · exact absurd (by rw [now, (untouched _).credits]) credited
      · obtain ⟨entry, added, -⟩ := (credits c.db).credits
        rw [← now] at added
        obtain ⟨order, row⟩ := Option.isSome_iff_exists.mp consistent.order
        have paid : c.db.isPaid = true := by
          cases status : order.status <;> simp_all [TopupDb.isPaid, TopupDb.isPending]
        have before := List.length_pos_iff.mpr (consistent.paid.mp paid)
        rw [added, List.length_append, List.length_singleton]
        omega

private theorem unpaid_ordered : Unpaid 7 ordered :=
  ⟨⟨_, rfl, by decide⟩, rfl, rfl⟩

private def checkPending (c : Config Request TopupDb Lock LedgerError) (e : Event Request) : Bool :=
  (c.apply (handler 7) e).all fun c' =>
    credits 7 c'.db.money = credits 7 c.db.money ∨ c.db.isPending = true

private theorem checkPending_sound (c : Config Request TopupDb Lock LedgerError)
    (e : Event Request) (checked : checkPending c e = true) : CreditsWhilePending 7 c e := by
  intro c' applied credited
  simpa [checkPending, applied, credited] using checked

/-- The webhook confirms the order, and the user's confirmation comes too late. -/
theorem credited_once_byWebhook :
    ∃ c : Config Request TopupDb Lock LedgerError,
      Reaches (handler 7) (CreditsWhilePending 7) (Config.idle ordered) c ∧
      (credits 7 c.db.money).length = 1 ∧ CreditedOnce 7 c.db := by
  obtain ⟨c, run, passed⟩ : ∃ c, Reaches (handler 7) (CreditsWhilePending 7)
      (Config.idle ordered) c ∧ (credits 7 c.db.money).length = 1 :=
    exists_reaches_checked checkPending_sound [serve (.webhook ⟨90, none⟩) 0 20,
      serve (.confirm 1 90 (.other 5)) 1 6] (by decide +kernel)
  exact ⟨c, run, passed, (credited_once unpaid_ordered).1 run⟩

/-- The webhook has read the order as PENDING when the user's confirmation, under a key of its own,
is served completely; then the webhook goes on. -/
def twoKeysEvents : List (Event Request) :=
  serve (Request.webhook ⟨90, none⟩) 0 7 ++ serve (Request.confirm 1 90 (.other 5)) 1 19 ++
    List.replicate 13 (Event.advance 0)

theorem not_credited_once :
    ¬ ∀ (orderId : Nat) (db : TopupDb) (c : Config Request TopupDb Lock LedgerError),
      Unpaid orderId db → Reaches (handler orderId) (fun _ _ => True) (Config.idle db) c →
      CreditedOnce orderId c.db := by
  intro claim
  obtain ⟨c, run, passed⟩ : ∃ c, Reaches (handler 7) (fun _ _ => True) (Config.idle ordered) c ∧
      (credits 7 c.db.money).length = 2 :=
    exists_reaches [twoKeysEvents] (by decide +kernel)
  have once := (claim 7 ordered c unpaid_ordered run).once
  rw [passed] at once
  exact absurd once (by decide)

end OlNode.Topups
