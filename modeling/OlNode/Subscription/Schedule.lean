import OlNode.Subscription.Operations
import OlNode.Ledger.Coins
import OlNode.ReadCommitted.Exclusive

/-!
# The next job of a subscription

The two workers, and the schedule they should keep: an ACTIVE subscription has its renewal job
waiting, a GRACE one its grace job. The jobs add and remove jobs under the id of the job that is
being processed, which the queue ignores or refuses, so the schedule lasts only until the first
renewal job of an ACTIVE subscription is processed.
-/
namespace OlNode.Subscriptions

open ReadCommitted

/-! ### The workers -/

/-- The queue hands out a job whose delay is over. -/
def takeJob (queue : Queue) : SubscriptionTx Bool := do
  Tx.lockRow .job
  let job ← Tx.select fun db => db.job queue
  let now ← Tx.select fun db => db.clock
  if job.any fun j => j.state = .delayed ∧ j.dueAt ≤ now then
    Tx.update .job fun db =>
      db.setJob queue ((db.job queue).map fun j => { j with state := .processed })
    pure true
  else pure false

/-- `removeOnComplete` is set, `removeOnFail` is not, and a job has one attempt. -/
def finishJob (queue : Queue) (outcome : Except LedgerError Unit) : SubscriptionProg Unit :=
  Prog.autocommit .job fun db =>
    match outcome with
    | .ok _ => db.setJob queue none
    | .error _ => db.setJob queue ((db.job queue).map fun j => { j with state := .failed })

def worker (queue : Queue) (process : SubscriptionProg Unit) : SubscriptionProg Unit := do
  let taken ← Prog.transaction (takeJob queue)
  if taken then do
    let outcome ← process.attempt
    finishJob queue outcome
  else pure ()

def subscriptionRenewalWorker (pair : Pair) : SubscriptionProg Unit :=
  worker .renewal (processRenewalJob pair)

def subscriptionGraceWorker (pair : Pair) : SubscriptionProg Unit :=
  worker .grace (processGraceJob pair)

def queuedHandler (pair : Pair) : Request → SubscriptionProg Unit
  | .processRenewalJob => subscriptionRenewalWorker pair
  | .processGraceJob => subscriptionGraceWorker pair
  | request => handler pair request

/-! ### The schedule -/

variable {pair : Pair}

/-- The job waits for the given time; once both times are past, it is due in any case. -/
def Waits (db : SubscriptionDb) (time : Time) (job : Job) : Prop :=
  job.state = .delayed ∧
    (job.dueAt = time ∨ (job.dueAt ≤ db.clock ∧ time ≤ db.clock))

def Pending (db : SubscriptionDb) (queue : Queue) (time : Time) : Prop :=
  ∃ job, db.job queue = some job ∧ Waits db time job

/-- Every ACTIVE subscription has its renewal job and every GRACE one its grace job. -/
structure Scheduled (db : SubscriptionDb) : Prop where
  renewal : ∀ sub, db.sub = some sub → sub.status = .active →
    Pending db .renewal sub.nextRenewalAt
  grace : ∀ sub, db.sub = some sub → sub.status = .grace →
    ∃ graceUntil, sub.graceUntil = some graceUntil ∧ Pending db .grace graceUntil

structure Shape (sub : Option CreatorSubscription) (jobs : Queue → Option Job)
    (db : SubscriptionDb) : Prop where
  sub : db.sub = sub
  job : db.job = jobs

/-- What other requests change: time, the wallets, and a block that is lifted. -/
structure Beyond (s t : SubscriptionDb) : Prop where
  clock : s.clock ≤ t.clock
  sub : t.sub = s.sub
  job : t.job = s.job
  byCreator : s.blockedByCreator = false → t.blockedByCreator = false
  bySubscriber : s.blockedBySubscriber = false → t.blockedBySubscriber = false

theorem Beyond.refl (s : SubscriptionDb) : Beyond s s :=
  ⟨Nat.le_refl _, rfl, rfl, fun same => same, fun same => same⟩

theorem Beyond.trans {s t u : SubscriptionDb} (first : Beyond s t) (second : Beyond t u) :
    Beyond s u :=
  ⟨Nat.le_trans first.clock second.clock, second.sub.trans first.sub, second.job.trans first.job,
    fun unblocked => second.byCreator (first.byCreator unblocked),
    fun unblocked => second.bySubscriber (first.bySubscriber unblocked)⟩

theorem Waits.later {s t : SubscriptionDb} {time : Time} {job : Job} (waits : Waits s time job)
    (clock : s.clock ≤ t.clock) : Waits t time job := by
  refine ⟨waits.1, waits.2.imp_right fun past => ?_⟩
  exact ⟨Nat.le_trans past.1 clock, Nat.le_trans past.2 clock⟩

theorem Shape.beyond {sub : Option CreatorSubscription} {jobs : Queue → Option Job}
    {s t : SubscriptionDb} (shape : Shape sub jobs s) (moved : Beyond s t) : Shape sub jobs t :=
  ⟨moved.sub.trans shape.sub, moved.job.trans shape.job⟩

/-- The states between the requests: ACTIVE with its renewal job, or stopped without any job. -/
def Ordered (db : SubscriptionDb) : Prop :=
  (∃ sub job, db.sub = some sub ∧ sub.status = .active ∧ db.job .renewal = some job ∧
    db.job .grace = none ∧ Waits db sub.nextRenewalAt job) ∨
  (db.renewing = false ∧ ∀ queue, db.job queue = none)

/-- The schedule depends on the row, the queues and the clock only. -/
theorem Ordered.moved {s t : SubscriptionDb} (ordered : Ordered s) (same : t.sub = s.sub)
    (jobs : t.job = s.job) (clock : s.clock ≤ t.clock) : Ordered t := by
  rcases ordered with ⟨sub, job, row, active, renewal, grace, waits⟩ | ⟨stopped, none⟩
  · refine .inl ⟨sub, job, same.trans row, active, ?_, ?_, waits.later clock⟩
    · rw [jobs]
      exact renewal
    · rw [jobs]
      exact grace
  · refine .inr ⟨?_, by rw [jobs]; exact none⟩
    rw [SubscriptionDb.renewing, same]
    exact stopped

theorem Ordered.beyond {s t : SubscriptionDb} (ordered : Ordered s) (moved : Beyond s t) :
    Ordered t :=
  ordered.moved moved.sub moved.job moved.clock

/-- Between the requests no job is being processed. -/
theorem Ordered.idle {db : SubscriptionDb} (ordered : Ordered db) (queue : Queue) (job : Job)
    (found : db.job queue = some job) : job.state ≠ .processed := by
  rcases ordered with ⟨sub, waiting, -, -, renewal, grace, waits⟩ | ⟨-, none⟩
  · cases queue with
    | renewal =>
      rw [renewal, Option.some.injEq] at found
      rw [← found, waits.1]
      decide
    | grace =>
      rw [grace] at found
      cases found
  · rw [none queue] at found
    cases found

/-- Between the requests a subscription that does not renew has no job. -/
theorem Ordered.shape_of_stopped {db : SubscriptionDb} (ordered : Ordered db)
    (stopped : db.renewing = false) : Shape db.sub (fun _ => none) db := by
  rcases ordered with ⟨sub, job, row, active, -⟩ | ⟨-, none⟩
  · simp [SubscriptionDb.renewing, row, CreatorSubscription.renews, active] at stopped
  · exact ⟨rfl, funext none⟩

theorem Ordered.scheduled {db : SubscriptionDb} (ordered : Ordered db) : Scheduled db := by
  rcases ordered with ⟨sub, job, row, active, renewal, -, waits⟩ | ⟨stopped, -⟩
  · constructor
    · intro sub' found _
      rw [row, Option.some.injEq] at found
      exact found ▸ ⟨job, renewal, waits⟩
    · intro sub' found grace
      rw [row, Option.some.injEq] at found
      rw [← found, active] at grace
      cases grace
  · have notRenewing : ∀ sub, db.sub = some sub → sub.status ≠ .active ∧ sub.status ≠ .grace := by
      intro sub row
      simpa [SubscriptionDb.renewing, row, CreatorSubscription.renews] using stopped
    exact ⟨fun sub row active => absurd active (notRenewing sub row).1,
      fun sub row grace => absurd grace (notRenewing sub row).2⟩

/-! ### The discipline -/

/-- The requests that touch the row or the queues. -/
def Request.schedules : Request → Bool
  | .unblockUser _ | .wait _ | .elsewhere _ => false
  | _ => true

def scheduling : Discipline Request SubscriptionDb where
  mine request := request.schedules = true
  env := Beyond
  step _ _ := True
  rest := Ordered
  mayStop _ := False
  refl := Beyond.refl
  trans _ _ _ := Beyond.trans
  rest_stable _ _ moved ordered := ordered.beyond moved
  mayStop_stable _ _ _ may := may

/-- No job is processed while the subscription renews; the queues move by their workers only. -/
def NoJobWhileRenewing (request : Request) (db : SubscriptionDb) : Prop :=
  match request with
  | .processRenewalJob | .processGraceJob => db.renewing = false
  | .queueMove _ _ => False
  | _ => True

/-! ### What the parts leave behind -/

section Parts

variable {α β : Type} {s : SubscriptionDb} {sub : Option CreatorSubscription}
  {jobs : Queue → Option Job} {P : SubscriptionDb → Prop}

/-- The part returns, and leaves `P` behind. -/
def Returns (P : SubscriptionDb → Prop) (result : Except LedgerError α) (t : SubscriptionDb) : Prop :=
  (∃ value, result = .ok value) ∧ P t

theorem commits_shape {w : SubscriptionDb → SubscriptionDb} (value : α)
    (leaves : ∀ t, Beyond s t → P (w t)) :
    Prog.CommitsTo scheduling (Returns P (.ok value)) w s :=
  fun t moved => ⟨trivial, fun impossible => absurd impossible id, ⟨value, rfl⟩, leaves t moved⟩

theorem returns_then {post : Except LedgerError β → SubscriptionDb → Prop}
    {p : SubscriptionProg α} {k : α → SubscriptionProg β}
    (first : p.Serves scheduling (Returns P) id s)
    (rest : ∀ a t, P t → (k a).Serves scheduling post id t) :
    (p >>= k).Serves scheduling post id s := by
  refine first.seq (fun a t left => rest a t left.2) (fun e t left => ?_)
  obtain ⟨⟨value, impossible⟩, -⟩ := left
  cases impossible

variable (shape : Shape sub jobs s)
include shape

theorem updateById_shape (data : CreatorSubscription → CreatorSubscription) :
    (SubscriptionRepository.updateById data).Serves scheduling
      (Returns (Shape (sub.map data) jobs)) id s := by
  refine Prog.serves_autocommit (commits_shape () fun t moved => ?_)
  have here := shape.beyond moved
  exact ⟨by rw [SubscriptionDb.updateRow, here.sub], here.job⟩

theorem setSubscriptionAccess_shape (nextRenewalAt : Time) :
    (setSubscriptionAccess nextRenewalAt).Serves scheduling (Returns (Shape sub jobs)) id s := by
  refine Prog.serves_select fun t moved => ?_
  refine Prog.serves_autocommit (commits_shape () fun u further => ?_)
  have here := (shape.beyond moved).beyond further
  exact ⟨here.sub, here.job⟩

theorem dropSubscriptionAccess_shape :
    dropSubscriptionAccess.Serves scheduling (Returns (Shape sub jobs)) id s := by
  refine Prog.serves_autocommit (commits_shape () fun t moved => ?_)
  exact ⟨(shape.beyond moved).sub, (shape.beyond moved).job⟩

/-- A job that is not being processed is taken out of the queue. -/
theorem cancelJob_shape {queue : Queue}
    (idle : ∀ job, jobs queue = some job → job.state ≠ .processed) :
    (cancelJob queue).Serves scheduling (Returns (Shape sub (Function.update jobs queue none))) id s := by
  refine Prog.serves_select fun t moved => ?_
  have here := shape.beyond moved
  unfold Prog.when
  split
  · refine Prog.serves_transaction fun u further => ?_
    have now := here.beyond further
    have removable : (u.job queue).all fun j => j.state ≠ .processed := by
      rw [now.job, Option.all_eq_true]
      exact fun job found => by simpa using idle job found
    change (Tx.ensure _ _ >>= _).Serves _ _ _ _ _
    unfold Tx.ensure
    split
    · refine commits_shape (w := fun db => db.setJob queue none) () fun v later => ?_
      have last := now.beyond later
      exact ⟨last.sub, by rw [SubscriptionDb.setJob, last.job]⟩
    next locked => exact absurd removable locked
  next absent =>
    refine Prog.serves_pure ⟨⟨(), rfl⟩, here.sub, ?_⟩
    have none : jobs queue = none := by
      rw [here.job] at absent
      simpa using absent
    rw [here.job, ← none, Function.update_eq_self]

theorem enqueue_shape {queue : Queue} (empty : jobs queue = none) (runAt : Time) :
    (enqueue queue runAt).Serves scheduling (Returns fun t => ∃ job,
      Shape sub (Function.update jobs queue (some job)) t ∧ Waits t runAt job) id s := by
  refine Prog.serves_select fun t moved => ?_
  refine Prog.serves_autocommit (commits_shape () fun u further => ?_)
  have here := (shape.beyond moved).beyond further
  have free : (u.job queue).isSome = false := by rw [here.job, empty]; rfl
  simp only [free, Bool.false_eq_true, if_false]
  refine ⟨{ dueAt := t.clock + (runAt - t.clock), state := .delayed },
    ⟨here.sub, by rw [SubscriptionDb.setJob, here.job]⟩, rfl, ?_⟩
  by_cases ahead : t.clock ≤ runAt
  · exact .inl (Nat.add_sub_cancel' ahead)
  · have past : runAt ≤ t.clock := Nat.le_of_not_le ahead
    refine .inr ⟨?_, Nat.le_trans past further.clock⟩
    change t.clock + (runAt - t.clock) ≤ u.clock
    rw [Nat.sub_eq_zero_of_le past, Nat.add_zero]
    exact further.clock

/-- A job is not added while one with its id is there. -/
theorem enqueue_ignored {queue : Queue} {job : Job} (taken : jobs queue = some job) (runAt : Time) :
    (enqueue queue runAt).Serves scheduling (Returns (Shape sub jobs)) id s := by
  refine Prog.serves_select fun t moved => ?_
  refine Prog.serves_autocommit (commits_shape () fun u further => ?_)
  have here := (shape.beyond moved).beyond further
  have full : (u.job queue).isSome = true := by rw [here.job, taken]; rfl
  simp only [full, if_true]
  exact here

end Parts

/-! ### The requests -/

section Requests

variable {s : SubscriptionDb} {row sub : CreatorSubscription} {jobs : Queue → Option Job}

theorem stopRenewalKeepingAccess_ordered (shape : Shape (some row) jobs s)
    (idle : ∀ queue job, jobs queue = some job → job.state ≠ .processed)
    (sub : CreatorSubscription) :
    (stopRenewalKeepingAccess sub).Serves scheduling (fun _ t => Ordered t) id s := by
  refine returns_then (updateById_shape shape _) fun _ t shape => ?_
  refine returns_then (cancelJob_shape shape (idle .renewal)) fun _ t shape => ?_
  have idleGrace : ∀ job, Function.update jobs .renewal none .grace = some job →
      job.state ≠ .processed := fun job found => idle .grace job (by simpa using found)
  refine returns_then (cancelJob_shape shape idleGrace) fun _ t shape => ?_
  have ordered : ∀ u, Shape (some { row with status := .cancelled, graceUntil := none })
      (Function.update (Function.update jobs .renewal none) .grace none) u → Ordered u := by
    intro u left
    refine .inr ⟨?_, fun queue => ?_⟩
    · rw [SubscriptionDb.renewing, left.sub]
      rfl
    · rw [left.job]
      cases queue <;> simp
  refine Prog.serves_select fun u moved => ?_
  split
  · exact (setSubscriptionAccess_shape (shape.beyond moved) _).imp fun _ v left => ordered v left.2
  · exact (dropSubscriptionAccess_shape (shape.beyond moved)).imp fun _ v left => ordered v left.2

theorem stopRenewalDueToBlockKeepingAccess_ordered (ordered : Ordered s) :
    stopRenewalDueToBlockKeepingAccess.Serves scheduling (fun _ t => Ordered t) id s := by
  refine Prog.serves_select fun t moved => ?_
  have here := ordered.beyond moved
  cases found : t.sub with
  | none => exact Prog.serves_pure here
  | some row =>
    dsimp only
    unfold Prog.when
    split
    · exact stopRenewalKeepingAccess_ordered ⟨found, rfl⟩ here.idle row
    · exact Prog.serves_pure here

theorem cancelSubscription_ordered (ordered : Ordered s) :
    cancelSubscription.Serves scheduling (fun _ t => Ordered t) id s := by
  refine Prog.serves_select fun t moved => ?_
  have here := ordered.beyond moved
  cases found : t.sub with
  | none => exact Prog.serves_fail here
  | some row =>
    refine Prog.serves_ensure_bind (fun _ => here) fun _ => ?_
    exact stopRenewalKeepingAccess_ordered ⟨found, rfl⟩ here.idle row

theorem blockUser_ordered (ordered : Ordered s) (byCreator : Bool) :
    (blockUser byCreator).Serves scheduling (fun _ t => Ordered t) id s := by
  refine Prog.serves_select fun t moved => ?_
  have here := ordered.beyond moved
  refine Prog.serves_ensure_bind (fun _ => here) fun _ => ?_
  refine returns_then (P := Ordered) (Prog.serves_autocommit (commits_shape () fun u further => ?_))
    fun _ u now => stopRenewalDueToBlockKeepingAccess_ordered now
  refine (here.beyond further).moved ?_ ?_ ?_
  · cases byCreator <;> rfl
  · cases byCreator <;> rfl
  · cases byCreator <;> exact Nat.le_refl _

/-! ### Subscribing -/

private theorem ordered_of_enqueued {t : SubscriptionDb} {job : Job} (active : sub.status = .active)
    (shape : Shape (some sub) (Function.update (fun _ => none) .renewal (some job)) t)
    (waits : Waits t sub.nextRenewalAt job) : Ordered t := by
  refine .inl ⟨sub, job, shape.sub, active, ?_, ?_, waits⟩
  · rw [shape.job]
    simp
  · rw [shape.job]
    simp

theorem onMoney_writes {α : Type} (x : LedgerTx α) :
    (onMoney x).Writes fun f => ∀ s, (f s).sub = s.sub ∧ (f s).job = s.job ∧ (f s).clock = s.clock :=
  Tx.Writes.zoom (fun _ _ => ⟨rfl, rfl, rfl⟩) x

/-- The transaction of a paid subscribe writes the row and no job. -/
theorem subscribeTx_row (pair : Pair) (shares : HostRevenueShares) (period : Period)
    (key : LedgerKey) :
    (subscribeTx pair shares period key).Effects (fun created w =>
      created = { status := .active, nextRenewalAt := period.finish, graceUntil := none } ∧
      ∀ s, (w s).sub = some created ∧ (w s).job = s.job ∧ (w s).clock = s.clock) id := by
  refine .bind (.imp ((onMoney_writes _).effects_after
    (Q := fun w => ∀ s : SubscriptionDb, (w s).job = s.job ∧ (w s).clock = s.clock) ?_
    (fun _ => ⟨rfl, rfl⟩)) ?_)
  · intro f g beside known s
    exact ⟨(beside (g s)).2.1.trans (known s).1, (beside (g s)).2.2.trans (known s).2⟩
  · intro _ w known
    refine .bind ?_
    simp only [SubscriptionRepository.upsertActiveInTx, Tx.effects_update_bind, Tx.effects_pure]
    rw [Tx.effects_select_bind]
    intro db
    refine .bind (.imp ((onMoney_writes _).effects_after (Q := fun w => ∀ s : SubscriptionDb,
      (w s).sub = some { status := .active, nextRenewalAt := period.finish, graceUntil := none } ∧
      (w s).job = s.job ∧ (w s).clock = s.clock) ?_ fun s => ⟨rfl, known s⟩)
      fun _ w written => ⟨rfl, written⟩)
    intro f g beside known s
    obtain ⟨row, jobs, clock⟩ := beside (g s)
    obtain ⟨row', jobs', clock'⟩ := known s
    exact ⟨row.trans row', jobs.trans jobs', clock.trans clock'⟩

theorem subscribePaid_ordered {existing : Option CreatorSubscription} (ordered : Ordered s)
    (stopped : s.renewing = false) :
    (subscribePaid pair existing).Serves scheduling (fun _ t => Ordered t) id s := by
  refine Prog.serves_select fun t moved => Prog.serves_select fun u further => ?_
  have since := moved.trans further
  have here := ordered.beyond since
  have empty : u.job = fun _ => none :=
    ((ordered.shape_of_stopped stopped).beyond since).job
  have paid : (Prog.transaction (subscribeTx pair u.shares
      { start := t.clock, finish := t.clock + SUBSCRIPTION_PERIOD_MS }
      (.subscriptionInitial pair.subscriberId pair.creatorId
        (existing.map fun sub => (pair.subscriptionId, sub.nextRenewalAt))))).Serves scheduling
      (fun result v => match result with
        | .ok created => created.status = .active ∧ Shape (some created) (fun _ => none) v
        | .error _ => Ordered v) id u := by
    refine Prog.serves_transaction ((subscribeTx_row pair u.shares _ _).serves
      scheduling.trans (scheduling.refl u) ?_ ?_)
    · rintro created w v moved ⟨rfl, written⟩ x later
      obtain ⟨row, jobs, -⟩ := written x
      refine ⟨trivial, fun impossible => absurd impossible id, rfl, row, ?_⟩
      rw [jobs, later.job, moved.job, empty]
    · exact fun _ v moved => here.beyond moved
  refine paid.seq (fun created v left => ?_) (fun _ _ left => left)
  obtain ⟨active, shape⟩ := left
  refine returns_then (setSubscriptionAccess_shape shape _) fun _ x shape => ?_
  refine returns_then (enqueue_shape shape rfl _) fun _ x left => ?_
  obtain ⟨job, shape, waits⟩ := left
  exact Prog.serves_pure (ordered_of_enqueued active shape waits)

theorem announceResumed_ordered (active : sub.status = .active)
    (shape : Shape (some sub) (fun _ => none) s) :
    (announceResumed sub).Serves scheduling (fun _ t => Ordered t) id s := by
  refine returns_then (setSubscriptionAccess_shape shape _) fun _ t shape => ?_
  refine returns_then (cancelJob_shape shape fun job found => by cases found) fun _ t shape => ?_
  rw [Function.update_eq_self_iff.mpr rfl] at shape
  refine returns_then (enqueue_shape shape rfl _) fun _ t left => ?_
  obtain ⟨job, shape, waits⟩ := left
  exact Prog.serves_pure (ordered_of_enqueued active shape waits)

/-- The row after the update, or the state as it was. -/
theorem resumeCancelledWithinPeriod_shape (ordered : Ordered s) (found : s.sub = some sub)
    (stopped : s.renewing = false) :
    SubscriptionRepository.resumeCancelledWithinPeriod.Serves scheduling
      (fun result t => match result with
        | .ok (some row) => row.status = .active ∧ Shape (some row) (fun _ => none) t
        | _ => Ordered t ∧ t.renewing = false) id s := by
  refine Prog.serves_select fun t moved => ?_
  have shape : ∀ u, Beyond t u → Shape (some sub) (fun _ => none) u := fun u further =>
    found ▸ (ordered.shape_of_stopped stopped).beyond (moved.trans further)
  have still : ∀ u, Beyond t u → Ordered u ∧ u.renewing = false := by
    intro u further
    have since := moved.trans further
    refine ⟨ordered.beyond since, ?_⟩
    rw [SubscriptionDb.renewing, since.sub]
    exact stopped
  have updated : (Prog.transaction (do
      Tx.lockRow .subscription
      let row ← Tx.select fun db : SubscriptionDb => db.sub
      if row.any fun r => r.status = .cancelled ∧ t.clock < r.nextRenewalAt then
        Tx.update .subscription fun db : SubscriptionDb =>
          db.updateRow fun r => { r with status := .active, graceUntil := none }
        pure 1
      else pure 0 : SubscriptionTx Nat)).Serves scheduling
      (fun result u => match result with
        | .ok 0 => Ordered u ∧ u.renewing = false
        | .ok _ => Shape (some { sub with status := .active, graceUntil := none })
            (fun _ => none) u
        | .error _ => Ordered u ∧ u.renewing = false) id t := by
    refine Prog.serves_transaction fun u further => ?_
    change Tx.Serves _ _ _ (if u.sub.any _ then _ else _) id u
    split
    · intro v later
      have now := shape v (further.trans later)
      refine ⟨trivial, fun impossible => absurd impossible id, ?_, now.job⟩
      change (v.sub.map fun r => { r with status := .active, graceUntil := none }) = _
      rw [now.sub]
      rfl
    · intro v later
      exact ⟨trivial, fun impossible => absurd impossible id, still v (further.trans later)⟩
  refine updated.seq (fun count u left => ?_) (fun _ _ left => left)
  match count with
  | 0 => exact Prog.serves_pure left
  | count + 1 =>
    intro v further
    have now := left.beyond further
    change _ ∧ _
    rw [show (fun db : SubscriptionDb => db.sub) (id v) = _ from now.sub]
    exact ⟨rfl, rfl, now⟩

theorem createSubscriptionOnce_ordered (ordered : Ordered s) :
    (createSubscriptionOnce pair).Serves scheduling (fun _ t => Ordered t) id s := by
  refine Prog.serves_ensure_bind (fun _ => ordered) fun _ => ?_
  have unblocked : assertNotBlockedEitherWay.Serves scheduling (fun _ t => Ordered t) id s := by
    refine Prog.serves_select fun t moved => ?_
    refine Prog.serves_ensure_bind (fun _ => ordered.beyond moved) fun _ => ?_
    refine Prog.serves_select fun u further => ?_
    have here := (ordered.beyond moved).beyond further
    unfold Prog.ensure
    split
    · exact Prog.serves_pure here
    · exact Prog.serves_fail here
  refine unblocked.seq (fun _ t ordered => ?_) (fun _ _ ordered => ordered)
  refine Prog.serves_select fun u moved => ?_
  refine Prog.serves_ensure_bind (fun _ => ordered.beyond moved) fun _ => ?_
  refine Prog.serves_select fun v further => ?_
  have here := (ordered.beyond moved).beyond further
  cases row : v.sub with
  | none => exact subscribePaid_ordered here (by rw [SubscriptionDb.renewing, row]; rfl)
  | some sub =>
    refine Prog.serves_ensure_bind (fun _ => here) fun stopped => ?_
    refine Prog.serves_select fun w later => ?_
    have now := here.beyond later
    have found := later.sub.trans row
    have notRenewing : w.renewing = false := by
      rw [SubscriptionDb.renewing, found]
      simpa using stopped
    split
    · refine Prog.Serves.bind (.imp (resumeCancelledWithinPeriod_shape now found notRenewing) ?_)
      intro result x left
      match result with
      | .ok (some row) => exact announceResumed_ordered left.1 left.2
      | .ok none => exact subscribePaid_ordered left.1 left.2
      | .error error => exact left.1
    · exact subscribePaid_ordered now notRenewing

theorem createSubscription_ordered (ordered : Ordered s) :
    (createSubscription pair).Serves scheduling (fun _ t => Ordered t) id s := by
  refine Prog.Serves.bind (Prog.Serves.attempt ((createSubscriptionOnce_ordered ordered).imp ?_))
  intro outcome t ordered
  cases outcome with
  | ok row => exact Prog.serves_pure ordered
  | error error =>
    cases error with
    | app error => exact Prog.serves_fail ordered
    | serializationAbort => exact Prog.serves_fail ordered
    | uniqueViolation => exact createSubscriptionOnce_ordered ordered

/-! ### The workers -/

theorem worker_ordered (ordered : Ordered s) (stopped : s.renewing = false) (queue : Queue)
    (process : SubscriptionProg Unit) :
    (worker queue process).Serves scheduling (fun _ t => Ordered t) id s := by
  have taken : (Prog.transaction (takeJob queue)).Serves scheduling
      (fun result t => result = .ok false ∧ Ordered t) id s := by
    refine Prog.serves_transaction fun t moved => fun u further => ?_
    have none : t.job queue = none := by
      rw [((ordered.shape_of_stopped stopped).beyond moved).job]
    change Tx.Serves _ _ _ (if (t.job queue).any _ then _ else _) id u
    rw [none]
    intro v later
    exact ⟨trivial, fun impossible => absurd impossible id, rfl,
      ((ordered.beyond moved).beyond further).beyond later⟩
  refine taken.seq (fun got t left => ?_) (fun _ _ left => left.2)
  obtain ⟨same, here⟩ := left
  cases same
  exact Prog.serves_pure here

theorem queuedHandler_serves (request : Request) (mine : scheduling.mine request)
    (s : SubscriptionDb) (ordered : Ordered s) (idle : NoJobWhileRenewing request s) :
    (queuedHandler pair request).Serves scheduling (fun _ t => Ordered t) id s := by
  cases request with
  | createSubscription =>
    refine Prog.Serves.seq (createSubscription_ordered ordered) (fun _ t ordered => ?_)
      (fun _ _ ordered => ordered)
    exact Prog.serves_pure ordered
  | cancelSubscription => exact cancelSubscription_ordered ordered
  | blockUser byCreator => exact blockUser_ordered ordered byCreator
  | processRenewalJob => exact worker_ordered ordered idle .renewal _
  | processGraceJob => exact worker_ordered ordered idle .grace _
  | queueMove queue job => exact absurd idle id
  | unblockUser byCreator => cases mine
  | wait duration => cases mine
  | elsewhere change => cases mine

theorem queuedHandler_beyond (request : Request) (other : ¬ scheduling.mine request) :
    (queuedHandler pair request).Writes fun f => ∀ s, scheduling.env s (f s) := by
  cases request with
  | createSubscription => exact absurd rfl other
  | cancelSubscription => exact absurd rfl other
  | blockUser byCreator => exact absurd rfl other
  | processRenewalJob => exact absurd rfl other
  | processGraceJob => exact absurd rfl other
  | queueMove queue job => exact absurd rfl other
  | unblockUser byCreator =>
    refine fun s => (Prog.writes_ensure_bind _ _ _).mpr fun _ => ?_
    refine (Prog.writes_autocommit _ _).mpr fun t => ?_
    split
    · exact ⟨Nat.le_refl _, rfl, rfl, fun _ => rfl, fun same => same⟩
    · exact ⟨Nat.le_refl _, rfl, rfl, fun same => same, fun _ => rfl⟩
  | wait duration =>
    exact (Prog.writes_autocommit _ _).mpr fun t =>
      ⟨Nat.le_add_right _ _, rfl, rfl, fun same => same, fun same => same⟩
  | elsewhere change =>
    refine (Prog.writes_autocommit _ _).mpr fun t => ?_
    split <;> exact ⟨Nat.le_refl _, rfl, rfl, fun same => same, fun same => same⟩

end Requests

/-! ### What a renewal job does to the schedule -/

section Renewal

variable {s : SubscriptionDb} {sub : CreatorSubscription} {jobs : Queue → Option Job} {job : Job}
  {row : Option CreatorSubscription}

/-- `remove()` of the job that is being processed. -/
theorem cancelJob_refused {queue : Queue} (shape : Shape row jobs s)
    (taken : jobs queue = some job) (processed : job.state = .processed) :
    (cancelJob queue).Serves scheduling
      (fun result t => result = .error jobLocked ∧ Shape row jobs t) id s := by
  refine Prog.serves_select fun t moved => ?_
  have here := shape.beyond moved
  have present : (t.job queue).isSome = true := by rw [here.job, taken]; rfl
  unfold Prog.when
  rw [if_pos present]
  refine Prog.serves_transaction fun u further => ?_
  have now := here.beyond further
  have locked : ((u.job queue).all fun j => j.state ≠ .processed) = false := by
    rw [now.job, taken]
    simp [processed]
  change (Tx.ensure _ _ >>= _).Serves _ _ _ _ _
  unfold Tx.ensure
  split
  next free =>
    change ((u.job queue).all fun j => j.state ≠ .processed) = true at free
    rw [locked] at free
    cases free
  next => exact ⟨rfl, now⟩

/-- The row renews, and the queues are as the worker left them when it took the job. -/
def StillTaken (jobs : Queue → Option Job) (t : SubscriptionDb) : Prop :=
  ∃ row : CreatorSubscription, row.renews = true ∧ Shape (some row) jobs t

theorem afterRenewal_stillTaken (shape : Shape (some sub) jobs s)
    (taken : jobs .renewal = some job) (grace : jobs .grace = none) :
    (afterRenewal sub).Serves scheduling (Returns (StillTaken jobs)) id s := by
  have granted : (grantPeriod
      ⟨sub.nextRenewalAt, sub.nextRenewalAt + SUBSCRIPTION_PERIOD_MS⟩).Serves scheduling
      (Returns (Shape (some ⟨.active, sub.nextRenewalAt + SUBSCRIPTION_PERIOD_MS, none⟩) jobs))
      id s := by
    refine Prog.serves_autocommit (commits_shape () fun t moved => ?_)
    have here := shape.beyond moved
    exact ⟨by simp [SubscriptionDb.updateRow, SubscriptionDb.grant, here.sub], here.job⟩
  refine returns_then granted fun _ t shape => ?_
  have noGrace : ∀ job, jobs .grace = some job → job.state ≠ .processed := by simp [grace]
  refine returns_then (cancelJob_shape shape noGrace) fun _ t shape => ?_
  rw [Function.update_eq_self_iff.mpr grace.symm] at shape
  refine returns_then (setSubscriptionAccess_shape shape _) fun _ t shape => ?_
  exact (enqueue_ignored shape taken _).imp fun _ u left => ⟨left.1, _, rfl, left.2⟩

theorem moveToGrace_stillTaken (shape : Shape (some sub) jobs s)
    (taken : jobs .renewal = some job) (processed : job.state = .processed) :
    moveToGrace.Serves scheduling (fun _ t => StillTaken jobs t) id s := by
  refine Prog.serves_select fun t moved => ?_
  refine returns_then (updateById_shape (shape.beyond moved) _) fun _ u shape => ?_
  refine returns_then (dropSubscriptionAccess_shape shape) fun _ u shape => ?_
  -- The handler ends here: the job it wants to remove is its own.
  refine (cancelJob_refused shape taken processed).seq (fun _ v left => ?_) (fun _ v left => ?_)
  · cases left.1
  · exact ⟨_, rfl, left.2⟩

def Unblocked (db : SubscriptionDb) : Prop :=
  db.blockedByCreator = false ∧ db.blockedBySubscriber = false

theorem Unblocked.beyond {t : SubscriptionDb} (unblocked : Unblocked s) (moved : Beyond s t) :
    Unblocked t :=
  ⟨moved.byCreator unblocked.1, moved.bySubscriber unblocked.2⟩

theorem payTx_writes (pair : Pair) (shares : HostRevenueShares) (key : LedgerKey) :
    (payTx pair shares key).Writes fun f =>
      ∀ s, (f s).sub = s.sub ∧ (f s).job = s.job ∧ (f s).clock = s.clock :=
  .bind (onMoney_writes _) fun _ => .bind (fun _ => trivial) fun _ => onMoney_writes _

theorem payTx_shape (shape : Shape row jobs s) (shares : HostRevenueShares) (key : LedgerKey) :
    (Prog.transaction (payTx pair shares key)).Serves scheduling (fun _ t => Shape row jobs t)
      id s := by
  have effects := (payTx_writes pair shares key).effects_after
    (Q := fun w => ∀ s : SubscriptionDb, (w s).sub = s.sub ∧ (w s).job = s.job)
    (fun f g beside known s =>
      ⟨(beside (g s)).1.trans (known s).1, (beside (g s)).2.1.trans (known s).2⟩)
    (w := id) (fun _ => ⟨rfl, rfl⟩)
  refine Prog.serves_transaction (effects.serves scheduling.trans (scheduling.refl s) ?_ ?_)
  · intro _ w t moved written u further
    have here := (shape.beyond moved).beyond further
    obtain ⟨same, sameJobs⟩ := written u
    exact ⟨trivial, fun impossible => absurd impossible id, same.trans here.sub,
      sameJobs.trans here.job⟩
  · exact fun _ t moved => shape.beyond moved

/-- Whatever becomes of the payment, the renewal neither adds nor removes a job. -/
theorem processRenewalJob_stillTaken (shape : Shape (some sub) jobs s)
    (active : sub.status = .active) (unblocked : Unblocked s) (taken : jobs .renewal = some job)
    (processed : job.state = .processed) (grace : jobs .grace = none) :
    (processRenewalJob pair).Serves scheduling (fun _ t => StillTaken jobs t) id s := by
  refine Prog.serves_select fun t moved => ?_
  have here := shape.beyond moved
  rw [here.sub]
  dsimp only
  rw [if_pos active]
  refine Prog.serves_select fun u further => ?_
  have clear := (unblocked.beyond moved).beyond further
  have still : ∀ v, Beyond u v → Shape (some sub) jobs v := fun v later =>
    (here.beyond further).beyond later
  rw [if_neg (by simp [clear.1, clear.2])]
  refine Prog.serves_select fun v later => ?_
  have renews : ∀ w, Shape (some sub) jobs w → StillTaken jobs w := fun w left =>
    ⟨sub, by simp [CreatorSubscription.renews, active], left⟩
  have body : (do
      Prog.transaction
        (payTx pair v.shares (.subscriptionRenewal pair.subscriptionId sub.nextRenewalAt))
      afterRenewal sub : SubscriptionProg Unit).Serves scheduling
      (fun result t => StillTaken jobs t ∧ (∀ error, result = .error error →
        isInsufficientCoins error = true → Shape (some sub) jobs t)) id v := by
    refine (payTx_shape (still v later) v.shares _).seq (fun _ w left => ?_)
      (fun _ w left => ⟨renews w left, fun _ _ _ => left⟩)
    refine (afterRenewal_stillTaken left taken grace).imp fun result x kept => ⟨kept.2, ?_⟩
    intro error impossible
    obtain ⟨value, returned⟩ := kept.1
    rw [returned] at impossible
    cases impossible
  refine Prog.Serves.bind (Prog.Serves.attempt (body.imp ?_))
  rintro outcome w ⟨kept, known⟩
  cases outcome with
  | ok _ => exact Prog.serves_pure kept
  | error error =>
    dsimp only
    split
    next coins => exact moveToGrace_stillTaken (known error rfl coins) taken processed
    next => exact Prog.serves_fail kept

theorem takeJob_shape {queue : Queue} (shape : Shape row jobs s) (unblocked : Unblocked s)
    (found : jobs queue = some job) (delayed : job.state = .delayed) (due : job.dueAt ≤ s.clock) :
    (Prog.transaction (takeJob queue)).Serves scheduling (fun result t => result = .ok true ∧
      Unblocked t ∧
      Shape row (Function.update jobs queue (some { job with state := .processed })) t) id s := by
  refine Prog.serves_transaction fun t moved => fun u further => ?_
  have here := shape.beyond moved
  have ready : (t.job queue).any
      (fun j => decide (j.state = .delayed ∧ j.dueAt ≤ u.clock)) = true := by
    have past := Nat.le_trans due (Nat.le_trans moved.clock further.clock)
    rw [here.job, found]
    simp [delayed, past]
  change Tx.Serves _ _ _ (if (t.job queue).any _ then _ else _) id u
  split
  next =>
    intro v later
    have now := (here.beyond further).beyond later
    have clear : Unblocked v := ((unblocked.beyond moved).beyond further).beyond later
    refine ⟨trivial, fun impossible => absurd impossible id, rfl, clear, now.sub, ?_⟩
    change Function.update v.job queue ((v.job queue).map fun j =>
      { j with state := .processed }) = _
    rw [now.job, found]
    rfl
  next notReady => exact absurd ready notReady

/-- Once the worker is done with the job, nothing waits for a row that still renews. -/
theorem finishJob_unschedules {outcome : Except LedgerError Unit} (taken : StillTaken jobs s)
    (found : jobs .renewal = some job) (grace : jobs .grace = none) :
    (finishJob .renewal outcome).Serves scheduling (fun _ t => ¬ Scheduled t) id s := by
  obtain ⟨row, renews, shape⟩ := taken
  refine Prog.serves_autocommit fun t moved => ⟨trivial, fun impossible => absurd impossible id, ?_⟩
  have here := shape.beyond moved
  intro scheduled
  have status : row.status = .active ∨ row.status = .grace := by
    simpa [CreatorSubscription.renews] using renews
  rcases status with active | inGrace
  · cases outcome with
    | ok _ =>
      obtain ⟨waiting, present, -⟩ := scheduled.renewal row here.sub active
      simp [SubscriptionDb.setJob] at present
    | error error =>
      obtain ⟨waiting, present, delayed, -⟩ := scheduled.renewal row here.sub active
      simp only [SubscriptionDb.setJob, Function.update_self, here.job, found, Option.map_some,
        Option.some.injEq] at present
      rw [← present] at delayed
      cases delayed
  · cases outcome with
    | ok _ =>
      obtain ⟨graceUntil, -, waiting, present, -⟩ := scheduled.grace row here.sub inGrace
      simp [SubscriptionDb.setJob, here.job, grace] at present
    | error error =>
      obtain ⟨graceUntil, -, waiting, present, -⟩ := scheduled.grace row here.sub inGrace
      simp [SubscriptionDb.setJob, here.job, grace] at present

/-- A renewal job that is processed leaves an ACTIVE row without its renewal job, or a GRACE row
without its grace job. -/
theorem subscriptionRenewalWorker_unschedules (row : s.sub = some sub)
    (active : sub.status = .active) (unblocked : Unblocked s) (found : s.job .renewal = some job)
    (delayed : job.state = .delayed) (due : job.dueAt ≤ s.clock) (grace : s.job .grace = none) :
    (subscriptionRenewalWorker pair).Serves scheduling (fun _ t => ¬ Scheduled t) id s := by
  have shape : Shape (some sub) s.job s := ⟨row, rfl⟩
  refine (takeJob_shape shape unblocked found delayed due).seq (fun got t left => ?_)
    (fun _ _ left => ?_)
  · obtain ⟨same, clear, taken⟩ := left
    cases same
    have renewal : Function.update s.job .renewal (some { job with state := .processed }) .renewal =
        some { job with state := .processed } := Function.update_self ..
    have noGrace : Function.update s.job .renewal (some { job with state := .processed }) .grace =
        none := by simp [grace]
    have process : (processRenewalJob pair).Serves _ _ _ _ :=
      processRenewalJob_stillTaken taken active clear renewal rfl noGrace
    refine Prog.Serves.bind (Prog.Serves.attempt (process.imp fun outcome u kept => ?_))
    exact finishJob_unschedules kept renewal noGrace
  · cases left.1

end Renewal

/-- In every run without crashes in which the requests of the pair are served one at a time and no
job is processed while the subscription renews, the schedule holds whenever none of them is in
progress. The next renewal job of a pair without a block then breaks it, whatever it finds. -/
theorem schedule_kept {db : SubscriptionDb} {c : Config Request SubscriptionDb Lock LedgerError}
    (fresh : db.sub = none) (empty : ∀ queue, db.job queue = none)
    (run : Reaches (queuedHandler pair) (scheduling.Allows NoJobWhileRenewing) (Config.idle db) c)
    (quiet : scheduling.Quiet c) :
    Scheduled c.db ∧ ∀ sub, c.db.sub = some sub → sub.status = .active →
      sub.nextRenewalAt ≤ c.db.clock → Unblocked c.db →
      ¬ Scheduled ((subscriptionRenewalWorker pair).call c.db).2 := by
  have start : Ordered db := .inr ⟨by rw [SubscriptionDb.renewing, fresh]; rfl, empty⟩
  have ordered := (run.orderly queuedHandler_serves queuedHandler_beyond start).resting quiet
  refine ⟨Ordered.scheduled ordered, ?_⟩
  intro sub row active due unblocked
  rcases ordered with ⟨sub', job, row', -, renewal, grace, delayed, waits⟩ | ⟨stopped, -⟩
  · rw [row, Option.some.injEq] at row'
    subst row'
    have past : job.dueAt ≤ c.db.clock := by
      rcases waits with same | ⟨past, -⟩
      · rw [same]
        exact due
      · exact past
    exact (subscriptionRenewalWorker_unschedules row active unblocked renewal delayed past grace).call
  · simp [SubscriptionDb.renewing, row, CreatorSubscription.renews, active] at stopped

/-! ### A sample run, and where it goes wrong -/

/-- The executable form of the discipline, for runs without jobs. -/
private def checkSchedule (c : Config Request SubscriptionDb Lock LedgerError) :
    Event Request → Bool
  | .start .createSubscription => c.threads.all fun t => t.prog.finished
  | .start (.wait _) => true
  | .advance _ => true
  | _ => false

private theorem checkSchedule_sound (c : Config Request SubscriptionDb Lock LedgerError)
    (e : Event Request) (checked : checkSchedule c e = true) :
    scheduling.Allows NoJobWhileRenewing c e := by
  unfold checkSchedule at checked
  split at checked
  · intro _
    rw [List.all_eq_true] at checked
    exact ⟨fun t member _ => checked t member, trivial⟩
  · intro mine
    cases mine
  · trivial
  · cases checked

private def restsDue (c : Config Request SubscriptionDb Lock LedgerError) : Bool :=
  c.threads.all (fun t => t.prog.finished) &&
    c.db.sub.any fun sub => sub.status = .active ∧ sub.nextRenewalAt ≤ c.db.clock

/-- Subscribed, and the first renewal is due. -/
theorem schedule_kept_untilDue :
    ∃ c : Config Request SubscriptionDb Lock LedgerError,
      Reaches (queuedHandler samplePair) (scheduling.Allows NoJobWhileRenewing)
        (Config.idle (funded 200000)) c ∧
      (∃ sub, c.db.sub = some sub ∧ sub.status = .active ∧ sub.nextRenewalAt ≤ c.db.clock) ∧
      Scheduled c.db := by
  obtain ⟨c, run, rests⟩ : ∃ c, Reaches (queuedHandler samplePair)
      (scheduling.Allows NoJobWhileRenewing) (Config.idle (funded 200000)) c ∧
      restsDue c = true :=
    exists_reaches_checked checkSchedule_sound [serve .createSubscription 0 36,
      serve (.wait SUBSCRIPTION_PERIOD_MS) 1 2] (by decide +kernel)
  simp only [restsDue, Bool.and_eq_true, List.all_eq_true, Option.any_eq_true,
    decide_eq_true_eq] at rests
  have quiet : scheduling.Quiet c := fun t member _ => rests.1 t member
  exact ⟨c, run, rests.2, (schedule_kept rfl (fun _ => rfl) run quiet).1⟩

/-- Runs without crashes in which the queues move by their workers only. -/
def Undisturbed (_ : Config Request SubscriptionDb Lock LedgerError) : Event Request → Prop
  | .start (.queueMove _ _) => False
  | .crash _ => False
  | _ => True

/-- The renewal job is processed when it is due, and the subscriber has the coins. -/
def renewedByWorker : List (Event Request) :=
  serve Request.createSubscription 0 36 ++ serve (Request.wait SUBSCRIPTION_PERIOD_MS) 1 2 ++
    serve Request.processRenewalJob 2 42

private def activeWithoutJob (c : Config Request SubscriptionDb Lock LedgerError) : Bool :=
  c.threads.all (fun t => t.prog.finished) && (c.db.job .renewal).isNone &&
    c.db.sub.any fun sub => sub.status = .active

theorem not_scheduled :
    ¬ ∀ (pair : Pair) (db : SubscriptionDb)
        (c : Config Request SubscriptionDb Lock LedgerError),
      db.sub = none → (∀ queue, db.job queue = none) →
      Reaches (queuedHandler pair) Undisturbed (Config.idle db) c →
      (∀ t ∈ c.threads, t.prog.finished = true) → Scheduled c.db := by
  intro claim
  obtain ⟨c, run, passed⟩ : ∃ c, Reaches (queuedHandler samplePair) Undisturbed
      (Config.idle (funded 200000)) c ∧ activeWithoutJob c = true :=
    reaches_of_any _ renewedByWorker _ activeWithoutJob
      (by simp [renewedByWorker, serve, Undisturbed]) (by decide)
  simp only [activeWithoutJob, Bool.and_eq_true, List.all_eq_true, Option.any_eq_true,
    decide_eq_true_eq, Option.isNone_iff_eq_none] at passed
  obtain ⟨⟨finished, none⟩, sub, row, active⟩ := passed
  obtain ⟨job, present, -⟩ :=
    (claim samplePair _ c rfl (fun _ => rfl) run finished).renewal sub row active
  rw [none] at present
  cases present

end OlNode.Subscriptions
