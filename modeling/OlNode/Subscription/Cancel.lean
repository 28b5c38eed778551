import OlNode.Subscription.Operations
import OlNode.ReadCommitted.Within

/-!
# When a cancel stands

The jobs check the row once, before they charge, and write it without looking again. A cancel that
commits in between is undone. When no job (and no subscribe) is between its check and its last
write, nothing but a new subscribe makes the subscription renew again.
-/
namespace OlNode.Subscriptions

open ReadCommitted

variable {pair : Pair}

/-- A cancel by the subscriber, or a block by either side. -/
def Request.cancels : Request → Bool
  | .cancelSubscription | .blockUser _ => true
  | _ => false

/-- The requests that can charge the pair or make its subscription renew. -/
def Request.mayRenew : Request → Bool
  | .createSubscription | .processRenewalJob | .processGraceJob => true
  | _ => false

/-! ### What the operations write -/

/-- A write that concerns neither the row nor the wallets. -/
def Beside (f : SubscriptionDb → SubscriptionDb) : Prop :=
  ∀ s, (f s).sub = s.sub ∧ (f s).money = s.money

/-- A write that neither charges nor makes a stopped subscription renew. -/
def Stops (pair : Pair) (f : SubscriptionDb → SubscriptionDb) : Prop :=
  ∀ s, (s.renewing = false → (f s).renewing = false) ∧
    charges pair (f s).money = charges pair s.money

/-- A write that leaves the row and the charges as they are. -/
def Aside (pair : Pair) (f : SubscriptionDb → SubscriptionDb) : Prop :=
  ∀ s, (f s).sub = s.sub ∧ charges pair (f s).money = charges pair s.money

variable {f : SubscriptionDb → SubscriptionDb}

theorem Beside.stops (beside : Beside f) : Stops pair f := by
  intro s
  obtain ⟨row, money⟩ := beside s
  exact ⟨fun stopped => by simpa [SubscriptionDb.renewing, row] using stopped, by rw [money]⟩

theorem removeJob_writes (queue : Queue) : (removeJob queue).Writes Beside := by
  simp only [removeJob, Tx.writes_lockRow_bind, Tx.writes_select_bind, Tx.writes_ensure_bind,
    Tx.writes_update]
  exact fun _ _ _ => ⟨rfl, rfl⟩

theorem cancelJob_writes (queue : Queue) : (cancelJob queue).Writes Beside :=
  fun _ => Prog.writes_when (Prog.writes_transaction (removeJob_writes queue))

theorem setSubscriptionAccess_writes (nextRenewalAt : Time) :
    (setSubscriptionAccess nextRenewalAt).Writes Beside :=
  fun _ => (Prog.writes_autocommit _ _).mpr fun _ => ⟨rfl, rfl⟩

theorem dropSubscriptionAccess_writes : dropSubscriptionAccess.Writes Beside :=
  (Prog.writes_autocommit _ _).mpr fun _ => ⟨rfl, rfl⟩

theorem stopRenewalKeepingAccess_writes (sub : CreatorSubscription) :
    (stopRenewalKeepingAccess sub).Writes (Stops pair) := by
  refine .bind ((Prog.writes_autocommit _ _).mpr fun s => ⟨fun _ => ?_, rfl⟩) fun _ => ?_
  · -- Whatever the row was, it is CANCELLED now.
    cases row : s.sub <;> simp [SubscriptionDb.renewing, SubscriptionDb.updateRow, row,
      CreatorSubscription.renews]
  have jobs : ∀ queue, (cancelJob queue).Writes (Stops pair) :=
    fun queue => (cancelJob_writes queue).mono fun _ => Beside.stops
  refine .bind (jobs .renewal) fun _ => .bind (jobs .grace) fun _ => ?_
  rw [Prog.writes_select_bind]
  intro t
  split
  · exact (setSubscriptionAccess_writes _).mono fun _ => Beside.stops
  · exact dropSubscriptionAccess_writes.mono fun _ => Beside.stops

theorem stopRenewalDueToBlockKeepingAccess_writes :
    stopRenewalDueToBlockKeepingAccess.Writes (Stops pair) := by
  rw [stopRenewalDueToBlockKeepingAccess, Prog.writes_select_bind]
  intro s
  cases s.sub with
  | none => trivial
  | some sub => exact Prog.writes_when (stopRenewalKeepingAccess_writes sub)

theorem cancelSubscription_writes : cancelSubscription.Writes (Stops pair) := by
  rw [cancelSubscription, Prog.writes_select_bind]
  intro s
  cases s.sub with
  | none => trivial
  | some sub =>
    exact (Prog.writes_ensure_bind _ _ _).mpr fun _ => stopRenewalKeepingAccess_writes sub

theorem blockUser_writes (byCreator : Bool) : (blockUser byCreator).Writes (Stops pair) := by
  intro s
  refine (Prog.writes_ensure_bind _ _ _).mpr fun _ => ?_
  refine .bind ((Prog.writes_autocommit _ _).mpr (Beside.stops fun t => ?_)) fun _ =>
    stopRenewalDueToBlockKeepingAccess_writes
  split <;> exact ⟨rfl, rfl⟩

/-- A request that cannot renew writes nothing that could. -/
theorem handler_writes (request : Request) :
    (handler pair request).Writes fun f => request.mayRenew = false → Stops pair f := by
  have harmless : (handler pair request).Writes (Stops pair) →
      (handler pair request).Writes fun f => request.mayRenew = false → Stops pair f :=
    fun writes => writes.mono fun _ stops _ => stops
  cases request with
  | createSubscription => exact (Prog.writes_true _).mono fun _ _ impossible => by cases impossible
  | processRenewalJob => exact (Prog.writes_true _).mono fun _ _ impossible => by cases impossible
  | processGraceJob => exact (Prog.writes_true _).mono fun _ _ impossible => by cases impossible
  | cancelSubscription => exact harmless cancelSubscription_writes
  | blockUser byCreator => exact harmless (blockUser_writes byCreator)
  | unblockUser byCreator =>
    refine harmless fun s => (Prog.writes_ensure_bind _ _ _).mpr fun _ => ?_
    refine (Prog.writes_autocommit _ _).mpr (Beside.stops fun t => ?_)
    split <;> exact ⟨rfl, rfl⟩
  | wait duration =>
    exact harmless ((Prog.writes_autocommit _ _).mpr (Beside.stops fun _ => ⟨rfl, rfl⟩))
  | elsewhere change =>
    refine harmless ((Prog.writes_autocommit _ _).mpr fun s => ?_)
    split
    next same => exact ⟨fun stopped => stopped, same⟩
    next => exact ⟨fun stopped => stopped, rfl⟩
  | queueMove queue job =>
    exact harmless ((Prog.writes_autocommit _ _).mpr (Beside.stops fun _ => ⟨rfl, rfl⟩))

/-! ### While the subscription is stopped -/

/-- The states in which the subscription does not renew. -/
def Stopped (db : SubscriptionDb) : Prop := db.renewing = false

/-- The pair is not charged between two states. -/
def Uncharged (pair : Pair) (s t : SubscriptionDb) : Prop :=
  charges pair t.money = charges pair s.money

theorem Stops.harmless (stops : Stops pair f) :
    Harmless Stopped (Uncharged pair) f :=
  fun s stopped => ⟨(stops s).1 stopped, (stops s).2⟩

theorem Aside.harmless (aside : Aside pair f) :
    Harmless Stopped (Uncharged pair) f := by
  intro s stopped
  obtain ⟨row, uncharged⟩ := aside s
  exact ⟨by simpa [Stopped, SubscriptionDb.renewing, row] using stopped, uncharged⟩

theorem Stopped.status {db : SubscriptionDb} {sub : CreatorSubscription} (stopped : Stopped db)
    (row : db.sub = some sub) : sub.status ≠ .active ∧ sub.status ≠ .grace := by
  simpa [Stopped, SubscriptionDb.renewing, row, CreatorSubscription.renews] using stopped

theorem processRenewalJob_within :
    (processRenewalJob pair).Within Stopped (Uncharged pair) := by
  refine Prog.within_select_bind fun s stopped => ?_
  cases row : s.sub with
  | none => trivial
  | some sub =>
    simp only [(stopped.status row).1, if_false]
    trivial

theorem processGraceJob_within : (processGraceJob pair).Within Stopped (Uncharged pair) := by
  refine Prog.within_select_bind fun s stopped => ?_
  cases row : s.sub with
  | none => trivial
  | some sub =>
    simp only [(stopped.status row).2, if_false]
    trivial

/-- A job that has not looked at the row yet will find that it has nothing to do. -/
theorem handler_within {request : Request} (other : request ≠ .createSubscription) :
    (handler pair request).Within Stopped (Uncharged pair) := by
  have harmless : request.mayRenew = false →
      (handler pair request).Within Stopped (Uncharged pair) :=
    fun cannot => (handler_writes request).within fun f writes => (writes cannot).harmless
  cases request with
  | createSubscription => exact absurd rfl other
  | processRenewalJob => exact processRenewalJob_within
  | processGraceJob => exact processGraceJob_within
  | cancelSubscription => exact harmless rfl
  | blockUser byCreator => exact harmless rfl
  | unblockUser byCreator => exact harmless rfl
  | wait duration => exact harmless rfl
  | elsewhere change => exact harmless rfl
  | queueMove queue job => exact harmless rfl

def NoSubscribe (_ : Config Request SubscriptionDb Lock LedgerError) (e : Event Request) : Prop :=
  e ≠ .start .createSubscription

/-- From this configuration on, until somebody subscribes, the subscription does not renew and the
pair is not charged. -/
def CancelStands (pair : Pair) (c : Config Request SubscriptionDb Lock LedgerError) : Prop :=
  ∀ c', Reaches (handler pair) NoSubscribe c c' →
    c'.db.renewing = false ∧ charges pair c'.db.money = charges pair c.db.money

/-- A job or a subscribe that is not between its check of the row and its last write to the row or
to the ledger: a job that has not made a step yet, or a request with these writes behind it. -/
def Clear (pair : Pair) (t : Thread Request SubscriptionDb Lock LedgerError) : Prop :=
  t.request.mayRenew = true →
    (t.request ≠ .createSubscription ∧ t.prog = handler pair t.request ∧ t.pending = []) ∨
      t.Writes (Aside pair)

theorem Clear.within {t : Thread Request SubscriptionDb Lock LedgerError} (clear : Clear pair t)
    (writes : t.Writes fun f => t.request.mayRenew = false → Stops pair f) :
    t.Within Stopped (Uncharged pair) := by
  by_cases may : t.request.mayRenew = true
  · rcases clear may with ⟨other, unstarted, nothing⟩ | aside
    · refine ⟨?_, by simp [nothing]⟩
      rw [unstarted]
      exact handler_within other
    · exact aside.within fun f => Aside.harmless
  · exact writes.within fun f stops => (stops (by simpa using may)).harmless

/-- When the step of a cancel or a block that stops the renewal finds no job and no subscribe
between its check and its last write, the cancel stands. -/
theorem cancel_stands {db : SubscriptionDb} {c c' : Config Request SubscriptionDb Lock LedgerError}
    {i : Nat} {t : Thread Request SubscriptionDb Lock LedgerError}
    (run : Reaches (handler pair) (fun _ _ => True) (Config.idle db) c)
    (found : c.threads[i]? = some t) (cancels : t.request.cancels = true)
    (applied : c.apply (handler pair) (.advance i) = some c')
    (stops : c.db.renewing = true ∧ c'.db.renewing = false)
    (clear : ∀ j u, j ≠ i → c.threads[j]? = some u → Clear pair u) : CancelStands pair c' := by
  have writes := run.writes (P := fun request f => request.mayRenew = false → Stops pair f)
    handler_writes
  have cannot : t.request.mayRenew = false := by
    cases asked : t.request <;> simp_all [Request.cancels, Request.mayRenew]
  have within : ∀ u ∈ c'.threads, u.Within Stopped (Uncharged pair) := by
    rcases Config.apply_cases applied with
      ⟨request, impossible, -⟩ | ⟨j, u, u', same, foundU, moves, threads⟩ | ⟨j, u, impossible, -⟩
    · cases impossible
    · cases same
      rw [found] at foundU
      cases foundU
      intro v member
      rw [threads] at member
      obtain ⟨k, inside⟩ := List.mem_iff_getElem?.mp member
      rcases getElem?_set_some inside with ⟨-, rfl⟩ | ⟨different, before⟩
      · -- The thread that cancels writes nothing that renews, before or after this step.
        have left := (writes t (List.mem_of_getElem? found)).moves moves
        exact left.within fun f stops => (stops cannot).harmless
      · exact (clear k v different before).within (writes v (List.mem_of_getElem? before))
    · cases impossible
  intro c'' after
  have stands := after.within (I := Stopped) (R := Uncharged pair) (fun _ => rfl)
    (fun _ _ _ first second => second.trans first)
    (fun c request allowed => handler_within fun same => allowed (by rw [same])) stops.2 within
  exact stands

private theorem clear_of_finished {t : Thread Request SubscriptionDb Lock LedgerError}
    (finished : t.prog.finished = true) (nothing : t.pending.isEmpty = true) : Clear pair t := by
  refine fun _ => .inr ⟨?_, by simp [List.isEmpty_iff.mp nothing]⟩
  cases progIs : t.prog with
  | done value => trivial
  | fail error => trivial
  | read next => simp [progIs, Prog.finished] at finished
  | lock row next => simp [progIs, Prog.finished] at finished
  | write row f next => simp [progIs, Prog.finished] at finished
  | commit next => simp [progIs, Prog.finished] at finished
  | rollback next => simp [progIs, Prog.finished] at finished

/-- Subscribed, then cancelled; here just before the cancel commits. -/
def cancelEvents : List (Event Request) :=
  serve Request.createSubscription 0 36 ++ serve Request.cancelSubscription 1 2

private def aboutToCancel (c : Config Request SubscriptionDb Lock LedgerError) : Bool :=
  match c.threads, c.apply (handler samplePair) (.advance 1) with
  | [t, u], some c' => t.prog.finished && t.pending.isEmpty && u.request.cancels &&
      c.db.renewing && !c'.db.renewing
  | _, _ => false

theorem cancel_stands_afterSubscribe :
    ∃ c c' : Config Request SubscriptionDb Lock LedgerError,
      Reaches (handler samplePair) (fun _ _ => True) (Config.idle (funded 200000)) c ∧
      c.db.renewing = true ∧ c.apply (handler samplePair) (.advance 1) = some c' ∧
      CancelStands samplePair c' := by
  obtain ⟨c, run, passed⟩ : ∃ c, Reaches (handler samplePair) (fun _ _ => True)
      (Config.idle (funded 200000)) c ∧ aboutToCancel c = true :=
    exists_reaches [cancelEvents] (by decide +kernel)
  unfold aboutToCancel at passed
  split at passed
  next t u c' threads applied =>
    simp only [Bool.and_eq_true, Bool.not_eq_true'] at passed
    obtain ⟨⟨⟨⟨finished, nothing⟩, cancels⟩, renewing⟩, stopped⟩ := passed
    have found : c.threads[1]? = some u := by rw [threads]; rfl
    refine ⟨c, c', run, renewing, applied,
      cancel_stands run found cancels applied ⟨renewing, stopped⟩ ?_⟩
    intro j v different inside
    rw [threads] at inside
    match j with
    | 0 =>
      cases inside
      exact clear_of_finished finished nothing
    | 1 => exact absurd rfl different
    | _ + 2 => simp at inside
  next => cases passed

/-- The renewal job has charged the next period when the cancel commits; it then writes the row
and completes, and the cancel goes on to its last step. -/
def undoneEvents : List (Event Request) :=
  serve Request.createSubscription 0 36 ++ serve (Request.wait SUBSCRIPTION_PERIOD_MS) 1 2 ++
    serve (Request.queueMove .renewal (some ⟨SUBSCRIPTION_PERIOD_MS, .processed⟩)) 2 2 ++
    serve Request.processRenewalJob 3 26 ++ serve Request.cancelSubscription 4 3 ++
    List.replicate 9 (Event.advance 3) ++ serve (Request.queueMove .renewal none) 5 2 ++
    List.replicate 4 (Event.advance 4)

private def returnsUndone (c : Config Request SubscriptionDb Lock LedgerError) : Bool :=
  match c.threads[4]?, c.apply (handler samplePair) (.advance 4) with
  | some t, some c' => t.request.cancels && c'.db.renewing &&
      (c'.threads[4]?).any fun t' => t'.prog.returned
  | _, _ => false

theorem not_cancelStands :
    ¬ ∀ (pair : Pair) (db : SubscriptionDb) (i : Nat)
        (c c' : Config Request SubscriptionDb Lock LedgerError)
        (t t' : Thread Request SubscriptionDb Lock LedgerError),
      Reaches (handler pair) (fun _ _ => True) (Config.idle db) c →
      c.threads[i]? = some t → t.request.cancels = true →
      c.apply (handler pair) (.advance i) = some c' →
      c'.threads[i]? = some t' → t'.prog.returned = true → CancelStands pair c' := by
  intro claim
  obtain ⟨c, run, passed⟩ : ∃ c, Reaches (handler samplePair) (fun _ _ => True)
      (Config.idle (funded 200000)) c ∧ returnsUndone c = true :=
    exists_reaches [undoneEvents] (by decide +kernel)
  unfold returnsUndone at passed
  split at passed
  next t c' found applied =>
    simp only [Bool.and_eq_true] at passed
    obtain ⟨⟨cancels, renewing⟩, returned⟩ := passed
    obtain ⟨t', now, done⟩ := Option.any_eq_true _ _ |>.mp returned
    have stands :=
      claim samplePair (funded 200000) 4 c c' t t' run found cancels applied now done
    have stopped := (stands c' .refl).1
    rw [renewing] at stopped
    cases stopped
  next => cases passed

end OlNode.Subscriptions
