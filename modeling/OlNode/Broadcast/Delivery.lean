import OlNode.Broadcast.Operations
import OlNode.Keyed
import OlNode.ReadCommitted.Journal
import OlNode.Slices
import OlNode.Totals

/-!
# Every recipient gets the message of a campaign

A batch is claimed once, and only the run that claims the last one reports the campaign. What it
reports is the number of messages the claiming runs have created themselves, and a campaign that is
deleted may be planned anew; so the report is right, and the only one, if each batch is claimed by a
run that has created all of its messages and the campaign is planned once.
-/
namespace OlNode.Broadcast

open ReadCommitted

def reportOf : BroadcastEvent → Option (Int × Int)
  | .nobody => some (0, 0)
  | .reported recipientCount sent => some (recipientCount, sent)
  | _ => none

/-- The reports of completion: how many recipients there are, and how many messages were sent. -/
def BroadcastDb.reports (db : BroadcastDb) : List (Int × Int) := db.history.filterMap reportOf

/-- What holds of one state. A campaign that is claimed to its last batch is reported, unless the
run that has claimed that batch did not get to its report. -/
structure Delivered (userIds : List UserId) (db : BroadcastDb) : Prop where
  messages : ∀ report ∈ db.reports, ∀ userId ∈ userIds, db.messages.count userId = 1
  pending : ∀ report ∈ db.reports, db.pending = []
  sent : ∀ report ∈ db.reports, report.2 = userIds.countP (· ∈ db.messages)
  once : db.reports.length ≤ 1
  complete : db.history ≠ [] → db.pending = [] → db.reporting = false → db.reports.length = 1

/-- A batch is claimed by a run that has created all of its messages, in one step; and a campaign is
planned, or found to be empty, before anything else has happened to it. -/
def broadcastJournal : Journal BroadcastDb BroadcastEvent where
  entries := (·.history)
  clear db e := match e with
    | .planned => db.history = []
    | .nobody => db.history = []
    | .claimed batchIndex sent remaining => db.claimResult batchIndex = some remaining &&
      (db.pending.filter (·.batchIndex = batchIndex)).all fun batch => batch.userIds.length = sent
    | .reported _ _ => true

/-! ### Batches -/

/-- The batches of a list, one after the other. -/
theorem flatten_batchesOf (userIds : List UserId) :
    ((batchesOf userIds).map (·.userIds)).flatten = userIds := by
  have whole := Slices.flatten_slices (by decide : 0 < BROADCAST_BATCH_SIZE) userIds
  simpa [batchesOf, Slices.slices, Function.comp_def] using whole

theorem mem_batchesOf {userIds : List UserId} {userId : UserId} :
    userId ∈ userIds ↔ ∃ batch ∈ batchesOf userIds, userId ∈ batch.userIds := by
  have all := flatten_batchesOf userIds
  constructor
  · intro member
    rw [← all] at member
    simpa using member
  · rintro ⟨batch, among, member⟩
    rw [← all]
    simp only [List.mem_flatten, List.mem_map]
    exact ⟨batch.userIds, ⟨batch, among, rfl⟩, member⟩

theorem batchesOf_nodup (userIds : List UserId) :
    ((batchesOf userIds).map (·.batchIndex)).Nodup := by
  simpa [batchesOf, Function.comp_def] using List.nodup_range

def size (batches : List Batch) : Int := (batches.map fun batch => (batch.userIds.length : Int)).sum

theorem size_batchesOf (userIds : List UserId) : size (batchesOf userIds) = userIds.length := by
  have all := congrArg List.length (flatten_batchesOf userIds)
  rw [List.length_flatten, List.map_map] at all
  unfold size
  rw [← all]
  generalize batchesOf userIds = batches
  induction batches with
  | nil => rfl
  | cons batch rest ih =>
    rw [List.map_cons, List.sum_cons, ih, List.map_cons, List.sum_cons, Int.natCast_add]
    rfl

theorem size_eq_zero {batches : List Batch} (empty : batches = []) : size batches = 0 := by
  rw [empty]
  rfl

/-! ### What holds between the jobs -/

/-- The campaign is planned and not reported yet. -/
structure Running (userIds : List UserId) (db : BroadcastDb) : Prop where
  state : ∃ sent createdAt, db.state = some
    { total := some userIds.length, remaining := db.pending.length, sent
      createdAt := some createdAt } ∧ sent + size db.pending = userIds.length
  pending : db.pending.Sublist (batchesOf userIds)
  covered : ∀ batch ∈ batchesOf userIds, batch ∈ db.pending ∨
    ∀ userId ∈ batch.userIds, userId ∈ db.messages
  reports : db.reports = []
  begun : db.history ≠ []
  reporting : db.reporting = true ↔ db.pending = []

structure Idle (db : BroadcastDb) : Prop where
  history : db.history = []
  pending : db.pending = []
  active : db.active = false
  reporting : db.reporting = false

structure Finished (userIds : List UserId) (db : BroadcastDb) : Prop where
  reports : db.reports = [((userIds.length : Int), (userIds.length : Int))]
  pending : db.pending = []
  covered : ∀ userId ∈ userIds, userId ∈ db.messages
  reporting : db.reporting = false

structure Lawful (userIds : List UserId) (db : BroadcastDb) : Prop where
  messages : db.messages.Nodup
  jobs : ∀ job ∈ db.jobs, job ∈ batchesOf userIds
  phase : Idle db ∨ Running userIds db ∨ Finished userIds db

theorem Lawful.delivered {userIds : List UserId} {db : BroadcastDb} (lawful : Lawful userIds db) :
    Delivered userIds db := by
  rcases lawful.phase with idle | running | finished
  · have none : db.reports = [] := by rw [BroadcastDb.reports, idle.history]; rfl
    refine ⟨?_, ?_, ?_, ?_, fun begun => absurd idle.history begun⟩
    all_goals simp [none]
  · refine ⟨?_, ?_, ?_, ?_, fun _ claimed idle => ?_⟩
    · simp [running.reports]
    · simp [running.reports]
    · simp [running.reports]
    · simp [running.reports]
    · rw [running.reporting.mpr claimed] at idle
      cases idle
  · refine ⟨fun _ _ userId member => ?_, fun _ _ => finished.pending, fun report member => ?_, ?_,
      fun _ _ _ => ?_⟩
    · exact List.count_eq_one_of_mem lawful.messages (finished.covered userId member)
    · rw [finished.reports, List.mem_singleton] at member
      have all : userIds.countP (· ∈ db.messages) = userIds.length :=
        List.countP_eq_length.mpr fun userId among => by simpa using finished.covered userId among
      rw [member, all]
    · simp [finished.reports]
    · simp [finished.reports]

/-- What a run of a job knows: it has claimed the last batch, the campaign has begun, it is
reported, and who has the message. -/
structure Token where
  reporter : Bool := false
  begun : Bool := false
  finished : Bool := false
  delivered : List UserId := []

structure Token.Valid (g : Token) (db : BroadcastDb) : Prop where
  reporter : g.reporter = true → db.reporting = true
  begun : g.begun = true → db.history ≠ []
  finished : g.finished = true → db.reports ≠ []
  delivered : ∀ userId ∈ g.delivered, userId ∈ db.messages

def broadcastTokens (userIds : List UserId) : Tokens Request BroadcastDb Lock Token where
  inv := Lawful userIds
  valid := Token.Valid
  compat g h := ¬(g.reporter = true ∧ h.reporter = true)
  allows _ := broadcastJournal.Allowed
  free := {}
  free_valid _ := ⟨by simp, by simp, by simp, by simp⟩
  free_compat _ := by simp
  compat_symm _ _ apart both := apart ⟨both.2, both.1⟩

structure Grows (s t : BroadcastDb) : Prop where
  reporting : s.reporting = true → t.reporting = true
  begun : s.history ≠ [] → t.history ≠ []
  finished : s.reports ≠ [] → t.reports ≠ []
  delivered : ∀ userId ∈ s.messages, userId ∈ t.messages

theorem Token.Valid.grow {g : Token} {s t : BroadcastDb} (valid : g.Valid s) (grows : Grows s t) :
    g.Valid t :=
  ⟨fun own => grows.reporting (valid.reporter own), fun own => grows.begun (valid.begun own),
    fun own => grows.finished (valid.finished own),
    fun userId member => grows.delivered userId (valid.delivered userId member)⟩

/-! ### Statements -/

section Statements

variable {userIds : List UserId} {db : BroadcastDb}

section

variable (lawful : Lawful userIds db)
include lawful

private theorem Lawful.phase_of {t : BroadcastDb} (state : t.state = db.state)
    (pending : t.pending = db.pending) (active : t.active = db.active)
    (reporting : t.reporting = db.reporting) (history : t.history = db.history)
    (messages : ∀ userId ∈ db.messages, userId ∈ t.messages) :
    Idle t ∨ Running userIds t ∨ Finished userIds t := by
  have reports : t.reports = db.reports := by rw [BroadcastDb.reports, history]; rfl
  rcases lawful.phase with idle | running | finished
  · left
    exact ⟨history.trans idle.history, pending.trans idle.pending, active.trans idle.active,
      reporting.trans idle.reporting⟩
  · right; left
    refine ⟨?_, ?_, fun batch member => ?_, reports.trans running.reports, ?_, ?_⟩
    · rw [state, pending]
      exact running.state
    · rw [pending]
      exact running.pending
    · rw [pending]
      exact (running.covered batch member).imp_right fun covered userId among =>
        messages userId (covered userId among)
    · rw [history]
      exact running.begun
    · rw [reporting, pending]
      exact running.reporting
  · right; right
    exact ⟨reports.trans finished.reports, pending.trans finished.pending,
      fun userId member => messages userId (finished.covered userId member),
      reporting.trans finished.reporting⟩

private theorem addMessage_lawful (userId : UserId) :
    Lawful userIds (db.addMessage userId) ∧ Grows db (db.addMessage userId) ∧
      userId ∈ (db.addMessage userId).messages := by
  have grown : ∀ other ∈ db.messages, other ∈ (db.addMessage userId).messages := by
    intro other member
    unfold BroadcastDb.addMessage
    dsimp only
    split
    · exact member
    · exact List.mem_append_left _ member
  refine ⟨⟨?_, lawful.jobs, lawful.phase_of rfl rfl rfl rfl rfl grown⟩,
    ⟨fun own => own, fun own => own, fun own => own, grown⟩, ?_⟩
  · unfold BroadcastDb.addMessage
    dsimp only
    split
    · exact lawful.messages
    next absent => exact List.nodup_append_comm.mp (List.nodup_cons.mpr ⟨absent, lawful.messages⟩)
  · unfold BroadcastDb.addMessage
    dsimp only
    split
    next present => exact present
    next => exact List.mem_append_right _ List.mem_cons_self

private theorem addJob_lawful {batch : Batch} (planned : batch ∈ batchesOf userIds) :
    Lawful userIds (db.addJob batch) ∧ Grows db (db.addJob batch) := by
  unfold BroadcastDb.addJob
  split
  · exact ⟨lawful, fun own => own, fun own => own, fun own => own, fun _ own => own⟩
  · refine ⟨⟨lawful.messages, fun job member => ?_, ?_⟩, fun own => own, fun own => own,
      fun own => own, fun _ own => own⟩
    · rcases List.mem_append.mp member with old | last
      · exact lawful.jobs job old
      · rw [List.mem_singleton.mp last]
        exact planned
    · exact lawful.phase_of rfl rfl rfl rfl rfl fun _ own => own

private theorem Lawful.idle (fresh : db.history = []) : Idle db := by
  rcases lawful.phase with idle | running | finished
  · exact idle
  · exact absurd fresh running.begun
  · have reports := finished.reports
    rw [BroadcastDb.reports, fresh] at reports
    cases reports

end

private theorem reports_record (e : BroadcastEvent) :
    (db.record e).reports = db.reports ++ (reportOf e).toList := by
  rw [BroadcastDb.reports, BroadcastDb.record, List.filterMap_append]
  cases found : reportOf e <;> simp [BroadcastDb.reports, found]

variable (lawful : Lawful userIds db)
include lawful

private theorem plan_lawful (fresh : db.history = []) (some' : batchesOf userIds ≠ []) :
    Lawful userIds (db.plan userIds.length (batchesOf userIds)) := by
  have idle := lawful.idle fresh
  have reports : (db.plan userIds.length (batchesOf userIds)).reports = [] := by
    change (db.history ++ [BroadcastEvent.planned]).filterMap reportOf = []
    rw [fresh]
    rfl
  refine ⟨lawful.messages, lawful.jobs, .inr (.inl ⟨?_, List.Sublist.refl _,
    fun _ member => .inl member,
    reports, ?_, ?_⟩)⟩
  · refine ⟨0, db.now, rfl, ?_⟩
    rw [zero_add]
    exact size_batchesOf userIds
  · simp [BroadcastDb.plan]
  · change db.reporting = true ↔ batchesOf userIds = []
    rw [idle.reporting]
    simpa using some'

private theorem nobody_lawful (fresh : db.history = []) (none : batchesOf userIds = []) :
    Lawful userIds (db.record .nobody) := by
  have idle := lawful.idle fresh
  have empty : userIds = [] := by
    have all := flatten_batchesOf userIds
    rw [none] at all
    exact all.symm
  have reports : (db.record .nobody).reports = [(0, 0)] := by
    rw [reports_record, BroadcastDb.reports, fresh]
    rfl
  refine ⟨lawful.messages, lawful.jobs, .inr (.inr ⟨?_, idle.pending, ?_, idle.reporting⟩)⟩
  · rw [reports, empty]
    rfl
  · simp [empty]

private theorem Lawful.finished (reported : db.reports ≠ []) : Finished userIds db := by
  rcases lawful.phase with idle | running | finished
  · exact absurd (by rw [BroadcastDb.reports, idle.history]; rfl) reported
  · exact absurd running.reports reported
  · exact finished

private theorem cleanup_lawful (reported : db.reports ≠ []) :
    Lawful userIds db.cleanup ∧ Lawful userIds db.drop := by
  have finished := lawful.finished reported
  have after : ∀ t : BroadcastDb, t.reports = db.reports → t.pending = [] →
      t.messages = db.messages → t.reporting = db.reporting → t.jobs = db.jobs →
      Lawful userIds t := by
    intro t reports pending messages reporting jobs
    refine ⟨messages ▸ lawful.messages, jobs ▸ lawful.jobs,
      .inr (.inr ⟨reports.trans finished.reports,
      pending, fun userId member => ?_, reporting.trans finished.reporting⟩)⟩
    rw [messages]
    exact finished.covered userId member
  exact ⟨after _ rfl rfl rfl rfl rfl, after _ rfl rfl rfl rfl rfl⟩

private theorem Lawful.reporting (own : db.reporting = true) :
    Running userIds db ∧ db.pending = [] := by
  rcases lawful.phase with idle | running | finished
  · rw [idle.reporting] at own
    cases own
  · exact ⟨running, running.reporting.mp own⟩
  · rw [finished.reporting] at own
    cases own

private theorem report_lawful (own : db.reporting = true) :
    Lawful userIds (db.report userIds.length userIds.length) := by
  obtain ⟨running, claimed⟩ := lawful.reporting own
  have reports : (db.report userIds.length userIds.length).reports =
      [((userIds.length : Int), (userIds.length : Int))] := by
    change (db.history ++ [BroadcastEvent.reported userIds.length userIds.length]).filterMap
      reportOf = _
    have none := running.reports
    rw [BroadcastDb.reports] at none
    rw [List.filterMap_append, none]
    rfl
  refine ⟨lawful.messages, lawful.jobs, .inr (.inr ⟨reports, claimed, fun userId member => ?_, rfl⟩)⟩
  obtain ⟨batch, among, own⟩ := mem_batchesOf.mp member
  rcases running.covered batch among with waiting | covered
  · rw [claimed] at waiting
    cases waiting
  · exact covered userId own

private theorem claim_lawful {batch : Batch} {sent : Nat} {remaining : Int}
    (planned : batch ∈ batchesOf userIds)
    (clear : broadcastJournal.clear db (.claimed batch.batchIndex sent remaining) = true)
    (delivered : sent = batch.userIds.length → ∀ userId ∈ batch.userIds, userId ∈ db.messages) :
    Lawful userIds (db.claim batch.batchIndex sent remaining) ∧ db.reporting = false := by
  obtain ⟨result, created⟩ := Bool.and_eq_true_iff.mp clear
  have found : db.pending.any (·.batchIndex = batch.batchIndex) = true ∧
      remaining = (db.state.getD {}).remaining - 1 := by
    have returned := of_decide_eq_true result
    unfold BroadcastDb.claimResult at returned
    split at returned
    next any => exact ⟨any, (Option.some.inj returned).symm⟩
    next => cases returned
  obtain ⟨any, remainingIs⟩ := found
  obtain ⟨other, waiting, same⟩ := List.any_eq_true.mp any
  -- A batch is pending, so the campaign is running.
  have running : Running userIds db := by
    rcases lawful.phase with idle | running | finished
    · rw [idle.pending] at waiting
      cases waiting
    · exact running
    · rw [finished.pending] at waiting
      cases waiting
  have own : other = batch :=
    List.inj_on_of_nodup_map (batchesOf_nodup userIds) (running.pending.subset waiting) planned
      (of_decide_eq_true same)
  subst own
  have unique : (db.pending.map (·.batchIndex)).Nodup :=
    (batchesOf_nodup userIds).sublist (running.pending.map Batch.batchIndex)
  have parts := Keyed.perm_remove unique waiting
  have whole : sent = other.userIds.length := by
    rw [Keyed.filter_of_mem unique waiting] at created
    have sizes : other.userIds.length = sent := by simpa using created
    exact sizes.symm
  have notReporting : db.reporting = false := by
    rw [← Bool.not_eq_true, running.reporting]
    exact List.ne_nil_of_mem waiting
  refine ⟨⟨lawful.messages, lawful.jobs, .inr (.inl ?_)⟩, notReporting⟩
  obtain ⟨total, createdAt, state, balance⟩ := running.state
  have length := parts.length_eq
  rw [List.length_cons] at length
  refine ⟨?_, List.filter_sublist.trans running.pending, fun batch member => ?_, ?_, ?_, ?_⟩
  · have sizes : size db.pending = other.userIds.length +
        size (db.pending.filter (·.batchIndex ≠ other.batchIndex)) := by
      have sums := (parts.map fun batch : Batch => (batch.userIds.length : Int)).sum_eq
      rw [List.map_cons, List.sum_cons] at sums
      exact sums
    refine ⟨total + sent, createdAt, ?_, ?_⟩
    · simp only [BroadcastDb.claim, state, Option.getD_some]
      congr 2
      omega
    · change total + sent + size (db.pending.filter (·.batchIndex ≠ other.batchIndex)) = _
      omega
  · by_cases mine : batch = other
    · right
      rw [mine]
      exact delivered whole
    · refine (running.covered batch member).imp_left fun waits => List.mem_filter.mpr ⟨waits, ?_⟩
      have different : batch.batchIndex ≠ other.batchIndex := fun same =>
        mine (List.inj_on_of_nodup_map (batchesOf_nodup userIds) member planned same)
      simpa using different
  · have none := running.reports
    change (db.history ++ [BroadcastEvent.claimed ..]).filterMap reportOf = []
    rw [BroadcastDb.reports] at none
    rw [List.filterMap_append, none]
    rfl
  · simp [BroadcastDb.claim]
  · change (db.reporting || decide (remaining = 0)) = true ↔
      db.pending.filter (·.batchIndex ≠ other.batchIndex) = []
    rw [notReporting, Bool.false_or, decide_eq_true_eq, remainingIs, state, ← List.length_eq_zero_iff]
    simp only [Option.getD_some]
    omega

end Statements

section Jobs

variable {userIds : List UserId} {request : Request} {g : Token} {s t : BroadcastDb}

theorem exchange_grows {g' : Token} (lawful : Lawful userIds t) (grows : Grows s t)
    (valid : g'.Valid t) (same : g'.reporter = true → g.reporter = true) :
    (broadcastTokens userIds).Exchange g g' s t :=
  ⟨lawful, valid, fun _ validH compatible =>
    ⟨validH.grow grows, fun both => compatible ⟨same both.1, both.2⟩⟩⟩

/-- What a run learns and leaves with: nothing that concerns the report. -/
private abbrev Held {α : Type} (userIds : List UserId) (request : Request) (p : BroadcastProg α)
    (g : Token) : Prop :=
  p.Holds (broadcastTokens userIds) request (fun _ _ => True) g id

private theorem exchange_same (lawful : Lawful userIds s) (valid : g.Valid s) :
    (broadcastTokens userIds).Exchange g g s s :=
  .refl lawful valid

private theorem select_held {α β : Type} {q : BroadcastDb → α} {k : α → BroadcastProg β}
    (rest : ∀ s, Lawful userIds s → g.Valid s → Held userIds request (k (q s)) g) :
    Held userIds request (Prog.select q >>= k) g :=
  Prog.holds_select_bind fun s lawful valid => ⟨g, exchange_same lawful valid, rest s lawful valid⟩

private theorem autocommit_held {lock : Lock} {f : BroadcastDb → BroadcastDb}
    (kept : ∀ s, Lawful userIds s → g.Valid s → broadcastJournal.Allowed (κ := Lock) (.commit f) s →
      Lawful userIds (f s) ∧ Grows s (f s)) :
    Held userIds request (Prog.autocommit lock f) g :=
  Prog.holds_autocommit fun s lawful valid allowed => by
    obtain ⟨after, grows⟩ := kept s lawful valid allowed
    exact ⟨g, exchange_grows after grows (valid.grow grows) fun own => own, trivial⟩

private theorem autocommit_bind_held {β : Type} {lock : Lock} {f : BroadcastDb → BroadcastDb}
    {k : Unit → BroadcastProg β}
    (kept : ∀ s, Lawful userIds s → g.Valid s → broadcastJournal.Allowed (κ := Lock) (.commit f) s →
      Lawful userIds (f s) ∧ Grows s (f s))
    (rest : Held userIds request (k ()) g) :
    Held userIds request (Prog.autocommit lock f >>= k) g :=
  Prog.holds_autocommit_bind fun s lawful valid allowed => by
    obtain ⟨after, grows⟩ := kept s lawful valid allowed
    exact ⟨g, exchange_grows after grows (valid.grow grows) fun own => own, rest⟩

private theorem enqueueAll_held {batches : List Batch}
    (planned : ∀ batch ∈ batches, batch ∈ batchesOf userIds) :
    Held userIds request (enqueueAll batches) g := by
  induction batches with
  | nil => exact Prog.holds_pure trivial
  | cons batch rest ih =>
    refine autocommit_bind_held (fun s lawful _ _ => ?_) ?_
    · exact addJob_lawful lawful (planned batch List.mem_cons_self)
    · exact ih fun other member => planned other (List.mem_cons_of_mem _ member)

private theorem requeue_held {batches : List Batch}
    (planned : ∀ batch ∈ batches, batch ∈ batchesOf userIds) :
    Held userIds request (requeue batches) g := by
  induction batches with
  | nil => exact Prog.holds_pure trivial
  | cons batch rest ih =>
    have later := ih fun other member => planned other (List.mem_cons_of_mem _ member)
    refine select_held fun s _ _ => ?_
    split
    · exact later
    · refine autocommit_bind_held (fun s lawful _ _ => ?_) later
      exact addJob_lawful lawful (planned batch List.mem_cons_self)

private theorem pending_planned (lawful : Lawful userIds s) :
    ∀ batch ∈ s.pending, batch ∈ batchesOf userIds := by
  rcases lawful.phase with idle | running | finished
  · simp [idle.pending]
  · exact fun batch member => running.pending.subset member
  · simp [finished.pending]

private theorem plan_held :
    Held userIds request (processPlatformNotificationBroadcastJob userIds) g := by
  refine select_held fun s _ _ => ?_
  split
  · exact select_held fun t lawful _ => enqueueAll_held (pending_planned lawful)
  · unfold planNew
    split
    next none =>
      refine autocommit_held fun t lawful _ allowed => ?_
      have fresh : t.history = [] := of_decide_eq_true (allowed .nobody rfl)
      have after := nobody_lawful lawful fresh none
      refine ⟨after, fun own => own, fun begun => absurd fresh begun, fun reported => ?_,
        fun _ own => own⟩
      exact absurd (by rw [BroadcastDb.reports, fresh]; rfl) reported
    next some' =>
      refine autocommit_bind_held (fun t lawful _ allowed => ?_) (enqueueAll_held fun _ own => own)
      have fresh : t.history = [] := of_decide_eq_true (allowed .planned rfl)
      refine ⟨plan_lawful lawful fresh some', fun own => own, fun begun => absurd fresh begun,
        fun reported => ?_, fun _ own => own⟩
      exact absurd (by rw [BroadcastDb.reports, fresh]; rfl) reported

variable (known : UserId → Bool)

private theorem sendPlatformMessage_holds (userId : UserId) (g : Token) :
    (sendPlatformMessage known userId).Holds (broadcastTokens userIds) request
      (fun outcome g' => g'.reporter = g.reporter ∧ (∀ other ∈ g.delivered, other ∈ g'.delivered) ∧
        (outcome = .ok true → userId ∈ g'.delivered)) g id := by
  unfold sendPlatformMessage
  split
  · refine Prog.holds_transaction (Tx.holds_lockRow_bind (Tx.holds_select_bind fun s _ _ => ?_))
    cases (id s).messages.contains userId with
    | true =>
      refine fun t lawfulT validT _ => ⟨g, exchange_same lawfulT validT, rfl, fun _ own => own, ?_⟩
      simp
    | false =>
      intro t lawfulT validT _
      obtain ⟨after, grows, present⟩ := addMessage_lawful lawfulT userId
      have validG := validT.grow grows
      refine ⟨{ g with delivered := userId :: g.delivered }, exchange_grows after grows
        ⟨validG.reporter, validG.begun, validG.finished, ?_⟩ fun own => own, rfl,
        fun _ own => List.mem_cons_of_mem _ own, fun _ => List.mem_cons_self⟩
      intro other member
      rcases List.mem_cons.mp member with rfl | old
      · exact present
      · exact validG.delivered other old
  · exact Prog.holds_pure ⟨rfl, fun _ own => own, by simp⟩

private theorem sendAll_holds (order : List UserId) (g : Token) :
    (sendAll known order).Holds (broadcastTokens userIds) request
      (fun outcome g' => g'.reporter = g.reporter ∧ (∀ other ∈ g.delivered, other ∈ g'.delivered) ∧
        ∀ sent, outcome = .ok sent → sent ≤ order.length ∧
          (sent = order.length → ∀ userId ∈ order, userId ∈ g'.delivered)) g id := by
  induction order generalizing g with
  | nil =>
    refine Prog.holds_pure ⟨rfl, fun _ own => own, fun sent returned => ?_⟩
    cases returned
    exact ⟨Nat.le_refl 0, by simp⟩
  | cons userId rest ih =>
    refine Prog.Holds.bind (sendPlatformMessage_holds known userId g) (fun created g1 first => ?_)
      fun _ _ thrown => ⟨thrown.1, thrown.2.1, by simp⟩
    refine Prog.Holds.bind (ih g1) (fun sent g2 later => ?_) fun _ _ thrown =>
      ⟨thrown.1.trans first.1, fun other own => thrown.2.1 other (first.2.1 other own), by simp⟩
    obtain ⟨bound, all⟩ := later.2.2 sent rfl
    refine Prog.holds_pure ⟨later.1.trans first.1,
      fun other own => later.2.1 other (first.2.1 other own), fun total returned => ?_⟩
    cases returned
    cases created with
    | true =>
      refine ⟨by simp; omega, fun whole other member => ?_⟩
      have restWhole : sent = rest.length := by
        rw [List.length_cons, Bool.toNat_true] at whole
        omega
      rcases List.mem_cons.mp member with rfl | among
      · exact later.2.1 other (first.2.2 rfl)
      · exact all restWhole other among
    | false =>
      refine ⟨by simp; omega, fun whole => ?_⟩
      rw [List.length_cons, Bool.toNat_false] at whole
      omega

private theorem complete_held (own : g.reporter = true) : Held userIds request complete g := by
  refine Prog.holds_select_bind fun s lawful valid => ⟨g, exchange_same lawful valid, ?_⟩
  obtain ⟨running, claimed⟩ := lawful.reporting (valid.reporter own)
  obtain ⟨sent, createdAt, state, balance⟩ := running.state
  rw [size_eq_zero claimed, add_zero] at balance
  rw [state]
  refine Prog.holds_autocommit_bind fun t lawfulT validT _ => ?_
  have after : Lawful userIds (t.report userIds.length sent) :=
    balance ▸ report_lawful lawfulT (validT.reporter own)
  have reported : (t.report userIds.length sent).reports ≠ [] := by
    change (t.history ++ [BroadcastEvent.reported userIds.length sent]).filterMap reportOf ≠ []
    rw [List.filterMap_append]
    simp [reportOf]
  refine ⟨{ finished := true }, ⟨after, ⟨by simp, by simp, fun _ => reported, by simp⟩, ?_⟩, ?_⟩
  · -- No other run is about to report.
    intro h validH compatible
    refine ⟨⟨fun other => absurd ⟨own, other⟩ compatible, fun _ => ?_, fun _ => reported,
      validH.delivered⟩, fun both => nomatch both.1⟩
    change t.history ++ [BroadcastEvent.reported userIds.length sent] ≠ []
    simp
  · refine autocommit_held fun u lawfulU validU _ => ⟨?_, ?_⟩
    · exact (cleanup_lawful lawfulU (validU.finished rfl)).1
    · exact ⟨fun own => own, fun own => own, fun own => own, fun _ own => own⟩

private theorem claimBatch_held {batch : Batch} {sent : Nat}
    (planned : batch ∈ batchesOf userIds)
    (delivered : sent = batch.userIds.length → ∀ userId ∈ batch.userIds, userId ∈ g.delivered) :
    Held userIds request (Prog.transaction (claimBatch batch.batchIndex sent) >>= completeIf) g := by
  refine Prog.holds_transaction_bind (Tx.holds_lockRow_bind (Tx.holds_select_bind fun s _ _ => ?_))
  cases (id s).claimResult batch.batchIndex with
  | none =>
    refine fun t lawfulT validT _ => ⟨g, exchange_same lawfulT validT, ?_⟩
    exact Prog.holds_pure trivial
  | some remaining =>
    intro t lawfulT validT allowed
    obtain ⟨after, idle⟩ := claim_lawful lawfulT planned (allowed _ rfl) fun whole userId member =>
      validT.delivered userId (delivered whole userId member)
    have grows : Grows t (t.claim batch.batchIndex sent remaining) := by
      refine ⟨fun own => ?_, fun _ => ?_, fun reported => ?_, fun _ own => own⟩
      · rw [idle] at own
        cases own
      · simp [BroadcastDb.claim]
      · change (t.history ++ [BroadcastEvent.claimed ..]).filterMap reportOf ≠ []
        rw [List.filterMap_append]
        simpa [reportOf, BroadcastDb.reports] using reported
    unfold completeIf
    split
    next last =>
      refine ⟨{ reporter := true }, ⟨after, ⟨fun _ => ?_, by simp, by simp, by simp⟩, ?_⟩,
        complete_held rfl⟩
      · simp [BroadcastDb.claim, last]
      · intro h validH _
        refine ⟨validH.grow grows, fun both => ?_⟩
        have claimed := validH.reporter both.2
        rw [idle] at claimed
        cases claimed
    next =>
      exact ⟨g, exchange_grows after grows (validT.grow grows) fun own => own,
        Prog.holds_pure trivial⟩

private theorem batch_held (batchIndex : Nat) (order : List UserId) :
    Held userIds request (processPlatformNotificationBroadcastBatchJob known batchIndex order)
      {} := by
  refine select_held fun s lawful _ => ?_
  cases found : s.jobs.find? (·.batchIndex = batchIndex) with
  | none => exact Prog.holds_pure trivial
  | some batch =>
    have planned := lawful.jobs batch (List.mem_of_find?_eq_some found)
    unfold runJob
    dsimp only
    split
    next perm =>
      refine Prog.Holds.bind (sendAll_holds known order {}) (fun sent g later => ?_)
        fun _ _ _ => trivial
      obtain ⟨-, all⟩ := later.2.2 sent rfl
      refine claimBatch_held planned fun whole userId member => ?_
      exact all (whole.trans perm.length_eq.symm) userId (perm.mem_iff.mpr member)
    next => exact Prog.holds_pure trivial

private theorem sweep_held : Held userIds request sweepStalePlatformBroadcasts {} := by
  refine Prog.holds_select_bind fun s lawful valid => ?_
  cases active : s.active with
  | false => exact ⟨{}, exchange_same lawful valid, Prog.holds_pure trivial⟩
  | true =>
    have begun : s.history ≠ [] := by
      intro fresh
      rw [(lawful.idle fresh).active] at active
      cases active
    refine ⟨{ begun := true }, .learn lawful ⟨by simp, fun _ => begun, by simp, by simp⟩
      fun _ compatible => compatible, ?_⟩
    refine Prog.holds_select_bind fun t lawfulT validT => ?_
    cases created : t.state.bind (·.createdAt) with
    | none =>
      -- A campaign that has begun loses its state only after the report.
      have reported : t.reports ≠ [] := by
        rcases lawfulT.phase with idle | running | finished
        · exact absurd idle.history (validT.begun rfl)
        · obtain ⟨sent, createdAt, state, -⟩ := running.state
          rw [state] at created
          cases created
        · rw [finished.reports]
          simp
      refine ⟨{ finished := true }, .learn lawfulT ⟨by simp, by simp, fun _ => reported, by simp⟩
        fun _ compatible => compatible, ?_⟩
      refine autocommit_held fun u lawfulU validU _ => ⟨?_, ?_⟩
      · exact (cleanup_lawful lawfulU (validU.finished rfl)).2
      · exact ⟨fun own => own, fun own => own, fun own => own, fun _ own => own⟩
    | some createdAt =>
      refine ⟨{ begun := true }, exchange_same lawfulT validT, ?_⟩
      refine select_held fun u _ _ => ?_
      unfold sweepStale
      split
      · exact Prog.holds_pure trivial
      · exact select_held fun v lawfulV _ => requeue_held (pending_planned lawfulV)

private theorem handler_held (request : Request) :
    Held userIds request (handler known userIds request) {} := by
  cases request with
  | plan => exact plan_held
  | batch batchIndex order => exact batch_held known batchIndex order
  | sweep => exact sweep_held
  | tick elapsed =>
    refine autocommit_held fun s lawful _ _ => ⟨?_, fun own => own, fun own => own, fun own => own,
      fun _ own => own⟩
    exact ⟨lawful.messages, lawful.jobs, lawful.phase_of rfl rfl rfl rfl rfl fun _ own => own⟩

end Jobs

theorem broadcast_delivered (known : UserId → Bool) (userIds : List UserId) (now : Time)
    {c : Config Request BroadcastDb Lock BroadcastError}
    (run : Reaches (handler known userIds) broadcastJournal.Orderly (Config.idle { now }) c) :
    Delivered userIds c.db := by
  have base : Lawful userIds { now } := ⟨List.nodup_nil, by simp, .inl ⟨rfl, rfl, rfl, rfl⟩⟩
  obtain ⟨token, held⟩ := run.held (T := broadcastTokens userIds)
    (fun request => handler_held known request) (fun _ _ orderly => orderly) base
  exact Lawful.delivered held.inv

/-! ### Runs of a few jobs -/

def everybody : UserId → Bool := fun _ => true

/-- A campaign with two recipients is planned, sent and reported; a sweep finds nothing. -/
theorem broadcast_delivered_reported :
    ∃ c : Config Request BroadcastDb Lock BroadcastError,
      c.db.reports = [(2, 2)] ∧ Delivered [1, 2] c.db := by
  obtain ⟨c, run, reports⟩ : ∃ c, Reaches (handler everybody [1, 2]) broadcastJournal.Orderly
      (Config.idle { now := 0 }) c ∧ c.db.reports = [(2, 2)] :=
    exists_reaches_checked broadcastJournal.orderly_of_checks [serve .plan 0 5,
      serve (.batch 0 [2, 1]) 1 18, serve .sweep 2 1] (by decide +kernel)
  exact ⟨c, reports, broadcast_delivered everybody [1, 2] 0 run⟩

/-- A run that crashes after it has sent its messages leaves them to a second one, which finds that
none is new and counts none. A planner that is retried after the campaign is reported plans it again,
and it is reported again. And a run that crashes after it has claimed the last batch leaves a campaign
that nobody reports. -/
theorem broadcast_not_delivered :
    (∃ c, Reaches (handler everybody [1, 2]) (fun _ _ => True) (Config.idle { now := 0 }) c ∧
      c.db.messages = [1, 2] ∧ c.db.reports = [(2, 0)] ∧ ¬Delivered [1, 2] c.db) ∧
    (∃ c, Reaches (handler everybody [1, 2]) (fun _ _ => True) (Config.idle { now := 0 }) c ∧
      c.db.reports = [(2, 2), (2, 0)] ∧ ¬Delivered [1, 2] c.db) ∧
    ∃ c, Reaches (handler everybody [1, 2]) (fun _ _ => True) (Config.idle { now := 0 }) c ∧
      c.db.messages = [1, 2] ∧ c.db.pending = [] ∧ c.db.reports = [] := by
  refine ⟨?_, ?_, ?_⟩
  · obtain ⟨c, run, messages, reports⟩ : ∃ c, Reaches (handler everybody [1, 2]) (fun _ _ => True)
        (Config.idle { now := 0 }) c ∧ c.db.messages = [1, 2] ∧ c.db.reports = [(2, 0)] :=
      exists_reaches [serve .plan 0 5, serve (.batch 0 [1, 2]) 1 9, [.crash 1],
        serve (.batch 0 [1, 2]) 2 16] (by decide +kernel)
    refine ⟨c, run, messages, reports, fun delivered => ?_⟩
    have sent := delivered.sent (2, 0) (by rw [reports]; simp)
    rw [messages] at sent
    exact absurd sent (by decide)
  · obtain ⟨c, run, reports⟩ : ∃ c, Reaches (handler everybody [1, 2]) (fun _ _ => True)
        (Config.idle { now := 0 }) c ∧ c.db.reports = [(2, 2), (2, 0)] :=
      exists_reaches [serve .plan 0 5, serve (.batch 0 [1, 2]) 1 18,
        serve .plan 2 5, serve (.batch 0 [1, 2]) 3 16] (by decide +kernel)
    refine ⟨c, run, reports, fun delivered => ?_⟩
    have once := delivered.once
    rw [reports] at once
    exact absurd once (by decide)
  · exact exists_reaches [serve .plan 0 5, serve (.batch 0 [1, 2]) 1 13,
      [.crash 1], serve (.tick 600000) 2 2, serve .sweep 3 4] (by decide +kernel)

end OlNode.Broadcast
