import OlNode.ReadCommitted.Journal
import OlNode.Schema

/-!
# Deletion of an account

Scheduling a deletion, cancelling it and carrying it out each decide from a row that was read
before; the first two then update the deletion row and the user row one after the other. An update
that comes when the deletion row has moved on is what can go wrong: the job deletes an account whose
deletion was cancelled after the job listed it, and a cancel brings a deleted account back. If every
update finds the deletion row in the state it was meant for, the two rows agree whenever no call
stands between its two updates, and what was cancelled is not deleted.
-/
namespace OlNode.AccountDeletion

open ReadCommitted

/-! ### The account -/

inductive UserStatus where
  | new | active | suspended | banned | deactivating | deleted
  deriving DecidableEq

structure DeletionRow where
  scheduledAt : Time
  deactivationUntil : Time
  deletionAt : Time
  isCancelled : Bool := false
  cancelledAt : Option Time := none
  isDeleted : Bool := false
  deletedAt : Option Time := none

/-- `scheduled` and `deactivated` are the two updates of a schedule, `cancelled` and `reactivated`
those of a cancel. -/
inductive AccountEvent where
  | scheduled | deactivated | cancelled | reactivated | deleted
  deriving DecidableEq

/-- One account. `authIdentifiers` stands for the data that goes with it; `pending` counts the calls
that stand between their two updates. -/
structure AccountDb where
  now : Time
  status : UserStatus
  authIdentifiers : List String
  deletion : Option DeletionRow
  pending : Nat := 0
  history : List AccountEvent := []

inductive Lock where
  | clock | user | accountDeletion
  deriving DecidableEq

inductive DeletionError where
  | incorrectSecurityPassword
  | accountAlreadyDeleted
  | deletionAlreadyScheduled
  | notScheduledForDeletion
  | deletionWindowExpired
  | accountDeletionNotFound
  | deletionAlreadyCancelled
  deriving DecidableEq

abbrev DeletionProg := Prog AccountDb Lock DeletionError

/-- What `accountDeletionConfigService.getPeriods` returns, in milliseconds. -/
structure Periods where
  gracePeriod : Time
  deletionPeriod : Time

/-! ### Statements -/

def AccountDb.upsertSchedule (db : AccountDb) (now : Time) (periods : Periods) : AccountDb :=
  { db with
    deletion := some { scheduledAt := now, deactivationUntil := now + periods.gracePeriod,
                       deletionAt := now + periods.deletionPeriod }
    pending := db.pending + 1
    history := db.history ++ [.scheduled] }

def AccountDb.deactivate (db : AccountDb) : AccountDb :=
  { db with
    status := .deactivating
    pending := db.pending - 1
    history := db.history ++ [.deactivated] }

def AccountDb.cancel (db : AccountDb) (now : Time) : AccountDb :=
  { db with
    deletion := db.deletion.map fun row => { row with isCancelled := true, cancelledAt := some now }
    pending := db.pending + 1
    history := db.history ++ [.cancelled] }

def AccountDb.reactivate (db : AccountDb) : AccountDb :=
  { db with
    status := .active
    pending := db.pending - 1
    history := db.history ++ [.reactivated] }

def AccountDb.findForDeletion (now : Time) (db : AccountDb) : Option DeletionRow :=
  db.deletion.filter fun row => row.deletionAt ≤ now && !row.isDeleted && !row.isCancelled

/-! ### Operations -/

/-- `verified`: what `verifyCurrentPassword` says of the security password. -/
def checkSecurityPassword (verified : Bool) : DeletionProg Unit :=
  Prog.ensure verified .incorrectSecurityPassword

def schedulable : Option DeletionRow → Except DeletionError Unit
  | none => .ok ()
  | some existing =>
    if existing.isDeleted then .error .accountAlreadyDeleted
    else if !existing.isCancelled then .error .deletionAlreadyScheduled
    else .ok ()

def setSchedule (periods : Periods) : Except DeletionError Unit → DeletionProg Unit
  | .error error => Prog.fail error
  | .ok () => do
    let now ← Prog.select (·.now)
    Prog.autocommit .accountDeletion (·.upsertSchedule now periods)
    Prog.autocommit .user (·.deactivate)

def scheduleDeletion (verified : Bool) (periods : Periods) : DeletionProg Unit := do
  checkSecurityPassword verified
  let existing ← Prog.select (·.deletion)
  setSchedule periods (schedulable existing)

def cancelScheduledDeletion (now : Time) : DeletionProg Unit := do
  Prog.autocommit .accountDeletion (·.cancel now)
  Prog.autocommit .user (·.reactivate)

def cancelInGrace (deletion : DeletionRow) (now : Time) : DeletionProg Unit :=
  if deletion.deactivationUntil < now then Prog.fail .deletionWindowExpired
  else cancelScheduledDeletion now

def cancelOwn : Option DeletionRow → DeletionProg Unit
  | none => Prog.fail .notScheduledForDeletion
  | some deletion =>
    if deletion.isCancelled || deletion.isDeleted then Prog.fail .notScheduledForDeletion
    else do
      let now ← Prog.select (·.now)
      cancelInGrace deletion now

def cancelDeletion (verified : Bool) : DeletionProg Unit := do
  checkSecurityPassword verified
  let deletion ← Prog.select (·.deletion)
  cancelOwn deletion

def cancelAsAdmin : Option DeletionRow → DeletionProg Unit
  | none => Prog.fail .accountDeletionNotFound
  | some deletion =>
    if deletion.isDeleted then Prog.fail .accountAlreadyDeleted
    else if deletion.isCancelled then Prog.fail .deletionAlreadyCancelled
    else do
      let now ← Prog.select (·.now)
      cancelScheduledDeletion now

def cancelDeletionByAdmin : DeletionProg Unit := do
  let deletion ← Prog.select (·.deletion)
  cancelAsAdmin deletion

def cancelOnLogin : Option DeletionRow → DeletionProg Unit
  | none => pure ()
  | some deletion =>
    if deletion.isCancelled || deletion.isDeleted then pure ()
    else do
      let now ← Prog.select (·.now)
      cancelScheduledDeletion now

def cancelIfScheduledOnLogin : DeletionProg Unit := do
  let deletion ← Prog.select (·.deletion)
  cancelOnLogin deletion

/-- The transaction of `deleteAccountPermanently`. -/
def deleteData (now : Time) : Tx AccountDb Lock DeletionError Unit := do
  Tx.update .user fun db => { db with authIdentifiers := [], status := .deleted }
  Tx.update .accountDeletion fun db =>
    { db with
      deletion := db.deletion.map fun row => { row with isDeleted := true, deletedAt := some now }
      history := db.history ++ [.deleted] }

/-- The account is archived before the transaction. -/
def deleteAccountPermanently : DeletionProg Unit := do
  let now ← Prog.select (·.now)
  Prog.transaction (deleteData now)

def deleteListed : Option DeletionRow → DeletionProg Unit
  | none => pure ()
  | some _ => deleteAccountPermanently

def runDeletionJob : DeletionProg Unit := do
  let now ← Prog.select (·.now)
  let accountToDelete ← Prog.select (·.findForDeletion now)
  deleteListed accountToDelete

inductive Request where
  | scheduleDeletion (verified : Bool) (periods : Periods)
  | cancelDeletion (verified : Bool)
  | cancelDeletionByAdmin
  | cancelIfScheduledOnLogin
  | runDeletionJob
  | tick (elapsed : Time)

def handler : Request → DeletionProg Unit
  | .scheduleDeletion verified periods => scheduleDeletion verified periods
  | .cancelDeletion verified => cancelDeletion verified
  | .cancelDeletionByAdmin => cancelDeletionByAdmin
  | .cancelIfScheduledOnLogin => cancelIfScheduledOnLogin
  | .runDeletionJob => runDeletionJob
  | .tick elapsed => Prog.autocommit .clock fun db => { db with now := db.now + elapsed }

/-! ### The law -/

def AccountDb.isScheduled (db : AccountDb) : Bool :=
  db.deletion.any fun row => !row.isCancelled && !row.isDeleted

def AccountDb.isCancelled (db : AccountDb) : Bool := db.deletion.any (·.isCancelled)

def AccountDb.isDeleted (db : AccountDb) : Bool := db.deletion.any (·.isDeleted)

/-- The user row and the deletion row say the same. -/
structure Agrees (db : AccountDb) : Prop where
  deactivating : db.status = .deactivating ↔ db.isScheduled = true
  deleted : db.status = .deleted ↔ db.isDeleted = true

/-- After a cancel nothing is deleted before the next schedule. -/
def CancelSpares (history : List AccountEvent) : Prop :=
  ∀ before between after,
    history = before ++ AccountEvent.reactivated :: between ++ AccountEvent.deleted :: after →
      .scheduled ∈ between

structure Coherent (db : AccountDb) : Prop where
  spared : CancelSpares db.history
  gone : .deleted ∈ db.history → db.status ≠ .active
  agrees : db.pending = 0 → Agrees db

/-- Where each update finds the deletion row as it was meant to. A schedule finds no deleted account,
its update of the user row a schedule that is still on; a cancel finds its cancelled row not deleted
when it makes the user active; and the job finds the row not cancelled. -/
def accountJournal : Journal AccountDb AccountEvent where
  entries := (·.history)
  clear db e := match e with
    | .scheduled => !db.isDeleted
    | .deactivated => db.isScheduled
    | .cancelled => true
    | .reactivated => db.isCancelled && !db.isDeleted
    | .deleted => db.deletion.any fun row => !row.isCancelled

/-- `quiet`: since the last cancel, if no schedule followed, the deletion row is cancelled. -/
structure Lawful (db : AccountDb) : Prop where
  spared : CancelSpares db.history
  quiet : ∀ before between, db.history = before ++ .reactivated :: between →
    .scheduled ∉ between → db.isCancelled = true
  gone : .deleted ∈ db.history → db.isDeleted = true ∧ db.status = .deleted
  agrees : db.pending = 0 → Agrees db

variable {db : AccountDb}

theorem Lawful.coherent (lawful : Lawful db) : Coherent db where
  spared := lawful.spared
  gone deleted active := by
    have status := (lawful.gone deleted).2
    rw [active] at status
    cases status
  agrees := lawful.agrees

/-! ### The journal -/

private theorem split_append {history before rest : List AccountEvent} {e x : AccountEvent}
    (split : history ++ [e] = before ++ x :: rest) :
    (history = before ∧ e = x ∧ rest = []) ∨ ∃ fewer, rest = fewer ++ [e] ∧
      history = before ++ x :: fewer := by
  rcases List.eq_nil_or_concat rest with rfl | ⟨fewer, last, rfl⟩
  · obtain ⟨same, single⟩ := List.append_inj' split rfl
    exact .inl ⟨same, List.singleton_inj.mp single, rfl⟩
  · rw [List.concat_eq_append, ← List.cons_append, ← List.append_assoc] at split
    obtain ⟨same, single⟩ := List.append_inj' split rfl
    obtain rfl := List.singleton_inj.mp single
    exact .inr ⟨fewer, List.concat_eq_append, same⟩

private theorem CancelSpares.append {history : List AccountEvent} (spared : CancelSpares history)
    {e : AccountEvent} (may : e = .deleted → ∀ before between,
      history = before ++ .reactivated :: between → .scheduled ∈ between) :
    CancelSpares (history ++ [e]) := by
  intro before between after split
  rcases split_append split with ⟨same, rfl, -⟩ | ⟨fewer, rfl, same⟩
  · exact may rfl before between same
  · exact spared before between fewer same

private theorem quiet_append {db db' : AccountDb} (lawful : Lawful db) {e : AccountEvent}
    (recorded : db'.history = db.history ++ [e])
    (made : e = .reactivated → db'.isCancelled = true)
    (kept : e ≠ .scheduled → db.isCancelled = true → db'.isCancelled = true)
    (before between : List AccountEvent)
    (split : db'.history = before ++ .reactivated :: between) (none : .scheduled ∉ between) :
    db'.isCancelled = true := by
  rw [recorded] at split
  rcases split_append split with ⟨-, rfl, -⟩ | ⟨fewer, rfl, same⟩
  · exact made rfl
  · rw [List.mem_append, not_or, List.mem_singleton] at none
    exact kept (Ne.symm none.2) (lawful.quiet before fewer same none.1)

private theorem Lawful.record {db db' : AccountDb} (lawful : Lawful db) {e : AccountEvent}
    (recorded : db'.history = db.history ++ [e]) (other : e ≠ .deleted)
    (made : e = .reactivated → db'.isCancelled = true)
    (kept : e ≠ .scheduled → db.isCancelled = true → db'.isCancelled = true)
    (gone : db.isDeleted = true → db.status = .deleted →
      db'.isDeleted = true ∧ db'.status = .deleted)
    (agrees : db'.pending = 0 → Agrees db') : Lawful db' where
  spared := by
    rw [recorded]
    exact lawful.spared.append fun deleted => absurd deleted other
  quiet := quiet_append lawful recorded made kept
  gone deleted := by
    rw [recorded, List.mem_append, List.mem_singleton] at deleted
    rcases deleted with old | now
    · exact gone (lawful.gone old).1 (lawful.gone old).2
    · exact absurd now.symm other
  agrees := agrees

/-! ### One commit -/

private theorem any_map {deletion : Option DeletionRow} {p : DeletionRow → Bool}
    {f : DeletionRow → DeletionRow} (kept : ∀ row, p row = true → p (f row) = true)
    (holds : deletion.any p = true) : (deletion.map f).any p = true := by
  cases deletion with
  | none => exact holds
  | some row => exact kept row holds

private theorem isDeleted_of_isScheduled (scheduled : db.isScheduled = true) :
    db.isDeleted = false := by
  unfold AccountDb.isScheduled at scheduled
  unfold AccountDb.isDeleted
  cases found : db.deletion with
  | none => rfl
  | some row => simp_all

private theorem isScheduled_of_isCancelled (cancelled : db.isCancelled = true) :
    db.isScheduled = false := by
  unfold AccountDb.isCancelled at cancelled
  unfold AccountDb.isScheduled
  cases found : db.deletion with
  | none => rfl
  | some row => simp_all

private theorem isScheduled_of_isDeleted (deleted : db.isDeleted = true) :
    db.isScheduled = false := by
  by_contra scheduled
  rw [Bool.not_eq_false] at scheduled
  rw [isDeleted_of_isScheduled scheduled] at deleted
  cases deleted

private theorem upsertSchedule_lawful (lawful : Lawful db) (present : db.isDeleted = false)
    (now : Time) (periods : Periods) :
    Lawful (db.upsertSchedule now periods) := by
  refine lawful.record rfl (by simp) (by simp) (fun schedule => absurd rfl schedule) ?_ ?_
  · intro deleted
    rw [present] at deleted
    cases deleted
  · intro none
    exact absurd none (Nat.succ_ne_zero db.pending)

private theorem deactivate_lawful (lawful : Lawful db) (scheduled : db.isScheduled = true) :
    Lawful db.deactivate := by
  have present : db.isDeleted = false := isDeleted_of_isScheduled scheduled
  refine lawful.record rfl (by simp) (by simp) (fun _ kept => kept) ?_ fun _ => ⟨?_, ?_⟩
  · intro deleted
    rw [present] at deleted
    cases deleted
  · exact ⟨fun _ => scheduled, fun _ => rfl⟩
  · constructor
    · intro status
      cases status
    · intro deleted
      exact absurd (present.symm.trans deleted) Bool.false_ne_true

private theorem cancel_lawful (lawful : Lawful db) (now : Time) :
    Lawful (db.cancel now) := by
  refine lawful.record rfl (by simp) (by simp) (fun _ cancelled => ?_)
    (fun deleted status => ⟨?_, status⟩) ?_
  · exact any_map (fun _ _ => rfl) cancelled
  · exact any_map (fun _ kept => kept) deleted
  · intro none
    exact absurd none (Nat.succ_ne_zero db.pending)

private theorem reactivate_lawful (lawful : Lawful db) (cancelled : db.isCancelled = true)
    (present : db.isDeleted = false) :
    Lawful db.reactivate := by
  have off : db.isScheduled = false := isScheduled_of_isCancelled cancelled
  refine lawful.record rfl (by simp) (fun _ => cancelled) (fun _ kept => kept) ?_
    fun _ => ⟨?_, ?_⟩
  · intro deleted
    rw [present] at deleted
    cases deleted
  · constructor
    · intro status
      cases status
    · intro scheduled
      exact absurd (off.symm.trans scheduled) Bool.false_ne_true
  · constructor
    · intro status
      cases status
    · intro deleted
      exact absurd (present.symm.trans deleted) Bool.false_ne_true

/-- What the transaction of the deletion writes. -/
private def deleted (now : Time) (db : AccountDb) : AccountDb :=
  { db with
    authIdentifiers := [], status := .deleted
    deletion := db.deletion.map fun row => { row with isDeleted := true, deletedAt := some now }
    history := db.history ++ [.deleted] }

private theorem deleted_lawful (lawful : Lawful db)
    (on : db.deletion.any (fun row => !row.isCancelled) = true) (now : Time) :
    Lawful (deleted now db) := by
  have notCancelled : db.isCancelled = false := by
    unfold AccountDb.isCancelled
    cases found : db.deletion with
    | none => rfl
    | some row => simp_all
  have gone : (deleted now db).isDeleted = true := by
    unfold AccountDb.isDeleted deleted
    cases found : db.deletion with
    | none => simp_all
    | some row => rfl
  -- The last cancel, if there was one, was followed by a schedule.
  have spares : ∀ before between, db.history = before ++ .reactivated :: between →
      .scheduled ∈ between := by
    intro before between split
    by_contra none
    have cancelled := lawful.quiet before between split none
    exact absurd (notCancelled.symm.trans cancelled) Bool.false_ne_true
  refine ⟨lawful.spared.append fun _ => spares, ?_, fun _ => ⟨gone, rfl⟩, fun _ => ⟨?_, ?_⟩⟩
  · exact quiet_append lawful rfl (by simp) fun _ cancelled => any_map (fun _ kept => kept) cancelled
  · constructor
    · intro status
      cases status
    · intro scheduled
      exact absurd ((isScheduled_of_isDeleted gone).symm.trans scheduled) Bool.false_ne_true
  · exact ⟨fun _ => gone, fun _ => rfl⟩

private theorem tick_lawful (lawful : Lawful db) (elapsed : Time) :
    Lawful { db with now := db.now + elapsed } :=
  ⟨lawful.spared, lawful.quiet, lawful.gone, fun none =>
    ⟨(lawful.agrees none).deactivating, (lawful.agrees none).deleted⟩⟩

/-! ### Runs -/

section Runs

variable {request : Request}

private abbrev Keeps (request : Request) (p : DeletionProg Unit) : Prop :=
  p.Holds (accountJournal.clerks Lawful) request (fun _ _ => True) () id

private theorem fail_keeps (error : DeletionError) : Keeps request (Prog.fail error) :=
  Prog.holds_fail trivial

private theorem cancelScheduledDeletion_keeps (now : Time) :
    Keeps request (cancelScheduledDeletion now) := by
  refine Journal.autocommit_bind_clerks (fun db lawful _ => cancel_lawful lawful now) ?_
  refine Journal.autocommit_clerks fun db lawful allowed => ?_
  have clear := allowed _ rfl
  simp only [accountJournal, Bool.and_eq_true, Bool.not_eq_true'] at clear
  exact reactivate_lawful lawful clear.1 clear.2

private theorem setSchedule_keeps (periods : Periods) (decision : Except DeletionError Unit) :
    Keeps request (setSchedule periods decision) := by
  cases decision with
  | error error => exact fail_keeps error
  | ok _ =>
    refine Journal.select_clerks fun s _ => ?_
    refine Journal.autocommit_bind_clerks (fun db lawful allowed => ?_) ?_
    · have clear := allowed _ rfl
      simp only [accountJournal, Bool.not_eq_true'] at clear
      exact upsertSchedule_lawful lawful clear s.now periods
    · exact Journal.autocommit_clerks fun db lawful allowed =>
        deactivate_lawful lawful (allowed _ rfl)

private theorem cancel_keeps {condition : Prop} [Decidable condition] {refused : DeletionProg Unit}
    (refuses : Keeps request refused) {p : Time → DeletionProg Unit}
    (goesOn : ∀ now, Keeps request (p now)) :
    Keeps request (if condition then refused else Prog.select (·.now) >>= p) := by
  split
  · exact refuses
  · exact Journal.select_clerks fun s _ => goesOn s.now

variable (deletion : Option DeletionRow)

private theorem cancelOwn_keeps :
    Keeps request (cancelOwn deletion) := by
  cases deletion with
  | none => exact fail_keeps _
  | some row =>
    refine cancel_keeps (fail_keeps _) fun now => ?_
    unfold cancelInGrace
    split
    · exact fail_keeps _
    · exact cancelScheduledDeletion_keeps now

private theorem cancelAsAdmin_keeps :
    Keeps request (cancelAsAdmin deletion) := by
  cases deletion with
  | none => exact fail_keeps _
  | some row =>
    unfold cancelAsAdmin
    dsimp only
    split
    · exact fail_keeps _
    · exact cancel_keeps (fail_keeps _) cancelScheduledDeletion_keeps

private theorem cancelOnLogin_keeps :
    Keeps request (cancelOnLogin deletion) := by
  cases deletion with
  | none => exact Prog.holds_pure trivial
  | some row => exact cancel_keeps (Prog.holds_pure trivial) cancelScheduledDeletion_keeps

private theorem deleteListed_keeps (listed : Option DeletionRow) :
    Keeps request (deleteListed listed) := by
  cases listed with
  | none => exact Prog.holds_pure trivial
  | some row =>
    refine Journal.select_clerks fun s _ => ?_
    refine Prog.holds_transaction (Journal.commitsWith_clerks (fun db lawful allowed => ?_) trivial)
    exact deleted_lawful lawful (allowed _ rfl) s.now

private theorem checked_keeps (verified : Bool) {p : DeletionProg Unit} (goesOn : Keeps request p) :
    Keeps request (checkSecurityPassword verified >>= fun _ => p) := by
  cases verified with
  | true => exact goesOn
  | false => exact fail_keeps _

private theorem handler_keeps (request : Request) : Keeps request (handler request) := by
  cases request with
  | scheduleDeletion verified periods =>
    exact checked_keeps verified (Journal.select_clerks fun s _ => setSchedule_keeps periods _)
  | cancelDeletion verified =>
    exact checked_keeps verified (Journal.select_clerks fun s _ => cancelOwn_keeps _)
  | cancelDeletionByAdmin => exact Journal.select_clerks fun s _ => cancelAsAdmin_keeps _
  | cancelIfScheduledOnLogin => exact Journal.select_clerks fun s _ => cancelOnLogin_keeps _
  | runDeletionJob =>
    exact Journal.select_clerks fun s _ => Journal.select_clerks fun t _ => deleteListed_keeps _
  | tick elapsed =>
    exact Journal.autocommit_clerks fun db lawful _ => tick_lawful lawful elapsed

end Runs

theorem deletion_coherent {db : AccountDb} (fresh : db.history = []) (agrees : Agrees db)
    {c : Config Request AccountDb Lock DeletionError}
    (run : Reaches handler accountJournal.Orderly (Config.idle db) c) : Coherent c.db := by
  have base : Lawful db := by
    refine ⟨?_, ?_, ?_, fun _ => agrees⟩
    · intro before between after split
      simp [fresh] at split
    · intro before between split
      simp [fresh] at split
    · intro deleted
      simp [fresh] at deleted
  exact (Journal.invariant_of_clerks handler_keeps base run).coherent

/-! ### Runs of two calls -/

def dueDb : AccountDb :=
  { now := 100, status := .deactivating, authIdentifiers := ["identifier"]
    deletion := some { scheduledAt := 0, deactivationUntil := 50, deletionAt := 100 } }

private theorem dueDb_agrees : Agrees dueDb := ⟨by decide, by decide⟩

/-- A cancel, a new schedule, and the job when that is due. -/
theorem deletion_coherent_rescheduled :
    ∃ c : Config Request AccountDb Lock DeletionError,
      c.db.history = [.cancelled, .reactivated, .scheduled, .deactivated, .deleted] ∧
      Coherent c.db := by
  obtain ⟨c, run, history⟩ : ∃ c, Reaches handler accountJournal.Orderly (Config.idle dueDb) c ∧
      c.db.history = [.cancelled, .reactivated, .scheduled, .deactivated, .deleted] :=
    exists_reaches_checked accountJournal.orderly_of_checks [serve .cancelIfScheduledOnLogin 0 6,
      serve (.scheduleDeletion true ⟨30, 45⟩) 1 6, serve (.tick 45) 2 2,
      serve .runDeletionJob 3 6] (by decide +kernel)
  exact ⟨c, history, deletion_coherent rfl dueDb_agrees run⟩

/-- A cancel between the job's list and its transaction; the job between what a cancel reads and what
it writes; and a schedule between the two updates of a cancel. -/
theorem deletion_not_coherent :
    (∃ c, Reaches handler (fun _ _ => True) (Config.idle dueDb) c ∧
      ¬CancelSpares c.db.history) ∧
    (∃ c, Reaches handler (fun _ _ => True) (Config.idle dueDb) c ∧
      .deleted ∈ c.db.history ∧ c.db.status = .active) ∧
    ∃ c, Reaches handler (fun _ _ => True) (Config.idle dueDb) c ∧
      c.db.pending = 0 ∧ ¬Agrees c.db := by
  refine ⟨?_, ?_, ?_⟩
  · obtain ⟨c, run, history⟩ : ∃ c, Reaches handler (fun _ _ => True) (Config.idle dueDb) c ∧
        c.db.history = [.cancelled, .reactivated, .deleted] :=
      exists_reaches [serve .runDeletionJob 0 2,
        serve .cancelIfScheduledOnLogin 1 6, List.replicate 4 (.advance 0)]
        (by decide +kernel)
    refine ⟨c, run, fun spared => ?_⟩
    have scheduled := spared [.cancelled] [] [] history
    cases scheduled
  · exact exists_reaches [serve .cancelIfScheduledOnLogin 0 2,
      serve .runDeletionJob 1 6, List.replicate 4 (.advance 0)] (by decide +kernel)
  · obtain ⟨c, run, finished, active, scheduled⟩ : ∃ c, Reaches handler (fun _ _ => True)
        (Config.idle dueDb) c ∧ c.db.pending = 0 ∧ c.db.status = .active ∧
        c.db.isScheduled = true :=
      exists_reaches [serve .cancelIfScheduledOnLogin 0 4,
        serve (.scheduleDeletion true ⟨30, 45⟩) 1 6, List.replicate 2 (.advance 0)]
        (by decide +kernel)
    refine ⟨c, run, finished, fun agrees => ?_⟩
    have status := agrees.deactivating.mpr scheduled
    rw [active] at status
    cases status

end OlNode.AccountDeletion
