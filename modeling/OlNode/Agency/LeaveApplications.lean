import Mathlib.Data.List.Chain
import OlNode.Agency.Membership
import OlNode.Keyed
import OlNode.ReadCommitted.Journal

/-!
# Leave applications

An application names a host and an agency, not the membership it is about. Only `cancelPending` is
a conditional update: the other resolutions read the status, write the new one by id, and end
whatever membership the host has by then.

Memberships are numbered here, and a row keeps the one its request had read. The history records
every change of a status with the status that was read and the membership that was deleted. A
change is clear if the row still has that status and the membership is the row's own. In clear runs
an application is resolved along `follows` and ends only its own membership.
-/
namespace OlNode.LeaveApplications

open ReadCommitted AgencyHosts

/-- A row of `agency_hosts`, with the number of the join that made it. -/
structure Stay where
  number : Nat
  hostUserId : UserId
  agencyUserId : UserId
  joinedAt : Time
  deriving DecidableEq

/-- A row of `agency_leave_applications`. `filedDuring` is no column: it is the membership that
`applyToLeave` had read. -/
structure LeaveRow where
  id : Nat
  agencyUserId : UserId
  hostUserId : UserId
  status : LeaveStatus := .pending
  autoApproveAt : Time
  resolvedAt : Option Time := none
  resolvedByUserId : Option UserId := none
  lateApproveUntil : Option Time := none
  filedDuring : Stay

/-- A change of a status: the status that was read, the new one, and the deleted membership. -/
structure Resolution where
  id : Nat
  read : LeaveStatus
  status : LeaveStatus
  ended : Option Stay := none
  deriving DecidableEq

structure LeaveDb where
  now : Time
  joins : Nat := 0
  hosts : List Stay := []
  leaves : List LeaveRow := []
  history : List Resolution := []

/-- `pendingLeave` is a key of the partial unique index on hosts of PENDING rows. -/
inductive LeaveLock where
  | clock
  | host (hostUserId : UserId)
  | leave (id : Nat)
  | pendingLeave (hostUserId : UserId)
  deriving DecidableEq

inductive LeaveError where
  | notInAgency | gate | applicationPending | leaveCooldown | uniqueViolation
  | notFound | invalidState | lateAcceptExpired | recordNotFound | alreadyInAgency
  deriving DecidableEq

abbrev LeaveTx := Tx LeaveDb LeaveLock LeaveError
abbrev LeaveProg := Prog LeaveDb LeaveLock LeaveError

def leaveCooldownMs : Time := 30 * dayMs
def autoApproveMs : Time := 7 * dayMs

/-! ### Queries and statements -/

namespace LeaveDb

variable (db : LeaveDb)

def getHost (hostUserId : UserId) : Option Stay := db.hosts.find? (·.hostUserId = hostUserId)

def getById (id : Nat) : Option LeaveRow := db.leaves.find? (·.id = id)

def hasPending (hostUserId : UserId) : Bool :=
  db.leaves.any fun row => row.hostUserId = hostUserId && row.status = .pending

/-- `resolvedAt` of `findLatestResolvedLeaveApplication`. -/
def latestResolved (hostUserId : UserId) : Option Time :=
  ((db.leaves.filter fun row => row.hostUserId = hostUserId && row.status ≠ .cancelled).filterMap
    (·.resolvedAt)).max?

def insertHost (agencyUserId hostUserId : UserId) : LeaveDb :=
  { db with
    joins := db.joins + 1
    hosts := db.hosts ++ [⟨db.joins, hostUserId, agencyUserId, db.now⟩] }

def removeHost (hostUserId : UserId) : LeaveDb :=
  { db with hosts := db.hosts.filter (·.hostUserId ≠ hostUserId) }

/-- The generated id is the number of rows before it. -/
def create (membership : Stay) (autoApproveAt : Time) : LeaveDb :=
  { db with leaves := db.leaves ++
      [{ id := db.leaves.length, agencyUserId := membership.agencyUserId
         hostUserId := membership.hostUserId, autoApproveAt, filedDuring := membership }] }

/-- `lateApproveUntil` and `resolvedByUserId` stay as they are where nothing is given. -/
def updateStatus (id : Nat) (status : LeaveStatus) (resolvedByUserId : Option UserId)
    (lateApproveUntil : Option Time) : LeaveDb :=
  { db with leaves := db.leaves.map fun row =>
      if row.id = id then
        { row with
          status, resolvedAt := some db.now
          resolvedByUserId := resolvedByUserId.or row.resolvedByUserId
          lateApproveUntil := lateApproveUntil.or row.lateApproveUntil }
      else row }

def record (resolution : Resolution) : LeaveDb :=
  { db with history := db.history ++ [resolution] }

/-- DELETE of the row of the host by an application, which notes what it has deleted. -/
def endStay (hostUserId : UserId) (resolution : Resolution) : LeaveDb :=
  (db.removeHost hostUserId).record { resolution with ended := db.getHost hostUserId }

end LeaveDb

/-! ### Applying -/

/-- What `finalizeAgencyHostExit` does to the row of the host, if it is in the agency. -/
def finalizeAgencyHostExit (agencyUserId hostUserId : UserId) (delete : LeaveDb → LeaveDb) :
    LeaveTx Bool := do
  let row ← Tx.select (·.getHost hostUserId)
  if row.any (·.agencyUserId = agencyUserId) then do
    Tx.lockRow (.host hostUserId)
    let present ← Tx.select (·.getHost hostUserId)
    Tx.ensure present.isSome .recordNotFound
    Tx.update (.host hostUserId) delete
    pure true
  else pure false

def fileLeaveApplication (membership : Stay) (autoApproveAt : Time) : LeaveTx Unit := do
  Tx.lockRow (.pendingLeave membership.hostUserId)
  let pending ← Tx.select (·.hasPending membership.hostUserId)
  Tx.ensure (!pending) .uniqueViolation
  Tx.update (.pendingLeave membership.hostUserId) (·.create membership autoApproveAt)

def leaveNowOrFile (faceVerified : Bool) (membership : Stay) (now : Time) : LeaveProg Unit :=
  if now - membership.joinedAt < immediateLeaveMs ∨ faceVerified = false then do
    let _ ← Prog.transaction (finalizeAgencyHostExit membership.agencyUserId membership.hostUserId
      (·.removeHost membership.hostUserId))
  else Prog.transaction (fileLeaveApplication membership (now + autoApproveMs))

/-- `gates`: the agency is not paused. -/
def applyToLeaveAs (gates faceVerified : Bool) : Option Stay → LeaveProg Unit
  | none => Prog.fail .notInAgency
  | some membership => do
    Prog.ensure gates .gate
    let pending ← Prog.select (·.hasPending membership.hostUserId)
    Prog.ensure (!pending) .applicationPending
    let lastResolved ← Prog.select (·.latestResolved membership.hostUserId)
    let now ← Prog.select (·.now)
    Prog.ensure (lastResolved.all fun resolvedAt => leaveCooldownMs ≤ now - resolvedAt)
      .leaveCooldown
    leaveNowOrFile faceVerified membership now

def applyToLeave (hostUserId : UserId) (gates faceVerified : Bool) : LeaveProg Unit := do
  let membership ← Prog.select (·.getHost hostUserId)
  applyToLeaveAs gates faceVerified membership

/-! ### Resolving -/

/-- `cancelPending`: an update with the status in its condition. -/
def cancelPending (id : Nat) (hostUserId : UserId) : LeaveTx Unit := do
  Tx.lockRow (.leave id)
  let row ← Tx.select (·.getById id)
  Tx.ensure (row.any fun row => row.hostUserId = hostUserId && row.status = .pending) .invalidState
  Tx.update (.leave id) fun db =>
    (db.updateStatus id .cancelled none none).record { id, read := .pending, status := .cancelled }

def cancelAs (hostUserId : UserId) : Option LeaveRow → LeaveProg Unit
  | none => Prog.fail .notFound
  | some row => do
    Prog.ensure (row.hostUserId = hostUserId) .notFound
    Prog.ensure (row.status = .pending) .invalidState
    Prog.transaction (cancelPending row.id hostUserId)

def cancelLeaveApplication (hostUserId : UserId) (applicationId : Nat) : LeaveProg Unit := do
  let row ← Prog.select (·.getById applicationId)
  cancelAs hostUserId row

/-- The unconditional update together with the exit. -/
def resolveAs (row : LeaveRow) (status : LeaveStatus) (resolvedByUserId : Option UserId) :
    LeaveTx Unit := do
  let resolution : Resolution := { id := row.id, read := row.status, status }
  Tx.update (.leave row.id) (·.updateStatus row.id status resolvedByUserId none)
  let exited ← finalizeAgencyHostExit row.agencyUserId row.hostUserId
    (·.endStay row.hostUserId resolution)
  Tx.when (exited = false) (Tx.update (.leave row.id) (·.record resolution))

def acceptAs (agentUserId : UserId) : Option LeaveRow → LeaveTx Unit
  | none => Tx.fail .notFound
  | some row => do
    Tx.ensure (row.agencyUserId = agentUserId) .notFound
    Tx.ensure (row.status = .pending) .invalidState
    resolveAs row .approved (some agentUserId)

def acceptLeaveApplication (agentUserId : UserId) (applicationId : Nat) : LeaveProg Unit :=
  Prog.transaction do
    let row ← Tx.select (·.getById applicationId)
    acceptAs agentUserId row

def rejectAs (agentUserId : UserId) (lateUntil : Time) : Option LeaveRow → LeaveTx Unit
  | none => Tx.fail .notFound
  | some row => do
    Tx.ensure (row.agencyUserId = agentUserId) .notFound
    Tx.ensure (row.status = .pending) .invalidState
    Tx.update (.leave row.id) fun db =>
      (db.updateStatus row.id .rejected (some agentUserId) (some lateUntil)).record
        { id := row.id, read := row.status, status := .rejected }

def rejectLeaveApplication (agentUserId : UserId) (applicationId : Nat) : LeaveProg Unit := do
  let now ← Prog.select (·.now)
  Prog.transaction do
    let row ← Tx.select (·.getById applicationId)
    rejectAs agentUserId (now + lateApproveMs) row

def lateAcceptAs (agentUserId : UserId) : Option LeaveRow → LeaveTx Unit
  | none => Tx.fail .notFound
  | some row => do
    Tx.ensure (row.agencyUserId = agentUserId) .notFound
    Tx.ensure (row.status = .rejected) .invalidState
    let now ← Tx.select (·.now)
    Tx.ensure (row.lateApproveUntil.any (now ≤ ·)) .lateAcceptExpired
    resolveAs row .lateApproved (some agentUserId)

def lateAcceptLeaveApplication (agentUserId : UserId) (applicationId : Nat) : LeaveProg Unit :=
  Prog.transaction do
    let row ← Tx.select (·.getById applicationId)
    lateAcceptAs agentUserId row

def autoApproveAs : Option LeaveRow → LeaveTx Unit
  | none => pure ()
  | some row =>
    if row.status ≠ .pending then pure () else resolveAs row .autoApproved none

def processAutoApproveJob (applicationId : Nat) : LeaveProg Unit :=
  Prog.transaction do
    let row ← Tx.select (·.getById applicationId)
    autoApproveAs row

/-! ### Memberships come and go -/

/-- A join, by whichever way. -/
def joinAsHost (agencyUserId hostUserId : UserId) : LeaveProg Unit :=
  Prog.transaction do
    Tx.lockRow (.host hostUserId)
    let present ← Tx.select (·.getHost hostUserId)
    Tx.ensure present.isNone .alreadyInAgency
    Tx.update (.host hostUserId) (·.insertHost agencyUserId hostUserId)

inductive LeaveRequest where
  | joinAsHost (agencyUserId hostUserId : UserId)
  /-- An exit by other means: a removal, a forced exit, a deleted account. -/
  | removeHost (hostUserId : UserId)
  | applyToLeave (hostUserId : UserId) (gates faceVerified : Bool)
  | cancelLeaveApplication (hostUserId : UserId) (applicationId : Nat)
  | acceptLeaveApplication (agentUserId : UserId) (applicationId : Nat)
  | rejectLeaveApplication (agentUserId : UserId) (applicationId : Nat)
  | lateAcceptLeaveApplication (agentUserId : UserId) (applicationId : Nat)
  | processAutoApproveJob (applicationId : Nat)
  | tick (elapsed : Time)

def leaveHandler : LeaveRequest → LeaveProg Unit
  | .joinAsHost agencyUserId hostUserId => joinAsHost agencyUserId hostUserId
  | .removeHost hostUserId => Prog.autocommit (.host hostUserId) (·.removeHost hostUserId)
  | .applyToLeave hostUserId gates faceVerified => applyToLeave hostUserId gates faceVerified
  | .cancelLeaveApplication hostUserId applicationId =>
    cancelLeaveApplication hostUserId applicationId
  | .acceptLeaveApplication agentUserId applicationId =>
    acceptLeaveApplication agentUserId applicationId
  | .rejectLeaveApplication agentUserId applicationId =>
    rejectLeaveApplication agentUserId applicationId
  | .lateAcceptLeaveApplication agentUserId applicationId =>
    lateAcceptLeaveApplication agentUserId applicationId
  | .processAutoApproveJob applicationId => processAutoApproveJob applicationId
  | .tick elapsed => Prog.autocommit .clock fun db => { db with now := db.now + elapsed }

/-! ### Clear runs -/

def follows : LeaveStatus → LeaveStatus → Bool
  | .pending, status => status = .approved || status = .autoApproved || status = .rejected ||
      status = .cancelled
  | .rejected, status => status = .lateApproved
  | _, _ => false

/-- What an application has been set to, in order. -/
def resolutions (id : Nat) (history : List Resolution) : List LeaveStatus :=
  (history.filter (·.id = id)).map (·.status)

/-- The row has the status that was read, and the host whose membership ends is still in the one
during which the row was filed. -/
def leaveJournal : Journal LeaveDb Resolution where
  entries := LeaveDb.history
  clear db resolution := (db.getById resolution.id).any fun row =>
    row.status = resolution.read &&
      resolution.ended.all fun stay => db.getHost stay.hostUserId = some row.filedDuring

structure LeaveLawful (db : LeaveDb) : Prop where
  ids : db.leaves.map (·.id) = List.range db.leaves.length
  onePending : ∀ hostUserId,
    db.leaves.countP (fun row => row.hostUserId = hostUserId && row.status = .pending) ≤ 1
  paths : ∀ row ∈ db.leaves, List.IsChain (follows · ·) (.pending :: resolutions row.id db.history)
    ∧ (LeaveStatus.pending :: resolutions row.id db.history).getLast? = some row.status
  known : ∀ resolution ∈ db.history, ∃ row ∈ db.leaves, row.id = resolution.id ∧
    ∀ stay, resolution.ended = some stay → row.filedDuring = stay
  cancelled : ∀ resolution ∈ db.history, resolution.status = .cancelled → resolution.ended = none

/-! ### What the writes do -/

section Writes

variable {db db' : LeaveDb} {id : Nat}

private theorem resolutions_append (history : List Resolution) (resolution : Resolution) :
    resolutions id (history ++ [resolution]) = resolutions id history ++
      if resolution.id = id then [resolution.status] else [] := by
  simp only [resolutions, List.filter_append, List.map_append, List.filter_cons, List.filter_nil,
    decide_eq_true_eq]
  split <;> rfl

private theorem LeaveLawful.unique (lawful : LeaveLawful db) :
    (db.leaves.map (·.id)).Nodup := lawful.ids ▸ List.nodup_range

private theorem getById_mem {row : LeaveRow} (found : db.getById id = some row) :
    row ∈ db.leaves ∧ row.id = id :=
  ⟨List.mem_of_find?_eq_some found, by simpa using List.find?_some found⟩

private theorem follows_pending (status : LeaveStatus) : follows status .pending = false := by
  cases status <;> rfl

private structure Updated (db db' : LeaveDb) (id : Nat) (status : LeaveStatus)
    (update : LeaveRow → LeaveRow) : Prop where
  leaves : db'.leaves = db.leaves.map update
  sameId : ∀ row, (update row).id = row.id
  host : ∀ row, (update row).hostUserId = row.hostUserId
  filed : ∀ row, (update row).filedDuring = row.filedDuring
  status : ∀ row, (update row).status = if row.id = id then status else row.status

private theorem Updated.pending_le {status : LeaveStatus} {update : LeaveRow → LeaveRow}
    (updated : Updated db db' id status update) (left : status ≠ .pending) (hostUserId : UserId) :
    db'.leaves.countP (fun row => row.hostUserId = hostUserId && row.status = .pending) ≤
      db.leaves.countP fun row => row.hostUserId = hostUserId && row.status = .pending := by
  rw [updated.leaves, List.countP_map]
  refine List.countP_mono_left fun row _ now => ?_
  simp only [Function.comp_apply, updated.host, updated.status, Bool.and_eq_true,
    decide_eq_true_eq] at now ⊢
  split at now
  · exact absurd now.2 left
  · exact now

private theorem resolve_lawful (lawful : LeaveLawful db) {resolution : Resolution}
    {update : LeaveRow → LeaveRow}
    (updated : Updated db db' resolution.id resolution.status update)
    (history : db'.history = db.history ++ [resolution])
    (clear : leaveJournal.clear db resolution = true)
    (stored : ∀ stay, resolution.ended = some stay → db.getHost stay.hostUserId = some stay)
    (allowed : follows resolution.read resolution.status = true)
    (cancelled : resolution.status = .cancelled → resolution.ended = none) : LeaveLawful db' := by
  have left : resolution.status ≠ .pending := by
    intro pending
    rw [pending, follows_pending] at allowed
    cases allowed
  obtain ⟨own, found, fits⟩ := (Option.any_eq_true _ _).mp clear
  simp only [Bool.and_eq_true, decide_eq_true_eq, Option.all_eq_true] at fits
  obtain ⟨ownMember, ownId⟩ := getById_mem found
  refine ⟨?_, fun hostUserId => ?_, fun row member => ?_, fun entry inside => ?_,
    fun entry inside => ?_⟩
  · rw [updated.leaves, List.map_map, List.length_map, ← lawful.ids]
    exact List.map_congr_left fun row _ => updated.sameId row
  · exact (updated.pending_le left hostUserId).trans (lawful.onePending hostUserId)
  · rw [updated.leaves] at member
    obtain ⟨old, inside, rfl⟩ := List.mem_map.mp member
    obtain ⟨chain, last⟩ := lawful.paths old inside
    rw [history, updated.sameId, resolutions_append, updated.status]
    by_cases same : old.id = resolution.id
    · have isOwn : old = own :=
        List.inj_on_of_nodup_map lawful.unique inside ownMember (same.trans ownId.symm)
      rw [if_pos same.symm, if_pos same, ← List.cons_append]
      refine ⟨List.isChain_append.mpr ⟨chain, List.isChain_singleton _, ?_⟩, List.getLast?_concat⟩
      intro before isLast after isFirst
      obtain rfl : resolution.status = after := by simpa using isFirst
      have status : old.status = before := Option.some.inj (last.symm.trans isLast)
      rw [← status, isOwn, fits.1]
      exact allowed
    · rw [if_neg (Ne.symm same), if_neg same, List.append_nil]
      exact ⟨chain, last⟩
  · have stays : ∀ row ∈ db.leaves, update row ∈ db'.leaves := by
      intro row member
      rw [updated.leaves]
      exact List.mem_map_of_mem member
    rw [history] at inside
    rcases List.mem_append.mp inside with old | isNew
    · obtain ⟨row, member, rowId, filed⟩ := lawful.known entry old
      exact ⟨update row, stays row member, (updated.sameId row).trans rowId, fun stay ended =>
        (updated.filed row).trans (filed stay ended)⟩
    · rw [List.mem_singleton.mp isNew]
      refine ⟨update own, stays own ownMember, (updated.sameId own).trans ownId, ?_⟩
      intro stay ended
      rw [updated.filed]
      exact Option.some.inj ((fits.2 stay ended).symm.trans (stored stay ended))
  · rw [history] at inside
    rcases List.mem_append.mp inside with old | isNew
    · exact lawful.cancelled entry old
    · rw [List.mem_singleton.mp isNew]
      exact cancelled

private theorem updateStatus_updated (db : LeaveDb) (id : Nat) (status : LeaveStatus)
    (resolvedByUserId : Option UserId) (lateApproveUntil : Option Time) :
    ∃ update, Updated db (db.updateStatus id status resolvedByUserId lateApproveUntil) id status
      update := by
  refine ⟨_, rfl, fun row => ?_, fun row => ?_, fun row => ?_, fun row => ?_⟩
  all_goals split <;> rfl

private theorem create_lawful (lawful : LeaveLawful db) {membership : Stay} (autoApproveAt : Time)
    (absent : db.hasPending membership.hostUserId = false) :
    LeaveLawful (db.create membership autoApproveAt) := by
  have below : ∀ resolution ∈ db.history, resolution.id ≠ db.leaves.length := by
    intro resolution inside same
    obtain ⟨row, member, own, _⟩ := lawful.known resolution inside
    have listed := List.mem_map_of_mem (f := (·.id)) member
    rw [lawful.ids, own, same, List.mem_range] at listed
    exact Nat.lt_irrefl _ listed
  refine ⟨?_, fun hostUserId => ?_, fun row member => ?_, fun entry inside => ?_, lawful.cancelled⟩
  · simp only [LeaveDb.create, List.map_append, lawful.ids, List.map_cons, List.map_nil,
      List.length_append, List.length_singleton, List.range_succ]
  · have before := lawful.onePending hostUserId
    rw [LeaveDb.create, List.countP_append, List.countP_singleton]
    split
    next own =>
      obtain rfl : membership.hostUserId = hostUserId := by simpa using own
      have none : db.leaves.countP (fun row =>
          row.hostUserId = membership.hostUserId && row.status = .pending) = 0 := by
        simpa [LeaveDb.hasPending, List.countP_eq_zero] using absent
      omega
    next => exact before
  · rcases List.mem_append.mp member with old | isNew
    · exact lawful.paths row old
    · have empty : resolutions db.leaves.length db.history = [] := by
        simpa [resolutions] using below
      rw [List.mem_singleton.mp isNew]
      simp [LeaveDb.create, empty]
  · obtain ⟨row, member, rest⟩ := lawful.known entry inside
    exact ⟨row, List.mem_append_left _ member, rest⟩

end Writes

/-! ### Runs -/

/-- Only an INSERT makes an application of a host pending, and it holds the key of the host. -/
def leaveAgreement : Agreement LeaveRequest LeaveDb LeaveLock where
  inv := LeaveLawful
  grows _ _ := True
  same
    | .pendingLeave hostUserId, s, t =>
      s.hasPending hostUserId = false → t.hasPending hostUserId = false
    | _, _, _ => True
  step _ _ _ := True
  allows _ := leaveJournal.Allowed
  grows_refl _ := trivial
  grows_trans _ _ _ _ _ := trivial
  same_refl lock _ := by cases lock <;> simp
  same_trans lock _ _ _ first second := by
    cases lock
    case pendingLeave => exact fun none => second (first none)
    all_goals trivial

section Runs

variable {request : LeaveRequest} {s t : LeaveDb} {held : Set LeaveLock} {w : LeaveDb → LeaveDb}

private theorem keeps_of_same (lawful : LeaveLawful t) (leaves : (w t).leaves = t.leaves)
    (history : (w t).history = t.history) : leaveAgreement.Keeps request held t (w t) := by
  refine ⟨?_, trivial, fun lock _ => ?_, trivial⟩
  · refine ⟨?_, ?_, ?_, ?_, ?_⟩
    · rw [leaves]
      exact lawful.ids
    · rw [leaves]
      exact lawful.onePending
    · rw [leaves, history]
      exact lawful.paths
    · rw [leaves, history]
      exact lawful.known
    · rw [history]
      exact lawful.cancelled
  · cases lock with
    | pendingLeave hostUserId =>
      intro none
      simpa only [LeaveDb.hasPending, leaves] using none
    | _ => trivial

private theorem keeps_of_resolved (resolution : Resolution) (lawful : LeaveLawful t)
    {by' : Option UserId} {until' : Option Time}
    (leaves : (w t).leaves = (t.updateStatus resolution.id resolution.status by' until').leaves)
    (history : (w t).history = t.history ++ [resolution])
    (allowed : leaveJournal.Allowed (κ := LeaveLock) (.commit w) t)
    (stored : ∀ stay, resolution.ended = some stay → t.getHost stay.hostUserId = some stay)
    (step : follows resolution.read resolution.status = true)
    (cancelled : resolution.status = .cancelled → resolution.ended = none) :
    leaveAgreement.Keeps request held t (w t) := by
  obtain ⟨update, updated⟩ :=
    updateStatus_updated t resolution.id resolution.status by' until'
  have changed : Updated t (w t) resolution.id resolution.status update :=
    ⟨leaves.trans updated.leaves, updated.sameId, updated.host, updated.filed, updated.status⟩
  have clear := allowed resolution history
  refine ⟨resolve_lawful lawful changed history clear stored step cancelled, trivial, fun lock _ => ?_,
    trivial⟩
  cases lock with
  | pendingLeave hostUserId =>
    intro none
    have left : resolution.status ≠ .pending := by
      intro pending
      rw [pending, follows_pending] at step
      cases step
    have atMost := changed.pending_le left hostUserId
    have zero : t.leaves.countP (fun row =>
        row.hostUserId = hostUserId && row.status = .pending) = 0 := by
      simpa [LeaveDb.hasPending, List.countP_eq_zero] using none
    rw [zero, Nat.le_zero, List.countP_eq_zero] at atMost
    simpa [LeaveDb.hasPending] using atMost
  | _ => trivial

private abbrev Leaves (request : LeaveRequest) {α : Type} (p : LeaveProg α) (s : LeaveDb) : Prop :=
  p.Abides leaveAgreement request s

/-- A transaction body whose writes may be committed where the run allows it. -/
private abbrev Commits (request : LeaveRequest) {α : Type} (body : LeaveTx α)
    (held : Set LeaveLock) (w : LeaveDb → LeaveDb) (s : LeaveDb) : Prop :=
  body.Relies leaveAgreement request (fun _ held w s => ∀ t, leaveAgreement.Rely held s t →
    leaveJournal.Allowed (κ := LeaveLock) (.commit w) t →
    leaveAgreement.Keeps request held t (w t)) (fun _ _ => True) held w s

private theorem transaction_leaves {α : Type} {body : LeaveTx α}
    (commits : Commits request body ∅ id s) : Leaves request (Prog.transaction body) s :=
  Prog.relies_transaction (commits.imp
    (fun _ _ _ _ kept t rely allowed => ⟨kept t rely allowed, trivial⟩) fun _ _ _ => trivial)

private theorem finalizeAgencyHostExit_relies {agencyUserId hostUserId : UserId}
    {delete : LeaveDb → LeaveDb}
    {ok : Bool → Set LeaveLock → (LeaveDb → LeaveDb) → LeaveDb → Prop}
    (exited : ∀ held t, ok true held (delete ∘ w) t) (other : ∀ t, ok false held w t) :
    (finalizeAgencyHostExit agencyUserId hostUserId delete).Relies leaveAgreement request ok
      (fun _ _ => True) held w s := by
  unfold finalizeAgencyHostExit
  refine Tx.relies_select fun t _ => ?_
  split
  · exact Tx.relies_lockRow fun u _ _ => Tx.relies_select fun v _ =>
      Tx.relies_check fun _ =>
        Tx.relies_update fun x _ _ => exited _ x
  · exact other t

private theorem resolveAs_commits {row : LeaveRow} {status : LeaveStatus}
    {resolvedByUserId : Option UserId} (step : follows row.status status = true)
    (notCancelled : status ≠ .cancelled) :
    Commits request (resolveAs row status resolvedByUserId) held id s := by
  refine Tx.relies_update fun t _ _ => Tx.Relies.bind ?_
  refine finalizeAgencyHostExit_relies (fun held u => ?_) fun u => ?_
  · intro v rely allowed
    let ended := (v.updateStatus row.id status resolvedByUserId none).getHost row.hostUserId
    refine keeps_of_resolved ⟨row.id, row.status, status, ended⟩ rely.inv rfl rfl allowed ?_ step
      fun same => absurd same notCancelled
    intro stay found
    have own : stay.hostUserId = row.hostUserId := by
      simpa using List.find?_some (found : ended = some stay)
    rw [own]
    exact found
  · intro v _ _ x rely allowed
    exact keeps_of_resolved ⟨row.id, row.status, status, none⟩ rely.inv rfl rfl allowed nofun step
      fun same => absurd same notCancelled

/-- An application that is looked up in a transaction and handed to the rest of it. -/
private theorem lookup_leaves {id : Nat} {rest : Option LeaveRow → LeaveTx Unit}
    (commits : ∀ t row, Commits request (rest row) ∅ (fun db => db) t) :
    Leaves request (Prog.transaction do
      let row ← Tx.select (·.getById id)
      rest row) s :=
  transaction_leaves (Tx.relies_select fun t _ => commits t _)

private theorem acceptAs_commits (agentUserId : UserId) (row : Option LeaveRow) :
    Commits request (acceptAs agentUserId row) ∅ id s := by
  cases row with
  | none => trivial
  | some row =>
    refine Tx.relies_check fun _ =>
      Tx.relies_check fun pending => ?_
    rw [decide_eq_true_eq] at pending
    exact resolveAs_commits (by rw [pending]; rfl) nofun

private theorem rejectAs_commits (agentUserId : UserId) (lateUntil : Time)
    (row : Option LeaveRow) : Commits request (rejectAs agentUserId lateUntil row) ∅ id s := by
  cases row with
  | none => trivial
  | some row =>
    refine Tx.relies_check fun _ =>
      Tx.relies_check fun pending => ?_
    rw [decide_eq_true_eq] at pending
    intro t _ _ u rely allowed
    exact keeps_of_resolved ⟨row.id, row.status, .rejected, none⟩ rely.inv rfl rfl allowed nofun
      (by rw [pending]; rfl) nofun

private theorem lateAcceptAs_commits (agentUserId : UserId) (row : Option LeaveRow) :
    Commits request (lateAcceptAs agentUserId row) ∅ id s := by
  cases row with
  | none => trivial
  | some row =>
    refine Tx.relies_check fun _ =>
      Tx.relies_check fun rejected => Tx.relies_select fun _ _ =>
        Tx.relies_check fun _ => ?_
    rw [decide_eq_true_eq] at rejected
    exact resolveAs_commits (by rw [rejected]; rfl) nofun

private theorem autoApproveAs_commits (row : Option LeaveRow) :
    Commits request (autoApproveAs row) ∅ id s := by
  cases row with
  | none => exact fun t rely _ => keeps_of_same rely.inv rfl rfl
  | some row =>
    by_cases pending : row.status = .pending
    · rw [autoApproveAs, if_neg (not_not.mpr pending)]
      exact resolveAs_commits (by rw [pending]; rfl) nofun
    · rw [autoApproveAs, if_pos pending]
      exact fun t rely _ => keeps_of_same rely.inv rfl rfl

private theorem cancelPending_commits (id : Nat) (hostUserId : UserId) :
    Commits request (cancelPending id hostUserId) ∅ (fun db => db) s :=
  Tx.relies_lockRow fun _ _ _ => Tx.relies_select fun _ _ =>
    Tx.relies_check fun _ _ _ _ _ rely allowed =>
      keeps_of_resolved ⟨id, .pending, .cancelled, none⟩ rely.inv rfl rfl allowed nofun rfl
        fun _ => rfl

private theorem cancelLeaveApplication_leaves (hostUserId : UserId) (applicationId : Nat) :
    Leaves request (cancelLeaveApplication hostUserId applicationId) s := by
  refine Prog.relies_select fun t _ => ?_
  cases t.getById applicationId with
  | none => exact Prog.relies_fail trivial
  | some row =>
    exact Prog.relies_check fun _ =>
      Prog.relies_check fun _ =>
        transaction_leaves (cancelPending_commits row.id hostUserId)

private theorem fileLeaveApplication_commits (membership : Stay) (autoApproveAt : Time) :
    Commits request (fileLeaveApplication membership autoApproveAt) ∅ id s := by
  refine Tx.relies_lockRow fun t _ _ => Tx.relies_select fun u _ =>
    Tx.relies_check fun free v first _ x second _ => ?_
  have absent : u.hasPending membership.hostUserId = false := by simpa using free
  have protected₁ := first.same (.pendingLeave membership.hostUserId) (Set.mem_insert _ _)
  have protected₂ := second.same (.pendingLeave membership.hostUserId) (Set.mem_insert _ _)
  have still := protected₂ (protected₁ absent)
  refine ⟨create_lawful second.inv autoApproveAt still, trivial, fun lock apart => ?_, trivial⟩
  cases lock with
  | pendingLeave hostUserId =>
    have other : membership.hostUserId ≠ hostUserId := by
      rintro rfl
      exact apart (Set.mem_insert _ _)
    intro none
    simpa [LeaveDb.hasPending, LeaveDb.create, other] using none
  | _ => trivial

private theorem applyToLeave_leaves (hostUserId : UserId) (gates faceVerified : Bool) :
    Leaves request (applyToLeave hostUserId gates faceVerified) s := by
  refine Prog.relies_select fun t _ => ?_
  cases t.getHost hostUserId with
  | none => exact Prog.relies_fail trivial
  | some membership =>
    refine Prog.relies_check fun _ => Prog.relies_select fun u _ =>
      Prog.relies_check fun _ => Prog.relies_select fun v _ =>
        Prog.relies_select fun x _ => Prog.relies_check fun _ => ?_
    unfold leaveNowOrFile
    split
    · have left : Leaves request (Prog.transaction (finalizeAgencyHostExit membership.agencyUserId
          membership.hostUserId (·.removeHost membership.hostUserId))) x :=
        transaction_leaves (finalizeAgencyHostExit_relies
          (fun _ _ _ rely _ => keeps_of_same rely.inv rfl rfl)
          fun _ _ rely _ => keeps_of_same rely.inv rfl rfl)
      exact left.bind (fun _ _ _ => Prog.relies_pure trivial) fun _ _ _ => trivial
    · exact transaction_leaves (fileLeaveApplication_commits membership _)

private theorem leaveHandler_leaves (request : LeaveRequest) (s : LeaveDb) :
    Leaves request (leaveHandler request) s := by
  cases request with
  | joinAsHost agencyUserId hostUserId =>
    exact transaction_leaves (Tx.relies_lockRow fun _ _ _ => Tx.relies_select fun _ _ =>
      Tx.relies_check fun _ _ _ _ _ rely _ =>
        keeps_of_same rely.inv rfl rfl)
  | removeHost hostUserId =>
    exact transaction_leaves fun _ _ _ _ rely _ => keeps_of_same rely.inv rfl rfl
  | applyToLeave hostUserId gates faceVerified =>
    exact applyToLeave_leaves hostUserId gates faceVerified
  | cancelLeaveApplication hostUserId applicationId =>
    exact cancelLeaveApplication_leaves hostUserId applicationId
  | acceptLeaveApplication agentUserId applicationId =>
    exact lookup_leaves fun _ row => acceptAs_commits agentUserId row
  | rejectLeaveApplication agentUserId applicationId =>
    exact Prog.relies_select fun _ _ =>
      lookup_leaves fun _ row => rejectAs_commits agentUserId _ row
  | lateAcceptLeaveApplication agentUserId applicationId =>
    exact lookup_leaves fun _ row => lateAcceptAs_commits agentUserId row
  | processAutoApproveJob applicationId =>
    exact lookup_leaves fun _ row => autoApproveAs_commits row
  | tick elapsed => exact transaction_leaves fun _ _ _ _ rely _ => keeps_of_same rely.inv rfl rfl

end Runs

private theorem resolutions_cancelled {path : List LeaveStatus}
    (chain : List.IsChain (follows · ·) (.pending :: path)) (member : .cancelled ∈ path) :
    path = [.cancelled] := by
  obtain _ | ⟨first, rest⟩ := path
  · cases member
  obtain ⟨start, tail⟩ := List.isChain_cons_cons.mp chain
  obtain _ | ⟨second, more⟩ := rest
  · rw [List.mem_singleton.mp member]
  obtain ⟨next, ends⟩ := List.isChain_cons_cons.mp tail
  -- only a rejection is followed by anything, and only by its late approval
  have shape : first = .rejected ∧ second = .lateApproved := by
    cases first <;> cases second <;> simp_all [follows]
  obtain ⟨rfl, rfl⟩ := shape
  have nothingMore : more = [] := by
    obtain _ | ⟨third, _⟩ := more
    · rfl
    · have last := (List.isChain_cons_cons.mp ends).1
      cases third <;> simp [follows] at last
  simp [nothingMore] at member

/-- In a clear run a host has one pending application at most; an application is approved,
rejected or cancelled once, and then only late approved after a rejection; one that was cancelled
has ended no membership and never will; and one that ends a membership ends the one during which it
was filed. -/
theorem leaveApplication_once {now : Time} {joins : Nat} {hosts : List Stay}
    {c : Config LeaveRequest LeaveDb LeaveLock LeaveError}
    (run : Reaches leaveHandler leaveJournal.Orderly (Config.idle { now, joins, hosts }) c) :
    (∀ hostUserId, c.db.leaves.countP
        (fun row => row.hostUserId = hostUserId && row.status = .pending) ≤ 1) ∧
      (∀ row ∈ c.db.leaves,
        List.IsChain (follows · ·) (.pending :: resolutions row.id c.db.history) ∧
          (LeaveStatus.pending :: resolutions row.id c.db.history).getLast? = some row.status) ∧
      (∀ cancel ∈ c.db.history, cancel.status = .cancelled →
        ∀ resolution ∈ c.db.history, resolution.id = cancel.id → resolution.ended = none) ∧
      ∀ resolution ∈ c.db.history, ∀ stay, resolution.ended = some stay →
        ∃ row ∈ c.db.leaves, row.id = resolution.id ∧ row.filedDuring = stay := by
  have base : LeaveLawful { now, joins, hosts } :=
    ⟨rfl, by simp, by simp, by simp, by simp⟩
  have observed := run.observed (fun request s _ => leaveHandler_leaves request s)
    (fun _ _ orderly => orderly) (base : leaveAgreement.inv _)
  have lawful : LeaveLawful c.db := observed.inv
  refine ⟨lawful.onePending, lawful.paths, fun cancel inside isCancel resolution member same => ?_,
    fun resolution inside stay ended => ?_⟩
  · obtain ⟨row, listed, own, _⟩ := lawful.known cancel inside
    have mem : ∀ entry ∈ c.db.history, entry.id = row.id →
        entry.status ∈ resolutions row.id c.db.history := by
      intro entry recorded ofRow
      exact List.mem_map_of_mem (List.mem_filter.mpr ⟨recorded, by simpa using ofRow⟩)
    have only := resolutions_cancelled (lawful.paths row listed).1
      (isCancel ▸ mem cancel inside own.symm)
    have status := mem resolution member (same.trans own.symm)
    rw [only, List.mem_singleton] at status
    exact lawful.cancelled resolution member status
  · obtain ⟨row, listed, own, filed⟩ := lawful.known resolution inside
    exact ⟨row, listed, own, filed stay ended⟩

/-! ### Runs of a few calls -/

/-- Host 1 has been in agency 7 for two days. -/
def memberForTwoDays : LeaveDb := { now := 2 * dayMs, joins := 1, hosts := [⟨0, 1, 7, 0⟩] }

/-- An application is cancelled; the next one is rejected and accepted a day later. -/
theorem leaveApplication_once_late :
    ∃ c : Config LeaveRequest LeaveDb LeaveLock LeaveError,
      (c.db.leaves.map (·.status) = [.cancelled, .lateApproved] ∧ c.db.getHost 1 = none) ∧
      (∀ hostUserId, c.db.leaves.countP
        (fun row => row.hostUserId = hostUserId && row.status = .pending) ≤ 1) ∧
      (∀ row ∈ c.db.leaves,
        List.IsChain (follows · ·) (.pending :: resolutions row.id c.db.history) ∧
          (LeaveStatus.pending :: resolutions row.id c.db.history).getLast? = some row.status) ∧
      (∀ cancel ∈ c.db.history, cancel.status = .cancelled →
        ∀ resolution ∈ c.db.history, resolution.id = cancel.id → resolution.ended = none) ∧
      ∀ resolution ∈ c.db.history, ∀ stay, resolution.ended = some stay →
        ∃ row ∈ c.db.leaves, row.id = resolution.id ∧ row.filedDuring = stay := by
  obtain ⟨c, run, now⟩ : ∃ c, Reaches leaveHandler leaveJournal.Orderly
      (Config.idle memberForTwoDays) c ∧ c.db.leaves.map (·.status) = [.cancelled, .lateApproved] ∧
      c.db.getHost 1 = none :=
    exists_reaches_checked leaveJournal.orderly_of_checks [serve (.applyToLeave 1 true true) 0 8,
      serve (.cancelLeaveApplication 1 0) 1 5, serve (.applyToLeave 1 true true) 2 8,
      serve (.rejectLeaveApplication 7 1) 3 4, serve (.tick dayMs) 4 2,
      serve (.lateAcceptLeaveApplication 7 1) 5 8] (by decide +kernel)
  exact ⟨c, now, leaveApplication_once run⟩

/-- An acceptance that has read PENDING before a cancel commits ends the membership after it. And an
application that is left over from an earlier membership ends the next one in the agency. -/
theorem leaveApplication_not_once :
    (∃ c, Reaches leaveHandler (fun _ _ => True) (Config.idle memberForTwoDays) c ∧
      c.db.history = [⟨0, .pending, .cancelled, none⟩,
        ⟨0, .pending, .approved, some ⟨0, 1, 7, 0⟩⟩]) ∧
    ∃ c, Reaches leaveHandler (fun _ _ => True) (Config.idle memberForTwoDays) c ∧
      c.db.history = [⟨0, .pending, .autoApproved, some ⟨1, 1, 7, 3 * dayMs⟩⟩] ∧
      c.db.leaves.map (·.filedDuring) = [⟨0, 1, 7, 0⟩] := by
  constructor
  · exact exists_reaches [serve (.applyToLeave 1 true true) 0 8,
      serve (.acceptLeaveApplication 7 0) 1 1,
      serve (.cancelLeaveApplication 1 0) 2 5, List.replicate 6 (.advance 1)]
      (by decide +kernel)
  · exact exists_reaches [serve (.applyToLeave 1 true true) 0 8,
      serve (.removeHost 1) 1 2, serve (.tick dayMs) 2 2,
      serve (.joinAsHost 7 1) 3 4, serve (.tick (6 * dayMs)) 4 2,
      serve (.processAutoApproveJob 0) 5 7]
      (by decide +kernel)

end OlNode.LeaveApplications
