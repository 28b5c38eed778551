import OlNode.ReadCommitted.Rely
import OlNode.Schema

/-!
# Hosts of an agency

A membership is a row of `agency_hosts`, whose primary key is the host; the host's `currentAgencyId`
and the agency's host count repeat it, and a history row is left when it ends. All of them are
written in one transaction, but a transaction reads the row without locking it and deletes it by the
host alone; and an agency that is deleted takes with it the rows of hosts it did not list.

What the gates before a transaction say of pauses, faces, agents and open applications comes with
the request.
-/
namespace OlNode.AgencyHosts

open ReadCommitted

inductive AgencyHostHistoryReason where
  | leaveApproved | leaveAutoApproved | leaveLateApproved
  | removedInactive | removedSuspended
  | csForceExit | adminForceExit | agentDeleted | hostDeleted | agencyBanned
  deriving DecidableEq

/-- A row of `agency_hosts`. -/
structure Membership where
  hostUserId : UserId
  agencyUserId : UserId
  joinedAt : Time
  deriving DecidableEq

structure HistoryRow where
  membership : Membership
  reason : AgencyHostHistoryReason
  exitedAt : Time

structure Agency where
  userId : UserId
  totalHostsCount : Int
  paused : Bool := false
  deriving DecidableEq

inductive ApplicationStatus where
  | pending | accepted | rejected
  deriving DecidableEq

structure Application where
  id : Nat
  agencyUserId : UserId
  hostUserId : UserId
  status : ApplicationStatus

inductive LeaveStatus where
  | pending | approved | autoApproved | rejected | lateApproved | cancelled
  deriving DecidableEq

structure LeaveApplication where
  id : Nat
  agencyUserId : UserId
  hostUserId : UserId
  status : LeaveStatus := .pending
  lateApproveUntil : Option Time := none

/-- The end of one membership with the row that was read, and of an agency or an account with the
rows of those that were let go before. -/
inductive MembershipEvent where
  | exited (membership : Membership)
  | agencyDeleted (agencyUserId : UserId) (exits : List Membership)
  deriving DecidableEq

/-- `ended` collects the rows as they are deleted. -/
structure AgencyDb where
  now : Time
  agencies : List Agency
  hosts : List Membership := []
  currentAgencyId : UserId → Option UserId := fun _ => none
  history : List HistoryRow := []
  applications : List Application := []
  leaves : List LeaveApplication := []
  ended : List Membership := []
  events : List MembershipEvent := []

inductive Lock where
  | clock
  | host (hostUserId : UserId)
  | user (userId : UserId)
  | agency (agencyUserId : UserId)
  | application (id : Nat)
  | leave (id : Nat)
  deriving DecidableEq

inductive AgencyError where
  | agencyNotFound | invalidApplicant | gate | alreadyInAgency | agencyApplicationCooldown
  | notFound | invalidState | conflict
  | notInAgency | applicationPending | removalNotPermitted | lateAcceptExpired
  | uniqueViolation | recordNotFound
  deriving DecidableEq

abbrev AgencyTx := Tx AgencyDb Lock AgencyError
abbrev AgencyProg := Prog AgencyDb Lock AgencyError

/-- `getRejoinCooldownMs`. -/
structure Environment where
  rejoinCooldownMs : Time

variable (env : Environment)

def dayMs : Time := 24 * 60 * 60 * 1000
def immediateLeaveMs : Time := dayMs
def lateApproveMs : Time := 14 * dayMs

/-! ### Queries and statements -/

namespace AgencyDb

variable (db : AgencyDb)

def getHost (hostUserId : UserId) : Option Membership :=
  db.hosts.find? (·.hostUserId = hostUserId)

def hostsOf (agencyUserId : UserId) : List Membership :=
  db.hosts.filter (·.agencyUserId = agencyUserId)

def hasAgency (agencyUserId : UserId) : Bool :=
  db.agencies.any (·.userId = agencyUserId)

def incrementHostCount (agencyUserId : UserId) (delta : Int) : AgencyDb :=
  { db with agencies := db.agencies.map fun agency =>
      if agency.userId = agencyUserId
      then { agency with totalHostsCount := agency.totalHostsCount + delta } else agency }

def setCurrentAgency (userId : UserId) (agencyUserId : Option UserId) : AgencyDb :=
  { db with currentAgencyId := Function.update db.currentAgencyId userId agencyUserId }

/-- `insertHost` and what goes with it. -/
def join (membership : Membership) : AgencyDb :=
  (({ db with hosts := db.hosts ++ [membership] }).setCurrentAgency membership.hostUserId
    (some membership.agencyUserId)).incrementHostCount membership.agencyUserId 1

/-- `removeHost` deletes whatever row the host has. -/
def removeHost (hostUserId : UserId) : AgencyDb :=
  { db with
    hosts := db.hosts.filter (·.hostUserId ≠ hostUserId)
    ended := db.ended ++ db.hosts.filter (·.hostUserId = hostUserId) }

/-- `insertHistory`, `removeHost` and what goes with it. -/
def exit (row : HistoryRow) : AgencyDb :=
  (((({ db with history := db.history ++ [row] }).removeHost row.membership.hostUserId)
    |>.setCurrentAgency row.membership.hostUserId none).incrementHostCount
      row.membership.agencyUserId (-1))

/-- The rows of an agency that is deleted go with it. -/
def deleteAgency (agencyUserId : UserId) : AgencyDb :=
  { db with
    agencies := db.agencies.filter (·.userId ≠ agencyUserId)
    hosts := db.hosts.filter (·.agencyUserId ≠ agencyUserId)
    ended := db.ended ++ db.hostsOf agencyUserId }

def record (e : MembershipEvent) : AgencyDb := { db with events := db.events ++ [e] }

def setLeaveStatus (id : Nat) (status : LeaveStatus) (lateApproveUntil : Option Time) : AgencyDb :=
  { db with leaves := db.leaves.map fun leave =>
      if leave.id = id then { leave with status, lateApproveUntil } else leave }

def setApplicationStatus (id : Nat) (status : ApplicationStatus) : AgencyDb :=
  { db with applications := db.applications.map fun application =>
      if application.id = id then { application with status } else application }

def getLeave (id : Nat) : Option LeaveApplication := db.leaves.find? (·.id = id)

def getApplication (id : Nat) : Option Application := db.applications.find? (·.id = id)

/-- `getRecentExitForHost`. -/
def recentExit (hostUserId : UserId) : Option Time :=
  ((db.history.filter (·.membership.hostUserId = hostUserId)).map (·.exitedAt)).max?

end AgencyDb

/-! ### Joining -/

/-- INSERT of the row, with its primary key and the reference to the agency, and the two updates. -/
def insertMembership (agencyUserId hostUserId : UserId) : AgencyTx Unit := do
  let joinedAt ← Tx.select (·.now)
  Tx.lockRow (.host hostUserId)
  let present ← Tx.select (·.getHost hostUserId)
  Tx.ensure present.isNone .uniqueViolation
  Tx.lockRow (.user hostUserId)
  Tx.lockRow (.agency agencyUserId)
  let exists' ← Tx.select (·.hasAgency agencyUserId)
  Tx.ensure exists' .recordNotFound
  Tx.update (.agency agencyUserId) (·.join { hostUserId, agencyUserId, joinedAt })

def createAcceptedApplication (applicationId : Nat) (agencyUserId hostUserId : UserId) :
    AgencyTx Unit :=
  Tx.update (.application applicationId) fun db =>
    { db with applications :=
        db.applications ++ [⟨applicationId, agencyUserId, hostUserId, .accepted⟩] }

def joinAccepted (applicationId : Nat) (agencyUserId hostUserId : UserId) : AgencyTx Unit := do
  createAcceptedApplication applicationId agencyUserId hostUserId
  insertMembership agencyUserId hostUserId

def joinAgency (applicationId : Nat) (agencyUserId hostUserId : UserId) : AgencyProg Unit :=
  Prog.transactionCatch (joinAccepted applicationId agencyUserId hostUserId) fun error =>
    Prog.fail (if error = .uniqueViolation then .alreadyInAgency else error)

/-- `assertJoinCooldown` on the last exit; that on the last rejection is part of the gates. -/
def assertJoinCooldown (hostUserId : UserId) : AgencyProg Unit := do
  let recentExit ← Prog.select (·.recentExit hostUserId)
  let now ← Prog.select (·.now)
  Prog.ensure (recentExit.all fun exitedAt => exitedAt + env.rejoinCooldownMs ≤ now)
    .agencyApplicationCooldown

def applyToAgency (applicationId : Nat) (hostUserId agencyUserId : UserId) (gates : Bool) :
    AgencyProg Unit := do
  let found ← Prog.select (·.hasAgency agencyUserId)
  Prog.ensure found .agencyNotFound
  Prog.ensure (agencyUserId ≠ hostUserId) .invalidApplicant
  Prog.ensure gates .gate
  let current ← Prog.select (·.currentAgencyId hostUserId)
  Prog.ensure current.isNone .alreadyInAgency
  assertJoinCooldown env hostUserId
  joinAgency applicationId agencyUserId hostUserId

/-- `adminAddHost`: no cooldown. -/
def adminAddHost (applicationId : Nat) (agencyUserId hostUserId : UserId) (gates : Bool) :
    AgencyProg Unit := do
  let found ← Prog.select (·.hasAgency agencyUserId)
  Prog.ensure found .agencyNotFound
  Prog.ensure gates .invalidApplicant
  let current ← Prog.select (·.currentAgencyId hostUserId)
  Prog.ensure current.isNone .alreadyInAgency
  joinAgency applicationId agencyUserId hostUserId

def acceptFound (agentUserId : UserId) (applicationId : Nat) :
    Option Application → AgencyTx Unit
  | none => Tx.fail .notFound
  | some app => do
    Tx.ensure (app.agencyUserId = agentUserId) .notFound
    Tx.ensure (app.status = .pending) .invalidState
    let current ← Tx.select (·.currentAgencyId app.hostUserId)
    Tx.ensure current.isNone .conflict
    Tx.update (.application applicationId) (·.setApplicationStatus applicationId .accepted)
    insertMembership agentUserId app.hostUserId

def acceptApplication (agentUserId : UserId) (applicationId : Nat) : AgencyProg Unit :=
  Prog.transaction do
    let app ← Tx.select (·.getApplication applicationId)
    acceptFound agentUserId applicationId app

/-! ### Leaving -/

/-- What an exit does with the row it has read. The DELETE waits for the row of the host and fails
if there is none; it is not compared with the row that was read. -/
def exitRow (row : Membership) (reason : AgencyHostHistoryReason) : AgencyTx Unit := do
  let exitedAt ← Tx.select (·.now)
  Tx.lockRow (.host row.hostUserId)
  let present ← Tx.select (·.getHost row.hostUserId)
  Tx.ensure present.isSome .recordNotFound
  Tx.lockRow (.user row.hostUserId)
  Tx.lockRow (.agency row.agencyUserId)
  let exists' ← Tx.select (·.hasAgency row.agencyUserId)
  Tx.ensure exists' .recordNotFound
  Tx.update (.agency row.agencyUserId) (·.exit { membership := row, reason, exitedAt })

/-- The row of the host, if it belongs to the agency. -/
def ownRow (agencyUserId hostUserId : UserId) : AgencyTx (Option Membership) :=
  Tx.select fun db => (db.getHost hostUserId).filter (·.agencyUserId = agencyUserId)

def exitRead (reason : AgencyHostHistoryReason) : Option Membership → AgencyTx Bool
  | none => pure false
  | some row => do
    exitRow row reason
    Tx.update (.host row.hostUserId) (·.record (.exited row))
    pure true

def finalizeAgencyHostExit (agencyUserId hostUserId : UserId) (reason : AgencyHostHistoryReason) :
    AgencyTx Bool := do
  let row ← ownRow agencyUserId hostUserId
  exitRead reason row

def leaveAtOnce (membership : Membership) : AgencyProg Unit := do
  let _ ← Prog.transaction
    (finalizeAgencyHostExit membership.agencyUserId membership.hostUserId .leaveAutoApproved)

def fileLeave (applicationId : Nat) (membership : Membership) : AgencyProg Unit :=
  Prog.autocommit (.leave applicationId) fun db =>
    { db with leaves := db.leaves ++
      [{ id := applicationId, agencyUserId := membership.agencyUserId
         hostUserId := membership.hostUserId }] }

def leaveAs (applicationId : Nat) (faceVerified : Bool) (membership : Membership) (now : Time) :
    AgencyProg Unit :=
  if now - membership.joinedAt < immediateLeaveMs ∨ faceVerified = false
  then leaveAtOnce membership
  else fileLeave applicationId membership

def leaveMember (applicationId : Nat) (gates faceVerified : Bool) :
    Option Membership → AgencyProg Unit
  | none => Prog.fail .notInAgency
  | some membership => do
    Prog.ensure gates .gate
    let pending ← Prog.select fun db => db.leaves.any fun leave =>
      leave.hostUserId = membership.hostUserId && leave.status = .pending
    Prog.ensure (!pending) .applicationPending
    let now ← Prog.select (·.now)
    leaveAs applicationId faceVerified membership now

def applyToLeave (applicationId : Nat) (hostUserId : UserId) (gates faceVerified : Bool) :
    AgencyProg Unit := do
  let membership ← Prog.select (·.getHost hostUserId)
  leaveMember applicationId gates faceVerified membership

def cancelLeaveApplication (hostUserId : UserId) (applicationId : Nat) : AgencyProg Unit :=
  Prog.autocommit (.leave applicationId) fun db =>
    { db with leaves := db.leaves.map fun leave =>
        if leave.id = applicationId ∧ leave.hostUserId = hostUserId ∧ leave.status = .pending
        then { leave with status := .cancelled } else leave }

/-- A leave application that `agentUserId` finds in one of `statuses`, set to `status` together with
the exit. -/
def settleLeave (leave : LeaveApplication) (status : LeaveStatus)
    (reason : AgencyHostHistoryReason) : AgencyTx Unit := do
  Tx.update (.leave leave.id) (·.setLeaveStatus leave.id status none)
  let _ ← finalizeAgencyHostExit leave.agencyUserId leave.hostUserId reason

def acceptFoundLeave (agentUserId : UserId) : Option LeaveApplication → AgencyTx Unit
  | none => Tx.fail .notFound
  | some leave => do
    Tx.ensure (leave.agencyUserId = agentUserId) .notFound
    Tx.ensure (leave.status = .pending) .invalidState
    settleLeave leave .approved .leaveApproved

def acceptLeaveApplication (agentUserId : UserId) (applicationId : Nat) : AgencyProg Unit :=
  Prog.transaction do
    let leave ← Tx.select (·.getLeave applicationId)
    acceptFoundLeave agentUserId leave

def rejectFoundLeave (agentUserId : UserId) (now : Time) : Option LeaveApplication → AgencyTx Unit
  | none => Tx.fail .notFound
  | some leave => do
    Tx.ensure (leave.agencyUserId = agentUserId) .notFound
    Tx.ensure (leave.status = .pending) .invalidState
    Tx.update (.leave leave.id)
      (·.setLeaveStatus leave.id .rejected (some (now + lateApproveMs)))

def rejectLeaveApplication (agentUserId : UserId) (applicationId : Nat) : AgencyProg Unit := do
  let now ← Prog.select (·.now)
  Prog.transaction do
    let leave ← Tx.select (·.getLeave applicationId)
    rejectFoundLeave agentUserId now leave

def lateAcceptFoundLeave (agentUserId : UserId) : Option LeaveApplication → AgencyTx Unit
  | none => Tx.fail .notFound
  | some leave => do
    Tx.ensure (leave.agencyUserId = agentUserId) .notFound
    Tx.ensure (leave.status = .rejected) .invalidState
    let now ← Tx.select (·.now)
    Tx.ensure (leave.lateApproveUntil.any (now ≤ ·)) .lateAcceptExpired
    settleLeave leave .lateApproved .leaveLateApproved

def lateAcceptLeaveApplication (agentUserId : UserId) (applicationId : Nat) : AgencyProg Unit :=
  Prog.transaction do
    let leave ← Tx.select (·.getLeave applicationId)
    lateAcceptFoundLeave agentUserId leave

def autoApprove : Option LeaveApplication → AgencyTx Unit
  | none => pure ()
  | some leave =>
    if leave.status ≠ .pending then pure ()
    else settleLeave leave .autoApproved .leaveAutoApproved

def processAutoApproveJob (applicationId : Nat) : AgencyProg Unit :=
  Prog.transaction do
    let leave ← Tx.select (·.getLeave applicationId)
    autoApprove leave

/-! ### Removals -/

def exitAs (agencyUserId hostUserId : UserId) (reason : AgencyHostHistoryReason) :
    AgencyProg Unit := do
  let _ ← Prog.transaction (finalizeAgencyHostExit agencyUserId hostUserId reason)

/-- `reason`: what the host's status, tenure and activity allow. -/
def removeMember (agentUserId : UserId) (reason : Option AgencyHostHistoryReason) :
    Option Membership → AgencyProg Unit
  | none => Prog.fail .notFound
  | some membership =>
    if membership.agencyUserId ≠ agentUserId then Prog.fail .notFound
    else match reason with
      | none => Prog.fail .removalNotPermitted
      | some reason => exitAs agentUserId membership.hostUserId reason

def removeHost (agentUserId hostUserId : UserId) (reason : Option AgencyHostHistoryReason) :
    AgencyProg Unit := do
  let membership ← Prog.select (·.getHost hostUserId)
  removeMember agentUserId reason membership

def adminRemoveMember : Option Membership → AgencyProg Unit
  | none => Prog.fail .notInAgency
  | some membership => exitAs membership.agencyUserId membership.hostUserId .adminForceExit

def adminRemoveHostFromAgency (hostUserId : UserId) : AgencyProg Unit := do
  let membership ← Prog.select (·.getHost hostUserId)
  adminRemoveMember membership

/-- The penalty is left to the point wallet. -/
def forceExit (membership : Membership) (pauseAgency : Bool) : AgencyTx Unit := do
  Tx.when (pauseAgency = true) (Tx.update (.agency membership.agencyUserId) fun db =>
    { db with agencies := db.agencies.map fun agency =>
        if agency.userId = membership.agencyUserId then { agency with paused := true } else agency })
  let _ ← finalizeAgencyHostExit membership.agencyUserId membership.hostUserId .csForceExit

def forceExitMember (pauseAgency : Bool) : Option Membership → AgencyProg Unit
  | none => Prog.fail .notInAgency
  | some membership => Prog.transaction (forceExit membership pauseAgency)

def forceExitFromCS (hostUserId : UserId) (pauseAgency : Bool) : AgencyProg Unit := do
  let membership ← Prog.select (·.getHost hostUserId)
  forceExitMember pauseAgency membership

def exitOwn (reason : AgencyHostHistoryReason) : Option Membership → AgencyTx Unit
  | none => pure ()
  | some row => exitRow row reason

/-- The loop over the hosts that were listed; what it lets go is collected. -/
def exitAll (agentUserId : UserId) (reason : AgencyHostHistoryReason) :
    List UserId → AgencyTx (List Membership)
  | [] => pure []
  | hostUserId :: more => do
    let row ← ownRow agentUserId hostUserId
    exitOwn reason row
    let exits ← exitAll agentUserId reason more
    pure (row.toList ++ exits)

/-- `gone`: whom the transaction has let go before. -/
def handleAgentAccountDeletion (agentUserId : UserId) (reason : AgencyHostHistoryReason)
    (gone : List Membership) : AgencyTx Unit := do
  let hostIds ← Tx.select fun db => (db.hostsOf agentUserId).map (·.hostUserId)
  let exits ← exitAll agentUserId reason hostIds
  Tx.update (.agency agentUserId) fun db =>
    (db.deleteAgency agentUserId).record (.agencyDeleted agentUserId (gone ++ exits))

def exitDeleted : Option Membership → AgencyTx (List Membership)
  | none => pure []
  | some membership => exitAll membership.agencyUserId .hostDeleted [membership.hostUserId]

def handleHostAccountDeletion (hostUserId : UserId) : AgencyTx (List Membership) := do
  let membership ← Tx.select (·.getHost hostUserId)
  exitDeleted membership

/-- What the transaction of `deleteAccountPermanently` does with memberships. -/
def deleteAccountPermanently (userId : UserId) : AgencyTx Unit := do
  let gone ← handleHostAccountDeletion userId
  handleAgentAccountDeletion userId .agentDeleted gone

inductive Request where
  | applyToAgency (applicationId : Nat) (hostUserId agencyUserId : UserId) (gates : Bool)
  | adminAddHost (applicationId : Nat) (agencyUserId hostUserId : UserId) (gates : Bool)
  | acceptApplication (agentUserId : UserId) (applicationId : Nat)
  | applyToLeave (applicationId : Nat) (hostUserId : UserId) (gates faceVerified : Bool)
  | cancelLeaveApplication (hostUserId : UserId) (applicationId : Nat)
  | acceptLeaveApplication (agentUserId : UserId) (applicationId : Nat)
  | rejectLeaveApplication (agentUserId : UserId) (applicationId : Nat)
  | lateAcceptLeaveApplication (agentUserId : UserId) (applicationId : Nat)
  | processAutoApproveJob (applicationId : Nat)
  | removeHost (agentUserId hostUserId : UserId) (reason : Option AgencyHostHistoryReason)
  | adminRemoveHostFromAgency (hostUserId : UserId)
  | forceExitFromCS (hostUserId : UserId) (pauseAgency : Bool)
  | deleteAgency (agentUserId : UserId) (reason : AgencyHostHistoryReason)
  | deleteAccount (userId : UserId)
  | tick (elapsed : Time)

def handler : Request → AgencyProg Unit
  | .applyToAgency applicationId hostUserId agencyUserId gates =>
    applyToAgency env applicationId hostUserId agencyUserId gates
  | .adminAddHost applicationId agencyUserId hostUserId gates =>
    adminAddHost applicationId agencyUserId hostUserId gates
  | .acceptApplication agentUserId applicationId => acceptApplication agentUserId applicationId
  | .applyToLeave applicationId hostUserId gates faceVerified =>
    applyToLeave applicationId hostUserId gates faceVerified
  | .cancelLeaveApplication hostUserId applicationId =>
    cancelLeaveApplication hostUserId applicationId
  | .acceptLeaveApplication agentUserId applicationId =>
    acceptLeaveApplication agentUserId applicationId
  | .rejectLeaveApplication agentUserId applicationId =>
    rejectLeaveApplication agentUserId applicationId
  | .lateAcceptLeaveApplication agentUserId applicationId =>
    lateAcceptLeaveApplication agentUserId applicationId
  | .processAutoApproveJob applicationId => processAutoApproveJob applicationId
  | .removeHost agentUserId hostUserId reason => removeHost agentUserId hostUserId reason
  | .adminRemoveHostFromAgency hostUserId => adminRemoveHostFromAgency hostUserId
  | .forceExitFromCS hostUserId pauseAgency => forceExitFromCS hostUserId pauseAgency
  | .deleteAgency agentUserId reason =>
    Prog.transaction (handleAgentAccountDeletion agentUserId reason [])
  | .deleteAccount userId => Prog.transaction (deleteAccountPermanently userId)
  | .tick elapsed => Prog.autocommit .clock fun db => { db with now := db.now + elapsed }

end OlNode.AgencyHosts
