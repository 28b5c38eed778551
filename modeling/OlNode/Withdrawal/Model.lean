import OlNode.Ledger.Wallets
import OlNode.ReadCommitted.Fresh

/-!
# One withdrawal and its payroll

The database as seen by the operations on one withdrawal: its row, its payroll assignments, the
queued payroll jobs, and the money tables. The withdrawal's id is a field of its row; ledger rows
of other withdrawals and of other services live in the same ledgers.

An operation takes what it gets from outside the database (the clock, payroll configuration,
agency directory, generated ids, whether removing a job succeeded) as arguments.
-/
namespace OlNode

open ReadCommitted

inductive WithdrawalStatus where
  | pending | kycCheck | approved | processing | paid | failed | rejected | pendingPlatform
  | disputed | waiting
  deriving DecidableEq

inductive WithdrawalMethodType where
  | epay | bank
  deriving DecidableEq

inductive WithdrawalPayoutHandler where
  | platform | agency
  deriving DecidableEq

def payoutHandlerForMethod : WithdrawalMethodType → WithdrawalPayoutHandler
  | .epay => .platform
  | .bank => .agency

inductive AssignmentStatus where
  | pending | waiting | completed | rejected | expired
  deriving DecidableEq

/-- The folders proof screenshots are uploaded to; a proof key is a file in one of them. -/
inductive ProofFolder where
  | assignment (assignmentId : AssignmentId)
  | platform (withdrawalId : Nat)
  | takeover (withdrawalId : Nat)
  | adminManual (withdrawalId : Nat)
  | adminEdit (withdrawalId : Nat)
  deriving DecidableEq

structure ProofKey where
  folder : ProofFolder
  file : Nat
  deriving DecidableEq

structure Withdrawal where
  id : Nat
  userId : UserId
  amountPoints : Int
  status : WithdrawalStatus
  payoutRef : Option ProofKey := none
  failReason : Option String := none
  processedAt : Option Time := none
  platformFeePoints : Option Int
  agentRewardPoints : Option Int
  serviceFeePoints : Option Int
  methodType : WithdrawalMethodType
  payoutHandler : WithdrawalPayoutHandler
  proofS3Key : Option ProofKey := none
  waitingExpiresAt : Option Time := none
  assignmentCount : Nat := 0
  disputeTicketId : Option Nat := none
  withdrawalVersion : Nat
  deriving DecidableEq

structure PayrollAssignment where
  id : AssignmentId
  agencyUserId : UserId
  expiresAt : Time
  status : AssignmentStatus
  assignmentNumber : Nat
  proofS3Key : Option ProofKey := none
  completedAt : Option Time := none
  rejectedAt : Option Time := none
  rejectionReason : Option String := none
  waitingExpiresAt : Option Time := none
  deriving DecidableEq

inductive PayrollJob where
  | sla (assignmentId : AssignmentId)
  | waiting (assignmentId : AssignmentId)
  | platformWaiting
  deriving DecidableEq

structure WithdrawalDb where
  money : MoneyDb
  withdrawal : Option Withdrawal
  assignments : List PayrollAssignment
  jobs : List PayrollJob

abbrev WithdrawalTx := Tx WithdrawalDb Lock LedgerError
abbrev WithdrawalProg := Prog WithdrawalDb Lock LedgerError

def isPlatformHandledWithdrawal (w : Withdrawal) : Bool :=
  w.payoutHandler = .platform || w.methodType = .epay

/-- Host cash-out points: gross less service and platform fee, absent fees counting as 0. -/
def withdrawalHostPayoutPoints (w : Withdrawal) : Int :=
  w.amountPoints - w.platformFeePoints.getD 0 - w.serviceFeePoints.getD 0

def agentReward (w : Withdrawal) : Int := w.agentRewardPoints.getD 0

def PayrollAssignment.isOpen (a : PayrollAssignment) : Bool :=
  a.status = .pending || a.status = .waiting

/-! ### Repositories -/

/-- `data` of `withdrawalRepository.updateStatus`: a field that is `none` is left as it is. -/
structure WithdrawalUpdate where
  status : WithdrawalStatus
  payoutRef : Option (Option ProofKey) := none
  processedAt : Option (Option Time) := none
  failReason : Option (Option String) := none
  disputeTicketId : Option (Option Nat) := none
  proofS3Key : Option (Option ProofKey) := none
  waitingExpiresAt : Option (Option Time) := none

def Withdrawal.apply (w : Withdrawal) (u : WithdrawalUpdate) : Withdrawal :=
  { w with
    status := u.status
    payoutRef := u.payoutRef.getD w.payoutRef
    processedAt := u.processedAt.getD w.processedAt
    failReason := u.failReason.getD w.failReason
    disputeTicketId := u.disputeTicketId.getD w.disputeTicketId
    proofS3Key := u.proofS3Key.getD w.proofS3Key
    waitingExpiresAt := u.waitingExpiresAt.getD w.waitingExpiresAt }

structure AssignmentUpdate where
  status : AssignmentStatus
  proofS3Key : Option (Option ProofKey) := none
  completedAt : Option (Option Time) := none
  rejectedAt : Option (Option Time) := none
  rejectionReason : Option (Option String) := none
  waitingExpiresAt : Option (Option Time) := none

def PayrollAssignment.apply (a : PayrollAssignment) (u : AssignmentUpdate) : PayrollAssignment :=
  { a with
    status := u.status
    proofS3Key := u.proofS3Key.getD a.proofS3Key
    completedAt := u.completedAt.getD a.completedAt
    rejectedAt := u.rejectedAt.getD a.rejectedAt
    rejectionReason := u.rejectionReason.getD a.rejectionReason
    waitingExpiresAt := u.waitingExpiresAt.getD a.waitingExpiresAt }

namespace WithdrawalDb

def modify (db : WithdrawalDb) (f : Withdrawal → Withdrawal) : WithdrawalDb :=
  { db with withdrawal := db.withdrawal.map f }

def setAssignment (db : WithdrawalDb) (id : AssignmentId) (u : AssignmentUpdate) : WithdrawalDb :=
  { db with assignments := db.assignments.map fun a => if a.id = id then a.apply u else a }

def setMoney (money : MoneyDb) (db : WithdrawalDb) : WithdrawalDb := { db with money }

section Fields

variable (db : WithdrawalDb) (f : Withdrawal → Withdrawal) (id : AssignmentId)
  (u : AssignmentUpdate) (money : MoneyDb)

@[simp] theorem modify_withdrawal : (db.modify f).withdrawal = db.withdrawal.map f := rfl

@[simp] theorem setAssignment_withdrawal : (db.setAssignment id u).withdrawal = db.withdrawal :=
  rfl

end Fields

def assignment (db : WithdrawalDb) (id : AssignmentId) : Option PayrollAssignment :=
  db.assignments.find? fun a => a.id = id

def openAssignment (db : WithdrawalDb) : Option PayrollAssignment :=
  db.assignments.find? fun a => a.isOpen

def waitingAssignment (db : WithdrawalDb) : Option PayrollAssignment :=
  db.assignments.find? fun a => a.status = .waiting

def completedAssignment (db : WithdrawalDb) : Option PayrollAssignment :=
  (db.assignments.filter fun a => a.status = .completed).foldl
    (fun best a => match best with
      | none => some a
      | some b => if b.completedAt.getD 0 < a.completedAt.getD 0 then some a else some b) none

end WithdrawalDb

/-- The blind UPDATE of the withdrawal row: no condition on what the row holds by then. -/
def updateStatus (u : WithdrawalUpdate) : WithdrawalTx Unit :=
  Tx.update .withdrawal fun db => db.modify (·.apply u)

def incrementAssignmentCount : WithdrawalTx Nat := do
  Tx.update .withdrawal fun db => db.modify fun w =>
    { w with assignmentCount := w.assignmentCount + 1 }
  Tx.select fun db => (db.withdrawal.map (·.assignmentCount)).getD 0

def updateAssignment (id : AssignmentId) (u : AssignmentUpdate) : WithdrawalTx Unit :=
  Tx.update (.assignment id) fun db => db.setAssignment id u

/-- INSERT of an assignment; its id is the primary key. -/
def createAssignment (a : PayrollAssignment) : WithdrawalTx Unit := do
  Tx.lockRow (.assignment a.id)
  let existing ← Tx.select fun db => db.assignment a.id
  Tx.ensure existing.isNone .uniqueViolation
  Tx.update (.assignment a.id) fun db => { db with assignments := db.assignments ++ [a] }

/-- A wallet or ledger operation on the same transaction. -/
def onMoney {α : Type} (x : LedgerTx α) : WithdrawalTx α :=
  x.zoom WithdrawalDb.money WithdrawalDb.setMoney

/-! ### Job queue -/

def enqueue (job : PayrollJob) : WithdrawalProg Unit :=
  Prog.autocommit .job fun db => if job ∈ db.jobs then db else { db with jobs := job :: db.jobs }

/-- Removing a job is best effort: errors are swallowed, so `removed` says whether it took. -/
def remove (removed : PayrollJob → Bool) (job : PayrollJob) : WithdrawalProg Unit :=
  Prog.autocommit .job fun db =>
    if removed job then { db with jobs := db.jobs.filter (· ≠ job) } else db

/-! ### Inputs from outside the database -/

structure PayrollConfig where
  slaHours : Nat
  waitingHours : Nat
  maxAssignmentAttempts : Nat

/-- A row of `agencies` joined with its user's country and its open assignments. -/
structure PayrollAgency where
  userId : UserId
  country : Option Nat
  payrollEnabled : Bool
  payrollPrivilegeGranted : Bool
  pausedAt : Option Time
  pausedUntil : Option Time
  payrollEnabledAt : Option Time
  lastPayrollAssignedAt : Option Time
  openCount : Nat

structure Environment where
  now : Time
  config : PayrollConfig
  hostCountry : Option Nat
  agencies : List PayrollAgency
  /-- Agency rows another transaction holds (`FOR UPDATE SKIP LOCKED`). -/
  lockedAgencies : List UserId
  /-- `randomUUID()` for an assignment this call may create. -/
  newSerial : Nat
  /-- Which job removals take effect. -/
  removed : PayrollJob → Bool
  companyAgencyUserId : Option UserId

/-- Remove the job of an assignment, if there is one. -/
def removeFor (env : Environment) (job : AssignmentId → PayrollJob)
    (assignmentId : Option AssignmentId) :
    WithdrawalProg Unit :=
  match assignmentId with
  | some id => remove env.removed (job id)
  | none => pure ()

def PayrollAgency.paused (a : PayrollAgency) (now : Time) : Bool :=
  a.pausedAt.isSome && (match a.pausedUntil with | none => true | some u => decide (now < u))

def PayrollAgency.payrollOk (a : PayrollAgency) (now : Time) : Bool :=
  a.payrollEnabled && a.payrollPrivilegeGranted && !a.paused now

/-- ORDER BY open_cnt, payroll_enabled_at NULLS LAST, last_payroll_assigned_at NULLS FIRST,
user_id. -/
def PayrollAgency.before (a b : PayrollAgency) : Bool :=
  let nullsLast (x y : Option Time) : Ordering := match x, y with
    | none, none => .eq
    | none, some _ => .gt
    | some _, none => .lt
    | some s, some t => compare s t
  let nullsFirst (x y : Option Time) : Ordering := match x, y with
    | none, none => .eq
    | none, some _ => .lt
    | some _, none => .gt
    | some s, some t => compare s t
  ((compare a.openCount b.openCount).then
    ((nullsLast a.payrollEnabledAt b.payrollEnabledAt).then
      ((nullsFirst a.lastPayrollAssignedAt b.lastPayrollAssignedAt).then
        (compare a.userId b.userId)))).isLT

def getNextEligibleAgency (env : Environment) (hostCountry : Nat) (withdrawerUserId : UserId) :
    Option UserId :=
  let eligible := env.agencies.filter fun a =>
    a.payrollOk env.now && a.country = some hostCountry && a.userId ≠ withdrawerUserId &&
      !env.lockedAgencies.contains a.userId
  (eligible.foldl (fun best a => match best with
    | none => some a
    | some b => if a.before b then some a else some b) none).map (·.userId)

end OlNode
