import OlNode.Ledger.Postings
import OlNode.Withdrawal.Operations

/-!
# What holds of a withdrawal between commits

The assignments of a withdrawal are a list of dead ones (rejected or expired) followed by at most
one current assignment. `Stage` lists the combinations of withdrawal status, current assignment
and ledger rows written for the withdrawal; in each stage the rows are known exactly. The
parameter `strict` leaves out the stage in which the host was refunded although the company had
already been credited for a takeover.
-/
namespace OlNode

open ReadCommitted

/-! ### Ledger rows of a withdrawal -/

def LedgerKey.withdrawalId : LedgerKey → Option Nat
  | .withdrawalDebit id | .withdrawalEscrow id | .withdrawalRefund id | .payrollTakeover id
  | .payrollTakeoverReward id => some id
  | .withdrawalSettled a | .payrollHostPayout a | .payrollReward a | .payrollHostPayoutReversal a
  | .payrollRewardReversal a => some a.withdrawalId
  | _ => none

def Posting.isAbout (id : Nat) (p : Posting) : Bool :=
  p.key.withdrawalId = some id || p.refId = some (.withdrawal id)

/-- The postings written for withdrawal `id`, oldest first. -/
def WithdrawalDb.own (db : WithdrawalDb) (id : Nat) : List Posting :=
  db.money.postings.filter (·.isAbout id)

namespace Withdrawals

theorem hasKey_own (db : WithdrawalDb) {id : Nat} {key : LedgerKey}
    (made : key.withdrawalId = some id) :
    HasKey db.money.postings key ↔ HasKey (db.own id) key := by
  unfold HasKey WithdrawalDb.own
  constructor
  · rintro ⟨p, member, rfl⟩
    exact ⟨p, List.mem_filter.mpr ⟨member, by simp [Posting.isAbout, made]⟩, rfl⟩
  · rintro ⟨p, member, rfl⟩
    exact ⟨p, (List.mem_filter.mp member).1, rfl⟩

def entryFor (w : Withdrawal) (userId : UserId) (signed : Int) (key : LedgerKey) : Posting :=
  ⟨key, ⟨userId, .point⟩, signed, some (.withdrawal w.id)⟩

def debitPosting (w : Withdrawal) : Posting :=
  entryFor w w.userId (-w.amountPoints) (.withdrawalDebit w.id)

def refundPosting (w : Withdrawal) : Posting :=
  entryFor w w.userId w.amountPoints (.withdrawalRefund w.id)

/-- The posting of a credit, which is only made for a positive amount. -/
def creditOf (w : Withdrawal) (userId : UserId) (amount : Int) (key : LedgerKey) : List Posting :=
  if 0 < amount then [entryFor w userId amount key] else []

def debitOf (w : Withdrawal) (userId : UserId) (amount : Int) (key : LedgerKey) : List Posting :=
  if 0 < amount then [entryFor w userId (-amount) key] else []

@[simp] theorem hasKey_creditOf (w : Withdrawal) (userId : UserId) (amount : Int)
    (key other : LedgerKey) :
    HasKey (creditOf w userId amount key) other ↔ 0 < amount ∧ key = other := by
  unfold creditOf
  split <;> simp [entryFor, *]

@[simp] theorem hasKey_debitOf (w : Withdrawal) (userId : UserId) (amount : Int)
    (key other : LedgerKey) :
    HasKey (debitOf w userId amount key) other ↔ 0 < amount ∧ key = other := by
  unfold debitOf
  split <;> simp [entryFor, *]

def agencyCredits (w : Withdrawal) (a : PayrollAssignment) : List Posting :=
  creditOf w a.agencyUserId (withdrawalHostPayoutPoints w) (.payrollHostPayout a.id) ++
    creditOf w a.agencyUserId (agentReward w) (.payrollReward a.id)

def agencyReversals (w : Withdrawal) (a : PayrollAssignment) : List Posting :=
  debitOf w a.agencyUserId (withdrawalHostPayoutPoints w) (.payrollHostPayoutReversal a.id) ++
    debitOf w a.agencyUserId (agentReward w) (.payrollRewardReversal a.id)

def takeoverCredits (w : Withdrawal) (company : UserId) : List Posting :=
  creditOf w company (withdrawalHostPayoutPoints w) (.payrollTakeover w.id) ++
    creditOf w company (agentReward w) (.payrollTakeoverReward w.id)

/-! ### Stages -/

/-- `Stage strict w current own`: a withdrawal row, its current assignment and the postings written
for it that belong together. -/
inductive Stage (strict : Prop) (w : Withdrawal) : Option PayrollAssignment → List Posting → Prop
  | platform (platform : isPlatformHandledWithdrawal w = true)
      (status : w.status ∈ [.pendingPlatform, .waiting, .paid, .disputed]) :
      Stage strict w none [debitPosting w]
  | unassigned (bank : isPlatformHandledWithdrawal w = false)
      (status : w.status ∈ [.pending, .pendingPlatform]) (agency : w.waitingExpiresAt = none) :
      Stage strict w none [debitPosting w]
  | assigned (a : PayrollAssignment) (bank : isPlatformHandledWithdrawal w = false)
      (status : w.status = .pending) (agency : w.waitingExpiresAt = none)
      (pending : a.status = .pending) : Stage strict w (some a) [debitPosting w]
  | proved (a : PayrollAssignment) (bank : isPlatformHandledWithdrawal w = false)
      (status : w.status ∈ [.waiting, .disputed]) (agency : w.waitingExpiresAt = none)
      (waiting : a.status = .waiting) : Stage strict w (some a) [debitPosting w]
  | settled (a : PayrollAssignment) (bank : isPlatformHandledWithdrawal w = false)
      (status : w.status ∈ [.paid, .disputed]) (completed : a.status = .completed) :
      Stage strict w (some a) (debitPosting w :: agencyCredits w a)
  | takeover (bank : isPlatformHandledWithdrawal w = false) (status : w.status = .waiting)
      (company : w.waitingExpiresAt.isSome) : Stage strict w none [debitPosting w]
  | takenOver (company : UserId) (bank : isPlatformHandledWithdrawal w = false)
      (status : w.status ∈ [.paid, .disputed]) :
      Stage strict w none (debitPosting w :: takeoverCredits w company)
  | refunded (status : w.status = .failed) : Stage strict w none [debitPosting w, refundPosting w]
  | reversed (a : PayrollAssignment) (status : w.status = .failed)
      (completed : a.status = .completed) :
      Stage strict w (some a) (debitPosting w :: agencyCredits w a ++ refundPosting w ::
        agencyReversals w a)
  | refundedTakeover (company : UserId) (status : w.status = .failed)
      (lax : strict → withdrawalHostPayoutPoints w ≤ 0) :
      Stage strict w none (debitPosting w :: takeoverCredits w company ++ [refundPosting w])

/-- In every stage the host has been debited, and never through a soft escrow. -/
theorem Stage.debited {strict : Prop} {w : Withdrawal} {current : Option PayrollAssignment}
    {own : List Posting} (stage : Stage strict w current own) :
    HasKey own (.withdrawalDebit w.id) ∧ ¬ HasKey own (.withdrawalEscrow w.id) := by
  cases stage <;> simp [debitPosting, refundPosting, entryFor, agencyCredits, agencyReversals,
    takeoverCredits]

/-- The host is refunded exactly in the FAILED stages. -/
theorem Stage.refunded_iff {strict : Prop} {w : Withdrawal} {current : Option PayrollAssignment}
    {own : List Posting} (stage : Stage strict w current own) :
    HasKey own (.withdrawalRefund w.id) ↔ w.status = .failed := by
  cases stage <;> simp_all [debitPosting, refundPosting, entryFor, agencyCredits,
    agencyReversals, takeoverCredits]
  all_goals grind

/-- The state of the database for the withdrawal `id` whose row is `w`. -/
structure Snapshot (strict : Prop) (id : Nat) (db : WithdrawalDb) (w : Withdrawal)
    (dead : List PayrollAssignment) (current : Option PayrollAssignment) : Prop where
  row : db.withdrawal = some w
  id_eq : w.id = id
  version : w.withdrawalVersion = 2
  assignments : db.assignments = dead ++ current.toList
  closed : ∀ a ∈ dead, a.status = .rejected ∨ a.status = .expired
  ids : ((dead ++ current.toList).map (·.id)).Nodup
  owned : ∀ a ∈ current, a.id.withdrawalId = id
  numbers : ((dead ++ current.toList).map (·.assignmentNumber)).Nodup
  deadNumbers : w.status ≠ .failed → ∀ a ∈ dead, a.assignmentNumber ≤ w.assignmentCount
  currentNumber : w.status ≠ .failed → ∀ a ∈ current, a.assignmentNumber = w.assignmentCount + 1
  job : .platformWaiting ∈ db.jobs → w.waitingExpiresAt.isSome
  stage : Stage strict w current (db.own id)

/-- Before the withdrawal is created nothing refers to it. -/
structure Uncreated (id : Nat) (db : WithdrawalDb) : Prop where
  row : db.withdrawal = none
  assignments : db.assignments = []
  job : .platformWaiting ∉ db.jobs
  own : db.own id = []

def Inv (strict : Prop) (id : Nat) (db : WithdrawalDb) : Prop :=
  Uncreated id db ∨ ∃ w dead current, Snapshot strict id db w dead current

/-- What no commit ever undoes. -/
def Grows (db db' : WithdrawalDb) : Prop :=
  ∀ w, db.withdrawal = some w → ∃ w', db'.withdrawal = some w' ∧
    (w.status = .failed → w'.status = .failed) ∧
    (w.waitingExpiresAt.isSome → w'.waitingExpiresAt.isSome)

theorem Grows.refl (db : WithdrawalDb) : Grows db db :=
  fun w row => ⟨w, row, fun failed => failed, fun set => set⟩

theorem Grows.trans (db db' db'' : WithdrawalDb) (first : Grows db db')
    (second : Grows db' db'') : Grows db db'' := by
  intro w row
  obtain ⟨w', row', failed, set⟩ := first w row
  obtain ⟨w'', row'', failed', set'⟩ := second w' row'
  exact ⟨w'', row'', fun h => failed' (failed h), fun h => set' (set h)⟩

/-! ### Lookups -/

private theorem find?_dead {p : PayrollAssignment → Bool} {dead : List PayrollAssignment}
    (closed : ∀ a ∈ dead, a.status = .rejected ∨ a.status = .expired)
    (rejects : ∀ a : PayrollAssignment, a.status = .rejected ∨ a.status = .expired → p a = false)
    (current : Option PayrollAssignment) :
    (dead ++ current.toList).find? p = current.filter p := by
  have none : dead.find? p = none := by
    rw [List.find?_eq_none]
    intro a member
    simp [rejects a (closed a member)]
  rw [List.find?_append, none, Option.none_or]
  cases current with
  | none => rfl
  | some a => cases accepted : p a <;> simp [Option.filter, accepted]

private theorem filter_dead {p : PayrollAssignment → Bool} {dead : List PayrollAssignment}
    (closed : ∀ a ∈ dead, a.status = .rejected ∨ a.status = .expired)
    (rejects : ∀ a : PayrollAssignment, a.status = .rejected ∨ a.status = .expired → p a = false)
    (current : Option PayrollAssignment) :
    (dead ++ current.toList).filter p = (current.filter p).toList := by
  have none : dead.filter p = [] := by
    rw [List.filter_eq_nil_iff]
    intro a member
    simp [rejects a (closed a member)]
  rw [List.filter_append, none, List.nil_append]
  cases current with
  | none => rfl
  | some a => cases accepted : p a <;> simp [Option.filter, accepted]

namespace Snapshot

variable {strict : Prop} {id : Nat} {db : WithdrawalDb} {w : Withdrawal}
  {dead : List PayrollAssignment} {current : Option PayrollAssignment}

section

variable (sn : Snapshot strict id db w dead current)
include sn

theorem openAssignment : db.openAssignment = current.filter (·.isOpen) := by
  rw [WithdrawalDb.openAssignment, sn.assignments]
  refine find?_dead sn.closed ?_ current
  rintro a (rejected | expired) <;> simp [PayrollAssignment.isOpen, *]

theorem waitingAssignment : db.waitingAssignment = current.filter fun a => a.status = .waiting := by
  rw [WithdrawalDb.waitingAssignment, sn.assignments]
  refine find?_dead sn.closed ?_ current
  rintro a (rejected | expired) <;> simp [*]

theorem newestWaiting :
    (db.assignments.filter fun a => a.status = .waiting).getLast? =
      current.filter fun a => a.status = .waiting := by
  rw [sn.assignments, filter_dead sn.closed]
  · cases current.filter fun a => decide (a.status = .waiting) <;> rfl
  · rintro a (rejected | expired) <;> simp [*]

theorem completedAssignment :
    db.completedAssignment = current.filter fun a => a.status = .completed := by
  rw [WithdrawalDb.completedAssignment, sn.assignments, filter_dead sn.closed]
  · cases current.filter fun a => decide (a.status = .completed) <;> rfl
  · rintro a (rejected | expired) <;> simp [*]

theorem current_of_found {assignmentId : AssignmentId} {a : PayrollAssignment}
    (found : db.assignment assignmentId = some a)
    (live : a.status ≠ .rejected ∧ a.status ≠ .expired) :
    current = some a ∧ a.id = assignmentId := by
  have member := List.mem_of_find?_eq_some found
  have same := List.find?_some found
  rw [sn.assignments, List.mem_append, Option.mem_toList] at member
  refine ⟨?_, by simpa using same⟩
  rcases member with inDead | isCurrent
  · rcases sn.closed a inDead with rejected | expired
    · exact absurd rejected live.1
    · exact absurd expired live.2
  · exact isCurrent

end

/-- Updating the current assignment leaves the dead ones alone. -/
theorem setAssignment_current {a : PayrollAssignment}
    (sn : Snapshot strict id db w dead (some a)) (u : AssignmentUpdate) :
    (db.setAssignment a.id u).assignments = dead ++ [a.apply u] := by
  have distinct : ∀ b ∈ dead, b.id ≠ a.id := by
    have nodup := sn.ids
    simp only [Option.toList_some, List.map_append, List.map_cons, List.map_nil,
      List.nodup_append] at nodup
    intro b member same
    exact nodup.2.2 b.id (List.mem_map_of_mem member) a.id (by simp) same
  simp only [WithdrawalDb.setAssignment, sn.assignments, Option.toList_some, List.map_append,
    List.map_cons, List.map_nil, if_true]
  congr 1
  rw [List.map_congr_left (g := fun b => b)]
  · simp
  · intro b member
    simp [distinct b member]

end Snapshot

/-! ### Moves -/

/-- How the withdrawal row may change: what is fixed at creation stays, FAILED is final, and the
company's waiting period, once set, stays set. -/
structure RowStep (w w' : Withdrawal) : Prop where
  id_eq : w'.id = w.id
  version : w'.withdrawalVersion = w.withdrawalVersion
  failed : w.status = .failed → w'.status = .failed
  company : w.waitingExpiresAt.isSome → w'.waitingExpiresAt.isSome

theorem Grows.of_row {db db' : WithdrawalDb} {w w' : Withdrawal} (row : db.withdrawal = some w)
    (row' : db'.withdrawal = some w') (step : RowStep w w') : Grows db db' := by
  intro v found
  cases row.symm.trans found
  exact ⟨w', row', step.failed, step.company⟩

namespace Snapshot

variable {strict : Prop} {id : Nat} {db db' : WithdrawalDb} {w w' : Withdrawal}
  {dead : List PayrollAssignment} {current current' : Option PayrollAssignment}
  {a a' : PayrollAssignment}

/-- The row changes, and the current assignment at most in its fields other than id and number. -/
theorem keepCurrent (sn : Snapshot strict id db w dead current) (step : RowStep w w')
    (count : w'.assignmentCount = w.assignmentCount) (row : db'.withdrawal = some w')
    (assignments : db'.assignments = dead ++ current'.toList)
    (sameId : current'.map (·.id) = current.map (·.id))
    (sameNumber : current'.map (·.assignmentNumber) = current.map (·.assignmentNumber))
    (jobs : .platformWaiting ∈ db'.jobs → .platformWaiting ∈ db.jobs)
    (stage : Stage strict w' current' (db'.own id)) :
    Snapshot strict id db' w' dead current' := by
  have toListMap : ∀ {β : Type} (f : PayrollAssignment → β),
      current'.map f = current.map f → current'.toList.map f = current.toList.map f := by
    intro β f same
    cases current <;> cases current' <;> simp_all
  refine ⟨row, step.id_eq.trans sn.id_eq, step.version.trans sn.version, assignments, sn.closed,
    ?_, ?_, ?_, ?_, ?_, fun queued => step.company (sn.job (jobs queued)), stage⟩
  · rw [List.map_append, toListMap _ sameId, ← List.map_append]
    exact sn.ids
  · intro b isCurrent
    rw [Option.mem_def] at isCurrent
    rw [isCurrent, Option.map_some] at sameId
    obtain ⟨c, wasCurrent, same⟩ := Option.map_eq_some_iff.mp sameId.symm
    rw [← same]
    exact sn.owned c wasCurrent
  · rw [List.map_append, toListMap _ sameNumber, ← List.map_append]
    exact sn.numbers
  · intro notFailed b member
    rw [count]
    exact sn.deadNumbers (fun failed => notFailed (step.failed failed)) b member
  · intro notFailed b isCurrent
    rw [Option.mem_def] at isCurrent
    rw [isCurrent, Option.map_some] at sameNumber
    obtain ⟨c, wasCurrent, number⟩ := Option.map_eq_some_iff.mp sameNumber.symm
    rw [count, ← number]
    exact sn.currentNumber (fun failed => notFailed (step.failed failed)) c wasCurrent

/-- The current assignment dies, and unless the withdrawal fails one more attempt is counted. -/
theorem closeCurrent (sn : Snapshot strict id db w dead (some a)) (step : RowStep w w')
    (count : w'.status ≠ .failed → w'.assignmentCount = w.assignmentCount + 1)
    (row : db'.withdrawal = some w') (assignments : db'.assignments = dead ++ [a'])
    (sameId : a'.id = a.id) (sameNumber : a'.assignmentNumber = a.assignmentNumber)
    (closed : a'.status = .rejected ∨ a'.status = .expired)
    (jobs : .platformWaiting ∈ db'.jobs → .platformWaiting ∈ db.jobs)
    (stage : Stage strict w' none (db'.own id)) :
    Snapshot strict id db' w' (dead ++ [a']) none := by
  refine ⟨row, step.id_eq.trans sn.id_eq, step.version.trans sn.version, ?_, ?_, ?_, ?_, ?_, ?_, ?_,
    fun queued => step.company (sn.job (jobs queued)), stage⟩
  · simpa using assignments
  · intro b member
    rcases List.mem_append.mp member with old | new
    · exact sn.closed b old
    · rw [List.mem_singleton] at new
      exact new ▸ closed
  · simpa [sameId] using sn.ids
  · simp
  · simpa [sameNumber] using sn.numbers
  · intro notFailed b member
    have wasLive : w.status ≠ .failed := fun failed => notFailed (step.failed failed)
    rw [count notFailed]
    rcases List.mem_append.mp member with old | new
    · exact Nat.le_succ_of_le (sn.deadNumbers wasLive b old)
    · rw [List.mem_singleton] at new
      exact Nat.le_of_eq (by rw [new, sameNumber, sn.currentNumber wasLive a rfl])
  · simp

/-- A new assignment becomes current, numbered one above the attempts counted so far. -/
theorem openNew (sn : Snapshot strict id db w dead none) (live : w.status ≠ .failed)
    (step : RowStep w w') (count : w'.assignmentCount = w.assignmentCount)
    (row : db'.withdrawal = some w') (assignments : db'.assignments = db.assignments ++ [a])
    (newId : db.assignment a.id = none) (owned : a.id.withdrawalId = id)
    (number : a.assignmentNumber = w.assignmentCount + 1)
    (jobs : .platformWaiting ∈ db'.jobs → .platformWaiting ∈ db.jobs)
    (stage : Stage strict w' (some a) (db'.own id)) :
    Snapshot strict id db' w' dead (some a) := by
  have was : db.assignments = dead := by simpa using sn.assignments
  refine ⟨row, step.id_eq.trans sn.id_eq, step.version.trans sn.version, ?_, sn.closed, ?_, ?_,
    ?_, ?_, ?_, fun queued => step.company (sn.job (jobs queued)), stage⟩
  · rw [assignments, was]
    rfl
  · have distinct : ∀ b ∈ dead, b.id ≠ a.id := by
      rw [WithdrawalDb.assignment, was, List.find?_eq_none] at newId
      simpa using newId
    have nodup : (dead.map (·.id)).Nodup := by simpa using sn.ids
    simp only [Option.toList_some, List.map_append, List.map_cons, List.map_nil,
      List.nodup_append, List.mem_singleton]
    refine ⟨nodup, by simp, ?_⟩
    rintro _ member _ rfl
    obtain ⟨b, inDead, rfl⟩ := List.mem_map.mp member
    exact distinct b inDead
  · rintro b ⟨⟩
    exact owned
  · have nodup : (dead.map (·.assignmentNumber)).Nodup := by simpa using sn.numbers
    simp only [Option.toList_some, List.map_append, List.map_cons, List.map_nil,
      List.nodup_append, List.mem_singleton]
    refine ⟨nodup, by simp, ?_⟩
    rintro _ member _ rfl
    obtain ⟨b, inDead, rfl⟩ := List.mem_map.mp member
    have below := sn.deadNumbers live b inDead
    omega
  · intro _ b member
    rw [count]
    exact sn.deadNumbers live b member
  · rintro _ b ⟨⟩
    rw [count, number]

end Snapshot

end Withdrawals

end OlNode
