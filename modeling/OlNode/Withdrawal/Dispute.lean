import OlNode.Withdrawal.Frame

/-!
# A dispute holds the withdrawal

Operations and job firings one at a time. While a withdrawal is DISPUTED only an admin decides what
becomes of it. Two of the three auto-completions look at the withdrawal's status again;
`autoCompleteWaiting` looks at the assignment, which stays WAITING during a dispute, so the hold
rests on the removal of its job.
-/
namespace OlNode.Withdrawals

open ReadCommitted

/-- The admin's ways to end a dispute: the four resolutions and the reversal. -/
def Request.decides : Request → Bool
  | .resolvePlatformPaid .. | .resolvePlatformRefund .. | .favourAgent .. | .favourHost ..
  | .reverse .. => true
  | _ => false

/-- `autoCompleteWaiting` is only ever called by the job that ends the waiting period. -/
def Request.viaJob : Request → Bool
  | .autoComplete .. => false
  | _ => true

def Disputed (db : WithdrawalDb) : Prop := ∃ w, db.withdrawal = some w ∧ w.status = .disputed

instance (db : WithdrawalDb) : Decidable (Disputed db) :=
  decidable_of_iff (db.withdrawal.map (·.status) = some .disputed) (by simp [Disputed])

/-- In a run of such requests, what is not a decision leaves a disputed withdrawal disputed and
writes no ledger row for it. -/
def DisputeHolds (id : Nat) (ok : Request → Prop) : Prop :=
  ∀ db s request, Uncreated id db → Ran id ok db s → ok request → request.decides = false →
    Disputed s → Disputed ((handler id request).call s).2 ∧
      ((handler id request).call s).2.own id = s.own id

/-! ### The job of a disputed assignment -/

/-- No job is queued that would end the waiting period of a disputed withdrawal. -/
def NoStaleJob (db : WithdrawalDb) : Prop :=
  Disputed db → ∀ a ∈ db.assignments, a.status = .waiting → .waiting a.id ∉ db.jobs

private theorem noStaleJob_frame :
    Frame False True fun f => ∀ db, NoStaleJob db → NoStaleJob (f db) where
  row f keeps _ db clear disputed := by
    obtain ⟨w', row, status⟩ := disputed
    obtain ⟨w, found, rfl⟩ := Option.map_eq_some_iff.mp row
    exact clear ⟨w, found, keeps w status⟩
  create _ w other db _ disputed := by
    obtain ⟨w', row, status⟩ := disputed
    cases row
    exact absurd status other
  assignment id u allowed db clear disputed a member waiting := by
    obtain ⟨b, old, rfl⟩ := List.mem_map.mp member
    split at waiting
    next => exact (allowed waiting).elim
    next other =>
      rw [if_neg other]
      exact clear disputed b old waiting
  insert b allowed db clear disputed a member waiting := by
    rcases List.mem_append.mp member with old | new
    · exact clear disputed a old waiting
    · rw [List.mem_singleton.mp new] at waiting
      exact (allowed waiting).elim
  money f db clear := clear
  enqueue job allowed db clear := by
    dsimp only
    split
    · exact clear
    · intro disputed a member waiting queued
      rcases List.mem_cons.mp queued with same | before
      · exact allowed ⟨a.id, same.symm⟩
      · exact clear disputed a member waiting before
  remove removed job db clear := by
    dsimp only
    split
    · intro disputed a member waiting queued
      exact clear disputed a member waiting (List.mem_filter.mp queued).1
    · exact clear

def Undisputed (db : WithdrawalDb) : Prop := ∀ w ∈ db.withdrawal, w.status ≠ .disputed

private theorem undisputed_frame : Frame True True fun f =>
    ∀ db, Undisputed db → Undisputed (f db) where
  row f keeps _ db undisputed w' row := by
    obtain ⟨w, found, rfl⟩ := Option.map_eq_some_iff.mp row
    exact fun disputed => undisputed w found (keeps w disputed)
  create _ w other db _ w' row := by
    cases row
    exact other
  assignment id u allowed db undisputed := undisputed
  insert a allowed db undisputed := undisputed
  money f db undisputed := undisputed
  enqueue job allowed db undisputed := by
    dsimp only
    split <;> exact undisputed
  remove removed job db undisputed := by
    dsimp only
    split <;> exact undisputed

theorem not_disputed_iff {db : WithdrawalDb} : ¬ Disputed db ↔ Undisputed db := by
  constructor
  · intro undisputed w row disputed
    exact undisputed ⟨w, row, disputed⟩
  · rintro undisputed ⟨w, row, disputed⟩
    exact undisputed w row disputed

/-! ### While disputed -/

section Held

variable {id : Nat} {s : WithdrawalDb} {w : Withdrawal} {a : PayrollAssignment}
  {assignmentId : AssignmentId}

private theorem not_pending (inv : Inv False id s) (row : s.withdrawal = some w)
    (disputed : w.status = .disputed) (found : s.assignment assignmentId = some a) :
    a.status ≠ .pending := by
  intro pending
  obtain ⟨w', dead, sn, -⟩ := inv.current_of_found found (by simp [pending])
  cases sn.row.symm.trans row
  obtain ⟨-, status, -⟩ := sn.stage.of_pending pending
  simp [disputed] at status

variable {env : Environment}

private theorem held_assign {opts : AssignOptions} (row : s.withdrawal = some w)
    (disputed : w.status = .disputed) :
    ((assignToAgency env opts).call s).2 = s := by
  rw [assignToAgency, Prog.call_transaction_bind]
  cases platform : isPlatformHandledWithdrawal w <;>
    simp [assignToAgencyTx, row, disputed, platform, afterAssign]

private theorem held_slaExpiry (inv : Inv False id s) (row : s.withdrawal = some w)
    (disputed : w.status = .disputed) :
    ((processSlaExpiry env assignmentId).call s).2 = s := by
  rw [processSlaExpiry, Prog.call_select_bind]
  cases found : s.assignment assignmentId with
  | none => rfl
  | some a => simp [not_pending inv row disputed found]

private theorem held_agentReject {agent : UserId} {reason : Option String} (inv : Inv False id s)
    (row : s.withdrawal = some w) (disputed : w.status = .disputed) :
    ((agentRejectPayroll env agent assignmentId reason).call s).2 = s := by
  rw [agentRejectPayroll, Prog.call_transaction_bind, agentRejectPayrollTx, Tx.eval_select_bind]
  cases found : (s.assignment assignmentId).filter fun a => decide (a.agencyUserId = agent) with
  | none => rfl
  | some a =>
    have notPending := not_pending inv row disputed (Option.filter_eq_some_iff.mp found).1
    by_cases waiting : a.status = .waiting <;> simp [notPending, waiting]

variable {proof : ProofKey}

private theorem held_agentComplete {agent : UserId} (inv : Inv False id s)
    (row : s.withdrawal = some w) (disputed : w.status = .disputed) :
    ((agentCompletePayroll env agent assignmentId proof).call s).2 = s := by
  rw [agentCompletePayroll, Prog.call_ensure_bind]
  split
  · rw [Prog.call_transaction_bind, agentCompletePayrollTx, Tx.eval_select_bind]
    cases found : (s.assignment assignmentId).filter fun a => decide (a.agencyUserId = agent) with
    | none => rfl
    | some a =>
      have notPending := not_pending inv row disputed (Option.filter_eq_some_iff.mp found).1
      by_cases waiting : a.status = .waiting <;> simp [notPending, waiting]
  · rfl

section

variable (row : s.withdrawal = some w) (disputed : w.status = .disputed)
include row disputed

private theorem held_completePlatform :
    ((adminCompletePlatformPayout env id proof).call s).2 = s := by
  rw [adminCompletePlatformPayout, Prog.call_ensure_bind]
  split
  · rw [Prog.call_transaction_bind]
    cases platform : isPlatformHandledWithdrawal w <;>
      simp [adminCompletePlatformPayoutTx, row, disputed, platform]
  · rfl

private theorem held_completeTakeover :
    ((adminCompletePayrollTakeover env id proof).call s).2 = s := by
  rw [adminCompletePayrollTakeover, Prog.call_ensure_bind]
  split
  · unfold requireCompanyAgencyUserId
    split
    · rw [Prog.call_pure_bind, Prog.call_transaction_bind]
      cases platform : isPlatformHandledWithdrawal w <;>
        simp [adminCompletePayrollTakeoverTx, row, disputed, platform]
    · rfl
  · rfl

private theorem held_completeForAgency {agency : UserId} {reason : Option String} :
    ((adminCompletePayrollForAgency env id agency proof reason).call s).2 = s := by
  rw [adminCompletePayrollForAgency, Prog.call_ensure_bind]
  split
  · rw [Prog.call_transaction_bind]
    cases platform : isPlatformHandledWithdrawal w <;>
      simp [adminCompletePayrollForAgencyTx, row, disputed, platform]
  · rfl

end

private theorem held_waitingJob (clear : NoStaleJob s) (row : s.withdrawal = some w)
    (disputed : w.status = .disputed) :
    ((processWaitingAutoComplete env assignmentId).call s).2 = s := by
  rw [processWaitingAutoComplete, Prog.call_select_bind, Prog.call_select_bind]
  cases found : s.assignment assignmentId with
  | none => rfl
  | some a =>
    dsimp only
    split
    next due =>
      obtain ⟨queued, waiting, -⟩ := due
      have same : a.id = assignmentId := by simpa using List.find?_some found
      have absent := clear ⟨w, row, disputed⟩ a (List.mem_of_find?_eq_some found) waiting
      rw [same] at absent
      exact absurd (by simpa using queued) absent
    next => rfl

private theorem held_dispute {host : UserId} {ticketId : Nat} (row : s.withdrawal = some w)
    (disputed : w.status = .disputed) :
    ((disputeWithdrawal env host ticketId).call s).2 = s := by
  rw [disputeWithdrawal, Prog.call_select_bind, row]
  by_cases owner : w.userId = host
  · rw [Option.filter_some_pos (by simp [owner])]
    cases ticket : w.disputeTicketId <;> simp [disputed, ticket]
  · rw [Option.filter_some_neg (by simp [owner])]
    rfl

private theorem held {request : Request} (inv : Inv False id s) (clear : NoStaleJob s)
    (row : s.withdrawal = some w) (disputed : w.status = .disputed)
    (undecided : request.decides = false) (viaJob : request.viaJob = true) :
    ((handler id request).call s).2 = s ∨ ∃ money, ((handler id request).call s).2 =
      s.setMoney money ∧ (s.setMoney money).own id = s.own id := by
  cases request with
  | elsewhere change =>
    rw [handler, elsewhere, Prog.call_autocommit]
    dsimp only
    split
    next own => exact .inr ⟨_, rfl, own⟩
    next => exact .inl rfl
  | create env input =>
    left
    rw [handler, createWithdrawal, Prog.call_select_bind, row]
    rfl
  | assign env opts => exact .inl (held_assign row disputed)
  | slaExpiry env assignmentId => exact .inl (held_slaExpiry inv row disputed)
  | agentReject env agent assignmentId reason => exact .inl (held_agentReject inv row disputed)
  | agentComplete env agent assignmentId proof => exact .inl (held_agentComplete inv row disputed)
  | completePlatform env proof => exact .inl (held_completePlatform row disputed)
  | completeTakeover env proof => exact .inl (held_completeTakeover row disputed)
  | completeForAgency env agency proof reason =>
    exact .inl (held_completeForAgency row disputed)
  | autoComplete env assignmentId => simp [Request.viaJob] at viaJob
  | waitingJob env assignmentId => exact .inl (held_waitingJob clear row disputed)
  | platformWaitingJob env =>
    left
    simp [handler, processPlatformWaitingAutoComplete, row, disputed]
  | requeuePlatformWaiting env =>
    left
    simp [handler, requeuePlatformWaiting, row, disputed]
  | dispute env host ticketId => exact .inl (held_dispute row disputed)
  | resolvePlatformPaid env => simp [Request.decides] at undecided
  | resolvePlatformRefund env reason => simp [Request.decides] at undecided
  | favourAgent env => simp [Request.decides] at undecided
  | favourHost env reason override => simp [Request.decides] at undecided
  | reverse env reason bypass => simp [Request.decides] at undecided

end Held

/-! ### Raising the dispute -/

/-- The removal of the waiting-period job that goes with a dispute takes effect. -/
def Request.removesJob : Request → Prop
  | .dispute env _ _ => ∀ assignmentId, env.removed (.waiting assignmentId) = true
  | _ => True

private theorem waitingAssignment_of_mem {id : Nat} {s : WithdrawalDb} {a : PayrollAssignment}
    (inv : Inv False id s) (member : a ∈ s.assignments) (waiting : a.status = .waiting) :
    s.waitingAssignment = some a := by
  rcases inv with un | ⟨w, dead, current, sn⟩
  · simp [un.assignments] at member
  · rw [sn.assignments, List.mem_append, Option.mem_toList] at member
    rcases member with inDead | isCurrent
    · rcases sn.closed a inDead with rejected | expired
      · simp [waiting] at rejected
      · simp [waiting] at expired
    · rw [sn.waitingAssignment, isCurrent, Option.filter_some_pos (by simp [waiting])]

private theorem removeJobs_noStaleJob {id : Nat} {s : WithdrawalDb} {env : Environment}
    {f : Withdrawal → Withdrawal} {condition : Prop} [Decidable condition]
    (inv : Inv False id s)
    (removed : ∀ assignmentId, env.removed (.waiting assignmentId) = true) :
    NoStaleJob ((do
      removeFor env .waiting (s.waitingAssignment.map (·.id))
      Prog.when condition (remove env.removed .platformWaiting) : WithdrawalProg Unit).call
        (s.modify f)).2 := by
  have last : ∀ db, NoStaleJob db → NoStaleJob ((Prog.when condition
      (remove env.removed .platformWaiting) : WithdrawalProg Unit).call db).2 := by
    intro db clear
    refine (Prog.writes_when (Prog.writes_transaction ?_)).call clear
    exact (Tx.writes_update _ _).mpr (noStaleJob_frame.remove env.removed .platformWaiting)
  cases waiting : s.waitingAssignment with
  | none =>
    refine last (s.modify f) ?_
    intro _ a member isWaiting
    rw [waitingAssignment_of_mem inv member isWaiting] at waiting
    cases waiting
  | some b =>
    change NoStaleJob (((remove env.removed (.waiting b.id) : WithdrawalProg Unit) >>=
      fun _ => Prog.when condition (remove env.removed .platformWaiting)).call (s.modify f)).2
    rw [remove, Prog.call_autocommit_bind, if_pos (removed b.id)]
    refine last _ ?_
    intro _ a member isWaiting queued
    rw [waitingAssignment_of_mem inv member isWaiting] at waiting
    cases waiting
    simp at queued

private theorem dispute_noStaleJob {id : Nat} {s : WithdrawalDb} {env : Environment} {host : UserId}
    {ticketId : Nat} (inv : Inv False id s) (undisputed : Undisputed s)
    (removed : ∀ assignmentId, env.removed (.waiting assignmentId) = true) :
    NoStaleJob ((disputeWithdrawal env host ticketId).call s).2 := by
  have unchanged : NoStaleJob s := fun disputed => absurd disputed (not_disputed_iff.mpr undisputed)
  rw [disputeWithdrawal, Prog.call_select_bind]
  cases found : s.withdrawal.filter fun w => decide (w.userId = host) with
  | none => exact unchanged
  | some w =>
    simp only [Option.map_some, Prog.call_ensure_bind]
    split
    · split
      · split
        · split
          · rw [Prog.call_autocommit_bind]
            exact removeJobs_noStaleJob inv removed
          · exact unchanged
        · exact unchanged
      · exact unchanged
    · exact unchanged

/-! ### Whole runs -/

/-- The job that ends the waiting period is gone whenever a withdrawal is disputed. -/
theorem Ran.clear {id : Nat} {db s : WithdrawalDb}
    (run : Ran id (fun request => request.viaJob = true ∧ request.removesJob) db s)
    (start : Uncreated id db) : Inv False id s ∧ NoStaleJob s := by
  induction run with
  | start =>
    refine ⟨.inl start, ?_⟩
    rintro ⟨w, row, -⟩
    simp [start.row] at row
  | @call s request before allowed ih =>
    obtain ⟨inv, clear⟩ := ih
    refine ⟨call_inv request inv, ?_⟩
    by_cases disputed : Disputed s
    · obtain ⟨w, row, status⟩ := disputed
      by_cases undecided : request.decides = false
      · rcases held inv clear row status undecided allowed.1 with same | ⟨money, same, -⟩
        · rwa [same]
        · rw [same]
          exact clear
      · -- A decision starts no waiting period and queues no job.
        have quiet : request.isDispute = false ∧ request.provesPayout = false := by
          cases request <;> simp_all [Request.decides, Request.isDispute, Request.provesPayout]
        exact (handler_writes noStaleJob_frame id request quiet.1 (by simp [quiet.2])
          fun _ => trivial).call clear
    · have undisputed := not_disputed_iff.mp disputed
      by_cases raises : request.isDispute = false
      · have after := (handler_writes undisputed_frame id request raises (fun _ => trivial)
          fun _ => trivial).call undisputed
        exact fun disputed => absurd disputed (not_disputed_iff.mpr after)
      · cases request with
        | dispute env host ticketId => exact dispute_noStaleJob inv undisputed allowed.2
        | _ => simp [Request.isDispute] at raises

/-- The hold works as long as each dispute really removes the waiting-period job. -/
theorem dispute_holds (id : Nat) :
    DisputeHolds id fun request => request.viaJob = true ∧ request.removesJob := by
  intro db s request start run allowed undecided disputed
  obtain ⟨inv, clear⟩ := run.clear start
  obtain ⟨w, row, status⟩ := disputed
  rcases held inv clear row status undecided allowed.1 with same | ⟨money, same, own⟩
  · rw [same]
    exact ⟨⟨w, row, status⟩, rfl⟩
  · rw [same]
    exact ⟨⟨w, row, status⟩, own⟩

/-- Disputed while the agency's proof is under review; the queue answers `removed`. -/
def disputedWhileWaiting (removed : Bool) : List Request :=
  [.create morning bankInput, .agentComplete morning 2 ⟨7, 0⟩ proofSeven,
    .dispute { morning with removed := fun _ => removed } 1 0]

theorem dispute_holds_waitingJob :
    Disputed ((handler 7 (.waitingJob evening ⟨7, 0⟩)).call
      (serveAll 7 (disputedWhileWaiting true) fundedDb)).2 := by
  have run : Ran 7 (fun request => request.viaJob = true ∧ request.removesJob) fundedDb
      (serveAll 7 (disputedWhileWaiting true) fundedDb) := by
    refine Ran.start.all _ ?_
    simp [disputedWhileWaiting, Request.viaJob, Request.removesJob]
  have disputed : Disputed (serveAll 7 (disputedWhileWaiting true) fundedDb) := by
    decide
  exact (dispute_holds 7 _ _ (.waitingJob evening ⟨7, 0⟩) (fundedDb_uncreated 7) run
    ⟨rfl, trivial⟩ rfl disputed).1

/-- When the removal failed the job fires, and the disputed withdrawal is PAID. -/
theorem not_dispute_holds : ¬ DisputeHolds 7 fun request => request.viaJob = true := by
  intro claim
  have run : Ran 7 (fun request => request.viaJob = true) fundedDb
      (serveAll 7 (disputedWhileWaiting false) fundedDb) := by
    refine Ran.start.all _ ?_
    simp [disputedWhileWaiting, Request.viaJob]
  have disputed : Disputed (serveAll 7 (disputedWhileWaiting false) fundedDb) := by
    decide
  have still := (claim _ _ (.waitingJob evening ⟨7, 0⟩) (fundedDb_uncreated 7) run rfl rfl disputed).1
  have paid : ¬ Disputed ((handler 7 (.waitingJob evening ⟨7, 0⟩)).call
      (serveAll 7 (disputedWhileWaiting false) fundedDb)).2 := by decide
  exact paid still

end OlNode.Withdrawals
