import OlNode.Withdrawal.Reversal

/-!
# Every request of one withdrawal

The requests that can be served for withdrawal `id`, and the rule each of their handlers obeys: as
long as its commits rest on nothing stale, the invariant is kept.
-/
namespace OlNode.Withdrawals

open ReadCommitted

inductive Request where
  | create (env : Environment) (input : CreateWithdrawalInput)
  | assign (env : Environment) (opts : AssignOptions)
  | slaExpiry (env : Environment) (assignmentId : AssignmentId)
  | agentReject (env : Environment) (agentUserId : UserId) (assignmentId : AssignmentId)
      (reason : Option String)
  | agentComplete (env : Environment) (agentUserId : UserId) (assignmentId : AssignmentId)
      (proof : ProofKey)
  | completePlatform (env : Environment) (proof : ProofKey)
  | completeTakeover (env : Environment) (proof : ProofKey)
  | completeForAgency (env : Environment) (agencyUserId : UserId) (proof : ProofKey)
      (reason : Option String)
  | autoComplete (env : Environment) (assignmentId : AssignmentId)
  | waitingJob (env : Environment) (assignmentId : AssignmentId)
  | platformWaitingJob (env : Environment)
  | requeuePlatformWaiting (env : Environment)
  | dispute (env : Environment) (hostUserId : UserId) (ticketId : Nat)
  | resolvePlatformPaid (env : Environment)
  | resolvePlatformRefund (env : Environment) (reason : String)
  | favourAgent (env : Environment)
  | favourHost (env : Environment) (reason : String) (overrideAgencyUserId : Option UserId)
  | reverse (env : Environment) (reason : String) (bypassAgeLimit : Bool)
  /-- Whatever the other services do to the money tables. -/
  | elsewhere (change : MoneyDb → MoneyDb)

/-- A change of the money tables that writes no row for withdrawal `id`. -/
def elsewhere (id : Nat) (change : MoneyDb → MoneyDb) : WithdrawalProg Unit :=
  Prog.autocommit .job fun db =>
    if (db.setMoney (change db.money)).own id = db.own id then db.setMoney (change db.money)
    else db

/-- `autoCompletePlatformWaiting` and `autoCompleteTakeoverWaiting` have one caller, the job. -/
def handler (id : Nat) : Request → WithdrawalProg Unit
  | .create env input => createWithdrawal env id input
  | .assign env opts => assignToAgency env opts
  | .slaExpiry env assignmentId => processSlaExpiry env assignmentId
  | .agentReject env agentUserId assignmentId reason =>
    agentRejectPayroll env agentUserId assignmentId reason
  | .agentComplete env agentUserId assignmentId proof =>
    agentCompletePayroll env agentUserId assignmentId proof
  | .completePlatform env proof => adminCompletePlatformPayout env id proof
  | .completeTakeover env proof => adminCompletePayrollTakeover env id proof
  | .completeForAgency env agencyUserId proof reason =>
    adminCompletePayrollForAgency env id agencyUserId proof reason
  | .autoComplete env assignmentId => autoCompleteWaiting env assignmentId
  | .waitingJob env assignmentId => processWaitingAutoComplete env assignmentId
  | .platformWaitingJob env => processPlatformWaitingAutoComplete env
  | .requeuePlatformWaiting env => requeuePlatformWaiting env
  | .dispute env hostUserId ticketId => disputeWithdrawal env hostUserId ticketId
  | .resolvePlatformPaid env => adminResolvePlatformDisputePaid env
  | .resolvePlatformRefund env reason => adminResolvePlatformDisputeRefund env reason
  | .favourAgent env => adminResolveDisputeFavourAgent env
  | .favourHost env reason overrideAgencyUserId =>
    adminResolveDisputeFavourHost env reason overrideAgencyUserId
  | .reverse env reason bypassAgeLimit => (adminReverseWithdrawal env reason bypassAgeLimit).forget
  | .elsewhere change => elsewhere id change

def Request.isReversal : Request → Bool
  | .reverse .. => true
  | _ => false

section Handlers

variable {strict : Prop} {id : Nat} {allowed : WithdrawalDb → Prop} {base s s' : WithdrawalDb}
  {env : Environment}

/-- The rule of `Good` for handlers of this withdrawal. -/
abbrev Serves (strict : Prop) (id : Nat) (allowed : WithdrawalDb → Prop) (base : WithdrawalDb)
    (p : WithdrawalProg Unit) : Prop :=
  Good allowed (Inv strict id) Grows base p

private theorem serves_transaction {α : Type} {body : WithdrawalTx α} {k : α → WithdrawalProg Unit}
    (keeps : ∀ s a s', Inv strict id s → body.eval s = .ok (a, s') → Keeps strict id s s')
    (rest : ∀ a base, Serves strict id allowed base (k a)) :
    Serves strict id allowed base (Prog.transaction body >>= k) := by
  refine Good.transaction ?_
  intro s a s' _ inv _ ran
  have kept := keeps s a s' inv ran
  exact ⟨kept.1, kept.2, rest a s'⟩

private theorem serves_last {body : WithdrawalTx Unit}
    (keeps : ∀ s s', Inv strict id s → Grows base s → body.eval s = .ok ((), s') →
      Keeps strict id s s') :
    Serves strict id allowed base (Prog.transaction body) := by
  rw [Prog.transaction_eq_bind]
  refine Good.transaction ?_
  intro s _ s' _ inv since ran
  have kept := keeps s s' inv since ran
  exact ⟨kept.1, kept.2, .done s' _⟩

private theorem serves_remove (removed : PayrollJob → Bool) (job : PayrollJob) :
    Serves strict id allowed base (remove removed job) := by
  refine serves_last ?_
  intro s s' inv _ ran
  cases ran
  split
  · exact jobs_keeps inv fun queued => .inl ((List.mem_filter.mp queued).1)
  · exact .same inv

variable {k : Unit → WithdrawalProg Unit}

private theorem serves_remove_bind {removed : PayrollJob → Bool} {job : PayrollJob}
    (rest : ∀ base, Serves strict id allowed base (k ())) :
    Serves strict id allowed base (remove removed job >>= k) := by
  refine serves_transaction ?_ fun _ base => rest base
  intro s _ s' inv ran
  cases ran
  split
  · exact jobs_keeps inv fun queued => .inl ((List.mem_filter.mp queued).1)
  · exact .same inv

private theorem serves_removeFor_bind {job : AssignmentId → PayrollJob}
    {assignmentId : Option AssignmentId} (rest : ∀ base, Serves strict id allowed base (k ())) :
    Serves strict id allowed base (removeFor env job assignmentId >>= k) := by
  cases assignmentId with
  | none => exact rest base
  | some _ => exact serves_remove_bind rest

private theorem enqueue_keeps {job : PayrollJob} (inv : Inv strict id s)
    (set : job = .platformWaiting → ∃ w, s.withdrawal = some w ∧ w.waitingExpiresAt.isSome) :
    Keeps strict id s (if job ∈ s.jobs then s else { s with jobs := job :: s.jobs }) := by
  split
  · exact .same inv
  · refine jobs_keeps inv ?_
    intro queued
    rcases List.mem_cons.mp queued with same | before
    · exact .inr (set same.symm)
    · exact .inl before

private theorem serves_enqueue {job : PayrollJob} (other : job ≠ .platformWaiting) :
    Serves strict id allowed base (enqueue job) := by
  refine serves_last ?_
  intro s s' inv _ ran
  cases ran
  exact enqueue_keeps inv fun same => absurd same other

private theorem serves_enqueue_company {w : Withdrawal} (row : base.withdrawal = some w)
    (set : w.waitingExpiresAt.isSome) :
    Serves strict id allowed base (enqueue .platformWaiting) := by
  refine serves_last ?_
  intro s s' inv since ran
  cases ran
  obtain ⟨w', row', -, stillSet⟩ := since w row
  exact enqueue_keeps inv fun _ => ⟨w', row', stillSet set⟩

private theorem serves_when {condition : Prop} [Decidable condition] {p : WithdrawalProg Unit}
    (good : Serves strict id allowed base p) :
    Serves strict id allowed base (Prog.when condition p) := by
  unfold Prog.when
  split
  · exact good
  · exact .done base _

private theorem serves_ensure {condition : Bool} {error : LedgerError}
    (rest : condition = true → Serves strict id allowed base (k ())) :
    Serves strict id allowed base (Prog.ensure condition error >>= k) := by
  cases condition with
  | false => exact .fail base error
  | true => exact rest rfl

/-! ### Assignment -/

private theorem serves_afterAssign {opts : AssignOptions} (outcome : AssignOutcome) :
    Serves strict id allowed base (afterAssign opts outcome) := by
  cases outcome with
  | nothing => exact .done base _
  | alreadyAssigned =>
    rw [afterAssign]
    split
    · exact .fail base _
    · exact .done base _
  | selfAssignBlocked => exact .fail base _
  | overrideNotFound => exact .fail base _
  | overrideIneligible => exact .fail base _
  | countryMismatch => exact .fail base _
  | assigned assignmentId => exact serves_enqueue (by simp)

theorem assignToAgency_serves (env : Environment) (opts : AssignOptions) :
    Serves strict id allowed base (assignToAgency env opts) :=
  serves_transaction (fun _ _ _ inv ran => assignToAgencyTx_keeps inv ran)
    fun outcome _ => serves_afterAssign outcome

theorem agentRejectPayroll_serves (env : Environment) (agentUserId : UserId)
    (assignmentId : AssignmentId) (reason : Option String) :
    Serves strict id allowed base (agentRejectPayroll env agentUserId assignmentId reason) :=
  serves_transaction (fun _ _ _ inv ran => agentRejectPayrollTx_keeps inv ran)
    fun _ _ => serves_remove_bind fun _ => serves_when (assignToAgency_serves env {})

theorem agentCompletePayroll_serves (env : Environment) (agentUserId : UserId)
    (assignmentId : AssignmentId) (proof : ProofKey) :
    Serves strict id allowed base (agentCompletePayroll env agentUserId assignmentId proof) :=
  serves_ensure fun _ =>
    serves_transaction (fun _ _ _ inv ran => agentCompletePayrollTx_keeps inv ran)
      fun _ _ => serves_remove_bind fun _ => serves_enqueue (by simp)

private theorem serves_select {α : Type} {q : WithdrawalDb → α} {k : α → WithdrawalProg Unit}
    (rest : ∀ a, Serves strict id allowed base (k a)) :
    Serves strict id allowed base (Prog.select q >>= k) :=
  .of_commitsAt (fun s may inv since => .select ((rest (q s)).commitsAt may inv since))
    (.select fun a => (rest a).rollsTo)

theorem processSlaExpiry_serves (env : Environment) (assignmentId : AssignmentId) :
    Serves strict id allowed base (processSlaExpiry env assignmentId) := by
  refine serves_select ?_
  intro row
  cases row with
  | none => exact .done base _
  | some a =>
    dsimp only
    split
    · exact .done base _
    · exact serves_transaction (fun _ _ _ inv ran => processSlaExpiryTx_keeps inv ran)
        fun _ _ => serves_remove_bind fun _ => serves_when (assignToAgency_serves env {})

/-! ### Admin completion -/

theorem adminCompletePlatformPayout_serves (env : Environment) (proof : ProofKey) :
    Serves strict id allowed base (adminCompletePlatformPayout env id proof) := by
  refine serves_ensure fun _ => Good.transaction ?_
  intro s _ s' _ inv _ ran
  have kept := adminCompletePlatformPayoutTx_keeps inv ran
  obtain ⟨w, row, set⟩ := adminCompletePlatformPayoutTx_sets ran
  exact ⟨kept.1, kept.2, serves_enqueue_company row set⟩

theorem adminCompletePayrollTakeover_serves (env : Environment) (proof : ProofKey) :
    Serves strict id allowed base (adminCompletePayrollTakeover env id proof) := by
  refine serves_ensure fun _ => ?_
  unfold requireCompanyAgencyUserId
  split
  · refine Good.transaction ?_
    intro s _ s' _ inv _ ran
    have kept := adminCompletePayrollTakeoverTx_keeps inv ran
    obtain ⟨w, row, set⟩ := adminCompletePayrollTakeoverTx_sets ran
    exact ⟨kept.1, kept.2, serves_enqueue_company row set⟩
  · exact .fail base _

theorem adminCompletePayrollForAgency_serves (env : Environment) (agencyUserId : UserId)
    (proof : ProofKey) (reason : Option String) :
    Serves strict id allowed base
      (adminCompletePayrollForAgency env id agencyUserId proof reason) :=
  serves_ensure fun _ =>
    serves_transaction (fun _ _ _ inv ran => adminCompletePayrollForAgencyTx_keeps inv ran)
      fun _ _ => serves_removeFor_bind fun _ => serves_enqueue (by simp)

/-! ### Settlement -/

theorem autoCompleteWaiting_serves (env : Environment) (assignmentId : AssignmentId) :
    Serves strict id allowed base (autoCompleteWaiting env assignmentId) := by
  refine .of_commitsAt ?_ ?_
  · intro s _ inv _
    refine .select ?_
    cases fresh : s.assignmentWithWithdrawal assignmentId with
    | none => exact .done s _
    | some pre =>
      refine .transaction ?_
      intro _ s' ran
      have kept := autoCompleteWaitingTx_keeps inv fresh ran
      exact ⟨kept.1, kept.2, serves_remove _ _⟩
  · refine .select ?_
    intro pre
    cases pre with
    | none => exact .done base _
    | some pre => exact .transaction

theorem processWaitingAutoComplete_serves (env : Environment) (assignmentId : AssignmentId) :
    Serves strict id allowed base (processWaitingAutoComplete env assignmentId) := by
  refine serves_select fun queued => serves_select fun row => ?_
  cases row with
  | none => exact .done base _
  | some a =>
    dsimp only
    split
    · exact autoCompleteWaiting_serves env assignmentId
    · exact .done base _

theorem autoCompletePlatformWaiting_serves (env : Environment) :
    Serves strict id allowed base (autoCompletePlatformWaiting env) := by
  refine serves_select ?_
  intro pre
  cases pre with
  | none => exact .done base _
  | some pre =>
    dsimp only
    split
    · exact serves_transaction (fun _ _ _ inv ran => autoCompletePlatformWaitingTx_keeps inv ran)
        fun _ _ => serves_remove _ _
    · exact .done base _

private theorem requireCompanyAgencyUserId_commitsAt {k : UserId → WithdrawalProg Unit}
    (rest : ∀ company, CommitsAt allowed (Inv strict id) Grows s (k company)) :
    CommitsAt allowed (Inv strict id) Grows s (requireCompanyAgencyUserId env >>= k) := by
  unfold requireCompanyAgencyUserId
  split
  · exact rest _
  · exact .fail s _

private theorem requireCompanyAgencyUserId_rollsTo {k : UserId → WithdrawalProg Unit}
    (rest : ∀ company, RollsTo allowed (Inv strict id) Grows base (k company)) :
    RollsTo allowed (Inv strict id) Grows base (requireCompanyAgencyUserId env >>= k) := by
  unfold requireCompanyAgencyUserId
  split
  · exact rest _
  · exact .fail base _

private theorem autoCompleteTakeoverWaiting_commitsAt (env : Environment) (inv : Inv strict id s)
    (queued : .platformWaiting ∈ s.jobs) :
    CommitsAt allowed (Inv strict id) Grows s (autoCompleteTakeoverWaiting env) := by
  refine .select ?_
  cases row : s.withdrawal with
  | none => exact .done s _
  | some w =>
    dsimp only
    split
    · refine requireCompanyAgencyUserId_commitsAt fun company => .transaction ?_
      intro _ s' ran
      obtain ⟨dead, current, sn⟩ := inv.of_row row
      have kept := autoCompleteTakeoverWaitingTx_keeps inv row (sn.job queued) ran
      exact ⟨kept.1, kept.2, serves_remove _ _⟩
    · exact .done s _

private theorem autoCompleteTakeoverWaiting_rollsTo (env : Environment) :
    RollsTo allowed (Inv strict id) Grows base (autoCompleteTakeoverWaiting env) := by
  refine .select ?_
  intro pre
  cases pre with
  | none => exact .done base _
  | some pre =>
    dsimp only
    split
    · exact requireCompanyAgencyUserId_rollsTo fun _ => .transaction
    · exact .done base _

theorem processPlatformWaitingAutoComplete_serves (env : Environment) :
    Serves strict id allowed base (processPlatformWaitingAutoComplete env) := by
  refine .of_commitsAt ?_ ?_
  · intro s may inv since
    refine .select (.select ?_)
    cases row : s.withdrawal with
    | none => exact .done s _
    | some w =>
      dsimp only
      split
      next due =>
        split
        · exact (autoCompletePlatformWaiting_serves env).commitsAt may inv since
        · exact autoCompleteTakeoverWaiting_commitsAt env inv (by simpa using due.1)
      next => exact .done s _
  · refine .select fun queued => .select fun row => ?_
    cases row with
    | none => exact .done base _
    | some w =>
      dsimp only
      split
      · split
        · exact (autoCompletePlatformWaiting_serves env).rollsTo
        · exact autoCompleteTakeoverWaiting_rollsTo env
      · exact .done base _

theorem requeuePlatformWaiting_serves (env : Environment) :
    Serves strict id allowed base (requeuePlatformWaiting env) := by
  refine .of_commitsAt ?_ ?_
  · intro s may inv _
    refine .select ?_
    cases row : s.withdrawal with
    | none => exact .done s _
    | some w =>
      dsimp only
      split
      next overdue =>
        have set : w.waitingExpiresAt.isSome := by
          cases expires : w.waitingExpiresAt with
          | none => simp [expires] at overdue
          | some t => rfl
        exact (serves_enqueue_company row set).commitsAt may inv (.refl s)
      next => exact .done s _
  · refine .select fun row => ?_
    cases row with
    | none => exact .done base _
    | some w =>
      dsimp only
      split
      · rw [enqueue, Prog.autocommit, Prog.transaction_eq_bind]
        exact .transaction
      · exact .done base _

/-! ### Disputes -/

theorem disputeWithdrawal_serves (env : Environment) (hostUserId : UserId) (ticketId : Nat) :
    Serves strict id allowed base (disputeWithdrawal env hostUserId ticketId) := by
  refine .of_commitsAt ?_ ?_
  · intro s may inv _
    refine .select ?_
    cases found : (s.withdrawal.filter fun w => decide (w.userId = hostUserId)) with
    | none => exact .fail s _
    | some w =>
      refine .ensure fun _ => .ensure fun accepted => .ensure fun _ => .ensure fun _ => ?_
      refine .transaction ?_
      intro _ s' ran
      cases ran
      have row := (Option.filter_eq_some_iff.mp found).1
      have kept := dispute_keeps ticketId inv row accepted
      exact ⟨kept.1, kept.2, serves_removeFor_bind fun _ => serves_when (serves_remove _ _)⟩
  · refine .select fun found => ?_
    cases found with
    | none => exact .fail base _
    | some found => exact .ensure (.ensure (.ensure (.ensure .transaction)))

theorem adminResolvePlatformDisputePaid_serves (env : Environment) :
    Serves strict id allowed base (adminResolvePlatformDisputePaid env) := by
  refine .of_commitsAt ?_ ?_
  · intro s _ inv _
    refine .select ?_
    cases row : s.withdrawal with
    | none => exact .fail s _
    | some w =>
      refine .ensure fun disputed => .transaction ?_
      intro _ s' ran
      have platform : isPlatformHandledWithdrawal w = true := (Bool.and_eq_true_iff.mp disputed).2
      have kept := adminResolvePlatformDisputePaidTx_keeps inv row platform ran
      exact ⟨kept.1, kept.2, serves_remove _ _⟩
  · refine .select fun row => ?_
    cases row with
    | none => exact .fail base _
    | some w => exact .ensure .transaction

theorem adminResolvePlatformDisputeRefund_serves (env : Environment) (reason : String) :
    Serves strict id allowed base (adminResolvePlatformDisputeRefund env reason) := by
  refine .of_commitsAt ?_ ?_
  · intro s _ inv _
    refine .select ?_
    cases row : s.withdrawal with
    | none => exact .fail s _
    | some w =>
      refine .ensure fun disputed => .transaction ?_
      intro _ s' ran
      have platform : isPlatformHandledWithdrawal w = true := (Bool.and_eq_true_iff.mp disputed).2
      have kept := adminResolvePlatformDisputeRefundTx_keeps inv row platform ran
      exact ⟨kept.1, kept.2, serves_remove _ _⟩
  · refine .select fun row => ?_
    cases row with
    | none => exact .fail base _
    | some w => exact .ensure .transaction

theorem adminResolveDisputeFavourAgent_serves (env : Environment) :
    Serves strict id allowed base (adminResolveDisputeFavourAgent env) := by
  refine .of_commitsAt ?_ ?_
  · intro s may inv since
    refine .select ?_
    cases row : s.withdrawal with
    | none => exact .fail s _
    | some w =>
      refine .ensure fun _ => ?_
      split
      · exact (adminResolvePlatformDisputePaid_serves env).commitsAt may inv since
      · cases waiting : s.waitingAssignment with
        | none => exact .fail s _
        | some a =>
          refine .transaction ?_
          intro _ s' ran
          have kept := adminResolveDisputeFavourAgentTx_keeps inv row waiting ran
          exact ⟨kept.1, kept.2, serves_remove _ _⟩
  · refine .select fun found => ?_
    rcases found with _ | ⟨w, waiting⟩
    · exact .fail base _
    · refine .ensure ?_
      split
      · exact (adminResolvePlatformDisputePaid_serves env).rollsTo
      · cases waiting with
        | none => exact .fail base _
        | some a => exact .transaction

theorem adminResolveDisputeFavourHost_serves (env : Environment) (reason : String)
    (overrideAgencyUserId : Option UserId) :
    Serves strict id allowed base
      (adminResolveDisputeFavourHost env reason overrideAgencyUserId) := by
  refine .of_commitsAt ?_ ?_
  · intro s may inv since
    refine .select ?_
    cases row : s.withdrawal with
    | none => exact .fail s _
    | some w =>
      refine .ensure fun _ => ?_
      split
      · exact (adminResolvePlatformDisputeRefund_serves env reason).commitsAt may inv since
      · cases waiting : s.waitingAssignment with
        | none => exact .fail s _
        | some a =>
          refine .transaction ?_
          intro _ s' ran
          have kept := adminResolveDisputeFavourHostTx_keeps inv row waiting ran
          exact ⟨kept.1, kept.2, serves_remove_bind fun _ => assignToAgency_serves env _⟩
  · refine .select fun found => ?_
    rcases found with _ | ⟨w, waiting⟩
    · exact .fail base _
    · refine .ensure ?_
      split
      · exact (adminResolvePlatformDisputeRefund_serves env reason).rollsTo
      · cases waiting with
        | none => exact .fail base _
        | some a => exact .transaction

/-! ### Reversal, creation, and the rest -/

private theorem serves_when_bind {condition : Prop} [Decidable condition]
    {p : WithdrawalProg Unit} (run : Serves strict id allowed base (p >>= k))
    (skip : Serves strict id allowed base (k ())) :
    Serves strict id allowed base (Prog.when condition p >>= k) := by
  unfold Prog.when
  split
  · exact run
  · exact skip

/-- In strict mode a reversal must not be allowed once the company has been credited. -/
theorem adminReverseWithdrawal_serves (env : Environment) (reason : String)
    (bypassAgeLimit : Bool)
    (guarded : ∀ s, allowed s → strict → ¬ HasKey (s.own id) (.payrollTakeover id)) :
    Serves strict id allowed base (adminReverseWithdrawal env reason bypassAgeLimit).forget := by
  refine .of_commitsAt ?_ ?_
  · intro s may inv _
    rw [adminReverseWithdrawal, Prog.forget_bind]
    refine .select ?_
    cases row : s.withdrawal with
    | none => exact .fail s _
    | some w =>
      dsimp only
      split
      next => exact .done s _
      next live =>
        simp only [Prog.forget_bind]
        refine .ensure fun _ => .ensure fun _ => .select (.select (.select (.transaction ?_)))
        intro _ s' ran
        have kept := (adminReverseWithdrawalTx_keeps inv row live (guarded s may) ran).1
        refine ⟨kept.1, kept.2, serves_removeFor_bind fun _ => serves_removeFor_bind fun _ => ?_⟩
        -- The row is read back once more, for the response.
        have response : ∀ base, Serves strict id allowed base
            (Prog.select (fun db => db.withdrawal) >>= fun after =>
              (pure (after.getD w) : WithdrawalProg Withdrawal).forget) :=
          fun base => serves_select fun _ => .done base _
        exact serves_when_bind (serves_remove_bind response) (response _)
  · rw [adminReverseWithdrawal, Prog.forget_bind]
    refine .select fun found => ?_
    cases found with
    | none => exact .fail base _
    | some r =>
      dsimp only
      split
      · exact .done base _
      · simp only [Prog.forget_bind]
        exact .ensure (.ensure (.select fun _ => .select fun _ => .select fun _ => .transaction))

private theorem assertPointsDebitAllowed_serves {userId : UserId}
    (rest : Serves strict id allowed base (k ())) :
    Serves strict id allowed base (assertPointsDebitAllowed userId >>= k) := by
  rw [assertPointsDebitAllowed, Prog.bind_assoc]
  refine serves_select fun row => ?_
  cases row with
  | none => exact .fail base _
  | some flags => exact serves_ensure fun _ => rest

theorem createWithdrawal_serves (env : Environment) (input : CreateWithdrawalInput) :
    Serves strict id allowed base (createWithdrawal env id input) := by
  refine serves_select fun prior => ?_
  cases prior with
  | some _ => exact .done base _
  | none =>
    refine serves_ensure fun _ => assertPointsDebitAllowed_serves (serves_ensure fun _ => ?_)
    cases calculateWithdrawalAmounts input.grossPoints input.fees input.methodType with
    | error error => exact .fail base _
    | ok amounts =>
      dsimp only
      rw [Prog.transactionCatch_bind]
      refine .run ?_ ?_
      · intro s created s' _ inv _ ran
        have kept := createWithdrawalTx_keeps inv ran
        exact ⟨kept.1, kept.2, serves_when (assignToAgency_serves env {})⟩
      · -- A lost race on the unique key looks for the winner's row and creates nothing.
        intro error
        split
        · rw [Prog.bind_assoc]
          refine serves_select fun winner => ?_
          split
          · exact .done base _
          · exact .fail base _
        · exact .fail base _

theorem elsewhere_serves (change : MoneyDb → MoneyDb) :
    Serves strict id allowed base (elsewhere id change) := by
  refine serves_last ?_
  intro s s' inv _ ran
  cases ran
  dsimp only
  split
  next own => exact elsewhere_keeps inv own
  next => exact .same inv

end Handlers

/-- Every handler keeps the invariant in fresh runs; in strict mode reversals must be guarded. -/
theorem handler_serves {strict : Prop} {id : Nat} {allowed : WithdrawalDb → Prop}
    (request : Request) (base : WithdrawalDb)
    (guarded : request.isReversal = true → ∀ s, allowed s → strict →
      ¬ HasKey (s.own id) (.payrollTakeover id)) :
    Serves strict id allowed base (handler id request) := by
  cases request with
  | create env input => exact createWithdrawal_serves env input
  | assign env opts => exact assignToAgency_serves env opts
  | slaExpiry env assignmentId => exact processSlaExpiry_serves env assignmentId
  | agentReject env agent assignmentId reason =>
    exact agentRejectPayroll_serves env agent assignmentId reason
  | agentComplete env agent assignmentId proof =>
    exact agentCompletePayroll_serves env agent assignmentId proof
  | completePlatform env proof => exact adminCompletePlatformPayout_serves env proof
  | completeTakeover env proof => exact adminCompletePayrollTakeover_serves env proof
  | completeForAgency env agency proof reason =>
    exact adminCompletePayrollForAgency_serves env agency proof reason
  | autoComplete env assignmentId => exact autoCompleteWaiting_serves env assignmentId
  | waitingJob env assignmentId => exact processWaitingAutoComplete_serves env assignmentId
  | platformWaitingJob env => exact processPlatformWaitingAutoComplete_serves env
  | requeuePlatformWaiting env => exact requeuePlatformWaiting_serves env
  | dispute env host ticketId => exact disputeWithdrawal_serves env host ticketId
  | resolvePlatformPaid env => exact adminResolvePlatformDisputePaid_serves env
  | resolvePlatformRefund env reason => exact adminResolvePlatformDisputeRefund_serves env reason
  | favourAgent env => exact adminResolveDisputeFavourAgent_serves env
  | favourHost env reason override => exact adminResolveDisputeFavourHost_serves env reason override
  | reverse env reason bypass =>
    exact adminReverseWithdrawal_serves env reason bypass (guarded rfl)
  | elsewhere change => exact elsewhere_serves change

/-! ### One request after the other -/

/-- Requests and job firings served one after the other, all of them satisfying `ok`. -/
inductive Ran (id : Nat) (ok : Request → Prop) (db : WithdrawalDb) : WithdrawalDb → Prop
  | start : Ran id ok db db
  | call {s : WithdrawalDb} {request : Request} (before : Ran id ok db s) (allowed : ok request) :
      Ran id ok db ((handler id request).call s).2

theorem call_inv {id : Nat} {s : WithdrawalDb} (request : Request) (inv : Inv False id s) :
    Inv False id ((handler id request).call s).2 := by
  have good : Serves False id (fun _ => True) s (handler id request) :=
    handler_serves request s fun _ _ _ strict => strict.elim
  exact (good.call (fun _ => trivial) Grows.refl Grows.trans inv).1

theorem Ran.inv {id : Nat} {ok : Request → Prop} {db s : WithdrawalDb} (run : Ran id ok db s)
    (start : Uncreated id db) : Inv False id s := by
  induction run with
  | start => exact .inl start
  | call _ _ ih => exact call_inv _ ih

def serveAll (id : Nat) (requests : List Request) (db : WithdrawalDb) : WithdrawalDb :=
  requests.foldl (fun s request => ((handler id request).call s).2) db

theorem Ran.all {id : Nat} {ok : Request → Prop} {db s : WithdrawalDb} (before : Ran id ok db s)
    (requests : List Request) (allowed : ∀ request ∈ requests, ok request) :
    Ran id ok db (serveAll id requests s) := by
  induction requests generalizing s with
  | nil => exact before
  | cons request requests ih =>
    exact ih (before.call (allowed request List.mem_cons_self))
      fun other member => allowed other (List.mem_cons_of_mem _ member)

/-! ### A small deployment

One host (user 1, funded with 1000 points), one agency (user 2), the company (user 9). -/

def agencyTwo : PayrollAgency :=
  { userId := 2, country := some 1, payrollEnabled := true, payrollPrivilegeGranted := true,
    pausedAt := none, pausedUntil := none, payrollEnabledAt := none,
    lastPayrollAssignedAt := none, openCount := 0 }

def morning : Environment :=
  { now := 0, config := ⟨1, 1, 3⟩, hostCountry := some 1, agencies := [agencyTwo],
    lockedAgencies := [], newSerial := 0, removed := fun _ => true, companyAgencyUserId := some 9 }

def noAgency : Environment := { morning with agencies := [] }

/-- Both the SLA and the waiting period of something started in the morning are over. -/
def evening : Environment := { morning with now := hours 2 }

/-- A platform fee of 10%, half of it for the agency. -/
def bankInput : CreateWithdrawalInput :=
  { userId := 1, grossPoints := 1000, methodType := .bank, faceIndexed := true, railEnabled := true,
    fees := ⟨1, 5000, 0, 1000, 5000⟩ }

def fundedDb : WithdrawalDb :=
  { money := { MoneyDb.empty with pointLedger :=
      [{ wallet := ⟨1, .point⟩, direction := .credit, txType := .other 0, amount := 1000,
         balanceAfter := 1000, idempotencyKey := .other 0 }] }
    withdrawal := none, assignments := [], jobs := [] }

theorem fundedDb_uncreated (id : Nat) : Uncreated id fundedDb :=
  ⟨rfl, rfl, by simp [fundedDb], by
    simp [WithdrawalDb.own, fundedDb, MoneyDb.postings, posting, Posting.isAbout,
      LedgerKey.withdrawalId]⟩

/-- The proof of assignment 0 of withdrawal 7. -/
def proofSeven : ProofKey := ⟨.assignment ⟨7, 0⟩, 0⟩

end OlNode.Withdrawals
