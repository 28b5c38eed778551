import OlNode.ReadCommitted.Frame
import OlNode.Withdrawal.Requests

/-!
# What the writes of the withdrawal operations have in common

Apart from `disputeWithdrawal` no operation sets the status DISPUTED, and only the two that hand in
an agency's proof put an assignment into its waiting period or queue the job that ends it. No
operation but the creation changes what a withdrawal is about.
-/
namespace OlNode.Withdrawals

open ReadCommitted

/-- What a withdrawal is about: whose it is, what is paid and how. A waiting period that the
company has begun stays on record. -/
structure SameTerms (w w' : Withdrawal) : Prop where
  id : w'.id = w.id
  userId : w'.userId = w.userId
  amountPoints : w'.amountPoints = w.amountPoints
  platformFeePoints : w'.platformFeePoints = w.platformFeePoints
  serviceFeePoints : w'.serviceFeePoints = w.serviceFeePoints
  methodType : w'.methodType = w.methodType
  payoutHandler : w'.payoutHandler = w.payoutHandler
  waiting : w.waitingExpiresAt.isSome → w'.waitingExpiresAt.isSome

theorem SameTerms.refl (w : Withdrawal) : SameTerms w w :=
  ⟨rfl, rfl, rfl, rfl, rfl, rfl, rfl, fun set => set⟩

theorem SameTerms.trans {w w' w'' : Withdrawal} (first : SameTerms w w')
    (second : SameTerms w' w'') : SameTerms w w'' where
  id := second.id.trans first.id
  userId := second.userId.trans first.userId
  amountPoints := second.amountPoints.trans first.amountPoints
  platformFeePoints := second.platformFeePoints.trans first.platformFeePoints
  serviceFeePoints := second.serviceFeePoints.trans first.serviceFeePoints
  methodType := second.methodType.trans first.methodType
  payoutHandler := second.payoutHandler.trans first.payoutHandler
  waiting set := second.waiting (first.waiting set)

theorem sameTerms_apply {u : WithdrawalUpdate} (set : u.waitingExpiresAt ≠ some none)
    (w : Withdrawal) : SameTerms w (w.apply u) := by
  refine ⟨rfl, rfl, rfl, rfl, rfl, rfl, rfl, fun before => ?_⟩
  change (u.waitingExpiresAt.getD w.waitingExpiresAt).isSome
  cases given : u.waitingExpiresAt with
  | none => exact before
  | some expiry =>
    cases expiry with
    | none => exact absurd given set
    | some time => rfl

/-- The withdrawal stays, and stays about the same payout. -/
def KeepsTerms (s t : WithdrawalDb) : Prop :=
  ∀ w, s.withdrawal = some w → ∃ w', t.withdrawal = some w' ∧ SameTerms w w'

theorem keepsTerms_of_row {s t : WithdrawalDb} (same : t.withdrawal = s.withdrawal) :
    KeepsTerms s t :=
  fun w row => ⟨w, same.trans row, .refl w⟩

theorem KeepsTerms.trans {s t u : WithdrawalDb} (first : KeepsTerms s t)
    (second : KeepsTerms t u) : KeepsTerms s u := by
  intro w row
  obtain ⟨w', row', same⟩ := first w row
  obtain ⟨w'', row'', same'⟩ := second w' row'
  exact ⟨w'', row'', same.trans same'⟩

theorem keepsTerms_modify {f : Withdrawal → Withdrawal} (keeps : ∀ w, SameTerms w (f w))
    (db : WithdrawalDb) : KeepsTerms db (db.modify f) := by
  intro w row
  refine ⟨f w, ?_, keeps w⟩
  simp [WithdrawalDb.modify, row]

/-- A class of writes that contains all writes of the operations other than `disputeWithdrawal`;
those that start an agency's waiting period only if `waiting`, those that insert the row only if
`creating`. -/
structure Frame (waiting creating : Prop) (P : (WithdrawalDb → WithdrawalDb) → Prop) : Prop where
  row : ∀ f : Withdrawal → Withdrawal, (∀ w, (f w).status = .disputed → w.status = .disputed) →
    (∀ w, SameTerms w (f w)) → P fun db => db.modify f
  create : creating → ∀ w : Withdrawal, w.status ≠ .disputed →
    P fun db => { db with withdrawal := some w }
  assignment : ∀ id u, (u.status = .waiting → waiting) → P fun db => db.setAssignment id u
  insert : ∀ a : PayrollAssignment, (a.status = .waiting → waiting) →
    P fun db => { db with assignments := db.assignments ++ [a] }
  money : ∀ f : WithdrawalDb → MoneyDb, P fun db => db.setMoney (f db)
  enqueue : ∀ job, ((∃ a, job = .waiting a) → waiting) →
    P fun db => if job ∈ db.jobs then db else { db with jobs := job :: db.jobs }
  remove : ∀ (removed : PayrollJob → Bool) job,
    P fun db => if removed job then { db with jobs := db.jobs.filter (· ≠ job) } else db

/-- A class of writes that contains those of an assignment. -/
structure AssignFrame (P : (WithdrawalDb → WithdrawalDb) → Prop) : Prop where
  status : ∀ u : WithdrawalUpdate, u.status ≠ .disputed ∧ u.waitingExpiresAt ≠ some none →
    P fun db => db.modify (·.apply u)
  insert : ∀ a : PayrollAssignment, a.status = .pending →
    P fun db => { db with assignments := db.assignments ++ [a] }
  enqueue : ∀ id, P fun db =>
    if .sla id ∈ db.jobs then db else { db with jobs := .sla id :: db.jobs }

theorem assignToAgencyTx_writes {P : (WithdrawalDb → WithdrawalDb) → Prop} (frame : AssignFrame P)
    (env : Environment) (opts : AssignOptions) : (assignToAgencyTx env opts).Writes P := by
  have status : ∀ u : WithdrawalUpdate, u.status ≠ .disputed ∧ u.waitingExpiresAt ≠ some none →
      (updateStatus u).Writes P :=
    fun u ordinary => (Tx.writes_update _ _).mpr (frame.status u ordinary)
  simp only [assignToAgencyTx, Tx.writes_lockRow_bind, Tx.writes_select_bind]
  intro db
  split
  · trivial
  · split
    · trivial
    · split
      · trivial
      · refine (Tx.writes_select_bind _ _).mpr fun db' => ?_
        split
        · exact .bind (Tx.writes_when (status _ (by simp))) fun _ => trivial
        · split
          · exact .bind (Tx.writes_when (status _ (by simp))) fun _ => trivial
          · split
            · trivial
            · exact .bind (status _ (by simp)) fun _ => trivial
            · refine .bind ?_ fun _ => .bind (status _ (by simp)) fun _ => trivial
              simp only [createAssignment, Tx.writes_lockRow_bind, Tx.writes_select_bind,
                Tx.writes_ensure_bind, Tx.writes_update]
              exact fun _ _ => frame.insert _ rfl

section Writes

private theorem requireCompanyAgencyUserId_writes {P : (WithdrawalDb → WithdrawalDb) → Prop}
    (env : Environment) :
    (requireCompanyAgencyUserId env).Writes P := by
  unfold requireCompanyAgencyUserId
  split <;> trivial

variable {waiting creating : Prop} {P : (WithdrawalDb → WithdrawalDb) → Prop}
  (frame : Frame waiting creating P) (env : Environment)

include frame

private theorem updateStatus_writes {u : WithdrawalUpdate}
    (ordinary : u.status ≠ .disputed ∧ u.waitingExpiresAt ≠ some none) :
    (updateStatus u).Writes P :=
  (Tx.writes_update _ _).mpr (frame.row _ (fun _ disputed => absurd disputed ordinary.1)
    (sameTerms_apply ordinary.2))

private theorem updateAssignment_writes {id : AssignmentId} {u : AssignmentUpdate}
    (allowed : u.status = .waiting → waiting) : (updateAssignment id u).Writes P :=
  (Tx.writes_update _ _).mpr (frame.assignment id u allowed)

private theorem onMoney_writes {α : Type} (x : LedgerTx α) : (onMoney x).Writes P :=
  Tx.Writes.zoom (fun f => frame.money fun db => f db.money) x

private theorem createAssignment_writes {a : PayrollAssignment}
    (allowed : a.status = .waiting → waiting) : (createAssignment a).Writes P := by
  simp only [createAssignment, Tx.writes_lockRow_bind, Tx.writes_select_bind,
    Tx.writes_ensure_bind, Tx.writes_update]
  exact fun _ _ => frame.insert a allowed

private theorem incrementAssignmentCount_writes : incrementAssignmentCount.Writes P := by
  simp only [incrementAssignmentCount, Tx.writes_update_bind, Tx.writes_select, and_true]
  exact frame.row _ (fun _ disputed => disputed) fun w => { SameTerms.refl w with }

private theorem enqueue_writes {job : PayrollJob} (allowed : (∃ a, job = .waiting a) → waiting) :
    (enqueue job).Writes P :=
  Prog.writes_transaction ((Tx.writes_update _ _).mpr (frame.enqueue job allowed))

private theorem remove_writes (removed : PayrollJob → Bool) (job : PayrollJob) :
    (remove removed job).Writes P :=
  Prog.writes_transaction ((Tx.writes_update _ _).mpr (frame.remove removed job))

private theorem removeFor_writes (job : AssignmentId → PayrollJob)
    (assignmentId : Option AssignmentId) : (removeFor env job assignmentId).Writes P := by
  cases assignmentId with
  | none => trivial
  | some id => exact remove_writes frame env.removed (job id)

private theorem countAttempt_writes :
    (countAttempt env).Writes P := by
  refine .bind ?_ fun count => ?_
  · exact incrementAssignmentCount_writes frame
  · split
    · exact .bind (updateStatus_writes frame (by simp)) fun _ => trivial
    · trivial

private theorem assignToAgency_writes (opts : AssignOptions) :
    (assignToAgency env opts).Writes P := by
  have assigns : AssignFrame P := by
    constructor
    · exact fun u ordinary => frame.row _ (fun _ disputed => absurd disputed ordinary.1)
        (sameTerms_apply ordinary.2)
    · intro a pending
      refine frame.insert a fun waiting => ?_
      rw [pending] at waiting
      cases waiting
    · exact fun id => frame.enqueue _ (by simp)
  refine .bind (Prog.writes_transaction (assignToAgencyTx_writes assigns env opts)) fun outcome => ?_
  cases outcome with
  | assigned assignmentId => exact enqueue_writes frame (by simp)
  | alreadyAssigned =>
    rw [afterAssign]
    split <;> trivial
  | _ => trivial

private theorem create_writes (creates : creating) (env : Environment) (id : Nat)
    (input : CreateWithdrawalInput) :
    (createWithdrawal env id input).Writes P := by
  simp only [createWithdrawal, Prog.writes_select_bind]
  intro db
  split
  · trivial
  · simp only [Prog.writes_ensure_bind]
    refine fun _ => .bind ?_ fun _ => ?_
    · simp only [assertPointsDebitAllowed, Prog.writes_select_bind]
      intro db'
      split
      · trivial
      · unfold Prog.ensure
        split <;> trivial
    · simp only [Prog.writes_ensure_bind]
      intro _
      split
      · trivial
      · rw [Prog.transactionCatch_bind]
        refine Prog.writes_run ?_ (fun _ => Prog.writes_when (assignToAgency_writes frame env {})) ?_
        · refine .bind (onMoney_writes frame _) fun _ => (Tx.writes_select_bind _ _).mpr fun db' => ?_
          split
          · trivial
          · simp only [Tx.writes_select_bind]
            refine fun _ => .bind (onMoney_writes frame _) fun _ => ?_
            rw [Tx.writes_ensure_bind]
            refine fun _ => .bind (onMoney_writes frame _) fun _ => ?_
            simp only [Tx.writes_update_bind, Tx.writes_pure, and_true]
            refine frame.create creates _ ?_
            simp only [newWithdrawal]
            split <;> simp
        · intro error
          split
          · rw [Prog.bind_assoc, Prog.writes_select_bind]
            intro db'
            split <;> trivial
          · trivial

private theorem agentReject_writes (agent : UserId) (id : AssignmentId) (reason : Option String) :
    (agentRejectPayroll env agent id reason).Writes P := by
  refine .bind (Prog.writes_transaction ?_) fun _ => .bind (remove_writes frame _ _) fun _ =>
    Prog.writes_when (assignToAgency_writes frame env {})
  simp only [agentRejectPayrollTx, Tx.writes_select_bind]
  intro db
  split
  · trivial
  · simp only [Tx.writes_ensure_bind]
    exact fun _ _ => .bind (updateAssignment_writes frame (by simp)) fun _ => countAttempt_writes frame env

private theorem slaExpiry_writes (id : AssignmentId) :
    (processSlaExpiry env id).Writes P := by
  simp only [processSlaExpiry, Prog.writes_select_bind]
  intro db
  split
  · trivial
  · split
    · trivial
    · refine .bind (Prog.writes_transaction ?_) fun _ => .bind (remove_writes frame _ _) fun _ =>
        Prog.writes_when (assignToAgency_writes frame env {})
      simp only [processSlaExpiryTx, Tx.writes_select_bind]
      intro db'
      split
      · trivial
      · split
        · trivial
        · exact .bind (updateAssignment_writes frame (by simp)) fun _ => countAttempt_writes frame env

private theorem agentComplete_writes (proves : waiting) (env : Environment) (agent : UserId) (id : AssignmentId)
    (proof : ProofKey) : (agentCompletePayroll env agent id proof).Writes P := by
  simp only [agentCompletePayroll, Prog.writes_ensure_bind]
  refine fun _ => .bind (Prog.writes_transaction ?_) fun _ => .bind (remove_writes frame _ _) fun _ =>
    enqueue_writes frame fun _ => proves
  simp only [agentCompletePayrollTx, Tx.writes_select_bind]
  intro db
  split
  · trivial
  · simp only [Tx.writes_ensure_bind]
    exact fun _ _ _ => .bind (updateAssignment_writes frame fun _ => proves) fun _ => updateStatus_writes frame (by simp)

private theorem completePlatform_writes (id : Nat) (proof : ProofKey) :
    (adminCompletePlatformPayout env id proof).Writes P := by
  simp only [adminCompletePlatformPayout, Prog.writes_ensure_bind]
  refine fun _ => .bind (Prog.writes_transaction ?_) fun _ => enqueue_writes frame (by simp)
  simp only [adminCompletePlatformPayoutTx, Tx.writes_select_bind]
  intro db
  split
  · trivial
  · simp only [Tx.writes_ensure_bind]
    exact fun _ _ => updateStatus_writes frame (by simp [companyProof])

private theorem completeTakeover_writes (id : Nat) (proof : ProofKey) :
    (adminCompletePayrollTakeover env id proof).Writes P := by
  simp only [adminCompletePayrollTakeover, Prog.writes_ensure_bind]
  refine fun _ => .bind (requireCompanyAgencyUserId_writes env) fun _ =>
    .bind (Prog.writes_transaction ?_) fun _ => enqueue_writes frame (by simp)
  simp only [adminCompletePayrollTakeoverTx, Tx.writes_select_bind]
  intro db
  split
  · trivial
  · simp only [Tx.writes_ensure_bind]
    exact fun _ _ => updateStatus_writes frame (by simp [companyProof])

private theorem completeForAgency_writes (proves : waiting) (env : Environment) (id : Nat) (agency : UserId)
    (proof : ProofKey) (reason : Option String) :
    (adminCompletePayrollForAgency env id agency proof reason).Writes P := by
  simp only [adminCompletePayrollForAgency, Prog.writes_ensure_bind]
  refine fun _ => .bind (Prog.writes_transaction ?_) fun _ => .bind (removeFor_writes frame _ _ _) fun _ =>
    enqueue_writes frame fun _ => proves
  simp only [adminCompletePayrollForAgencyTx, Tx.writes_select_bind]
  intro db
  split
  · trivial
  · simp only [Tx.writes_ensure_bind]
    refine fun _ _ _ _ => (Tx.writes_select_bind _ _).mpr fun db' => ?_
    split
    · split
      · exact .bind (updateAssignment_writes frame fun _ => proves) fun _ =>
          .bind (updateStatus_writes frame (by simp)) fun _ => trivial
      · exact .bind (updateAssignment_writes frame (by simp)) fun _ =>
          .bind (incrementAssignmentCount_writes frame) fun _ =>
            .bind (createAssignment_writes frame fun _ => proves) fun _ =>
              .bind (updateStatus_writes frame (by simp)) fun _ => trivial
    · exact .bind (createAssignment_writes frame fun _ => proves) fun _ =>
        .bind (updateStatus_writes frame (by simp)) fun _ => trivial

private theorem autoComplete_writes (id : AssignmentId) :
    (autoCompleteWaiting env id).Writes P := by
  simp only [autoCompleteWaiting, Prog.writes_select_bind]
  intro db
  split
  · trivial
  · refine .bind (Prog.writes_transaction ?_) fun _ => remove_writes frame _ _
    simp only [autoCompleteWaitingTx, Tx.writes_select_bind]
    intro db'
    split
    · trivial
    · split
      · trivial
      · exact .bind (updateAssignment_writes frame (by simp)) fun _ =>
          .bind (updateStatus_writes frame (by simp)) fun _ => onMoney_writes frame _

private theorem waitingJob_writes (id : AssignmentId) :
    (processWaitingAutoComplete env id).Writes P := by
  simp only [processWaitingAutoComplete, Prog.writes_select_bind]
  intro db db'
  split
  · trivial
  · split
    · exact autoComplete_writes frame env id
    · trivial

private theorem autoCompletePlatform_writes :
    (autoCompletePlatformWaiting env).Writes P := by
  simp only [autoCompletePlatformWaiting, Prog.writes_select_bind]
  intro db
  split
  · trivial
  · split
    · refine .bind (Prog.writes_transaction ?_) fun _ => remove_writes frame _ _
      simp only [autoCompletePlatformWaitingTx, Tx.writes_select_bind]
      intro db'
      split
      · trivial
      · split
        · exact updateStatus_writes frame (by simp [companyPaid])
        · trivial
    · trivial

private theorem autoCompleteTakeover_writes :
    (autoCompleteTakeoverWaiting env).Writes P := by
  simp only [autoCompleteTakeoverWaiting, Prog.writes_select_bind]
  intro db
  split
  · trivial
  · split
    · refine .bind (requireCompanyAgencyUserId_writes env) fun _ =>
        .bind (Prog.writes_transaction ?_) fun _ => remove_writes frame _ _
      simp only [autoCompleteTakeoverWaitingTx, Tx.writes_select_bind]
      intro db'
      split
      · trivial
      · split
        · exact .bind (updateStatus_writes frame (by simp [companyPaid])) fun _ => onMoney_writes frame _
        · trivial
    · trivial

private theorem platformWaitingJob_writes :
    (processPlatformWaitingAutoComplete env).Writes P := by
  simp only [processPlatformWaitingAutoComplete, Prog.writes_select_bind]
  intro db db'
  split
  · trivial
  · split
    · split
      · exact autoCompletePlatform_writes frame env
      · exact autoCompleteTakeover_writes frame env
    · trivial

private theorem requeue_writes :
    (requeuePlatformWaiting env).Writes P := by
  simp only [requeuePlatformWaiting, Prog.writes_select_bind]
  intro db
  split
  · trivial
  · split
    · exact enqueue_writes frame (by simp)
    · trivial

private theorem resolvePlatformPaid_writes :
    (adminResolvePlatformDisputePaid env).Writes P := by
  simp only [adminResolvePlatformDisputePaid, Prog.writes_select_bind]
  intro db
  split
  · trivial
  · rw [Prog.writes_ensure_bind]
    refine fun _ => .bind (Prog.writes_transaction ?_) fun _ => remove_writes frame _ _
    simp only [adminResolvePlatformDisputePaidTx, Tx.writes_select_bind]
    intro db'
    split
    · trivial
    · split
      · trivial
      · exact updateStatus_writes frame (by simp [companyPaid])

private theorem resolvePlatformRefund_writes (reason : String) :
    (adminResolvePlatformDisputeRefund env reason).Writes P := by
  simp only [adminResolvePlatformDisputeRefund, Prog.writes_select_bind]
  intro db
  split
  · trivial
  · rw [Prog.writes_ensure_bind]
    refine fun _ => .bind (Prog.writes_transaction ?_) fun _ => remove_writes frame _ _
    simp only [adminResolvePlatformDisputeRefundTx, Tx.writes_select_bind]
    intro db'
    split
    · trivial
    · split
      · trivial
      · exact .bind (onMoney_writes frame _) fun _ => .bind (Tx.writes_when (onMoney_writes frame _)) fun _ =>
          updateStatus_writes frame (by simp)

private theorem favourAgent_writes :
    (adminResolveDisputeFavourAgent env).Writes P := by
  simp only [adminResolveDisputeFavourAgent, Prog.writes_select_bind]
  intro db
  split
  · trivial
  · rw [Prog.writes_ensure_bind]
    intro _
    split
    · exact resolvePlatformPaid_writes frame env
    · split
      · trivial
      · refine .bind (Prog.writes_transaction ?_) fun _ => remove_writes frame _ _
        simp only [adminResolveDisputeFavourAgentTx, Tx.writes_select_bind]
        intro db'
        split
        · refine .bind (updateAssignment_writes frame (by simp)) fun _ =>
            .bind (updateStatus_writes frame (by simp)) fun _ => ?_
          exact (Tx.writes_update_bind _ _ _).mpr
            ⟨frame.row _ (fun _ disputed => disputed) fun w => { SameTerms.refl w with },
              onMoney_writes frame _⟩
        · trivial

private theorem favourHost_writes (reason : String) (override : Option UserId) :
    (adminResolveDisputeFavourHost env reason override).Writes P := by
  simp only [adminResolveDisputeFavourHost, Prog.writes_select_bind]
  intro db
  split
  · trivial
  · rw [Prog.writes_ensure_bind]
    intro _
    split
    · exact resolvePlatformRefund_writes frame env reason
    · split
      · trivial
      · refine .bind (Prog.writes_transaction ?_) fun _ => .bind (remove_writes frame _ _) fun _ =>
          assignToAgency_writes frame env _
        simp only [adminResolveDisputeFavourHostTx, Tx.writes_select_bind]
        intro db'
        split
        · refine .bind (onMoney_writes frame _) fun _ => .bind (updateAssignment_writes frame (by simp)) fun _ => ?_
          exact (Tx.writes_update _ _).mpr (frame.row _ (fun _ disputed => by simp at disputed)
            fun w => { SameTerms.refl w with })
        · trivial

private theorem reverse_writes (reason : String) (bypass : Bool) :
    (adminReverseWithdrawal env reason bypass).forget.Writes P := by
  refine .bind ?_ fun _ => trivial
  simp only [adminReverseWithdrawal, Prog.writes_select_bind]
  intro db
  split
  · trivial
  · split
    · trivial
    · simp only [Prog.writes_ensure_bind, Prog.writes_select_bind]
      refine fun _ _ _ _ _ => .bind (Prog.writes_transaction ?_) fun _ => ?_
      · refine .bind (onMoney_writes frame _) fun _ => .bind (onMoney_writes frame _) fun _ =>
          .bind (Tx.writes_when (onMoney_writes frame _)) fun _ =>
            .bind (Tx.writes_when (onMoney_writes frame _)) fun _ => .bind ?_ fun _ => .bind ?_ fun _ =>
              updateStatus_writes frame (by simp)
        · unfold ReversalReads.reverseCredits
          split
          · exact onMoney_writes frame _
          · trivial
        · unfold ReversalReads.expireOpenAssignment
          split
          · exact updateAssignment_writes frame (by simp)
          · trivial
      · exact .bind (removeFor_writes frame _ _ _) fun _ => .bind (removeFor_writes frame _ _ _) fun _ =>
          .bind (Prog.writes_when (remove_writes frame _ _)) fun _ => fun _ => trivial

/-- The two operations that hand in an agency's proof. -/
def Request.provesPayout : Request → Bool
  | .agentComplete .. => true
  | .completeForAgency .. => true
  | _ => false

def Request.isDispute : Request → Bool
  | .dispute .. => true
  | _ => false

def Request.isCreation : Request → Bool
  | .create .. => true
  | _ => false

theorem handler_writes (id : Nat) (request : Request) (other : request.isDispute = false)
    (allowed : request.provesPayout = true → waiting)
    (inserts : request.isCreation = true → creating) : (handler id request).Writes P := by
  cases request with
  | create env input => exact create_writes frame (inserts rfl) env id input
  | assign env opts => exact assignToAgency_writes frame env opts
  | slaExpiry env assignmentId => exact slaExpiry_writes frame env assignmentId
  | agentReject env agent assignmentId reason => exact agentReject_writes frame env agent _ reason
  | agentComplete env agent assignmentId proof =>
    exact agentComplete_writes frame (allowed rfl) env agent _ proof
  | completePlatform env proof => exact completePlatform_writes frame env id proof
  | completeTakeover env proof => exact completeTakeover_writes frame env id proof
  | completeForAgency env agency proof reason =>
    exact completeForAgency_writes frame (allowed rfl) env id agency proof reason
  | autoComplete env assignmentId => exact autoComplete_writes frame env assignmentId
  | waitingJob env assignmentId => exact waitingJob_writes frame env assignmentId
  | platformWaitingJob env => exact platformWaitingJob_writes frame env
  | requeuePlatformWaiting env => exact requeue_writes frame env
  | dispute env host ticketId => simp [Request.isDispute] at other
  | resolvePlatformPaid env => exact resolvePlatformPaid_writes frame env
  | resolvePlatformRefund env reason => exact resolvePlatformRefund_writes frame env reason
  | favourAgent env => exact favourAgent_writes frame env
  | favourHost env reason override => exact favourHost_writes frame env reason override
  | reverse env reason bypass => exact reverse_writes frame env reason bypass
  | elsewhere change =>
    refine Prog.writes_transaction ((Tx.writes_update _ _).mpr ?_)
    have component : ∀ db : WithdrawalDb,
        (if (db.setMoney (change db.money)).own id = db.own id then db.setMoney (change db.money)
          else db) =
        db.setMoney (if (db.setMoney (change db.money)).own id = db.own id then change db.money
          else db.money) := by
      intro db
      split <;> rfl
    simp only [component]
    exact frame.money _

end Writes

/-! ### The terms of a withdrawal -/

private theorem keepsTerms_frame : Frame True False fun f => ∀ db, KeepsTerms db (f db) where
  row f _ keeps db := keepsTerms_modify keeps db
  create impossible := impossible.elim
  assignment id u _ db := keepsTerms_of_row rfl
  insert a _ db := keepsTerms_of_row rfl
  money f db := keepsTerms_of_row rfl
  enqueue job _ db := by
    dsimp only
    split <;> exact keepsTerms_of_row rfl
  remove removed job db := by
    dsimp only
    split <;> exact keepsTerms_of_row rfl

private theorem dispute_keepsTerms (env : Environment) (host : UserId) (ticketId : Nat) :
    (disputeWithdrawal env host ticketId).Writes fun f => ∀ db, KeepsTerms db (f db) := by
  simp only [disputeWithdrawal, Prog.writes_select_bind]
  intro db
  split
  · trivial
  · simp only [Prog.writes_ensure_bind]
    refine fun _ _ _ _ => .bind ?_ fun _ => .bind (removeFor_writes keepsTerms_frame _ _ _) fun _ =>
      Prog.writes_when (remove_writes keepsTerms_frame _ _)
    exact (Prog.writes_autocommit _ _).mpr fun db => keepsTerms_modify (sameTerms_apply (by simp)) db

/-- Only the creation changes what a withdrawal is about. -/
theorem handler_keepsTerms (id : Nat) (request : Request) (other : request.isCreation = false) :
    (handler id request).Writes fun f => ∀ db, KeepsTerms db (f db) := by
  by_cases dispute : request.isDispute = false
  · refine handler_writes keepsTerms_frame id request dispute (fun _ => trivial) ?_
    simp [other]
  · cases request with
    | dispute env host ticketId => exact dispute_keepsTerms env host ticketId
    | _ => simp [Request.isDispute] at dispute

end OlNode.Withdrawals
