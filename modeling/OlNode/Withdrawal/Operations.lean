import OlNode.Withdrawal.Model

/-!
# The withdrawal service

The operations of `withdrawal.service.ts` and the payroll jobs. Each is a handler: reads made
before its transaction, the transaction, and what follows the commit. Only `assignToAgency` and the
wallet operations lock what they read; the others read the withdrawal and its assignments without a
lock and write them unconditionally.

Left out are effects nothing here reads back: caches, audit log, notifications, support tickets,
company cash entries, agency timestamps.
-/
namespace OlNode

open ReadCommitted

private def appError (status : Nat) (message : String) (code : ErrorCode) : LedgerError :=
  .app { status, message, code }

def withdrawalNotFound : LedgerError := appError 404 "Withdrawal not found" .notFound

def assignmentNotFound : LedgerError := appError 404 "Assignment not found" .notFound

def invalidProofKey : LedgerError := appError 400 "Invalid proof key" .invalidProofKey

def hours (n : Nat) : Time := n * 3600000

/-! ### Create and assign -/

/-- The fee configuration resolved for the gross amount. -/
structure FeeSchedule where
  minPoints : Int
  maxPoints : Int
  serviceFeePoints : Int
  platformFeeRateBp : Int
  agentRewardRateBp : Int

structure WithdrawalAmounts where
  platformFeePoints : Int
  agentRewardPoints : Int
  serviceFeePoints : Int

def calculateWithdrawalAmounts (grossPoints : Int) (fees : FeeSchedule)
    (methodType : WithdrawalMethodType) : Except LedgerError WithdrawalAmounts :=
  if grossPoints ≤ 0 then .error (appError 400 "Amount must be positive" .invalidAmount)
  else if grossPoints < fees.minPoints then
    .error (appError 400 "Below minimum withdrawal amount" .belowMinWithdrawal)
  else if fees.maxPoints < grossPoints then
    .error (appError 400 "Above maximum withdrawal amount" .aboveMaxWithdrawal)
  else match methodType with
    | .epay =>
      if grossPoints ≤ fees.serviceFeePoints then
        .error (appError 400 "Service fee exceeds or equals the requested withdrawal amount"
          .serviceFeeExceedsAmount)
      else .ok ⟨0, 0, fees.serviceFeePoints⟩
    | .bank =>
      let platformFeePoints := (grossPoints * fees.platformFeeRateBp).tdiv 10000
      .ok ⟨platformFeePoints, (platformFeePoints * fees.agentRewardRateBp).tdiv 10000, 0⟩

structure CreateWithdrawalInput where
  userId : UserId
  grossPoints : Int
  methodType : WithdrawalMethodType
  faceIndexed : Bool
  railEnabled : Bool
  fees : FeeSchedule

def newWithdrawal (withdrawalId : Nat) (input : CreateWithdrawalInput)
    (amounts : WithdrawalAmounts) : Withdrawal :=
  { id := withdrawalId
    userId := input.userId
    amountPoints := input.grossPoints
    status := if input.methodType = .epay then .pendingPlatform else .pending
    platformFeePoints := some amounts.platformFeePoints
    agentRewardPoints := some amounts.agentRewardPoints
    serviceFeePoints := some amounts.serviceFeePoints
    methodType := input.methodType
    payoutHandler := payoutHandlerForMethod input.methodType
    withdrawalVersion := 2 }

/-- The transaction of `executeCreateWithdrawal`; `false` is a replay of an earlier create. -/
def createWithdrawalTx (withdrawalId : Nat) (input : CreateWithdrawalInput)
    (amounts : WithdrawalAmounts) : WithdrawalTx Bool := do
  onMoney (lockForUpdate ⟨input.userId, .point⟩)
  let sameKey ← Tx.select fun db => db.withdrawal
  match sameKey with
  | some _ => pure false
  | none =>
    let unconfirmed ← Tx.select fun db => db.money.unconfirmedPoints input.userId
    let totalPoints ← onMoney (latestPointBalance ⟨input.userId, .point⟩)
    Tx.ensure (input.grossPoints ≤ totalPoints - unconfirmed) insufficientPoints
    let _ ← onMoney (PointWallet.debit input.userId input.grossPoints .withdrawal
      { idempotencyKey := .withdrawalDebit withdrawalId,
        refId := some (.withdrawal withdrawalId) })
    Tx.update .withdrawal fun db =>
      { db with withdrawal := some (newWithdrawal withdrawalId input amounts) }
    pure true

structure AssignOptions where
  overrideAgencyUserId : Option UserId := none
  allowBeyondAssignmentCap : Bool := false
  rejectOnIneligibleOverride : Bool := false
  ignoreCountryMatch : Bool := false

inductive AssignOutcome where
  | nothing | alreadyAssigned | selfAssignBlocked | overrideNotFound | overrideIneligible
  | countryMismatch | assigned (assignmentId : AssignmentId)

/-- The agency to assign (if any), or the reason an explicit override is rejected. -/
def chooseAgency (env : Environment) (opts : AssignOptions) (withdrawerUserId : UserId) :
    Except AssignOutcome (Option UserId) :=
  match opts.overrideAgencyUserId with
  | some override =>
    if override = withdrawerUserId then
      if opts.rejectOnIneligibleOverride then .error .selfAssignBlocked else .ok none
    else match env.agencies.find? fun a => a.userId = override with
      | none => if opts.rejectOnIneligibleOverride then .error .overrideNotFound else .ok none
      | some ag =>
        let countryOk := opts.ignoreCountryMatch ||
          (env.hostCountry.isSome && ag.country = env.hostCountry)
        if ag.payrollOk env.now && countryOk then .ok (some ag.userId)
        else if opts.rejectOnIneligibleOverride then
          .error (if ag.payrollOk env.now then .countryMismatch else .overrideIneligible)
        else .ok none
  | none => match env.hostCountry with
    | none => .ok none
    | some hostCountry => .ok (getNextEligibleAgency env hostCountry withdrawerUserId)

/-- The transaction of `assignToAgency`, under the withdrawal's row lock. -/
def assignToAgencyTx (env : Environment) (opts : AssignOptions) : WithdrawalTx AssignOutcome := do
  Tx.lockRow .withdrawal
  let row ← Tx.select fun db => db.withdrawal
  match row with
  | none => pure .nothing
  | some w =>
    if isPlatformHandledWithdrawal w then
      Tx.fail (appError 400
        "EPAY withdrawals are paid by the platform and cannot be assigned to an agency"
        .epayPlatformPayout)
    else if w.status ≠ .pending ∧ w.status ≠ .pendingPlatform then pure .nothing
    else
      let openAssignment ← Tx.select fun db => db.openAssignment
      match openAssignment with
      | some _ =>
        -- Self-heal: an open assignment belongs to a PENDING withdrawal.
        Tx.when (w.status ≠ .pending) (updateStatus { status := .pending })
        pure .alreadyAssigned
      | none =>
        if env.config.maxAssignmentAttempts ≤ w.assignmentCount ∧
            opts.overrideAgencyUserId = none ∧ opts.allowBeyondAssignmentCap = false then
          Tx.when (w.status ≠ .pendingPlatform) (updateStatus { status := .pendingPlatform })
          pure .nothing
        else match chooseAgency env opts w.userId with
          | .error outcome => pure outcome
          | .ok none =>
            updateStatus { status := .pendingPlatform }
            pure .nothing
          | .ok (some agencyUserId) =>
            createAssignment
              { id := ⟨w.id, env.newSerial⟩, agencyUserId, status := .pending,
                expiresAt := env.now + hours env.config.slaHours,
                assignmentNumber := w.assignmentCount + 1 }
            updateStatus { status := .pending }
            pure (.assigned ⟨w.id, env.newSerial⟩)

/-- What `assignToAgency` does with the outcome of its transaction. -/
def afterAssign (opts : AssignOptions) : AssignOutcome → WithdrawalProg Unit
  | .nothing => pure ()
  | .alreadyAssigned =>
    if opts.allowBeyondAssignmentCap then
      Prog.fail (appError 409 "Withdrawal already has an active agency assignment"
        .alreadyAssigned)
    else pure ()
  | .selfAssignBlocked => Prog.fail (appError 400
      "Payroll cannot be assigned to the withdrawer (agency owners cannot process their own payroll)"
      .payrollSelfAssignForbidden)
  | .overrideNotFound => Prog.fail (appError 404 "Agency not found" .agencyNotFound)
  | .overrideIneligible => Prog.fail (appError 400
      "Agency is not eligible for payroll (privilege, accept-toggle, or pause)"
      .payrollAgencyIneligible)
  | .countryMismatch => Prog.fail (appError 400
      "Agency agent must be in the same country as the withdrawing host" .countryMismatch)
  | .assigned assignmentId => enqueue (.sla assignmentId)

def assignToAgency (env : Environment) (opts : AssignOptions) : WithdrawalProg Unit := do
  let outcome ← Prog.transaction (assignToAgencyTx env opts)
  afterAssign opts outcome

/-- `assertPointsDebitAllowed`, before the transaction. -/
def assertPointsDebitAllowed (userId : UserId) : WithdrawalProg Unit := do
  let row ← Prog.select fun db => db.money.freezeFlags userId
  match row with
  | none => Prog.fail (appError 404 "User not found" .userNotFound)
  | some flags =>
    Prog.ensure (!flags.pointsFrozen) (appError 403 "Points are frozen" .pointsFrozen)

def createWithdrawal (env : Environment) (withdrawalId : Nat) (input : CreateWithdrawalInput) :
    WithdrawalProg Unit := do
  let prior ← Prog.select fun db => db.withdrawal
  match prior with
  | some _ => pure ()
  | none =>
    Prog.ensure input.faceIndexed (appError 403
      "Face verification must be completed and indexed before withdrawing points"
      .faceNotIndexed)
    assertPointsDebitAllowed input.userId
    Prog.ensure input.railEnabled (appError 403 "payment method is currently disabled"
      .paymentMethodDisabled)
    match calculateWithdrawalAmounts input.grossPoints input.fees input.methodType with
    | .error error => Prog.fail error
    | .ok amounts =>
      let created ← Prog.transactionCatch
        (createWithdrawalTx withdrawalId input amounts) fun error =>
        if error = .uniqueViolation then do
          let winner ← Prog.select fun db => db.withdrawal
          if winner.isSome then pure false else Prog.fail error
        else Prog.fail error
      Prog.when (created = true ∧ input.methodType = .bank) (assignToAgency env {})

/-! ### Agency side -/

/-- What follows an assignment that lapsed: one more attempt is counted, and when the attempts are
used up the platform takes the withdrawal. `true` asks for a reassignment. -/
def countAttempt (env : Environment) : WithdrawalTx Bool := do
  let assignmentCount ← incrementAssignmentCount
  if env.config.maxAssignmentAttempts ≤ assignmentCount then
    updateStatus { status := .pendingPlatform }
    pure false
  else pure true

def processSlaExpiryTx (env : Environment) (assignmentId : AssignmentId) : WithdrawalTx Bool := do
  let row ← Tx.select fun db => db.assignment assignmentId
  match row with
  | none => pure false
  | some a =>
    if a.status ≠ .pending ∨ env.now < a.expiresAt then pure false
    else
      updateAssignment a.id { status := .expired }
      countAttempt env

def processSlaExpiry (env : Environment) (assignmentId : AssignmentId) : WithdrawalProg Unit := do
  let row ← Prog.select fun db => db.assignment assignmentId
  match row with
  | none => pure ()
  | some a =>
    if a.status ≠ .pending ∨ env.now < a.expiresAt then pure ()
    else
      let shouldReassign ← Prog.transaction (processSlaExpiryTx env assignmentId)
      remove env.removed (.sla assignmentId)
      Prog.when shouldReassign (assignToAgency env {})

def agentRejectPayrollTx (env : Environment) (agentUserId : UserId) (assignmentId : AssignmentId)
    (reason : Option String) : WithdrawalTx Bool := do
  let row ← Tx.select fun db =>
    (db.assignment assignmentId).filter fun a => a.agencyUserId = agentUserId
  match row with
  | none => Tx.fail assignmentNotFound
  | some a =>
    Tx.ensure (a.status ≠ .waiting)
      (appError 400 "Assignment is under host review" .agentLockedOut)
    Tx.ensure (a.status = .pending ∧ env.now < a.expiresAt)
      (appError 400 "Assignment cannot be rejected" .invalidState)
    updateAssignment assignmentId
      { status := .rejected, rejectedAt := some (some env.now), rejectionReason := some reason }
    countAttempt env

def agentRejectPayroll (env : Environment) (agentUserId : UserId) (assignmentId : AssignmentId)
    (reason : Option String) : WithdrawalProg Unit := do
  let reassign ← Prog.transaction (agentRejectPayrollTx env agentUserId assignmentId reason)
  remove env.removed (.sla assignmentId)
  Prog.when reassign (assignToAgency env {})

def agentCompletePayrollTx (env : Environment) (agentUserId : UserId) (assignmentId : AssignmentId)
    (proof : ProofKey) : WithdrawalTx Unit := do
  let row ← Tx.select fun db =>
    (db.assignment assignmentId).filter fun a => a.agencyUserId = agentUserId
  match row with
  | none => Tx.fail assignmentNotFound
  | some a =>
    Tx.ensure (a.status ≠ .waiting)
      (appError 400 "Assignment is under host review" .agentLockedOut)
    Tx.ensure (a.status = .pending) (appError 400 "Assignment not active" .invalidState)
    Tx.ensure (env.now < a.expiresAt) (appError 400 "SLA expired" .slaExpired)
    updateAssignment assignmentId
      { status := .waiting, proofS3Key := some (some proof),
        waitingExpiresAt := some (some (env.now + hours env.config.waitingHours)) }
    updateStatus { status := .waiting }

def agentCompletePayroll (env : Environment) (agentUserId : UserId) (assignmentId : AssignmentId)
    (proof : ProofKey) : WithdrawalProg Unit := do
  Prog.ensure (proof.folder = .assignment assignmentId) invalidProofKey
  Prog.transaction (agentCompletePayrollTx env agentUserId assignmentId proof)
  remove env.removed (.sla assignmentId)
  enqueue (.waiting assignmentId)

/-! ### Admin completion -/

/-- Proof of a payout by the company: the withdrawal row itself goes into its waiting period. -/
def companyProof (env : Environment) (proof : ProofKey) : WithdrawalUpdate :=
  { status := .waiting, proofS3Key := some (some proof), payoutRef := some (some proof),
    waitingExpiresAt := some (some (env.now + hours env.config.waitingHours)) }

def adminCompletePlatformPayoutTx (env : Environment) (proof : ProofKey) : WithdrawalTx Unit := do
  let row ← Tx.select fun db => db.withdrawal
  match row with
  | none => Tx.fail withdrawalNotFound
  | some w =>
    Tx.ensure (isPlatformHandledWithdrawal w)
      (appError 400 "Complete is only for platform-handled EPAY withdrawals" .epayPlatformPayout)
    Tx.ensure (w.status = .pendingPlatform)
      (appError 400 "Withdrawal is not awaiting platform payout" .invalidState)
    updateStatus (companyProof env proof)

def adminCompletePlatformPayout (env : Environment) (withdrawalId : Nat) (proof : ProofKey) :
    WithdrawalProg Unit := do
  Prog.ensure (proof.folder = .platform withdrawalId) invalidProofKey
  Prog.transaction (adminCompletePlatformPayoutTx env proof)
  enqueue .platformWaiting

def requireCompanyAgencyUserId (env : Environment) : WithdrawalProg UserId :=
  match env.companyAgencyUserId with
  | some userId => pure userId
  | none => Prog.fail
      (appError 400 "COMPANY_AGENCY_USER_ID is not configured" .companyAgencyNotConfigured)

def adminCompletePayrollTakeoverTx (env : Environment) (proof : ProofKey) :
    WithdrawalTx Unit := do
  let row ← Tx.select fun db => db.withdrawal
  match row with
  | none => Tx.fail withdrawalNotFound
  | some w =>
    Tx.ensure (!isPlatformHandledWithdrawal w)
      (appError 400 "Use platform complete for EPAY withdrawals" .epayPlatformPayout)
    Tx.ensure (w.status = .pendingPlatform)
      (appError 400 "Withdrawal is not awaiting platform takeover" .invalidState)
    updateStatus (companyProof env proof)

def adminCompletePayrollTakeover (env : Environment) (withdrawalId : Nat) (proof : ProofKey) :
    WithdrawalProg Unit := do
  Prog.ensure (proof.folder = .takeover withdrawalId) invalidProofKey
  let _ ← requireCompanyAgencyUserId env
  Prog.transaction (adminCompletePayrollTakeoverTx env proof)
  enqueue .platformWaiting

structure ManualCompletion where
  assignmentId : AssignmentId
  /-- The open assignment whose SLA job has to be cleared. -/
  slaToClear : Option AssignmentId

def supersededReason (reason : Option String) : String :=
  "Superseded by admin manual completion for a different agency" ++
    (match reason with | none => "" | some r => ": " ++ r)

def adminCompletePayrollForAgencyTx (env : Environment) (agencyUserId : UserId)
    (proof : ProofKey) (reason : Option String) : WithdrawalTx ManualCompletion := do
  let waitingExpiresAt := env.now + hours env.config.waitingHours
  let row ← Tx.select fun db => db.withdrawal
  match row with
  | none => Tx.fail withdrawalNotFound
  | some w =>
    Tx.ensure (!isPlatformHandledWithdrawal w) (appError 400
      "EPAY withdrawals are paid by the platform - use the platform complete flow"
      .epayPlatformPayout)
    Tx.ensure (w.status = .pending ∨ w.status = .pendingPlatform)
      (appError 400 "Withdrawal is not awaiting an agency payout" .invalidState)
    Tx.ensure (agencyUserId ≠ w.userId) (appError 400
      "Payroll cannot be assigned to the withdrawer (agency owners cannot process their own payroll)"
      .payrollSelfAssignForbidden)
    Tx.ensure ((env.agencies.find? fun a => a.userId = agencyUserId).any (·.payrollOk env.now))
      (appError 400 "Agency is not eligible for payroll (privilege, accept-toggle, or pause)"
        .payrollAgencyIneligible)
    let openAssignment ← Tx.select fun db => db.openAssignment
    let slaToClear := (openAssignment.filter fun a => a.status = .pending).map (·.id)
    let created : PayrollAssignment :=
      { id := ⟨w.id, env.newSerial⟩, agencyUserId, expiresAt := waitingExpiresAt,
        status := .waiting, assignmentNumber := w.assignmentCount + 1,
        proofS3Key := some proof, waitingExpiresAt := some waitingExpiresAt }
    match openAssignment with
    | some a =>
      if a.agencyUserId = agencyUserId then
        updateAssignment a.id
          { status := .waiting, proofS3Key := some (some proof),
            waitingExpiresAt := some (some waitingExpiresAt) }
        updateStatus { status := .waiting }
        pure ⟨a.id, slaToClear⟩
      else
        updateAssignment a.id
          { status := .rejected, rejectedAt := some (some env.now),
            rejectionReason := some (some (supersededReason reason)) }
        let assignmentCount ← incrementAssignmentCount
        createAssignment { created with assignmentNumber := assignmentCount + 1 }
        updateStatus { status := .waiting }
        pure ⟨created.id, slaToClear⟩
    | none =>
      createAssignment created
      updateStatus { status := .waiting }
      pure ⟨created.id, slaToClear⟩

def adminCompletePayrollForAgency (env : Environment) (withdrawalId : Nat)
    (agencyUserId : UserId) (proof : ProofKey) (reason : Option String) :
    WithdrawalProg Unit := do
  Prog.ensure (proof.folder = .adminManual withdrawalId) invalidProofKey
  let done ← Prog.transaction (adminCompletePayrollForAgencyTx env agencyUserId proof reason)
  removeFor env .sla done.slaToClear
  enqueue (.waiting done.assignmentId)

/-! ### Settlement -/

/-- One credit to whoever paid the host; an amount of 0 writes no row. -/
def payrollCredit (env : Environment) (w : Withdrawal) (payeeUserId : UserId) (amount : Int)
    (txType : PointTxType) (key : LedgerKey) : LedgerTx Unit :=
  Tx.when (0 < amount) do
    let _ ← PointWallet.creditInTransaction env.now payeeUserId amount txType
      { idempotencyKey := key, refId := some (.withdrawal w.id), counterpartyId := some w.userId }
    pure ()

/-- `unconfirmedPoints: { decrement: amountPoints }` on the host's wallet. -/
def releaseUnconfirmed (w : Withdrawal) : LedgerTx Unit :=
  Tx.update (.wallet ⟨w.userId, .point⟩) fun db =>
    { db with unconfirmedPoints := fun u =>
        if u = w.userId then db.unconfirmedPoints u - w.amountPoints else db.unconfirmedPoints u }

/-- Credit the agency after the dispute window. Withdrawals created with a soft escrow (an escrow
row and no debit row) are settled on the host's ledger here; all others were debited at create. -/
def creditAgency (env : Environment) (w : Withdrawal) (agentUserId : UserId)
    (assignmentId : AssignmentId) : LedgerTx Unit := do
  payrollCredit env w agentUserId (withdrawalHostPayoutPoints w) .payrollHostPayout
    (.payrollHostPayout assignmentId)
  payrollCredit env w agentUserId (agentReward w) .payrollProcessingReward
    (.payrollReward assignmentId)
  let hardDebitAtCreate ← PointLedgerRepository.findByIdempotencyKey (.withdrawalDebit w.id)
  let softEscrowAtCreate ← PointLedgerRepository.findByIdempotencyKey (.withdrawalEscrow w.id)
  Tx.when (softEscrowAtCreate.isSome ∧ hardDebitAtCreate = none) do
    let _ ← PointWallet.debit w.userId w.amountPoints .withdrawalEscrowSettled
      { idempotencyKey := .withdrawalSettled assignmentId, refId := some (.withdrawal w.id),
        counterpartyId := some agentUserId, availabilityCheck := false, freezeCheck := false }
    releaseUnconfirmed w

/-- The withdrawal an assignment belongs to, as `include: { withdrawal: true }` returns it. -/
def WithdrawalDb.assignmentWithWithdrawal (db : WithdrawalDb) (assignmentId : AssignmentId) :
    Option (PayrollAssignment × Withdrawal) :=
  (db.assignment assignmentId).bind fun a => db.withdrawal.map fun w => (a, w)

/-- The amounts and the agency come from `pre`, read before the transaction; of the row read inside
it only the assignment's own status and expiry are checked, not the withdrawal's status. -/
def autoCompleteWaitingTx (env : Environment) (pre : PayrollAssignment × Withdrawal)
    (assignmentId : AssignmentId) : WithdrawalTx Unit := do
  let row ← Tx.select fun db => db.assignmentWithWithdrawal assignmentId
  match row with
  | none => pure ()
  | some (a, _) =>
    if a.status ≠ .waiting ∨ a.waitingExpiresAt.any (env.now < ·) then pure ()
    else
      updateAssignment assignmentId { status := .completed, completedAt := some (some env.now) }
      updateStatus
        { status := .paid, payoutRef := pre.1.proofS3Key.map some,
          processedAt := some (some env.now) }
      onMoney (creditAgency env pre.2 pre.1.agencyUserId assignmentId)

def autoCompleteWaiting (env : Environment) (assignmentId : AssignmentId) : WithdrawalProg Unit := do
  let pre ← Prog.select fun db => db.assignmentWithWithdrawal assignmentId
  match pre with
  | none => pure ()
  | some pre =>
    Prog.transaction (autoCompleteWaitingTx env pre assignmentId)
    remove env.removed (.waiting assignmentId)

/-- The guard of the two company auto-completions, before and inside the transaction. -/
def companyWaitingOver (env : Environment) (platform : Bool) (w : Withdrawal) : Bool :=
  w.status = .waiting && isPlatformHandledWithdrawal w == platform &&
    !w.waitingExpiresAt.any (env.now < ·)

def companyPaid (env : Environment) (w : Withdrawal) : WithdrawalUpdate :=
  { status := .paid, payoutRef := (w.proofS3Key <|> w.payoutRef).map some,
    processedAt := some (some env.now) }

def autoCompletePlatformWaitingTx (env : Environment) : WithdrawalTx Unit := do
  let row ← Tx.select fun db => db.withdrawal
  match row with
  | none => pure ()
  | some w =>
    if companyWaitingOver env true w then updateStatus (companyPaid env w) else pure ()

def autoCompletePlatformWaiting (env : Environment) : WithdrawalProg Unit := do
  let pre ← Prog.select fun db => db.withdrawal
  match pre with
  | none => pure ()
  | some pre =>
    if companyWaitingOver env true pre then
      Prog.transaction (autoCompletePlatformWaitingTx env)
      remove env.removed .platformWaiting
    else pure ()

def creditTakeover (env : Environment) (w : Withdrawal) (companyAgencyUserId : UserId) :
    LedgerTx Unit := do
  payrollCredit env w companyAgencyUserId (withdrawalHostPayoutPoints w) .payrollTakeoverInventory
    (.payrollTakeover w.id)
  payrollCredit env w companyAgencyUserId (agentReward w) .payrollProcessingReward
    (.payrollTakeoverReward w.id)

def autoCompleteTakeoverWaitingTx (env : Environment) (pre : Withdrawal)
    (companyAgencyUserId : UserId) : WithdrawalTx Unit := do
  let row ← Tx.select fun db => db.withdrawal
  match row with
  | none => pure ()
  | some w =>
    if companyWaitingOver env false w then
      updateStatus (companyPaid env w)
      onMoney (creditTakeover env pre companyAgencyUserId)
    else pure ()

def autoCompleteTakeoverWaiting (env : Environment) : WithdrawalProg Unit := do
  let pre ← Prog.select fun db => db.withdrawal
  match pre with
  | none => pure ()
  | some pre =>
    if companyWaitingOver env false pre then
      let companyAgencyUserId ← requireCompanyAgencyUserId env
      Prog.transaction (autoCompleteTakeoverWaitingTx env pre companyAgencyUserId)
      remove env.removed .platformWaiting
    else pure ()

/-! ### Disputes -/

/-- The 30 days in which a paid withdrawal can be disputed. -/
def disputeWindow : Time := 30 * 24 * 3600000

def disputeWithdrawal (env : Environment) (hostUserId : UserId) (ticketId : Nat) :
    WithdrawalProg Unit := do
  let found ← Prog.select fun db =>
    (db.withdrawal.filter fun w => w.userId = hostUserId).map fun w => (w, db.waitingAssignment)
  match found with
  | none => Prog.fail withdrawalNotFound
  | some (w, waitingAssignment) =>
    Prog.ensure w.disputeTicketId.isNone
      (appError 409 "Dispute already raised" .disputeAlreadyRaised)
    let isPlatformWaiting := decide (w.status = .waiting) && isPlatformHandledWithdrawal w
    let isWaitingPeriod :=
      (decide (w.status = .pending ∨ w.status = .waiting) && waitingAssignment.isSome) ||
        isPlatformWaiting
    Prog.ensure (w.status = .paid || isWaitingPeriod)
      (appError 400 "Withdrawal cannot be disputed in its current state" .invalidState)
    Prog.ensure (w.status ≠ .paid ∨ w.processedAt.isSome)
      (appError 400 "Missing processed timestamp" .invalidState)
    Prog.ensure (w.status ≠ .paid ∨ w.processedAt.all fun t => decide (env.now ≤ t + disputeWindow))
      (appError 400 "Dispute window expired" .disputeWindowExpired)
    Prog.autocommit .withdrawal fun db => db.modify
      (·.apply { status := .disputed, disputeTicketId := some (some ticketId) })
    removeFor env .waiting (waitingAssignment.map (·.id))
    Prog.when isPlatformWaiting (remove env.removed .platformWaiting)

def adminResolvePlatformDisputePaidTx (env : Environment) : WithdrawalTx Unit := do
  let row ← Tx.select fun db => db.withdrawal
  match row with
  | none => pure ()
  | some w =>
    if w.status ≠ .disputed then pure ()
    else
      updateStatus
        { companyPaid env w with disputeTicketId := some none, failReason := some none }

private def notPlatformDispute : LedgerError :=
  appError 400 "Withdrawal is not a platform dispute" .invalidState

def adminResolvePlatformDisputePaid (env : Environment) : WithdrawalProg Unit := do
  let pre ← Prog.select fun db => db.withdrawal
  match pre with
  | none => Prog.fail withdrawalNotFound
  | some pre =>
    Prog.ensure (pre.status = .disputed && isPlatformHandledWithdrawal pre) notPlatformDispute
    Prog.transaction (adminResolvePlatformDisputePaidTx env)
    remove env.removed .platformWaiting

/-- The credit that returns the full gross to the host. -/
def refundHost (env : Environment) (w : Withdrawal) : LedgerTx Unit := do
  let _ ← PointWallet.creditInTransaction env.now w.userId w.amountPoints .withdrawalRefund
    { idempotencyKey := .withdrawalRefund w.id, refId := some (.withdrawal w.id) }
  pure ()

def adminResolvePlatformDisputeRefundTx (env : Environment) (reason : String) :
    WithdrawalTx Unit := do
  let row ← Tx.select fun db => db.withdrawal
  match row with
  | none => pure ()
  | some w =>
    if w.status ≠ .disputed then pure ()
    else
      let hardDebitAtCreate ←
        onMoney (PointLedgerRepository.findByIdempotencyKey (.withdrawalDebit w.id))
      Tx.when hardDebitAtCreate.isSome (onMoney (refundHost env w))
      updateStatus
        { status := .failed, failReason := some (some reason), disputeTicketId := some none }

def adminResolvePlatformDisputeRefund (env : Environment) (reason : String) :
    WithdrawalProg Unit := do
  let pre ← Prog.select fun db => db.withdrawal
  match pre with
  | none => Prog.fail withdrawalNotFound
  | some pre =>
    Prog.ensure (pre.status = .disputed && isPlatformHandledWithdrawal pre) notPlatformDispute
    Prog.transaction (adminResolvePlatformDisputeRefundTx env reason)
    remove env.removed .platformWaiting

/-- The disputed withdrawal and its WAITING assignment, as both bank resolutions re-read them. -/
def WithdrawalDb.disputedWith (db : WithdrawalDb) (assignmentId : AssignmentId) : Bool :=
  db.withdrawal.any (·.status = .disputed) &&
    (db.assignment assignmentId).any (·.status = .waiting)

def adminResolveDisputeFavourAgentTx (env : Environment) (pre : Withdrawal)
    (assignment : PayrollAssignment) : WithdrawalTx Unit := do
  let disputed ← Tx.select fun db => db.disputedWith assignment.id
  if disputed then
    updateAssignment assignment.id { status := .completed, completedAt := some (some env.now) }
    updateStatus
      { status := .paid, payoutRef := assignment.proofS3Key.map some,
        processedAt := some (some env.now) }
    Tx.update .withdrawal fun db => db.modify fun w =>
      { w with disputeTicketId := none, failReason := none }
    onMoney (creditAgency env pre assignment.agencyUserId assignment.id)
  else pure ()

private def notDisputed : LedgerError := appError 400 "Withdrawal is not disputed" .invalidState

private def waitingAssignmentNotFound : LedgerError :=
  appError 404 "Waiting assignment not found" .notFound

def adminResolveDisputeFavourAgent (env : Environment) : WithdrawalProg Unit := do
  let found ← Prog.select fun db => db.withdrawal.map fun w => (w, db.waitingAssignment)
  match found with
  | none => Prog.fail withdrawalNotFound
  | some (pre, waitingAssignment) =>
    Prog.ensure (pre.status = .disputed) notDisputed
    if isPlatformHandledWithdrawal pre then adminResolvePlatformDisputePaid env
    else match waitingAssignment with
      | none => Prog.fail waitingAssignmentNotFound
      | some assignment =>
        Prog.transaction (adminResolveDisputeFavourAgentTx env pre assignment)
        remove env.removed (.waiting assignment.id)

/-- Claw back one credit of the agency, if it was made. -/
def reverseCredit (w : Withdrawal) (agentUserId : UserId) (amount : Int)
    (credit reversal : LedgerKey) : LedgerTx Unit :=
  Tx.when (0 < amount) do
    let existing ← PointLedgerRepository.findByIdempotencyKey credit
    Tx.when existing.isSome do
      let _ ← PointWallet.debit agentUserId amount .adjustment
        { idempotencyKey := reversal, refId := some (.withdrawal w.id),
          availabilityCheck := false }
      pure ()

/-- Both credits an agency may have received for an assignment. -/
def reverseAgencyCredits (w : Withdrawal) (agentUserId : UserId) (assignmentId : AssignmentId) :
    LedgerTx Unit := do
  reverseCredit w agentUserId (withdrawalHostPayoutPoints w) (.payrollHostPayout assignmentId)
    (.payrollHostPayoutReversal assignmentId)
  reverseCredit w agentUserId (agentReward w) (.payrollReward assignmentId)
    (.payrollRewardReversal assignmentId)

def adminResolveDisputeFavourHostTx (env : Environment) (pre : Withdrawal)
    (assignment : PayrollAssignment) (reason : String) : WithdrawalTx Unit := do
  let disputed ← Tx.select fun db => db.disputedWith assignment.id
  if disputed then
    onMoney (reverseAgencyCredits pre assignment.agencyUserId assignment.id)
    updateAssignment assignment.id
      { status := .rejected, rejectedAt := some (some env.now),
        rejectionReason := some (some reason) }
    Tx.update .withdrawal fun db => db.modify fun w =>
      { w with
        status := .pending, disputeTicketId := none, assignmentCount := w.assignmentCount + 1 }
  else pure ()

def adminResolveDisputeFavourHost (env : Environment) (reason : String)
    (overrideAgencyUserId : Option UserId) : WithdrawalProg Unit := do
  let found ← Prog.select fun db => db.withdrawal.map fun w => (w, db.waitingAssignment)
  match found with
  | none => Prog.fail withdrawalNotFound
  | some (pre, waitingAssignment) =>
    Prog.ensure (pre.status = .disputed) notDisputed
    if isPlatformHandledWithdrawal pre then adminResolvePlatformDisputeRefund env reason
    else match waitingAssignment with
      | none => Prog.fail waitingAssignmentNotFound
      | some assignment =>
        Prog.transaction (adminResolveDisputeFavourHostTx env pre assignment reason)
        remove env.removed (.waiting assignment.id)
        assignToAgency env
          { overrideAgencyUserId := some (overrideAgencyUserId.getD assignment.agencyUserId),
            allowBeyondAssignmentCap := true }

/-! ### Reversal -/

/-- `ADMIN_WITHDRAWAL_REVERT_MAX_AGE_MS`: four days. -/
def adminWithdrawalRevertMaxAge : Time := 4 * 24 * 3600000

def reversibleStatuses : List WithdrawalStatus :=
  [.paid, .disputed, .pending, .pendingPlatform, .waiting]

def isAdminWithdrawalRevertable (w : Withdrawal) (now : Time) : Bool :=
  reversibleStatuses.contains w.status &&
    w.processedAt.all fun t => decide (now ≤ t + adminWithdrawalRevertMaxAge)

/-- What `adminReverseWithdrawal` read before its transaction. -/
structure ReversalReads where
  withdrawal : Withdrawal
  completed : Option PayrollAssignment
  waitingAssignment : Option PayrollAssignment
  openAssignment : Option PayrollAssignment

/-- `findWaitingByWithdrawalId`. -/
def WithdrawalDb.newestWaiting (db : WithdrawalDb) : Option PayrollAssignment :=
  (db.assignments.filter fun a => a.status = .waiting).getLast?

/-- The reads, when nothing changes between them. -/
def WithdrawalDb.reversalReads (db : WithdrawalDb) (w : Withdrawal) : ReversalReads :=
  ⟨w, db.completedAssignment, db.newestWaiting, db.openAssignment⟩

/-- `waitingAssignment ?? completed`. -/
def ReversalReads.creditAssignment (r : ReversalReads) : Option PayrollAssignment :=
  r.waitingAssignment <|> r.completed

def ReversalReads.reverseCredits (r : ReversalReads) : WithdrawalTx Unit :=
  match r.creditAssignment with
  | some a => onMoney (reverseAgencyCredits r.withdrawal a.agencyUserId a.id)
  | none => pure ()

def ReversalReads.expireOpenAssignment (r : ReversalReads) (reason : String) :
    WithdrawalTx Unit :=
  match r.openAssignment with
  | some a =>
    updateAssignment a.id
      { status := .expired, rejectionReason := some (some ("Withdrawal reversed: " ++ reason)) }
  | none => pure ()

def adminReverseWithdrawalTx (env : Environment) (r : ReversalReads) (reason : String) :
    WithdrawalTx Unit := do
  let w := r.withdrawal
  let wasSettled := decide (w.status = .paid)
  let hardDebitAtCreate ←
    onMoney (PointLedgerRepository.findByIdempotencyKey (.withdrawalDebit w.id))
  let softEscrowAtCreate ←
    onMoney (PointLedgerRepository.findByIdempotencyKey (.withdrawalEscrow w.id))
  Tx.when (hardDebitAtCreate.isSome ∨ wasSettled ∨ w.withdrawalVersion ≠ 2)
    (onMoney (refundHost env w))
  Tx.when (softEscrowAtCreate.isSome ∧ wasSettled = false) (onMoney (releaseUnconfirmed w))
  r.reverseCredits
  r.expireOpenAssignment reason
  updateStatus { status := .failed, failReason := some (some reason) }

def adminReverseWithdrawal (env : Environment) (reason : String) (bypassAgeLimit : Bool) :
    WithdrawalProg Withdrawal := do
  let row ← Prog.select fun db => db.withdrawal
  match row with
  | none => Prog.fail withdrawalNotFound
  | some w =>
    if w.status = .failed then pure w
    else
      Prog.ensure (reversibleStatuses.contains w.status)
        (appError 400 "Withdrawal cannot be reversed" .invalidState)
      Prog.ensure (bypassAgeLimit || isAdminWithdrawalRevertable w env.now)
        (appError 400 "Withdrawal can only be reversed within 4 days of payment"
          .withdrawalRevertWindowExpired)
      let completed ← Prog.select fun db => db.completedAssignment
      let waitingAssignment ← Prog.select fun db => db.newestWaiting
      let openAssignment ← Prog.select fun db => db.openAssignment
      Prog.transaction (adminReverseWithdrawalTx env
        ⟨w, completed, waitingAssignment, openAssignment⟩ reason)
      removeFor env .sla (openAssignment.map (·.id))
      removeFor env .waiting ((openAssignment.filter fun a => a.status = .waiting).map (·.id))
      Prog.when (isPlatformHandledWithdrawal w) (remove env.removed .platformWaiting)
      let after ← Prog.select fun db => db.withdrawal
      pure (after.getD w)

/-! ### Scheduled jobs -/

/-- A `waiting` job runs only while it is queued. -/
def processWaitingAutoComplete (env : Environment) (assignmentId : AssignmentId) :
    WithdrawalProg Unit := do
  let queued ← Prog.select fun db => db.jobs.contains (.waiting assignmentId)
  let row ← Prog.select fun db => db.assignment assignmentId
  match row with
  | none => pure ()
  | some a =>
    if queued ∧ a.status = .waiting ∧ a.waitingExpiresAt.all (fun t => decide (t ≤ env.now)) then
      autoCompleteWaiting env assignmentId
    else pure ()

def processPlatformWaitingAutoComplete (env : Environment) : WithdrawalProg Unit := do
  let queued ← Prog.select fun db => db.jobs.contains .platformWaiting
  let row ← Prog.select fun db => db.withdrawal
  match row with
  | none => pure ()
  | some w =>
    if queued ∧ w.status = .waiting ∧ w.waitingExpiresAt.all (fun t => decide (t ≤ env.now)) then
      if isPlatformHandledWithdrawal w then autoCompletePlatformWaiting env
      else autoCompleteTakeoverWaiting env
    else pure ()

/-- The sweep that re-enqueues an overdue company waiting job. -/
def requeuePlatformWaiting (env : Environment) : WithdrawalProg Unit := do
  let row ← Prog.select fun db => db.withdrawal
  match row with
  | none => pure ()
  | some w =>
    if w.status = .waiting ∧ w.waitingExpiresAt.any (· < env.now) ∧
        (isPlatformHandledWithdrawal w ∨ w.proofS3Key.isSome) then enqueue .platformWaiting
    else pure ()

end OlNode
