import OlNode.ReadCommitted.Exclusive
import OlNode.Withdrawal.Frame

/-!
# The company's cash journal

`companyCashService.record` and the two completions that write it. Both complete the withdrawal in
a transaction of its own and write the cash entry afterwards, with the row they read at first; the
table has no unique index. All other requests leave the journal alone, also those that pay a
disputed withdrawal or take back a paid one. Admins may write entries by hand.

US dollar amounts of the journal have four decimals, those of a withdrawal two.
-/
namespace OlNode.CompanyCash

open ReadCommitted Withdrawals

inductive CompanyCashDirection where
  | incoming | outgoing
  deriving DecidableEq

inductive CompanyCashReason where
  | agencyTradingPurchase | epayPayout | payrollTakeoverPayout
  deriving DecidableEq

/-- A row of `company_cash_entries`; `amountUsd` counts 1/10000 of a dollar. -/
structure CompanyCashEntry where
  direction : CompanyCashDirection
  reason : CompanyCashReason
  amountUsd : Int
  unitsAmount : Option Int
  counterpartyUserId : Option UserId
  withdrawalId : Option Nat
  deriving DecidableEq

structure CashDb where
  payroll : WithdrawalDb
  cash : List CompanyCashEntry

abbrev CashProg := Prog CashDb Lock LedgerError

def setPayroll (payroll : WithdrawalDb) (db : CashDb) : CashDb := { db with payroll }

/-- A part of the withdrawal service, which does not see the journal. -/
def onPayroll {α : Type} (p : WithdrawalProg α) : CashProg α :=
  p.embed CashDb.payroll setPayroll id

def onPayrollTx {α : Type} (x : WithdrawalTx α) : Tx CashDb Lock LedgerError α :=
  x.zoom CashDb.payroll setPayroll

/-- `host_payout_usd` in cents: points are 1/10000 of a dollar, and the column rounds them. -/
def hostPayoutUsd (w : Withdrawal) : Int :=
  let points := withdrawalHostPayoutPoints w
  if 0 ≤ points then (points + 50) / 100 else -((50 - points) / 100)

/-- The reason the completion of a withdrawal gives. -/
def payoutReason (w : Withdrawal) : CompanyCashReason :=
  if isPlatformHandledWithdrawal w then .epayPayout else .payrollTakeoverPayout

def payoutEntry (withdrawalId : Nat) (w : Withdrawal) : CompanyCashEntry :=
  { direction := .outgoing, reason := payoutReason w, amountUsd := hostPayoutUsd w * 100,
    unitsAmount := some (withdrawalHostPayoutPoints w), counterpartyUserId := some w.userId,
    withdrawalId := some withdrawalId }

/-- `companyCashService.record`. -/
def record (entry : CompanyCashEntry) : CashProg Unit := do
  Prog.ensure (0 < entry.amountUsd) (.app
    { status := 400, message := "Cash amount must be positive", code := .invalidRequest })
  Prog.autocommit .companyCash fun db => { db with cash := db.cash ++ [entry] }

/-- `companyCashRepository.findByWithdrawalReason`, without its order. -/
def findByWithdrawalReason (withdrawalId : Nat) (reason : CompanyCashReason) (db : CashDb) :
    Option CompanyCashEntry :=
  db.cash.find? fun entry => entry.withdrawalId = some withdrawalId ∧ entry.reason = reason

/-- What both completions do after their transaction, with the row read before it. -/
def recordPayout (withdrawalId : Nat) (pre : Withdrawal) : CashProg Unit := do
  let existingCash ← Prog.select (findByWithdrawalReason withdrawalId (payoutReason pre))
  Prog.when (existingCash = none ∧ 0 < hostPayoutUsd pre) (record (payoutEntry withdrawalId pre))

/-- What follows the transaction of a completion. -/
def afterCompletion (env : Environment) (withdrawalId : Nat) (pre : Withdrawal) :
    CashProg Unit := do
  onPayroll (remove env.removed .platformWaiting)
  recordPayout withdrawalId pre

def readWithdrawal : CashProg (Option Withdrawal) := Prog.select fun db => db.payroll.withdrawal

def autoCompletePlatformWaiting (env : Environment) (withdrawalId : Nat) : CashProg Unit := do
  let pre ← readWithdrawal
  match pre with
  | none => pure ()
  | some pre =>
    if companyWaitingOver env true pre then
      Prog.transaction (onPayrollTx (autoCompletePlatformWaitingTx env))
      afterCompletion env withdrawalId pre
    else pure ()

def autoCompleteTakeoverWaiting (env : Environment) (withdrawalId : Nat) : CashProg Unit := do
  let pre ← readWithdrawal
  match pre with
  | none => pure ()
  | some pre =>
    if companyWaitingOver env false pre then
      let companyAgencyUserId ← onPayroll (requireCompanyAgencyUserId env)
      Prog.transaction (onPayrollTx (autoCompleteTakeoverWaitingTx env pre companyAgencyUserId))
      afterCompletion env withdrawalId pre
    else pure ()

def processPlatformWaitingAutoComplete (env : Environment) (withdrawalId : Nat) :
    CashProg Unit := do
  let queued ← Prog.select fun db => db.payroll.jobs.contains .platformWaiting
  let row ← readWithdrawal
  match row with
  | none => pure ()
  | some w =>
    if queued ∧ w.status = .waiting ∧ w.waitingExpiresAt.all (fun t => decide (t ≤ env.now)) then
      if isPlatformHandledWithdrawal w then autoCompletePlatformWaiting env withdrawalId
      else autoCompleteTakeoverWaiting env withdrawalId
    else pure ()

inductive Request where
  | payroll (request : Withdrawals.Request)
  /-- An entry an admin writes by hand. -/
  | journal (entry : CompanyCashEntry)

/-- The job that ends the company's waiting period is the one request of the withdrawal service
that writes the journal. -/
def handler (id : Nat) : Request → CashProg Unit
  | .payroll (.platformWaitingJob env) => processPlatformWaitingAutoComplete env id
  | .payroll request => onPayroll (Withdrawals.handler id request)
  | .journal entry => record entry

def Request.completes : Request → Bool
  | .payroll (.platformWaitingJob _) => true
  | _ => false

def Request.creates : Request → Bool
  | .payroll (.create ..) => true
  | _ => false

/-! ### The statement -/

/-- A withdrawal the company pays: by the platform, or taken over from an agency. Only a takeover
gives a bank withdrawal a waiting period of its own. -/
def Company (w : Withdrawal) : Prop :=
  isPlatformHandledWithdrawal w = true ∨ w.waitingExpiresAt.isSome

instance (w : Withdrawal) : Decidable (Company w) := inferInstanceAs (Decidable (_ ∨ _))

def payouts (id : Nat) (db : CashDb) : List CompanyCashEntry :=
  db.cash.filter fun entry => entry.direction = .outgoing ∧ entry.withdrawalId = some id

abbrev CashConfig := Config Request CashDb Lock LedgerError

/-- The journal mirrors the payout: no entry unless the withdrawal is PAID, and then exactly the
one for its payout, unless the completion that is to write it is still in progress. -/
structure Mirrors (id : Nat) (c : CashConfig) : Prop where
  unpaid : ∀ w, c.db.payroll.withdrawal = some w → Company w → w.status ≠ .paid →
    payouts id c.db = []
  paid : ∀ w, c.db.payroll.withdrawal = some w → Company w → w.status = .paid →
    payouts id c.db = [payoutEntry id w] ∨
      (payouts id c.db = [] ∧
        ∃ t ∈ c.threads, t.request.completes = true ∧ t.prog.finished = false)

/-- An entry that counts as a payout of the withdrawal, or is taken for one by a completion. -/
def countsFor (id : Nat) (entry : CompanyCashEntry) : Bool :=
  entry.withdrawalId = some id &&
    (entry.direction = .outgoing || entry.reason ≠ .agencyTradingPurchase)

def booked (id : Nat) (db : CashDb) : List CompanyCashEntry := db.cash.filter (countsFor id)

def Due (db : CashDb) : Prop :=
  ∃ w, db.payroll.withdrawal = some w ∧ Company w ∧ w.status = .paid

/-- Status and waiting period of the withdrawal. -/
def stage (db : CashDb) : Option (WithdrawalStatus × Option Time) :=
  db.payroll.withdrawal.map fun w => (w.status, w.waitingExpiresAt)

/-- A commit of a request other than the completion: a PAID withdrawal that is the company's, or
has an entry, stays PAID; none becomes one the company has paid; no entry for it is written; and a
creation does not replace the row. -/
structure Spares (id : Nat) (request : Request) (s t : CashDb) : Prop where
  stays : ∀ w ∈ s.payroll.withdrawal, w.status = .paid → (Company w ∨ booked id s ≠ []) →
    ∀ w' ∈ t.payroll.withdrawal, w'.status = .paid
  pays : Due t → Due s
  journal : booked id t = booked id s
  inserts : request.creates = true → KeepsTerms s.payroll t.payroll

def Idle (c : CashConfig) : Prop :=
  ∀ t ∈ c.threads, t.request.completes = true → t.prog.finished = true

/-- The condition on a run. Completions do not overlap, pay at least a cent, and do not die between
the payment and its entry. The other requests leave the paid withdrawal and its entry alone, and
while a completion is in progress also the status and the waiting period. -/
def Faithful (id : Nat) (c : CashConfig) : Event Request → Prop
  | .start request => request.completes = true →
      Idle c ∧ ∀ w ∈ c.db.payroll.withdrawal, 0 < hostPayoutUsd w
  | .advance i => ∀ t next, c.threads[i]? = some t → t.prog = .commit next →
      t.request.completes = false → Spares id t.request c.db (t.view c.db) ∧
        (Idle c ∨ stage (t.view c.db) = stage c.db)
  | .crash i => ∀ t, c.threads[i]? = some t → t.request.completes = true →
      Due c.db → booked id c.db ≠ []

/-! ### The books at rest -/

theorem hostPayoutPoints_congr {w w' : Withdrawal} (same : SameTerms w w') :
    withdrawalHostPayoutPoints w' = withdrawalHostPayoutPoints w := by
  simp only [withdrawalHostPayoutPoints, same.amountPoints, same.platformFeePoints,
    same.serviceFeePoints]

theorem hostPayoutUsd_congr {w w' : Withdrawal} (same : SameTerms w w') :
    hostPayoutUsd w' = hostPayoutUsd w := by
  simp only [hostPayoutUsd, hostPayoutPoints_congr same]

theorem payoutEntry_congr {id : Nat} {w w' : Withdrawal} (same : SameTerms w w') :
    payoutEntry id w' = payoutEntry id w := by
  have platform : isPlatformHandledWithdrawal w' = isPlatformHandledWithdrawal w := by
    simp only [isPlatformHandledWithdrawal, same.methodType, same.payoutHandler]
  simp only [payoutEntry, payoutReason, hostPayoutUsd_congr same, hostPayoutPoints_congr same,
    platform, same.userId]

/-- There is no entry, or the one for a PAID withdrawal. -/
def Books (id : Nat) (db : CashDb) : Prop :=
  booked id db = [] ∨ ∃ w, db.payroll.withdrawal = some w ∧ w.status = .paid ∧
    booked id db = [payoutEntry id w]

def Recorded (id : Nat) (db : CashDb) : Prop := Due db → booked id db ≠ []

/-- The withdrawal is the one read as `pre`, with another status at most, and has no entry. -/
structure Standing (id : Nat) (pre : Withdrawal) (status : WithdrawalStatus) (db : CashDb) :
    Prop where
  unbooked : booked id db = []
  row : ∃ w, db.payroll.withdrawal = some w ∧ SameTerms pre w ∧ w.status = status ∧
    w.waitingExpiresAt = pre.waitingExpiresAt

/-- What the others do while a completion is in progress. -/
structure Meanwhile (id : Nat) (s t : CashDb) : Prop where
  terms : KeepsTerms s.payroll t.payroll
  stage : stage t = stage s
  journal : booked id t = booked id s

section Meanwhile

variable {id : Nat} {s t : CashDb}

theorem Meanwhile.of_eq (row : t.payroll.withdrawal = s.payroll.withdrawal)
    (cash : t.cash = s.cash) : Meanwhile id s t where
  terms := keepsTerms_of_row row
  stage := by simp [CompanyCash.stage, row]
  journal := by simp [booked, cash]

theorem Meanwhile.row (moved : Meanwhile id s t) {w : Withdrawal}
    (row : s.payroll.withdrawal = some w) : ∃ w', t.payroll.withdrawal = some w' ∧
      SameTerms w w' ∧ w'.status = w.status ∧ w'.waitingExpiresAt = w.waitingExpiresAt := by
  obtain ⟨w', row', same⟩ := moved.terms w row
  have stages := moved.stage
  simp only [CompanyCash.stage, row, row', Option.map_some, Option.some.injEq, Prod.mk.injEq]
    at stages
  exact ⟨w', row', same, stages⟩

theorem Meanwhile.row_back (moved : Meanwhile id s t) {w' : Withdrawal}
    (row' : t.payroll.withdrawal = some w') : ∃ w, s.payroll.withdrawal = some w ∧
      SameTerms w w' ∧ w'.status = w.status ∧ w'.waitingExpiresAt = w.waitingExpiresAt := by
  cases row : s.payroll.withdrawal with
  | none =>
    have stages := moved.stage
    simp [CompanyCash.stage, row, row'] at stages
  | some w =>
    obtain ⟨w'', found, same⟩ := moved.row row
    rw [row', Option.some.injEq] at found
    subst found
    exact ⟨w, rfl, same⟩

theorem company_congr {w w' : Withdrawal} (same : SameTerms w w')
    (waiting : w'.waitingExpiresAt = w.waitingExpiresAt) : Company w' ↔ Company w := by
  simp only [Company, isPlatformHandledWithdrawal, same.methodType, same.payoutHandler, waiting]

theorem Meanwhile.due (moved : Meanwhile id s t) : Due t ↔ Due s := by
  constructor
  · rintro ⟨w', row', company, paid⟩
    obtain ⟨w, row, same, status, waiting⟩ := moved.row_back row'
    exact ⟨w, row, (company_congr same waiting).mp company, status ▸ paid⟩
  · rintro ⟨w, row, company, paid⟩
    obtain ⟨w', row', same, status, waiting⟩ := moved.row row
    exact ⟨w', row', (company_congr same waiting).mpr company, status.trans paid⟩

theorem Meanwhile.books (moved : Meanwhile id s t) (books : Books id s) : Books id t := by
  rcases books with nothing | ⟨w, row, paid, entry⟩
  · exact .inl (moved.journal.trans nothing)
  · obtain ⟨w', row', same, status, -⟩ := moved.row row
    refine .inr ⟨w', row', status.trans paid, ?_⟩
    rw [moved.journal, entry, payoutEntry_congr same]

theorem Meanwhile.standing (moved : Meanwhile id s t) {pre : Withdrawal}
    {status : WithdrawalStatus} (standing : Standing id pre status s) :
    Standing id pre status t := by
  obtain ⟨unbooked, w, row, same, statusIs, waiting⟩ := standing
  obtain ⟨w', row', same', status', waiting'⟩ := moved.row row
  exact ⟨moved.journal.trans unbooked, w', row', same.trans same', status'.trans statusIs,
    waiting'.trans waiting⟩

end Meanwhile

/-- Completions are served one at a time, and leave what they have paid entered. -/
def completion (id : Nat) : Discipline Request CashDb where
  mine request := request.completes = true
  env := Meanwhile id
  step s t := Books id s → Books id t
  rest s := Books id s ∧ Recorded id s
  mayStop := Recorded id
  refl s := .of_eq rfl rfl
  trans s t u first second := ⟨first.terms.trans second.terms,
    second.stage.trans first.stage, second.journal.trans first.journal⟩
  rest_stable s t moved rest := by
    refine ⟨moved.books rest.1, fun due => ?_⟩
    rw [moved.journal]
    exact rest.2 (moved.due.mp due)
  mayStop_stable s t moved recorded due := by
    rw [← moved.journal]
    exact recorded (moved.due.mpr due)

/-! ### The completion -/

section Completion

variable {id : Nat} {env : Environment} {pre : Withdrawal} {s : CashDb}

theorem Standing.recorded {status : WithdrawalStatus} (standing : Standing id pre status s)
    (unpaid : status ≠ .paid) : Recorded id s := by
  rintro ⟨w, row, -, paid⟩
  obtain ⟨-, w', row', -, statusIs, -⟩ := standing
  cases row.symm.trans row'
  exact absurd (statusIs.symm.trans paid) unpaid

theorem Standing.rest {status : WithdrawalStatus} (standing : Standing id pre status s)
    (unpaid : status ≠ .paid) : (completion id).rest s :=
  ⟨.inl standing.unbooked, standing.recorded unpaid⟩

theorem findByWithdrawalReason_none (unbooked : booked id s = []) :
    findByWithdrawalReason id (payoutReason pre) s = none := by
  rw [findByWithdrawalReason, List.find?_eq_none]
  intro entry member found
  simp only [decide_eq_true_eq] at found
  have counts : countsFor id entry = true := by
    have reason : entry.reason ≠ .agencyTradingPurchase := by
      rw [found.2, payoutReason]
      split <;> simp
    simp [countsFor, found.1, reason]
  have listed : entry ∈ booked id s := List.mem_filter.mpr ⟨member, counts⟩
  rw [unbooked] at listed
  exact absurd listed List.not_mem_nil

theorem countsFor_payoutEntry : countsFor id (payoutEntry id pre) = true := by
  simp [countsFor, payoutEntry]

section

variable (standing : Standing id pre .paid s) (cents : 0 < hostPayoutUsd pre)
include standing cents

theorem record_serves :
    (record (payoutEntry id pre)).Serves (completion id) (fun _ t => (completion id).rest t)
      (fun db => db) s := by
  refine Prog.serves_ensure_bind (fun refused => ?_) fun _ => Prog.serves_autocommit ?_
  · have positive : 0 < (payoutEntry id pre).amountUsd := by
      simp only [payoutEntry]
      omega
    simp [positive] at refused
  · intro t moved
    obtain ⟨unbooked, w, row, same, paid, -⟩ := moved.standing standing
    have entered : booked id { t with cash := t.cash ++ [payoutEntry id pre] } =
        [payoutEntry id w] := by
      have before : t.cash.filter (countsFor id) = [] := unbooked
      rw [booked, List.filter_append, before, payoutEntry_congr same]
      simp [countsFor_payoutEntry]
    have books : Books id { t with cash := t.cash ++ [payoutEntry id pre] } :=
      .inr ⟨w, row, paid, entered⟩
    have recorded : Recorded id { t with cash := t.cash ++ [payoutEntry id pre] } := by
      intro _
      simp [entered]
    exact ⟨fun _ => books, fun _ => ⟨books, recorded⟩, books, recorded⟩

theorem recordPayout_serves :
    (recordPayout id pre).Serves (completion id) (fun _ t => (completion id).rest t)
      (fun db => db) s := by
  refine Prog.serves_select fun t moved => ?_
  have still := moved.standing standing
  rw [findByWithdrawalReason_none still.unbooked, Prog.when, if_pos ⟨rfl, cents⟩]
  exact record_serves still cents

theorem afterCompletion_serves :
    (afterCompletion env id pre).Serves (completion id) (fun _ t => (completion id).rest t)
      (fun db => db) s := by
  refine .bind (Prog.serves_autocommit fun t moved => ?_)
  -- Taking the job from the queue touches neither the row nor the journal.
  have same : Meanwhile id t (setPayroll (if env.removed .platformWaiting then
      { t.payroll with jobs := t.payroll.jobs.filter (· ≠ .platformWaiting) }
      else t.payroll) t) := by
    split <;> exact .of_eq rfl rfl
  have after := same.standing (moved.standing standing)
  exact ⟨same.books, fun recorded => ⟨.inl after.unbooked, recorded⟩,
    recordPayout_serves after cents⟩

end

theorem commitsTo_paid {w : CashDb → CashDb} {next : CashDb → Prop}
    (pays : ∀ t, Standing id pre .waiting t → Standing id pre .paid (w t))
    (standing : Standing id pre .waiting s) (rest : ∀ t, Standing id pre .paid t → next t) :
    Prog.CommitsTo (completion id) next w s := by
  intro t moved
  have after := pays t (moved.standing standing)
  exact ⟨fun _ => .inl after.unbooked, fun recorded => ⟨.inl after.unbooked, recorded⟩,
    rest _ after⟩

/-- The waiting period is over for the row of the transaction as well. -/
theorem companyWaitingOver_standing {platform : Bool} {w : Withdrawal}
    (expired : companyWaitingOver env platform pre = true) (same : SameTerms pre w)
    (waiting : w.status = .waiting) (period : w.waitingExpiresAt = pre.waitingExpiresAt) :
    companyWaitingOver env platform w = true := by
  simp only [companyWaitingOver, isPlatformHandledWithdrawal, same.methodType,
    same.payoutHandler, waiting, period, Bool.and_eq_true] at expired ⊢
  exact ⟨⟨by simp, expired.1.2⟩, expired.2⟩

theorem standing_paid {v : Withdrawal} (standing : Standing id pre .waiting s) :
    Standing id pre .paid
      (setPayroll (s.payroll.modify (·.apply (companyPaid env v))) s) := by
  obtain ⟨unbooked, w, row, same, -, waiting⟩ := standing
  refine ⟨unbooked, w.apply (companyPaid env v), ?_, ?_, rfl, waiting⟩
  · simp [setPayroll, WithdrawalDb.modify, row]
  · exact same.trans (sameTerms_apply (by simp [companyPaid]) w)

theorem standing_waiting {platform : Bool} (rest : (completion id).rest s)
    (row : s.payroll.withdrawal = some pre)
    (expired : companyWaitingOver env platform pre = true) : Standing id pre .waiting s := by
  have waiting : pre.status = .waiting := by
    simp only [companyWaitingOver, Bool.and_eq_true, decide_eq_true_eq] at expired
    exact expired.1.1
  refine ⟨?_, pre, row, .refl pre, waiting, rfl⟩
  rcases rest.1 with nothing | ⟨w, row', paid, -⟩
  · exact nothing
  · cases row.symm.trans row'
    rw [waiting] at paid
    cases paid

theorem cents_moved {t : CashDb} (moved : Meanwhile id s t)
    (cents : ∀ w ∈ s.payroll.withdrawal, 0 < hostPayoutUsd w)
    (row : t.payroll.withdrawal = some pre) : 0 < hostPayoutUsd pre := by
  obtain ⟨w, before, same, -⟩ := moved.row_back row
  rw [hostPayoutUsd_congr same]
  exact cents w before

theorem autoCompletePlatformWaiting_serves (rest : (completion id).rest s)
    (cents : ∀ w ∈ s.payroll.withdrawal, 0 < hostPayoutUsd w) :
    (autoCompletePlatformWaiting env id).Serves (completion id)
      (fun _ t => (completion id).rest t) (fun db => db) s := by
  refine Prog.serves_select fun t moved => ?_
  have resting := (completion id).rest_stable s t moved rest
  cases row : t.payroll.withdrawal with
  | none => exact Prog.serves_pure resting
  | some pre =>
    dsimp only
    split
    next expired =>
      have standing := standing_waiting resting row expired
      have positive := cents_moved moved cents row
      refine .bind (Prog.serves_transaction ?_)
      intro u further
      have still := Meanwhile.standing further standing
      obtain ⟨w, found, same, waiting, period⟩ := still.row
      change ((onPayrollTx (match u.payroll.withdrawal with
        | none => pure ()
        | some w => if companyWaitingOver env true w then updateStatus (companyPaid env w)
            else pure ())).Serves _ _ _ _ _)
      rw [found]
      dsimp only
      rw [if_pos (companyWaitingOver_standing expired same waiting period)]
      exact commitsTo_paid (fun _ => standing_paid) still fun _ paid =>
        afterCompletion_serves paid positive
    next => exact Prog.serves_pure resting

/-- Crediting the agency on top of the payment touches neither the row nor the journal. -/
theorem onMoney_paid {α : Type} (x : LedgerTx α) {w : CashDb → CashDb}
    (pays : ∀ t, Standing id pre .waiting t → Standing id pre .paid (w t)) :
    (onPayrollTx (onMoney x)).Effects
      (fun _ w' => ∀ t, Standing id pre .waiting t → Standing id pre .paid (w' t)) w := by
  have writes : (onPayrollTx (onMoney x)).Writes fun f => ∀ db, Meanwhile id db (f db) := by
    have money : (onMoney x).Writes fun f => ∀ db, (f db).withdrawal = db.withdrawal :=
      Tx.Writes.zoom (fun f db => rfl) x
    exact money.zoom_of fun f same db => .of_eq (same db.payroll) rfl
  refine writes.effects_after ?_ pays
  exact fun f g moves paid t waiting => (moves (g t)).standing (paid t waiting)

theorem takeover_serves {agencyUserId : UserId} (standing : Standing id pre .waiting s)
    (expired : companyWaitingOver env false pre = true) (cents : 0 < hostPayoutUsd pre) :
    (Prog.transaction (onPayrollTx (autoCompleteTakeoverWaitingTx env pre agencyUserId)) >>=
      fun _ => afterCompletion env id pre).Serves (completion id)
      (fun _ t => (completion id).rest t) (fun db => db) s := by
  refine .bind (Prog.serves_transaction ?_)
  intro t moved
  have still := Meanwhile.standing moved standing
  obtain ⟨w, found, same, waiting, period⟩ := still.row
  change ((onPayrollTx (match t.payroll.withdrawal with
    | none => pure ()
    | some w => if companyWaitingOver env false w then (do
        updateStatus (companyPaid env w)
        onMoney (creditTakeover env pre agencyUserId)) else pure ())).Serves _ _ _ _ _)
  rw [found]
  dsimp only
  rw [if_pos (companyWaitingOver_standing expired same waiting period)]
  have pays : ∀ u, Standing id pre .waiting u → Standing id pre .paid
      ((fun db => setPayroll (db.payroll.modify (·.apply (companyPaid env w))) db) u) :=
    fun u => standing_paid
  have credited := onMoney_paid (creditTakeover env pre agencyUserId) pays
  refine Tx.Effects.serves (completion id).trans credited ((completion id).refl t) ?_ ?_
  · exact fun _ w' u further pays => commitsTo_paid pays (Meanwhile.standing further still)
      fun _ paid => afterCompletion_serves paid cents
  · exact fun _ u further => (Meanwhile.standing further still).rest (by simp)

theorem autoCompleteTakeoverWaiting_serves (rest : (completion id).rest s)
    (cents : ∀ w ∈ s.payroll.withdrawal, 0 < hostPayoutUsd w) :
    (autoCompleteTakeoverWaiting env id).Serves (completion id)
      (fun _ t => (completion id).rest t) (fun db => db) s := by
  refine Prog.serves_select fun t moved => ?_
  have resting := (completion id).rest_stable s t moved rest
  cases row : t.payroll.withdrawal with
  | none => exact Prog.serves_pure resting
  | some pre =>
    dsimp only
    split
    next expired =>
      have standing := standing_waiting resting row expired
      have positive := cents_moved moved cents row
      unfold requireCompanyAgencyUserId
      split
      · exact takeover_serves standing expired positive
      · exact Prog.serves_fail resting
    next => exact Prog.serves_pure resting

theorem processPlatformWaitingAutoComplete_serves (rest : (completion id).rest s)
    (cents : ∀ w ∈ s.payroll.withdrawal, 0 < hostPayoutUsd w) :
    (processPlatformWaitingAutoComplete env id).Serves (completion id)
      (fun _ t => (completion id).rest t) (fun db => db) s := by
  refine Prog.serves_select fun t moved => Prog.serves_select fun u further => ?_
  have since := (completion id).trans s t u moved further
  have resting := (completion id).rest_stable s u since rest
  have still : ∀ w ∈ u.payroll.withdrawal, 0 < hostPayoutUsd w :=
    fun w row => cents_moved since cents row
  cases row : u.payroll.withdrawal with
  | none => exact Prog.serves_pure resting
  | some w =>
    dsimp only
    split
    · split
      · exact autoCompletePlatformWaiting_serves resting still
      · exact autoCompleteTakeoverWaiting_serves resting still
    · exact Prog.serves_pure resting

end Completion

/-! ### Whole runs -/

/-- Every request but the creation and the completion keeps the terms. -/
def Request.plain (request : Request) : Prop :=
  request.completes = false ∧ request.creates = false

private theorem handler_along (id : Nat) (request : Request) (plain : request.plain) :
    (handler id request).Writes fun f => ∀ s, KeepsTerms s.payroll (f s).payroll := by
  cases request with
  | journal entry =>
    refine (Prog.writes_ensure_bind _ _ _).mpr fun _ => ?_
    exact (Prog.writes_autocommit _ _).mpr fun s => keepsTerms_of_row rfl
  | payroll request =>
    have other : request.isCreation = false := by
      have notCreates := plain.2
      cases request <;> first | rfl | cases notCreates
    have embedded : (onPayroll (Withdrawals.handler id request)).Writes
        fun f => ∀ s, KeepsTerms s.payroll (f s).payroll :=
      (handler_keepsTerms id request other).embed fun f keeps s => keeps s.payroll
    have notCompletes := plain.1
    cases request <;> first | exact embedded | cases notCompletes

private theorem handler_serves (id : Nat) (request : Request)
    (mine : (completion id).mine request) (s : CashDb) (rest : (completion id).rest s)
    (cents : ∀ w ∈ s.payroll.withdrawal, 0 < hostPayoutUsd w) :
    (handler id request).Serves (completion id) (fun _ t => (completion id).rest t)
      (fun db => db) s := by
  have completes : request.completes = true := mine
  cases request with
  | journal entry => cases completes
  | payroll request =>
    cases request with
    | platformWaitingJob env => exact processPlatformWaitingAutoComplete_serves rest cents
    | _ => cases completes

/-- A commit that spares the paid withdrawal and its entry. -/
theorem Spares.books {id : Nat} {request : Request} {s t : CashDb} (spares : Spares id request s t)
    (terms : KeepsTerms s.payroll t.payroll) (books : Books id s) : Books id t := by
  rcases books with nothing | ⟨w, row, paid, entry⟩
  · exact .inl (spares.journal.trans nothing)
  · obtain ⟨w', row', same⟩ := terms w row
    have entered : booked id s ≠ [] := by simp [entry]
    refine .inr ⟨w', row', spares.stays w row paid (.inr entered) w' row', ?_⟩
    rw [spares.journal, entry, payoutEntry_congr same]

theorem Spares.rest {id : Nat} {request : Request} {s t : CashDb} (spares : Spares id request s t)
    (terms : KeepsTerms s.payroll t.payroll) (rest : (completion id).rest s) :
    (completion id).rest t := by
  refine ⟨spares.books terms rest.1, fun due => ?_⟩
  rw [spares.journal]
  exact rest.2 (spares.pays due)

/-- The withdrawal stays about the same payout. -/
def Terms (s t : CashDb) : Prop := KeepsTerms s.payroll t.payroll

private theorem terms_refl (s : CashDb) : Terms s s := keepsTerms_of_row rfl

private theorem terms_trans (s t u : CashDb) (first : Terms s t) (second : Terms t u) :
    Terms s u := first.trans second

private structure CashInv (id : Nat) (c : CashConfig) : Prop where
  watched : (completion id).Watched c
  books : Books id c.db
  along : ∀ t ∈ c.threads, t.request.plain → t.Along Terms

section Step

variable {id : Nat} {c c' : CashConfig} {e : Event Request}

private theorem CashInv.spares {i : Nat} {t t' : Thread Request CashDb Lock LedgerError}
    (inv : CashInv id c) (faithful : Faithful id c (.advance i)) (found : c.threads[i]? = some t)
    (other : t.request.completes = false) (moves : t.Moves c.db t' c'.db) :
    c'.db = c.db ∨ (Spares id t.request c.db c'.db ∧ KeepsTerms c.db.payroll c'.db.payroll ∧
      (Idle c ∨ stage c'.db = stage c.db)) := by
  rcases moves.db_eq with same | ⟨next, progIs, now⟩
  · exact .inl same
  · obtain ⟨spares, staged⟩ := faithful t next found progIs other
    rw [← now] at spares staged
    refine .inr ⟨spares, ?_, staged⟩
    by_cases creates : t.request.creates = true
    · exact spares.inserts creates
    · have along := inv.along t (List.mem_of_getElem? found) ⟨other, by simpa using creates⟩
      exact (along.moves terms_refl terms_trans moves).1

private theorem Faithful.allows (faithful : Faithful id c e) : (completion id).Allows
    (fun _ s => ∀ w ∈ s.payroll.withdrawal, 0 < hostPayoutUsd w) c e := by
  cases e with
  | start request => exact faithful
  | advance i => trivial
  | crash i => exact faithful

private theorem CashInv.apply (inv : CashInv id c) (faithful : Faithful id c e)
    (applied : c.apply (handler id) e = some c') : CashInv id c' := by
  have others : ∀ (i : Nat) (t t' : Thread Request CashDb Lock LedgerError), e = .advance i →
      c.threads[i]? = some t → ¬ (completion id).mine t.request → t.Moves c.db t' c'.db →
      (completion id).Aside c c'.db := by
    rintro i t t' rfl found other moves
    rcases inv.spares faithful found (by simpa [completion] using other) moves with
      same | ⟨spares, terms, staged⟩
    · rw [same]
      exact Discipline.aside_of_env ((completion id).refl c.db)
    · constructor
      · exact fun busy => ⟨terms, staged.resolve_left busy, spares.journal⟩
      · exact spares.rest terms
  obtain ⟨watched, how⟩ :=
    inv.watched.apply (handler_serves id) faithful.allows others applied
  refine ⟨watched, ?_, Config.apply_along terms_refl terms_trans (handler_along id) inv.along
    applied⟩
  rcases how with same | step | ⟨i, t, t', rfl, found, other, moves⟩
  · rw [same]
    exact inv.books
  · exact step inv.books
  · rcases inv.spares faithful found (by simpa [completion] using other) moves with
      same | ⟨spares, terms, -⟩
    · rw [same]
      exact inv.books
    · exact spares.books terms inv.books

end Step

theorem payouts_eq (id : Nat) (db : CashDb) :
    payouts id db = (booked id db).filter fun entry => entry.direction = .outgoing := by
  rw [payouts, booked, List.filter_filter]
  congr 1
  funext entry
  cases direction : entry.direction <;> simp [countsFor, direction]

/-- Where each completion has the withdrawal to itself, the journal has exactly one entry for a
PAID withdrawal of the company and none for any other. -/
theorem cash_mirrors {id : Nat} {db : CashDb} {c : CashConfig}
    (fresh : db.payroll.withdrawal = none) (unbooked : booked id db = [])
    (run : Reaches (handler id) (Faithful id) (Config.idle db) c) : Mirrors id c := by
  have start : CashInv id (Config.idle db) := by
    have books : Books id db := .inl unbooked
    have recorded : Recorded id db := by
      rintro ⟨w, row, -⟩
      simp [fresh] at row
    exact ⟨Discipline.watched_idle ⟨books, recorded⟩, books, by simp [Config.idle]⟩
  have inv := run.invariant (CashInv id) start
    fun _ _ _ inv faithful applied => inv.apply faithful applied
  constructor
  · intro w row company unpaid
    rcases inv.books with nothing | ⟨w', row', paid, -⟩
    · simp [payouts_eq, nothing]
    · cases row.symm.trans row'
      exact absurd paid unpaid
  · intro w row company paid
    rcases inv.books with nothing | ⟨w', row', -, entry⟩
    · refine .inr ⟨by simp [payouts_eq, nothing], ?_⟩
      -- At rest the payment would be entered.
      by_contra finished
      have quiet : (completion id).Quiet c := by
        intro t member completes
        by_contra unfinished
        exact finished ⟨t, member, completes, by simpa using unfinished⟩
      exact (inv.watched.resting quiet).2 ⟨w, row, company, paid⟩ nothing
    · cases row.symm.trans row'
      left
      rw [payouts_eq, entry]
      simp [payoutEntry]

def epayInput : CreateWithdrawalInput := { bankInput with methodType := .epay }

def proofPlatform : ProofKey := ⟨.platform 7, 0⟩

def openingCash : CashDb := ⟨fundedDb, []⟩

/-- The host asks for a payout, and the platform hands in its proof. -/
def provedPayout : List (Event Request) :=
  serve (Request.payroll (.create morning epayInput)) 0 16 ++
    serve (Request.payroll (.completePlatform morning proofPlatform)) 1 5

/-- A check for runs in which nothing dies and no other request is served during a completion or
after the payment. -/
private def checkFaithful (c : CashConfig) : Event Request → Bool
  | .start request => !request.completes ||
      (c.threads.all (fun t => !t.request.completes || t.prog.finished) &&
        c.db.payroll.withdrawal.all fun w => 0 < hostPayoutUsd w)
  | .advance i => c.threads[i]?.all fun t => t.request.completes ||
      (c.threads.all (fun t => !t.request.completes || t.prog.finished) &&
        c.db.payroll.withdrawal.all (fun w => w.status ≠ .paid) &&
        (t.view c.db).payroll.withdrawal.all (fun w => w.status ≠ .paid) &&
        (t.view c.db).cash = c.db.cash && (!t.request.creates || c.db.payroll.withdrawal.isNone))
  | .crash _ => false

private theorem idle_of_all {c : CashConfig}
    (idle : c.threads.all (fun t => !t.request.completes || t.prog.finished) = true) : Idle c := by
  intro t member completes
  have finished := List.all_eq_true.mp idle t member
  simpa [completes] using finished

private theorem checkFaithful_sound (id : Nat) (c : CashConfig) (e : Event Request)
    (checked : checkFaithful c e = true) : Faithful id c e := by
  cases e with
  | start request =>
    intro completes
    simp only [checkFaithful, completes, Bool.not_true, Bool.false_or, Bool.and_eq_true,
      Option.all_eq_true, decide_eq_true_eq] at checked
    exact ⟨idle_of_all checked.1, checked.2⟩
  | advance i =>
    intro t next found progIs other
    simp only [checkFaithful, found, Option.all_some, other, Bool.false_or, Bool.and_eq_true,
      decide_eq_true_eq] at checked
    obtain ⟨⟨⟨⟨idle, unpaid⟩, stillUnpaid⟩, journal⟩, inserts⟩ := checked
    simp only [Option.all_eq_true, decide_eq_true_eq] at unpaid stillUnpaid
    refine ⟨⟨?_, ?_, ?_, ?_⟩, .inl (idle_of_all idle)⟩
    · exact fun w row paid => absurd paid (unpaid w row)
    · rintro ⟨w, row, -, paid⟩
      exact absurd paid (stillUnpaid w row)
    · rw [booked, booked, journal]
    · intro creates w row
      simp [creates, row] at inserts
  | crash i => cases checked

private def restsWith (count : Nat) (c : CashConfig) : Bool :=
  c.threads.all (fun t => t.prog.finished) && (payouts 7 c.db).length = count &&
    c.db.payroll.withdrawal.any fun w => isPlatformHandledWithdrawal w && w.status = .paid

private theorem paid_of_restsWith {count : Nat} {c : CashConfig}
    (rests : restsWith count c = true) : (∀ t ∈ c.threads, t.prog.finished = true) ∧
      (payouts 7 c.db).length = count ∧
      ∃ w, c.db.payroll.withdrawal = some w ∧ Company w ∧ w.status = .paid := by
  simp only [restsWith, Bool.and_eq_true, List.all_eq_true, decide_eq_true_eq,
    Option.any_eq_true_iff_get] at rests
  obtain ⟨⟨finished, entries⟩, some, platform, paid⟩ := rests
  exact ⟨finished, entries, _, (Option.some_get some).symm, .inl platform, paid⟩

/-- The waiting period ends, and the withdrawal is paid. -/
theorem cash_mirrors_platform :
    ∃ (c : CashConfig) (w : Withdrawal),
      Reaches (handler 7) (Faithful 7) (Config.idle openingCash) c ∧
      c.db.payroll.withdrawal = some w ∧ w.status = .paid ∧
      payouts 7 c.db = [payoutEntry 7 w] := by
  obtain ⟨c, run, rests⟩ : ∃ c, Reaches (handler 7) (Faithful 7) (Config.idle openingCash) c ∧
      restsWith 1 c = true :=
    exists_reaches_checked (checkFaithful_sound 7) [provedPayout,
      serve (.payroll (.platformWaitingJob evening)) 2 11] (by decide +kernel)
  obtain ⟨finished, entries, w, row, company, paid⟩ := paid_of_restsWith rests
  refine ⟨c, w, run, row, paid, ?_⟩
  rcases (cash_mirrors rfl rfl run).paid w row company paid with
    entry | ⟨-, t, member, -, unfinished⟩
  · exact entry
  · simp [finished t member] at unfinished

/-- The payout is disputed while it waits, and the dispute is resolved as paid. -/
def disputedPayout : List (Event Request) :=
  provedPayout ++ serve (Request.payroll (.dispute morning 1 0)) 2 5 ++
    serve (Request.payroll (.resolvePlatformPaid morning)) 3 6

theorem not_cash_mirrors :
    ¬ ∀ (id : Nat) (db : CashDb) (c : CashConfig), db.payroll.withdrawal = none →
      booked id db = [] → Reaches (handler id) (fun _ _ => True) (Config.idle db) c →
      Mirrors id c := by
  intro claim
  obtain ⟨c, run, rests⟩ : ∃ c, Reaches (handler 7) (fun _ _ => True) (Config.idle openingCash) c ∧
      restsWith 0 c = true :=
    exists_reaches [disputedPayout] (by decide +kernel)
  obtain ⟨finished, entries, w, row, company, paid⟩ := paid_of_restsWith rests
  rcases (claim 7 openingCash c rfl rfl run).paid w row company paid with
    entry | ⟨-, t, member, -, unfinished⟩
  · simp [entry] at entries
  · simp [finished t member] at unfinished

end OlNode.CompanyCash
