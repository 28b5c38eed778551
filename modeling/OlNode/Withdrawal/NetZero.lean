import Mathlib.Algebra.Order.Ring.Int
import OlNode.Withdrawal.Requests

/-!
# What a reversal leaves behind

Operations run one at a time. After a reversal every wallet should be where it was before the
withdrawal: the signed sum of the rows written for it is zero. It is, unless the withdrawal was
settled through a company takeover, whose credits the reversal does not look for.
-/
namespace OlNode.Withdrawals

open ReadCommitted

/-- Reached from before the withdrawal was created, one request after the other. -/
def Reachable (id : Nat) (s : WithdrawalDb) : Prop :=
  ∃ db, Uncreated id db ∧ Ran id (fun _ => True) db s

theorem Reachable.inv {id : Nat} {s : WithdrawalDb} (reachable : Reachable id s) :
    Inv False id s := by
  obtain ⟨db, start, run⟩ := reachable
  exact run.inv start

theorem reachable_serveAll (requests : List Request) : Reachable 7 (serveAll 7 requests fundedDb) :=
  ⟨fundedDb, fundedDb_uncreated 7, Ran.start.all requests fun _ _ => trivial⟩

/-! ### Signed sums -/

def net (wallet : Wallet) (rows : List Posting) : Int :=
  ((rows.filter fun p => p.wallet = wallet).map (·.signed)).sum

variable (wallet : Wallet)

@[simp] theorem net_nil : net wallet [] = 0 := rfl

@[simp] theorem net_append (rows more : List Posting) :
    net wallet (rows ++ more) = net wallet rows + net wallet more := by
  simp [net]

@[simp] theorem net_cons (p : Posting) (rows : List Posting) :
    net wallet (p :: rows) = (if p.wallet = wallet then p.signed else 0) + net wallet rows := by
  unfold net
  by_cases same : p.wallet = wallet <;> simp [same]

theorem net_debit_refund (w : Withdrawal) :
    net wallet [debitPosting w, refundPosting w] = 0 := by
  simp only [net_cons, net_nil, debitPosting, refundPosting, entryFor]
  split <;> omega

/-- A claw-back undoes the credit of the same amount to the same user. -/
theorem net_creditOf_debitOf (w : Withdrawal) (userId : UserId) (amount : Int)
    (credit reversal : LedgerKey) :
    net wallet (creditOf w userId amount credit) + net wallet (debitOf w userId amount reversal) =
      0 := by
  unfold creditOf debitOf
  split
  · simp only [net_cons, net_nil, entryFor]
    split <;> omega
  · simp

theorem net_agency (w : Withdrawal) (a : PayrollAssignment) :
    net wallet (agencyCredits w a) + net wallet (agencyReversals w a) = 0 := by
  have payout := net_creditOf_debitOf wallet w a.agencyUserId (withdrawalHostPayoutPoints w)
    (.payrollHostPayout a.id) (.payrollHostPayoutReversal a.id)
  have reward := net_creditOf_debitOf wallet w a.agencyUserId (agentReward w)
    (.payrollReward a.id) (.payrollRewardReversal a.id)
  simp only [agencyCredits, agencyReversals, net_append]
  omega

theorem net_creditOf_nonneg (w : Withdrawal) (userId : UserId) (amount : Int) (key : LedgerKey) :
    0 ≤ net wallet (creditOf w userId amount key) := by
  unfold creditOf
  split
  · simp only [net_cons, net_nil, entryFor]
    split <;> omega
  · simp

theorem net_creditOf_self (w : Withdrawal) (userId : UserId) (amount : Int) (key : LedgerKey)
    (positive : 0 < amount) : 0 < net ⟨userId, .point⟩ (creditOf w userId amount key) := by
  simp [creditOf, positive, entryFor]

/-- The company's credits come to nothing exactly when there are none. -/
theorem net_takeover (w : Withdrawal) (company : UserId) :
    (∀ wallet, net wallet (takeoverCredits w company) = 0) ↔
      ¬ HasKey (takeoverCredits w company) (.payrollTakeover w.id) ∧
        ¬ HasKey (takeoverCredits w company) (.payrollTakeoverReward w.id) := by
  simp only [takeoverCredits, hasKey_append, hasKey_creditOf, net_append]
  constructor
  · intro zero
    have total := zero ⟨company, .point⟩
    have payout := net_creditOf_nonneg ⟨company, .point⟩ w company (withdrawalHostPayoutPoints w)
      (.payrollTakeover w.id)
    have reward := net_creditOf_nonneg ⟨company, .point⟩ w company (agentReward w)
      (.payrollTakeoverReward w.id)
    constructor
    · rintro (⟨positive, -⟩ | ⟨-, impossible⟩)
      · have := net_creditOf_self w company _ (.payrollTakeover w.id) positive
        omega
      · cases impossible
    · rintro (⟨-, impossible⟩ | ⟨positive, -⟩)
      · cases impossible
      · have := net_creditOf_self w company _ (.payrollTakeoverReward w.id) positive
        omega
  · rintro ⟨noPayout, noReward⟩ wallet
    have payout : ¬ 0 < withdrawalHostPayoutPoints w := fun positive =>
      noPayout (.inl ⟨positive, trivial⟩)
    have reward : ¬ 0 < agentReward w := fun positive => noReward (.inr ⟨positive, trivial⟩)
    simp [creditOf, payout, reward]

/-! ### Reversal -/

private theorem call_remove_bind {α : Type} (removed : PayrollJob → Bool) (job : PayrollJob)
    (k : Unit → WithdrawalProg α) (s : WithdrawalDb) :
    ∃ jobs, (remove removed job >>= k).call s = (k ()).call { s with jobs } := by
  rw [remove, Prog.call_autocommit_bind]
  split
  · exact ⟨_, rfl⟩
  · exact ⟨s.jobs, rfl⟩

private theorem call_removeFor_bind {α : Type} (env : Environment)
    (job : AssignmentId → PayrollJob) (assignmentId : Option AssignmentId)
    (k : Unit → WithdrawalProg α) (s : WithdrawalDb) :
    ∃ jobs, (removeFor env job assignmentId >>= k).call s = (k ()).call { s with jobs } := by
  cases assignmentId with
  | none => exact ⟨s.jobs, rfl⟩
  | some id => exact call_remove_bind env.removed (job id) k s

/-- A successful reversal found the withdrawal failed already, or has run its transaction. -/
theorem adminReverseWithdrawal_call {env : Environment} {reason : String} {bypass : Bool}
    {s s' : WithdrawalDb} {result : Withdrawal}
    (returned : (adminReverseWithdrawal env reason bypass).call s = (.ok result, s')) :
    ∃ w, s.withdrawal = some w ∧ ((w.status = .failed ∧ s' = s) ∨
      (w.status ≠ .failed ∧ ∃ mid, s'.money = mid.money ∧
        (adminReverseWithdrawalTx env (s.reversalReads w) reason).eval s = .ok ((), mid))) := by
  rw [adminReverseWithdrawal, Prog.call_select_bind] at returned
  cases row : s.withdrawal with
  | none => simp [row] at returned
  | some w =>
    refine ⟨w, rfl, ?_⟩
    simp only [row] at returned
    split at returned
    next failed =>
      simp only [Prog.call_pure, Prod.mk.injEq] at returned
      exact .inl ⟨failed, returned.2.symm⟩
    next live =>
      refine .inr ⟨live, ?_⟩
      rw [Prog.call_ensure_bind] at returned
      split at returned
      next =>
        rw [Prog.call_ensure_bind] at returned
        split at returned
        next =>
          simp only [Prog.call_select_bind] at returned
          rw [Prog.call_transaction_bind, ← WithdrawalDb.reversalReads] at returned
          cases ran : (adminReverseWithdrawalTx env (s.reversalReads w) reason).eval s with
          | error error => simp [ran] at returned
          | ok r =>
            simp only [ran] at returned
            refine ⟨r.2, ?_, rfl⟩
            -- What follows the commit removes jobs and reads the row back.
            obtain ⟨jobs, sla⟩ := call_removeFor_bind env .sla _ _ r.2
            rw [sla] at returned
            obtain ⟨jobs', waiting⟩ := call_removeFor_bind env .waiting _ _ { r.2 with jobs }
            rw [waiting, Prog.when] at returned
            split at returned
            next =>
              obtain ⟨jobs'', platform⟩ := call_remove_bind env.removed .platformWaiting _
                { r.2 with jobs := jobs' }
              rw [platform] at returned
              cases returned
              rfl
            next =>
              cases returned
              rfl
        next => simp at returned
      next => simp at returned

/-- Every wallet is back where it was. -/
def NetZero (id : Nat) (db : WithdrawalDb) : Prop := ∀ wallet, net wallet (db.own id) = 0

/-- The company has been credited for the withdrawal. -/
def TakeoverCredited (id : Nat) (db : WithdrawalDb) : Prop :=
  HasKey (db.own id) (.payrollTakeover id) ∨ HasKey (db.own id) (.payrollTakeoverReward id)

instance (id : Nat) (db : WithdrawalDb) : Decidable (TakeoverCredited id db) :=
  inferInstanceAs (Decidable (_ ∨ _))

/-- The rows of a takeover credit. -/
private def takeoverIn (w : Withdrawal) (rows : List Posting) : Prop :=
  HasKey rows (.payrollTakeover w.id) ∨ HasKey rows (.payrollTakeoverReward w.id)

variable {w : Withdrawal}

private theorem Reversal.netZero_iff {before after : List Posting}
    (reversal : Reversal w before after) :
    (∀ wallet, net wallet after = 0) ↔ ¬ takeoverIn w before := by
  unfold takeoverIn
  cases reversal with
  | unpaid =>
    refine ⟨fun _ => by simp [debitPosting, entryFor], fun _ wallet => net_debit_refund wallet w⟩
  | agency a =>
    refine ⟨fun _ => by simp [debitPosting, entryFor, agencyCredits], fun _ wallet => ?_⟩
    have host := net_debit_refund wallet w
    have agency := net_agency wallet w a
    simp only [net_cons, net_append, net_nil] at host ⊢
    omega
  | takeover company =>
    have rows : ∀ wallet, net wallet (debitPosting w :: takeoverCredits w company ++
        [refundPosting w]) = net wallet (takeoverCredits w company) := by
      intro wallet
      have host := net_debit_refund wallet w
      simp only [net_cons, net_append, net_nil] at host ⊢
      omega
    simp only [rows, net_takeover]
    simp [debitPosting, entryFor]

private theorem Reversal.takeoverIn_iff {before after : List Posting}
    (reversal : Reversal w before after) : takeoverIn w after ↔ takeoverIn w before := by
  cases reversal <;>
    simp [takeoverIn, debitPosting, refundPosting, entryFor, agencyCredits, agencyReversals]

private theorem Stage.reversal_of_failed {strict : Prop} {current : Option PayrollAssignment}
    {own : List Posting} (stage : Stage strict w current own) (failed : w.status = .failed) :
    ∃ before, Reversal w before own := by
  cases stage with
  | refunded => exact ⟨_, .unpaid⟩
  | reversed a => exact ⟨_, .agency a⟩
  | refundedTakeover company => exact ⟨_, .takeover company⟩
  | platform _ status => simp [failed] at status
  | unassigned _ status _ => simp [failed] at status
  | assigned _ _ status _ _ => simp [failed] at status
  | proved _ _ status _ _ => simp [failed] at status
  | settled _ _ status _ => simp [failed] at status
  | takeover _ status _ => simp [failed] at status
  | takenOver _ _ status => simp [failed] at status

/-- A successful reversal is net zero exactly when no takeover credit had been made. -/
theorem reversal_netZero_iff {id : Nat} {s s' : WithdrawalDb} {env : Environment} {reason : String}
    {bypassAgeLimit : Bool} {result : Withdrawal} (reachable : Reachable id s)
    (returned : (adminReverseWithdrawal env reason bypassAgeLimit).call s = (.ok result, s')) :
    NetZero id s' ↔ ¬ TakeoverCredited id s := by
  have inv := reachable.inv
  obtain ⟨w, row, cases⟩ := adminReverseWithdrawal_call returned
  obtain ⟨dead, current, sn⟩ := inv.of_row row
  obtain rfl := sn.id_eq
  rcases cases with ⟨failed, rfl⟩ | ⟨live, mid, money, ran⟩
  · obtain ⟨before, reversal⟩ := sn.stage.reversal_of_failed failed
    exact reversal.netZero_iff.trans (not_congr reversal.takeoverIn_iff.symm)
  · have reversal := (adminReverseWithdrawalTx_keeps inv row live (fun strict => strict.elim) ran).2
    have same : s'.own w.id = mid.own w.id := by rw [WithdrawalDb.own, money, WithdrawalDb.own]
    rw [← same] at reversal
    exact reversal.netZero_iff

/-- The rows of a withdrawal are those that its status calls for. -/
structure Booked (w : Withdrawal) (own : List Posting) : Prop where
  unsettled : w.status ∈ [.pending, .pendingPlatform, .waiting] ∨
    w.status = .paid ∧ isPlatformHandledWithdrawal w = true → own = [debitPosting w]
  paid : w.status = .paid → isPlatformHandledWithdrawal w = false → ∃ payee key key',
    own = debitPosting w :: creditOf w payee (withdrawalHostPayoutPoints w) key ++
      creditOf w payee (agentReward w) key'
  refunded : HasKey own (.withdrawalRefund w.id) ↔ w.status = .failed

theorem Stage.booked {strict : Prop} {current : Option PayrollAssignment} {own : List Posting}
    (stage : Stage strict w current own) : Booked w own := by
  refine ⟨fun early => ?_, fun paid bank => ?_, stage.refunded_iff⟩
  · cases stage <;> simp_all
    all_goals grind
  · cases stage with
    | settled a => exact ⟨a.agencyUserId, _, _, rfl⟩
    | takenOver company => exact ⟨company, _, _, rfl⟩
    | _ => simp_all

/-- Whatever requests were served, one after the other; and all failed ones are net zero. -/
theorem rows_follow_status {id : Nat} {s : WithdrawalDb} {w : Withdrawal}
    (reachable : Reachable id s) (row : s.withdrawal = some w) : Booked w (s.own id) ∧
      (w.status = .failed → (NetZero id s ↔ ¬ TakeoverCredited id s)) := by
  obtain ⟨dead, current, sn⟩ := reachable.inv.of_row row
  obtain rfl := sn.id_eq
  refine ⟨sn.stage.booked, fun failed => ?_⟩
  obtain ⟨before, reversal⟩ := sn.stage.reversal_of_failed failed
  exact reversal.netZero_iff.trans (not_congr reversal.takeoverIn_iff.symm)

/-- Created, proved by the agency and auto-completed. -/
def agencyPaid : WithdrawalDb :=
  serveAll 7 [.create morning bankInput, .agentComplete morning 2 ⟨7, 0⟩ proofSeven,
    .autoComplete evening ⟨7, 0⟩] fundedDb

private theorem call_of_isOk {α : Type} (p : WithdrawalProg α) (s : WithdrawalDb)
    (succeeds : (p.call s).1.isOk = true) : ∃ result, p.call s = (.ok result, (p.call s).2) := by
  rcases called : p.call s with ⟨_ | result, s'⟩
  · simp [called, Except.isOk, Except.toBool] at succeeds
  · exact ⟨result, rfl⟩

theorem reversal_netZero_iff_agencyPaid :
    ∃ result s', (adminReverseWithdrawal evening "chargeback" false).call agencyPaid =
      (.ok result, s') ∧ ¬ TakeoverCredited 7 agencyPaid ∧ NetZero 7 s' := by
  have reachable : Reachable 7 agencyPaid := reachable_serveAll _
  have untouched : ¬ TakeoverCredited 7 agencyPaid := by decide
  obtain ⟨result, returned⟩ := call_of_isOk
    (adminReverseWithdrawal evening "chargeback" false) agencyPaid (by decide)
  exact ⟨result, _, returned, untouched, (reversal_netZero_iff reachable returned).mpr untouched⟩

theorem rows_follow_status_agencyPaid : ∃ w, agencyPaid.withdrawal = some w ∧
    w.status = .paid ∧ Booked w (agencyPaid.own 7) :=
  ⟨_, rfl, rfl, (rows_follow_status (reachable_serveAll _) rfl).1⟩

/-- The company pays the host itself; its waiting period ends and it is credited. -/
def takenOverPaid : WithdrawalDb :=
  serveAll 7 [.create noAgency bankInput, .completeTakeover morning ⟨.takeover 7, 0⟩,
    .platformWaitingJob evening] fundedDb

/-- The reversal returns the host's points and leaves the company's credit where it is. -/
theorem not_reversal_netZero : ¬ ∀ s s' env reason bypassAgeLimit result, Reachable 7 s →
    (adminReverseWithdrawal env reason bypassAgeLimit).call s = (.ok result, s') →
      NetZero 7 s' := by
  intro claim
  have reachable : Reachable 7 takenOverPaid := reachable_serveAll _
  obtain ⟨result, returned⟩ := call_of_isOk
    (adminReverseWithdrawal evening "chargeback" false) takenOverPaid (by decide)
  have zero := claim _ _ _ _ _ _ reachable returned ⟨9, .point⟩
  have left : net ⟨9, .point⟩ (((adminReverseWithdrawal evening "chargeback" false).call
      takenOverPaid).2.own 7) = 950 := by decide
  omega

end OlNode.Withdrawals
