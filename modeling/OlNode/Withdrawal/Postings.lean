import OlNode.Withdrawal.Invariant

/-!
# The postings of each money movement of a withdrawal

For every helper that touches the ledger: which postings it appends, given which keys are already
taken.
-/
namespace OlNode.Withdrawals

open ReadCommitted

variable {env : Environment} {w : Withdrawal} {m m' : MoneyDb} {u : Unit}

theorem payrollCredit_posts {payee : UserId} {amount : Int} {txType : PointTxType}
    {key : LedgerKey} (quiet : txType ∉ PointWallet.creditsWithCommission)
    (marker : txType ≠ .withdrawalEscrow) (absent : ¬ HasKey m.postings key)
    (returned : (payrollCredit env w payee amount txType key).eval m = .ok (u, m')) :
    m'.postings = m.postings ++ creditOf w payee amount key := by
  rw [payrollCredit, Tx.eval_when] at returned
  unfold creditOf
  split at returned
  next positive =>
    obtain ⟨receipt, mid, credited, rest⟩ := Tx.eval_bind_ok.mp returned
    cases rest
    rw [if_pos positive]
    exact (PointWallet.creditInTransaction_posts quiet marker rfl credited).fresh absent
  next notPositive =>
    cases returned
    rw [if_neg notPositive, List.append_nil]

theorem creditAgency_posts {a : PayrollAssignment}
    (hardDebit : HasKey m.postings (.withdrawalDebit w.id))
    (noPayout : ¬ HasKey m.postings (.payrollHostPayout a.id))
    (noReward : ¬ HasKey m.postings (.payrollReward a.id))
    (returned : (creditAgency env w a.agencyUserId a.id).eval m = .ok (u, m')) :
    m'.postings = m.postings ++ agencyCredits w a := by
  obtain ⟨_, paid, payout, returned⟩ := Tx.eval_bind_ok.mp returned
  obtain ⟨_, rewarded, reward, returned⟩ := Tx.eval_bind_ok.mp returned
  have afterPayout := payrollCredit_posts (by decide) (by decide) noPayout payout
  have stillNoReward : ¬ HasKey paid.postings (.payrollReward a.id) := by
    rw [afterPayout, hasKey_append, not_or]
    exact ⟨noReward, by simp⟩
  have afterReward := payrollCredit_posts (by decide) (by decide) stillNoReward reward
  have debitThere : findByKey rewarded.pointLedger (.withdrawalDebit w.id) ≠ none := by
    rw [Ne, findByKey_pointLedger, not_not, afterReward, afterPayout]
    simp [hardDebit]
  -- The hard debit made at create rules out the settlement of a soft escrow.
  simp only [PointLedgerRepository.findByIdempotencyKey, Tx.eval_select_bind, Tx.eval_when,
    debitThere, and_false, if_false, Except.ok.injEq, Prod.mk.injEq] at returned
  rw [← returned.2, afterReward, afterPayout, List.append_assoc]
  rfl

theorem creditTakeover_posts {company : UserId}
    (noTakeover : ¬ HasKey m.postings (.payrollTakeover w.id))
    (noReward : ¬ HasKey m.postings (.payrollTakeoverReward w.id))
    (returned : (creditTakeover env w company).eval m = .ok (u, m')) :
    m'.postings = m.postings ++ takeoverCredits w company := by
  obtain ⟨_, paid, payout, reward⟩ := Tx.eval_bind_ok.mp returned
  have afterPayout := payrollCredit_posts (by decide) (by decide) noTakeover payout
  have stillNoReward : ¬ HasKey paid.postings (.payrollTakeoverReward w.id) := by
    rw [afterPayout, hasKey_append, not_or]
    exact ⟨noReward, by simp⟩
  have afterReward := payrollCredit_posts (by decide) (by decide) stillNoReward reward
  rw [afterReward, afterPayout, List.append_assoc]
  rfl

theorem refundHost_posts (noRefund : ¬ HasKey m.postings (.withdrawalRefund w.id))
    (returned : (refundHost env w).eval m = .ok (u, m')) :
    m'.postings = m.postings ++ [refundPosting w] := by
  obtain ⟨receipt, mid, credited, rest⟩ := Tx.eval_bind_ok.mp returned
  cases rest
  exact (PointWallet.creditInTransaction_posts (by decide) (by decide) rfl credited).fresh noRefund

theorem reverseCredit_posts {agent : UserId} {amount : Int} {credit reversal : LedgerKey}
    (credited : 0 < amount → HasKey m.postings credit) (absent : ¬ HasKey m.postings reversal)
    (returned : (reverseCredit w agent amount credit reversal).eval m = .ok (u, m')) :
    m'.postings = m.postings ++ debitOf w agent amount reversal := by
  rw [reverseCredit, Tx.eval_when] at returned
  unfold debitOf
  split at returned
  next positive =>
    have found := (findByKey_pointLedger_isSome m credit).mpr (credited positive)
    simp only [PointLedgerRepository.findByIdempotencyKey, Tx.eval_select_bind, Tx.eval_when,
      found, if_true] at returned
    obtain ⟨receipt, mid, debited, rest⟩ := Tx.eval_bind_ok.mp returned
    cases rest
    rw [if_pos positive]
    exact (PointWallet.debit_posts (by decide) debited).fresh absent
  next notPositive =>
    cases returned
    rw [if_neg notPositive, List.append_nil]

/-- Nothing is clawed back that was never credited. -/
theorem reverseCredit_absent {agent : UserId} {amount : Int} {credit reversal : LedgerKey}
    (absent : ¬ HasKey m.postings credit)
    (returned : (reverseCredit w agent amount credit reversal).eval m = .ok (u, m')) : m' = m := by
  rw [reverseCredit, Tx.eval_when] at returned
  split at returned
  next =>
    have notFound : ¬ (findByKey m.pointLedger credit).isSome := by
      rwa [findByKey_pointLedger_isSome]
    simp only [PointLedgerRepository.findByIdempotencyKey, Tx.eval_select_bind, Tx.eval_when,
      notFound] at returned
    cases returned
    rfl
  next =>
    cases returned
    rfl

theorem reverseAgencyCredits_absent {a : PayrollAssignment}
    (noPayout : ¬ HasKey m.postings (.payrollHostPayout a.id))
    (noReward : ¬ HasKey m.postings (.payrollReward a.id))
    (returned : (reverseAgencyCredits w a.agencyUserId a.id).eval m = .ok (u, m')) : m' = m := by
  obtain ⟨_, mid, first, second⟩ := Tx.eval_bind_ok.mp returned
  cases reverseCredit_absent noPayout first
  exact reverseCredit_absent noReward second

theorem reverseAgencyCredits_posts {a : PayrollAssignment}
    (payout : 0 < withdrawalHostPayoutPoints w → HasKey m.postings (.payrollHostPayout a.id))
    (reward : 0 < agentReward w → HasKey m.postings (.payrollReward a.id))
    (noPayoutReversal : ¬ HasKey m.postings (.payrollHostPayoutReversal a.id))
    (noRewardReversal : ¬ HasKey m.postings (.payrollRewardReversal a.id))
    (returned : (reverseAgencyCredits w a.agencyUserId a.id).eval m = .ok (u, m')) :
    m'.postings = m.postings ++ agencyReversals w a := by
  obtain ⟨_, mid, first, second⟩ := Tx.eval_bind_ok.mp returned
  have afterPayout := reverseCredit_posts payout noPayoutReversal first
  have stillNoReversal : ¬ HasKey mid.postings (.payrollRewardReversal a.id) := by
    rw [afterPayout, hasKey_append, not_or]
    exact ⟨noRewardReversal, by simp⟩
  have stillRewarded : 0 < agentReward w → HasKey mid.postings (.payrollReward a.id) := by
    intro positive
    rw [afterPayout, hasKey_append]
    exact .inl (reward positive)
  have afterReward := reverseCredit_posts stillRewarded stillNoReversal second
  rw [afterReward, afterPayout, List.append_assoc]
  rfl

/-! ### On the withdrawal's own postings -/

theorem eval_onMoney {α : Type} (x : LedgerTx α) (db : WithdrawalDb) :
    (onMoney x).eval db = (x.eval db.money).map fun r => (r.1, db.setMoney r.2) := by
  unfold onMoney
  refine Tx.eval_zoom ?_ ?_ ?_ x db <;> intros <;> rfl

theorem onMoney_ok {α : Type} {x : LedgerTx α} {db db' : WithdrawalDb} {a : α}
    (returned : (onMoney x).eval db = .ok (a, db')) :
    ∃ money, x.eval db.money = .ok (a, money) ∧ db' = db.setMoney money := by
  rw [eval_onMoney] at returned
  cases result : x.eval db.money with
  | error error => simp [result, Except.map] at returned
  | ok r =>
    simp only [result, Except.map, Except.ok.injEq, Prod.mk.injEq] at returned
    exact ⟨r.2, by rw [← returned.1], returned.2.symm⟩

theorem own_of_posts {db db' : WithdrawalDb} {id : Nat} {posts : List Posting}
    (appended : db'.money.postings = db.money.postings ++ posts)
    (about : ∀ p ∈ posts, p.isAbout id = true) : db'.own id = db.own id ++ posts := by
  rw [WithdrawalDb.own, appended, List.filter_append, List.filter_eq_self.mpr about]
  rfl

end OlNode.Withdrawals
