import OlNode.Withdrawal.Preservation

/-!
# Reversal of a withdrawal

What `adminReverseWithdrawal` writes in each stage. The refund goes to the host in every stage; the
credits of an agency are clawed back, those of the company after a takeover are not looked for.
-/
namespace OlNode.Withdrawals

open ReadCommitted

variable {strict : Prop} {id : Nat} {db db' : WithdrawalDb} {env : Environment} {w : Withdrawal}
  {dead : List PayrollAssignment} {current : Option PayrollAssignment} {a : PayrollAssignment}
  {reason : String}

private theorem Snapshot.reversalReads (sn : Snapshot strict id db w dead current) :
    (db.reversalReads w).creditAssignment =
        ((current.filter fun a => a.status = .waiting) <|>
          current.filter fun a => a.status = .completed) ∧
      (db.reversalReads w).openAssignment = current.filter (·.isOpen) := by
  simp only [WithdrawalDb.reversalReads, ReversalReads.creditAssignment,
    WithdrawalDb.newestWaiting, sn.newestWaiting, sn.completedAssignment, sn.openAssignment,
    and_self]

variable {r : Unit}

private theorem adminReverseWithdrawalTx_ok (sn : Snapshot strict id db w dead current)
    (returned : (adminReverseWithdrawalTx env (db.reversalReads w) reason).eval db = .ok (r, db')) :
    ∃ money mid after, (refundHost env w).eval db.money = .ok ((), money) ∧
      (db.reversalReads w).reverseCredits.eval (db.setMoney money) = .ok ((), mid) ∧
      ((db.reversalReads w).expireOpenAssignment reason).eval mid = .ok ((), after) ∧
      db' = after.modify (·.apply { status := .failed, failReason := some (some reason) }) := by
  simp only [adminReverseWithdrawalTx] at returned
  rw [Tx.eval_bind_of_ok _ (eval_findByIdempotencyKey db _),
    Tx.eval_bind_of_ok _ (eval_findByIdempotencyKey db _)] at returned
  obtain ⟨_, refunded, called, returned⟩ := Tx.eval_bind_ok.mp returned
  rw [Tx.eval_when, if_pos (.inl sn.hardDebit)] at called
  obtain ⟨money, paidBack, rfl⟩ := onMoney_ok called
  obtain ⟨_, released, skipped, returned⟩ := Tx.eval_bind_ok.mp returned
  have noEscrow : findByKey db.money.pointLedger (.withdrawalEscrow (db.reversalReads w).withdrawal.id) = none :=
    sn.noEscrow
  rw [Tx.eval_when, noEscrow, if_neg (by simp)] at skipped
  cases skipped
  obtain ⟨_, mid, clawedBack, returned⟩ := Tx.eval_bind_ok.mp returned
  obtain ⟨_, after, closed, returned⟩ := Tx.eval_bind_ok.mp returned
  cases returned
  exact ⟨money, mid, after, paidBack, clawedBack, closed, rfl⟩

/-- The rows of a withdrawal before and after its reversal: the refund, and the reversal of what an
agency was credited. A takeover credit of the company is left standing. -/
inductive Reversal (w : Withdrawal) : List Posting → List Posting → Prop
  | unpaid : Reversal w [debitPosting w] [debitPosting w, refundPosting w]
  | agency (a : PayrollAssignment) : Reversal w (debitPosting w :: agencyCredits w a)
      (debitPosting w :: agencyCredits w a ++ refundPosting w :: agencyReversals w a)
  | takeover (company : UserId) : Reversal w (debitPosting w :: takeoverCredits w company)
      (debitPosting w :: takeoverCredits w company ++ [refundPosting w])

private def reversed (reason : String) (w : Withdrawal) : Withdrawal :=
  w.apply { status := .failed, failReason := some (some reason) }

private theorem rowStep_reversed (reason : String) (w : Withdrawal) :
    RowStep w (reversed reason w) := .of_apply (by simp) (by simp)

private theorem refund_free {own : List Posting} (stage : Stage strict w current own)
    (live : w.status ≠ .failed) : ¬ HasKey own (.withdrawalRefund w.id) := by
  rw [stage.refunded_iff]
  exact live

private theorem reverse_unassigned (sn : Snapshot strict id db w dead none)
    (live : w.status ≠ .failed)
    (returned : (adminReverseWithdrawalTx env (db.reversalReads w) reason).eval db = .ok (r, db'))
    (stage : Stage strict (reversed reason w) none (db.own id ++ [refundPosting w])) :
    Keeps strict id db db' ∧ db'.own id = db.own id ++ [refundPosting w] := by
  obtain ⟨money, mid, after, refunded, clawedBack, closed, rfl⟩ :=
    adminReverseWithdrawalTx_ok sn returned
  obtain ⟨credit, isOpen⟩ := sn.reversalReads
  rw [ReversalReads.reverseCredits, credit] at clawedBack
  cases clawedBack
  rw [ReversalReads.expireOpenAssignment, isOpen] at closed
  cases closed
  have own : ((db.setMoney money).modify (reversed reason)).own id =
      db.own id ++ [refundPosting w] :=
    sn.own_refundHost rfl (refund_free sn.stage live) refunded rfl
  refine ⟨.row sn (rowStep_reversed reason w) rfl rfl rfl rfl ?_, own⟩
  rw [← own] at stage
  exact stage

private theorem reverse_open (sn : Snapshot strict id db w dead (some a))
    (unsettled : a.status = .pending ∨ a.status = .waiting) (own : db.own id = [debitPosting w])
    (returned : (adminReverseWithdrawalTx env (db.reversalReads w) reason).eval db = .ok (r, db')) :
    Keeps strict id db db' ∧ db'.own id = [debitPosting w, refundPosting w] := by
  obtain ⟨money, mid, after, refunded, clawedBack, closed, rfl⟩ :=
    adminReverseWithdrawalTx_ok sn returned
  obtain ⟨credit, isOpen⟩ := sn.reversalReads
  have own' : (db.setMoney money).own id = [debitPosting w, refundPosting w] :=
    sn.own_refundHost own (by simp [debitPosting, entryFor]) refunded rfl
  have unchanged : mid = db.setMoney money := by
    rw [ReversalReads.reverseCredits, credit] at clawedBack
    rcases unsettled with pending | waiting
    · rw [Option.filter_some_neg (by simp [pending]), Option.filter_some_neg (by simp [pending])]
        at clawedBack
      cases clawedBack
      rfl
    · rw [Option.filter_some_pos (by simp [waiting])] at clawedBack
      obtain ⟨m, undone, rfl⟩ := onMoney_ok clawedBack
      rw [nothingToReverse (sn.owned a rfl) own' (by simp [debitPosting, refundPosting, entryFor])
        (by simp [debitPosting, refundPosting, entryFor]) undone]
      rfl
  subst unchanged
  have found : (db.reversalReads w).openAssignment = some a := by
    rw [isOpen, Option.filter_some_pos]
    rcases unsettled with h | h <;> simp [PayrollAssignment.isOpen, h]
  rw [ReversalReads.expireOpenAssignment, found] at closed
  cases closed
  refine ⟨.closed sn (rowStep_reversed reason w) ?_ rfl rfl (.inr rfl) rfl ?_, own'⟩
  · exact fun live => absurd rfl live
  · change Stage _ _ _ ((db.setMoney money).own id)
    rw [own']
    exact .refunded rfl

private theorem reverse_settled (sn : Snapshot strict id db w dead (some a))
    (completed : a.status = .completed) (own : db.own id = debitPosting w :: agencyCredits w a)
    (returned : (adminReverseWithdrawalTx env (db.reversalReads w) reason).eval db = .ok (r, db')) :
    Keeps strict id db db' ∧
      db'.own id = debitPosting w :: agencyCredits w a ++ refundPosting w :: agencyReversals w a := by
  obtain ⟨money, mid, after, refunded, clawedBack, closed, rfl⟩ :=
    adminReverseWithdrawalTx_ok sn returned
  obtain ⟨credit, isOpen⟩ := sn.reversalReads
  obtain rfl := sn.id_eq
  have owned := sn.owned a rfl
  have ownRefunded : (db.setMoney money).own w.id =
      debitPosting w :: agencyCredits w a ++ [refundPosting w] :=
    sn.own_refundHost own (by simp [debitPosting, entryFor, agencyCredits]) refunded rfl
  rw [ReversalReads.reverseCredits, credit, Option.filter_some_neg (by simp [completed]),
    Option.filter_some_pos (by simp [completed])] at clawedBack
  obtain ⟨m, undone, rfl⟩ := onMoney_ok clawedBack
  have standing : ∀ key : LedgerKey, key.withdrawalId = some w.id →
      (HasKey (db.setMoney money).money.postings key ↔
        HasKey (debitPosting w :: agencyCredits w a ++ [refundPosting w]) key) := by
    intro key made
    rw [hasKey_own _ made, ownRefunded]
  have posted : m.postings = (db.setMoney money).money.postings ++ agencyReversals w a := by
    refine reverseAgencyCredits_posts ?_ ?_ ?_ ?_ undone
    · intro positive
      rw [standing _ (by simp [LedgerKey.withdrawalId, owned])]
      simp [agencyCredits, positive]
    · intro positive
      rw [standing _ (by simp [LedgerKey.withdrawalId, owned])]
      simp [agencyCredits, positive]
    · rw [standing _ (by simp [LedgerKey.withdrawalId, owned])]
      simp [debitPosting, refundPosting, entryFor, agencyCredits]
    · rw [standing _ (by simp [LedgerKey.withdrawalId, owned])]
      simp [debitPosting, refundPosting, entryFor, agencyCredits]
  have own' : ((db.setMoney money).setMoney m).own w.id =
      debitPosting w :: agencyCredits w a ++ refundPosting w :: agencyReversals w a := by
    have appended : ((db.setMoney money).setMoney m).own w.id =
        (db.setMoney money).own w.id ++ agencyReversals w a := own_of_posts posted ?_
    · rw [appended, ownRefunded, List.append_assoc]
      rfl
    · intro p member
      rcases List.mem_append.mp member with payout | reward
      · exact about_debitOf p payout
      · exact about_debitOf p reward
  rw [ReversalReads.expireOpenAssignment, isOpen,
    Option.filter_some_neg (by simp [PayrollAssignment.isOpen, completed])] at closed
  cases closed
  refine ⟨.row sn (rowStep_reversed reason w) rfl rfl rfl rfl ?_, own'⟩
  change Stage _ _ _ (((db.setMoney money).setMoney m).own w.id)
  rw [own']
  exact .reversed a rfl completed

/-- In strict mode a withdrawal is not reversed once the company has been credited for it. -/
theorem adminReverseWithdrawalTx_keeps (inv : Inv strict id db) (row : db.withdrawal = some w)
    (live : w.status ≠ .failed)
    (notTakenOver : strict → ¬ HasKey (db.own id) (.payrollTakeover id))
    (returned : (adminReverseWithdrawalTx env (db.reversalReads w) reason).eval db = .ok (r, db')) :
    Keeps strict id db db' ∧ Reversal w (db.own id) (db'.own id) := by
  obtain ⟨dead, current, sn⟩ := inv.of_row row
  obtain rfl := sn.id_eq
  have stage := sn.stage
  generalize own : db.own w.id = posts at stage
  have unpaid : current = none → posts = [debitPosting w] →
      Keeps strict w.id db db' ∧ Reversal w posts (db'.own w.id) := by
    rintro rfl rfl
    have kept := reverse_unassigned sn live returned (by rw [own]; exact .refunded rfl)
    rw [kept.2, own]
    exact ⟨kept.1, .unpaid⟩
  cases stage with
  | platform => exact unpaid rfl rfl
  | unassigned => exact unpaid rfl rfl
  | takeover => exact unpaid rfl rfl
  | assigned a _ _ _ pending =>
    have kept := reverse_open sn (.inl pending) own returned
    rw [kept.2]
    exact ⟨kept.1, .unpaid⟩
  | proved a _ _ _ waiting =>
    have kept := reverse_open sn (.inr waiting) own returned
    rw [kept.2]
    exact ⟨kept.1, .unpaid⟩
  | settled a _ _ completed =>
    have kept := reverse_settled sn completed own returned
    rw [kept.2]
    exact ⟨kept.1, .agency a⟩
  | takenOver company _ _ =>
    have lax : strict → withdrawalHostPayoutPoints w ≤ 0 := by
      intro isStrict
      have free := notTakenOver isStrict
      by_contra positive
      exact free (by rw [own]; simp [takeoverCredits]; omega)
    have kept := reverse_unassigned sn live returned
      (by rw [own]; exact .refundedTakeover company rfl lax)
    rw [kept.2, own]
    exact ⟨kept.1, .takeover company⟩
  | refunded failed => exact absurd failed live
  | reversed _ failed _ => exact absurd failed live
  | refundedTakeover _ failed _ => exact absurd failed live

end OlNode.Withdrawals
