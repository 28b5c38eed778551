import OlNode.Withdrawal.Postings

/-!
# Every transaction of the withdrawal service keeps the invariant

One lemma for each transaction body. The stage in which a transaction's guards let it act is found
first; the new stage is then read off its writes.
-/
namespace OlNode.Withdrawals

open ReadCommitted

/-- The invariant holds again, and nothing final was undone. -/
def Keeps (strict : Prop) (id : Nat) (db db' : WithdrawalDb) : Prop :=
  Inv strict id db' ∧ Grows db db'

namespace Stage

variable {strict : Prop} {w : Withdrawal} {current : Option PayrollAssignment}
  {own : List Posting} {a : PayrollAssignment}

theorem of_pending (stage : Stage strict w (some a) own) (pending : a.status = .pending) :
    isPlatformHandledWithdrawal w = false ∧ w.status = .pending ∧ w.waitingExpiresAt = none ∧
      own = [debitPosting w] := by
  cases stage with
  | assigned _ bank status agency _ => exact ⟨bank, status, agency, rfl⟩
  | proved _ _ _ _ waiting => simp [pending] at waiting
  | settled _ _ _ completed => simp [pending] at completed
  | reversed _ _ completed => simp [pending] at completed

theorem of_waiting (stage : Stage strict w (some a) own) (waiting : a.status = .waiting) :
    isPlatformHandledWithdrawal w = false ∧ w.status ∈ [.waiting, .disputed] ∧
      w.waitingExpiresAt = none ∧ own = [debitPosting w] := by
  cases stage with
  | assigned _ _ _ _ pending => simp [waiting] at pending
  | proved _ bank status agency _ => exact ⟨bank, status, agency, rfl⟩
  | settled _ _ _ completed => simp [waiting] at completed
  | reversed _ _ completed => simp [waiting] at completed

theorem of_awaiting (stage : Stage strict w current own)
    (bank : isPlatformHandledWithdrawal w = false)
    (status : w.status = .pending ∨ w.status = .pendingPlatform) :
    w.waitingExpiresAt = none ∧ own = [debitPosting w] ∧
      (current = none ∨ ∃ a, current = some a ∧ a.status = .pending ∧ w.status = .pending) := by
  cases stage with
  | platform platform _ => simp [bank] at platform
  | unassigned _ _ agency => exact ⟨agency, rfl, .inl rfl⟩
  | assigned a _ status agency pending => exact ⟨agency, rfl, .inr ⟨a, rfl, pending, status⟩⟩
  | proved _ _ status' _ _ => rcases status with h | h <;> simp [h] at status'
  | settled _ _ status' _ => rcases status with h | h <;> simp [h] at status'
  | takeover _ status' _ => rcases status with h | h <;> simp [h] at status'
  | takenOver _ _ status' => rcases status with h | h <;> simp [h] at status'
  | refunded status' => rcases status with h | h <;> simp [h] at status'
  | reversed _ status' _ => rcases status with h | h <;> simp [h] at status'
  | refundedTakeover _ status' _ => rcases status with h | h <;> simp [h] at status'

theorem of_platform (stage : Stage strict w current own)
    (platform : isPlatformHandledWithdrawal w = true) (live : w.status ≠ .failed) :
    current = none ∧ own = [debitPosting w] := by
  cases stage with
  | platform => exact ⟨rfl, rfl⟩
  | unassigned bank => simp [platform] at bank
  | assigned _ bank => simp [platform] at bank
  | proved _ bank => simp [platform] at bank
  | settled _ bank => simp [platform] at bank
  | takeover bank => simp [platform] at bank
  | takenOver _ bank => simp [platform] at bank
  | refunded failed => exact absurd failed live
  | reversed _ failed => exact absurd failed live
  | refundedTakeover _ failed => exact absurd failed live

theorem of_company (stage : Stage strict w current own)
    (bank : isPlatformHandledWithdrawal w = false) (status : w.status = .waiting)
    (company : w.waitingExpiresAt.isSome) : current = none ∧ own = [debitPosting w] := by
  cases stage with
  | platform platform _ => simp [bank] at platform
  | unassigned _ status' _ => simp [status] at status'
  | assigned _ _ status' _ _ => simp [status] at status'
  | proved _ _ _ agency _ => simp [agency] at company
  | settled _ _ status' _ => simp [status] at status'
  | takeover => exact ⟨rfl, rfl⟩
  | takenOver _ _ status' => simp [status] at status'
  | refunded status' => simp [status] at status'
  | reversed _ status' _ => simp [status] at status'
  | refundedTakeover _ status' _ => simp [status] at status'

end Stage

/-- An update of the row that does not bring it back from FAILED and takes back no waiting
period. -/
theorem RowStep.of_apply {w : Withdrawal} {u : WithdrawalUpdate}
    (failed : w.status = .failed → u.status = .failed)
    (company : ∀ v, u.waitingExpiresAt = some v → v.isSome) : RowStep w (w.apply u) := by
  refine ⟨rfl, rfl, failed, ?_⟩
  intro set
  change (u.waitingExpiresAt.getD w.waitingExpiresAt).isSome
  cases given : u.waitingExpiresAt with
  | none => simpa using set
  | some v => simpa using company v given

section Transactions

variable {strict : Prop} {id : Nat} {db db' : WithdrawalDb} {env : Environment} {w : Withdrawal}
  {dead : List PayrollAssignment} {current : Option PayrollAssignment} {a : PayrollAssignment}
  {u : AssignmentUpdate} {f : Withdrawal → Withdrawal}

theorem Keeps.same (inv : Inv strict id db) : Keeps strict id db db := ⟨inv, .refl db⟩

theorem Keeps.row (sn : Snapshot strict id db w dead current) (step : RowStep w (f w))
    (count : (f w).assignmentCount = w.assignmentCount)
    (row : db'.withdrawal = db.withdrawal.map f)
    (assignments : db'.assignments = db.assignments) (jobs : db'.jobs = db.jobs)
    (stage : Stage strict (f w) current (db'.own id)) : Keeps strict id db db' := by
  have row' : db'.withdrawal = some (f w) := by rw [row, sn.row, Option.map_some]
  refine ⟨.inr ⟨f w, dead, current, ?_⟩, .of_row sn.row row' step⟩
  refine sn.keepCurrent step count row' (assignments.trans sn.assignments) rfl rfl ?_ stage
  rw [jobs]
  exact fun queued => queued

/-- The row and the current assignment change. -/
theorem Keeps.updated (sn : Snapshot strict id db w dead (some a)) (step : RowStep w (f w))
    (count : (f w).assignmentCount = w.assignmentCount)
    (row : db'.withdrawal = db.withdrawal.map f)
    (assignments : db'.assignments = (db.setAssignment a.id u).assignments)
    (jobs : db'.jobs = db.jobs)
    (stage : Stage strict (f w) (some (a.apply u)) (db'.own id)) : Keeps strict id db db' := by
  have row' : db'.withdrawal = some (f w) := by rw [row, sn.row, Option.map_some]
  refine ⟨.inr ⟨f w, dead, some (a.apply u), ?_⟩, .of_row sn.row row' step⟩
  refine sn.keepCurrent step count row' ?_ rfl rfl ?_ stage
  · exact assignments.trans (sn.setAssignment_current u)
  · rw [jobs]
    exact fun queued => queued

/-- The current assignment dies. -/
theorem Keeps.closed (sn : Snapshot strict id db w dead (some a)) (step : RowStep w (f w))
    (count : (f w).status ≠ .failed → (f w).assignmentCount = w.assignmentCount + 1)
    (row : db'.withdrawal = db.withdrawal.map f)
    (assignments : db'.assignments = (db.setAssignment a.id u).assignments)
    (closed : u.status = .rejected ∨ u.status = .expired) (jobs : db'.jobs = db.jobs)
    (stage : Stage strict (f w) none (db'.own id)) : Keeps strict id db db' := by
  have row' : db'.withdrawal = some (f w) := by rw [row, sn.row, Option.map_some]
  refine ⟨.inr ⟨f w, dead ++ [a.apply u], none, ?_⟩, .of_row sn.row row' step⟩
  refine sn.closeCurrent step count row' ?_ rfl rfl closed ?_ stage
  · exact assignments.trans (sn.setAssignment_current u)
  · rw [jobs]
    exact fun queued => queued

theorem Keeps.opened (sn : Snapshot strict id db w dead none) (live : w.status ≠ .failed)
    (step : RowStep w (f w)) (count : (f w).assignmentCount = w.assignmentCount)
    (row : db'.withdrawal = db.withdrawal.map f)
    (assignments : db'.assignments = db.assignments ++ [a]) (newId : db.assignment a.id = none)
    (owned : a.id.withdrawalId = id)
    (number : a.assignmentNumber = w.assignmentCount + 1) (jobs : db'.jobs = db.jobs)
    (stage : Stage strict (f w) (some a) (db'.own id)) : Keeps strict id db db' := by
  have row' : db'.withdrawal = some (f w) := by rw [row, sn.row, Option.map_some]
  refine ⟨.inr ⟨f w, dead, some a, ?_⟩, .of_row sn.row row' step⟩
  refine sn.openNew live step count row' assignments newId owned number ?_ stage
  rw [jobs]
  exact fun queued => queued

theorem Uncreated.assignment_none (un : Uncreated id db) (assignmentId : AssignmentId) :
    db.assignment assignmentId = none := by
  simp [WithdrawalDb.assignment, un.assignments]

variable {assignmentId : AssignmentId}

/-- Whoever finds a live assignment finds the current one. -/
theorem Inv.current_of_found (inv : Inv strict id db)
    (found : db.assignment assignmentId = some a)
    (live : a.status ≠ .rejected ∧ a.status ≠ .expired) :
    ∃ w dead, Snapshot strict id db w dead (some a) ∧ a.id = assignmentId := by
  rcases inv with un | ⟨w, dead, current, sn⟩
  · simp [un.assignment_none] at found
  · obtain ⟨rfl, same⟩ := sn.current_of_found found live
    exact ⟨w, dead, sn, same⟩

theorem Inv.of_row (inv : Inv strict id db) (row : db.withdrawal = some w) :
    ∃ dead current, Snapshot strict id db w dead current := by
  rcases inv with un | ⟨w', dead, current, sn⟩
  · simp [un.row] at row
  · cases sn.row.symm.trans row
    exact ⟨dead, current, sn⟩

variable {proof : ProofKey} {r : Unit}

theorem agentCompletePayrollTx_keeps {agent : UserId} (inv : Inv strict id db)
    (returned : (agentCompletePayrollTx env agent assignmentId proof).eval db = .ok (r, db')) :
    Keeps strict id db db' := by
  simp only [agentCompletePayrollTx, Tx.eval_select_bind] at returned
  cases found : (db.assignment assignmentId).filter fun a => decide (a.agencyUserId = agent) with
  | none => simp [found] at returned
  | some a =>
    simp only [found] at returned
    obtain ⟨_, returned⟩ := Tx.eval_ensure_bind_ok.mp returned
    obtain ⟨pending, returned⟩ := Tx.eval_ensure_bind_ok.mp returned
    obtain ⟨_, returned⟩ := Tx.eval_ensure_bind_ok.mp returned
    replace found := (Option.filter_eq_some_iff.mp found).1
    replace pending : a.status = .pending := by simpa using pending
    obtain ⟨w, dead, sn, rfl⟩ := inv.current_of_found found (by simp [pending])
    obtain ⟨bank, status, agency, own⟩ := sn.stage.of_pending pending
    simp only [updateAssignment, updateStatus, Tx.eval_update_bind, Tx.eval_update,
      Except.ok.injEq, Prod.mk.injEq] at returned
    obtain ⟨-, rfl⟩ := returned
    refine .updated sn (.of_apply ?_ ?_) rfl rfl rfl rfl ?_
    · simp [status]
    · simp
    · change Stage _ _ _ (db.own id)
      rw [own]
      exact .proved (a.apply _) bank (by simp [Withdrawal.apply]) agency rfl


/-! ### Lapsed assignments -/

private def countOne (w : Withdrawal) : Withdrawal :=
  { w with assignmentCount := w.assignmentCount + 1 }

private theorem countAttempt_ok {r : Bool} (returned : (countAttempt env).eval db = .ok (r, db')) :
    db' = db.modify countOne ∨
      db' = db.modify fun w => (countOne w).apply { status := .pendingPlatform } := by
  obtain ⟨count, mid, counted, rest⟩ := Tx.eval_bind_ok.mp returned
  simp only [incrementAssignmentCount, Tx.eval_update_bind, Tx.eval_select, Except.ok.injEq,
    Prod.mk.injEq] at counted
  obtain ⟨-, rfl⟩ := counted
  split at rest
  next =>
    simp only [updateStatus, Tx.eval_update_bind, Tx.eval_pure, Except.ok.injEq,
      Prod.mk.injEq] at rest
    right
    rw [← rest.2]
    simp only [WithdrawalDb.modify, Option.map_map]
    rfl
  next =>
    simp only [Tx.eval_pure, Except.ok.injEq, Prod.mk.injEq] at rest
    exact .inl rest.2.symm

private theorem Keeps.lapsed {r : Bool} (sn : Snapshot strict id db w dead (some a))
    (pending : a.status = .pending) (closed : u.status = .rejected ∨ u.status = .expired)
    (counted : (countAttempt env).eval (db.setAssignment a.id u) = .ok (r, db')) :
    Keeps strict id db db' := by
  obtain ⟨bank, status, agency, own⟩ := sn.stage.of_pending pending
  have stillOwn : (db.setAssignment a.id u).own id = [debitPosting w] := own
  rcases countAttempt_ok counted with rfl | rfl
  · refine .closed sn ⟨rfl, rfl, fun failed => failed, fun set => set⟩ (fun _ => rfl) rfl rfl closed rfl ?_
    change Stage _ _ _ ((db.setAssignment a.id u).own id)
    rw [stillOwn]
    exact .unassigned bank (by simp [countOne, status]) agency
  · refine .closed sn ⟨rfl, rfl, by simp [status], fun set => set⟩ (fun _ => rfl) rfl rfl closed
      rfl ?_
    change Stage _ _ _ ((db.setAssignment a.id u).own id)
    rw [stillOwn]
    exact .unassigned bank (by simp [Withdrawal.apply]) agency

theorem processSlaExpiryTx_keeps {r : Bool} (inv : Inv strict id db)
    (returned : (processSlaExpiryTx env assignmentId).eval db = .ok (r, db')) :
    Keeps strict id db db' := by
  simp only [processSlaExpiryTx, Tx.eval_select_bind] at returned
  cases found : db.assignment assignmentId with
  | none =>
    simp only [found, Tx.eval_pure, Except.ok.injEq, Prod.mk.injEq] at returned
    exact returned.2 ▸ .same inv
  | some a =>
    simp only [found] at returned
    split at returned
    next =>
      simp only [Tx.eval_pure, Except.ok.injEq, Prod.mk.injEq] at returned
      exact returned.2 ▸ .same inv
    next lapsed =>
      have pending : a.status = .pending := by
        by_contra other
        exact lapsed (.inl other)
      obtain ⟨w, dead, sn, rfl⟩ := inv.current_of_found found (by simp [pending])
      rw [updateAssignment, Tx.eval_update_bind] at returned
      exact .lapsed sn pending (.inr rfl) returned

theorem agentRejectPayrollTx_keeps {agent : UserId} {reason : Option String} {r : Bool}
    (inv : Inv strict id db)
    (returned : (agentRejectPayrollTx env agent assignmentId reason).eval db = .ok (r, db')) :
    Keeps strict id db db' := by
  simp only [agentRejectPayrollTx, Tx.eval_select_bind] at returned
  cases found : (db.assignment assignmentId).filter fun a => decide (a.agencyUserId = agent) with
  | none => simp [found] at returned
  | some a =>
    simp only [found] at returned
    obtain ⟨_, returned⟩ := Tx.eval_ensure_bind_ok.mp returned
    obtain ⟨active, returned⟩ := Tx.eval_ensure_bind_ok.mp returned
    replace found := (Option.filter_eq_some_iff.mp found).1
    have pending : a.status = .pending := by
      rw [decide_eq_true_eq] at active
      exact active.1
    obtain ⟨w, dead, sn, rfl⟩ := inv.current_of_found found (by simp [pending])
    rw [updateAssignment, Tx.eval_update_bind] at returned
    exact .lapsed sn pending (.inl rfl) returned

/-! ### Assignment -/

private theorem createAssignment_ok (returned : (createAssignment a).eval db = .ok (r, db')) :
    db.assignment a.id = none ∧ db' = { db with assignments := db.assignments ++ [a] } := by
  simp only [createAssignment, Tx.eval_lockRow_bind, Tx.eval_select_bind] at returned
  obtain ⟨absent, returned⟩ := Tx.eval_ensure_bind_ok.mp returned
  simp only [Tx.eval_update, Except.ok.injEq, Prod.mk.injEq] at returned
  exact ⟨by simpa using absent, returned.2.symm⟩

private theorem Keeps.unassigned {status : WithdrawalStatus}
    (sn : Snapshot strict id db w dead none) (bank : isPlatformHandledWithdrawal w = false)
    (awaiting : w.status = .pending ∨ w.status = .pendingPlatform)
    (target : status ∈ [.pending, .pendingPlatform]) :
    Keeps strict id db (db.modify (·.apply { status })) := by
  obtain ⟨agency, own, -⟩ := sn.stage.of_awaiting bank awaiting
  refine .row sn (.of_apply ?_ (by simp)) rfl rfl rfl rfl ?_
  · rcases awaiting with h | h <;> simp [h]
  · change Stage _ _ _ (db.own id)
    rw [own]
    exact .unassigned bank target agency

private theorem Keeps.assigned {status : WithdrawalStatus}
    (sn : Snapshot strict id db w dead none) (bank : isPlatformHandledWithdrawal w = false)
    (awaiting : w.status = .pending ∨ w.status = .pendingPlatform)
    (newId : db.assignment a.id = none) (owned : a.id.withdrawalId = id)
    (number : a.assignmentNumber = w.assignmentCount + 1)
    (target : (status = .pending ∧ a.status = .pending) ∨
      (status = .waiting ∧ a.status = .waiting)) :
    Keeps strict id db
      ({ db with assignments := db.assignments ++ [a] }.modify (·.apply { status })) := by
  obtain ⟨agency, own, -⟩ := sn.stage.of_awaiting bank awaiting
  have live : w.status ≠ .failed := by rcases awaiting with h | h <;> simp [h]
  refine .opened sn live (.of_apply (by simp [live]) (by simp)) rfl rfl rfl newId owned
    number rfl ?_
  change Stage _ _ _ (db.own id)
  rw [own]
  rcases target with ⟨rfl, pending⟩ | ⟨rfl, waiting⟩
  · exact .assigned a bank rfl agency pending
  · exact .proved a bank (by simp [Withdrawal.apply]) agency waiting

theorem assignToAgencyTx_keeps {opts : AssignOptions} {r : AssignOutcome}
    (inv : Inv strict id db)
    (returned : (assignToAgencyTx env opts).eval db = .ok (r, db')) :
    Keeps strict id db db' := by
  simp only [assignToAgencyTx, Tx.eval_lockRow_bind, Tx.eval_select_bind] at returned
  cases row : db.withdrawal with
  | none =>
    simp only [row, Tx.eval_pure, Except.ok.injEq, Prod.mk.injEq] at returned
    exact returned.2 ▸ .same inv
  | some w =>
    obtain ⟨dead, current, sn⟩ := inv.of_row row
    simp only [row] at returned
    split at returned
    next => simp at returned
    next notPlatform =>
      have bank : isPlatformHandledWithdrawal w = false := by simpa using notPlatform
      split at returned
      next =>
        simp only [Tx.eval_pure, Except.ok.injEq, Prod.mk.injEq] at returned
        exact returned.2 ▸ .same inv
      next awaiting =>
        have awaiting : w.status = .pending ∨ w.status = .pendingPlatform := by
          by_contra other
          exact awaiting (not_or.mp other)
        obtain ⟨-, -, whichCurrent⟩ := sn.stage.of_awaiting bank awaiting
        rw [Tx.eval_select_bind, sn.openAssignment] at returned
        rcases whichCurrent with rfl | ⟨a, rfl, pending, status⟩
        · rw [Option.filter_none] at returned
          dsimp only at returned
          split at returned
          next =>
            obtain ⟨_, mid, moved, rest⟩ := Tx.eval_bind_ok.mp returned
            cases rest
            rw [Tx.eval_when] at moved
            split at moved
            next =>
              cases moved
              exact .unassigned sn bank awaiting (by simp)
            next =>
              cases moved
              exact .same inv
          next =>
            split at returned
            next =>
              cases returned
              exact .same inv
            next =>
              cases returned
              exact .unassigned sn bank awaiting (by simp)
            next agency _ =>
              obtain ⟨_, mid, created, returned⟩ := Tx.eval_bind_ok.mp returned
              obtain ⟨newId, rfl⟩ := createAssignment_ok created
              cases returned
              exact .assigned sn bank awaiting newId sn.id_eq rfl (.inl ⟨rfl, rfl⟩)
        · -- An open assignment already belongs to a PENDING withdrawal: nothing to heal.
          have isOpen : Option.filter (·.isOpen) (some a) = some a := by
            simp [Option.filter, PayrollAssignment.isOpen, pending]
          simp [isOpen, status, Tx.eval_bind, Except.bind] at returned
          exact returned.2 ▸ .same inv

/-! ### Admin completion -/

theorem adminCompletePlatformPayoutTx_keeps (inv : Inv strict id db)
    (returned : (adminCompletePlatformPayoutTx env proof).eval db = .ok (r, db')) :
    Keeps strict id db db' := by
  simp only [adminCompletePlatformPayoutTx, Tx.eval_select_bind] at returned
  cases row : db.withdrawal with
  | none => simp [row] at returned
  | some w =>
    obtain ⟨dead, current, sn⟩ := inv.of_row row
    simp only [row] at returned
    obtain ⟨platform, returned⟩ := Tx.eval_ensure_bind_ok.mp returned
    obtain ⟨awaiting, returned⟩ := Tx.eval_ensure_bind_ok.mp returned
    have status : w.status = .pendingPlatform := by simpa using awaiting
    obtain ⟨rfl, own⟩ := sn.stage.of_platform platform (by simp [status])
    cases returned
    refine .row sn (.of_apply (by simp [status]) (by simp [companyProof])) rfl rfl rfl rfl ?_
    change Stage _ _ _ (db.own id)
    rw [own]
    exact .platform platform (by simp [Withdrawal.apply, companyProof])

theorem adminCompletePlatformPayoutTx_sets
    (returned : (adminCompletePlatformPayoutTx env proof).eval db = .ok (r, db')) :
    ∃ w, db'.withdrawal = some w ∧ w.waitingExpiresAt.isSome := by
  simp only [adminCompletePlatformPayoutTx, Tx.eval_select_bind] at returned
  cases row : db.withdrawal with
  | none => simp [row] at returned
  | some w =>
    simp only [row] at returned
    obtain ⟨_, returned⟩ := Tx.eval_ensure_bind_ok.mp returned
    obtain ⟨_, returned⟩ := Tx.eval_ensure_bind_ok.mp returned
    cases returned
    exact ⟨_, by rw [WithdrawalDb.modify_withdrawal, row, Option.map_some], rfl⟩

theorem adminCompletePayrollTakeoverTx_keeps (inv : Inv strict id db)
    (returned : (adminCompletePayrollTakeoverTx env proof).eval db = .ok (r, db')) :
    Keeps strict id db db' := by
  simp only [adminCompletePayrollTakeoverTx, Tx.eval_select_bind] at returned
  cases row : db.withdrawal with
  | none => simp [row] at returned
  | some w =>
    obtain ⟨dead, current, sn⟩ := inv.of_row row
    simp only [row] at returned
    obtain ⟨notPlatform, returned⟩ := Tx.eval_ensure_bind_ok.mp returned
    obtain ⟨awaiting, returned⟩ := Tx.eval_ensure_bind_ok.mp returned
    have bank : isPlatformHandledWithdrawal w = false := by simpa using notPlatform
    have status : w.status = .pendingPlatform := by simpa using awaiting
    obtain ⟨-, own, whichCurrent⟩ := sn.stage.of_awaiting bank (.inr status)
    have unassigned : current = none := by
      rcases whichCurrent with none | ⟨_, _, _, pending⟩
      · exact none
      · simp [status] at pending
    subst unassigned
    cases returned
    refine .row sn (.of_apply (by simp [status]) (by simp [companyProof])) rfl rfl rfl rfl ?_
    change Stage _ _ _ (db.own id)
    rw [own]
    exact .takeover bank rfl rfl

theorem adminCompletePayrollTakeoverTx_sets
    (returned : (adminCompletePayrollTakeoverTx env proof).eval db = .ok (r, db')) :
    ∃ w, db'.withdrawal = some w ∧ w.waitingExpiresAt.isSome := by
  simp only [adminCompletePayrollTakeoverTx, Tx.eval_select_bind] at returned
  cases row : db.withdrawal with
  | none => simp [row] at returned
  | some w =>
    simp only [row] at returned
    obtain ⟨_, returned⟩ := Tx.eval_ensure_bind_ok.mp returned
    obtain ⟨_, returned⟩ := Tx.eval_ensure_bind_ok.mp returned
    cases returned
    exact ⟨_, by rw [WithdrawalDb.modify_withdrawal, row, Option.map_some], rfl⟩

/-- The current PENDING assignment is rejected and another one, already WAITING, takes its place. -/
private theorem Keeps.superseded {b : PayrollAssignment}
    (sn : Snapshot strict id db w dead (some a)) (pending : a.status = .pending)
    (closed : u.status = .rejected ∨ u.status = .expired)
    (newId : ((db.setAssignment a.id u).modify countOne).assignment b.id = none)
    (owned : b.id.withdrawalId = id)
    (number : b.assignmentNumber = w.assignmentCount + 1 + 1) (waiting : b.status = .waiting)
    (result : db' = { (db.setAssignment a.id u).modify countOne with
        assignments := ((db.setAssignment a.id u).modify countOne).assignments ++ [b] }.modify
      (·.apply { status := .waiting })) :
    Keeps strict id db db' := by
  obtain ⟨bank, status, agency, own⟩ := sn.stage.of_pending pending
  have step : RowStep w (countOne w) := ⟨rfl, rfl, fun failed => failed, fun set => set⟩
  have row : ((db.setAssignment a.id u).modify countOne).withdrawal = some (countOne w) := by
    simp [sn.row]
  have midStage : Stage strict (countOne w) none
      (((db.setAssignment a.id u).modify countOne).own id) := by
    change Stage _ _ _ (db.own id)
    rw [own]
    exact .unassigned bank (by simp [countOne, status]) agency
  have mid : Snapshot strict id ((db.setAssignment a.id u).modify countOne) (countOne w)
      (dead ++ [a.apply u]) none :=
    sn.closeCurrent step (fun _ => rfl) row (sn.setAssignment_current u) rfl rfl closed
      (fun queued => queued) midStage
  have opened := Keeps.assigned mid bank (.inl status) newId owned number (.inr ⟨rfl, waiting⟩)
  rw [result]
  exact ⟨opened.1, .trans _ _ _ (.of_row sn.row row step) opened.2⟩

theorem adminCompletePayrollForAgencyTx_keeps {agency : UserId} {reason : Option String}
    {r : ManualCompletion} (inv : Inv strict id db)
    (returned : (adminCompletePayrollForAgencyTx env agency proof reason).eval db = .ok (r, db')) :
    Keeps strict id db db' := by
  simp only [adminCompletePayrollForAgencyTx, Tx.eval_select_bind] at returned
  cases row : db.withdrawal with
  | none => simp [row] at returned
  | some w =>
    obtain ⟨dead, current, sn⟩ := inv.of_row row
    simp only [row] at returned
    obtain ⟨notPlatform, returned⟩ := Tx.eval_ensure_bind_ok.mp returned
    obtain ⟨awaiting, returned⟩ := Tx.eval_ensure_bind_ok.mp returned
    obtain ⟨_, returned⟩ := Tx.eval_ensure_bind_ok.mp returned
    obtain ⟨_, returned⟩ := Tx.eval_ensure_bind_ok.mp returned
    have bank : isPlatformHandledWithdrawal w = false := by simpa using notPlatform
    replace awaiting : w.status = .pending ∨ w.status = .pendingPlatform := by simpa using awaiting
    obtain ⟨noTakeover, own, whichCurrent⟩ := sn.stage.of_awaiting bank awaiting
    rw [Tx.eval_select_bind, sn.openAssignment] at returned
    rcases whichCurrent with rfl | ⟨a, rfl, pending, status⟩
    · rw [Option.filter_none] at returned
      dsimp only at returned
      obtain ⟨_, mid, created, returned⟩ := Tx.eval_bind_ok.mp returned
      obtain ⟨newId, rfl⟩ := createAssignment_ok created
      cases returned
      exact .assigned sn bank awaiting newId sn.id_eq rfl (.inr ⟨rfl, rfl⟩)
    · have isOpen : Option.filter (·.isOpen) (some a) = some a := by
        simp [Option.filter, PayrollAssignment.isOpen, pending]
      rw [isOpen] at returned
      dsimp only at returned
      split at returned
      next =>
        cases returned
        refine .updated sn (.of_apply (by simp [status]) (by simp)) rfl rfl rfl rfl ?_
        change Stage _ _ _ (db.own id)
        rw [own]
        exact .proved (a.apply _) bank (by simp [Withdrawal.apply]) noTakeover rfl
      next =>
        simp only [updateAssignment, incrementAssignmentCount, Tx.eval_update_bind] at returned
        obtain ⟨count, mid, counted, returned⟩ := Tx.eval_bind_ok.mp returned
        obtain ⟨_, after, created, returned⟩ := Tx.eval_bind_ok.mp returned
        obtain ⟨newId, rfl⟩ := createAssignment_ok created
        simp only [Tx.eval_update_bind, Tx.eval_select, Except.ok.injEq, Prod.mk.injEq,
          WithdrawalDb.modify_withdrawal, WithdrawalDb.setAssignment_withdrawal, row,
          Option.map_some, Option.getD_some] at counted
        obtain ⟨rfl, rfl⟩ := counted
        cases returned
        exact .superseded sn pending (.inl rfl) newId sn.id_eq rfl rfl rfl

/-! ### Settlement -/

variable {key : LedgerKey}

theorem about_entryFor {userId : UserId} {signed : Int} :
    (entryFor w userId signed key).isAbout w.id = true := by
  simp [Posting.isAbout, entryFor]

theorem about_creditOf {userId : UserId} {amount : Int} :
    ∀ p ∈ creditOf w userId amount key, p.isAbout w.id = true := by
  intro p member
  unfold creditOf at member
  split at member
  · rw [List.mem_singleton.mp member]
    exact about_entryFor
  · simp at member

theorem about_debitOf {userId : UserId} {amount : Int} :
    ∀ p ∈ debitOf w userId amount key, p.isAbout w.id = true := by
  intro p member
  unfold debitOf at member
  split at member
  · rw [List.mem_singleton.mp member]
    exact about_entryFor
  · simp at member

/-- A key made for this withdrawal is free unless it stands among the withdrawal's own rows. -/
theorem absent_of_own {posts : List Posting} (own : db.own id = posts)
    (made : key.withdrawalId = some id) (free : ¬ HasKey posts key) :
    ¬ HasKey db.money.postings key := by
  rw [hasKey_own db made, own]
  exact free

variable {m : MoneyDb}

private theorem Snapshot.own_creditAgency (sn : Snapshot strict id db w dead (some a))
    (own : db.own id = [debitPosting w])
    (credited : (creditAgency env w a.agencyUserId a.id).eval db.money = .ok (r, m))
    (after : db'.money = m) : db'.own id = debitPosting w :: agencyCredits w a := by
  obtain rfl := sn.id_eq
  have owned := sn.owned a rfl
  have hardDebit : HasKey db.money.postings (.withdrawalDebit w.id) := by
    rw [hasKey_own db rfl, own]
    simp [debitPosting, entryFor]
  have posted := creditAgency_posts hardDebit
    (absent_of_own own (by simp [LedgerKey.withdrawalId, owned]) (by simp [debitPosting, entryFor]))
    (absent_of_own own (by simp [LedgerKey.withdrawalId, owned]) (by simp [debitPosting, entryFor]))
    credited
  rw [own_of_posts (after ▸ posted), own]
  · rfl
  · intro p member
    rcases List.mem_append.mp member with payout | reward
    · exact about_creditOf p payout
    · exact about_creditOf p reward

theorem autoCompleteWaitingTx_keeps {pre : PayrollAssignment × Withdrawal}
    (inv : Inv strict id db) (fresh : db.assignmentWithWithdrawal assignmentId = some pre)
    (returned : (autoCompleteWaitingTx env pre assignmentId).eval db = .ok (r, db')) :
    Keeps strict id db db' := by
  simp only [autoCompleteWaitingTx, Tx.eval_select_bind, fresh] at returned
  obtain ⟨a, w⟩ := pre
  split at returned
  next =>
    cases returned
    exact .same inv
  next due =>
    have waiting : a.status = .waiting := by
      by_contra other
      exact due (.inl other)
    obtain ⟨a', found, fresh⟩ := Option.bind_eq_some_iff.mp fresh
    obtain ⟨w', row, fresh⟩ := Option.map_eq_some_iff.mp fresh
    cases fresh
    obtain ⟨v, dead, sn, rfl⟩ := inv.current_of_found found (by simp [waiting])
    cases sn.row.symm.trans row
    obtain ⟨bank, status, agency, own⟩ := sn.stage.of_waiting waiting
    simp only [updateAssignment, updateStatus, Tx.eval_update_bind] at returned
    obtain ⟨money, credited, rfl⟩ := onMoney_ok returned
    refine .updated sn (.of_apply ?_ (by simp)) rfl rfl rfl rfl ?_
    · intro failed
      simp [failed] at status
    · rw [sn.own_creditAgency own credited rfl]
      exact .settled (a.apply _) bank (by simp [Withdrawal.apply]) rfl

theorem autoCompletePlatformWaitingTx_keeps (inv : Inv strict id db)
    (returned : (autoCompletePlatformWaitingTx env).eval db = .ok (r, db')) :
    Keeps strict id db db' := by
  simp only [autoCompletePlatformWaitingTx, Tx.eval_select_bind] at returned
  cases row : db.withdrawal with
  | none =>
    simp only [row] at returned
    cases returned
    exact .same inv
  | some w =>
    obtain ⟨dead, current, sn⟩ := inv.of_row row
    simp only [row] at returned
    split at returned
    next elapsed =>
      simp only [companyWaitingOver, Bool.and_eq_true, decide_eq_true_eq, beq_iff_eq] at elapsed
      obtain ⟨⟨status, platform⟩, -⟩ := elapsed
      obtain ⟨rfl, own⟩ := sn.stage.of_platform platform (by simp [status])
      cases returned
      refine .row sn (.of_apply (by simp [status]) (by simp [companyPaid])) rfl rfl rfl rfl ?_
      change Stage _ _ _ (db.own id)
      rw [own]
      exact .platform platform (by simp [Withdrawal.apply, companyPaid])
    next =>
      cases returned
      exact .same inv

private theorem Snapshot.own_creditTakeover {company : UserId}
    (sn : Snapshot strict id db w dead current) (own : db.own id = [debitPosting w])
    (credited : (creditTakeover env w company).eval db.money = .ok (r, m)) (after : db'.money = m) :
    db'.own id = debitPosting w :: takeoverCredits w company := by
  obtain rfl := sn.id_eq
  have posted := creditTakeover_posts
    (absent_of_own own rfl (by simp [debitPosting, entryFor]))
    (absent_of_own own rfl (by simp [debitPosting, entryFor])) credited
  rw [own_of_posts (after ▸ posted), own]
  · rfl
  · intro p member
    rcases List.mem_append.mp member with payout | reward
    · exact about_creditOf p payout
    · exact about_creditOf p reward

/-- Here the period of the company's own proof must have been set: the guard alone also lets a
withdrawal through whose agency is in its waiting period. -/
theorem autoCompleteTakeoverWaitingTx_keeps {company : UserId} (inv : Inv strict id db)
    (row : db.withdrawal = some w) (set : w.waitingExpiresAt.isSome)
    (returned : (autoCompleteTakeoverWaitingTx env w company).eval db = .ok (r, db')) :
    Keeps strict id db db' := by
  obtain ⟨dead, current, sn⟩ := inv.of_row row
  simp only [autoCompleteTakeoverWaitingTx, Tx.eval_select_bind, row] at returned
  split at returned
  next elapsed =>
    simp only [companyWaitingOver, Bool.and_eq_true, decide_eq_true_eq, beq_iff_eq] at elapsed
    obtain ⟨⟨status, bank⟩, -⟩ := elapsed
    obtain ⟨rfl, own⟩ := sn.stage.of_company bank status set
    simp only [updateStatus, Tx.eval_update_bind] at returned
    obtain ⟨money, credited, rfl⟩ := onMoney_ok returned
    refine .row sn (.of_apply (by simp [status]) (by simp [companyPaid])) rfl rfl rfl rfl ?_
    rw [sn.own_creditTakeover own credited rfl]
    exact .takenOver company bank (by simp [Withdrawal.apply, companyPaid])
  next =>
    cases returned
    exact .same inv

/-! ### Disputes -/

theorem dispute_keeps (ticketId : Nat) (inv : Inv strict id db) (row : db.withdrawal = some w)
    (accepted : (w.status = .paid || (decide (w.status = .pending ∨ w.status = .waiting) &&
      db.waitingAssignment.isSome || decide (w.status = .waiting) &&
        isPlatformHandledWithdrawal w)) = true) :
    Keeps strict id db (db.modify
      (·.apply { status := .disputed, disputeTicketId := some (some ticketId) })) := by
  obtain ⟨dead, current, sn⟩ := inv.of_row row
  simp only [Bool.or_eq_true, Bool.and_eq_true, decide_eq_true_eq] at accepted
  have live : w.status ≠ .failed := by
    rcases accepted with h | ⟨h | h, -⟩ | ⟨h, -⟩ <;> simp [h]
  refine .row sn (.of_apply (by simp [live]) (by simp)) rfl rfl rfl rfl ?_
  change Stage _ _ _ (db.own id)
  rw [sn.waitingAssignment] at accepted
  have stage := sn.stage
  generalize db.own id = own at stage
  cases stage with
  | platform platform _ => exact .platform platform (by simp [Withdrawal.apply])
  | unassigned bank status _ =>
    simp only [List.mem_cons, List.not_mem_nil, or_false] at status
    rcases status with h | h <;> simp [h, bank] at accepted
  | assigned a _ status _ pending => simp [status, pending] at accepted
  | proved a bank _ agency waiting =>
    exact .proved a bank (by simp [Withdrawal.apply]) agency waiting
  | settled a bank _ completed => exact .settled a bank (by simp [Withdrawal.apply]) completed
  | takeover bank status _ => simp [status, bank] at accepted
  | takenOver company bank _ => exact .takenOver company bank (by simp [Withdrawal.apply])
  | refunded failed => exact absurd failed live
  | reversed _ failed _ => exact absurd failed live
  | refundedTakeover _ failed _ => exact absurd failed live

theorem eval_findByIdempotencyKey (db : WithdrawalDb) (key : LedgerKey) :
    (onMoney (PointLedgerRepository.findByIdempotencyKey key)).eval db =
      .ok (findByKey db.money.pointLedger key, db) := by
  rw [eval_onMoney]
  rfl

theorem Snapshot.hardDebit (sn : Snapshot strict id db w dead current) :
    (findByKey db.money.pointLedger (.withdrawalDebit w.id)).isSome = true := by
  have made : (LedgerKey.withdrawalDebit w.id).withdrawalId = some id := by
    simp [LedgerKey.withdrawalId, sn.id_eq]
  rw [findByKey_pointLedger_isSome, hasKey_own db made]
  exact sn.stage.debited.1

theorem Snapshot.noEscrow (sn : Snapshot strict id db w dead current) :
    findByKey db.money.pointLedger (.withdrawalEscrow w.id) = none := by
  have made : (LedgerKey.withdrawalEscrow w.id).withdrawalId = some id := by
    simp [LedgerKey.withdrawalId, sn.id_eq]
  rw [findByKey_pointLedger, hasKey_own db made]
  exact sn.stage.debited.2

theorem adminResolvePlatformDisputePaidTx_keeps (inv : Inv strict id db)
    (row : db.withdrawal = some w) (platform : isPlatformHandledWithdrawal w = true)
    (returned : (adminResolvePlatformDisputePaidTx env).eval db = .ok (r, db')) :
    Keeps strict id db db' := by
  obtain ⟨dead, current, sn⟩ := inv.of_row row
  simp only [adminResolvePlatformDisputePaidTx, Tx.eval_select_bind, row] at returned
  split at returned
  next =>
    cases returned
    exact .same inv
  next disputed =>
    have status : w.status = .disputed := not_not.mp disputed
    obtain ⟨rfl, own⟩ := sn.stage.of_platform platform (by simp [status])
    cases returned
    refine .row sn (.of_apply (by simp [status]) (by simp [companyPaid])) rfl rfl rfl rfl ?_
    change Stage _ _ _ (db.own id)
    rw [own]
    exact .platform platform (by simp [Withdrawal.apply, companyPaid])

theorem Snapshot.own_refundHost {posts : List Posting} (sn : Snapshot strict id db w dead current)
    (own : db.own id = posts) (free : ¬ HasKey posts (.withdrawalRefund w.id))
    (refunded : (refundHost env w).eval db.money = .ok (r, m)) (after : db'.money = m) :
    db'.own id = posts ++ [refundPosting w] := by
  obtain rfl := sn.id_eq
  have posted := refundHost_posts (absent_of_own own rfl free) refunded
  rw [own_of_posts (after ▸ posted), own]
  intro p member
  rw [List.mem_singleton.mp member]
  exact about_entryFor

theorem adminResolvePlatformDisputeRefundTx_keeps {reason : String} (inv : Inv strict id db)
    (row : db.withdrawal = some w) (platform : isPlatformHandledWithdrawal w = true)
    (returned : (adminResolvePlatformDisputeRefundTx env reason).eval db = .ok (r, db')) :
    Keeps strict id db db' := by
  obtain ⟨dead, current, sn⟩ := inv.of_row row
  simp only [adminResolvePlatformDisputeRefundTx, Tx.eval_select_bind, row] at returned
  split at returned
  next =>
    cases returned
    exact .same inv
  next disputed =>
    have status : w.status = .disputed := not_not.mp disputed
    obtain ⟨rfl, own⟩ := sn.stage.of_platform platform (by simp [status])
    rw [Tx.eval_bind_of_ok _ (eval_findByIdempotencyKey db _), sn.hardDebit] at returned
    obtain ⟨_, mid, called, returned⟩ := Tx.eval_bind_ok.mp returned
    rw [Tx.eval_when, if_pos rfl] at called
    obtain ⟨money, refunded, rfl⟩ := onMoney_ok called
    cases returned
    refine .row sn (.of_apply (by simp) (by simp)) rfl rfl rfl rfl ?_
    rw [sn.own_refundHost own (by simp [debitPosting, entryFor]) refunded rfl]
    exact .refunded rfl

/-- There is nothing to claw back while only the debit has been written. -/
theorem nothingToReverse {posts : List Posting} (owned : a.id.withdrawalId = id)
    (own : db.own id = posts) (noPayout : ¬ HasKey posts (.payrollHostPayout a.id))
    (noReward : ¬ HasKey posts (.payrollReward a.id))
    (returned : (reverseAgencyCredits w a.agencyUserId a.id).eval db.money = .ok (r, m)) :
    m = db.money :=
  reverseAgencyCredits_absent
    (absent_of_own own (by simp [LedgerKey.withdrawalId, owned]) noPayout)
    (absent_of_own own (by simp [LedgerKey.withdrawalId, owned]) noReward) returned

section

variable (inv : Inv strict id db) (row : db.withdrawal = some w)
  (waiting : db.waitingAssignment = some a)
include inv row waiting

private theorem Inv.disputed (disputed : db.disputedWith a.id = true) :
    ∃ dead, Snapshot strict id db w dead (some a) ∧ a.status = .waiting ∧
      w.status = .disputed := by
  obtain ⟨dead, current, sn⟩ := inv.of_row row
  rw [sn.waitingAssignment] at waiting
  obtain ⟨rfl, isWaiting⟩ := Option.filter_eq_some_iff.mp waiting
  simp only [WithdrawalDb.disputedWith, row, Option.any_some, Bool.and_eq_true,
    decide_eq_true_eq] at disputed
  exact ⟨dead, sn, by simpa using isWaiting, disputed.1⟩

theorem adminResolveDisputeFavourAgentTx_keeps
    (returned : (adminResolveDisputeFavourAgentTx env w a).eval db = .ok (r, db')) :
    Keeps strict id db db' := by
  simp only [adminResolveDisputeFavourAgentTx, Tx.eval_select_bind] at returned
  split at returned
  next disputed =>
    obtain ⟨dead, sn, isWaiting, status⟩ := inv.disputed row waiting disputed
    obtain ⟨bank, -, agency, own⟩ := sn.stage.of_waiting isWaiting
    simp only [updateAssignment, updateStatus, Tx.eval_update_bind] at returned
    obtain ⟨money, credited, rfl⟩ := onMoney_ok returned
    refine .updated sn ⟨?_, ?_, ?_, ?_⟩ ?_ (Option.map_map _ _ _) rfl rfl ?_
    · rfl
    · rfl
    · simp [status]
    · exact fun set => set
    · rfl
    · rw [sn.own_creditAgency own credited rfl]
      exact .settled (a.apply _) bank (by simp [Withdrawal.apply]) rfl
  next =>
    cases returned
    exact .same inv

theorem adminResolveDisputeFavourHostTx_keeps {reason : String}
    (returned : (adminResolveDisputeFavourHostTx env w a reason).eval db = .ok (r, db')) :
    Keeps strict id db db' := by
  simp only [adminResolveDisputeFavourHostTx, Tx.eval_select_bind] at returned
  split at returned
  next disputed =>
    obtain ⟨dead, sn, isWaiting, status⟩ := inv.disputed row waiting disputed
    obtain ⟨bank, -, agency, own⟩ := sn.stage.of_waiting isWaiting
    obtain ⟨_, mid, called, returned⟩ := Tx.eval_bind_ok.mp returned
    obtain ⟨money, clawedBack, rfl⟩ := onMoney_ok called
    -- The agency was never credited for a proof still under review.
    obtain rfl := nothingToReverse (sn.owned a rfl) own (by simp [debitPosting, entryFor])
      (by simp [debitPosting, entryFor]) clawedBack
    cases returned
    refine .closed sn ⟨rfl, rfl, by simp [status], fun set => set⟩ (fun _ => rfl) rfl rfl (.inl rfl)
      rfl ?_
    change Stage _ _ _ (db.own id)
    rw [own]
    exact .unassigned bank (by simp) agency
  next =>
    cases returned
    exact .same inv

end

/-! ### Creation, jobs and everything else -/

private theorem Stage.created {withdrawalId : Nat} {input : CreateWithdrawalInput}
    {amounts : WithdrawalAmounts} :
    Stage strict (newWithdrawal withdrawalId input amounts) none
      [debitPosting (newWithdrawal withdrawalId input amounts)] := by
  cases method : input.methodType with
  | epay =>
    refine .platform ?_ ?_ <;>
      simp [isPlatformHandledWithdrawal, newWithdrawal, method, payoutHandlerForMethod]
  | bank =>
    refine .unassigned ?_ ?_ ?_ <;>
      simp [isPlatformHandledWithdrawal, newWithdrawal, method, payoutHandlerForMethod]

theorem createWithdrawalTx_keeps {input : CreateWithdrawalInput} {amounts : WithdrawalAmounts}
    {r : Bool} (inv : Inv strict id db)
    (returned : (createWithdrawalTx id input amounts).eval db = .ok (r, db')) :
    Keeps strict id db db' := by
  obtain ⟨_, locked, lock, returned⟩ := Tx.eval_bind_ok.mp returned
  obtain ⟨money, locking, rfl⟩ := onMoney_ok lock
  cases locking
  rw [Tx.eval_select_bind] at returned
  rcases inv with un | ⟨w, dead, current, sn⟩
  · have row : (db.setMoney db.money).withdrawal = none := un.row
    simp only [row, Tx.eval_select_bind] at returned
    obtain ⟨points, read, balance, returned⟩ := Tx.eval_bind_ok.mp returned
    obtain ⟨money, reading, rfl⟩ := onMoney_ok balance
    cases reading
    obtain ⟨_, returned⟩ := Tx.eval_ensure_bind_ok.mp returned
    obtain ⟨receipt, debited, called, returned⟩ := Tx.eval_bind_ok.mp returned
    obtain ⟨money, debit, rfl⟩ := onMoney_ok called
    cases returned
    have free : ¬ HasKey db.money.postings (.withdrawalDebit id) := absent_of_own un.own rfl (by simp)
    have posted := (PointWallet.debit_posts (by decide) debit).fresh free
    have own : (db.setMoney money).own id =
        db.own id ++ [debitPosting (newWithdrawal id input amounts)] := by
      refine own_of_posts posted ?_
      intro p member
      rw [List.mem_singleton.mp member]
      simp [Posting.isAbout, debitPosting, entryFor, newWithdrawal]
    refine ⟨.inr ⟨newWithdrawal id input amounts, [], none, ?_⟩, ?_⟩
    · refine ⟨rfl, rfl, rfl, un.assignments, ?_, ?_, ?_, ?_, ?_, ?_, ?_, ?_⟩
      · simp
      · simp
      · simp
      · simp
      · simp
      · simp
      · exact fun queued => absurd queued un.job
      · change Stage _ _ _ ((db.setMoney money).own id)
        rw [own, un.own]
        exact Stage.created
    · intro w found
      simp [un.row] at found
  · have row : (db.setMoney db.money).withdrawal = some w := sn.row
    simp only [row] at returned
    cases returned
    exact .same (.inr ⟨w, dead, current, sn⟩)

/-- Queueing a job: the company's job only after its waiting period has been set. -/
theorem jobs_keeps {jobs : List PayrollJob} (inv : Inv strict id db)
    (queued : .platformWaiting ∈ jobs → .platformWaiting ∈ db.jobs ∨
      ∃ w, db.withdrawal = some w ∧ w.waitingExpiresAt.isSome) :
    Keeps strict id db { db with jobs } := by
  rcases inv with un | ⟨w, dead, current, sn⟩
  · refine ⟨.inl ⟨un.row, un.assignments, ?_, un.own⟩, .refl db⟩
    intro member
    rcases queued member with before | ⟨w, row, -⟩
    · exact un.job before
    · simp [un.row] at row
  · refine ⟨.inr ⟨w, dead, current, { sn with job := ?_ }⟩, .refl db⟩
    intro member
    rcases queued member with before | ⟨v, row, set⟩
    · exact sn.job before
    · cases sn.row.symm.trans row
      exact set

/-- Other services may do to the money tables what they like, as long as they write no row for this
withdrawal. -/
theorem elsewhere_keeps {money : MoneyDb} (inv : Inv strict id db)
    (own : (db.setMoney money).own id = db.own id) : Keeps strict id db (db.setMoney money) := by
  rcases inv with un | ⟨w, dead, current, sn⟩
  · exact ⟨.inl ⟨un.row, un.assignments, un.job, own.trans un.own⟩, .refl db⟩
  · refine ⟨.inr ⟨w, dead, current, ?_⟩, .refl db⟩
    exact { sn with stage := by rw [own]; exact sn.stage }

end Transactions

end OlNode.Withdrawals
