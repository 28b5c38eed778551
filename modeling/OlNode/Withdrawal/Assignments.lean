import OlNode.Withdrawal.Requests

/-!
# At most one open assignment

`assignToAgency` looks for an open assignment under the withdrawal's row lock, and
`adminCompletePayrollForAgency` looks without one. The invariant of the assignments therefore holds
in fresh runs only.
-/
namespace OlNode.Withdrawals

open ReadCommitted

/-- At most one assignment is PENDING or WAITING, and no two have the same number. -/
structure OneOpenAssignment (db : WithdrawalDb) : Prop where
  atMostOne : (db.assignments.filter (·.isOpen)).length ≤ 1
  numbers : (db.assignments.map (·.assignmentNumber)).Nodup

/-- The rule over all runs whose events satisfy `ok`. -/
def KeepsOneOpenAssignment (id : Nat)
    (ok : Config Request WithdrawalDb Lock LedgerError → Event Request → Prop) : Prop :=
  ∀ db c, Uncreated id db → Reaches (handler id) ok (.idle db) c → OneOpenAssignment c.db

theorem Inv.oneOpenAssignment {strict : Prop} {id : Nat} {db : WithdrawalDb}
    (inv : Inv strict id db) : OneOpenAssignment db := by
  rcases inv with un | ⟨w, dead, current, sn⟩
  · constructor <;> simp [un.assignments]
  · refine ⟨?_, by rw [sn.assignments]; exact sn.numbers⟩
    have none : dead.filter (·.isOpen) = [] := by
      rw [List.filter_eq_nil_iff]
      intro a member
      rcases sn.closed a member with rejected | expired <;> simp [PayrollAssignment.isOpen, *]
    calc (db.assignments.filter (·.isOpen)).length
        = (current.toList.filter (·.isOpen)).length := by
          rw [sn.assignments, List.filter_append, none, List.nil_append]
      _ ≤ current.toList.length := List.length_filter_le _ _
      _ ≤ 1 := by cases current <;> simp

/-- When every commit is fresh there is at most one open assignment. -/
theorem fresh_keepsOneOpenAssignment (id : Nat) :
    KeepsOneOpenAssignment id (FreshEvent fun _ _ => True) := by
  intro db c start run
  have handlers : ∀ request base, Serves False id (fun _ => True) base (handler id request) :=
    fun request base => handler_serves request base fun _ _ _ strict => strict.elim
  exact (fresh_run Grows.refl Grows.trans handlers (.inl start) run .refl).1.oneOpenAssignment

/-- The first assignment expires, and the agency rejects the second: the third is PENDING. -/
theorem fresh_keepsOneOpenAssignment_reassigned :
    ∃ c, Reaches (handler 7) (FreshEvent fun _ _ => True) (.idle fundedDb) c ∧
      c.db.assignments.map (·.status) = [.expired, .rejected, .pending] ∧
      OneOpenAssignment c.db := by
  obtain ⟨c₁, created, first, idle₁⟩ := reaches_call (fun _ _ => True) (handler 7)
    (.create morning bankInput) (.idle fundedDb) (fun _ => rfl) (fun _ => trivial)
  obtain ⟨c₂, expired, second, idle₂⟩ := reaches_call (fun _ _ => True) (handler 7)
    (.slaExpiry { evening with newSerial := 1 } ⟨7, 0⟩) c₁ idle₁ (fun _ => trivial)
  obtain ⟨c₃, rejected, third, -⟩ := reaches_call (fun _ _ => True) (handler 7)
    (.agentReject { evening with newSerial := 2 } 2 ⟨7, 1⟩ none) c₂ idle₂ (fun _ => trivial)
  have run := (created.trans expired).trans rejected
  refine ⟨c₃, run, ?_, fresh_keepsOneOpenAssignment 7 _ _ (fundedDb_uncreated 7) run⟩
  rw [third, second, first]
  decide

/-! ### A stale run -/

def secondClick : Environment := { morning with newSerial := 1 }

def manualProof : ProofKey := ⟨.adminManual 7, 0⟩

/-- An admin completes the payroll twice at the same time. -/
def doubleManualCompletion : List (Event Request) :=
  serve (Request.create noAgency bankInput) 0 21 ++
  serve (Request.completeForAgency morning 2 manualProof none) 1 2 ++
  serve (Request.completeForAgency secondClick 2 manualProof none) 2 2 ++
  List.replicate 7 (Event.advance 1) ++ List.replicate 7 (Event.advance 2)

/-- Both requests found no open assignment: two are WAITING, and both are number 1. -/
theorem not_keepsOneOpenAssignment : ¬ KeepsOneOpenAssignment 7 fun _ _ => True := by
  intro claim
  obtain ⟨c, run, two⟩ : ∃ c, Reaches (handler 7) (fun _ _ => True) (.idle fundedDb) c ∧
      (c.db.assignments.filter (·.isOpen)).length = 2 :=
    exists_reaches [doubleManualCompletion] (by decide +kernel)
  have one := (claim fundedDb c (fundedDb_uncreated 7) run).atMostOne
  omega

end OlNode.Withdrawals
