import OlNode.Withdrawal.Requests

/-!
# Exclusive settlement

Who may end up with the money of one withdrawal. The host is refunded or one payee is credited: the
agency of one assignment, or the company after a takeover. Run one after the other the operations
respect this, except that a reversal does not know the company's credit. Interleaved they do not,
because most of them validate what they read without a lock and write unconditionally; they respect
it in every run whose commits rest on nothing stale.
-/
namespace OlNode.Withdrawals

open ReadCommitted

inductive Payee where
  | agency (assignmentId : AssignmentId)
  | company

def Payee.creditKey (id : Nat) : Payee → LedgerKey
  | .agency assignmentId => .payrollHostPayout assignmentId
  | .company => .payrollTakeover id

/-- The key of the row that takes the credit back; there is none for the company. -/
def Payee.reversalKey : Payee → Option LedgerKey
  | .agency assignmentId => some (.payrollHostPayoutReversal assignmentId)
  | .company => none

def Credited (id : Nat) (own : List Posting) (payee : Payee) : Prop :=
  HasKey own (payee.creditKey id)

instance (id : Nat) (own : List Posting) (payee : Payee) : Decidable (Credited id own payee) :=
  inferInstanceAs (Decidable (HasKey own (payee.creditKey id)))

/-- Credited and not taken back. -/
def Standing (id : Nat) (own : List Posting) (payee : Payee) : Prop :=
  Credited id own payee ∧ ∀ key ∈ payee.reversalKey, ¬ HasKey own key

structure Exclusive (id : Nat) (db : WithdrawalDb) : Prop where
  refundOrPayee : HasKey (db.own id) (.withdrawalRefund id) →
    ∀ payee, ¬ Standing id (db.own id) payee
  onePayee : ∀ payee other, Credited id (db.own id) payee → Credited id (db.own id) other →
    payee = other

/-- A withdrawal that was FAILED is not PAID later. -/
def NotRevived (before after : WithdrawalDb) : Prop :=
  ∀ w ∈ before.withdrawal, w.status = .failed → ∀ w' ∈ after.withdrawal, w'.status ≠ .paid

/-- The rule over all runs whose events satisfy `ok`, from before the withdrawal is created on. -/
def SettlesExclusively (id : Nat)
    (ok : Config Request WithdrawalDb Lock LedgerError → Event Request → Prop) : Prop :=
  ∀ db c c', Uncreated id db → Reaches (handler id) ok (.idle db) c → Reaches (handler id) ok c c' →
    Exclusive id c'.db ∧ NotRevived c.db c'.db

/-! ### Fresh runs -/

section Stages

variable {strict : Prop} {w : Withdrawal} {current : Option PayrollAssignment} {own : List Posting}

/-- Who has been credited in a stage: at most one agency, or the company. -/
theorem Stage.credited (stage : Stage strict w current own) {payee : Payee}
    (credited : Credited w.id own payee) :
    (∃ a, current = some a ∧ payee = .agency a.id) ∨ (current = none ∧ payee = .company) := by
  cases stage <;> cases payee <;>
    simp_all [Credited, Payee.creditKey, debitPosting, refundPosting, entryFor, agencyCredits,
      agencyReversals, takeoverCredits]

theorem Stage.refund_excludes (stage : Stage True w current own)
    (refunded : HasKey own (.withdrawalRefund w.id)) (payee : Payee) :
    ¬ Standing w.id own payee := by
  cases stage <;> cases payee <;>
    simp_all [Standing, Credited, Payee.creditKey, Payee.reversalKey, debitPosting, refundPosting,
      entryFor, agencyCredits, agencyReversals, takeoverCredits]

end Stages

theorem Inv.exclusive {id : Nat} {db : WithdrawalDb} (inv : Inv True id db) : Exclusive id db := by
  rcases inv with un | ⟨w, dead, current, sn⟩
  · refine ⟨?_, ?_⟩ <;> simp [un.own, Credited]
  · obtain rfl := sn.id_eq
    refine ⟨fun refunded payee => sn.stage.refund_excludes refunded payee, ?_⟩
    intro payee other credited credited'
    rcases sn.stage.credited credited with ⟨a, isCurrent, rfl⟩ | ⟨isNone, rfl⟩ <;>
      rcases sn.stage.credited credited' with ⟨b, isCurrent', rfl⟩ | ⟨isNone', rfl⟩
    · cases isCurrent.symm.trans isCurrent'
      rfl
    · cases isCurrent.symm.trans isNone'
    · cases isNone.symm.trans isCurrent'
    · rfl

theorem Grows.notRevived {db db' : WithdrawalDb} (grew : Grows db db') : NotRevived db db' := by
  intro w row failed w' row'
  obtain ⟨v, found, stays, -⟩ := grew w row
  cases found.symm.trans row'
  rw [stays failed]
  simp

/-- A reversal commits only while the company holds no takeover credit. -/
def reversalGuarded (id : Nat) (request : Request) (db : WithdrawalDb) : Prop :=
  request.isReversal = true → ¬ HasKey (db.own id) (.payrollTakeover id)

/-- When every commit is fresh and no reversal commits after the company was credited, settlement
is exclusive. -/
theorem fresh_settles_exclusively (id : Nat) :
    SettlesExclusively id (FreshEvent (reversalGuarded id)) := by
  intro db c c' start run more
  have handlers : ∀ request base,
      Serves True id (reversalGuarded id request) base (handler id request) :=
    fun request base => handler_serves request base fun isReversal _ guarded _ =>
      guarded isReversal
  obtain ⟨inv, grew⟩ := fresh_run Grows.refl Grows.trans handlers (.inl start) run more
  exact ⟨inv.exclusive, grew.notRevived⟩

/-- Created, assigned, proved and auto-completed one after the other: the agency is credited. -/
theorem fresh_settles_exclusively_paid :
    ∃ c, Reaches (handler 7) (FreshEvent (reversalGuarded 7)) (.idle fundedDb) c ∧
      Credited 7 (c.db.own 7) (.agency ⟨7, 0⟩) ∧ Exclusive 7 c.db := by
  have always : ∀ request : Request, request.isReversal = false →
      ∀ s, reversalGuarded 7 request s := by
    intro request other s isReversal
    simp [other] at isReversal
  obtain ⟨c₁, run₁, db₁, free₁⟩ := reaches_call (reversalGuarded 7) (handler 7)
    (.create morning bankInput) (.idle fundedDb) (fun _ => rfl) (always _ rfl)
  obtain ⟨c₂, run₂, db₂, free₂⟩ := reaches_call (reversalGuarded 7) (handler 7)
    (.agentComplete morning 2 ⟨7, 0⟩ proofSeven) c₁ free₁ (always _ rfl)
  obtain ⟨c₃, run₃, db₃, -⟩ := reaches_call (reversalGuarded 7) (handler 7)
    (.autoComplete evening ⟨7, 0⟩) c₂ free₂ (always _ rfl)
  have run := (run₁.trans run₂).trans run₃
  refine ⟨c₃, run, ?_, (fresh_settles_exclusively 7 _ _ _ (fundedDb_uncreated 7) run .refl).1⟩
  rw [db₃, db₂, db₁]
  decide

/-! ### A stale run -/

/-- The waiting-period job has read the WAITING assignment when an admin reverses the withdrawal;
then the job commits. -/
def reversalDuringAutoComplete : List (Event Request) :=
  serve (Request.create morning bankInput) 0 26 ++
  serve (Request.agentComplete morning 2 ⟨7, 0⟩ proofSeven) 1 8 ++
  serve (Request.autoComplete evening ⟨7, 0⟩) 2 2 ++
  serve (Request.reverse evening "chargeback" false) 3 22 ++
  List.replicate 19 (Event.advance 2)

/-- The host has been refunded, and the agency is credited for the same withdrawal. -/
theorem not_settlesExclusively : ¬ SettlesExclusively 7 fun _ _ => True := by
  intro claim
  obtain ⟨c, run, refunded, credited, unreversed⟩ : ∃ c,
      Reaches (handler 7) (fun _ _ => True) (.idle fundedDb) c ∧
      HasKey (c.db.own 7) (.withdrawalRefund 7) ∧
      HasKey (c.db.own 7) (.payrollHostPayout ⟨7, 0⟩) ∧
      ¬ HasKey (c.db.own 7) (.payrollHostPayoutReversal ⟨7, 0⟩) :=
    exists_reaches [reversalDuringAutoComplete] (by decide +kernel)
  have exclusive := (claim fundedDb c c (fundedDb_uncreated 7) run .refl).1
  refine exclusive.refundOrPayee refunded (.agency ⟨7, 0⟩) ⟨credited, ?_⟩
  rintro key ⟨⟩
  exact unreversed

end OlNode.Withdrawals
