import OlNode.Ledger.Database
import OlNode.ReadCommitted.Atomic
import OlNode.ReadCommitted.Harmless

/-!
# Transactions that are made again

`withSerializationRetry`: an attempt that the database aborts leaves nothing behind, and the next
one starts from what is committed then.
-/
namespace OlNode

open ReadCommitted

variable {ι σ α : Type}

/-- `aborts` says after how many statements the database aborts the first attempts. -/
def withSerializationRetry (run : Tx σ Lock LedgerError α) :
    (maxAttempts : Nat) → (aborts : List Nat) → Prog σ Lock LedgerError α
  | _, [] => Prog.transaction run
  | maxAttempts, statements :: aborts =>
    Prog.transactionCatch (run.abortAfter .serializationAbort statements) fun error =>
      if 1 < maxAttempts ∧ error = .serializationAbort then
        withSerializationRetry run (maxAttempts - 1) aborts
      else Prog.fail error

/-- Attempts that are aborted write nothing else. -/
theorem withSerializationRetry_only {P : (σ → σ) → Prop} {run : Tx σ Lock LedgerError α}
    (writes : run.Writes P) (maxAttempts : Nat) (aborts : List Nat) :
    (withSerializationRetry run maxAttempts aborts).Only P false := by
  induction aborts generalizing maxAttempts with
  | nil =>
    unfold withSerializationRetry
    exact Prog.only_transaction writes
  | cons statements aborts ih =>
    unfold withSerializationRetry
    refine Prog.only_run (writes.abortAfter _ _) (fun _ => Prog.only_pure) fun error => ?_
    split
    · exact ih _
    · exact Prog.only_fail

theorem withSerializationRetry_commitsLast (run : Tx σ Lock LedgerError α) (maxAttempts : Nat)
    (aborts : List Nat) : (withSerializationRetry run maxAttempts aborts).CommitsLast := by
  induction aborts generalizing maxAttempts with
  | nil =>
    unfold withSerializationRetry
    exact Prog.commitsLast_transaction run
  | cons statements aborts ih =>
    unfold withSerializationRetry
    refine Prog.commitsLast_run (fun a => ⟨a, rfl⟩) fun error => ?_
    split
    · exact ih _
    · trivial

/-- Every attempt may rely on what the first one may rely on, as far as it is stable. -/
theorem withSerializationRetry_relies {A : Agreement ι σ Lock} {request : ι}
    {post : Except LedgerError α → σ → Prop} {run : Tx σ Lock LedgerError α} (known : σ → Prop)
    {s : σ} (stable : ∀ s t, A.Rely ∅ s t → known s → known t)
    (attempt : ∀ s, A.inv s → known s → run.Relies A request
      (fun a => A.Commits request (post (.ok a)))
      (fun error t => post (.error error) t) ∅ id s)
    (inv : A.inv s) (holds : known s) (maxAttempts : Nat) (aborts : List Nat)
    (aborted : maxAttempts ≤ aborts.length → ∀ t, A.inv t → known t →
      post (.error .serializationAbort) t) :
    (withSerializationRetry run maxAttempts aborts).Relies A request post ∅ id s := by
  induction aborts generalizing maxAttempts s with
  | nil =>
    unfold withSerializationRetry
    exact Prog.relies_transaction (attempt s inv holds)
  | cons statements aborts ih =>
    unfold withSerializationRetry
    refine Prog.relies_run (Tx.Relies.abortAfter inv (((attempt s inv holds).since inv).imp ?_ ?_) ?_ _)
    · intro _ held w t commits u rely allowed
      exact ⟨(commits u rely allowed).1, Prog.relies_pure (commits u rely allowed).2⟩
    · intro error t thrown
      split
      next again =>
        refine ih thrown.1.inv (stable s t thrown.1 holds) _ fun all => aborted ?_
        rw [List.length_cons]
        omega
      next => exact Prog.relies_fail thrown.2
    · intro t rely
      have still := stable s t rely holds
      split
      next again =>
        refine ih rely.inv still _ fun all => aborted ?_
        rw [List.length_cons]
        omega
      next last =>
        refine Prog.relies_fail (aborted ?_ t rely.inv still)
        rw [List.length_cons]
        simp only [and_true, Nat.not_lt] at last
        omega

end OlNode
