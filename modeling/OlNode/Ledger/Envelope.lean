import OlNode.Ledger.Database
import OlNode.ReadCommitted.Harmless

/-!
# The idempotency envelope in Redis

`walletService.getCachedIdemResponse`, `acquireIdemKey` and `resolveIdemKey` around a request that
carries a client key: a marker holds 'processing' while the request runs and its response
afterwards. Markers expire and may be lost; nothing but the replay window depends on them.
-/
namespace OlNode

open ReadCommitted

variable {σ K ρ : Type}

/-- Where the markers of a kind of request are: none, 'processing', or a response. -/
structure IdemMarkers (σ K ρ : Type) where
  get : σ → K → Option (Option ρ)
  set : K → Option (Option ρ) → σ → σ
  lock : K → Lock

namespace IdemMarkers

variable (markers : IdemMarkers σ K ρ)

def getCachedIdemResponse (key : K) : Prog σ Lock LedgerError (Option ρ) :=
  Prog.select fun db => (markers.get db key).join

/-- SET NX. -/
def acquireIdemKey (key : K) : Prog σ Lock LedgerError Bool := Prog.transaction do
  Tx.lockRow (markers.lock key)
  let present ← Tx.select fun db => (markers.get db key).isSome
  if present then pure false
  else
    Tx.update (markers.lock key) (markers.set key (some none))
    pure true

def resolveIdemKey (key : K) (response : ρ) : Prog σ Lock LedgerError Unit :=
  Prog.autocommit (markers.lock key) (markers.set key (some (some response)))

/-- DEL of the marker; also what its expiry does. -/
def forgetIdemKey (key : K) : Prog σ Lock LedgerError Unit :=
  Prog.autocommit (markers.lock key) (markers.set key none)

def alreadyProcessing : LedgerError :=
  .app { status := 409, message := "Already processing", code := .idemConflict }

/-- What follows the request: its response is kept; an error other than a unique violation
releases the marker. -/
def settle (key : K) (duplicate : LedgerError) :
    Except LedgerError ρ → Prog σ Lock LedgerError ρ
  | .ok response => do
    markers.resolveIdemKey key response
    pure response
  | .error .uniqueViolation => Prog.fail duplicate
  | .error error => do
    markers.forgetIdemKey key
    Prog.fail error

def around (key : K) (duplicate : LedgerError) (run : Prog σ Lock LedgerError ρ) :
    Prog σ Lock LedgerError ρ := do
  let cached ← markers.getCachedIdemResponse key
  match cached with
  | some response => pure response
  | none =>
    let acquired ← markers.acquireIdemKey key
    Prog.ensure acquired alreadyProcessing
    let outcome ← run.attempt
    markers.settle key duplicate outcome

variable {markers} {P : (σ → σ) → Prop} {key : K}

theorem forgetIdemKey_only (marks : ∀ marker, P (markers.set key marker)) :
    (markers.forgetIdemKey key).Only P false := Prog.only_autocommit (marks none)

theorem settle_only (marks : ∀ marker, P (markers.set key marker)) (duplicate : LedgerError)
    (outcome : Except LedgerError ρ) : (markers.settle key duplicate outcome).Only P false := by
  unfold settle
  split
  · exact .bind (Prog.only_autocommit (marks _)) fun _ => Prog.only_pure
  · exact Prog.only_fail
  · exact .bind (forgetIdemKey_only marks) fun _ => Prog.only_fail

theorem acquireIdemKey_only (marks : ∀ marker, P (markers.set key marker)) :
    (markers.acquireIdemKey key).Only P false := by
  refine Prog.only_transaction ?_
  rw [Tx.writes_lockRow_bind]
  refine .bind (Tx.writes_select _) fun present => ?_
  cases present with
  | true => trivial
  | false => exact ⟨marks _, trivial⟩

theorem around_only (marks : ∀ marker, P (markers.set key marker)) (duplicate : LedgerError)
    {run : Prog σ Lock LedgerError ρ} (only : run.Only P false) :
    (markers.around key duplicate run).Only P false := by
  refine Prog.only_select_bind fun cached => ?_
  cases cached with
  | some response => exact Prog.only_pure
  | none =>
    refine .bind (acquireIdemKey_only marks) fun acquired => Prog.only_ensure_bind fun _ => ?_
    exact .bind only.attempt fun outcome => settle_only marks duplicate outcome

/-- The envelope around a request that keeps to an agreement the marks do not disturb. -/
theorem around_relies {ι : Type} {A : Agreement ι σ Lock} {request : ι} {s : σ}
    (harmless : A.Harmless P) (marks : ∀ marker, P (markers.set key marker))
    (duplicate : LedgerError) {run : Prog σ Lock LedgerError ρ}
    (relies : ∀ t, A.inv t → run.Relies A request (fun _ t => A.inv t) ∅ id t) :
    (markers.around key duplicate run).Relies A request (fun _ t => A.inv t) ∅ id s := by
  refine Prog.relies_select fun t rely => ?_
  cases (markers.get t key).join with
  | some response => exact Prog.relies_pure rely.inv
  | none =>
    refine (harmless.relies (acquireIdemKey_only marks) rely.inv).bind (fun acquired u inv => ?_)
      fun _ _ inv => inv
    refine Prog.relies_ensure_bind (fun _ => inv) fun _ => ?_
    refine (relies u inv).attempt_bind fun outcome v inv => ?_
    exact harmless.relies (settle_only marks duplicate outcome) inv

end IdemMarkers

end OlNode
