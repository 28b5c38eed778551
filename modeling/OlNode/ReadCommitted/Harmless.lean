import OlNode.ReadCommitted.Rely

/-!
# Handlers that disturb nothing

A handler whose every write is of a kind that keeps an agreement, whatever it was decided on, keeps
the agreement. Nothing has to be said about its reads, its locks or the order of its statements.
-/
namespace ReadCommitted

variable {ι σ κ ε α β : Type} {P : (σ → σ) → Prop}

theorem Tx.Writes.abortAfter {x : Tx σ κ ε α} (writes : x.Writes P) (error : ε) (n : Nat) :
    (x.abortAfter error n).Writes P := by
  induction x generalizing n with
  | done value => cases n <;> trivial
  | fail thrown => cases n <;> trivial
  | read next ih =>
    cases n with
    | zero => trivial
    | succ n => exact fun s => ih s (writes s) n
  | lock row next ih =>
    cases n with
    | zero => trivial
    | succ n => exact ih writes n
  | write row f next ih =>
    cases n with
    | zero => trivial
    | succ n => exact ⟨writes.1, ih writes.2 n⟩

namespace Prog

/-- The handler makes only writes of the kind `P` and leaves no transaction open; `inside` says
that one is open now. -/
def Only (P : (σ → σ) → Prop) : (inside : Bool) → Prog σ κ ε α → Prop
  | inside, .done _ => inside = false
  | inside, .fail _ => inside = false
  | inside, .read next => ∀ s, (next s).Only P inside
  | _, .lock _ next => next.Only P true
  | _, .write _ f next => P f ∧ next.Only P true
  | _, .commit next => next.Only P false
  | _, .rollback next => next.Only P false

variable {inside : Bool}

theorem Only.bind {p : Prog σ κ ε α} {k : α → Prog σ κ ε β} (first : p.Only P inside)
    (rest : ∀ a, (k a).Only P false) : (p >>= k).Only P inside := by
  change (p.bind k).Only P inside
  induction p generalizing inside with
  | done value =>
    obtain rfl : inside = false := first
    exact rest value
  | fail error => exact first
  | read next ih => exact fun s => ih s (first s)
  | lock row next ih => exact ih first
  | write row f next ih => exact ⟨first.1, ih first.2⟩
  | commit next ih => exact ih first
  | rollback next ih => exact ih first

theorem Only.attempt {p : Prog σ κ ε α} (only : p.Only P inside) : p.attempt.Only P inside := by
  induction p generalizing inside with
  | done value => exact only
  | fail error => exact only
  | read next ih => exact fun s => ih s (only s)
  | lock row next ih => exact ih only
  | write row f next ih => exact ⟨only.1, ih only.2⟩
  | commit next ih => exact ih only
  | rollback next ih => exact ih only

theorem Only.embed {τ κ' : Type} {Q : (τ → τ) → Prop} {get : τ → σ} {set : σ → τ → τ}
    {rename : κ → κ'} {p : Prog σ κ ε α} (only : p.Only P inside)
    (outer : ∀ f, P f → Q fun t => set (f (get t)) t) :
    (p.embed get set rename).Only Q inside := by
  induction p generalizing inside with
  | done value => exact only
  | fail error => exact only
  | read next ih => exact fun t => ih _ (only _)
  | lock row next ih => exact ih only
  | write row f next ih => exact ⟨outer f only.1, ih only.2⟩
  | commit next ih => exact ih only
  | rollback next ih => exact ih only

theorem only_pure {value : α} : (pure value : Prog σ κ ε α).Only P false := rfl

theorem only_fail {error : ε} : (Prog.fail error : Prog σ κ ε α).Only P false := rfl

theorem only_select_bind {q : σ → α} {k : α → Prog σ κ ε β} (rest : ∀ a, (k a).Only P inside) :
    (select q >>= k).Only P inside := fun s => rest (q s)

theorem only_ensure_bind {condition : Bool} {error : ε} {k : Unit → Prog σ κ ε β}
    (rest : condition = true → (k ()).Only P false) :
    (ensure condition error >>= k).Only P false := by
  cases condition
  · exact only_fail
  · exact rest rfl

theorem only_ensure {condition : Bool} {error : ε} :
    (ensure condition error : Prog σ κ ε Unit).Only P false := by
  cases condition <;> rfl

theorem only_run {body : Tx σ κ ε α} {ok : α → Prog σ κ ε β} {caught : ε → Prog σ κ ε β}
    (writes : body.Writes P) (rest : ∀ a, (ok a).Only P false)
    (onError : ∀ e, (caught e).Only P false) : (body.run ok caught).Only P inside := by
  induction body generalizing inside with
  | done value => exact rest value
  | fail error => exact onError error
  | read next ih => exact fun s => ih s (writes s)
  | lock row next ih => exact ih writes
  | write row f next ih => exact ⟨writes.1, ih writes.2⟩

theorem only_transaction {body : Tx σ κ ε α} (writes : body.Writes P) :
    (transaction body).Only P false :=
  only_run writes (fun _ => only_pure) fun _ => only_fail

theorem only_autocommit {row : κ} {f : σ → σ} (writes : P f) :
    (autocommit row f : Prog σ κ ε Unit).Only P false :=
  only_transaction ⟨writes, trivial⟩

end Prog

/-- Writes that keep the agreement wherever they are committed. -/
structure Agreement.Harmless (A : Agreement ι σ κ) (P : (σ → σ) → Prop) : Prop where
  none : P id
  comp : ∀ f g, P f → P g → P (f ∘ g)
  keeps : ∀ request held w t, P w → A.inv t → A.Keeps request held t (w t)

theorem Prog.Only.relies {A : Agreement ι σ κ} (harmless : A.Harmless P) {request : ι}
    {p : Prog σ κ ε α} {inside : Bool} {held : Set κ} {w : σ → σ} {s : σ}
    (only : p.Only P inside) (written : P w) (outside : inside = false → held = ∅ ∧ w = id)
    (inv : A.inv s) : p.Relies A request (fun _ t => A.inv t) held w s := by
  induction p generalizing inside held w s with
  | done value =>
    obtain ⟨unlocked, unwritten⟩ := outside only
    exact ⟨unlocked, unwritten, inv⟩
  | fail error =>
    obtain ⟨unlocked, unwritten⟩ := outside only
    exact ⟨unlocked, unwritten, inv⟩
  | read next ih => exact fun t rely _ => ih _ (only _) written outside rely.inv
  | lock row next ih => exact fun t rely _ => ih only written nofun rely.inv
  | write row f next ih =>
    exact fun t rely _ => ih only.2 (harmless.comp f w only.1 written) nofun rely.inv
  | commit next ih =>
    intro t rely _
    have keeps := harmless.keeps request held w t written rely.inv
    exact ⟨keeps, ih only harmless.none (fun _ => ⟨rfl, rfl⟩) keeps.inv⟩
  | rollback next ih => exact ih only harmless.none (fun _ => ⟨rfl, rfl⟩) inv

/-- A handler of harmless writes keeps to the agreement. -/
theorem Agreement.Harmless.relies {A : Agreement ι σ κ} (harmless : A.Harmless P) {request : ι}
    {p : Prog σ κ ε α} {s : σ} (only : p.Only P false) (inv : A.inv s) :
    p.Relies A request (fun _ t => A.inv t) ∅ id s :=
  only.relies harmless harmless.none (fun _ => ⟨rfl, rfl⟩) inv

end ReadCommitted
