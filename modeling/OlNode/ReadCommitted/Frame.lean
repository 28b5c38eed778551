import OlNode.ReadCommitted.Program

/-!
# What all writes of a handler have in common

A property of states that every single write of a handler preserves is preserved by the whole
handler, whatever it reads and however its guards decide.
-/
namespace ReadCommitted

variable {σ τ κ ε α β : Type} {P : (σ → σ) → Prop}

namespace Tx

def Writes (P : (σ → σ) → Prop) : Tx σ κ ε α → Prop
  | .done _ => True
  | .fail _ => True
  | .read next => ∀ s, (next s).Writes P
  | .lock _ next => next.Writes P
  | .write _ f next => P f ∧ next.Writes P

theorem Writes.bind {x : Tx σ κ ε α} {k : α → Tx σ κ ε β} (first : x.Writes P)
    (rest : ∀ a, (k a).Writes P) : (x >>= k).Writes P := by
  change (x.bind k).Writes P
  induction x with
  | done value => exact rest value
  | fail error => trivial
  | read next ih => exact fun s => ih s (first s)
  | lock row next ih => exact ih first
  | write row f next ih => exact ⟨first.1, ih first.2⟩

@[simp] theorem writes_pure (value : α) : (pure value : Tx σ κ ε α).Writes P := trivial

@[simp] theorem writes_fail (error : ε) : (Tx.fail error : Tx σ κ ε α).Writes P := trivial

@[simp] theorem writes_update (row : κ) (f : σ → σ) :
    (update row f : Tx σ κ ε Unit).Writes P ↔ P f := by
  simp [update, Writes]

@[simp] theorem writes_select (q : σ → α) : (select q : Tx σ κ ε α).Writes P := fun _ => trivial

@[simp] theorem writes_select_bind (q : σ → α) (k : α → Tx σ κ ε β) :
    (select q >>= k).Writes P ↔ ∀ s, (k (q s)).Writes P := Iff.rfl

@[simp] theorem writes_lockRow_bind (row : κ) (k : Unit → Tx σ κ ε β) :
    (lockRow row >>= k).Writes P ↔ (k ()).Writes P := Iff.rfl

@[simp] theorem writes_update_bind (row : κ) (f : σ → σ) (k : Unit → Tx σ κ ε β) :
    (update row f >>= k).Writes P ↔ P f ∧ (k ()).Writes P := Iff.rfl

@[simp] theorem writes_ensure_bind (condition : Bool) (error : ε) (k : Unit → Tx σ κ ε β) :
    (ensure condition error >>= k).Writes P ↔ (condition = true → (k ()).Writes P) := by
  cases condition
  · exact ⟨fun _ impossible => by simp at impossible, fun _ => trivial⟩
  · exact ⟨fun writes _ => writes, fun writes => writes rfl⟩

theorem writes_when {condition : Prop} [Decidable condition] {x : Tx σ κ ε Unit}
    (writes : x.Writes P) : (Tx.when condition x).Writes P := by
  unfold Tx.when
  split
  · exact writes
  · trivial

/-- A body on a component writes nothing but that component. -/
theorem Writes.zoom {P : (τ → τ) → Prop} {get : τ → σ} {set : σ → τ → τ}
    (component : ∀ f : σ → σ, P fun t => set (f (get t)) t) (x : Tx σ κ ε α) :
    (x.zoom get set).Writes P := by
  induction x with
  | done value => trivial
  | fail error => trivial
  | read next ih => exact fun t => ih (get t)
  | lock row next ih => exact ih
  | write row f next ih => exact ⟨component f, ih⟩

/-- A body on a component, with what its writes do to the component. -/
theorem Writes.zoom_of {Q : (τ → τ) → Prop} {get : τ → σ} {set : σ → τ → τ} {x : Tx σ κ ε α}
    (writes : x.Writes P) (component : ∀ f, P f → Q fun t => set (f (get t)) t) :
    (x.zoom get set).Writes Q := by
  induction x with
  | done value => trivial
  | fail error => trivial
  | read next ih => exact fun t => ih (get t) (writes (get t))
  | lock row next ih => exact ih writes
  | write row f next ih => exact ⟨component f writes.1, ih writes.2⟩

end Tx

namespace Prog

def Writes (P : (σ → σ) → Prop) : Prog σ κ ε α → Prop
  | .done _ => True
  | .fail _ => True
  | .read next => ∀ s, (next s).Writes P
  | .lock _ next => next.Writes P
  | .write _ f next => P f ∧ next.Writes P
  | .commit next => next.Writes P
  | .rollback next => next.Writes P

variable {p : Prog σ κ ε α}

theorem Writes.bind {k : α → Prog σ κ ε β} (first : p.Writes P) (rest : ∀ a, (k a).Writes P) :
    (p >>= k).Writes P := by
  change (p.bind k).Writes P
  induction p with
  | done value => exact rest value
  | fail error => trivial
  | read next ih => exact fun s => ih s (first s)
  | lock row next ih => exact ih first
  | write row f next ih => exact ⟨first.1, ih first.2⟩
  | commit next ih => exact ih first
  | rollback next ih => exact ih first

theorem Writes.mono {Q : (σ → σ) → Prop} (writes : p.Writes P) (weaker : ∀ f, P f → Q f) :
    p.Writes Q := by
  induction p with
  | done value => trivial
  | fail error => trivial
  | read next ih => exact fun s => ih s (writes s)
  | lock row next ih => exact ih writes
  | write row f next ih => exact ⟨weaker f writes.1, ih writes.2⟩
  | commit next ih => exact ih writes
  | rollback next ih => exact ih writes

theorem writes_true (p : Prog σ κ ε α) : p.Writes fun _ => True := by
  induction p with
  | done value => trivial
  | fail error => trivial
  | read next ih => exact ih
  | lock row next ih => exact ih
  | write row f next ih => exact ⟨trivial, ih⟩
  | commit next ih => exact ih
  | rollback next ih => exact ih

theorem writes_run {body : Tx σ κ ε α} {ok : α → Prog σ κ ε β} {caught : ε → Prog σ κ ε β}
    (first : body.Writes P) (rest : ∀ a, (ok a).Writes P) (onError : ∀ e, (caught e).Writes P) :
    (body.run ok caught).Writes P := by
  induction body with
  | done value => exact rest value
  | fail error => exact onError error
  | read next ih => exact fun s => ih s (first s)
  | lock row next ih => exact ih first
  | write row f next ih => exact ⟨first.1, ih first.2⟩

/-- A handler on a component, with what its writes do to the component. -/
theorem Writes.embed {κ' : Type} {Q : (τ → τ) → Prop} {get : τ → σ} {set : σ → τ → τ}
    {rename : κ → κ'} (writes : p.Writes P) (component : ∀ f, P f → Q fun t => set (f (get t)) t) :
    (p.embed get set rename).Writes Q := by
  induction p with
  | done value => trivial
  | fail error => trivial
  | read next ih => exact fun t => ih (get t) (writes (get t))
  | lock row next ih => exact ih writes
  | write row f next ih => exact ⟨component f writes.1, ih writes.2⟩
  | commit next ih => exact ih writes
  | rollback next ih => exact ih writes

theorem writes_transaction {body : Tx σ κ ε α} (writes : body.Writes P) :
    (transaction body).Writes P :=
  writes_run writes (fun _ => trivial) (fun _ => trivial)

@[simp] theorem writes_autocommit (row : κ) (f : σ → σ) :
    (autocommit row f : Prog σ κ ε Unit).Writes P ↔ P f := by
  simp [autocommit, transaction, Tx.update, Tx.run, Writes]

@[simp] theorem writes_select_bind (q : σ → α) (k : α → Prog σ κ ε β) :
    (select q >>= k).Writes P ↔ ∀ s, (k (q s)).Writes P := Iff.rfl

@[simp] theorem writes_ensure_bind (condition : Bool) (error : ε) (k : Unit → Prog σ κ ε β) :
    (ensure condition error >>= k).Writes P ↔ (condition = true → (k ()).Writes P) := by
  cases condition
  · exact ⟨fun _ impossible => by simp at impossible, fun _ => trivial⟩
  · exact ⟨fun writes _ => writes, fun writes => writes rfl⟩

theorem writes_when {condition : Prop} [Decidable condition] {p : Prog σ κ ε Unit}
    (writes : p.Writes P) : (Prog.when condition p).Writes P := by
  unfold Prog.when
  split
  · exact writes
  · trivial

private theorem exec_of_writes {Q : σ → Prop} (p : Prog σ κ ε α) (s v : σ)
    (writes : p.Writes fun f => ∀ s, Q s → Q (f s)) (committed : Q s) (seen : Q v) :
    Q (p.exec s v).2 := by
  induction p generalizing s v with
  | done value => exact committed
  | fail error => exact committed
  | read next ih => exact ih v s v (writes v) committed seen
  | lock row next ih => exact ih s v writes committed seen
  | write row f next ih => exact ih s (f v) writes.2 committed (writes.1 v seen)
  | commit next ih => exact ih v v writes seen seen
  | rollback next ih => exact ih s s writes committed committed

/-- A property every write preserves is preserved by the call. -/
theorem Writes.call {Q : σ → Prop} {s : σ} (writes : p.Writes fun f => ∀ s, Q s → Q (f s))
    (holds : Q s) : Q (p.call s).2 :=
  exec_of_writes p s s writes holds holds

end Prog

end ReadCommitted
