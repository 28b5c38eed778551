import OlNode.ReadCommitted.Footprint

/-!
# Handlers of a single transaction

A handler that has nothing left to do once it has committed. If such a handler throws, it has left
no trace in the database, whatever ran beside it.
-/
namespace ReadCommitted

variable {ι σ κ ε α β : Type}

namespace Prog

/-- Once the handler has committed, it returns. -/
def CommitsLast : Prog σ κ ε α → Prop
  | .done _ => True
  | .fail _ => True
  | .read next => ∀ s, (next s).CommitsLast
  | .lock _ next => next.CommitsLast
  | .write _ _ next => next.CommitsLast
  | .commit next => ∃ value, next = .done value
  | .rollback next => next.CommitsLast

theorem commitsLast_run {body : Tx σ κ ε α} {ok : α → Prog σ κ ε β} {caught : ε → Prog σ κ ε β}
    (returns : ∀ a, ∃ value, ok a = .done value) (onError : ∀ e, (caught e).CommitsLast) :
    (body.run ok caught).CommitsLast := by
  induction body with
  | done value => exact returns value
  | fail error => exact onError error
  | read next ih => exact fun s => ih s
  | lock row next ih => exact ih
  | write row f next ih => exact ih

variable {p : Prog σ κ ε α}

theorem ReadOnly.commitsLast (reads : p.ReadOnly {}) : p.CommitsLast := by
  induction p with
  | done value => trivial
  | fail error => trivial
  | read next ih => exact fun s => ih s (reads s rfl).2
  | lock row next ih => exact reads.elim
  | write row f next ih => exact reads.elim
  | commit next ih => exact reads.elim
  | rollback next ih => exact reads.elim

/-- A part inside try/catch whose value is returned. -/
theorem CommitsLast.attempt_bind {k : Except ε α → Prog σ κ ε β} (last : p.CommitsLast)
    (returns : ∀ a, ∃ value, k (.ok a) = .done value) (onError : ∀ e, (k (.error e)).CommitsLast) :
    (p.attempt >>= k).CommitsLast := by
  change (p.attempt.bind k).CommitsLast
  induction p with
  | done value =>
    obtain ⟨result, isDone⟩ := returns value
    change (k (.ok value)).CommitsLast
    rw [isDone]
    trivial
  | fail error => exact onError error
  | read next ih => exact fun s => ih s (last s)
  | lock row next ih => exact ih last
  | write row f next ih => exact ih last
  | commit next ih =>
    obtain ⟨value, rfl⟩ := last
    exact returns value
  | rollback next ih => exact ih last

/-- What follows a handler that commits last may check something and return. -/
theorem CommitsLast.bind {k : α → Prog σ κ ε β} (last : p.CommitsLast)
    (returns : ∀ a, ∃ value, k a = .done value) : (p >>= k).CommitsLast := by
  rw [← attempt_bind_throw]
  exact last.attempt_bind returns fun _ => trivial

theorem commitsLast_transaction (body : Tx σ κ ε α) :
    (transaction body : Prog σ κ ε α).CommitsLast :=
  commitsLast_run (fun a => ⟨a, rfl⟩) fun _ => trivial

theorem commitsLast_select_bind {q : σ → α} {k : α → Prog σ κ ε β}
    (rest : ∀ a, (k a).CommitsLast) : (select q >>= k).CommitsLast := fun s => rest (q s)

theorem commitsLast_ensure_bind {condition : Bool} {error : ε} {k : Unit → Prog σ κ ε β}
    (rest : condition = true → (k ()).CommitsLast) : (ensure condition error >>= k).CommitsLast := by
  cases condition
  · trivial
  · exact rest rfl

theorem CommitsLast.forget (last : p.CommitsLast) : p.forget.CommitsLast := by
  induction p with
  | done value => trivial
  | fail error => trivial
  | read next ih => exact fun s => ih s (last s)
  | lock row next ih => exact ih last
  | write row f next ih => exact ih last
  | commit next ih =>
    obtain ⟨value, rfl⟩ := last
    exact ⟨(), rfl⟩
  | rollback next ih => exact ih last

end Prog

/-- A thread that commits last still does when it has moved, and if the database has changed, it has
returned. -/
theorem Thread.Moves.commitsLast {db db' : σ} {t t' : Thread ι σ κ ε} (moves : t.Moves db t' db')
    (last : t.prog.CommitsLast) : t'.prog.CommitsLast ∧ (db' = db ∨ t'.prog = .done ()) := by
  cases moves with
  | read progIs =>
    rw [progIs] at last
    exact ⟨last _, .inl rfl⟩
  | lock progIs | write progIs | rollback progIs =>
    rw [progIs] at last
    exact ⟨last, .inl rfl⟩
  | commit progIs =>
    rw [progIs] at last
    obtain ⟨value, rfl⟩ := last
    exact ⟨trivial, .inr rfl⟩

variable [DecidableEq κ] {handler : ι → Prog σ κ ε Unit} {ok : Config ι σ κ ε → Event ι → Prop}
  {c c' : Config ι σ κ ε}

/-- In every run the atomic requests are served by threads that commit last. -/
theorem Reaches.commitsLast (run : Reaches handler ok c c') (atomic : ι → Prop)
    (handlers : ∀ request, atomic request → (handler request).CommitsLast)
    (start : ∀ t ∈ c.threads, atomic t.request → t.prog.CommitsLast) :
    ∀ t ∈ c'.threads, atomic t.request → t.prog.CommitsLast := by
  refine run.invariant (fun c => ∀ t ∈ c.threads, atomic t.request → t.prog.CommitsLast) start ?_
  intro c e c' last _ applied
  refine Config.forall_threads applied last (fun request _ => handlers request) ?_
    (fun _ _ _ => trivial)
  intro t t' lastT moves isAtomic
  exact (moves.commitsLast (lastT (moves.request ▸ isAtomic))).1

/-- What a thread that commits last does to the database in one event: nothing, unless it returns
with it. -/
theorem apply_commitsLast {i : Nat} {t : Thread ι σ κ ε} (found : c.threads[i]? = some t)
    (last : t.prog.CommitsLast) (applied : c.apply handler (.advance i) = some c') :
    c'.db = c.db ∨ ∃ t', c'.threads[i]? = some t' ∧ t'.prog = .done () := by
  obtain ⟨u, found', stepped⟩ := Option.bind_eq_some_iff.mp applied
  rw [found] at found'
  cases found'
  obtain ⟨t', moves, threads⟩ := Config.stepThread_moves stepped
  rcases (moves.commitsLast last).2 with same | returned
  · exact .inl same
  · refine .inr ⟨t', ?_, returned⟩
    rw [threads, List.getElem?_set_self']
    simp [found]

end ReadCommitted
