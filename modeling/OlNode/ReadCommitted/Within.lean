import OlNode.ReadCommitted.Interleaving
import OlNode.ReadCommitted.Frame

/-!
# Handlers that stay within an invariant

A handler whose writes are harmless as long as it reads only states of an invariant. When all
handlers in progress are like this, the invariant is never left, however they interleave and
wherever they die, and every commit stays in a relation that all writes respect.
-/
namespace ReadCommitted

variable {ι σ κ ε α β : Type} {I : σ → Prop} {R : σ → σ → Prop}

/-- A write that keeps the invariant and moves along the relation. -/
def Harmless (I : σ → Prop) (R : σ → σ → Prop) (f : σ → σ) : Prop := ∀ s, I s → I (f s) ∧ R s (f s)

namespace Prog

/-- Every write is harmless, as long as every state that is read satisfies the invariant. -/
def Within (I : σ → Prop) (R : σ → σ → Prop) : Prog σ κ ε α → Prop
  | .done _ => True
  | .fail _ => True
  | .read next => ∀ s, I s → (next s).Within I R
  | .lock _ next => next.Within I R
  | .write _ f next => Harmless I R f ∧ next.Within I R
  | .commit next => next.Within I R
  | .rollback next => next.Within I R

theorem Writes.within {P : (σ → σ) → Prop} {p : Prog σ κ ε α} (writes : p.Writes P)
    (harmless : ∀ f, P f → Harmless I R f) : p.Within I R := by
  induction p with
  | done value => trivial
  | fail error => trivial
  | read next ih => exact fun s _ => ih s (writes s)
  | lock row next ih => exact ih writes
  | write row f next ih => exact ⟨harmless f writes.1, ih writes.2⟩
  | commit next ih => exact ih writes
  | rollback next ih => exact ih writes

theorem within_select_bind {q : σ → α} {k : α → Prog σ κ ε β}
    (rest : ∀ s, I s → (k (q s)).Within I R) : (select q >>= k).Within I R := rest

end Prog

/-! ### With what is returned and thrown -/

namespace Tx

/-- Every write of the body is harmless, and what it returns or throws satisfies `Q`, as long as
every state that is read satisfies the invariant. -/
def WithinTo (I : σ → Prop) (R : σ → σ → Prop) (Q : Except ε α → Prop) : Tx σ κ ε α → Prop
  | .done value => Q (.ok value)
  | .fail error => Q (.error error)
  | .read next => ∀ s, I s → (next s).WithinTo I R Q
  | .lock _ next => next.WithinTo I R Q
  | .write _ f next => Harmless I R f ∧ next.WithinTo I R Q

variable {Q : Except ε β → Prop}

theorem WithinTo.bind {mid : Except ε α → Prop} {x : Tx σ κ ε α} {k : α → Tx σ κ ε β}
    (first : x.WithinTo I R mid) (rest : ∀ a, mid (.ok a) → (k a).WithinTo I R Q)
    (thrown : ∀ e, mid (.error e) → Q (.error e)) : (x >>= k).WithinTo I R Q := by
  change (x.bind k).WithinTo I R Q
  induction x with
  | done value => exact rest value first
  | fail error => exact thrown error first
  | read next ih => exact fun s holds => ih s (first s holds)
  | lock row next ih => exact ih first
  | write row f next ih => exact ⟨first.1, ih first.2⟩

theorem WithinTo.imp {mid : Except ε β → Prop} {x : Tx σ κ ε β} (first : x.WithinTo I R mid)
    (weaker : ∀ outcome, mid outcome → Q outcome) : x.WithinTo I R Q := by
  induction x with
  | done value => exact weaker _ first
  | fail error => exact weaker _ first
  | read next ih => exact fun s holds => ih s (first s holds)
  | lock row next ih => exact ih first
  | write row f next ih => exact ⟨first.1, ih first.2⟩

theorem withinTo_select_bind {q : σ → α} {k : α → Tx σ κ ε β}
    (rest : ∀ s, I s → (k (q s)).WithinTo I R Q) : (select q >>= k).WithinTo I R Q := rest

variable {k : Unit → Tx σ κ ε β}

theorem withinTo_lockRow_bind {row : κ} (rest : (k ()).WithinTo I R Q) :
    (lockRow row >>= k).WithinTo I R Q := rest

theorem withinTo_update_bind {row : κ} {f : σ → σ} (harmless : Harmless I R f)
    (rest : (k ()).WithinTo I R Q) :
    (update row f >>= k).WithinTo I R Q := ⟨harmless, rest⟩

theorem withinTo_ensure_bind {condition : Bool} {error : ε} (throws : Q (.error error))
    (rest : (k ()).WithinTo I R Q) :
    (ensure condition error >>= k).WithinTo I R Q := by
  cases condition
  · exact throws
  · exact rest

end Tx

namespace Prog

def WithinTo (I : σ → Prop) (R : σ → σ → Prop) (Q : Except ε α → Prop) : Prog σ κ ε α → Prop
  | .done value => Q (.ok value)
  | .fail error => Q (.error error)
  | .read next => ∀ s, I s → (next s).WithinTo I R Q
  | .lock _ next => next.WithinTo I R Q
  | .write _ f next => Harmless I R f ∧ next.WithinTo I R Q
  | .commit next => next.WithinTo I R Q
  | .rollback next => next.WithinTo I R Q

variable {Q : Except ε β → Prop}

theorem WithinTo.within {p : Prog σ κ ε β} (first : p.WithinTo I R Q) : p.Within I R := by
  induction p with
  | done value => trivial
  | fail error => trivial
  | read next ih => exact fun s holds => ih s (first s holds)
  | lock row next ih => exact ih first
  | write row f next ih => exact ⟨first.1, ih first.2⟩
  | commit next ih => exact ih first
  | rollback next ih => exact ih first

variable {mid : Except ε α → Prop}

/-- A part inside try/catch, and the rest from what it ended with. -/
theorem WithinTo.attempt_bind {p : Prog σ κ ε α} {k : Except ε α → Prog σ κ ε β}
    (first : p.WithinTo I R mid) (rest : ∀ outcome, mid outcome → (k outcome).WithinTo I R Q) :
    (p.attempt >>= k).WithinTo I R Q := by
  change (p.attempt.bind k).WithinTo I R Q
  induction p with
  | done value => exact rest _ first
  | fail error => exact rest _ first
  | read next ih => exact fun s holds => ih s (first s holds)
  | lock row next ih => exact ih first
  | write row f next ih => exact ⟨first.1, ih first.2⟩
  | commit next ih => exact ih first
  | rollback next ih => exact ih first

theorem WithinTo.bind {p : Prog σ κ ε α} {k : α → Prog σ κ ε β} (first : p.WithinTo I R mid)
    (rest : ∀ a, mid (.ok a) → (k a).WithinTo I R Q) (thrown : ∀ e, mid (.error e) → Q (.error e)) :
    (p >>= k).WithinTo I R Q := by
  rw [← attempt_bind_throw]
  refine first.attempt_bind fun outcome left => ?_
  cases outcome with
  | ok a => exact rest a left
  | error e => exact thrown e left

theorem withinTo_run {body : Tx σ κ ε α} {ok : α → Prog σ κ ε β} {caught : ε → Prog σ κ ε β}
    (first : body.WithinTo I R mid) (rest : ∀ a, mid (.ok a) → (ok a).WithinTo I R Q)
    (thrown : ∀ e, mid (.error e) → (caught e).WithinTo I R Q) :
    (body.run ok caught).WithinTo I R Q := by
  induction body with
  | done value => exact rest value first
  | fail error => exact thrown error first
  | read next ih => exact fun s holds => ih s (first s holds)
  | lock row next ih => exact ih first
  | write row f next ih => exact ⟨first.1, ih first.2⟩

theorem withinTo_transaction {body : Tx σ κ ε β} (first : body.WithinTo I R Q) :
    (transaction body).WithinTo I R Q :=
  withinTo_run first (fun _ returned => returned) fun _ thrown => thrown

theorem withinTo_select_bind {q : σ → α} {k : α → Prog σ κ ε β}
    (rest : ∀ s, I s → (k (q s)).WithinTo I R Q) : (select q >>= k).WithinTo I R Q := rest

theorem withinTo_autocommit {Q : Except ε Unit → Prop} {row : κ} {f : σ → σ}
    (harmless : Harmless I R f) (after : Q (.ok ())) :
    (autocommit row f : Prog σ κ ε Unit).WithinTo I R Q := ⟨harmless, after⟩

theorem withinTo_ensure_bind {condition : Bool} {error : ε} {k : Unit → Prog σ κ ε β}
    (throws : Q (.error error)) (rest : (k ()).WithinTo I R Q) :
    (ensure condition error >>= k).WithinTo I R Q := by
  cases condition
  · exact throws
  · exact rest

end Prog

/-- A thread that is harmless from here on. -/
def Thread.Within (I : σ → Prop) (R : σ → σ → Prop) (t : Thread ι σ κ ε) : Prop :=
  t.prog.Within I R ∧ ∀ f ∈ t.pending, Harmless I R f

private theorem harmless_foldl (refl : ∀ s, R s s) (trans : ∀ s t u, R s t → R t u → R s u)
    {pending : List (σ → σ)} (harmless : ∀ f ∈ pending, Harmless I R f) {db : σ} (holds : I db) :
    I (pending.foldl (fun s write => write s) db) ∧
      R db (pending.foldl (fun s write => write s) db) := by
  induction pending generalizing db with
  | nil => exact ⟨holds, refl db⟩
  | cons f rest ih =>
    obtain ⟨kept, moved⟩ := harmless f (by simp) db holds
    obtain ⟨keptAfter, movedAfter⟩ := ih (fun g member => harmless g (by simp [member])) kept
    exact ⟨keptAfter, trans _ _ _ moved movedAfter⟩

theorem Thread.Within.moves (refl : ∀ s, R s s) (trans : ∀ s t u, R s t → R t u → R s u)
    {t t' : Thread ι σ κ ε} {db db' : σ} (within : t.Within I R) (holds : I db)
    (moves : t.Moves db t' db') : t'.Within I R ∧ I db' ∧ R db db' := by
  obtain ⟨left, pending⟩ := within
  have seen : I (t.view db) ∧ R db (t.view db) := harmless_foldl refl trans pending holds
  cases moves with
  | read progIs =>
    rw [progIs] at left
    exact ⟨⟨left _ seen.1, pending⟩, holds, refl db⟩
  | lock progIs =>
    rw [progIs] at left
    exact ⟨⟨left, pending⟩, holds, refl db⟩
  | @write row f next progIs =>
    rw [progIs] at left
    refine ⟨⟨left.2, ?_⟩, holds, refl db⟩
    intro g member
    rcases List.mem_append.mp member with old | new
    · exact pending g old
    · rw [List.mem_singleton] at new
      exact new ▸ left.1
  | commit progIs =>
    rw [progIs] at left
    exact ⟨⟨left, by simp [Thread.resume]⟩, seen⟩
  | rollback progIs =>
    rw [progIs] at left
    exact ⟨⟨left, by simp [Thread.resume]⟩, holds, refl db⟩

/-- What a thread writes from here on, and has written since its transaction began. -/
def Thread.Writes (P : (σ → σ) → Prop) (t : Thread ι σ κ ε) : Prop :=
  t.prog.Writes P ∧ ∀ f ∈ t.pending, P f

theorem Thread.Writes.moves {P : (σ → σ) → Prop} {t t' : Thread ι σ κ ε} {db db' : σ}
    (writes : t.Writes P) (moves : t.Moves db t' db') : t'.Writes P := by
  obtain ⟨left, pending⟩ := writes
  cases moves with
  | read progIs =>
    rw [progIs] at left
    exact ⟨left _, pending⟩
  | lock progIs =>
    rw [progIs] at left
    exact ⟨left, pending⟩
  | @write row f next progIs =>
    rw [progIs] at left
    refine ⟨left.2, ?_⟩
    intro g member
    rcases List.mem_append.mp member with old | new
    · exact pending g old
    · rw [List.mem_singleton] at new
      exact new ▸ left.1
  | commit progIs =>
    rw [progIs] at left
    exact ⟨left, by simp [Thread.resume]⟩
  | rollback progIs =>
    rw [progIs] at left
    exact ⟨left, by simp [Thread.resume]⟩

theorem Thread.Writes.within {P : (σ → σ) → Prop} {t : Thread ι σ κ ε} (writes : t.Writes P)
    (harmless : ∀ f, P f → Harmless I R f) : t.Within I R :=
  ⟨writes.1.within harmless, fun f member => harmless f (writes.2 f member)⟩

variable [DecidableEq κ] {handler : ι → Prog σ κ ε Unit} {ok : Config ι σ κ ε → Event ι → Prop}

private theorem db_within (refl : ∀ s, R s s) (trans : ∀ s t u, R s t → R t u → R s u)
    {c c' : Config ι σ κ ε} {e : Event ι} (holds : I c.db)
    (threads : ∀ t ∈ c.threads, t.Within I R) (applied : c.apply handler e = some c') :
    I c'.db ∧ R c.db c'.db := by
  rcases Config.apply_cases applied with
    ⟨request, -, same, -⟩ | ⟨i, t, t', -, found, moves, -⟩ | ⟨i, t, -, -, same, -⟩
  · rw [same]
    exact ⟨holds, refl c.db⟩
  · exact ((threads t (List.mem_of_getElem? found)).moves refl trans holds moves).2
  · rw [same]
    exact ⟨holds, refl c.db⟩

/-- While only harmless handlers are in progress and start, the invariant stands. -/
theorem Reaches.within (refl : ∀ s, R s s) (trans : ∀ s t u, R s t → R t u → R s u)
    (starts : ∀ c request, ok c (.start request) → (handler request).Within I R)
    {c c' : Config ι σ κ ε} (run : Reaches handler ok c c') (holds : I c.db)
    (threads : ∀ t ∈ c.threads, t.Within I R) : I c'.db ∧ R c.db c'.db := by
  have kept := run.invariant
    (fun c' => (I c'.db ∧ R c.db c'.db) ∧ ∀ t ∈ c'.threads, t.Within I R)
    ⟨⟨holds, refl c.db⟩, threads⟩ ?_
  · exact kept.1
  · rintro before e after ⟨⟨inside, since⟩, within⟩ allowed applied
    obtain ⟨stays, moved⟩ := db_within refl trans inside within applied
    refine ⟨⟨stays, trans _ _ _ since moved⟩, Config.forall_threads applied within ?_ ?_ ?_⟩
    · rintro request rfl
      exact ⟨starts before request allowed, by simp⟩
    · exact fun t t' this moves => (this.moves refl trans inside moves).1
    · exact fun t _ => ⟨trivial, by simp [Thread.resume]⟩

/-- What is left of the handlers in progress has the writes the handlers have. -/
theorem Reaches.writes {P : ι → (σ → σ) → Prop}
    (handlers : ∀ request, (handler request).Writes (P request)) {db : σ}
    {c : Config ι σ κ ε} (run : Reaches handler ok (Config.idle db) c) :
    ∀ t ∈ c.threads, t.Writes (P t.request) := by
  refine run.invariant (fun c => ∀ t ∈ c.threads, t.Writes (P t.request))
    (by simp [Config.idle]) ?_
  intro before e after inv _ applied
  refine Config.forall_threads applied inv ?_ ?_ ?_
  · exact fun request _ => ⟨handlers request, by simp⟩
  · intro t t' writes moves
    rw [moves.request]
    exact writes.moves moves
  · exact fun t _ => ⟨trivial, by simp [Thread.resume]⟩

end ReadCommitted
