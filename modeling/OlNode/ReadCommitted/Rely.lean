import Mathlib.Data.Set.Insert
import OlNode.ReadCommitted.Effects

/-!
# What handlers may rely on while they hold row locks

All handlers keep one invariant of the committed state, move it along one relation, and change
what a row lock protects only while they hold that lock. A handler that holds a lock may therefore
rely on what it protects, from the statement that took it to the end of the transaction. `Relies`
follows a handler with the committed state it has last seen; at every statement the others may
have moved that state, within the agreement.

The agreement also names the statements a run is allowed to make: a result under a condition on
the run is proved with the condition available at the statement it speaks of.
-/
namespace ReadCommitted

variable {ι σ κ ε α β : Type}

/-- A statement, as the database sees it. A commit carries the writes it makes permanent. -/
inductive Statement (σ κ : Type) where
  | read
  | lock (row : κ)
  | write (row : κ) (f : σ → σ)
  | commit (writes : σ → σ)
  | rollback

def Thread.statement (t : Thread ι σ κ ε) : Option (Statement σ κ) :=
  match t.prog with
  | .done _ => none
  | .fail _ => none
  | .read _ => some .read
  | .lock row _ => some (.lock row)
  | .write row f _ => some (.write row f)
  | .commit _ => some (.commit t.view)
  | .rollback _ => some .rollback

/-- A commit makes permanent what its thread sees. -/
theorem Thread.statement_commit {t : Thread ι σ κ ε} {writes : σ → σ}
    (stated : t.statement = some (.commit writes)) : writes = t.view := by
  unfold Thread.statement at stated
  split at stated
  all_goals simp only [Option.some.injEq, reduceCtorEq, Statement.commit.injEq] at stated
  exact stated.symm

/-- `grows` is how the committed state may change, `same row` what the lock on `row` protects,
`step` what a commit of a request does. -/
structure Agreement (ι σ κ : Type) where
  inv : σ → Prop
  grows : σ → σ → Prop
  same : κ → σ → σ → Prop
  step : ι → σ → σ → Prop
  allows : ι → Statement σ κ → σ → Prop
  grows_refl : ∀ s, grows s s
  grows_trans : ∀ s t u, grows s t → grows t u → grows s u
  same_refl : ∀ row s, same row s s
  same_trans : ∀ row s t u, same row s t → same row t u → same row s u

namespace Agreement

variable (A : Agreement ι σ κ)

/-- What the others may do to the committed state while the rows of `held` are locked. -/
structure Rely (held : Set κ) (s t : σ) : Prop where
  inv : A.inv t
  grows : A.grows s t
  same : ∀ row ∈ held, A.same row s t

/-- What a commit has to answer for. -/
structure Keeps (request : ι) (held : Set κ) (s t : σ) : Prop where
  inv : A.inv t
  grows : A.grows s t
  same : ∀ row, row ∉ held → A.same row s t
  step : A.step request s t

/-- What holds of the commit of the writes `w`, and after it. -/
abbrev Commits (request : ι) (post : σ → Prop) (held : Set κ) (w : σ → σ) (s : σ) : Prop :=
  ∀ t, A.Rely held s t → A.allows request (.commit w) t → A.Keeps request held t (w t) ∧ post (w t)

variable {A}

theorem Rely.refl {held : Set κ} {s : σ} (inv : A.inv s) : A.Rely held s s :=
  ⟨inv, A.grows_refl s, fun row _ => A.same_refl row s⟩

theorem Rely.trans {held : Set κ} {s t u : σ} (first : A.Rely held s t)
    (second : A.Rely held t u) : A.Rely held s u where
  inv := second.inv
  grows := A.grows_trans s t u first.grows second.grows
  same row member := A.same_trans row s t u (first.same row member) (second.same row member)

theorem Rely.mono {held fewer : Set κ} {s t : σ} (rely : A.Rely held s t) (sub : fewer ⊆ held) :
    A.Rely fewer s t :=
  ⟨rely.inv, rely.grows, fun row member => rely.same row (sub member)⟩

/-- What one handler commits is within what another one relies on. -/
theorem Keeps.rely {request : ι} {held other : Set κ} {s t : σ}
    (keeps : A.Keeps request held s t) (apart : ∀ row ∈ other, row ∉ held) : A.Rely other s t :=
  ⟨keeps.inv, keeps.grows, fun row member => keeps.same row (apart row member)⟩

end Agreement

/-! ### Transaction bodies -/

namespace Tx

/-- The body with the rows `held` locked, its writes `w` and the committed state last seen as `s`:
it returns only with `ok`, and throws only with `err`. -/
def Relies (A : Agreement ι σ κ) (request : ι) (ok : α → Set κ → (σ → σ) → σ → Prop)
    (err : ε → σ → Prop) : Tx σ κ ε α → Set κ → (σ → σ) → σ → Prop
  | .done value, held, w, s => ok value held w s
  | .fail error, _, _, s => err error s
  | .read next, held, w, s => ∀ t, A.Rely held s t → A.allows request .read t →
      (next (w t)).Relies A request ok err held w t
  | .lock row next, held, w, s => ∀ t, A.Rely held s t → A.allows request (.lock row) t →
      next.Relies A request ok err (insert row held) w t
  | .write row f next, held, w, s => ∀ t, A.Rely held s t → A.allows request (.write row f) t →
      next.Relies A request ok err (insert row held) (f ∘ w) t

variable {A : Agreement ι σ κ} {request : ι} {ok : β → Set κ → (σ → σ) → σ → Prop}
  {err : ε → σ → Prop} {held : Set κ} {w : σ → σ} {s : σ}

theorem Relies.bind {x : Tx σ κ ε α} {k : α → Tx σ κ ε β}
    (first : x.Relies A request
      (fun a held w s => (k a).Relies A request ok err held w s) err held w s) :
    (x >>= k).Relies A request ok err held w s := by
  change (x.bind k).Relies A request ok err held w s
  induction x generalizing held w s with
  | done value => exact first
  | fail error => exact first
  | read next ih => exact fun t rely allowed => ih _ (first t rely allowed)
  | lock row next ih => exact fun t rely allowed => ih (first t rely allowed)
  | write row f next ih => exact fun t rely allowed => ih (first t rely allowed)

variable {x : Tx σ κ ε β}

theorem Relies.imp {ok' : β → Set κ → (σ → σ) → σ → Prop} {err' : ε → σ → Prop}
    (first : x.Relies A request ok err held w s)
    (returns : ∀ b held w s, ok b held w s → ok' b held w s) (throws : ∀ e s, err e s → err' e s) :
    x.Relies A request ok' err' held w s := by
  induction x generalizing held w s with
  | done value => exact returns _ _ _ _ first
  | fail error => exact throws _ _ first
  | read next ih => exact fun t rely allowed => ih _ (first t rely allowed)
  | lock row next ih => exact fun t rely allowed => ih (first t rely allowed)
  | write row f next ih => exact fun t rely allowed => ih (first t rely allowed)

/-- What a body ends in was reached from where it began. -/
theorem Relies.since (inv : A.inv s) (first : x.Relies A request ok err held w s) :
    x.Relies A request ok (fun e t => A.Rely ∅ s t ∧ err e t) held w s := by
  induction x generalizing held w s with
  | done value => exact first
  | fail error => exact ⟨.refl inv, first⟩
  | read next ih =>
    intro t rely allowed
    have before : A.Rely ∅ s t := rely.mono (Set.empty_subset held)
    exact (ih _ rely.inv (first t rely allowed)).imp (fun _ _ _ _ returned => returned)
      fun _ _ thrown => ⟨before.trans thrown.1, thrown.2⟩
  | lock row next ih =>
    intro t rely allowed
    have before : A.Rely ∅ s t := rely.mono (Set.empty_subset held)
    exact (ih rely.inv (first t rely allowed)).imp (fun _ _ _ _ returned => returned)
      fun _ _ thrown => ⟨before.trans thrown.1, thrown.2⟩
  | write row f next ih =>
    intro t rely allowed
    have before : A.Rely ∅ s t := rely.mono (Set.empty_subset held)
    exact (ih rely.inv (first t rely allowed)).imp (fun _ _ _ _ returned => returned)
      fun _ _ thrown => ⟨before.trans thrown.1, thrown.2⟩

theorem relies_pure {value : β} (holds : ok value held w s) :
    (pure value : Tx σ κ ε β).Relies A request ok err held w s := holds

variable {error : ε}

theorem relies_fail (holds : err error s) :
    (Tx.fail error : Tx σ κ ε β).Relies A request ok err held w s := holds

theorem relies_select {q : σ → α} {k : α → Tx σ κ ε β}
    (rest : ∀ t, A.Rely held s t → (k (q (w t))).Relies A request ok err held w t) :
    (select q >>= k).Relies A request ok err held w s := fun t rely _ => rest t rely

/-- A SELECT of which it matters that the run may make it. -/
theorem relies_read_bind {q : σ → α} {k : α → Tx σ κ ε β}
    (rest : ∀ t, A.Rely held s t → A.allows request .read t →
      (k (q (w t))).Relies A request ok err held w t) :
    (select q >>= k).Relies A request ok err held w s := rest

variable {k : Unit → Tx σ κ ε β}

theorem relies_lockRow {row : κ}
    (rest : ∀ t, A.Rely held s t → A.allows request (.lock row) t →
      (k ()).Relies A request ok err (insert row held) w t) :
    (lockRow row >>= k).Relies A request ok err held w s := rest

theorem relies_update {row : κ} {f : σ → σ}
    (rest : ∀ t, A.Rely held s t → A.allows request (.write row f) t →
      (k ()).Relies A request ok err (insert row held) (f ∘ w) t) :
    (update row f >>= k).Relies A request ok err held w s := rest

theorem relies_ensure_bind {condition : Bool} (throws : condition = false → err error s)
    (goesOn : condition = true → (k ()).Relies A request ok err held w s) :
    (ensure condition error >>= k).Relies A request ok err held w s := by
  cases condition
  · exact throws rfl
  · exact goesOn rfl

theorem relies_check {condition : Bool}
    (goesOn : condition = true → (k ()).Relies A request ok (fun _ _ => True) held w s) :
    (ensure condition error >>= k).Relies A request ok (fun _ _ => True) held w s :=
  relies_ensure_bind (fun _ => trivial) goesOn

/-- A body of which only its writes are known. -/
theorem Effects.relies {post : β → (σ → σ) → Prop} (effects : x.Effects post w) (inv : A.inv s)
    (returns : ∀ b held' w' t, held ⊆ held' → post b w' → A.Rely held s t → ok b held' w' t)
    (throws : ∀ e t, A.Rely held s t → err e t) : x.Relies A request ok err held w s := by
  induction x generalizing held w s with
  | done value => exact returns value held w s subset_rfl effects (.refl inv)
  | fail error => exact throws error s (.refl inv)
  | read next ih =>
    intro t rely _
    refine ih _ (effects _) rely.inv ?_ ?_
    · exact fun b held' w' u sub written later => returns b held' w' u sub written (rely.trans later)
    · exact fun e u later => throws e u (rely.trans later)
  | lock row next ih =>
    intro t rely _
    have more := Set.subset_insert row held
    refine ih effects rely.inv ?_ ?_
    · exact fun b held' w' u sub written later =>
        returns b held' w' u (more.trans sub) written (rely.trans (later.mono more))
    · exact fun e u later => throws e u (rely.trans (later.mono more))
  | write row f next ih =>
    intro t rely _
    have more := Set.subset_insert row held
    refine ih effects rely.inv ?_ ?_
    · exact fun b held' w' u sub written later =>
        returns b held' w' u (more.trans sub) written (rely.trans (later.mono more))
    · exact fun e u later => throws e u (rely.trans (later.mono more))

/-- A body of which only the kind of its writes is known. -/
theorem Writes.relies {P Q : (σ → σ) → Prop} (writes : x.Writes P)
    (comp : ∀ f g, P f → Q g → Q (f ∘ g)) (before : Q w) (inv : A.inv s)
    (returns : ∀ b held' w' t, held ⊆ held' → Q w' → A.Rely held s t → ok b held' w' t)
    (throws : ∀ e t, A.Rely held s t → err e t) : x.Relies A request ok err held w s :=
  (writes.effects_after comp before).relies inv returns throws

/-- A body that the database may abort in the middle. -/
theorem Relies.abortAfter (inv : A.inv s) (first : x.Relies A request ok err held w s)
    (aborts : ∀ t, A.Rely ∅ s t → err error t) (n : Nat) :
    (x.abortAfter error n).Relies A request ok err held w s := by
  induction x generalizing n held w s with
  | done value => cases n <;> exact first
  | fail thrown => cases n <;> exact first
  | read next ih =>
    cases n with
    | zero => exact aborts s (.refl inv)
    | succ n =>
      intro t rely allowed
      have before : A.Rely ∅ s t := rely.mono (Set.empty_subset held)
      exact ih _ rely.inv (first t rely allowed) (fun u later => aborts u (before.trans later)) n
  | lock row next ih =>
    cases n with
    | zero => exact aborts s (.refl inv)
    | succ n =>
      intro t rely allowed
      have before : A.Rely ∅ s t := rely.mono (Set.empty_subset held)
      exact ih rely.inv (first t rely allowed) (fun u later => aborts u (before.trans later)) n
  | write row f next ih =>
    cases n with
    | zero => exact aborts s (.refl inv)
    | succ n =>
      intro t rely allowed
      have before : A.Rely ∅ s t := rely.mono (Set.empty_subset held)
      exact ih rely.inv (first t rely allowed) (fun u later => aborts u (before.trans later)) n

end Tx

/-! ### Handlers -/

namespace Prog

/-- The handler, with the rows `held` locked, the writes `w` of its open transaction and the
committed state last seen as `s`, commits only what it has to answer for; it ends with `post`. -/
def Relies (A : Agreement ι σ κ) (request : ι) (post : Except ε α → σ → Prop) :
    Prog σ κ ε α → Set κ → (σ → σ) → σ → Prop
  | .done value, held, w, s => held = ∅ ∧ w = id ∧ post (.ok value) s
  | .fail error, held, w, s => held = ∅ ∧ w = id ∧ post (.error error) s
  | .read next, held, w, s => ∀ t, A.Rely held s t → A.allows request .read t →
      (next (w t)).Relies A request post held w t
  | .lock row next, held, w, s => ∀ t, A.Rely held s t → A.allows request (.lock row) t →
      next.Relies A request post (insert row held) w t
  | .write row f next, held, w, s => ∀ t, A.Rely held s t → A.allows request (.write row f) t →
      next.Relies A request post (insert row held) (f ∘ w) t
  | .commit next, held, w, s => ∀ t, A.Rely held s t → A.allows request (.commit w) t →
      A.Keeps request held t (w t) ∧ next.Relies A request post ∅ id (w t)
  | .rollback next, _, _, s => next.Relies A request post ∅ id s

/-- A whole handler, whatever it answers. -/
abbrev Abides (A : Agreement ι σ κ) (request : ι) (p : Prog σ κ ε α) (s : σ) : Prop :=
  p.Relies A request (fun _ _ => True) ∅ id s

variable {A : Agreement ι σ κ} {request : ι} {post : Except ε β → σ → Prop} {held : Set κ}
  {w : σ → σ} {s : σ} {p : Prog σ κ ε β} {mid : Except ε α → σ → Prop} {q : Prog σ κ ε α}

/-- A part inside try/catch, and the rest from what it ended with. -/
theorem Relies.attempt_bind {k : Except ε α → Prog σ κ ε β}
    (first : q.Relies A request mid held w s)
    (rest : ∀ outcome t, mid outcome t → (k outcome).Relies A request post ∅ id t) :
    (q.attempt >>= k).Relies A request post held w s := by
  change (q.attempt.bind k).Relies A request post held w s
  induction q generalizing held w s with
  | done value =>
    obtain ⟨rfl, rfl, left⟩ := first
    exact rest _ s left
  | fail error =>
    obtain ⟨rfl, rfl, left⟩ := first
    exact rest _ s left
  | read next ih => exact fun t rely allowed => ih _ (first t rely allowed)
  | lock row next ih => exact fun t rely allowed => ih (first t rely allowed)
  | write row f next ih => exact fun t rely allowed => ih (first t rely allowed)
  | commit next ih =>
    exact fun t rely allowed => ⟨(first t rely allowed).1, ih (first t rely allowed).2⟩
  | rollback next ih => exact ih first

variable {k : α → Prog σ κ ε β}

/-- A part of a handler with what it leaves behind, and the rest from there. -/
theorem Relies.bind (first : q.Relies A request mid held w s)
    (rest : ∀ a t, mid (.ok a) t → (k a).Relies A request post ∅ id t)
    (thrown : ∀ e t, mid (.error e) t → post (.error e) t) :
    (q >>= k).Relies A request post held w s := by
  rw [← attempt_bind_throw]
  refine first.attempt_bind fun outcome t left => ?_
  cases outcome with
  | ok a => exact rest a t left
  | error e => exact ⟨rfl, rfl, thrown e t left⟩

theorem Relies.imp {post' : Except ε β → σ → Prop} (first : p.Relies A request post held w s)
    (weaker : ∀ b t, post b t → post' b t) : p.Relies A request post' held w s := by
  rw [← bind_pure p]
  exact first.bind (fun b t ends => ⟨rfl, rfl, weaker _ t ends⟩) fun e t => weaker _ t

private theorem Relies.after {t : σ} (before : A.grows s t)
    (rest : p.Relies A request (fun outcome u => A.grows t u ∧ post outcome u) held w t) :
    p.Relies A request (fun outcome u => A.grows s u ∧ post outcome u) held w t :=
  rest.imp fun _ u ends => ⟨A.grows_trans s t u before ends.1, ends.2⟩

/-- What a handler ends in was reached from where it began. -/
theorem Relies.grown (first : p.Relies A request post held w s) :
    p.Relies A request (fun outcome t => A.grows s t ∧ post outcome t) held w s := by
  induction p generalizing held w s with
  | done value => exact ⟨first.1, first.2.1, A.grows_refl s, first.2.2⟩
  | fail error => exact ⟨first.1, first.2.1, A.grows_refl s, first.2.2⟩
  | read next ih => exact fun t rely allowed => .after rely.grows (ih _ (first t rely allowed))
  | lock row next ih => exact fun t rely allowed => .after rely.grows (ih (first t rely allowed))
  | write row f next ih =>
    exact fun t rely allowed => .after rely.grows (ih (first t rely allowed))
  | commit next ih =>
    intro t rely allowed
    obtain ⟨keeps, rest⟩ := first t rely allowed
    exact ⟨keeps, .after (A.grows_trans s t _ rely.grows keeps.grows) (ih rest)⟩
  | rollback next ih => exact ih first

variable {error : ε}

private theorem relies_failNow {inside : Bool} (fails : post (.error error) s)
    (outside : inside = false → held = ∅ ∧ w = id) :
    (failNow error inside : Prog σ κ ε β).Relies A request post held w s := by
  cases inside with
  | true => exact ⟨rfl, rfl, fails⟩
  | false => exact ⟨(outside rfl).1, (outside rfl).2, fails⟩

/-- A handler that may fail at any of its statements. -/
theorem Relies.failAfter {inside : Bool} (first : p.Relies A request post held w s)
    (inv : A.inv s) (fails : ∀ t, A.inv t → post (.error error) t)
    (outside : inside = false → held = ∅ ∧ w = id) (n : Nat) :
    (p.failAfter error n inside).Relies A request post held w s := by
  induction p generalizing n inside held w s with
  | done value => cases n <;> exact first
  | fail thrown => cases n <;> exact first
  | read next ih =>
    cases n with
    | zero => exact relies_failNow (fails s inv) outside
    | succ n =>
      intro t rely allowed
      exact ih _ (first t rely allowed) rely.inv outside n
  | lock row next ih =>
    cases n with
    | zero => exact relies_failNow (fails s inv) outside
    | succ n =>
      intro t rely allowed
      exact ih (first t rely allowed) rely.inv (fun closed : true = false => nomatch closed) n
  | write row f next ih =>
    cases n with
    | zero => exact relies_failNow (fails s inv) outside
    | succ n =>
      intro t rely allowed
      exact ih (first t rely allowed) rely.inv (fun closed : true = false => nomatch closed) n
  | commit next ih =>
    cases n with
    | zero => exact relies_failNow (fails s inv) outside
    | succ n =>
      intro t rely allowed
      obtain ⟨keeps, rest⟩ := first t rely allowed
      exact ⟨keeps, ih rest keeps.inv (fun _ => ⟨rfl, rfl⟩) n⟩
  | rollback next ih =>
    cases n with
    | zero => exact relies_failNow (fails s inv) outside
    | succ n => exact ih first inv (fun _ => ⟨rfl, rfl⟩) n

theorem Relies.forget {p : Prog σ κ ε α} (first : p.Relies A request (fun _ _ => True) held w s) :
    p.forget.Relies A request (fun _ _ => True) held w s :=
  first.bind (fun _ _ _ => ⟨rfl, rfl, trivial⟩) fun _ _ _ => trivial

theorem relies_pure {value : β} (holds : post (.ok value) s) :
    (pure value : Prog σ κ ε β).Relies A request post ∅ id s := ⟨rfl, rfl, holds⟩

theorem relies_fail (holds : post (.error error) s) :
    (Prog.fail error : Prog σ κ ε β).Relies A request post ∅ id s := ⟨rfl, rfl, holds⟩

theorem relies_select {q : σ → α}
    (rest : ∀ t, A.Rely ∅ s t → (k (q t)).Relies A request post ∅ id t) :
    (select q >>= k).Relies A request post ∅ id s := fun t rely _ => rest t rely

/-- A SELECT of which it matters that the run may make it. -/
theorem relies_read_bind {q : σ → α}
    (rest : ∀ t, A.Rely ∅ s t → A.allows request .read t → (k (q t)).Relies A request post ∅ id t) :
    (select q >>= k).Relies A request post ∅ id s := rest

theorem relies_ensure_bind {condition : Bool} {k : Unit → Prog σ κ ε β}
    (throws : condition = false → post (.error error) s)
    (goesOn : condition = true → (k ()).Relies A request post ∅ id s) :
    (ensure condition error >>= k).Relies A request post ∅ id s := by
  cases condition
  · exact ⟨rfl, rfl, throws rfl⟩
  · exact goesOn rfl

theorem relies_check {condition : Bool} {k : Unit → Prog σ κ ε β}
    (goesOn : condition = true → (k ()).Abides A request s) :
    (ensure condition error >>= k).Abides A request s :=
  relies_ensure_bind (fun _ => trivial) goesOn

/-- A transaction: what it has read is still in force when it commits, as far as it holds the
locks; what it throws leaves the state to the others. -/
theorem relies_run {body : Tx σ κ ε α} {ok : α → Prog σ κ ε β} {caught : ε → Prog σ κ ε β}
    (first : body.Relies A request (fun a => A.Commits request ((ok a).Relies A request post ∅ id))
      (fun e s => (caught e).Relies A request post ∅ id s) held w s) :
    (body.run ok caught).Relies A request post held w s := by
  induction body generalizing held w s with
  | done value => exact first
  | fail error => exact first
  | read next ih => exact fun t rely allowed => ih _ (first t rely allowed)
  | lock row next ih => exact fun t rely allowed => ih (first t rely allowed)
  | write row f next ih => exact fun t rely allowed => ih (first t rely allowed)

theorem relies_transaction {body : Tx σ κ ε β}
    (first : body.Relies A request (fun a => A.Commits request (post (.ok a)))
      (fun e t => post (.error e) t) held w s) :
    (transaction body).Relies A request post held w s :=
  relies_run (first.imp
    (fun _ _ _ _ commits t rely allowed =>
      ⟨(commits t rely allowed).1, rfl, rfl, (commits t rely allowed).2⟩)
    fun _ _ thrown => ⟨rfl, rfl, thrown⟩)

theorem relies_autocommit {post : Except ε Unit → σ → Prop} {row : κ} {f : σ → σ}
    (commits : ∀ t, A.Rely ∅ s t → A.allows request (.write row f) t →
      ∀ u, A.Rely {row} t u → A.allows request (.commit f) u →
        A.Keeps request {row} u (f u) ∧ post (.ok ()) (f u)) :
    (autocommit row f : Prog σ κ ε Unit).Relies A request post ∅ id s := by
  refine relies_transaction fun t rely allowed u further committing => ?_
  have single : insert row (∅ : Set κ) = {row} := insert_empty_eq row
  rw [single] at further ⊢
  exact commits t rely allowed u further committing

end Prog

/-! ### Runs -/

section Runs

variable {A : Agreement ι σ κ}

/-- The rows thread `i` has locked. -/
def Config.heldBy (c : Config ι σ κ ε) (i : Nat) : Set κ := { row | c.locks row = some i }

/-- The statement a thread is about to make is allowed. -/
def Agreement.Allows (A : Agreement ι σ κ) (c : Config ι σ κ ε) : Event ι → Prop
  | .advance i => ∀ t statement, c.threads[i]? = some t → t.statement = some statement →
      A.allows t.request statement c.db
  | _ => True

/-- Every thread has seen a state from which the others have moved only within the agreement. -/
structure Agreement.Observed (A : Agreement ι σ κ) (c : Config ι σ κ ε) : Prop where
  inv : A.inv c.db
  threads : ∀ i t, c.threads[i]? = some t → ∃ s, A.Rely (c.heldBy i) s c.db ∧
    t.prog.Relies A t.request (fun _ _ => True) (c.heldBy i) t.view s
  owners : ∀ row i, c.locks row = some i → i < c.threads.length

variable [DecidableEq κ] {c c' : Config ι σ κ ε}

theorem Config.heldBy_acquire {row : κ} {i : Nat} (acquired : c.acquire row i = some c') :
    c'.heldBy i = insert row (c.heldBy i) ∧ ∀ j, j ≠ i → c'.heldBy j = c.heldBy j := by
  have now := Config.acquire_eq_some acquired
  have free : c.locks row = none ∨ c.locks row = some i := by
    unfold Config.acquire at acquired
    split at acquired
    next free => exact free
    next => cases acquired
  subst now
  constructor
  · ext other
    by_cases same : other = row
    · simp [Config.heldBy, same]
    · simp [Config.heldBy, same]
  · intro j different
    ext other
    by_cases same : other = row
    · subst same
      rcases free with free | own
      · simp [Config.heldBy, free, different.symm]
      · simp [Config.heldBy, own, different.symm]
    · simp [Config.heldBy, same]

omit [DecidableEq κ] in
theorem Config.heldBy_release (c : Config ι σ κ ε) (i : Nat) :
    (c.release i).heldBy i = ∅ ∧ ∀ j, j ≠ i → (c.release i).heldBy j = c.heldBy j := by
  constructor
  · ext row
    simp [Config.heldBy, Config.release]
  · intro j different
    ext row
    by_cases own : c.locks row = some i
    · simp [Config.heldBy, Config.release, own, different.symm]
    · simp [Config.heldBy, Config.release, own]

omit [DecidableEq κ] in
private theorem Agreement.Observed.moved {i : Nat} {t t' : Thread ι σ κ ε}
    (observed : A.Observed c) (found : c.threads[i]? = some t)
    (threads : c'.threads = c.threads.set i t')
    (commits : c'.db = c.db ∨ A.Keeps t.request (c.heldBy i) c.db c'.db)
    (others : ∀ j, j ≠ i → c'.heldBy j = c.heldBy j)
    (own : ∃ s, A.Rely (c'.heldBy i) s c'.db ∧
      t'.prog.Relies A t'.request (fun _ _ => True) (c'.heldBy i) t'.view s) : A.Observed c' := by
  have inside : i < c.threads.length := (List.getElem?_eq_some_iff.mp found).1
  have environment : ∀ j, j ≠ i → A.Rely (c.heldBy j) c.db c'.db := by
    intro j different
    rcases commits with same | keeps
    · rw [same]
      exact .refl observed.inv
    · -- a row has one owner, so the two threads hold different rows
      refine keeps.rely fun row held own => different ?_
      exact Option.some.inj (held.symm.trans own)
  refine ⟨?_, ?_, ?_⟩
  · rcases commits with same | keeps
    · exact same ▸ observed.inv
    · exact keeps.inv
  · intro j u foundU
    rw [threads] at foundU
    rcases getElem?_set_some foundU with ⟨rfl, rfl⟩ | ⟨different, old⟩
    · exact own
    · obtain ⟨s, rely, relies⟩ := observed.threads j u old
      rw [others j different]
      exact ⟨s, rely.trans (environment j different), relies⟩
  · intro row j held
    rw [threads, List.length_set]
    by_cases same : j = i
    · exact same ▸ inside
    · have before : row ∈ c.heldBy j := others j same ▸ held
      exact observed.owners row j before

private theorem Agreement.Observed.acquired {i : Nat} {t : Thread ι σ κ ε} {row : κ}
    {locked : Config ι σ κ ε} (observed : A.Observed c) (found : c.threads[i]? = some t)
    (acquired : c.acquire row i = some locked) (t' : Thread ι σ κ ε)
    (goesOn : t'.prog.Relies A t'.request (fun _ _ => True) (insert row (c.heldBy i)) t'.view c.db) :
    A.Observed (locked.setThread i t') ∧ (locked.setThread i t').db = c.db := by
  obtain ⟨held, others⟩ := Config.heldBy_acquire acquired
  have same : locked.db = c.db := by rw [Config.acquire_eq_some acquired]
  have threads : locked.threads = c.threads := by rw [Config.acquire_eq_some acquired]
  refine ⟨observed.moved found (congrArg (List.set · i _) threads) (.inl same) others
    ⟨c.db, ?_, ?_⟩, same⟩
  · change A.Rely _ _ locked.db
    rw [same]
    exact .refl observed.inv
  · change t'.prog.Relies A t'.request _ (locked.heldBy i) t'.view c.db
    rw [held]
    exact goesOn

private theorem Agreement.Observed.advance {i : Nat} {t : Thread ι σ κ ε}
    (observed : A.Observed c) (allowed : A.Allows c (.advance i)) (found : c.threads[i]? = some t)
    (stepped : c.stepThread i t = some c') :
    A.Observed c' ∧ (c'.db = c.db ∨ A.Keeps t.request (c.heldBy i) c.db c'.db) := by
  obtain ⟨s, rely, relies⟩ := observed.threads i t found
  have allowedNext := fun statement => allowed t statement found
  unfold Config.stepThread at stepped
  cases progIs : t.prog with
  | done value => simp [progIs] at stepped
  | fail error => simp [progIs] at stepped
  | read next =>
    simp only [progIs, Option.some.injEq] at stepped
    subst stepped
    rw [progIs] at relies
    have goesOn := relies c.db rely (allowedNext .read (by simp [Thread.statement, progIs]))
    exact ⟨observed.moved found rfl (.inl rfl) (fun _ _ => rfl)
      ⟨c.db, .refl observed.inv, goesOn⟩, .inl rfl⟩
  | lock row next =>
    simp only [progIs, Option.map_eq_some_iff] at stepped
    obtain ⟨locked, acquired, rfl⟩ := stepped
    rw [progIs] at relies
    have goesOn := relies c.db rely (allowedNext (.lock row) (by simp [Thread.statement, progIs]))
    obtain ⟨still, same⟩ := observed.acquired found acquired { t with prog := next } goesOn
    exact ⟨still, .inl same⟩
  | write row f next =>
    simp only [progIs, Option.map_eq_some_iff] at stepped
    obtain ⟨locked, acquired, rfl⟩ := stepped
    rw [progIs] at relies
    have goesOn := relies c.db rely
      (allowedNext (.write row f) (by simp [Thread.statement, progIs]))
    rw [← Thread.view_write t next] at goesOn
    obtain ⟨still, same⟩ := observed.acquired found acquired
      { t with prog := next, pending := t.pending ++ [f] } goesOn
    exact ⟨still, .inl same⟩
  | commit next =>
    simp only [progIs, Option.some.injEq] at stepped
    subst stepped
    rw [progIs] at relies
    obtain ⟨keeps, goesOn⟩ :=
      relies c.db rely (allowedNext (.commit t.view) (by simp [Thread.statement, progIs]))
    obtain ⟨held, others⟩ := Config.heldBy_release { c with db := t.view c.db } i
    refine ⟨observed.moved found rfl (.inr keeps) others ⟨t.view c.db, .refl keeps.inv, ?_⟩,
      .inr keeps⟩
    change next.Relies A t.request _ (Config.heldBy (Config.release _ i) i) id _
    rw [held]
    exact goesOn
  | rollback next =>
    simp only [progIs, Option.some.injEq] at stepped
    subst stepped
    rw [progIs] at relies
    obtain ⟨held, others⟩ := Config.heldBy_release c i
    have none : (c.release i).heldBy i ⊆ c.heldBy i := by simp [held]
    refine ⟨observed.moved found rfl (.inl rfl) others ⟨s, rely.mono none, ?_⟩, .inl rfl⟩
    change next.Relies A t.request _ ((c.release i).heldBy i) id s
    rw [held]
    exact relies

variable {handler : ι → Prog σ κ ε Unit}

theorem Agreement.Observed.apply {e : Event ι}
    (handlers : ∀ request s, A.inv s →
      (handler request).Abides A request s) (observed : A.Observed c)
    (allowed : A.Allows c e) (applied : c.apply handler e = some c') :
    A.Observed c' ∧ (c'.db = c.db ∨ ∃ i t, e = .advance i ∧ c.threads[i]? = some t ∧
      A.Keeps t.request (c.heldBy i) c.db c'.db) := by
  cases e with
  | start request =>
    simp only [Config.apply, Option.some.injEq] at applied
    subst applied
    refine ⟨⟨observed.inv, fun j u foundU => ?_, fun row j held => ?_⟩, .inl rfl⟩
    · rcases getElem?_append_some foundU with ⟨rfl, rfl⟩ | old
      · have free : Config.heldBy c c.threads.length = ∅ := by
          ext row
          constructor
          · exact fun held => absurd (observed.owners row _ held) (Nat.lt_irrefl _)
          · exact fun impossible => impossible.elim
        refine ⟨c.db, .refl observed.inv, ?_⟩
        change (handler request).Relies A request _ (Config.heldBy c c.threads.length) id c.db
        rw [free]
        exact handlers request c.db observed.inv
      · exact observed.threads j u old
    · have inside := observed.owners row j held
      rw [List.length_append]
      omega
  | advance i =>
    obtain ⟨t, found, stepped⟩ := Option.bind_eq_some_iff.mp applied
    obtain ⟨after, commits⟩ := observed.advance allowed found stepped
    exact ⟨after, commits.imp id fun keeps => ⟨i, t, rfl, found, keeps⟩⟩
  | crash i =>
    obtain ⟨t, found, rfl⟩ := Option.map_eq_some_iff.mp applied
    obtain ⟨held, others⟩ := Config.heldBy_release c i
    refine ⟨observed.moved found rfl (.inl rfl) others ⟨c.db, .refl observed.inv, ?_⟩, .inl rfl⟩
    exact ⟨held, rfl, trivial⟩

/-- Handlers that keep to the agreement keep its invariant in every allowed run. -/
theorem Reaches.observed {ok : Config ι σ κ ε → Event ι → Prop} {db : σ} {c : Config ι σ κ ε}
    (handlers : ∀ request s, A.inv s →
      (handler request).Abides A request s)
    (allows : ∀ c e, ok c e → A.Allows c e) (base : A.inv db)
    (run : Reaches handler ok (Config.idle db) c) : A.Observed c := by
  refine run.invariant A.Observed ?_ fun c e c' observed allowed applied =>
    (observed.apply handlers (allows c e allowed) applied).1
  refine ⟨base, fun i t found => ?_, fun row i held => ?_⟩
  · simp [Config.idle] at found
  · simp [Config.idle] at held

end Runs

end ReadCommitted
