import OlNode.ReadCommitted.Effects

/-!
# Requests that are served one at a time

Of the requests that run at once, some (`mine`) never overlap: the next one starts when the last
one is finished. Between two statements of such a request the others go on, and all that is known
of them is the relation `env` their commits stay in. A rule for each way a handler is built says
what it leaves behind, and the run theorem says what holds whenever none of `mine` is in progress.
-/
namespace ReadCommitted

variable {ι σ κ ε α β : Type}

theorem Thread.Moves.unfinished {db db' : σ} {t t' : Thread ι σ κ ε} (moves : t.Moves db t' db') :
    t.prog.finished = false := by
  cases moves with
  | read progIs => rw [progIs]; rfl
  | lock progIs => rw [progIs]; rfl
  | write progIs => rw [progIs]; rfl
  | commit progIs => rw [progIs]; rfl
  | rollback progIs => rw [progIs]; rfl

theorem Thread.Moves.db_eq {db db' : σ} {t t' : Thread ι σ κ ε} (moves : t.Moves db t' db') :
    db' = db ∨ ∃ next, t.prog = .commit next ∧ db' = t.view db := by
  cases moves with
  | commit progIs => exact .inr ⟨_, progIs, rfl⟩
  | _ => exact .inl rfl

/-- What the requests of one kind promise, and what they may rely on. `rest` is left behind by
every request, also by one that dies in a state that satisfies `mayStop`. -/
structure Discipline (ι σ : Type) where
  mine : ι → Prop
  env : σ → σ → Prop
  step : σ → σ → Prop
  rest : σ → Prop
  mayStop : σ → Prop
  refl : ∀ s, env s s
  trans : ∀ s t u, env s t → env t u → env s u
  rest_stable : ∀ s t, env s t → rest s → rest t
  mayStop_stable : ∀ s t, env s t → mayStop t → mayStop s

namespace Discipline

variable (D : Discipline ι σ)

/-- A process may die here. -/
def Calm (s : σ) : Prop := D.mayStop s → D.rest s

theorem calm_stable {s t : σ} (moved : D.env s t) (calm : D.Calm s) : D.Calm t :=
  fun may => D.rest_stable s t moved (calm (D.mayStop_stable s t moved may))

end Discipline

/-! ### Transaction bodies -/

namespace Tx

/-- The body with the writes `w` made so far and the committed state last seen as `s`: it returns
only with `ok`, and throws only with `err`, while others move the committed state along `env`. -/
def Serves (env : σ → σ → Prop) (ok : α → (σ → σ) → σ → Prop) (err : ε → σ → Prop) :
    Tx σ κ ε α → (σ → σ) → σ → Prop
  | .done value, w, s => ok value w s
  | .fail error, _, s => err error s
  | .read next, w, s => ∀ t, env s t → (next (w t)).Serves env ok err w t
  | .lock _ next, w, s => next.Serves env ok err w s
  | .write _ f next, w, s => next.Serves env ok err (f ∘ w) s

variable {env : σ → σ → Prop} {err : ε → σ → Prop} {w : σ → σ} {s : σ}

/-- A body whose writes are known whatever it reads. -/
theorem Effects.serves {ok : α → (σ → σ) → σ → Prop} {post : α → (σ → σ) → Prop}
    (trans : ∀ s t u, env s t → env t u → env s u) {x : Tx σ κ ε α} {start : σ}
    (effects : x.Effects post w) (moved : env start s)
    (returns : ∀ a w' t, env start t → post a w' → ok a w' t)
    (throws : ∀ e t, env start t → err e t) : x.Serves env ok err w s := by
  induction x generalizing w s with
  | done value => exact returns value w s moved effects
  | fail error => exact throws error s moved
  | read next ih =>
    intro t further
    exact ih (w t) (effects (w t)) (trans _ _ _ moved further)
  | lock row next ih => exact ih effects moved
  | write row f next ih => exact ih effects moved

end Tx

/-! ### Handlers -/

namespace Prog

/-- The handler, with the writes `w` of its open transaction and the committed state last seen as
`s`, makes only commits in `step`, and ends, by returning or throwing, with `post`. -/
def Serves (D : Discipline ι σ) (post : Except ε α → σ → Prop) :
    Prog σ κ ε α → (σ → σ) → σ → Prop
  | .done value, w, s => w = id ∧ post (.ok value) s
  | .fail error, w, s => w = id ∧ post (.error error) s
  | .read next, w, s => ∀ t, D.env s t → (next (w t)).Serves D post w t
  | .lock _ next, w, s => next.Serves D post w s
  | .write _ f next, w, s => next.Serves D post (f ∘ w) s
  | .commit next, w, s => ∀ t, D.env s t →
      D.step t (w t) ∧ D.Calm (w t) ∧ next.Serves D post id (w t)
  | .rollback next, _, s => next.Serves D post id s

variable {D : Discipline ι σ} {w : σ → σ} {s : σ} {p : Prog σ κ ε α} {k : α → Prog σ κ ε β}

section Parts

variable {mid : Except ε α → σ → Prop} {post : Except ε β → σ → Prop}

/-- A part inside try/catch, and the rest from what it ended with. -/
theorem Serves.attempt_bind {k : Except ε α → Prog σ κ ε β} (first : p.Serves D mid w s)
    (rest : ∀ outcome t, mid outcome t → (k outcome).Serves D post id t) :
    (p.attempt >>= k).Serves D post w s := by
  change (p.attempt.bind k).Serves D post w s
  induction p generalizing w s with
  | done value =>
    obtain ⟨rfl, left⟩ := first
    exact rest _ s left
  | fail error =>
    obtain ⟨rfl, left⟩ := first
    exact rest _ s left
  | read next ih => exact fun t moved => ih (w t) (first t moved)
  | lock row next ih => exact ih first
  | write row f next ih => exact ih first
  | commit next ih => exact fun t moved =>
      ⟨(first t moved).1, (first t moved).2.1, ih (first t moved).2.2⟩
  | rollback next ih => exact ih first

/-- A part of a handler with what it is known to leave behind, and the rest from there. -/
theorem Serves.seq (first : p.Serves D mid w s)
    (rest : ∀ a t, mid (.ok a) t → (k a).Serves D post id t)
    (thrown : ∀ e t, mid (.error e) t → post (.error e) t) : (p >>= k).Serves D post w s := by
  rw [← attempt_bind_throw]
  refine first.attempt_bind fun outcome t left => ?_
  cases outcome with
  | ok a => exact rest a t left
  | error e => exact ⟨rfl, thrown e t left⟩

theorem Serves.bind
    (first : p.Serves D (fun result t => match result with
      | .ok a => (k a).Serves D post id t
      | .error error => post (.error error) t) w s) :
    (p >>= k).Serves D post w s :=
  first.seq (fun _ _ left => left) fun _ _ left => left

end Parts

theorem Serves.imp {post post' : Except ε α → σ → Prop} (first : p.Serves D post w s)
    (weaker : ∀ r t, post r t → post' r t) : p.Serves D post' w s := by
  rw [← bind_pure p]
  exact first.seq (fun a t ends => ⟨rfl, weaker _ t ends⟩) fun e t => weaker _ t

theorem Serves.attempt {post : Except ε (Except ε α) → σ → Prop}
    (first : p.Serves D (fun result t => post (.ok result) t) w s) :
    p.attempt.Serves D post w s := by
  rw [← bind_pure p.attempt]
  exact first.attempt_bind fun _ t ends => ⟨rfl, ends⟩

variable {post : Except ε α → σ → Prop}

theorem serves_pure {value : α} (holds : post (.ok value) s) :
    (pure value : Prog σ κ ε α).Serves D post id s := ⟨rfl, holds⟩

theorem serves_fail {error : ε} (holds : post (.error error) s) :
    (Prog.fail error : Prog σ κ ε α).Serves D post id s := ⟨rfl, holds⟩

theorem serves_select {post : Except ε β → σ → Prop} {q : σ → α}
    (rest : ∀ t, D.env s t → (k (q t)).Serves D post id t) :
    (select q >>= k).Serves D post id s := rest

theorem serves_ensure_bind {post : Except ε β → σ → Prop} {condition : Bool} {error : ε}
    {k : Unit → Prog σ κ ε β} (thrown : condition = false → post (.error error) s)
    (rest : condition = true → (k ()).Serves D post id s) :
    (ensure condition error >>= k).Serves D post id s := by
  cases condition
  · exact ⟨rfl, thrown rfl⟩
  · exact rest rfl

/-- The others may move the state at any time. -/
theorem Serves.moved {t : σ} (stable : ∀ r s t, D.env s t → post r s → post r t)
    (serves : p.Serves D post w s) (moved : D.env s t) : p.Serves D post w t := by
  induction p generalizing w s t with
  | done value => exact ⟨serves.1, stable _ _ _ moved serves.2⟩
  | fail error => exact ⟨serves.1, stable _ _ _ moved serves.2⟩
  | read next ih => exact fun u further => serves u (D.trans _ _ _ moved further)
  | lock row next ih => exact ih serves moved
  | write row f next ih => exact ih serves moved
  | commit next ih => exact fun u further => serves u (D.trans _ _ _ moved further)
  | rollback next ih => exact ih serves moved

private theorem exec_of_serves (serves : p.Serves D post w s) :
    post (p.exec s (w s)).1 (p.exec s (w s)).2 := by
  induction p generalizing w s with
  | done value => exact serves.2
  | fail error => exact serves.2
  | read next ih => exact ih (w s) (serves s (D.refl s))
  | lock row next ih => exact ih serves
  | write row f next ih => exact ih serves
  | commit next ih => exact ih (serves s (D.refl s)).2.2
  | rollback next ih => exact ih serves

/-- The handler called while nothing else runs. -/
theorem Serves.call (serves : p.Serves D post id s) : post (p.call s).1 (p.call s).2 :=
  exec_of_serves serves

/-- What the commit of a transaction has to satisfy. -/
def CommitsTo (D : Discipline ι σ) (next : σ → Prop) (w : σ → σ) (s : σ) : Prop :=
  ∀ t, D.env s t → D.step t (w t) ∧ D.Calm (w t) ∧ next (w t)

/-- A commit that only does what the others may do, too. -/
theorem commitsTo_env {K : σ → Prop} (steps : ∀ s t, D.env s t → D.step s t)
    (stable : ∀ s t, D.env s t → K s → K t) (calm : ∀ s, K s → D.Calm s)
    (moves : ∀ t, D.env t (w t)) (holds : K s) : CommitsTo D K w s := by
  intro t moved
  have after := stable _ _ (moves t) (stable _ _ moved holds)
  exact ⟨steps _ _ (moves t), calm _ after, after⟩

theorem serves_run {post : Except ε β → σ → Prop} {body : Tx σ κ ε α} {ok : α → Prog σ κ ε β}
    {caught : ε → Prog σ κ ε β}
    (first : body.Serves D.env (fun a w' t => CommitsTo D ((ok a).Serves D post id) w' t)
      (fun e t => (caught e).Serves D post id t) w s) :
    (body.run ok caught).Serves D post w s := by
  induction body generalizing w s with
  | done value => exact first
  | fail error => exact first
  | read next ih => exact fun t moved => ih (w t) (first t moved)
  | lock row next ih => exact ih first
  | write row f next ih => exact ih first

theorem serves_transaction {body : Tx σ κ ε α}
    (first : body.Serves D.env (fun a w' t => CommitsTo D (post (.ok a)) w' t)
      (fun e t => post (.error e) t) w s) :
    (transaction body).Serves D post w s := by
  refine serves_run ?_
  revert first
  simp only [CommitsTo, Serves, true_and, imp_self]

theorem serves_autocommit {post : Except ε Unit → σ → Prop} {row : κ} {f : σ → σ}
    (commits : CommitsTo D (post (.ok ())) f s) :
    (autocommit row f).Serves D post id s :=
  serves_transaction commits

end Prog

/-! ### Runs -/

section Runs

variable (D : Discipline ι σ) (pre : ι → σ → Prop)

/-- No request of `mine` is in progress. -/
def Discipline.Quiet (c : Config ι σ κ ε) : Prop :=
  ∀ t ∈ c.threads, D.mine t.request → t.prog.finished = true

/-- A request of `mine` starts when no other one is in progress and its precondition holds, and
dies only where it may. -/
def Discipline.Allows (c : Config ι σ κ ε) : Event ι → Prop
  | .start request => D.mine request → D.Quiet c ∧ pre request c.db
  | .advance _ => True
  | .crash i => ∀ t, c.threads[i]? = some t → D.mine t.request → D.mayStop c.db

/-- The state of a thread in a run that keeps the discipline. -/
structure Discipline.Kept (db : σ) (t : Thread ι σ κ ε) : Prop where
  served : D.mine t.request → t.prog.finished = false →
    t.prog.Serves D (fun _ s => D.rest s) t.view db
  calm : D.mine t.request → t.prog.finished = false → D.Calm db

/-- The state of a run in which the others stay out of the way. -/
structure Discipline.Watched (c : Config ι σ κ ε) : Prop where
  kept : ∀ (i : Nat) (t : Thread ι σ κ ε), c.threads[i]? = some t → D.Kept c.db t
  one : ∀ (i j : Nat) (t u : Thread ι σ κ ε), c.threads[i]? = some t →
    c.threads[j]? = some u → D.mine t.request → D.mine u.request →
    t.prog.finished = false → u.prog.finished = false → i = j
  resting : D.Quiet c → D.rest c.db

/-- A move of the others: along `env` while one of `mine` is in progress, and else from rest to
rest. -/
def Discipline.Aside (c : Config ι σ κ ε) (db' : σ) : Prop :=
  (¬ D.Quiet c → D.env c.db db') ∧ (D.rest c.db → D.rest db')

variable {D} {pre}

theorem Discipline.aside_of_env {c : Config ι σ κ ε} {db' : σ} (moved : D.env c.db db') :
    D.Aside c db' :=
  ⟨fun _ => moved, D.rest_stable _ _ moved⟩

variable {db db' : σ}

private theorem Discipline.Kept.env {t : Thread ι σ κ ε} (kept : D.Kept db t)
    (moved : D.env db db') : D.Kept db' t where
  served mine unfinished :=
    (kept.served mine unfinished).moved (fun _ _ _ => D.rest_stable _ _) moved
  calm mine unfinished := D.calm_stable moved (kept.calm mine unfinished)

private theorem Discipline.kept_finished {db : σ} {t : Thread ι σ κ ε}
    (finished : D.mine t.request → t.prog.finished = true) : D.Kept db t where
  served mine unfinished := by simp [finished mine] at unfinished
  calm mine unfinished := by simp [finished mine] at unfinished

variable {t t' : Thread ι σ κ ε}

theorem Prog.Serves.moves {post : Except ε Unit → σ → Prop}
    (serves : t.prog.Serves D post t.view db) (moves : t.Moves db t' db') :
    (db' = db ∨ D.step db db' ∧ D.Calm db') ∧ t'.prog.Serves D post t'.view db' := by
  cases moves with
  | read progIs =>
    rw [progIs] at serves
    exact ⟨.inl rfl, serves db (D.refl db)⟩
  | lock progIs =>
    rw [progIs] at serves
    exact ⟨.inl rfl, serves⟩
  | @write row f next progIs =>
    rw [progIs] at serves
    refine ⟨.inl rfl, ?_⟩
    rw [Thread.view_write]
    exact serves
  | commit progIs =>
    rw [progIs] at serves
    obtain ⟨step, calm, left⟩ := serves db (D.refl db)
    exact ⟨.inr ⟨step, calm⟩, left⟩
  | rollback progIs =>
    rw [progIs] at serves
    exact ⟨.inl rfl, serves⟩

private theorem Prog.Serves.holds {post : σ → Prop} {p : Prog σ κ ε α} {w : σ → σ} {db : σ}
    (serves : p.Serves D (fun _ s => post s) w db) (finished : p.finished = true) : post db := by
  cases p with
  | done value => exact serves.2
  | fail error => exact serves.2
  | _ => simp [Prog.finished] at finished

private theorem Discipline.Kept.moves_mine (kept : D.Kept db t) (mine : D.mine t.request)
    (moves : t.Moves db t' db') :
    t'.request = t.request ∧ (db' = db ∨ D.step db db') ∧ D.Kept db' t' ∧
      (t'.prog.finished = true → D.rest db') := by
  have unfinished := moves.unfinished
  obtain ⟨how, serves⟩ := (kept.served mine unfinished).moves moves
  refine ⟨moves.request, how.imp_right And.left, ⟨fun _ _ => serves, fun _ _ => ?_⟩, serves.holds⟩
  rcases how with rfl | ⟨-, calm⟩
  · exact kept.calm mine unfinished
  · exact calm

variable {c c' : Config ι σ κ ε}

private theorem Discipline.quiet_of_others {i : Nat} (found : c.threads[i]? = some t)
    (threads : c'.threads = c.threads.set i t') (quiet : D.Quiet c')
    (this : D.mine t.request → t.prog.finished = true) : D.Quiet c := by
  intro u member mine
  obtain ⟨j, inside, rfl⟩ := List.getElem_of_mem member
  by_cases same : j = i
  · subst same
    rw [List.getElem?_eq_getElem inside, Option.some.injEq] at found
    rw [found] at mine ⊢
    exact this mine
  · refine quiet _ ?_ mine
    rw [threads]
    refine List.mem_of_getElem? (i := j) ?_
    rw [List.getElem?_set_ne (Ne.symm same), List.getElem?_eq_getElem inside]

variable {handler : ι → Prog σ κ ε Unit}

private theorem Discipline.Watched.start {request : ι}
    (handlers : ∀ request, D.mine request → ∀ s, D.rest s → pre request s →
      (handler request).Serves D (fun _ t => D.rest t) id s) (watched : D.Watched c)
    (allowed : D.Allows pre c (.start request)) (same : c'.db = c.db)
    (threads : c'.threads = c.threads ++ [⟨request, handler request, handler request, []⟩]) :
    D.Watched c' := by
  have old : D.Quiet c' → D.Quiet c := fun quiet t member =>
    quiet t (by rw [threads]; exact List.mem_append_left _ member)
  -- While the new request is one of `mine`, no other one is in progress.
  have alone : ∀ (j : Nat) (t : Thread ι σ κ ε), c.threads[j]? = some t → D.mine request →
      D.mine t.request → t.prog.finished = true :=
    fun j t found mine => (allowed mine).1 t (List.mem_of_getElem? found)
  constructor
  · intro i t found
    rw [threads] at found
    rw [same]
    rcases getElem?_append_some found with ⟨-, rfl⟩ | found
    · constructor
      · intro mine _
        obtain ⟨quiet, holds⟩ := allowed mine
        exact handlers request mine c.db (watched.resting quiet) holds
      · exact fun mine _ _ => watched.resting (allowed mine).1
    · exact watched.kept i t found
  · intro i j t u foundT foundU mineT mineU unfinishedT unfinishedU
    rw [threads] at foundT foundU
    rcases getElem?_append_some foundT with ⟨lastT, rfl⟩ | foundT
    · rcases getElem?_append_some foundU with ⟨lastU, rfl⟩ | foundU
      · exact lastT.trans lastU.symm
      · simp [alone j u foundU mineT mineU] at unfinishedU
    · rcases getElem?_append_some foundU with ⟨lastU, rfl⟩ | foundU
      · simp [alone i t foundT mineU mineT] at unfinishedT
      · exact watched.one i j t u foundT foundU mineT mineU unfinishedT unfinishedU
  · intro quiet
    rw [same]
    exact watched.resting (old quiet)

private theorem Discipline.Watched.advance_other {i : Nat} (watched : D.Watched c)
    (found : c.threads[i]? = some t) (other : ¬ D.mine t.request)
    (request : t'.request = t.request) (aside : D.Aside c c'.db)
    (threads : c'.threads = c.threads.set i t') : D.Watched c' := by
  constructor
  · intro j u foundU
    rw [threads] at foundU
    rcases getElem?_set_some foundU with ⟨-, rfl⟩ | ⟨-, foundU⟩
    · exact kept_finished fun mine => absurd (request ▸ mine) other
    · by_cases quiet : D.Quiet c
      · exact kept_finished (quiet u (List.mem_of_getElem? foundU))
      · exact (watched.kept j u foundU).env (aside.1 quiet)
  · intro j k u v foundU foundV mineU mineV unfinishedU unfinishedV
    rw [threads] at foundU foundV
    rcases getElem?_set_some foundU with ⟨-, rfl⟩ | ⟨-, foundU⟩
    · exact absurd (request ▸ mineU) other
    · rcases getElem?_set_some foundV with ⟨-, rfl⟩ | ⟨-, foundV⟩
      · exact absurd (request ▸ mineV) other
      · exact watched.one j k u v foundU foundV mineU mineV unfinishedU unfinishedV
  · intro quiet
    have before := quiet_of_others found threads quiet (fun mine => absurd mine other)
    exact aside.2 (watched.resting before)

private theorem Discipline.Watched.advance_mine {i : Nat} (watched : D.Watched c)
    (found : c.threads[i]? = some t) (mine : D.mine t.request) (moves : t.Moves c.db t' c'.db)
    (threads : c'.threads = c.threads.set i t') :
    D.Watched c' ∧ (c'.db = c.db ∨ D.step c.db c'.db) := by
  obtain ⟨request, step, kept, last⟩ := (watched.kept i t found).moves_mine mine moves
  have unfinished := moves.unfinished
  have others : ∀ (j : Nat) (u : Thread ι σ κ ε), j ≠ i → c.threads[j]? = some u →
      D.mine u.request → u.prog.finished = true := by
    intro j u different foundU mineU
    by_contra notFinished
    exact different (watched.one j i u t foundU found mineU mine (by simpa using notFinished)
      unfinished)
  refine ⟨⟨?_, ?_, ?_⟩, step⟩
  · intro j u foundU
    rw [threads] at foundU
    rcases getElem?_set_some foundU with ⟨-, rfl⟩ | ⟨different, foundU⟩
    · exact kept
    · exact kept_finished (others j u different foundU)
  · intro j k u v foundU foundV mineU mineV unfinishedU unfinishedV
    rw [threads] at foundU foundV
    rcases getElem?_set_some foundU with ⟨rfl, -⟩ | ⟨differentU, foundU⟩
    · rcases getElem?_set_some foundV with ⟨rfl, -⟩ | ⟨differentV, foundV⟩
      · rfl
      · simp [others k v differentV foundV mineV] at unfinishedV
    · simp [others j u differentU foundU mineU] at unfinishedU
  · intro quiet
    refine last (quiet t' ?_ (request ▸ mine))
    rw [threads]
    exact List.mem_set (List.getElem?_eq_some_iff.mp found).1 t'

private theorem Discipline.Watched.crash {i : Nat} {t : Thread ι σ κ ε} (watched : D.Watched c)
    (found : c.threads[i]? = some t) (allowed : D.Allows pre c (.crash i)) (same : c'.db = c.db)
    (threads : c'.threads = c.threads.set i (t.resume (.done ()))) : D.Watched c' := by
  constructor
  · intro j u foundU
    rw [threads] at foundU
    rw [same]
    rcases getElem?_set_some foundU with ⟨-, rfl⟩ | ⟨-, foundU⟩
    · exact kept_finished fun _ => rfl
    · exact watched.kept j u foundU
  · intro j k u v foundU foundV mineU mineV unfinishedU unfinishedV
    rw [threads] at foundU foundV
    rcases getElem?_set_some foundU with ⟨-, rfl⟩ | ⟨-, foundU⟩
    · cases unfinishedU
    · rcases getElem?_set_some foundV with ⟨-, rfl⟩ | ⟨-, foundV⟩
      · cases unfinishedV
      · exact watched.one j k u v foundU foundV mineU mineV unfinishedU unfinishedV
  · intro quiet
    rw [same]
    by_cases inProgress : D.mine t.request ∧ t.prog.finished = false
    · obtain ⟨mine, unfinished⟩ := inProgress
      exact (watched.kept i t found).calm mine unfinished (allowed t found mine)
    · refine watched.resting (quiet_of_others found threads quiet (fun mine => ?_))
      by_contra notFinished
      exact inProgress ⟨mine, by simpa using notFinished⟩

theorem Discipline.watched_idle {db : σ} (start : D.rest db) :
    D.Watched (Config.idle db : Config ι σ κ ε) where
  kept i t found := by simp [Config.idle] at found
  one i j t u found := by simp [Config.idle] at found
  resting _ := start

/-- The thread moves the state only along `R`. -/
structure Thread.Along (R : σ → σ → Prop) (t : Thread ι σ κ ε) : Prop where
  writes : t.prog.Writes fun f => ∀ s, R s (f s)
  pending : ∀ s, R s (t.view s)

theorem Thread.Along.moves {R : σ → σ → Prop} (refl : ∀ s, R s s)
    (trans : ∀ s t u, R s t → R t u → R s u) (along : t.Along R) (moves : t.Moves db t' db') :
    R db db' ∧ t'.Along R := by
  obtain ⟨writes, pending⟩ := along
  cases moves with
  | read progIs =>
    rw [progIs] at writes
    exact ⟨refl db, writes _, pending⟩
  | lock progIs =>
    rw [progIs] at writes
    exact ⟨refl db, writes, pending⟩
  | @write row f next progIs =>
    rw [progIs] at writes
    refine ⟨refl db, writes.2, ?_⟩
    intro s
    rw [Thread.view_write]
    exact trans _ _ _ (pending s) (writes.1 _)
  | commit progIs =>
    rw [progIs] at writes
    exact ⟨pending db, writes, refl⟩
  | rollback progIs =>
    rw [progIs] at writes
    exact ⟨refl db, writes, refl⟩

variable [DecidableEq κ]

/-- One event of a run in which the others stay out of the way. -/
theorem Discipline.Watched.apply
    (handlers : ∀ request, D.mine request → ∀ s, D.rest s → pre request s →
      (handler request).Serves D (fun _ t => D.rest t) id s) {e : Event ι} (watched : D.Watched c)
    (allowed : D.Allows pre c e)
    (others : ∀ i t t', e = .advance i → c.threads[i]? = some t → ¬ D.mine t.request →
      t.Moves c.db t' c'.db → D.Aside c c'.db) (applied : c.apply handler e = some c') :
    D.Watched c' ∧ (c'.db = c.db ∨ D.step c.db c'.db ∨ ∃ i t t', e = .advance i ∧
      c.threads[i]? = some t ∧ ¬ D.mine t.request ∧ t.Moves c.db t' c'.db) := by
  rcases Config.apply_cases applied with
    ⟨request, rfl, same, threads⟩ | ⟨i, t, t', rfl, found, moves, threads⟩ |
    ⟨i, t, rfl, found, same, threads⟩
  · exact ⟨watched.start handlers allowed same threads, .inl same⟩
  · by_cases mine : D.mine t.request
    · obtain ⟨kept, same | step⟩ := watched.advance_mine found mine moves threads
      · exact ⟨kept, .inl same⟩
      · exact ⟨kept, .inr (.inl step)⟩
    · have aside := others i t t' rfl found mine moves
      exact ⟨watched.advance_other found mine moves.request aside threads,
        .inr (.inr ⟨i, t, t', rfl, found, mine, moves⟩)⟩
  · exact ⟨watched.crash found allowed same threads, .inl same⟩

/-! ### Others known by their writes -/

/-- In every run the threads of the requests that write only along `R` move only along `R`. -/
theorem Config.apply_along {R : σ → σ → Prop} {these : ι → Prop} (refl : ∀ s, R s s)
    (trans : ∀ s t u, R s t → R t u → R s u)
    (handlers : ∀ request, these request → (handler request).Writes fun f => ∀ s, R s (f s))
    {e : Event ι} (threads : ∀ t ∈ c.threads, these t.request → t.Along R)
    (applied : c.apply handler e = some c') :
    ∀ t ∈ c'.threads, these t.request → t.Along R := by
  refine Config.forall_threads applied threads ?_ ?_ ?_
  · exact fun request _ own => ⟨handlers request own, refl⟩
  · exact fun t t' along moves own =>
      ((along (moves.request ▸ own)).moves refl trans moves).2
  · exact fun t _ _ => ⟨trivial, refl⟩

/-- The state of a run that keeps the discipline, when the others write only along `env`. -/
structure Discipline.Orderly (D : Discipline ι σ) (c : Config ι σ κ ε) : Prop
    extends D.Watched c where
  along : ∀ t ∈ c.threads, ¬ D.mine t.request → t.Along D.env

/-- One event of a run that keeps the discipline. -/
theorem Discipline.Orderly.apply
    (handlers : ∀ request, D.mine request → ∀ s, D.rest s → pre request s →
      (handler request).Serves D (fun _ t => D.rest t) id s)
    (others : ∀ request, ¬ D.mine request → (handler request).Writes fun f => ∀ s, D.env s (f s))
    {e : Event ι} (orderly : D.Orderly c) (allowed : D.Allows pre c e)
    (applied : c.apply handler e = some c') :
    D.Orderly c' ∧ (D.env c.db c'.db ∨ D.step c.db c'.db) := by
  have moved : ∀ (i : Nat) (t t' : Thread ι σ κ ε), c.threads[i]? = some t →
      ¬ D.mine t.request → t.Moves c.db t' c'.db → D.env c.db c'.db := by
    intro i t t' found other moves
    exact ((orderly.along t (List.mem_of_getElem? found) other).moves D.refl D.trans moves).1
  have aside : ∀ (i : Nat) (t t' : Thread ι σ κ ε), e = .advance i → c.threads[i]? = some t →
      ¬ D.mine t.request → t.Moves c.db t' c'.db → D.Aside c c'.db :=
    fun i t t' _ found other moves => aside_of_env (moved i t t' found other moves)
  obtain ⟨watched, how⟩ := orderly.toWatched.apply handlers allowed aside applied
  refine ⟨⟨watched, Config.apply_along D.refl D.trans others orderly.along applied⟩, ?_⟩
  rcases how with same | step | ⟨i, t, t', -, found, other, moves⟩
  · rw [same]
    exact .inl (D.refl c.db)
  · exact .inr step
  · exact .inl (moved i t t' found other moves)

/-- Every run that keeps the discipline is orderly. -/
theorem Reaches.orderly
    (handlers : ∀ request, D.mine request → ∀ s, D.rest s → pre request s →
      (handler request).Serves D (fun _ t => D.rest t) id s)
    (others : ∀ request, ¬ D.mine request → (handler request).Writes fun f => ∀ s, D.env s (f s))
    {db : σ} {c : Config ι σ κ ε} (start : D.rest db)
    (run : Reaches handler (D.Allows pre) (Config.idle db) c) : D.Orderly c := by
  refine run.invariant D.Orderly ?_ ?_
  · exact ⟨Discipline.watched_idle start, by simp [Config.idle]⟩
  · exact fun c e c' orderly allowed applied =>
      (orderly.apply handlers others allowed applied).1

end Runs

end ReadCommitted
