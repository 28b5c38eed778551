import OlNode.ReadCommitted.Interleaving

/-!
# Runs in which no commit acts on stale reads

A handler that validates on a read made before its transaction, or on an unlocked row, may commit
writes that the state it commits into no longer justifies. A commit is *fresh* when the handler,
had it started its current transaction (with the reads before it) right there, would have made
exactly the same change and gone on in the same way. `Good` is the per-handler condition under
which an invariant of single calls survives every interleaving whose commits are all fresh.
-/
namespace ReadCommitted

variable {ι σ κ ε α β : Type}

namespace Prog

/-- The part of a handler up to and including its next commit, run without interruption: the
state it commits and the rest of the handler. -/
def segment : Prog σ κ ε α → σ → Option (σ × Prog σ κ ε α)
  | .done _, _ => none
  | .fail _, _ => none
  | .read next, v => (next v).segment v
  | .lock _ next, v => next.segment v
  | .write _ f next, v => next.segment (f v)
  | .commit next, v => some (v, next)
  | .rollback _, _ => none

/-- Where the handler may go on after its current transaction is rolled back, whatever it has
read until then. -/
def RollsBackTo : Prog σ κ ε α → Prog σ κ ε α → Prop
  | .done _, _ => False
  | .fail _, _ => False
  | .read next, k => ∃ s, (next s).RollsBackTo k
  | .lock _ next, k => next.RollsBackTo k
  | .write _ _ next, k => next.RollsBackTo k
  | .commit _, _ => False
  | .rollback next, k => next = k

theorem segment_run (body : Tx σ κ ε α) (ok : α → Prog σ κ ε β)
    (caught : ε → Prog σ κ ε β) (s : σ) :
    (body.run ok caught).segment s =
      match body.eval s with
      | .ok r => some (r.2, ok r.1)
      | .error _ => none := by
  induction body generalizing s with
  | done value => rfl
  | fail error => rfl
  | read next ih => exact ih s s
  | lock row next ih => exact ih s
  | write row f next ih => exact ih (f s)

theorem segment_select_bind (q : σ → α) (k : α → Prog σ κ ε β) (s : σ) :
    (select q >>= k).segment s = (k (q s)).segment s := rfl

theorem segment_ensure_bind (condition : Bool) (error : ε) (k : Unit → Prog σ κ ε α) (s : σ) :
    (ensure condition error >>= k).segment s = if condition then (k ()).segment s else none := by
  cases condition <;> rfl

theorem segment_autocommit_bind (row : κ) (f : σ → σ) (k : Unit → Prog σ κ ε α) (s : σ) :
    (autocommit row f >>= k).segment s = some (f s, k ()) := rfl

theorem segment_transaction_bind (body : Tx σ κ ε α) (k : α → Prog σ κ ε β) (s : σ) :
    (transaction body >>= k).segment s =
      match body.eval s with
      | .ok r => some (r.2, k r.1)
      | .error _ => none := by
  rw [transaction_bind, segment_run]

theorem rollsBackTo_run {body : Tx σ κ ε α} {ok : α → Prog σ κ ε β}
    {caught : ε → Prog σ κ ε β} {k : Prog σ κ ε β}
    (rolled : (body.run ok caught).RollsBackTo k) : ∃ error, k = caught error := by
  induction body with
  | done value => exact rolled.elim
  | fail error => exact ⟨error, rolled.symm⟩
  | read next ih =>
    obtain ⟨s, rolled⟩ := rolled
    exact ih s rolled
  | lock row next ih => exact ih rolled
  | write row f next ih => exact ih rolled

end Prog

/-- The commit that thread `i` is about to make, if it is, rests on nothing stale. -/
def FreshCommit (c : Config ι σ κ ε) (i : Nat) : Prop :=
  ∀ t ∈ c.threads[i]?, ∀ next, t.prog = .commit next →
    t.origin.segment c.db = some (t.view c.db, next)

/-- The handler `p`, whose last transaction left the state `base`, keeps `Inv` and only moves
along `Grows`, whatever the others have done (along `Grows`) since, as long as its commits happen
in states that satisfy `may`. -/
inductive Good (may Inv : σ → Prop) (Grows : σ → σ → Prop) : σ → Prog σ κ ε Unit → Prop where
  | intro {base : σ} {p : Prog σ κ ε Unit}
      (keeps : ∀ s s' k, may s → Inv s → Grows base s → p.segment s = some (s', k) → Inv s')
      (grows : ∀ s s' k, may s → Inv s → Grows base s → p.segment s = some (s', k) → Grows s s')
      (goesOn : ∀ s s' k, may s → Inv s → Grows base s → p.segment s = some (s', k) →
        Good may Inv Grows s' k)
      (rollsBack : ∀ k, p.RollsBackTo k → Good may Inv Grows base k) :
      Good may Inv Grows base p

section Good

variable {may Inv : σ → Prop} {Grows : σ → σ → Prop} {base : σ} {p : Prog σ κ ε Unit}

theorem Good.of_commits
    (commits : ∀ s s' k, may s → Inv s → Grows base s → p.segment s = some (s', k) →
      Inv s' ∧ Grows s s' ∧ Good may Inv Grows s' k)
    (rollsBack : ∀ k, p.RollsBackTo k → Good may Inv Grows base k) :
    Good may Inv Grows base p :=
  .intro (fun s s' k allowed inv since ran => (commits s s' k allowed inv since ran).1)
    (fun s s' k allowed inv since ran => (commits s s' k allowed inv since ran).2.1)
    (fun s s' k allowed inv since ran => (commits s s' k allowed inv since ran).2.2)
    rollsBack

theorem Good.commits (good : Good may Inv Grows base p) {s s' : σ} {k : Prog σ κ ε Unit}
    (allowed : may s) (inv : Inv s) (since : Grows base s) (ran : p.segment s = some (s', k)) :
    Inv s' ∧ Grows s s' ∧ Good may Inv Grows s' k := by
  obtain ⟨keeps, grows, goesOn, -⟩ := good
  exact ⟨keeps s s' k allowed inv since ran, grows s s' k allowed inv since ran,
    goesOn s s' k allowed inv since ran⟩

theorem Good.rollsBack {p k : Prog σ κ ε Unit} (good : Good may Inv Grows base p)
    (rolled : p.RollsBackTo k) : Good may Inv Grows base k := by
  obtain ⟨-, -, -, rollsBack⟩ := good
  exact rollsBack k rolled

theorem Good.done (base : σ) (value : Unit) :
    Good may Inv Grows base (.done value : Prog σ κ ε Unit) :=
  .of_commits (fun _ _ _ _ _ _ ran => by simp [Prog.segment] at ran) (fun _ rolled => rolled.elim)

theorem Good.fail (base : σ) (error : ε) :
    Good may Inv Grows base (.fail error : Prog σ κ ε Unit) :=
  .of_commits (fun _ _ _ _ _ _ ran => by simp [Prog.segment] at ran) (fun _ rolled => rolled.elim)

variable {body : Tx σ κ ε α}

/-- A transaction: its body keeps the invariant, and what follows is good from there on. -/
theorem Good.run {next : α → Prog σ κ ε Unit} {caught : ε → Prog σ κ ε Unit}
    (keeps : ∀ s a s', may s → Inv s → Grows base s → body.eval s = .ok (a, s') →
      Inv s' ∧ Grows s s' ∧ Good may Inv Grows s' (next a))
    (onError : ∀ error, Good may Inv Grows base (caught error)) :
    Good may Inv Grows base (body.run next caught) := by
  refine .of_commits ?_ ?_
  · intro s s' k allowed inv since ran
    rw [Prog.segment_run] at ran
    cases result : body.eval s with
    | error error => simp [result] at ran
    | ok r =>
      obtain ⟨a, after⟩ := r
      simp only [result, Option.some.injEq, Prod.mk.injEq] at ran
      obtain ⟨rfl, rfl⟩ := ran
      exact keeps s a after allowed inv since result
  · intro k rolled
    obtain ⟨error, rfl⟩ := Prog.rollsBackTo_run rolled
    exact onError error

/-! ### Rules for handlers -/

/-- What `Good` asks of the commit the program makes when it runs in `s` without interruption. -/
def CommitsAt (may Inv : σ → Prop) (Grows : σ → σ → Prop) (s : σ) (p : Prog σ κ ε Unit) : Prop :=
  ∀ s' k, p.segment s = some (s', k) → Inv s' ∧ Grows s s' ∧ Good may Inv Grows s' k

/-- What `Good` asks of the ways the program can go on after a rollback. -/
def RollsTo (may Inv : σ → Prop) (Grows : σ → σ → Prop) (base : σ) (p : Prog σ κ ε Unit) : Prop :=
  ∀ k, p.RollsBackTo k → Good may Inv Grows base k

theorem Good.of_commitsAt
    (commits : ∀ s, may s → Inv s → Grows base s → CommitsAt may Inv Grows s p)
    (rollsBack : RollsTo may Inv Grows base p) : Good may Inv Grows base p :=
  .of_commits (fun s s' k allowed inv since ran => commits s allowed inv since s' k ran) rollsBack

theorem Good.commitsAt {base s : σ} (good : Good may Inv Grows base p) (allowed : may s)
    (inv : Inv s) (since : Grows base s) : CommitsAt may Inv Grows s p :=
  fun _ _ ran => good.commits allowed inv since ran

theorem Good.rollsTo (good : Good may Inv Grows base p) :
    RollsTo may Inv Grows base p :=
  fun _ rolled => good.rollsBack rolled

theorem CommitsAt.done (s : σ) (value : Unit) :
    CommitsAt may Inv Grows s (pure value : Prog σ κ ε Unit) :=
  fun _ _ ran => by cases ran

theorem CommitsAt.fail (s : σ) (error : ε) :
    CommitsAt may Inv Grows s (.fail error : Prog σ κ ε Unit) :=
  fun _ _ ran => by cases ran

variable {k : α → Prog σ κ ε Unit}

theorem CommitsAt.select {s : σ} {q : σ → α} (rest : CommitsAt may Inv Grows s (k (q s))) :
    CommitsAt may Inv Grows s (Prog.select q >>= k) := rest

theorem CommitsAt.ensure {s : σ} {condition : Bool} {error : ε} {k : Unit → Prog σ κ ε Unit}
    (rest : condition = true → CommitsAt may Inv Grows s (k ())) :
    CommitsAt may Inv Grows s (Prog.ensure condition error >>= k) := by
  cases condition with
  | false => exact .fail s error
  | true => exact rest rfl

theorem CommitsAt.transaction {s : σ}
    (rest : ∀ a s', body.eval s = .ok (a, s') → Inv s' ∧ Grows s s' ∧ Good may Inv Grows s' (k a)) :
    CommitsAt may Inv Grows s (Prog.transaction body >>= k) := by
  intro s' next ran
  rw [Prog.transaction_bind, Prog.segment_run] at ran
  cases result : body.eval s with
  | error error => simp [result] at ran
  | ok r =>
    simp only [result, Option.some.injEq, Prod.mk.injEq] at ran
    obtain ⟨rfl, rfl⟩ := ran
    exact rest r.1 r.2 result

theorem RollsTo.done (base : σ) (value : Unit) :
    RollsTo may Inv Grows base (pure value : Prog σ κ ε Unit) :=
  fun _ rolled => rolled.elim

theorem RollsTo.fail (base : σ) (error : ε) :
    RollsTo may Inv Grows base (.fail error : Prog σ κ ε Unit) :=
  fun _ rolled => rolled.elim

theorem RollsTo.select {q : σ → α} (rest : ∀ a, RollsTo may Inv Grows base (k a)) :
    RollsTo may Inv Grows base (Prog.select q >>= k) := by
  rintro next ⟨s, rolled⟩
  exact rest (q s) next rolled

theorem RollsTo.ensure {condition : Bool} {error : ε} {k : Unit → Prog σ κ ε Unit}
    (rest : RollsTo may Inv Grows base (k ())) :
    RollsTo may Inv Grows base (Prog.ensure condition error >>= k) := by
  cases condition with
  | false => exact .fail base error
  | true => exact rest

theorem RollsTo.transaction :
    RollsTo may Inv Grows base (Prog.transaction body >>= k) := by
  intro next rolled
  rw [Prog.transaction_bind] at rolled
  obtain ⟨error, rfl⟩ := Prog.rollsBackTo_run rolled
  exact .fail base error

/-- A transaction at the start of what is left of a handler. -/
theorem Good.transaction
    (rest : ∀ s a s', may s → Inv s → Grows base s → body.eval s = .ok (a, s') →
      Inv s' ∧ Grows s s' ∧ Good may Inv Grows s' (k a)) :
    Good may Inv Grows base (Prog.transaction body >>= k) :=
  .of_commitsAt (fun s allowed inv since => .transaction fun a s' => rest s a s' allowed inv since)
    .transaction

/-- A transaction that ends the handler is one that is followed by nothing. -/
theorem Prog.transaction_eq_bind (body : Tx σ κ ε Unit) :
    Prog.transaction body = Prog.transaction body >>= pure := by
  rw [Prog.transaction_bind]
  rfl

private theorem exec_of_good (always : ∀ s, may s) (refl : ∀ s, Grows s s)
    (trans : ∀ s t u, Grows s t → Grows t u → Grows s u) (p : Prog σ κ ε Unit) (s v : σ)
    (inv : Inv s)
    (commits : ∀ s' k, p.segment v = some (s', k) →
      Inv s' ∧ Grows s s' ∧ Good may Inv Grows s' k)
    (rollsBack : ∀ k, p.RollsBackTo k → Good may Inv Grows s k) :
    Inv (p.exec s v).2 ∧ Grows s (p.exec s v).2 := by
  induction p generalizing s v with
  | done value => exact ⟨inv, refl s⟩
  | fail error => exact ⟨inv, refl s⟩
  | read next ih =>
    exact ih v s v inv commits (fun k rolled => rollsBack k ⟨v, rolled⟩)
  | lock row next ih => exact ih s v inv commits rollsBack
  | write row f next ih => exact ih s (f v) inv commits rollsBack
  | commit next ih =>
    obtain ⟨invAfter, grew, good⟩ := commits v next rfl
    obtain ⟨kept, grewOn⟩ := ih v v invAfter
      (fun s' k ran => good.commits (always v) invAfter (refl v) ran)
      (fun k rolled => good.rollsBack rolled)
    exact ⟨kept, trans _ _ _ grew grewOn⟩
  | rollback next ih =>
    have good := rollsBack next rfl
    exact ih s s inv (fun s' k ran => good.commits (always s) inv (refl s) ran)
      (fun k rolled => good.rollsBack rolled)

/-- Without interleaving: a good handler keeps the invariant. -/
theorem Good.call (good : Good may Inv Grows base p) (always : ∀ s, may s) (refl : ∀ s, Grows s s)
    (trans : ∀ s t u, Grows s t → Grows t u → Grows s u) (inv : Inv base) :
    Inv (p.call base).2 ∧ Grows base (p.call base).2 :=
  exec_of_good always refl trans p base base inv
    (fun _ _ ran => good.commits (always base) inv (refl base) ran)
    (fun _ rolled => good.rollsBack rolled)

end Good

/-! ### Fresh runs -/

section FreshRuns

variable {may : ι → σ → Prop} {Inv : σ → Prop} {Grows : σ → σ → Prop}

/-- Every commit is fresh and happens in a state its request may commit in. -/
def FreshEvent (may : ι → σ → Prop) (c : Config ι σ κ ε) : Event ι → Prop
  | .advance i => FreshCommit c i ∧
      ∀ t ∈ c.threads[i]?, ∀ next, t.prog = .commit next → may t.request c.db
  | _ => True

/-- A thread whose transaction began as a good program and has not left it. -/
def GoodThread (may : ι → σ → Prop) (Inv : σ → Prop) (Grows : σ → σ → Prop) (db : σ)
    (t : Thread ι σ κ ε) : Prop :=
  ∃ base, Grows base db ∧ Good (may t.request) Inv Grows base t.origin ∧
    ∀ k, t.prog.RollsBackTo k → t.origin.RollsBackTo k

variable {t : Thread ι σ κ ε}

private theorem GoodThread.mono (trans : ∀ s t u, Grows s t → Grows t u → Grows s u) {db db' : σ}
    (grew : Grows db db') (good : GoodThread may Inv Grows db t) :
    GoodThread may Inv Grows db' t := by
  obtain ⟨base, since, good, rollbacks⟩ := good
  exact ⟨base, trans _ _ _ since grew, good, rollbacks⟩

private theorem GoodThread.resume {db : σ} (refl : ∀ s, Grows s s) {next : Prog σ κ ε Unit}
    (good : Good (may t.request) Inv Grows db next) :
    GoodThread may Inv Grows db (t.resume next) :=
  ⟨db, refl db, good, fun _ rolled => rolled⟩

/-- All threads are good and the invariant holds; the state has only grown since `start`. -/
structure GoodConfig (may : ι → σ → Prop) (Inv : σ → Prop) (Grows : σ → σ → Prop) (start : σ)
    (c : Config ι σ κ ε) : Prop where
  inv : Inv c.db
  grew : Grows start c.db
  threads : ∀ t ∈ c.threads, GoodThread may Inv Grows c.db t

private theorem set_threads {c : Config ι σ κ ε} {i : Nat} {db : σ}
    (others : ∀ u ∈ c.threads, GoodThread may Inv Grows db u)
    (this : GoodThread may Inv Grows db t) :
    ∀ u ∈ c.threads.set i t, GoodThread may Inv Grows db u := by
  intro u member
  rcases List.mem_or_eq_of_mem_set member with old | rfl
  · exact others u old
  · exact this

variable [DecidableEq κ] {c c' : Config ι σ κ ε} (refl : ∀ s, Grows s s)
  (trans : ∀ s t u, Grows s t → Grows t u → Grows s u)
include refl trans

private theorem step_keeps_good {start : σ} {i : Nat} (good : GoodConfig may Inv Grows start c)
    (found : c.threads[i]? = some t)
    (fresh : ∀ next, t.prog = .commit next →
      t.origin.segment c.db = some (t.view c.db, next) ∧ may t.request c.db)
    (stepped : c.stepThread i t = some c') : GoodConfig may Inv Grows start c' := by
  obtain ⟨base, since, goodOrigin, rollbacks⟩ := good.threads t (List.mem_of_getElem? found)
  obtain ⟨t', moves, threads⟩ := Config.stepThread_moves stepped
  suffices Inv c'.db ∧ Grows start c'.db ∧
      ∀ u ∈ c.threads.set i t', GoodThread may Inv Grows c'.db u from
    ⟨this.1, this.2.1, threads ▸ this.2.2⟩
  generalize c'.db = db' at moves ⊢
  cases moves with
  | read progIs =>
    refine ⟨good.inv, good.grew, set_threads good.threads ⟨base, since, goodOrigin, ?_⟩⟩
    intro k rolled
    exact rollbacks k (by rw [progIs]; exact ⟨_, rolled⟩)
  | lock progIs | write progIs =>
    refine ⟨good.inv, good.grew, set_threads good.threads ⟨base, since, goodOrigin, ?_⟩⟩
    intro k rolled
    exact rollbacks k (by rw [progIs]; exact rolled)
  | commit progIs =>
    obtain ⟨ran, allowed⟩ := fresh _ progIs
    obtain ⟨inv, grew, goodNext⟩ := goodOrigin.commits allowed good.inv since ran
    refine ⟨inv, trans _ _ _ good.grew grew, set_threads ?_ (.resume refl goodNext)⟩
    exact fun u member => (good.threads u member).mono trans grew
  | rollback progIs =>
    have goodNext := goodOrigin.rollsBack (rollbacks _ (by rw [progIs]; rfl))
    refine ⟨good.inv, good.grew, set_threads good.threads ?_⟩
    exact ⟨base, since, goodNext, fun _ rolled => rolled⟩

variable {handler : ι → Prog σ κ ε Unit}
  (handlers : ∀ request base, Good (may request) Inv Grows base (handler request))
include handlers

private theorem apply_keeps_good {start : σ} {e : Event ι} (good : GoodConfig may Inv Grows start c)
    (fresh : FreshEvent may c e) (applied : c.apply handler e = some c') :
    GoodConfig may Inv Grows start c' := by
  cases e with
  | start request =>
    simp only [Config.apply, Option.some.injEq] at applied
    subst applied
    refine ⟨good.inv, good.grew, ?_⟩
    intro u member
    rcases List.mem_append.mp member with old | new
    · exact good.threads u old
    · rw [List.mem_singleton] at new
      subst new
      exact ⟨c.db, refl c.db, handlers request c.db, fun _ rolled => rolled⟩
  | advance i =>
    obtain ⟨t, found, stepped⟩ := Option.bind_eq_some_iff.mp applied
    refine step_keeps_good refl trans good found ?_ stepped
    exact fun next progIs => ⟨fresh.1 t found next progIs, fresh.2 t found next progIs⟩
  | crash i =>
    obtain ⟨t, found, rfl⟩ := Option.map_eq_some_iff.mp applied
    exact ⟨good.inv, good.grew, set_threads good.threads (.resume refl (.done _ _))⟩

private theorem goodConfig_of_run {start : σ} (good : GoodConfig may Inv Grows start c)
    (run : Reaches handler (FreshEvent may) c c') : GoodConfig may Inv Grows start c' :=
  run.invariant (GoodConfig may Inv Grows start) good
    (fun _ _ _ good fresh applied => apply_keeps_good refl trans handlers good fresh applied)

/-- In every run whose commits are all fresh, good handlers keep the invariant, and between any
two points of the run the state only grows. -/
theorem fresh_run {db : σ} (inv : Inv db) (run : Reaches handler (FreshEvent may) (.idle db) c)
    (more : Reaches handler (FreshEvent may) c c') : Inv c'.db ∧ Grows c.db c'.db := by
  have quiet : GoodConfig may Inv Grows db (.idle db : Config ι σ κ ε) :=
    ⟨inv, refl db, fun _ member => by simp [Config.idle] at member⟩
  have good := goodConfig_of_run refl trans handlers quiet run
  have later : GoodConfig may Inv Grows c.db c' :=
    goodConfig_of_run refl trans handlers ⟨good.inv, refl c.db, good.threads⟩ more
  exact ⟨later.inv, later.grew⟩

end FreshRuns

/-! ### Requests served one at a time -/

section Alone

variable {i : Nat}

private theorem locks_release {c : Config ι σ κ ε}
    (mine : ∀ row, c.locks row = none ∨ c.locks row = some i) :
    ∀ row, (c.release i).locks row = none := by
  intro row
  rcases mine row with free | held
  · simp [Config.release, free]
  · simp [Config.release, held]

private theorem getElem?_set_of_found {l : List α} {a b : α} (found : l[i]? = some a) :
    (l.set i b)[i]? = some b := by
  rw [List.getElem?_set_self]
  exact (List.getElem?_eq_some_iff.mp found).1

variable {may : ι → σ → Prop} [DecidableEq κ] {handler : ι → Prog σ κ ε Unit}

/-- Thread `t` is thread `i`, nobody else holds a lock, and `t` has run from its origin without
interruption. -/
structure Alone (c : Config ι σ κ ε) (i : Nat) (t : Thread ι σ κ ε) : Prop where
  found : c.threads[i]? = some t
  locks : ∀ row, c.locks row = none ∨ c.locks row = some i
  fresh : t.origin.segment c.db = t.prog.segment (t.view c.db)

private theorem Alone.step {c c' : Config ι σ κ ε} {t : Thread ι σ κ ε} (alone : Alone c i t)
    (always : ∀ s, may t.request s) (stepped : c.stepThread i t = some c') :
    Reaches handler (FreshEvent may) c c' := by
  have applied : c.apply handler (.advance i) = some c' := by
    simp [Config.apply, alone.found, stepped]
  refine .step .refl (e := .advance i) ⟨?_, ?_⟩ applied
  · intro u found next progIs
    cases alone.found.symm.trans found
    rw [alone.fresh, progIs]
    rfl
  · intro u found _ _
    cases alone.found.symm.trans found
    exact always _

private theorem Alone.acquire {c : Config ι σ κ ε} {t : Thread ι σ κ ε} (alone : Alone c i t)
    (row : κ) :
    c.acquire row i = some { c with locks := Function.update c.locks row (some i) } := by
  rw [Config.acquire, if_pos (alone.locks row)]

private theorem locks_update {locks : κ → Option Nat} (row : κ)
    (mine : ∀ row, locks row = none ∨ locks row = some i) :
    ∀ other, Function.update locks row (some i) other = none ∨
      Function.update locks row (some i) other = some i := by
  intro other
  by_cases same : other = row
  · subst same
    exact .inr (by simp)
  · rw [Function.update_of_ne same]
    exact mine other

private theorem run_alone (p : Prog σ κ ε Unit) (c : Config ι σ κ ε) (i : Nat)
    (t : Thread ι σ κ ε) (progIs : t.prog = p) (alone : Alone c i t)
    (always : ∀ s, may t.request s) :
    ∃ c' t', Reaches handler (FreshEvent may) c c' ∧ c'.db = (p.exec c.db (t.view c.db)).2 ∧
      c'.threads[i]? = some t' ∧ ∀ row, c'.locks row = none ∨ c'.locks row = some i := by
  induction p generalizing c t with
  | done value => exact ⟨c, t, .refl, rfl, alone.found, alone.locks⟩
  | fail error => exact ⟨c, t, .refl, rfl, alone.found, alone.locks⟩
  | read next ih =>
    let t₁ : Thread ι σ κ ε := { t with prog := next (t.view c.db) }
    have stepped : c.stepThread i t = some (c.setThread i t₁) := by
      simp [Config.stepThread, progIs, t₁]
    have alone₁ : Alone (c.setThread i t₁) i t₁ := by
      refine ⟨getElem?_set_of_found alone.found, alone.locks, ?_⟩
      change t.origin.segment c.db = _
      rw [alone.fresh, progIs]
      rfl
    obtain ⟨c', t', after, rest⟩ := ih _ _ t₁ rfl alone₁ always
    exact ⟨c', t', (alone.step always stepped).trans after, rest⟩
  | lock row next ih =>
    let t₁ : Thread ι σ κ ε := { t with prog := next }
    let c₁ : Config ι σ κ ε := { c with locks := Function.update c.locks row (some i) }
    have stepped : c.stepThread i t = some (c₁.setThread i t₁) := by
      simp [Config.stepThread, progIs, alone.acquire row, c₁, t₁]
    have alone₁ : Alone (c₁.setThread i t₁) i t₁ := by
      refine ⟨getElem?_set_of_found alone.found, locks_update row alone.locks, ?_⟩
      change t.origin.segment c.db = _
      rw [alone.fresh, progIs]
      rfl
    obtain ⟨c', t', after, rest⟩ := ih _ t₁ rfl alone₁ always
    exact ⟨c', t', (alone.step always stepped).trans after, rest⟩
  | write row f next ih =>
    let t₁ : Thread ι σ κ ε := { t with prog := next, pending := t.pending ++ [f] }
    let c₁ : Config ι σ κ ε := { c with locks := Function.update c.locks row (some i) }
    have view : t₁.view c.db = f (t.view c.db) := by
      simp [Thread.view, t₁]
    have stepped : c.stepThread i t = some (c₁.setThread i t₁) := by
      simp [Config.stepThread, progIs, alone.acquire row, c₁, t₁]
    have alone₁ : Alone (c₁.setThread i t₁) i t₁ := by
      refine ⟨getElem?_set_of_found alone.found, locks_update row alone.locks, ?_⟩
      change t.origin.segment c.db = next.segment (t₁.view c.db)
      rw [alone.fresh, progIs, view]
      rfl
    obtain ⟨c', t', after, result, rest⟩ := ih _ t₁ rfl alone₁ always
    refine ⟨c', t', (alone.step always stepped).trans after, ?_, rest⟩
    rw [result]
    change (next.exec c.db (t₁.view c.db)).2 = _
    rw [view]
    rfl
  | commit next ih =>
    let c₁ : Config ι σ κ ε := { c with db := t.view c.db }.release i
    have stepped : c.stepThread i t = some (c₁.setThread i (t.resume next)) := by
      simp [Config.stepThread, progIs, c₁]
    have alone₁ : Alone (c₁.setThread i (t.resume next)) i (t.resume next) :=
      ⟨getElem?_set_of_found alone.found, fun row => .inl (locks_release alone.locks row), rfl⟩
    obtain ⟨c', t', after, rest⟩ := ih _ (t.resume next) rfl alone₁ always
    exact ⟨c', t', (alone.step always stepped).trans after, rest⟩
  | rollback next ih =>
    have stepped : c.stepThread i t = some ((c.release i).setThread i (t.resume next)) := by
      simp [Config.stepThread, progIs]
    have alone₁ : Alone ((c.release i).setThread i (t.resume next)) i (t.resume next) :=
      ⟨getElem?_set_of_found alone.found, fun row => .inl (locks_release alone.locks row), rfl⟩
    obtain ⟨c', t', after, rest⟩ := ih _ (t.resume next) rfl alone₁ always
    exact ⟨c', t', (alone.step always stepped).trans after, rest⟩

/-- A request served while nothing else holds a lock: its run is fresh and has the effect of the
call. -/
theorem reaches_call (may : ι → σ → Prop) (handler : ι → Prog σ κ ε Unit) (request : ι)
    (c : Config ι σ κ ε) (idle : ∀ row, c.locks row = none)
    (always : ∀ s, may request s) :
    ∃ c', Reaches handler (FreshEvent may) c c' ∧ c'.db = ((handler request).call c.db).2 ∧
      ∀ row, c'.locks row = none := by
  let t : Thread ι σ κ ε := ⟨request, handler request, handler request, []⟩
  let c₁ : Config ι σ κ ε := { c with threads := c.threads ++ [t] }
  have started : Reaches handler (FreshEvent may) c c₁ :=
    .step .refl (e := .start request) trivial rfl
  have alone : Alone c₁ c.threads.length t :=
    ⟨by simp [c₁], fun row => .inl (idle row), rfl⟩
  obtain ⟨c₂, t', ran, result, found, locks⟩ := run_alone _ c₁ _ t rfl alone always
  -- The finished thread goes away and leaves no lock behind.
  have gone : c₂.apply handler (.crash c.threads.length) =
      some ((c₂.release c.threads.length).setThread c.threads.length (t'.resume (.done ()))) := by
    rw [Config.apply, found]
    rfl
  exact ⟨_, (started.trans ran).step (e := .crash _) trivial gone, result, locks_release locks⟩

end Alone

end ReadCommitted
