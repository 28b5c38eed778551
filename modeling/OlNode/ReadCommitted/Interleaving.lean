import OlNode.ReadCommitted.Program

/-!
# Interleaved handlers

Any number of handlers run at once, one statement at a time and in any order. Each thread keeps
the writes of its open transaction to itself until it commits. A statement that needs a row lock
another thread holds cannot run; the scheduler picks another thread. Besides the handlers' own
steps there are two events: a new request arrives, and the process of a thread dies.
-/
namespace ReadCommitted

variable {ι σ κ ε α : Type}

/-- The handler with its result dropped: what the database sees of it. -/
def Prog.forget (p : Prog σ κ ε α) : Prog σ κ ε Unit := p.bind fun _ => .done ()

theorem Prog.forget_bind {β : Type} (p : Prog σ κ ε β) (k : β → Prog σ κ ε α) :
    (p >>= k).forget = p >>= fun b => (k b).forget :=
  Prog.bind_assoc p k fun _ => .done ()

def Prog.returned : Prog σ κ ε α → Bool
  | .done _ => true
  | _ => false

def Prog.finished : Prog σ κ ε α → Bool
  | .done _ => true
  | .fail _ => true
  | _ => false

/-- A running handler. `request` is what it was started for, `origin` the program as it stood
when its current transaction (with the reads made before it) began, `pending` the uncommitted
writes, oldest first. -/
structure Thread (ι σ κ ε : Type) where
  request : ι
  origin : Prog σ κ ε Unit
  prog : Prog σ κ ε Unit
  pending : List (σ → σ)

/-- What a transaction sees at Read Committed: the committed state and its own writes. -/
def Thread.view (t : Thread ι σ κ ε) (db : σ) : σ :=
  t.pending.foldl (fun s write => write s) db

/-- The thread after its transaction has ended. -/
def Thread.resume (t : Thread ι σ κ ε) (next : Prog σ κ ε Unit) : Thread ι σ κ ε :=
  { t with origin := next, prog := next, pending := [] }

structure Config (ι σ κ ε : Type) where
  db : σ
  locks : κ → Option Nat
  threads : List (Thread ι σ κ ε)

inductive Event (ι : Type) where
  | start (request : ι)
  | advance (thread : Nat)
  | crash (thread : Nat)

namespace Config

def idle (db : σ) : Config ι σ κ ε := { db, locks := fun _ => none, threads := [] }

def setThread (c : Config ι σ κ ε) (i : Nat) (t : Thread ι σ κ ε) : Config ι σ κ ε :=
  { c with threads := c.threads.set i t }

def release (c : Config ι σ κ ε) (i : Nat) : Config ι σ κ ε :=
  { c with locks := fun row => if c.locks row = some i then none else c.locks row }

variable [DecidableEq κ]

/-- Take a row lock that is free or already held by the same thread. -/
def acquire (c : Config ι σ κ ε) (row : κ) (i : Nat) : Option (Config ι σ κ ε) :=
  if c.locks row = none ∨ c.locks row = some i then
    some { c with locks := Function.update c.locks row (some i) }
  else none

/-- The next statement of thread `t`, which is thread `i`. -/
def stepThread (c : Config ι σ κ ε) (i : Nat) (t : Thread ι σ κ ε) : Option (Config ι σ κ ε) :=
  match t.prog with
  | .done _ => none
  | .fail _ => none
  | .read next => some (c.setThread i { t with prog := next (t.view c.db) })
  | .lock row next => (c.acquire row i).map fun c' => c'.setThread i { t with prog := next }
  | .write row f next =>
    (c.acquire row i).map fun c' =>
      c'.setThread i { t with prog := next, pending := t.pending ++ [f] }
  | .commit next =>
    some (({ c with db := t.view c.db }.release i).setThread i (t.resume next))
  | .rollback next => some ((c.release i).setThread i (t.resume next))

def apply (handler : ι → Prog σ κ ε Unit) (c : Config ι σ κ ε) :
    Event ι → Option (Config ι σ κ ε)
  | .start request =>
    some { c with threads := c.threads ++ [⟨request, handler request, handler request, []⟩] }
  | .advance i => (c.threads[i]?).bind (c.stepThread i)
  | .crash i => (c.threads[i]?).map fun t => (c.release i).setThread i (t.resume (.done ()))

def runEvents (handler : ι → Prog σ κ ε Unit) (c : Config ι σ κ ε) :
    List (Event ι) → Option (Config ι σ κ ε)
  | [] => some c
  | e :: events => (c.apply handler e).bind fun c' => c'.runEvents handler events

end Config

/-! ### What a step can do, apart from the locks -/

/-- Thread `t` becomes `t'` and the committed state `db` becomes `db'`. -/
inductive Thread.Moves (db : σ) (t : Thread ι σ κ ε) : Thread ι σ κ ε → σ → Prop where
  | read {next : σ → Prog σ κ ε Unit} (progIs : t.prog = .read next) :
      Moves db t { t with prog := next (t.view db) } db
  | lock {row : κ} {next : Prog σ κ ε Unit} (progIs : t.prog = .lock row next) :
      Moves db t { t with prog := next } db
  | write {row : κ} {f : σ → σ} {next : Prog σ κ ε Unit} (progIs : t.prog = .write row f next) :
      Moves db t { t with prog := next, pending := t.pending ++ [f] } db
  | commit {next : Prog σ κ ε Unit} (progIs : t.prog = .commit next) :
      Moves db t (t.resume next) (t.view db)
  | rollback {next : Prog σ κ ε Unit} (progIs : t.prog = .rollback next) :
      Moves db t (t.resume next) db

theorem Thread.Moves.request {db db' : σ} {t t' : Thread ι σ κ ε} (moves : t.Moves db t' db') :
    t'.request = t.request := by
  cases moves <;> rfl

/-- A thread of the changed list is the new one or was there before. -/
theorem getElem?_set_some {α : Type} {l : List α} {i j : Nat} {a b : α}
    (found : (l.set i a)[j]? = some b) : (j = i ∧ b = a) ∨ (j ≠ i ∧ l[j]? = some b) := by
  rw [List.getElem?_set] at found
  split at found
  next same =>
    split at found
    · exact .inl ⟨same.symm, (Option.some.inj found).symm⟩
    · cases found
  next different => exact .inr ⟨fun same => different same.symm, found⟩

theorem getElem?_append_some {α : Type} {l : List α} {j : Nat} {a b : α}
    (found : (l ++ [a])[j]? = some b) : (j = l.length ∧ b = a) ∨ l[j]? = some b := by
  rw [List.getElem?_append] at found
  split at found
  · exact .inr found
  next last =>
    obtain ⟨inside, same⟩ := List.getElem?_eq_some_iff.mp found
    have zero : j - l.length = 0 := by simpa using inside
    simp only [zero, List.getElem_cons_zero] at same
    exact .inl ⟨by omega, same.symm⟩

theorem Thread.view_write (t : Thread ι σ κ ε) (next : Prog σ κ ε Unit) (f : σ → σ) :
    Thread.view { t with prog := next, pending := t.pending ++ [f] } = f ∘ t.view := by
  funext db
  simp [Thread.view]

variable [DecidableEq κ] {c c' : Config ι σ κ ε}

theorem Config.acquire_eq_some {row : κ} {i : Nat} (acquired : c.acquire row i = some c') :
    c' = { c with locks := Function.update c.locks row (some i) } := by
  unfold Config.acquire at acquired
  split at acquired
  · exact (Option.some.inj acquired).symm
  · cases acquired

theorem Config.stepThread_moves {i : Nat} {t : Thread ι σ κ ε}
    (stepped : c.stepThread i t = some c') :
    ∃ t', t.Moves c.db t' c'.db ∧ c'.threads = c.threads.set i t' := by
  unfold Config.stepThread at stepped
  cases progIs : t.prog with
  | done value => simp [progIs] at stepped
  | fail error => simp [progIs] at stepped
  | read next =>
    simp only [progIs, Option.some.injEq] at stepped
    subst stepped
    exact ⟨_, .read progIs, rfl⟩
  | lock row next =>
    simp only [progIs, Option.map_eq_some_iff] at stepped
    obtain ⟨locked, acquired, rfl⟩ := stepped
    rw [acquire_eq_some acquired]
    exact ⟨_, .lock progIs, rfl⟩
  | write row f next =>
    simp only [progIs, Option.map_eq_some_iff] at stepped
    obtain ⟨locked, acquired, rfl⟩ := stepped
    rw [acquire_eq_some acquired]
    exact ⟨_, .write progIs, rfl⟩
  | commit next =>
    simp only [progIs, Option.some.injEq] at stepped
    subst stepped
    exact ⟨_, .commit progIs, rfl⟩
  | rollback next =>
    simp only [progIs, Option.some.injEq] at stepped
    subst stepped
    exact ⟨_, .rollback progIs, rfl⟩

/-- What an event can do: a new thread at its start, a thread that moves, or one that dies. -/
theorem Config.apply_cases {handler : ι → Prog σ κ ε Unit} {e : Event ι}
    (applied : c.apply handler e = some c') :
    (∃ request, e = .start request ∧ c'.db = c.db ∧
      c'.threads = c.threads ++ [⟨request, handler request, handler request, []⟩]) ∨
    (∃ i t t', e = .advance i ∧ c.threads[i]? = some t ∧ t.Moves c.db t' c'.db ∧
      c'.threads = c.threads.set i t') ∨
    (∃ i t, e = .crash i ∧ c.threads[i]? = some t ∧ c'.db = c.db ∧
      c'.threads = c.threads.set i (t.resume (.done ()))) := by
  cases e with
  | start request =>
    simp only [Config.apply, Option.some.injEq] at applied
    subst applied
    exact .inl ⟨request, rfl, rfl, rfl⟩
  | advance i =>
    obtain ⟨t, found, stepped⟩ := Option.bind_eq_some_iff.mp applied
    obtain ⟨t', moves, threads⟩ := stepThread_moves stepped
    exact .inr (.inl ⟨i, t, t', rfl, found, moves, threads⟩)
  | crash i =>
    obtain ⟨t, found, rfl⟩ := Option.map_eq_some_iff.mp applied
    exact .inr (.inr ⟨i, t, rfl, found, rfl, rfl⟩)

/-- A property of single threads is kept by an event if the thread that starts, moves or dies in it
has the property. -/
theorem Config.forall_threads {handler : ι → Prog σ κ ε Unit} {e : Event ι}
    {T : Thread ι σ κ ε → Prop} (applied : c.apply handler e = some c')
    (old : ∀ t ∈ c.threads, T t)
    (new : ∀ request, e = .start request → T ⟨request, handler request, handler request, []⟩)
    (moved : ∀ t t', T t → t.Moves c.db t' c'.db → T t')
    (dead : ∀ t, T t → T (t.resume (.done ()))) : ∀ t ∈ c'.threads, T t := by
  intro u member
  rcases apply_cases applied with
    ⟨request, started, -, now⟩ | ⟨i, t, t', -, found, moves, now⟩ | ⟨i, t, -, found, -, now⟩
  · rw [now] at member
    rcases List.mem_append.mp member with before | last
    · exact old u before
    · rw [List.mem_singleton] at last
      exact last ▸ new request started
  · rw [now] at member
    rcases List.mem_or_eq_of_mem_set member with before | rfl
    · exact old u before
    · exact moved t u (old t (List.mem_of_getElem? found)) moves
  · rw [now] at member
    rcases List.mem_or_eq_of_mem_set member with before | rfl
    · exact old u before
    · exact dead t (old t (List.mem_of_getElem? found))

/-- A request that was started stays that of a thread. -/
theorem Config.requests_kept {handler : ι → Prog σ κ ε Unit} {e : Event ι}
    (applied : c.apply handler e = some c') {t : Thread ι σ κ ε} (member : t ∈ c.threads) :
    ∃ t' ∈ c'.threads, t'.request = t.request := by
  have after_set : ∀ {i u u'}, c.threads[i]? = some u → u'.request = u.request →
      ∃ t' ∈ c.threads.set i u', t'.request = t.request := by
    intro i u u' found same
    obtain ⟨j, inside, rfl⟩ := List.mem_iff_getElem.mp member
    refine ⟨_, List.getElem_mem (by simpa using inside), ?_⟩
    rw [List.getElem_set]
    split
    next here =>
      subst here
      rw [List.getElem?_eq_getElem inside, Option.some.injEq] at found
      rw [same, found]
    · rfl
  rcases apply_cases applied with
    ⟨request, -, -, now⟩ | ⟨i, u, u', -, found, moves, now⟩ | ⟨i, u, -, found, -, now⟩
  · exact ⟨t, now ▸ List.mem_append_left _ member, rfl⟩
  · exact now ▸ after_set found moves.request
  · exact now ▸ after_set found rfl

/-- `Reaches handler ok c c'`: some run whose every event satisfies `ok` in the configuration it
happens in leads from `c` to `c'`. -/
inductive Reaches (handler : ι → Prog σ κ ε Unit) (ok : Config ι σ κ ε → Event ι → Prop)
    (c : Config ι σ κ ε) : Config ι σ κ ε → Prop where
  | refl : Reaches handler ok c c
  | step {c' c'' : Config ι σ κ ε} {e : Event ι} (before : Reaches handler ok c c')
      (allowed : ok c' e) (applied : c'.apply handler e = some c'') : Reaches handler ok c c''

variable {handler : ι → Prog σ κ ε Unit} {ok : Config ι σ κ ε → Event ι → Prop}

theorem Reaches.head {c c' c'' : Config ι σ κ ε} {e : Event ι} (allowed : ok c e)
    (applied : c.apply handler e = some c') (after : Reaches handler ok c' c'') :
    Reaches handler ok c c'' := by
  induction after with
  | refl => exact .step .refl allowed applied
  | step _ allowed' applied' ih => exact .step ih allowed' applied'

theorem Reaches.trans {c c' c'' : Config ι σ κ ε} (first : Reaches handler ok c c')
    (second : Reaches handler ok c' c'') : Reaches handler ok c c'' := by
  induction second with
  | refl => exact first
  | step _ allowed applied ih => exact .step ih allowed applied

/-- A request that makes so many steps as thread `i`. -/
def serve (request : ι) (i steps : Nat) : List (Event ι) :=
  .start request :: List.replicate steps (.advance i)

theorem reaches_of_runEvents (events : List (Event ι)) (c c' : Config ι σ κ ε)
    (allowed : ∀ e ∈ events, ∀ c, ok c e) (ran : c.runEvents handler events = some c') :
    Reaches handler ok c c' := by
  induction events generalizing c with
  | nil =>
    cases ran
    exact .refl
  | cons e events ih =>
    obtain ⟨mid, applied, ran⟩ := Option.bind_eq_some_iff.mp ran
    refine .head (allowed e (by simp) c) applied (ih mid (fun e' member => ?_) ran)
    exact allowed e' (by simp [member])

/-- An executed list of events is a run to a configuration that passes the test. -/
theorem reaches_of_any (handler : ι → Prog σ κ ε Unit) (events : List (Event ι))
    (c : Config ι σ κ ε) (test : Config ι σ κ ε → Bool) (allowed : ∀ e ∈ events, ∀ c, ok c e)
    (passed : (c.runEvents handler events).any test = true) :
    ∃ c', Reaches handler ok c c' ∧ test c' = true := by
  cases ran : c.runEvents handler events with
  | none => simp [ran] at passed
  | some c' => exact ⟨c', reaches_of_runEvents events c c' allowed ran, by simpa [ran] using passed⟩

/-- Where every event is allowed, a list of events whose execution ends in `P` is a run to `P`. -/
theorem exists_reaches {handler : ι → Prog σ κ ε Unit} {c : Config ι σ κ ε}
    {P : Config ι σ κ ε → Prop} [DecidablePred P] (events : List (List (Event ι)))
    (passed : (c.runEvents handler events.flatten).any (fun c' => decide (P c')) = true) :
    ∃ c', Reaches handler (fun _ _ => True) c c' ∧ P c' := by
  obtain ⟨c', run, now⟩ := reaches_of_any handler events.flatten c (fun c' => decide (P c'))
    (fun _ _ _ => trivial) passed
  exact ⟨c', run, of_decide_eq_true now⟩

/-- Execute events that each pass a check in the configuration they happen in. -/
def Config.runChecked (handler : ι → Prog σ κ ε Unit) (check : Config ι σ κ ε → Event ι → Bool)
    (c : Config ι σ κ ε) : List (Event ι) → Option (Config ι σ κ ε)
  | [] => some c
  | e :: events =>
    if check c e then (c.apply handler e).bind fun c' => c'.runChecked handler check events
    else none

/-- A checked list of events is an allowed run to a configuration that passes the test. -/
theorem reaches_of_checked (handler : ι → Prog σ κ ε Unit)
    (check : Config ι σ κ ε → Event ι → Bool) (events : List (Event ι)) (c : Config ι σ κ ε)
    (test : Config ι σ κ ε → Bool) (sound : ∀ c e, check c e = true → ok c e)
    (passed : (c.runChecked handler check events).any test = true) :
    ∃ c', Reaches handler ok c c' ∧ test c' = true := by
  induction events generalizing c with
  | nil => exact ⟨c, .refl, by simpa [Config.runChecked] using passed⟩
  | cons e events ih =>
    rw [Config.runChecked] at passed
    split at passed
    next checked =>
      cases applied : c.apply handler e with
      | none => simp [applied] at passed
      | some mid =>
        rw [applied, Option.bind_some] at passed
        obtain ⟨c', run, tested⟩ := ih mid passed
        exact ⟨c', .head (sound c e checked) applied run, tested⟩
    next => simp at passed

theorem exists_reaches_checked {handler : ι → Prog σ κ ε Unit}
    {check : Config ι σ κ ε → Event ι → Bool} {c : Config ι σ κ ε} {P : Config ι σ κ ε → Prop}
    [DecidablePred P] (sound : ∀ c e, check c e = true → ok c e)
    (events : List (List (Event ι)))
    (passed : (c.runChecked handler check events.flatten).any (fun c' => decide (P c')) = true) :
    ∃ c', Reaches handler ok c c' ∧ P c' := by
  obtain ⟨c', run, now⟩ := reaches_of_checked handler check events.flatten c
    (fun c' => decide (P c')) sound passed
  exact ⟨c', run, of_decide_eq_true now⟩

/-- The invariant rule: what holds at first and is kept by every allowed event holds in every
configuration a run reaches. -/
theorem Reaches.invariant (Inv : Config ι σ κ ε → Prop) (run : Reaches handler ok c c')
    (base : Inv c) (kept : ∀ c e c', Inv c → ok c e → c.apply handler e = some c' → Inv c') :
    Inv c' := by
  induction run with
  | refl => exact base
  | step _ allowed applied ih => exact kept _ _ _ ih allowed applied

/-- The requests of a run are those it was allowed to start. -/
theorem Reaches.requests {P : ι → Prop} {db : σ} {c : Config ι σ κ ε}
    (run : Reaches handler ok (Config.idle db) c)
    (starts : ∀ c request, ok c (.start request) → P request) :
    ∀ t ∈ c.threads, P t.request := by
  refine run.invariant (fun c => ∀ t ∈ c.threads, P t.request) (by simp [Config.idle]) ?_
  intro before e after inv allowed applied
  refine Config.forall_threads applied inv ?_ ?_ ?_
  · exact fun request started => starts before request (started ▸ allowed)
  · intro t t' holds moves
    rw [moves.request]
    exact holds
  · exact fun t holds => holds

/-- A run that starts only requests with `P` advances only such requests. -/
theorem Reaches.advancing {P : ι → Prop} {db : σ} {c : Config ι σ κ ε}
    (run : Reaches handler ok (Config.idle db) c)
    (starts : ∀ c request, ok c (.start request) → P request) :
    Reaches handler (fun c e => ok c e ∧ ∀ i t, e = .advance i → c.threads[i]? = some t →
      P t.request) (Config.idle db) c := by
  induction run with
  | refl => exact .refl
  | step before allowed applied ih =>
    refine .step ih ⟨allowed, fun i t _ found => ?_⟩ applied
    exact before.requests starts t (List.mem_of_getElem? found)

end ReadCommitted
