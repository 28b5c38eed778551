import Mathlib.Logic.Function.Basic

/-!
# Handlers as database programs

A request handler is seen here the way the database sees it: a sequence of statements. `Tx` is
the body of one transaction (what a function does on the transaction client it was given), `Prog`
is a whole handler, which may read outside a transaction, commit, and go on afterwards.

The state `σ` is the committed database, `κ` names what a row lock can be taken on, and `ε` is
what a handler can throw. A read sees the committed state together with the writes its own
transaction has made so far; nothing is locked unless the program says so.
-/
namespace ReadCommitted

variable {σ τ κ ε α β γ : Type}

/-- The statements of one transaction. A `write` is an UPDATE or INSERT: it holds the lock on its
row until the transaction ends. -/
inductive Tx (σ κ ε α : Type) where
  | done (value : α)
  | fail (error : ε)
  | read (next : σ → Tx σ κ ε α)
  | lock (row : κ) (next : Tx σ κ ε α)
  | write (row : κ) (f : σ → σ) (next : Tx σ κ ε α)

namespace Tx

def bind : Tx σ κ ε α → (α → Tx σ κ ε β) → Tx σ κ ε β
  | .done value, k => k value
  | .fail error, _ => .fail error
  | .read next, k => .read fun s => (next s).bind k
  | .lock row next, k => .lock row (next.bind k)
  | .write row f next, k => .write row f (next.bind k)

instance : Monad (Tx σ κ ε) where
  pure := Tx.done
  bind := Tx.bind

/-- A SELECT: the answer of the query `q` on what the transaction can see. -/
def select (q : σ → α) : Tx σ κ ε α := .read fun s => .done (q s)

/-- SELECT ... FOR UPDATE, without its answer. -/
def lockRow (row : κ) : Tx σ κ ε Unit := .lock row (.done ())

def update (row : κ) (f : σ → σ) : Tx σ κ ε Unit := .write row f (.done ())

/-- Guard: throw unless the condition holds. -/
def ensure (condition : Bool) (error : ε) : Tx σ κ ε Unit :=
  if condition then .done () else .fail error

/-- A part that is skipped unless the condition holds. -/
def when (condition : Prop) [Decidable condition] (x : Tx σ κ ε Unit) : Tx σ κ ε Unit :=
  if condition then x else .done ()

/-- The effect of the body when nothing else runs: it either throws, and then has no effect, or
returns a value in a new state. -/
def eval : Tx σ κ ε α → σ → Except ε (α × σ)
  | .done value, s => .ok (value, s)
  | .fail error, _ => .error error
  | .read next, s => (next s).eval s
  | .lock _ next, s => next.eval s
  | .write _ f next, s => next.eval (f s)

@[simp] theorem eval_pure (value : α) (s : σ) :
    (pure value : Tx σ κ ε α).eval s = .ok (value, s) := rfl

@[simp] theorem eval_fail (error : ε) (s : σ) :
    (Tx.fail error : Tx σ κ ε α).eval s = .error error := rfl

@[simp] theorem eval_select (q : σ → α) (s : σ) :
    (select q : Tx σ κ ε α).eval s = .ok (q s, s) := rfl

@[simp] theorem eval_lockRow (row : κ) (s : σ) :
    (lockRow row : Tx σ κ ε Unit).eval s = .ok ((), s) := rfl

@[simp] theorem eval_update (row : κ) (f : σ → σ) (s : σ) :
    (update row f : Tx σ κ ε Unit).eval s = .ok ((), f s) := rfl

@[simp] theorem eval_ensure (condition : Bool) (error : ε) (s : σ) :
    (ensure condition error : Tx σ κ ε Unit).eval s =
      if condition then .ok ((), s) else .error error := by
  cases condition <;> rfl

@[simp] theorem eval_when (condition : Prop) [Decidable condition] (x : Tx σ κ ε Unit) (s : σ) :
    (when condition x).eval s = if condition then x.eval s else .ok ((), s) := by
  unfold when
  split <;> rfl

theorem eval_bind (x : Tx σ κ ε α) (k : α → Tx σ κ ε β) (s : σ) :
    (x >>= k).eval s = (x.eval s).bind fun r => (k r.1).eval r.2 := by
  change (x.bind k).eval s = _
  induction x generalizing s with
  | done value => rfl
  | fail error => rfl
  | read next ih => exact ih s s
  | lock row next ih => exact ih s
  | write row f next ih => exact ih (f s)

@[simp] theorem eval_pure_bind (value : α) (k : α → Tx σ κ ε β) (s : σ) :
    ((pure value : Tx σ κ ε α) >>= k).eval s = (k value).eval s := rfl

@[simp] theorem eval_select_bind (q : σ → α) (k : α → Tx σ κ ε β) (s : σ) :
    (select q >>= k).eval s = (k (q s)).eval s := rfl

@[simp] theorem eval_lockRow_bind (row : κ) (k : Unit → Tx σ κ ε β) (s : σ) :
    (lockRow row >>= k).eval s = (k ()).eval s := rfl

@[simp] theorem eval_update_bind (row : κ) (f : σ → σ) (k : Unit → Tx σ κ ε β) (s : σ) :
    (update row f >>= k).eval s = (k ()).eval (f s) := rfl

@[simp] theorem eval_ensure_bind (condition : Bool) (error : ε) (k : Unit → Tx σ κ ε β)
    (s : σ) :
    (ensure condition error >>= k).eval s =
      if condition then (k ()).eval s else .error error := by
  cases condition <;> rfl

theorem eval_ensure_bind_ok {condition : Bool} {error : ε} {k : Unit → Tx σ κ ε β} {s t : σ}
    {b : β} :
    (ensure condition error >>= k).eval s = .ok (b, t) ↔
      condition = true ∧ (k ()).eval s = .ok (b, t) := by
  cases condition <;> simp

theorem eval_ensure_ok {condition : Bool} {error : ε} {s t : σ} {u : Unit} :
    (ensure condition error : Tx σ κ ε Unit).eval s = .ok (u, t) ↔ condition = true ∧ s = t := by
  cases condition <;> simp

/-- A body returns exactly when its first part returns and the rest returns from there. -/
theorem eval_bind_ok {x : Tx σ κ ε α} {k : α → Tx σ κ ε β} {s t : σ} {b : β} :
    (x >>= k).eval s = .ok (b, t) ↔
      ∃ a u, x.eval s = .ok (a, u) ∧ (k a).eval u = .ok (b, t) := by
  rw [eval_bind]
  cases h : x.eval s with
  | error error => simp [Except.bind]
  | ok r =>
    obtain ⟨a, u⟩ := r
    simp only [Except.bind, Except.ok.injEq, Prod.mk.injEq]
    constructor
    · intro returned
      exact ⟨a, u, ⟨rfl, rfl⟩, returned⟩
    · rintro ⟨_, _, ⟨rfl, rfl⟩, returned⟩
      exact returned

/-- The rest of a body after a part that is known to return. -/
theorem eval_bind_of_ok {x : Tx σ κ ε α} (k : α → Tx σ κ ε β) {s u : σ} {a : α}
    (returned : x.eval s = .ok (a, u)) : (x >>= k).eval s = (k a).eval u := by
  rw [eval_bind, returned]
  rfl

theorem eval_bind_of_error {x : Tx σ κ ε α} (k : α → Tx σ κ ε β) {s : σ} {error : ε}
    (thrown : x.eval s = .error error) : (x >>= k).eval s = .error error := by
  rw [eval_bind, thrown]
  rfl

theorem eval_ite (condition : Prop) [Decidable condition] (x y : Tx σ κ ε α) (s : σ) :
    (if condition then x else y).eval s = if condition then x.eval s else y.eval s := by
  split <;> rfl

/-- Run a body written for a component `σ` of a larger database `τ`. -/
def zoom (get : τ → σ) (set : σ → τ → τ) : Tx σ κ ε α → Tx τ κ ε α
  | .done value => .done value
  | .fail error => .fail error
  | .read next => .read fun t => (next (get t)).zoom get set
  | .lock row next => .lock row (next.zoom get set)
  | .write row f next => .write row (fun t => set (f (get t)) t) (next.zoom get set)

/-- A zoomed body acts on its component and leaves the rest of the database alone. -/
theorem eval_zoom {get : τ → σ} {set : σ → τ → τ} (getSet : ∀ s t, get (set s t) = s)
    (setGet : ∀ t, set (get t) t = t) (setSet : ∀ s s' t, set s (set s' t) = set s t)
    (x : Tx σ κ ε α) (t : τ) :
    (x.zoom get set).eval t = (x.eval (get t)).map fun r => (r.1, set r.2 t) := by
  induction x generalizing t with
  | done value => simp [zoom, eval, Except.map, setGet]
  | fail error => rfl
  | read next ih => exact ih (get t) t
  | lock row next ih => exact ih t
  | write row f next ih =>
    change (next.zoom get set).eval _ = _
    rw [ih, getSet]
    simp only [eval, setSet]

/-- The database aborts the body after so many statements, unless it ends before. -/
def abortAfter (error : ε) : Nat → Tx σ κ ε α → Tx σ κ ε α
  | _, .done value => .done value
  | _, .fail thrown => .fail thrown
  | 0, _ => .fail error
  | n + 1, .read next => .read fun s => (next s).abortAfter error n
  | n + 1, .lock row next => .lock row (next.abortAfter error n)
  | n + 1, .write row f next => .write row f (next.abortAfter error n)

theorem zoom_bind (get : τ → σ) (set : σ → τ → τ) (x : Tx σ κ ε α) (k : α → Tx σ κ ε β) :
    (x >>= k).zoom get set = x.zoom get set >>= fun a => (k a).zoom get set := by
  change (x.bind k).zoom get set = (x.zoom get set).bind fun a => (k a).zoom get set
  induction x with
  | done value => rfl
  | fail error => rfl
  | read next ih => simp only [bind, zoom, ih]
  | lock row next ih => simp only [bind, zoom, ih]
  | write row f next ih => simp only [bind, zoom, ih]

theorem zoom_ensure (get : τ → σ) (set : σ → τ → τ) (condition : Bool) (error : ε) :
    (ensure condition error : Tx σ κ ε Unit).zoom get set = ensure condition error := by
  cases condition <;> rfl

end Tx

/-- A whole handler. `commit` ends the open transaction and keeps its writes, `rollback` drops
them; either way its locks are released and the handler goes on. -/
inductive Prog (σ κ ε α : Type) where
  | done (value : α)
  | fail (error : ε)
  | read (next : σ → Prog σ κ ε α)
  | lock (row : κ) (next : Prog σ κ ε α)
  | write (row : κ) (f : σ → σ) (next : Prog σ κ ε α)
  | commit (next : Prog σ κ ε α)
  | rollback (next : Prog σ κ ε α)

/-- A transaction with what the handler does after it commits, and after it throws. -/
def Tx.run : Tx σ κ ε α → (α → Prog σ κ ε β) → (ε → Prog σ κ ε β) → Prog σ κ ε β
  | .done value, ok, _ => .commit (ok value)
  | .fail error, _, caught => .rollback (caught error)
  | .read next, ok, caught => .read fun s => (next s).run ok caught
  | .lock row next, ok, caught => .lock row (next.run ok caught)
  | .write row f next, ok, caught => .write row f (next.run ok caught)

namespace Prog

def bind : Prog σ κ ε α → (α → Prog σ κ ε β) → Prog σ κ ε β
  | .done value, k => k value
  | .fail error, _ => .fail error
  | .read next, k => .read fun s => (next s).bind k
  | .lock row next, k => .lock row (next.bind k)
  | .write row f next, k => .write row f (next.bind k)
  | .commit next, k => .commit (next.bind k)
  | .rollback next, k => .rollback (next.bind k)

instance : Monad (Prog σ κ ε) where
  pure := Prog.done
  bind := Prog.bind

def select (q : σ → α) : Prog σ κ ε α := .read fun s => .done (q s)

def ensure (condition : Bool) (error : ε) : Prog σ κ ε Unit :=
  if condition then .done () else .fail error

/-- A part that is skipped unless the condition holds. -/
def when (condition : Prop) [Decidable condition] (p : Prog σ κ ε Unit) : Prog σ κ ε Unit :=
  if condition then p else .done ()

/-- A transaction whose error, if any, leaves the handler. -/
def transaction (body : Tx σ κ ε α) : Prog σ κ ε α := body.run .done .fail

/-- A transaction inside try/catch. -/
def transactionCatch (body : Tx σ κ ε α) (caught : ε → Prog σ κ ε α) : Prog σ κ ε α :=
  body.run .done caught

/-- The handler inside try/catch: what it throws becomes its answer. -/
def attempt : Prog σ κ ε α → Prog σ κ ε (Except ε α)
  | .done value => .done (.ok value)
  | .fail error => .done (.error error)
  | .read next => .read fun s => (next s).attempt
  | .lock row next => .lock row next.attempt
  | .write row f next => .write row f next.attempt
  | .commit next => .commit next.attempt
  | .rollback next => .rollback next.attempt

theorem bind_pure (p : Prog σ κ ε α) : p >>= pure = p := by
  change p.bind .done = p
  induction p with
  | read next ih => exact congrArg Prog.read (funext ih)
  | _ => simp_all only [bind]

/-- What a part throws, the handler throws. -/
theorem attempt_bind_throw (p : Prog σ κ ε α) (k : α → Prog σ κ ε β) :
    p.attempt >>= (fun | .ok a => k a | .error e => .fail e) = p >>= k := by
  change p.attempt.bind _ = p.bind k
  induction p with
  | read next ih => exact congrArg Prog.read (funext ih)
  | _ => simp_all only [attempt, bind]

/-- Run a handler written for a component `σ` of a larger database `τ`, whose rows have names of
their own there. -/
def embed {κ' : Type} (get : τ → σ) (set : σ → τ → τ) (rename : κ → κ') :
    Prog σ κ ε α → Prog τ κ' ε α
  | .done value => .done value
  | .fail error => .fail error
  | .read next => .read fun t => (next (get t)).embed get set rename
  | .lock row next => .lock (rename row) (next.embed get set rename)
  | .write row f next =>
    .write (rename row) (fun t => set (f (get t)) t) (next.embed get set rename)
  | .commit next => .commit (next.embed get set rename)
  | .rollback next => .rollback (next.embed get set rename)

/-- The handler fails here; a transaction that is open is rolled back. -/
def failNow (error : ε) : (inside : Bool) → Prog σ κ ε α
  | true => .rollback (.fail error)
  | false => .fail error

/-- The handler fails after so many statements, unless it ends before; `inside` says that a
transaction is open now. -/
def failAfter (error : ε) : Nat → (inside : Bool) → Prog σ κ ε α → Prog σ κ ε α
  | _, _, .done value => .done value
  | _, _, .fail thrown => .fail thrown
  | 0, inside, _ => failNow error inside
  | n + 1, inside, .read next => .read fun s => (next s).failAfter error n inside
  | n + 1, _, .lock row next => .lock row (next.failAfter error n true)
  | n + 1, _, .write row f next => .write row f (next.failAfter error n true)
  | n + 1, _, .commit next => .commit (next.failAfter error n false)
  | n + 1, _, .rollback next => .rollback (next.failAfter error n false)

/-- A single statement outside a transaction commits on its own. -/
def autocommit (row : κ) (f : σ → σ) : Prog σ κ ε Unit := transaction (Tx.update row f)

/-- The handler run alone to its end: what it returns or throws, and the committed state. The
first state is the committed one, the second what the open transaction sees. -/
def exec : Prog σ κ ε α → σ → σ → Except ε α × σ
  | .done value, s, _ => (.ok value, s)
  | .fail error, s, _ => (.error error, s)
  | .read next, s, v => (next v).exec s v
  | .lock _ next, s, v => next.exec s v
  | .write _ f next, s, v => next.exec s (f v)
  | .commit next, _, v => next.exec v v
  | .rollback next, s, _ => next.exec s s

/-- The handler called in state `s` with nothing else running. -/
def call (p : Prog σ κ ε α) (s : σ) : Except ε α × σ := p.exec s s

@[simp] theorem call_done (value : α) (s : σ) :
    (Prog.done value : Prog σ κ ε α).call s = (.ok value, s) := rfl

@[simp] theorem call_pure (value : α) (s : σ) :
    (pure value : Prog σ κ ε α).call s = (.ok value, s) := rfl

@[simp] theorem call_fail (error : ε) (s : σ) :
    (Prog.fail error : Prog σ κ ε α).call s = (.error error, s) := rfl

variable (body : Tx σ κ ε α)

private theorem exec_run (ok : α → Prog σ κ ε β) (caught : ε → Prog σ κ ε β) (s v : σ) :
    (body.run ok caught).exec s v =
      match body.eval v with
      | .ok r => (ok r.1).exec r.2 r.2
      | .error error => (caught error).exec s s := by
  induction body generalizing v with
  | done value => rfl
  | fail error => rfl
  | read next ih => exact ih v v
  | lock row next ih => exact ih v
  | write row f next ih => exact ih (f v)

theorem call_run (ok : α → Prog σ κ ε β) (caught : ε → Prog σ κ ε β) (s : σ) :
    (body.run ok caught).call s =
      match body.eval s with
      | .ok r => (ok r.1).call r.2
      | .error error => (caught error).call s :=
  exec_run body ok caught s s

@[simp] theorem call_transaction (s : σ) :
    (transaction body).call s =
      match body.eval s with
      | .ok r => (.ok r.1, r.2)
      | .error error => (.error error, s) := by
  rw [transaction, call_run]
  cases body.eval s <;> rfl

theorem bind_assoc (p : Prog σ κ ε α) (f : α → Prog σ κ ε β) (k : β → Prog σ κ ε γ) :
    (p >>= f) >>= k = p >>= fun a => f a >>= k := by
  change (p.bind f).bind k = p.bind fun a => (f a).bind k
  induction p with
  | done value => rfl
  | fail error => rfl
  | read next ih => simp only [bind, ih]
  | lock row next ih => simp only [bind, ih]
  | write row f next ih => simp only [bind, ih]
  | commit next ih => simp only [bind, ih]
  | rollback next ih => simp only [bind, ih]

/-- A transaction followed by more work is the transaction with that work as its continuation. -/
theorem run_bind (ok : α → Prog σ κ ε β) (caught : ε → Prog σ κ ε β) (k : β → Prog σ κ ε γ) :
    (body.run ok caught).bind k =
      body.run (fun a => (ok a).bind k) (fun e => (caught e).bind k) := by
  induction body with
  | done value => rfl
  | fail error => rfl
  | read next ih => simp only [Tx.run, bind, ih]
  | lock row next ih => simp only [Tx.run, bind, ih]
  | write row f next ih => simp only [Tx.run, bind, ih]

theorem transaction_bind (k : α → Prog σ κ ε β) :
    transaction body >>= k = body.run k .fail :=
  run_bind body .done .fail k

theorem transactionCatch_bind (caught : ε → Prog σ κ ε α) (k : α → Prog σ κ ε β) :
    transactionCatch body caught >>= k = body.run k fun error => caught error >>= k :=
  run_bind body .done caught k

theorem call_transaction_bind (k : α → Prog σ κ ε β) (s : σ) :
    (transaction body >>= k).call s =
      match body.eval s with
      | .ok r => (k r.1).call r.2
      | .error error => (.error error, s) := by
  rw [transaction_bind, call_run]
  cases body.eval s <;> rfl

private theorem exec_attempt_run (k : Except ε α → Prog σ κ ε β) (s v : σ) :
    ((body.run (.done) .fail).attempt.bind k).exec s v =
      match body.eval v with
      | .ok r => (k (.ok r.1)).exec r.2 r.2
      | .error error => (k (.error error)).exec s s := by
  induction body generalizing v with
  | done value => rfl
  | fail error => rfl
  | read next ih => exact ih v v
  | lock row next ih => exact ih v
  | write row f next ih => exact ih (f v)

theorem call_attempt_transaction_bind (k : Except ε α → Prog σ κ ε β) (s : σ) :
    ((transaction body).attempt >>= k).call s =
      match body.eval s with
      | .ok r => (k (.ok r.1)).call r.2
      | .error error => (k (.error error)).call s :=
  exec_attempt_run body k s s

@[simp] theorem call_select_bind (q : σ → α) (k : α → Prog σ κ ε β) (s : σ) :
    (select q >>= k).call s = (k (q s)).call s := rfl

@[simp] theorem call_pure_bind (value : α) (k : α → Prog σ κ ε β) (s : σ) :
    ((pure value : Prog σ κ ε α) >>= k).call s = (k value).call s := rfl

@[simp] theorem call_autocommit_bind (row : κ) (f : σ → σ) (k : Unit → Prog σ κ ε β) (s : σ) :
    (autocommit row f >>= k).call s = (k ()).call (f s) := rfl

@[simp] theorem call_autocommit (row : κ) (f : σ → σ) (s : σ) :
    (autocommit row f : Prog σ κ ε Unit).call s = (.ok (), f s) := rfl

@[simp] theorem call_ensure_bind (condition : Bool) (error : ε) (k : Unit → Prog σ κ ε β)
    (s : σ) :
    (ensure condition error >>= k).call s =
      if condition then (k ()).call s else (.error error, s) := by
  cases condition <;> rfl

private theorem exec_bind_pure (p : Prog σ κ ε α) (f : α → β) (s v : σ) :
    (p.bind fun a => .done (f a)).exec s v = ((p.exec s v).1.map f, (p.exec s v).2) := by
  induction p generalizing s v with
  | done value => rfl
  | fail error => rfl
  | read next ih => exact ih v s v
  | lock row next ih => exact ih s v
  | write row g next ih => exact ih s (g v)
  | commit next ih => exact ih v v
  | rollback next ih => exact ih s s

theorem call_bind_pure (p : Prog σ κ ε α) (f : α → β) (s : σ) :
    (p >>= fun a => pure (f a)).call s = ((p.call s).1.map f, (p.call s).2) :=
  exec_bind_pure p f s s

end Prog

end ReadCommitted
