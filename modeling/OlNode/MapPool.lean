import Mathlib.Data.List.Basic

/-!
# The pool behind the batch jobs

`mapPool` makes one call for each item, with a bounded number of calls in flight. Its workers share
a counter: each takes the next index, awaits the call, stores the result under the index and goes
on. Calls settle in any order; a worker whose call rejects is gone, and the others go on.
-/
namespace OlNode.MapPool

/-- At the head of its loop, in the call for an index, or at its end. -/
inductive Worker where
  | ready
  | awaiting (i : Nat)
  | returned
  | rejected
  deriving DecidableEq

def Worker.inFlight : Worker → Bool
  | .awaiting _ => true
  | _ => false

@[simp] theorem inFlight_ready : Worker.ready.inFlight = false := rfl
@[simp] theorem inFlight_awaiting (i : Nat) : (Worker.awaiting i).inFlight = true := rfl
@[simp] theorem inFlight_returned : Worker.returned.inFlight = false := rfl
@[simp] theorem inFlight_rejected : Worker.rejected.inFlight = false := rfl

/-- The variables of `mapPool`, with the indices `fn` was called for. -/
structure Pool (R : Type) where
  next : Nat := 0
  workers : List Worker
  results : List (Option R)
  called : List Nat := []

variable {R ε : Type} (length : Nat)

/-- For no items the source returns before a worker starts. -/
def limitOf (concurrency : Int) : Nat :=
  if length = 0 then 0 else (max 1 (min concurrency length)).toNat

def started (concurrency : Int) : Pool R where
  workers := List.replicate (limitOf length concurrency) .ready
  results := List.replicate length none

variable (call : Nat → Except ε R)

/-- Worker `w` takes an index, or its call settles: `call i` is what `fn(items[i], i)` comes to. In
the source nothing happens between a result and the next index. -/
def Pool.step (pool : Pool R) (w : Nat) : Option (Pool R) :=
  match pool.workers[w]? with
  | some .ready => some
      (if length ≤ pool.next then
        { pool with next := pool.next + 1, workers := pool.workers.set w .returned }
      else
        { pool with
          next := pool.next + 1
          workers := pool.workers.set w (.awaiting pool.next)
          called := pool.called ++ [pool.next] })
  | some (.awaiting i) => some
      (match call i with
      | .ok result =>
        { pool with
          workers := pool.workers.set w .ready, results := pool.results.set i (some result) }
      | .error _ => { pool with workers := pool.workers.set w .rejected })
  | _ => none

/-- The pool after this many steps. -/
inductive Runs (concurrency : Int) : Nat → Pool R → Prop
  | start : Runs concurrency 0 (started length concurrency)
  | step {n : Nat} {pool pool' : Pool R} {w : Nat} (before : Runs concurrency n pool)
      (stepped : pool.step length call w = some pool') : Runs concurrency (n + 1) pool'

/-! ### What holds between the steps -/

/-- The call for an index is awaited, or has settled. -/
def Accounted (pool : Pool R) (i : Nat) : Prop :=
  .awaiting i ∈ pool.workers ∨
    (∃ result, call i = .ok result ∧ pool.results[i]? = some (some result)) ∨
    .rejected ∈ pool.workers ∧ ∃ error, call i = .error error

structure Sound (limit n : Nat) (pool : Pool R) : Prop where
  workers : pool.workers.length = limit
  results : pool.results.length = length
  called : pool.called = List.range (min pool.next length)
  steps : n + pool.workers.countP (·.inFlight) =
    2 * pool.called.length + pool.workers.countP (· = .returned)
  awaited : ∀ i, .awaiting i ∈ pool.workers → i ∈ pool.called
  accounted : ∀ i < min pool.next length, Accounted call pool i
  returned : .returned ∈ pool.workers → length ≤ pool.next
  rejected : .rejected ∈ pool.workers → ∃ i ∈ pool.called, ∃ error, call i = .error error

variable {length call} {limit n : Nat} {pool pool' : Pool R}

theorem started_sound (concurrency : Int) : Sound length call (limitOf length concurrency) 0
    (started length concurrency : Pool R) := by
  constructor <;> simp [started, Worker.inFlight, List.countP_replicate]

variable {w : Nat} {workers : List Worker}

private theorem mem_set {old new other : Worker} (found : workers[w]? = some old)
    (member : other ∈ workers) (apart : other ≠ old) :
    other ∈ workers.set w new := by
  obtain ⟨j, there⟩ := List.getElem?_of_mem member
  have elsewhere : w ≠ j := by
    rintro rfl
    exact apart (Option.some.inj (there.symm.trans found))
  exact List.mem_of_getElem? ((List.getElem?_set_ne elsewhere).trans there)

private theorem of_mem_set {new other : Worker} (member : other ∈ workers.set w new)
    (apart : other ≠ new) : other ∈ workers :=
  (List.mem_or_eq_of_mem_set member).resolve_right apart

private theorem new_mem_set {old new : Worker} (found : workers[w]? = some old) :
    new ∈ workers.set w new :=
  List.mem_set (List.getElem?_eq_some_iff.mp found).1 new

private theorem countP_set {old : Worker} (found : workers[w]? = some old) (new : Worker)
    (p : Worker → Bool) :
    (workers.set w new).countP p + (p old).toNat = workers.countP p + (p new).toNat := by
  obtain ⟨bound, rfl⟩ := List.getElem?_eq_some_iff.mp found
  have counted := List.boole_getElem_le_countP (p := p) bound
  rw [List.countP_set bound]
  cases held : p workers[w] <;> cases p new <;>
    simp only [held, reduceIte, Bool.false_eq_true, Bool.toNat_true, Bool.toNat_false]
      at counted ⊢ <;> omega

/-- The call of worker `w` has settled, and the worker is `new` with these results. -/
private theorem Sound.settled {w i : Nat} {new : Worker} {results : List (Option R)}
    (sound : Sound length call limit n pool) (found : pool.workers[w]? = some (.awaiting i))
    (goesOn : new.inFlight = false ∧ new ≠ .returned) (width : results.length = length)
    (others : ∀ j ≠ i, results[j]? = pool.results[j]?)
    (here : Accounted call { pool with workers := pool.workers.set w new, results } i)
    (failed : new = .rejected → ∃ error, call i = .error error) :
    Sound length call limit (n + 1)
      { pool with workers := pool.workers.set w new, results } := by
  have steps := sound.steps
  have inFlight := countP_set found new (·.inFlight)
  have ended := countP_set found new (· = .returned)
  simp only [inFlight_awaiting, goesOn.1, goesOn.2, reduceCtorEq, decide_false, Bool.toNat_true,
    Bool.toNat_false] at inFlight ended
  constructor
  · simpa using sound.workers
  · exact width
  · exact sound.called
  · simp only
    omega
  · intro j member
    rcases List.mem_or_eq_of_mem_set member with old | rfl
    · exact sound.awaited j old
    · cases goesOn.1
  · intro j bound
    by_cases same : j = i
    · exact same ▸ here
    rcases sound.accounted j bound with awaited | ⟨r, result, stored⟩ | ⟨gone, error⟩
    · exact .inl (mem_set found awaited (by simpa using same))
    · exact .inr (.inl ⟨r, result, (others j same).trans stored⟩)
    · exact .inr (.inr ⟨mem_set found gone (by simp), error⟩)
  · intro member
    exact sound.returned (of_mem_set member (Ne.symm goesOn.2))
  · intro member
    rcases List.mem_or_eq_of_mem_set member with old | new
    · exact sound.rejected old
    · exact ⟨i, sound.awaited i (List.mem_of_getElem? found), failed new.symm⟩

theorem Sound.step (sound : Sound length call limit n pool)
    (stepped : pool.step length call w = some pool') : Sound length call limit (n + 1) pool' := by
  have steps := sound.steps
  unfold Pool.step at stepped
  split at stepped
  next found =>
    have inFlight := fun new => countP_set found new (·.inFlight)
    have ended := fun new => countP_set found new (· = .returned)
    simp only [inFlight_ready, reduceCtorEq, decide_false, Bool.toNat_false] at inFlight ended
    have kept : ∀ new i, Accounted call pool i →
        Accounted call { pool with workers := pool.workers.set w new } i := by
      rintro new i (awaited | settled | ⟨gone, error⟩)
      · exact .inl (mem_set found awaited (by simp))
      · exact .inr (.inl settled)
      · exact .inr (.inr ⟨mem_set found gone (by simp), error⟩)
    obtain rfl := Option.some.inj stepped
    split
    next past =>
      -- No index is left, and the calls stay what they were.
      have same : min (pool.next + 1) length = min pool.next length := by omega
      have flight := inFlight .returned
      have done := ended .returned
      simp only [inFlight_returned, decide_true, Bool.toNat_true, Bool.toNat_false] at flight done
      constructor
      · simpa using sound.workers
      · exact sound.results
      · simpa only [same] using sound.called
      · simp only
        omega
      · intro i member
        exact sound.awaited i (of_mem_set member (by simp))
      · intro i bound
        exact kept _ i (sound.accounted i (same ▸ bound))
      · intro _
        exact Nat.le_succ_of_le past
      · intro member
        exact sound.rejected (of_mem_set member (by simp))
    next ahead =>
      -- The next index is awaited from here on, by this worker.
      have flight := inFlight (.awaiting pool.next)
      have done := ended (.awaiting pool.next)
      simp only [inFlight_awaiting, reduceCtorEq, decide_false, Bool.toNat_true, Bool.toNat_false]
        at flight done
      constructor
      · simpa using sound.workers
      · exact sound.results
      · have here : min pool.next length = pool.next := by omega
        have after : min (pool.next + 1) length = pool.next + 1 := by omega
        simp [sound.called, here, after, List.range_succ]
      · simp only [List.length_append, List.length_singleton]
        omega
      · intro i member
        rcases List.mem_or_eq_of_mem_set member with old | new
        · exact List.mem_append_left _ (sound.awaited i old)
        · cases new
          exact List.mem_append_right _ (List.mem_singleton_self _)
      · intro i bound
        simp only at bound
        rcases Nat.lt_or_ge i pool.next with before | last
        · exact kept _ i (sound.accounted i (by omega))
        · obtain rfl : i = pool.next := by omega
          exact .inl (new_mem_set found)
      · intro member
        exact absurd (sound.returned (of_mem_set member (by simp))) ahead
      · intro member
        obtain ⟨i, called, error⟩ := sound.rejected (of_mem_set member (by simp))
        exact ⟨i, List.mem_append_left _ called, error⟩
  next i found =>
    have called := sound.awaited i (List.mem_of_getElem? found)
    have within : i < length := by
      rw [sound.called, List.mem_range] at called
      omega
    obtain rfl := Option.some.inj stepped
    split
    next result settled =>
      have stored := List.getElem?_set_self (a := some result) (sound.results ▸ within)
      exact sound.settled found (by simp) (by simpa using sound.results)
        (fun j apart => List.getElem?_set_ne (Ne.symm apart))
        (.inr (.inl ⟨result, settled, stored⟩)) (by simp)
    next error failed =>
      exact sound.settled found (by simp) sound.results (fun _ _ => rfl)
        (.inr (.inr ⟨new_mem_set found, error, failed⟩)) (fun _ => ⟨error, failed⟩)
  · cases stepped

theorem Runs.sound {concurrency : Int} (run : Runs length call concurrency n pool) :
    Sound length call (limitOf length concurrency) n pool := by
  induction run with
  | start => exact started_sound concurrency
  | step _ stepped before => exact before.step stepped

theorem Sound.ended (sound : Sound length call limit n pool) (started : length ≠ 0 → limit ≠ 0)
    (ended : ∀ worker ∈ pool.workers, worker = .returned) : length ≤ pool.next := by
  by_cases empty : length = 0
  · omega
  · obtain ⟨worker, member⟩ :=
      List.exists_mem_of_length_pos (Nat.pos_of_ne_zero (sound.workers ▸ started empty))
    exact sound.returned (ended worker member ▸ member)

/-- Whatever the order in which the calls settle: the calls so far are one for each index from the
first on, no more than the limit are in flight, and a run is no longer than the limit and twice the
calls. Where no worker can go on, either each item has the result of its call, or a call failed. -/
theorem mapPool_exact {concurrency : Int} (run : Runs length call concurrency n pool) :
    pool.called = List.range (min pool.next length) ∧
      pool.workers.countP (·.inFlight) ≤ limitOf length concurrency ∧
      n ≤ 2 * length + limitOf length concurrency ∧
      ((∀ w, pool.step length call w = none) →
        pool.called = List.range length ∧
            (∀ i < length, ∃ result, call i = .ok result ∧ pool.results[i]? = some (some result)) ∨
          ∃ i ∈ pool.called, ∃ error, call i = .error error) := by
  have sound := run.sound
  have steps := sound.steps
  have calls : pool.called.length = min pool.next length := by simp [sound.called]
  have all := fun p => sound.workers ▸ List.countP_le_length (p := p) (l := pool.workers)
  have returned := all (· = .returned)
  refine ⟨sound.called, all _, by omega, fun stuck => ?_⟩
  by_cases gone : .rejected ∈ pool.workers
  · exact .inr (sound.rejected gone)
  have ended : ∀ worker ∈ pool.workers, worker = .returned := by
    -- A worker at the head of its loop or in a call could go on.
    intro worker member
    obtain ⟨w, found⟩ := List.getElem?_of_mem member
    have still := stuck w
    cases worker <;> simp_all [Pool.step]
  have past : length ≤ pool.next := by
    refine sound.ended (fun items => ?_) ended
    simp only [limitOf, items, reduceIte]
    omega
  have whole : min pool.next length = length := by omega
  refine .inl ⟨whole ▸ sound.called, fun i bound => ?_⟩
  rcases sound.accounted i (whole.symm ▸ bound) with awaited | settled | ⟨rejected, _⟩
  · cases ended _ awaited
  · exact settled
  · exact absurd rejected gone

def firstFails (i : Nat) : Except Unit Nat := if i = 0 then .error () else .ok i

/-- The second of two calls settles first, and the first one fails. -/
theorem mapPool_exact_failed : ∃ pool, Runs 2 firstFails 8 5 pool ∧
    pool.called = [0, 1] ∧ ∃ i ∈ pool.called, ∃ error, firstFails i = .error error := by
  have run : Runs 2 firstFails 8 5 ⟨3, [.rejected, .returned], [none, some 1], [0, 1]⟩ :=
    .step (w := 0) (.step (w := 1) (.step (w := 1) (.step (w := 1) (.step (w := 0) .start rfl)
      rfl) rfl) rfl) rfl
  obtain ⟨called, -, -, ended⟩ := mapPool_exact run
  refine ⟨_, run, called, (ended ?_).resolve_left ?_⟩
  · rintro (_ | _ | w) <;> rfl
  · rintro ⟨-, results⟩
    obtain ⟨_, settled, _⟩ := results 0 (by decide)
    cases settled

end OlNode.MapPool
