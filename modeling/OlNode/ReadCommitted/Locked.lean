import OlNode.ReadCommitted.Footprint

/-!
# Parts of the database that a row lock protects

The database is seen as a family of parts, each protected by the lock on one row. A transaction
that holds the lock knows the value of the part; without it, it knows only that the committed
value satisfies the invariant of the part. `Safe` follows a handler statement by statement with
this knowledge and asks, at each commit, that every part either is unchanged or was changed under
its lock, from a value to one the handler may move it to. Safe handlers keep the invariant of
every part in every interleaving, without any assumption on what they read.
-/
namespace ReadCommitted

variable {ι σ κ ε α β W V : Type}

/-- The parts of a database, the row that protects each of them and its invariant, the errors a
handler may throw, and what is known of every state a statement may look at. -/
structure Parts (σ κ ε W V : Type) where
  part : σ → W → V
  lockOf : W → κ
  inv : W → V → Prop
  throws : ε → Prop := fun _ => True
  shown : σ → Prop := fun _ => True

/-- What an open transaction knows about one part: what its writes do to whatever is committed, or,
under the lock, the committed value and the one the transaction has made of it. -/
inductive Hold (V : Type) where
  | free (act : V → V)
  | held (before now : V)

namespace Hold

def initial : Hold V := free fun v => v

def push (f : V → V) : Hold V → Hold V
  | free act => free fun v => f (act v)
  | held before now => held before (f now)

/-- After the part is locked while `v` is committed. -/
def learn (v : V) : Hold V → Hold V
  | free act => held v (act v)
  | held before now => held before now

/-- The values of the part the transaction may see. -/
def Sees (inv : V → Prop) : Hold V → V → Prop
  | free act, v => ∃ committed, inv committed ∧ v = act committed
  | held _ now, v => v = now

/-- What a commit has to answer for: nothing was changed, or it was changed under the lock. -/
def Settles (inv : V → Prop) : Hold V → Prop
  | free act => ∀ v, inv v → act v = v
  | held _ now => inv now

/-- The committed values the knowledge leaves open. -/
def Agrees : Hold V → V → Prop
  | free _, _ => True
  | held before _, v => v = before

/-- The value after a commit that settles the part. -/
def after : Hold V → V → V
  | free _, v => v
  | held _ now, _ => now

@[simp] theorem learn_held (v before now : V) :
    (held before now).learn v = held before now := rfl

@[simp] theorem push_id (hold : Hold V) : hold.push (fun v => v) = hold := by
  cases hold <;> rfl

theorem settles_initial (inv : V → Prop) : (initial : Hold V).Settles inv := fun _ _ => rfl

end Hold

/-- What an open transaction knows about all parts. -/
abbrev Knowledge (W V : Type) := W → Hold V

namespace Knowledge

def initial : Knowledge W V := fun _ => .initial

def push (K : Knowledge W V) (f : W → V → V) : Knowledge W V := fun w => (K w).push (f w)

variable [DecidableEq κ]

/-- After locking `row`, with `committed` the committed values. -/
def lock (K : Knowledge W V) (S : Parts σ κ ε W V) (row : κ) (committed : W → V) :
    Knowledge W V :=
  fun w => if S.lockOf w = row then (K w).learn (committed w) else K w

theorem push_id (K : Knowledge W V) : K.push (fun _ v => v) = K :=
  funext fun w => (K w).push_id

/-- A row that protects no part teaches nothing. -/
theorem lock_other {S : Parts σ κ ε W V} {row : κ} (other : ∀ w, S.lockOf w ≠ row)
    (K : Knowledge W V) (committed : W → V) : K.lock S row committed = K :=
  funext fun w => if_neg (other w)

section Own

variable [DecidableEq W] {S : Parts σ κ ε W V}

/-- A part's own row teaches the part and nothing else. -/
theorem lock_own (separate : ∀ w w', S.lockOf w' = S.lockOf w → w' = w) (w : W)
    (K : Knowledge W V) (committed : W → V) :
    K.lock S (S.lockOf w) committed = Function.update K w ((K w).learn (committed w)) := by
  funext other
  by_cases same : other = w
  · subst same
    simp [lock]
  · have different : S.lockOf other ≠ S.lockOf w := fun equal => same (separate w other equal)
    simp [lock, same, different]

omit [DecidableEq κ] in
theorem push_own (K : Knowledge W V) (w : W) (f : V → V) :
    K.push (fun w' v => if w' = w then f v else v) = Function.update K w ((K w).push f) := by
  funext other
  by_cases same : other = w
  · subst same
    simp [push]
  · simp [push, same]

end Own

end Knowledge

section Safe

variable (S : Parts σ κ ε W V) [DecidableEq κ]

/-- The states a transaction with knowledge `K` may be looking at. -/
structure Knowledge.Sees (K : Knowledge W V) (s : σ) : Prop where
  shown : S.shown s
  part : ∀ w, (K w).Sees (S.inv w) (S.part s w)

/-- Committed values that satisfy every part's invariant. -/
def Parts.Valid (committed : W → V) : Prop := ∀ w, S.inv w (committed w)

/-- A commit with knowledge `K` keeps every part valid and changes the parts as `may` allows. -/
structure Knowledge.Settles (may : (W → V) → (W → V) → Prop) (K : Knowledge W V) : Prop where
  valid : ∀ w, (K w).Settles (S.inv w)
  moves : ∀ committed, S.Valid committed → (∀ w, (K w).Agrees (committed w)) →
    may committed fun w => (K w).after (committed w)

omit [DecidableEq κ] in
/-- A commit that has changed one part, under its lock. -/
theorem Knowledge.settles_own [DecidableEq W] {may : (W → V) → (W → V) → Prop} {w : W} {v v' : V}
    (valid : S.inv w v') (moves : ∀ committed : W → V, S.Valid committed → committed w = v →
      may committed (Function.update committed w v')) :
    Knowledge.Settles S may (Function.update Knowledge.initial w (.held v v')) := by
  constructor
  · intro other
    by_cases same : other = w
    · subst same
      rw [Function.update_self]
      exact valid
    · rw [Function.update_of_ne same]
      exact Hold.settles_initial _
  · intro committed all agrees
    have before := agrees w
    rw [Function.update_self] at before
    have after : (fun other => Hold.after (Function.update Knowledge.initial w (.held v v') other)
        (committed other)) = Function.update committed w v' := by
      funext other
      by_cases same : other = w
      · subst same
        simp [Hold.after]
      · simp [same, Hold.after, Knowledge.initial, Hold.initial]
    rw [after]
    exact moves committed all before

/-- The body, begun with knowledge `K`, ends (if it returns) in knowledge that satisfies `Q`. -/
def Tx.Safe : Tx σ κ ε α → Knowledge W V → (α → Knowledge W V → Prop) → Prop
  | .done value, K, Q => Q value K
  | .fail error, _, _ => S.throws error
  | .read next, K, Q => ∀ s, K.Sees S s → (next s).Safe K Q
  | .lock row next, K, Q => ∀ committed, S.Valid committed → next.Safe (K.lock S row committed) Q
  | .write row f next, K, Q =>
    ∃ act : W → V → V, (∀ s w, S.part (f s) w = act w (S.part s w)) ∧
      ∀ committed, S.Valid committed → next.Safe ((K.lock S row committed).push act) Q

/-- The handler changes parts only under their locks and as `may` allows. -/
def Prog.Safe (may : (W → V) → (W → V) → Prop) : Prog σ κ ε α → Knowledge W V → Prop
  | .done _, _ => True
  | .fail error, _ => S.throws error
  | .read next, K => ∀ s, K.Sees S s → (next s).Safe may K
  | .lock row next, K => ∀ committed, S.Valid committed → next.Safe may (K.lock S row committed)
  | .write row f next, K =>
    ∃ act : W → V → V, (∀ s w, S.part (f s) w = act w (S.part s w)) ∧
      ∀ committed, S.Valid committed → next.Safe may ((K.lock S row committed).push act)
  | .commit next, K => K.Settles S may ∧ next.Safe may .initial
  | .rollback next, _ => next.Safe may .initial

end Safe

/-! ### Rules for transaction bodies -/

namespace Tx

variable {S : Parts σ κ ε W V} [DecidableEq κ] {K : Knowledge W V}

theorem Safe.mono {x : Tx σ κ ε α} {Q R : α → Knowledge W V → Prop} (safe : x.Safe S K Q)
    (weaker : ∀ a K', Q a K' → R a K') : x.Safe S K R := by
  induction x generalizing K with
  | done value => exact weaker value K safe
  | fail error => exact safe
  | read next ih => exact fun s seen => ih s (safe s seen)
  | lock row next ih => exact fun committed valid => ih (safe committed valid)
  | write row f next ih =>
    obtain ⟨act, acts, rest⟩ := safe
    exact ⟨act, acts, fun committed valid => ih (rest committed valid)⟩

theorem Safe.bind {x : Tx σ κ ε α} {k : α → Tx σ κ ε β} {Q : β → Knowledge W V → Prop}
    (first : x.Safe S K fun a K' => (k a).Safe S K' Q) : (x >>= k).Safe S K Q := by
  change (x.bind k).Safe S K Q
  induction x generalizing K with
  | done value => exact first
  | fail error => exact first
  | read next ih => exact fun s seen => ih s (first s seen)
  | lock row next ih => exact fun committed valid => ih (first committed valid)
  | write row f next ih =>
    obtain ⟨act, acts, rest⟩ := first
    exact ⟨act, acts, fun committed valid => ih (rest committed valid)⟩

variable {Q : β → Knowledge W V → Prop} {R : Unit → Knowledge W V → Prop}

@[simp] theorem safe_select (q : σ → β) :
    (select q : Tx σ κ ε β).Safe S K Q ↔ ∀ s, K.Sees S s → Q (q s) K := Iff.rfl

@[simp] theorem safe_select_bind (q : σ → α) (k : α → Tx σ κ ε β) :
    (select q >>= k).Safe S K Q ↔ ∀ s, K.Sees S s → (k (q s)).Safe S K Q := Iff.rfl

@[simp] theorem safe_lockRow_bind (row : κ) (k : Unit → Tx σ κ ε β) :
    (lockRow row >>= k).Safe S K Q ↔
      ∀ committed, S.Valid committed → (k ()).Safe S (K.lock S row committed) Q := Iff.rfl

theorem safe_ensure_bind {condition : Bool} {error : ε} {k : Unit → Tx σ κ ε β}
    (throws : condition = false → S.throws error) (goesOn : condition = true → (k ()).Safe S K Q) :
    (ensure condition error >>= k).Safe S K Q := by
  cases condition
  · exact throws rfl
  · exact goesOn rfl

theorem safe_check {condition : Bool} {error : ε} {k : Unit → Tx σ κ ε β}
    (throws : S.throws error) (goesOn : condition = true → (k ()).Safe S K Q) :
    (ensure condition error >>= k).Safe S K Q := safe_ensure_bind (fun _ => throws) goesOn

theorem safe_update {row : κ} {f : σ → σ} (act : W → V → V)
    (acts : ∀ s w, S.part (f s) w = act w (S.part s w)) (other : ∀ w, S.lockOf w ≠ row)
    (after : R () (K.push act)) : (update row f : Tx σ κ ε Unit).Safe S K R := by
  refine ⟨act, acts, fun committed _ => ?_⟩
  rw [Knowledge.lock_other other]
  exact after

end Tx

/-! ### Bodies that stay outside the parts -/

/-- No part's row is locked and no part is changed. -/
def Parts.outside (S : Parts σ κ ε W V) : Footprint σ κ ε where
  row row := ∀ w, S.lockOf w ≠ row
  write f := ∀ s w, S.part (f s) w = S.part s w
  error := S.throws

theorem Parts.outside_blind (S : Parts σ κ ε W V) (q : σ → α) : S.outside.Blind q := by
  rintro s _ rfl
  rfl

namespace Tx

theorem Touches.safe {S : Parts σ κ ε W V} [DecidableEq κ] {K : Knowledge W V} {x : Tx σ κ ε α}
    {Q : α → Knowledge W V → Prop} (outside : x.Touches S.outside) (after : ∀ a, Q a K) :
    x.Safe S K Q := by
  induction x with
  | done value => exact after value
  | fail error => exact outside
  | read next ih => exact fun s _ => ih s (outside s rfl).2
  | lock row next ih =>
    intro committed _
    rw [Knowledge.lock_other outside.1]
    exact ih outside.2
  | write row f next ih =>
    refine ⟨fun _ v => v, outside.2.1, fun committed _ => ?_⟩
    rw [Knowledge.lock_other outside.1, Knowledge.push_id]
    exact ih outside.2.2

theorem safe_when_outside {S : Parts σ κ ε W V} [DecidableEq κ] {K : Knowledge W V}
    {condition : Prop} [Decidable condition] {x : Tx σ κ ε Unit}
    {Q : Unit → Knowledge W V → Prop} (outside : x.Touches S.outside) (after : Q () K) :
    (Tx.when condition x).Safe S K Q :=
  Touches.safe (touches_when outside) fun _ => after

end Tx

/-! ### Rules for handlers -/

namespace Prog

variable {S : Parts σ κ ε W V} [DecidableEq κ] {may : (W → V) → (W → V) → Prop} {K : Knowledge W V}

theorem Safe.run {body : Tx σ κ ε α} {ok : α → Prog σ κ ε β} {caught : ε → Prog σ κ ε β}
    (safe : body.Safe S K fun a K' => K'.Settles S may ∧ (ok a).Safe S may .initial)
    (onError : ∀ error, S.throws error → (caught error).Safe S may .initial) :
    (body.run ok caught).Safe S may K := by
  induction body generalizing K with
  | done value => exact safe
  | fail error => exact onError error safe
  | read next ih => exact fun s seen => ih s (safe s seen)
  | lock row next ih => exact fun committed valid => ih (safe committed valid)
  | write row f next ih =>
    obtain ⟨act, acts, rest⟩ := safe
    exact ⟨act, acts, fun committed valid => ih (rest committed valid)⟩

variable {k : α → Prog σ κ ε β}

/-- What follows a transaction starts afresh. -/
theorem Safe.transaction_bind {body : Tx σ κ ε α}
    (safe : body.Safe S K fun a K' => K'.Settles S may ∧ (k a).Safe S may .initial) :
    (transaction body >>= k).Safe S may K := by
  rw [Prog.transaction_bind]
  exact .run safe fun _ throws => throws

variable {p : Prog σ κ ε α}

theorem Safe.bind (first : p.Safe S may K) (rest : ∀ a K', (k a).Safe S may K') :
    (p >>= k).Safe S may K := by
  change (p.bind k).Safe S may K
  induction p generalizing K with
  | done value => exact rest value K
  | fail error => exact first
  | read next ih => exact fun s seen => ih s (first s seen)
  | lock row next ih => exact fun committed valid => ih (first committed valid)
  | write row f next ih =>
    obtain ⟨act, acts, after⟩ := first
    exact ⟨act, acts, fun committed valid => ih (after committed valid)⟩
  | commit next ih => exact ⟨first.1, ih first.2⟩
  | rollback next ih => exact ih first

theorem Safe.forget (safe : p.Safe S may K) :
    p.forget.Safe S may K :=
  Safe.bind safe fun _ _ => trivial

theorem safe_select_bind {q : σ → α} :
    (select q >>= k).Safe S may K ↔ ∀ s, K.Sees S s → (k (q s)).Safe S may K := Iff.rfl

theorem safe_ensure_bind {condition : Bool} {error : ε} {k : Unit → Prog σ κ ε β}
    (throws : condition = false → S.throws error)
    (goesOn : condition = true → (k ()).Safe S may K) :
    (ensure condition error >>= k).Safe S may K := by
  cases condition
  · exact throws rfl
  · exact goesOn rfl

omit [DecidableEq κ] in
/-- A commit of a transaction that knows of no change. -/
theorem settles_initial (refl : ∀ parts, may parts parts) :
    (Knowledge.initial : Knowledge W V).Settles S may :=
  ⟨fun w => Hold.settles_initial (S.inv w), fun committed _ _ => refl committed⟩

/-- Reading first teaches a handler nothing it could rely on. -/
theorem Safe.after_reads (reads : p.ReadOnly S.outside) (rest : ∀ a, (k a).Safe S may K) :
    (p >>= k).Safe S may K := by
  change (p.bind k).Safe S may K
  induction p with
  | done value => exact rest value
  | fail error => exact reads
  | read next ih => exact fun s _ => ih s (reads s rfl).2
  | lock row next ih => exact reads.elim
  | write row f next ih => exact reads.elim
  | commit next ih => exact reads.elim
  | rollback next ih => exact reads.elim

theorem ReadOnly.safe (reads : p.ReadOnly S.outside) : p.Safe S may K := by
  rw [← bind_pure p]
  exact .after_reads reads fun _ => trivial

/-- A handler that stays outside the parts knows, at every commit, of no change to them. -/
theorem Touches.safe (outside : p.Touches S.outside) (refl : ∀ parts, may parts parts) :
    p.Safe S may .initial := by
  induction p with
  | done value => trivial
  | fail error => exact outside
  | read next ih => exact fun s _ => ih s (outside s rfl).2
  | lock row next ih =>
    intro committed _
    rw [Knowledge.lock_other outside.1]
    exact ih outside.2
  | write row f next ih =>
    refine ⟨fun _ v => v, outside.2.1, fun committed _ => ?_⟩
    rw [Knowledge.lock_other outside.1, Knowledge.push_id]
    exact ih outside.2.2
  | commit next ih => exact ⟨settles_initial refl, ih outside⟩
  | rollback next ih => exact ih outside

end Prog

/-! ### Soundness -/

section Runs

variable {S : Parts σ κ ε W V} [DecidableEq κ] {may : ι → (W → V) → (W → V) → Prop}

/-- The knowledge `hold` about part `w` is true of thread `t`, which is thread `i`. -/
def Tracks (S : Parts σ κ ε W V) (c : Config ι σ κ ε) (i : Nat) (t : Thread ι σ κ ε) (w : W)
    (hold : Hold V) : Prop :=
  ∃ act : V → V, (∀ db, S.part (t.view db) w = act (S.part db w)) ∧
    match hold with
    | .free known => known = act
    | .held before now =>
      c.locks (S.lockOf w) = some i ∧ S.part c.db w = before ∧ act before = now

/-- Thread `t` goes on safely with what it knows. -/
def SafeThread (S : Parts σ κ ε W V) (may : ι → (W → V) → (W → V) → Prop) (c : Config ι σ κ ε) (i : Nat)
    (t : Thread ι σ κ ε) : Prop :=
  ∃ K : Knowledge W V, t.prog.Safe S (may t.request) K ∧ ∀ w, Tracks S c i t w (K w)

/-- Every part satisfies its invariant and every thread is safe. -/
structure Guarded (S : Parts σ κ ε W V) (may : ι → (W → V) → (W → V) → Prop) (c : Config ι σ κ ε) :
    Prop where
  valid : S.Valid (S.part c.db)
  threads : ∀ i t, c.threads[i]? = some t → SafeThread S may c i t

/-- What the threads of a configuration look at. -/
def Parts.Shows (S : Parts σ κ ε W V) (c : Config ι σ κ ε) : Prop :=
  ∀ (i : Nat) (t : Thread ι σ κ ε), c.threads[i]? = some t → S.shown (t.view c.db)

variable {c : Config ι σ κ ε} {i : Nat} {t : Thread ι σ κ ε} {hold : Hold V}

omit [DecidableEq κ] in
private theorem Tracks.sees {w : W} (tracks : Tracks S c i t w hold)
    (valid : S.Valid (S.part c.db)) :
    hold.Sees (S.inv w) (S.part (t.view c.db) w) := by
  obtain ⟨act, acts, known⟩ := tracks
  cases hold with
  | free known' =>
    subst known
    exact ⟨S.part c.db w, valid w, acts c.db⟩
  | held before now =>
    obtain ⟨-, rfl, rfl⟩ := known
    exact acts c.db

omit [DecidableEq κ] in
private theorem Tracks.frame {c c' : Config ι σ κ ε} {w : W} (tracks : Tracks S c i t w hold)
    (locks : c.locks (S.lockOf w) = some i → c'.locks (S.lockOf w) = some i)
    (parts : c.locks (S.lockOf w) = some i → S.part c'.db w = S.part c.db w) :
    Tracks S c' i t w hold := by
  obtain ⟨act, acts, known⟩ := tracks
  refine ⟨act, acts, ?_⟩
  cases hold with
  | free known' => exact known
  | held before now =>
    obtain ⟨mine, committed, result⟩ := known
    exact ⟨locks mine, (parts mine).trans committed, result⟩

omit [DecidableEq κ] in
private theorem tracks_initial (c : Config ι σ κ ε) (i : Nat) (t : Thread ι σ κ ε)
    (nothing : t.pending = []) (w : W) : Tracks S c i t w .initial :=
  ⟨fun v => v, fun db => by simp [Thread.view, nothing], rfl⟩

private theorem safe_resume {next : Prog σ κ ε Unit} (safe : next.Safe S (may t.request) .initial) :
    SafeThread S may c i (t.resume next) :=
  ⟨.initial, safe, fun w => tracks_initial c i _ rfl w⟩

private theorem set_safe {c c' : Config ι σ κ ε}
    (others : ∀ j u, j ≠ i → c.threads[j]? = some u → SafeThread S may c' j u)
    (this : SafeThread S may c' i t) (threads : c'.threads = c.threads.set i t) :
    ∀ j u, c'.threads[j]? = some u → SafeThread S may c' j u := by
  intro j u found
  rw [threads] at found
  by_cases same : j = i
  · subst same
    rw [List.getElem?_set_self'] at found
    obtain ⟨_, _, rfl⟩ := Option.map_eq_some_iff.mp found
    exact this
  · rw [List.getElem?_set_ne (fun h => same h.symm)] at found
    exact others j u same found

private theorem others_safe {c c' : Config ι σ κ ε} (guarded : Guarded S may c)
    (db : c'.db = c.db) (locks : ∀ j row, j ≠ i → c.locks row = some j → c'.locks row = some j) :
    ∀ j u, j ≠ i → c.threads[j]? = some u → SafeThread S may c' j u := by
  intro j u other found
  obtain ⟨K, safe, tracks⟩ := guarded.threads j u found
  refine ⟨K, safe, fun w => (tracks w).frame (locks j _ other) fun _ => ?_⟩
  rw [db]

omit [DecidableEq κ] in
private theorem locks_release_other {i j : Nat} {row : κ} (other : j ≠ i)
    (held : c.locks row = some j) : (c.release i).locks row = some j := by
  simp [Config.release, held, other]

private theorem acquired_locks {c c' : Config ι σ κ ε} {row : κ}
    (acquired : c.acquire row i = some c') :
    c' = { c with locks := Function.update c.locks row (some i) } ∧
      ∀ j row', j ≠ i → c.locks row' = some j → c'.locks row' = some j := by
  unfold Config.acquire at acquired
  split at acquired
  next free =>
    cases acquired
    refine ⟨rfl, fun j row' other held => ?_⟩
    -- a row another thread holds was not free
    have different : row' ≠ row := by
      rintro rfl
      rcases free with nobody | me
      · simp [held] at nobody
      · exact other (by simpa [held] using me)
    simpa [Function.update_of_ne different] using held
  next => cases acquired

private theorem Tracks.lock {w : W} (tracks : Tracks S c i t w hold) (row : κ) :
    Tracks S { c with locks := Function.update c.locks row (some i) } i t w
      (if S.lockOf w = row then hold.learn (S.part c.db w) else hold) := by
  obtain ⟨act, acts, known⟩ := tracks
  refine ⟨act, acts, ?_⟩
  by_cases same : S.lockOf w = row
  · rw [if_pos same]
    subst same
    have mine : Function.update c.locks (S.lockOf w) (some i) (S.lockOf w) = some i :=
      Function.update_self ..
    cases hold with
    | free known' =>
      subst known
      exact ⟨mine, rfl, rfl⟩
    | held before now => exact ⟨mine, known.2⟩
  · rw [if_neg same]
    cases hold with
    | free known' => exact known
    | held before now => exact ⟨(Function.update_of_ne same ..).trans known.1, known.2⟩

omit [DecidableEq κ] in
private theorem Tracks.push {w : W} (tracks : Tracks S c i t w hold) {f : σ → σ} {write : V → V}
    {next : Prog σ κ ε Unit} (writes : ∀ s, S.part (f s) w = write (S.part s w)) :
    Tracks S c i { t with prog := next, pending := t.pending ++ [f] } w (hold.push write) := by
  obtain ⟨act, acts, known⟩ := tracks
  refine ⟨fun v => write (act v), fun db => ?_, ?_⟩
  · have view : Thread.view { t with prog := next, pending := t.pending ++ [f] } db =
        f (t.view db) := by simp [Thread.view]
    rw [view, writes, acts]
  · cases hold with
    | free known' =>
      subst known
      rfl
    | held before now =>
      obtain ⟨mine, committed, rfl⟩ := known
      exact ⟨mine, committed, rfl⟩

omit [DecidableEq κ] in
private theorem Tracks.commit {w : W} (tracks : Tracks S c i t w hold)
    (settles : hold.Settles (S.inv w)) (valid : S.Valid (S.part c.db)) :
    S.part (t.view c.db) w = hold.after (S.part c.db w) ∧ hold.Agrees (S.part c.db w) ∧
      S.inv w (S.part (t.view c.db) w) ∧
      (S.part (t.view c.db) w = S.part c.db w ∨ c.locks (S.lockOf w) = some i) := by
  obtain ⟨act, acts, known⟩ := tracks
  rw [acts c.db]
  cases hold with
  | free known' =>
    subst known
    have same := settles _ (valid w)
    exact ⟨same, trivial, by rw [same]; exact valid w, .inl same⟩
  | held before now =>
    obtain ⟨mine, rfl, rfl⟩ := known
    exact ⟨rfl, rfl, settles, .inr mine⟩

/-- The parts move as `may` allows. -/
def Moves (S : Parts σ κ ε W V) (may : (W → V) → (W → V) → Prop) (db db' : σ) : Prop :=
  S.part db' = S.part db ∨ may (S.part db) (S.part db')

omit [DecidableEq κ] in
theorem Moves.refl (S : Parts σ κ ε W V) (may : (W → V) → (W → V) → Prop) (db : σ) :
    Moves S may db db := .inl rfl

private theorem step_guarded {c c' : Config ι σ κ ε} (guarded : Guarded S may c)
    (shows : S.Shows c) (found : c.threads[i]? = some t) (stepped : c.stepThread i t = some c') :
    Guarded S may c' ∧ Moves S (may t.request) c.db c'.db := by
  obtain ⟨K, safe, tracks⟩ := guarded.threads i t found
  unfold Config.stepThread at stepped
  cases progIs : t.prog with
  | done value => simp [progIs] at stepped
  | fail error => simp [progIs] at stepped
  | read next =>
    simp only [progIs, Option.some.injEq] at stepped
    subst stepped
    rw [progIs] at safe
    have seen : K.Sees S (t.view c.db) :=
      ⟨shows i t found, fun w => (tracks w).sees guarded.valid⟩
    have this : SafeThread S may (c.setThread i { t with prog := next (t.view c.db) }) i
        { t with prog := next (t.view c.db) } := ⟨K, safe _ seen, tracks⟩
    refine ⟨⟨guarded.valid, set_safe (c := c) ?_ this rfl⟩, .refl S _ _⟩
    exact others_safe guarded rfl fun _ _ _ held => held
  | lock row next =>
    simp only [progIs, Option.map_eq_some_iff] at stepped
    obtain ⟨locked, acquired, rfl⟩ := stepped
    obtain ⟨rfl, others⟩ := acquired_locks acquired
    rw [progIs] at safe
    refine ⟨⟨guarded.valid, set_safe (c := c) ?_ ⟨_, safe _ guarded.valid, ?_⟩ rfl⟩, .refl S _ _⟩
    · exact others_safe guarded rfl others
    · exact fun w => (tracks w).lock row
  | write row f next =>
    simp only [progIs, Option.map_eq_some_iff] at stepped
    obtain ⟨locked, acquired, rfl⟩ := stepped
    obtain ⟨rfl, others⟩ := acquired_locks acquired
    rw [progIs] at safe
    obtain ⟨act, acts, rest⟩ := safe
    refine ⟨⟨guarded.valid, set_safe (c := c) ?_ ⟨_, rest _ guarded.valid, ?_⟩ rfl⟩, .refl S _ _⟩
    · exact others_safe guarded rfl others
    · exact fun w => ((tracks w).lock row).push fun s => acts s w
  | commit next =>
    simp only [progIs, Option.some.injEq] at stepped
    subst stepped
    rw [progIs] at safe
    have moved := fun w => (tracks w).commit (safe.1.valid w) guarded.valid
    refine ⟨⟨fun w => (moved w).2.2.1, set_safe (c := c) ?_ (safe_resume safe.2) rfl⟩, .inr ?_⟩
    · intro j u other foundU
      obtain ⟨K', safe', tracks'⟩ := guarded.threads j u foundU
      refine ⟨K', safe', fun w => (tracks' w).frame (fun held => ?_) fun held => ?_⟩
      · exact locks_release_other (c := { c with db := t.view c.db }) other held
      · rcases (moved w).2.2.2 with same | mine
        · exact same
        · -- two threads cannot hold the lock on one part
          rw [held] at mine
          exact absurd (Option.some.inj mine) other
    · have allowed := safe.1.moves (S.part c.db) guarded.valid fun w => (moved w).2.1
      rwa [← funext fun w => (moved w).1] at allowed
  | rollback next =>
    simp only [progIs, Option.some.injEq] at stepped
    subst stepped
    rw [progIs] at safe
    refine ⟨⟨guarded.valid, set_safe (c := c) ?_ (safe_resume safe) rfl⟩, .refl S _ _⟩
    exact others_safe guarded rfl fun _ _ other held => locks_release_other other held

variable {handler : ι → Prog σ κ ε Unit} {ok : Config ι σ κ ε → Event ι → Prop}

/-- Every handler that may be started is safe. -/
def SafeHandlers (S : Parts σ κ ε W V) (may : ι → (W → V) → (W → V) → Prop)
    (ok : Config ι σ κ ε → Event ι → Prop) (handler : ι → Prog σ κ ε Unit) : Prop :=
  ∀ c request, ok c (.start request) → (handler request).Safe S (may request) .initial

theorem apply_guarded (handlers : SafeHandlers S may ok handler) {c c' : Config ι σ κ ε}
    {e : Event ι} (guarded : Guarded S may c) (shows : S.Shows c) (allowed : ok c e)
    (applied : c.apply handler e = some c') : Guarded S may c' := by
  cases e with
  | start request =>
    simp only [Config.apply, Option.some.injEq] at applied
    subst applied
    refine ⟨guarded.valid, fun i t found => ?_⟩
    rw [List.getElem?_append] at found
    split at found
    next =>
      obtain ⟨K, safe, tracks⟩ := guarded.threads i t found
      exact ⟨K, safe, fun w => (tracks w).frame (fun held => held) fun _ => rfl⟩
    next =>
      have new := List.mem_of_getElem? found
      rw [List.mem_singleton] at new
      subst new
      exact ⟨.initial, handlers c request allowed, fun w => tracks_initial _ i _ rfl w⟩
  | advance i =>
    obtain ⟨t, found, stepped⟩ := Option.bind_eq_some_iff.mp applied
    exact (step_guarded guarded shows found stepped).1
  | crash i =>
    obtain ⟨t, found, rfl⟩ := Option.map_eq_some_iff.mp applied
    have finished : SafeThread S may ((c.release i).setThread i (t.resume (.done ()))) i
        (t.resume (.done ())) := safe_resume trivial
    refine ⟨guarded.valid, set_safe (c := c) ?_ finished rfl⟩
    exact others_safe guarded rfl fun _ _ other held => locks_release_other other held

/-- In every run of safe handlers every part satisfies its invariant at all times. What the
statements look at need only be known of the configurations on the way. -/
theorem Reaches.guarded (handlers : SafeHandlers S may ok handler) {db : σ}
    (valid : S.Valid (S.part db)) (run : Reaches handler ok (.idle db) c)
    (shows : ∀ c', Reaches handler ok (.idle db) c' → Reaches handler ok c' c → S.Shows c') :
    Guarded S may c := by
  suffices along : ∀ c', Reaches handler ok (.idle db) c' → Reaches handler ok c' c →
      Guarded S may c' from along c run .refl
  intro c' before
  induction before with
  | refl => exact fun _ => ⟨valid, fun i t found => by simp [Config.idle] at found⟩
  | step before allowed applied ih =>
    intro after
    have whole := after.head allowed applied
    exact apply_guarded handlers (ih whole) (shows _ before whole) allowed applied

/-- What one event does to the parts: nothing, or what the request of the thread that commits may
do. -/
theorem Guarded.moves {c c' : Config ι σ κ ε} {e : Event ι} (guarded : Guarded S may c)
    (shows : S.Shows c) (applied : c.apply handler e = some c') :
    c'.db = c.db ∨ ∃ i t, e = .advance i ∧ c.threads[i]? = some t ∧
      Moves S (may t.request) c.db c'.db := by
  cases e with
  | start request =>
    simp only [Config.apply, Option.some.injEq] at applied
    subst applied
    exact .inl rfl
  | advance i =>
    obtain ⟨t, found, stepped⟩ := Option.bind_eq_some_iff.mp applied
    exact .inr ⟨i, t, rfl, found, (step_guarded guarded shows found stepped).2⟩
  | crash i =>
    obtain ⟨t, -, rfl⟩ := Option.map_eq_some_iff.mp applied
    exact .inl rfl

/-- The error a thread has ended with is one its handler may throw. -/
theorem Guarded.throws (guarded : Guarded S may c) {error : ε} (found : c.threads[i]? = some t)
    (ended : t.prog = .fail error) : S.throws error := by
  obtain ⟨K, safe, -⟩ := guarded.threads i t found
  rw [ended] at safe
  exact safe

end Runs

end ReadCommitted
