import OlNode.ReadCommitted.Interleaving
import OlNode.ReadCommitted.Frame

/-!
# What a commit does, whatever was read before it

The writes of a transaction are composed before they are committed. Here they are followed without
regard to what the handler has read, so what is known of a commit holds in every interleaving.
-/
namespace ReadCommitted

variable {ι σ κ ε α β : Type}

namespace Tx

variable {w : σ → σ}

/-- What is known of a body's writes without following its reads: the composition of all writes
satisfies `post`. -/
def Effects (post : α → (σ → σ) → Prop) : Tx σ κ ε α → (σ → σ) → Prop
  | .done value, w => post value w
  | .fail _, _ => True
  | .read next, w => ∀ s, (next s).Effects post w
  | .lock _ next, w => next.Effects post w
  | .write _ f next, w => next.Effects post (f ∘ w)

variable {post : β → (σ → σ) → Prop} {x : Tx σ κ ε α}

theorem Effects.bind {k : α → Tx σ κ ε β}
    (first : x.Effects (fun a w' => (k a).Effects post w') w) : (x >>= k).Effects post w := by
  change (x.bind k).Effects post w
  induction x generalizing w with
  | done value => exact first
  | fail error => trivial
  | read next ih => exact fun t => ih t (first t)
  | lock row next ih => exact ih first
  | write row f next ih => exact ih first

theorem Effects.imp {post post' : α → (σ → σ) → Prop} (first : x.Effects post w)
    (weaker : ∀ a w, post a w → post' a w) : x.Effects post' w := by
  induction x generalizing w with
  | done value => exact weaker value w first
  | fail error => trivial
  | read next ih => exact fun t => ih t (first t)
  | lock row next ih => exact ih first
  | write row f next ih => exact ih first

/-- What is known of the writes holds of the state the body ends in. -/
theorem Effects.eval {post : α → (σ → σ) → Prop} (effects : x.Effects post w) {s s' : σ} {a : α}
    (ended : x.eval (w s) = .ok (a, s')) : ∃ w', post a w' ∧ s' = w' s := by
  induction x generalizing w with
  | done value =>
    cases ended
    exact ⟨w, effects, rfl⟩
  | fail error => cases ended
  | read next ih => exact ih _ (effects _) ended
  | lock row next ih => exact ih effects ended
  | write row f next ih => exact ih effects ended

theorem effects_pure {post : α → (σ → σ) → Prop} (value : α) :
    (pure value : Tx σ κ ε α).Effects post w ↔ post value w := Iff.rfl

theorem effects_select_bind (q : σ → α) (k : α → Tx σ κ ε β) :
    (select q >>= k).Effects post w ↔ ∀ s, (k (q s)).Effects post w := Iff.rfl

theorem effects_lockRow_bind (row : κ) (k : Unit → Tx σ κ ε β) :
    (lockRow row >>= k).Effects post w ↔ (k ()).Effects post w := Iff.rfl

theorem effects_update_bind (row : κ) (f : σ → σ) (k : Unit → Tx σ κ ε β) :
    (update row f >>= k).Effects post w ↔ (k ()).Effects post (f ∘ w) := Iff.rfl

theorem effects_ensure_bind {condition : Bool} {error : ε} {k : Unit → Tx σ κ ε β}
    (rest : condition = true → (k ()).Effects post w) :
    (ensure condition error >>= k).Effects post w := by
  cases condition
  · trivial
  · exact rest rfl

/-- Writes that all satisfy a property that survives composition leave it to the whole body, on
top of what was written before. -/
theorem Writes.effects_after {P : (σ → σ) → Prop} {Q : (σ → σ) → Prop}
    (comp : ∀ f g, P f → Q g → Q (f ∘ g)) (writes : x.Writes P) (before : Q w) :
    x.Effects (fun _ w' => Q w') w := by
  induction x generalizing w with
  | done value => exact before
  | fail error => trivial
  | read next ih => exact fun t => ih t (writes t) before
  | lock row next ih => exact ih writes before
  | write row f next ih => exact ih writes.2 (comp f w writes.1 before)

/-- The writes of a body on a component are writes of that component. -/
theorem Effects.zoom {τ : Type} {get : τ → σ} {set : σ → τ → τ} {post : α → (τ → τ) → Prop}
    (getSet : ∀ s t, get (set s t) = s) (setSet : ∀ s s' t, set s (set s' t) = set s t)
    {g : σ → σ} {v : τ → τ}
    (first : x.Effects (fun a g' => post a fun t => set (g' (get (v t))) (v t)) g) :
    (x.zoom get set).Effects post fun t => set (g (get (v t))) (v t) := by
  induction x generalizing g with
  | done value => exact first
  | fail error => trivial
  | read next ih => exact fun t => ih (get t) (first (get t))
  | lock row next ih => exact ih first
  | write row f next ih =>
    have written := ih first
    -- The second write of the component replaces the first one.
    have composed : (fun t => set (f (get t)) t) ∘ (fun t => set (g (get (v t))) (v t)) =
        fun t => set ((f ∘ g) (get (v t))) (v t) := by
      funext t
      simp only [Function.comp_apply, getSet, setSet]
    change (next.zoom get set).Effects post _
    rw [composed]
    exact written

end Tx

namespace Prog

variable {P : (σ → σ) → Prop} {w : σ → σ}

/-- With the writes `w` of its open transaction, the handler commits only compositions of writes
that satisfy `P`. -/
def Commits (P : (σ → σ) → Prop) : Prog σ κ ε α → (σ → σ) → Prop
  | .done _, w => w = id
  | .fail _, w => w = id
  | .read next, w => ∀ s, (next s).Commits P w
  | .lock _ next, w => next.Commits P w
  | .write _ f next, w => next.Commits P (f ∘ w)
  | .commit next, w => P w ∧ next.Commits P id
  | .rollback next, _ => next.Commits P id

theorem Commits.bind {p : Prog σ κ ε α} {k : α → Prog σ κ ε β} (first : p.Commits P w)
    (rest : ∀ a, (k a).Commits P id) : (p >>= k).Commits P w := by
  change (p.bind k).Commits P w
  induction p generalizing w with
  | done value => exact (show w = id from first) ▸ rest value
  | fail error => exact first
  | read next ih => exact fun s => ih s (first s)
  | lock row next ih => exact ih first
  | write row f next ih => exact ih first
  | commit next ih => exact ⟨first.1, ih first.2⟩
  | rollback next ih => exact ih first

theorem Commits.attempt {p : Prog σ κ ε α} (first : p.Commits P w) : p.attempt.Commits P w := by
  induction p generalizing w with
  | done value => exact first
  | fail error => exact first
  | read next ih => exact fun s => ih s (first s)
  | lock row next ih => exact ih first
  | write row f next ih => exact ih first
  | commit next ih => exact ⟨first.1, ih first.2⟩
  | rollback next ih => exact ih first

theorem commits_pure (value : α) : (pure value : Prog σ κ ε α).Commits P id := rfl

theorem commits_fail (error : ε) : (Prog.fail error : Prog σ κ ε α).Commits P id := rfl

theorem commits_select_bind {q : σ → α} {k : α → Prog σ κ ε β}
    (rest : ∀ s, (k (q s)).Commits P id) : (select q >>= k).Commits P id := rest

theorem commits_ensure_bind {condition : Bool} {error : ε} {k : Unit → Prog σ κ ε β}
    (rest : condition = true → (k ()).Commits P id) :
    (ensure condition error >>= k).Commits P id := by
  cases condition
  · rfl
  · exact rest rfl

theorem commits_run {body : Tx σ κ ε α} {ok : α → Prog σ κ ε β} {caught : ε → Prog σ κ ε β}
    (first : body.Effects (fun a w' => P w' ∧ (ok a).Commits P id) w)
    (thrown : ∀ e, (caught e).Commits P id) : (body.run ok caught).Commits P w := by
  induction body generalizing w with
  | done value => exact first
  | fail error => exact thrown error
  | read next ih => exact fun s => ih s (first s)
  | lock row next ih => exact ih first
  | write row f next ih => exact ih first

theorem commits_transaction {body : Tx σ κ ε α} (first : body.Effects (fun _ w' => P w') id) :
    (transaction body).Commits P id :=
  commits_run (first.imp fun _ _ holds => ⟨holds, rfl⟩) fun _ => rfl

theorem commits_autocommit {row : κ} {f : σ → σ} (holds : P f) :
    (autocommit row f : Prog σ κ ε Unit).Commits P id :=
  commits_transaction holds

end Prog

/-- From the end of its first transaction on, the handler commits only compositions of writes that
satisfy `P`. -/
def Prog.CommitsAfterFirst (P : (σ → σ) → Prop) : Prog σ κ ε α → Prop
  | .done _ => True
  | .fail _ => True
  | .read next => ∀ s, (next s).CommitsAfterFirst P
  | .lock _ next => next.CommitsAfterFirst P
  | .write _ _ next => next.CommitsAfterFirst P
  | .commit next => next.Commits P id
  | .rollback next => next.Commits P id

namespace Prog

theorem CommitsAfterFirst.forget {p : Prog σ κ ε α} (first : p.CommitsAfterFirst P) :
    p.forget.CommitsAfterFirst P := by
  change (p.bind fun _ => .done ()).CommitsAfterFirst P
  induction p with
  | done value => trivial
  | fail error => trivial
  | read next ih => exact fun s => ih s (first s)
  | lock row next ih => exact ih first
  | write row f next ih => exact ih first
  | commit next ih => exact Commits.bind first fun _ => rfl
  | rollback next ih => exact Commits.bind first fun _ => rfl

theorem commitsAfterFirst_select_bind {q : σ → α} {k : α → Prog σ κ ε β}
    (rest : ∀ s, (k (q s)).CommitsAfterFirst P) : (select q >>= k).CommitsAfterFirst P := rest

theorem commitsAfterFirst_ensure_bind {condition : Bool} {error : ε} {k : Unit → Prog σ κ ε β}
    (rest : condition = true → (k ()).CommitsAfterFirst P) :
    (ensure condition error >>= k).CommitsAfterFirst P := by
  cases condition
  · trivial
  · exact rest rfl

theorem commitsAfterFirst_transaction_bind {body : Tx σ κ ε α} {k : α → Prog σ κ ε β}
    (rest : ∀ a, (k a).Commits P id) : (transaction body >>= k).CommitsAfterFirst P := by
  rw [transaction_bind]
  induction body with
  | done value => exact rest value
  | fail error => rfl
  | read next ih => exact fun s => ih s
  | lock row next ih => exact ih
  | write row f next ih => exact ih

end Prog

/-! ### Runs -/

variable {P : (σ → σ) → Prop}

theorem Thread.commits_moves {t t' : Thread ι σ κ ε} {db db' : σ}
    (commits : t.prog.Commits P t.view) (moves : t.Moves db t' db') :
    t'.prog.Commits P t'.view ∧ (db' = db ∨ P t.view ∧ db' = t.view db) := by
  cases moves with
  | read progIs =>
    rw [progIs] at commits
    exact ⟨commits _, .inl rfl⟩
  | lock progIs =>
    rw [progIs] at commits
    exact ⟨commits, .inl rfl⟩
  | @write row f next progIs =>
    rw [progIs] at commits
    rw [Thread.view_write]
    exact ⟨commits, .inl rfl⟩
  | commit progIs =>
    rw [progIs] at commits
    exact ⟨commits.2, .inr ⟨commits.1, rfl⟩⟩
  | rollback progIs =>
    rw [progIs] at commits
    exact ⟨commits, .inl rfl⟩

theorem Thread.origin_moves {t t' : Thread ι σ κ ε} {db db' : σ} {p : Prog σ κ ε Unit}
    (old : (t.origin = p ∧ t.prog.CommitsAfterFirst P) ∨ t.prog.Commits P t.view)
    (moves : t.Moves db t' db') :
    (t'.origin = p ∧ t'.prog.CommitsAfterFirst P) ∨ t'.prog.Commits P t'.view := by
  rcases old with ⟨begun, first⟩ | later
  · cases moves with
    | read progIs =>
      rw [progIs] at first
      exact .inl ⟨begun, first _⟩
    | lock progIs =>
      rw [progIs] at first
      exact .inl ⟨begun, first⟩
    | write progIs =>
      rw [progIs] at first
      exact .inl ⟨begun, first⟩
    | commit progIs =>
      rw [progIs] at first
      exact .inr first
    | rollback progIs =>
      rw [progIs] at first
      exact .inr first
  · exact .inr (Thread.commits_moves later moves).1

variable [DecidableEq κ] {handler : ι → Prog σ κ ε Unit} {ok : Config ι σ κ ε → Event ι → Prop}

/-- Every event leaves the state alone or applies the writes of the thread that commits. -/
theorem Config.apply_commits {c c' : Config ι σ κ ε} {e : Event ι}
    (threads : ∀ t ∈ c.threads, t.prog.Commits P t.view) (applied : c.apply handler e = some c') :
    c'.db = c.db ∨ ∃ i t, e = .advance i ∧ c.threads[i]? = some t ∧ P t.view ∧
      c'.db = t.view c.db := by
  rcases Config.apply_cases applied with
    ⟨request, -, same, -⟩ | ⟨i, t, t', rfl, found, moves, -⟩ | ⟨i, t, -, -, same, -⟩
  · exact .inl same
  · rcases (Thread.commits_moves (threads t (List.mem_of_getElem? found)) moves).2 with
      same | ⟨holds, now⟩
    · exact .inl same
    · exact .inr ⟨i, t, rfl, found, holds, now⟩
  · exact .inl same

/-- In every run all threads commit what their handlers commit. -/
theorem Reaches.commits (handlers : ∀ request, (handler request).Commits P id) {db : σ}
    {c : Config ι σ κ ε} (run : Reaches handler ok (Config.idle db) c) :
    ∀ t ∈ c.threads, t.prog.Commits P t.view := by
  refine run.invariant (fun c => ∀ t ∈ c.threads, t.prog.Commits P t.view)
    (by simp [Config.idle]) ?_
  intro before e after inv _ applied
  refine Config.forall_threads applied inv ?_ ?_ ?_
  · exact fun request _ => handlers request
  · exact fun t t' commits moves => (Thread.commits_moves commits moves).1
  · exact fun t _ => rfl

/-- In every run a thread of such a request either is still in its first transaction, begun with
the request, or commits only what satisfies `P`. -/
theorem Reaches.origins (mine : ι → Prop)
    (handlers : ∀ request, mine request → (handler request).CommitsAfterFirst P) {db : σ}
    {c : Config ι σ κ ε} (run : Reaches handler ok (Config.idle db) c) :
    ∀ t ∈ c.threads, mine t.request →
      (t.origin = handler t.request ∧ t.prog.CommitsAfterFirst P) ∨ t.prog.Commits P t.view := by
  refine run.invariant (fun c => ∀ t ∈ c.threads, mine t.request →
    (t.origin = handler t.request ∧ t.prog.CommitsAfterFirst P) ∨ t.prog.Commits P t.view)
    (by simp [Config.idle]) ?_
  intro before e after inv _ applied
  refine Config.forall_threads applied inv ?_ ?_ ?_
  · exact fun request _ own => .inl ⟨rfl, handlers request own⟩
  · intro t t' old moves own
    rw [moves.request]
    exact Thread.origin_moves (old (moves.request ▸ own)) moves
  · exact fun t _ _ => .inr rfl

end ReadCommitted
