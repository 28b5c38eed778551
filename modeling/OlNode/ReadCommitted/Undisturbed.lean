import OlNode.ReadCommitted.Exclusive

/-!
# Requests that overlap but do not disturb each other

The requests of one kind (`mine`) may run at once. Most of what they commit is in `env`, and a
request that has begun can bear it. The other commits (`step`) are only made while no other of
these requests minds: each of them is finished, has not read anything yet, or serves from the new
state on as well. Then every request still finds what it relies on, and the state is at rest after
every commit.
-/
namespace ReadCommitted

variable {ι σ κ ε : Type}

/-- The thread has not made its first statement. -/
def Thread.Unbegun (handler : ι → Prog σ κ ε Unit) (t : Thread ι σ κ ε) : Prop :=
  t = ⟨t.request, handler t.request, handler t.request, []⟩

namespace Discipline

variable (D : Discipline ι σ) (handler : ι → Prog σ κ ε Unit)

/-- In `db` the thread will do what it should. -/
def Served (t : Thread ι σ κ ε) (db : σ) : Prop :=
  t.prog.finished = true ∨ t.Unbegun handler ∨
    t.prog.Serves D (fun _ s => D.rest s) t.view db

/-- No request of `mine` except thread `i` minds that `db` is committed. -/
def Apart (c : Config ι σ κ ε) (i : Nat) (db : σ) : Prop :=
  ∀ (j : Nat) (u : Thread ι σ κ ε), j ≠ i → c.threads[j]? = some u → D.mine u.request →
    D.Served handler u db

/-- The state of a run in which nobody is disturbed. -/
structure Tracked (c : Config ι σ κ ε) : Prop where
  rest : D.rest c.db
  kept : ∀ (i : Nat) (t : Thread ι σ κ ε), c.threads[i]? = some t → D.mine t.request →
    D.Served handler t c.db

variable {D} {handler}

theorem tracked_idle {db : σ} (start : D.rest db) :
    D.Tracked handler (Config.idle db : Config ι σ κ ε) where
  rest := start
  kept i t found := by simp [Config.idle] at found

private theorem Tracked.serves {c : Config ι σ κ ε} {i : Nat} {t t' : Thread ι σ κ ε} {db' : σ}
    (handlers : ∀ request, D.mine request → ∀ s, D.rest s →
      (handler request).Serves D (fun _ t => D.rest t) id s)
    (tracked : D.Tracked handler c) (found : c.threads[i]? = some t) (mine : D.mine t.request)
    (moves : t.Moves c.db t' db') : t.prog.Serves D (fun _ s => D.rest s) t.view c.db := by
  rcases tracked.kept i t found mine with finished | unbegun | serves
  · simp [moves.unfinished] at finished
  · rw [unbegun]
    exact handlers t.request mine c.db tracked.rest
  · exact serves

private theorem Tracked.others {c : Config ι σ κ ε} {i j : Nat} {u : Thread ι σ κ ε} {db' : σ}
    (tracked : D.Tracked handler c) (apart : D.env c.db db' ∨ D.Apart handler c i db')
    (different : j ≠ i) (found : c.threads[j]? = some u) (mine : D.mine u.request) :
    D.Served handler u db' := by
  rcases apart with moved | apart
  · rcases tracked.kept j u found mine with finished | unbegun | serves
    · exact .inl finished
    · exact .inr (.inl unbegun)
    · exact .inr (.inr (serves.moved (fun _ _ _ => D.rest_stable _ _) moved))
  · exact apart j u different found mine

variable [DecidableEq κ]

/-- One event of a run in which nobody is disturbed. -/
theorem Tracked.apply
    (handlers : ∀ request, D.mine request → ∀ s, D.rest s →
      (handler request).Serves D (fun _ t => D.rest t) id s)
    (mayStop : ∀ s, D.mayStop s)
    {c c' : Config ι σ κ ε} {e : Event ι} (tracked : D.Tracked handler c)
    (others : ∀ i t t', e = .advance i → c.threads[i]? = some t → ¬ D.mine t.request →
      t.Moves c.db t' c'.db → D.env c.db c'.db)
    (apart : ∀ i, e = .advance i → D.step c.db c'.db → D.rest c'.db →
      D.env c.db c'.db ∨ D.Apart handler c i c'.db)
    (applied : c.apply handler e = some c') :
    D.Tracked handler c' ∧ (D.env c.db c'.db ∨ D.step c.db c'.db) := by
  rcases Config.apply_cases applied with
    ⟨request, rfl, same, threads⟩ | ⟨i, t, t', rfl, found, moves, threads⟩ |
    ⟨i, t, rfl, found, same, threads⟩
  · refine ⟨⟨same ▸ tracked.rest, ?_⟩, .inl (same ▸ D.refl c.db)⟩
    intro j u foundU mine
    rw [threads] at foundU
    rw [same]
    rcases getElem?_append_some foundU with ⟨-, rfl⟩ | foundU
    · exact .inr (.inl rfl)
    · exact tracked.kept j u foundU mine
  · have kept : ∀ (rest : D.rest c'.db) (apart : D.env c.db c'.db ∨ D.Apart handler c i c'.db)
        (own : D.mine t'.request → t'.prog.Serves D (fun _ s => D.rest s) t'.view c'.db),
        D.Tracked handler c' := by
      intro rest apart own
      refine ⟨rest, fun j u foundU mine => ?_⟩
      rw [threads] at foundU
      rcases getElem?_set_some foundU with ⟨-, rfl⟩ | ⟨different, foundU⟩
      · exact .inr (.inr (own mine))
      · exact tracked.others apart different foundU mine
    by_cases mine : D.mine t.request
    · obtain ⟨how, serves⟩ := (tracked.serves handlers found mine moves).moves moves
      rcases how with same | ⟨step, calm⟩
      · have moved : D.env c.db c'.db := same ▸ D.refl c.db
        exact ⟨kept (same ▸ tracked.rest) (.inl moved) fun _ => serves, .inl moved⟩
      · have rest := calm (mayStop _)
        exact ⟨kept rest (apart i rfl step rest) fun _ => serves, .inr step⟩
    · have moved := others i t t' rfl found mine moves
      have foreign : ¬ D.mine t'.request := moves.request ▸ mine
      exact ⟨kept (D.rest_stable _ _ moved tracked.rest) (.inl moved)
        fun own => absurd own foreign, .inl moved⟩
  · refine ⟨⟨same ▸ tracked.rest, ?_⟩, .inl (same ▸ D.refl c.db)⟩
    intro j u foundU mine
    rw [threads] at foundU
    rw [same]
    rcases getElem?_set_some foundU with ⟨-, rfl⟩ | ⟨-, foundU⟩
    · exact .inl rfl
    · exact tracked.kept j u foundU mine

end Discipline

end ReadCommitted
