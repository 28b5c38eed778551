import OlNode.ReadCommitted.Effects
import OlNode.ReadCommitted.Fresh

/-!
# Handlers that commit in phases

Where a handler commits more than once, the others may have to rely on what it has committed and
still owes. A phase records that. Each commit of a handler leads from its phase to the next one, so
an invariant of a run may speak of the database and of the phases of all threads together. In a
phase in which it may not end, a handler is bound to make its next commit.
-/
namespace ReadCommitted

variable {ι σ κ ε α β G : Type}

/-- The phase a request begins in, the commits of each phase and where they lead, the phases in
which a handler may end or roll back, and the phase of a thread that is no longer there. -/
structure Phases (ι σ G : Type) where
  first : ι → G
  next : ι → G → (σ → σ) → G → Prop
  mayEnd : G → Prop
  gone : G
  gone_ends : mayEnd gone

variable {P : Phases ι σ G} {r : ι} {g : G} {w : σ → σ}

namespace Prog

/-- In phase `g`, with the writes `w` of its open transaction, the handler commits as the phases
of request `r` say; what it returns, with the phase it is in then, satisfies `Q`. -/
def Follows (P : Phases ι σ G) (r : ι) (Q : α → G → (σ → σ) → Prop) :
    Prog σ κ ε α → G → (σ → σ) → Prop
  | .done value, g, w => Q value g w
  | .fail _, g, _ => P.mayEnd g
  | .read next, g, w => ∀ s, (next s).Follows P r Q g w
  | .lock _ next, g, w => next.Follows P r Q g w
  | .write _ f next, g, w => next.Follows P r Q g (f ∘ w)
  | .commit next, g, w => ∃ g', P.next r g w g' ∧ next.Follows P r Q g' id
  | .rollback next, g, _ => P.mayEnd g ∧ next.Follows P r Q g id

variable {Q : α → G → (σ → σ) → Prop} {R : β → G → (σ → σ) → Prop} {p : Prog σ κ ε α}

theorem Follows.bind {k : α → Prog σ κ ε β}
    (first : p.Follows P r (fun a g' w' => (k a).Follows P r R g' w') g w) :
    (p >>= k).Follows P r R g w := by
  change (p.bind k).Follows P r R g w
  induction p generalizing g w with
  | done value => exact first
  | fail error => exact first
  | read next ih => exact fun s => ih s (first s)
  | lock row next ih => exact ih first
  | write row f next ih => exact ih first
  | commit next ih =>
    obtain ⟨g', step, rest⟩ := first
    exact ⟨g', step, ih rest⟩
  | rollback next ih => exact ⟨first.1, ih first.2⟩

theorem Follows.imp {Q' : α → G → (σ → σ) → Prop} (first : p.Follows P r Q g w)
    (weaker : ∀ a g w, Q a g w → Q' a g w) : p.Follows P r Q' g w := by
  induction p generalizing g w with
  | done value => exact weaker value g w first
  | fail error => exact first
  | read next ih => exact fun s => ih s (first s)
  | lock row next ih => exact ih first
  | write row f next ih => exact ih first
  | commit next ih =>
    obtain ⟨g', step, rest⟩ := first
    exact ⟨g', step, ih rest⟩
  | rollback next ih => exact ⟨first.1, ih first.2⟩

theorem follows_select_bind {q : σ → β} {k : β → Prog σ κ ε α}
    (rest : ∀ s, (k (q s)).Follows P r Q g w) : (select q >>= k).Follows P r Q g w := rest

theorem follows_ensure_bind {condition : Bool} {error : ε} {k : Unit → Prog σ κ ε α}
    (ends : P.mayEnd g) (rest : condition = true → (k ()).Follows P r Q g w) :
    (ensure condition error >>= k).Follows P r Q g w := by
  cases condition
  · exact ends
  · exact rest rfl

theorem follows_run {body : Tx σ κ ε β} {ok : β → Prog σ κ ε α} {caught : ε → Prog σ κ ε α}
    (ends : P.mayEnd g)
    (first : body.Effects (fun b w' => ∃ g', P.next r g w' g' ∧ (ok b).Follows P r Q g' id) w)
    (thrown : ∀ e, (caught e).Follows P r Q g id) : (body.run ok caught).Follows P r Q g w := by
  induction body generalizing w with
  | done value => exact first
  | fail error => exact ⟨ends, thrown error⟩
  | read next ih => exact fun s => ih s (first s)
  | lock row next ih => exact ih first
  | write row f next ih => exact ih first

theorem follows_transaction_bind {body : Tx σ κ ε β} {k : β → Prog σ κ ε α} (ends : P.mayEnd g)
    (first : body.Effects (fun b w' => ∃ g', P.next r g w' g' ∧ (k b).Follows P r Q g' id) id) :
    (transaction body >>= k).Follows P r Q g id := by
  rw [transaction_bind]
  exact follows_run ends first fun _ => ends

/-- A single statement cannot fail, so it may stand in a phase that must go on. -/
theorem follows_autocommit_bind {row : κ} {f : σ → σ} {k : Unit → Prog σ κ ε α} (g' : G)
    (step : P.next r g f g') (rest : (k ()).Follows P r Q g' id) :
    (autocommit row f >>= k).Follows P r Q g id := by
  rw [autocommit, transaction_bind]
  exact ⟨g', step, rest⟩

/-- A handler all of whose writes the phase allows, however they are composed, stays in it. -/
theorem Writes.follows {E A : (σ → σ) → Prop} (writes : p.Writes E)
    (comp : ∀ f w, E f → A w → A (f ∘ w)) (atFirst : A id) (ends : P.mayEnd g)
    (stays : ∀ w, A w → P.next r g w g) (so : A w) :
    p.Follows P r (fun _ g' _ => g' = g) g w := by
  induction p generalizing w with
  | done value => rfl
  | fail error => exact ends
  | read next ih => exact fun s => ih s (writes s) so
  | lock row next ih => exact ih writes so
  | write row f next ih => exact ih writes.2 (comp f w writes.1 so)
  | commit next ih => exact ⟨g, stays w so, ih writes atFirst⟩
  | rollback next ih => exact ⟨ends, ih writes atFirst⟩

/-- In a phase in which it may not end, a handler is bound to commit what the phase says. -/
theorem Follows.segment (follows : p.Follows P r Q g w) (bound : ¬ P.mayEnd g)
    (returns : ∀ a w, ¬ Q a g w) (s : σ) :
    ∃ w' g' k, P.next r g w' g' ∧ p.segment (w s) = some (w' s, k) := by
  induction p generalizing w with
  | done value => exact absurd follows (returns value w)
  | fail error => exact absurd follows bound
  | read next ih => exact ih (w s) (follows (w s))
  | lock row next ih => exact ih follows
  | write row f next ih => exact ih follows
  | commit next ih =>
    obtain ⟨g', step, -⟩ := follows
    exact ⟨w, g', next, step, rfl⟩
  | rollback next ih => exact absurd follows.1 bound

end Prog

/-! ### Runs -/

/-- Every thread is in its phase, and there are no others. -/
structure Phased (P : Phases ι σ G) (c : Config ι σ κ ε) (phase : Nat → G) : Prop where
  threads : ∀ (i : Nat) (t : Thread ι σ κ ε), c.threads[i]? = some t →
    t.prog.Follows P t.request (fun _ g _ => P.mayEnd g) (phase i) t.view
  absent : ∀ i, c.threads.length ≤ i → phase i = P.gone

/-- What an event does to the database and the phases. -/
inductive PhaseMove (P : Phases ι σ G) (c c' : Config ι σ κ ε) (phase : Nat → G) :
    Event ι → (Nat → G) → Prop where
  | started (request : ι) (same : c'.db = c.db) :
      PhaseMove P c c' phase (.start request)
        (Function.update phase c.threads.length (P.first request))
  | still (i : Nat) (same : c'.db = c.db) : PhaseMove P c c' phase (.advance i) phase
  | committed (i : Nat) (t : Thread ι σ κ ε) (g : G) (found : c.threads[i]? = some t)
      (step : P.next t.request (phase i) t.view g) (now : c'.db = t.view c.db) :
      PhaseMove P c c' phase (.advance i) (Function.update phase i g)
  | died (i : Nat) (t : Thread ι σ κ ε) (found : c.threads[i]? = some t) (same : c'.db = c.db) :
      PhaseMove P c c' phase (.crash i) (Function.update phase i P.gone)

theorem Thread.follows_moves {t t' : Thread ι σ κ ε} {db db' : σ}
    (follows : t.prog.Follows P t.request (fun _ g _ => P.mayEnd g) g t.view) (moves : t.Moves db t' db') :
    ∃ g', t'.prog.Follows P t.request (fun _ g _ => P.mayEnd g) g' t'.view ∧
      (g' = g ∧ db' = db ∨ P.next t.request g t.view g' ∧ db' = t.view db) := by
  cases moves with
  | read progIs =>
    rw [progIs] at follows
    exact ⟨g, follows _, .inl ⟨rfl, rfl⟩⟩
  | lock progIs =>
    rw [progIs] at follows
    exact ⟨g, follows, .inl ⟨rfl, rfl⟩⟩
  | write progIs =>
    rw [progIs] at follows
    rw [Thread.view_write]
    exact ⟨g, follows, .inl ⟨rfl, rfl⟩⟩
  | commit progIs =>
    rw [progIs] at follows
    obtain ⟨g', step, rest⟩ := follows
    exact ⟨g', rest, .inr ⟨step, rfl⟩⟩
  | rollback progIs =>
    rw [progIs] at follows
    exact ⟨g, follows.2, .inl ⟨rfl, rfl⟩⟩

/-- A thread in a phase in which it may not end is there and has not ended. -/
theorem Phased.bound {c : Config ι σ κ ε} {phase : Nat → G} (phased : Phased P c phase) {i : Nat}
    (bound : ¬ P.mayEnd (phase i)) : ∃ t, c.threads[i]? = some t ∧
      t.prog.Follows P t.request (fun _ g _ => P.mayEnd g) (phase i) t.view ∧ t.prog.finished = false := by
  have inside : i < c.threads.length := by
    by_contra outside
    exact bound (phased.absent i (Nat.le_of_not_lt outside) ▸ P.gone_ends)
  have found : c.threads[i]? = some c.threads[i] := List.getElem?_eq_getElem inside
  have follows := phased.threads i _ found
  refine ⟨c.threads[i], found, follows, ?_⟩
  cases progIs : c.threads[i].prog with
  | done value =>
    rw [progIs] at follows
    exact absurd follows bound
  | fail error =>
    rw [progIs] at follows
    exact absurd follows bound
  | _ => rfl

variable [DecidableEq κ] {handler : ι → Prog σ κ ε Unit} {ok : Config ι σ κ ε → Event ι → Prop}

theorem Phased.apply {c c' : Config ι σ κ ε} {e : Event ι} {phase : Nat → G}
    (handlers : ∀ request, e = .start request →
      (handler request).Follows P request (fun _ g _ => P.mayEnd g) (P.first request) id)
    (phased : Phased P c phase) (applied : c.apply handler e = some c') :
    ∃ phase', Phased P c' phase' ∧ PhaseMove P c c' phase e phase' := by
  rcases Config.apply_cases applied with
    ⟨request, rfl, same, threads⟩ | ⟨i, t, t', rfl, found, moves, threads⟩ |
    ⟨i, t, rfl, found, same, threads⟩
  · refine ⟨_, ⟨fun j u foundU => ?_, fun j outside => ?_⟩, .started request same⟩
    · rw [threads] at foundU
      rcases getElem?_append_some foundU with ⟨rfl, rfl⟩ | old
      · rw [Function.update_self]
        exact handlers request rfl
      · have inside := (List.getElem?_eq_some_iff.mp old).1
        rw [Function.update_of_ne (Nat.ne_of_lt inside)]
        exact phased.threads j u old
    · rw [threads, List.length_append, List.length_singleton] at outside
      rw [Function.update_of_ne (by omega)]
      exact phased.absent j (by omega)
  · obtain ⟨g', follows, moved⟩ := Thread.follows_moves (phased.threads i t found) moves
    have inside := (List.getElem?_eq_some_iff.mp found).1
    have phased' : Phased P c' (Function.update phase i g') := by
      refine ⟨fun j u foundU => ?_, fun j outside => ?_⟩
      · rw [threads] at foundU
        rcases getElem?_set_some foundU with ⟨rfl, rfl⟩ | ⟨other, old⟩
        · rw [Function.update_self, moves.request]
          exact follows
        · rw [Function.update_of_ne other]
          exact phased.threads j u old
      · rw [threads, List.length_set] at outside
        rw [Function.update_of_ne (by omega)]
        exact phased.absent j outside
    rcases moved with ⟨rfl, same⟩ | ⟨step, now⟩
    · rw [Function.update_eq_self] at phased'
      exact ⟨phase, phased', .still i same⟩
    · exact ⟨_, phased', .committed i t g' found step now⟩
  · have inside := (List.getElem?_eq_some_iff.mp found).1
    refine ⟨_, ⟨fun j u foundU => ?_, fun j outside => ?_⟩, .died i t found same⟩
    · rw [threads] at foundU
      rcases getElem?_set_some foundU with ⟨rfl, rfl⟩ | ⟨other, old⟩
      · rw [Function.update_self]
        exact P.gone_ends
      · rw [Function.update_of_ne other]
        exact phased.threads j u old
    · rw [threads, List.length_set] at outside
      rw [Function.update_of_ne (by omega)]
      exact phased.absent j outside

/-- The invariant rule with phases. -/
theorem Reaches.phased (Inv : Config ι σ κ ε → (Nat → G) → Prop) {db : σ} {c : Config ι σ κ ε}
    (handlers : ∀ c request, ok c (.start request) →
      (handler request).Follows P request (fun _ g _ => P.mayEnd g) (P.first request) id)
    (base : Inv (Config.idle db) fun _ => P.gone)
    (kept : ∀ c e c' phase phase', Reaches handler ok (Config.idle db) c → Phased P c phase →
      Inv c phase → ok c e → c.apply handler e = some c' → PhaseMove P c c' phase e phase' →
      Inv c' phase')
    (run : Reaches handler ok (Config.idle db) c) : ∃ phase, Phased P c phase ∧ Inv c phase := by
  induction run with
  | refl => exact ⟨_, ⟨fun i t found => by simp [Config.idle] at found, fun _ _ => rfl⟩, base⟩
  | step before allowed applied ih =>
    obtain ⟨phase, phased, inv⟩ := ih
    obtain ⟨phase', phased', move⟩ :=
      phased.apply (fun request started => handlers _ request (started ▸ allowed)) applied
    exact ⟨phase', phased', kept _ _ _ phase phase' before phased inv allowed applied move⟩

end ReadCommitted
