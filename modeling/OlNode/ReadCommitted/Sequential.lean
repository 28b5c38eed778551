import OlNode.ReadCommitted.Program

/-!
# Handlers one after the other

Rules of pre- and postconditions for handlers that run alone, each from the committed state the one
before has left.
-/
namespace ReadCommitted

variable {ι σ κ ε α β : Type}

/-- A body that is not aborted returns what it returns. -/
theorem Tx.eval_of_abortAfter {x : Tx σ κ ε α} {error : ε} {n : Nat} {s t : σ} {a : α}
    (ran : (x.abortAfter error n).eval s = .ok (a, t)) : x.eval s = .ok (a, t) := by
  induction x generalizing n s with
  | done value => cases n <;> exact ran
  | fail thrown => cases n <;> exact ran
  | read next ih =>
    cases n with
    | zero => cases ran
    | succ n => exact ih s ran
  | lock row next ih =>
    cases n with
    | zero => cases ran
    | succ n => exact ih ran
  | write row f next ih =>
    cases n with
    | zero => cases ran
    | succ n => exact ih ran

namespace Prog

/-- The handler, run alone from the committed state `s` with `v` in its open transaction, ends
outside a transaction and with `post`. -/
def Runs (post : Except ε α → σ → Prop) : Prog σ κ ε α → σ → σ → Prop
  | .done value, s, v => v = s ∧ post (.ok value) s
  | .fail error, s, v => v = s ∧ post (.error error) s
  | .read next, s, v => (next v).Runs post s v
  | .lock _ next, s, v => next.Runs post s v
  | .write _ f next, s, v => next.Runs post s (f v)
  | .commit next, _, v => next.Runs post v v
  | .rollback next, s, _ => next.Runs post s s

variable {post : Except ε β → σ → Prop} {s v : σ}

theorem Runs.exec {p : Prog σ κ ε β} (runs : p.Runs post s v) :
    post (p.exec s v).1 (p.exec s v).2 := by
  induction p generalizing s v with
  | done value => exact runs.2
  | fail error => exact runs.2
  | read next ih => exact ih v runs
  | lock row next ih => exact ih runs
  | write row f next ih => exact ih runs
  | commit next ih => exact ih runs
  | rollback next ih => exact ih runs

theorem Runs.call {p : Prog σ κ ε β} (runs : p.Runs post s s) :
    post (p.call s).1 (p.call s).2 :=
  runs.exec

theorem Runs.bind {mid : Except ε α → σ → Prop} {p : Prog σ κ ε α} {k : α → Prog σ κ ε β}
    (first : p.Runs mid s v) (rest : ∀ a t, mid (.ok a) t → (k a).Runs post t t)
    (thrown : ∀ e t, mid (.error e) t → post (.error e) t) : (p >>= k).Runs post s v := by
  change (p.bind k).Runs post s v
  induction p generalizing s v with
  | done value =>
    obtain ⟨rfl, left⟩ := first
    exact rest value v left
  | fail error => exact ⟨first.1, thrown error s first.2⟩
  | read next ih => exact ih v first
  | lock row next ih => exact ih first
  | write row f next ih => exact ih first
  | commit next ih => exact ih first
  | rollback next ih => exact ih first

theorem runs_pure {value : β} (holds : post (.ok value) s) :
    (pure value : Prog σ κ ε β).Runs post s s := ⟨rfl, holds⟩

theorem runs_fail {error : ε} (holds : post (.error error) s) :
    (Prog.fail error : Prog σ κ ε β).Runs post s s := ⟨rfl, holds⟩

theorem runs_select_bind {q : σ → α} {k : α → Prog σ κ ε β} (rest : (k (q s)).Runs post s s) :
    (select q >>= k).Runs post s s := rest

theorem runs_ensure_bind {condition : Bool} {error : ε} {k : Unit → Prog σ κ ε β}
    (throws : condition = false → post (.error error) s)
    (goesOn : condition = true → (k ()).Runs post s s) :
    (ensure condition error >>= k).Runs post s s := by
  cases condition
  · exact ⟨rfl, throws rfl⟩
  · exact goesOn rfl

theorem runs_autocommit_bind {row : κ} {f : σ → σ} {k : Unit → Prog σ κ ε β}
    (rest : (k ()).Runs post (f s) (f s)) : (autocommit row f >>= k).Runs post s s := rest

end Prog

/-- `InTurn handler ok s t`: requests that each satisfy `ok` in the state they are served in lead,
one after the other, from `s` to `t`. -/
inductive InTurn (handler : ι → Prog σ κ ε α) (ok : σ → ι → Prop) (s : σ) : σ → Prop where
  | refl : InTurn handler ok s s
  | step {t : σ} {request : ι} (before : InTurn handler ok s t) (allowed : ok t request) :
      InTurn handler ok s ((handler request).call t).2

theorem InTurn.invariant {handler : ι → Prog σ κ ε α} {ok : σ → ι → Prop} (Inv : σ → Prop)
    {s t : σ} (served : InTurn handler ok s t) (base : Inv s)
    (kept : ∀ request u, Inv u → ok u request →
      (handler request).Runs (fun _ u' => Inv u') u u) : Inv t := by
  induction served with
  | refl => exact base
  | step _ allowed ih => exact (kept _ _ ih allowed).call

end ReadCommitted
