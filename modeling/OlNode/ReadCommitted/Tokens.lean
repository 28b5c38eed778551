import OlNode.ReadCommitted.Rely

/-!
# Handlers that hold tokens

What a handler knows and what it alone may do are written on a token it holds. A token says
something about the committed state, and tokens of two handlers are compatible. A statement may
exchange the token of its handler for another one, as long as every token that was compatible with
the old one stays valid and is compatible with the new one. Then the tokens of all handlers stay
valid and compatible in every run.
-/
namespace ReadCommitted

variable {ι σ κ ε α β G : Type}

/-- `free` is the token of a handler that holds nothing. -/
structure Tokens (ι σ κ G : Type) where
  inv : σ → Prop
  valid : G → σ → Prop
  compat : G → G → Prop
  allows : ι → Statement σ κ → σ → Prop
  free : G
  free_valid : ∀ s, valid free s
  free_compat : ∀ g, compat free g
  compat_symm : ∀ g h, compat g h → compat h g

variable {T : Tokens ι σ κ G} {request : ι} {g : G} {w : σ → σ}

/-- Token `g` may be exchanged for `g'` by a statement that leads from `s` to `t`. -/
structure Tokens.Exchange (T : Tokens ι σ κ G) (g g' : G) (s t : σ) : Prop where
  inv : T.inv t
  valid : T.valid g' t
  others : ∀ h, T.valid h s → T.compat g h → T.valid h t ∧ T.compat g' h

theorem Tokens.Exchange.refl {s : σ} (inv : T.inv s) (valid : T.valid g s) :
    T.Exchange g g s s :=
  ⟨inv, valid, fun _ validH compatible => ⟨validH, compatible⟩⟩

/-- To learn something does not concern the others, if the new token claims no more than the old
one. -/
theorem Tokens.Exchange.learn {g' : G} {s : σ} (inv : T.inv s) (valid : T.valid g' s)
    (same : ∀ h, T.compat g h → T.compat g' h) : T.Exchange g g' s s :=
  ⟨inv, valid, fun h validH compatible => ⟨validH, same h compatible⟩⟩

/-! ### Transaction bodies -/

namespace Tx

/-- The body, with token `g` and the writes `w` made so far, returns only with `ok` and throws only
with `err`. -/
def Holds (T : Tokens ι σ κ G) (request : ι) (ok : α → G → (σ → σ) → Prop) (err : ε → G → Prop) :
    Tx σ κ ε α → G → (σ → σ) → Prop
  | .done value, g, w => ok value g w
  | .fail error, g, _ => err error g
  | .read next, g, w => ∀ s, T.inv s → T.valid g s → T.allows request .read s →
      ∃ g', T.Exchange g g' s s ∧ (next (w s)).Holds T request ok err g' w
  | .lock _ next, g, w => next.Holds T request ok err g w
  | .write _ f next, g, w => next.Holds T request ok err g (f ∘ w)

variable {ok : β → G → (σ → σ) → Prop} {err : ε → G → Prop}

theorem Holds.imp {ok' : β → G → (σ → σ) → Prop} {err' : ε → G → Prop} {x : Tx σ κ ε β}
    (first : x.Holds T request ok err g w) (returns : ∀ b g w, ok b g w → ok' b g w)
    (throws : ∀ e g, err e g → err' e g) : x.Holds T request ok' err' g w := by
  induction x generalizing g w with
  | done value => exact returns _ _ _ first
  | fail error => exact throws _ _ first
  | read next ih =>
    intro s inv valid allowed
    obtain ⟨g', exchange, rest⟩ := first s inv valid allowed
    exact ⟨g', exchange, ih (w s) rest⟩
  | lock row next ih => exact ih first
  | write row f next ih => exact ih first

/-- A SELECT from which the handler learns nothing it has to keep. -/
theorem holds_select_bind {q : σ → α} {k : α → Tx σ κ ε β}
    (rest : ∀ s, T.inv s → T.valid g s → (k (q (w s))).Holds T request ok err g w) :
    (select q >>= k).Holds T request ok err g w :=
  fun s inv valid _ => ⟨g, .refl inv valid, rest s inv valid⟩

theorem holds_ensure_bind {condition : Bool} {error : ε} {k : Unit → Tx σ κ ε β}
    (throws : err error g) (goesOn : (k ()).Holds T request ok err g w) :
    (ensure condition error >>= k).Holds T request ok err g w := by
  cases condition
  · exact throws
  · exact goesOn

theorem holds_lockRow_bind {row : κ} {k : Unit → Tx σ κ ε β}
    (rest : (k ()).Holds T request ok err g w) :
    (lockRow row >>= k).Holds T request ok err g w := rest

end Tx

/-! ### Handlers -/

namespace Prog

/-- The handler, with token `g` and the writes `w` of its open transaction, exchanges its token as
it may at every statement; it ends with `post`. -/
def Holds (T : Tokens ι σ κ G) (request : ι) (post : Except ε α → G → Prop) :
    Prog σ κ ε α → G → (σ → σ) → Prop
  | .done value, g, w => w = id ∧ post (.ok value) g
  | .fail error, g, w => w = id ∧ post (.error error) g
  | .read next, g, w => ∀ s, T.inv s → T.valid g s → T.allows request .read s →
      ∃ g', T.Exchange g g' s s ∧ (next (w s)).Holds T request post g' w
  | .lock _ next, g, w => next.Holds T request post g w
  | .write _ f next, g, w => next.Holds T request post g (f ∘ w)
  | .commit next, g, w => ∀ s, T.inv s → T.valid g s → T.allows request (.commit w) s →
      ∃ g', T.Exchange g g' s (w s) ∧ next.Holds T request post g' id
  | .rollback next, g, _ => next.Holds T request post g id

variable {post : Except ε β → G → Prop} {k : α → Prog σ κ ε β}

/-- A part of a handler with the token it ends with, and the rest from there. -/
theorem Holds.bind {mid : Except ε α → G → Prop} {p : Prog σ κ ε α}
    (first : p.Holds T request mid g w)
    (rest : ∀ a g, mid (.ok a) g → (k a).Holds T request post g id)
    (thrown : ∀ e g, mid (.error e) g → post (.error e) g) :
    (p >>= k).Holds T request post g w := by
  change (p.bind k).Holds T request post g w
  induction p generalizing g w with
  | done value =>
    obtain ⟨rfl, holds⟩ := first
    exact rest value g holds
  | fail error => exact ⟨first.1, thrown error g first.2⟩
  | read next ih =>
    intro s inv valid allowed
    obtain ⟨g', exchange, after⟩ := first s inv valid allowed
    exact ⟨g', exchange, ih (w s) after⟩
  | lock row next ih => exact ih first
  | write row f next ih => exact ih first
  | commit next ih =>
    intro s inv valid allowed
    obtain ⟨g', exchange, after⟩ := first s inv valid allowed
    exact ⟨g', exchange, ih after⟩
  | rollback next ih => exact ih first

theorem holds_pure {value : β} (holds : post (.ok value) g) :
    (pure value : Prog σ κ ε β).Holds T request post g id := ⟨rfl, holds⟩

theorem holds_fail {error : ε} (holds : post (.error error) g) :
    (Prog.fail error : Prog σ κ ε β).Holds T request post g id := ⟨rfl, holds⟩

/-- A SELECT from which the handler learns what its new token says. -/
theorem holds_select_bind {q : σ → α}
    (rest : ∀ s, T.inv s → T.valid g s →
      ∃ g', T.Exchange g g' s s ∧ (k (q s)).Holds T request post g' id) :
    (select q >>= k).Holds T request post g id :=
  fun s inv valid _ => rest s inv valid

/-- What the commit of the writes `w` has to satisfy. -/
def CommitsWith (T : Tokens ι σ κ G) (request : ι) (g : G) (w : σ → σ) (next : G → Prop) : Prop :=
  ∀ s, T.inv s → T.valid g s → T.allows request (.commit w) s →
    ∃ g', T.Exchange g g' s (w s) ∧ next g'

theorem holds_run {body : Tx σ κ ε α} {ok : α → Prog σ κ ε β} {caught : ε → Prog σ κ ε β}
    (first : body.Holds T request
      (fun a g w => CommitsWith T request g w fun g' => (ok a).Holds T request post g' id)
      (fun e g => (caught e).Holds T request post g id) g w) :
    (body.run ok caught).Holds T request post g w := by
  induction body generalizing g w with
  | done value => exact first
  | fail error => exact first
  | read next ih =>
    intro s inv valid allowed
    obtain ⟨g', exchange, rest⟩ := first s inv valid allowed
    exact ⟨g', exchange, ih (w s) rest⟩
  | lock row next ih => exact ih first
  | write row f next ih => exact ih first

theorem holds_transaction {body : Tx σ κ ε β}
    (first : body.Holds T request
      (fun b g w => CommitsWith T request g w (post (.ok b))) (fun e g => post (.error e) g) g id) :
    (transaction body).Holds T request post g id := by
  refine holds_run (first.imp (fun b g w commits s inv valid allowed => ?_)
    fun _ _ thrown => ⟨rfl, thrown⟩)
  obtain ⟨g', exchange, holds⟩ := commits s inv valid allowed
  exact ⟨g', exchange, rfl, holds⟩

theorem holds_transaction_bind {body : Tx σ κ ε α}
    (first : body.Holds T request
      (fun a g w => CommitsWith T request g w fun g' => (k a).Holds T request post g' id)
      (fun e g => post (.error e) g) g id) :
    (transaction body >>= k).Holds T request post g id := by
  rw [transaction_bind]
  exact holds_run (first.imp (fun _ _ _ returned => returned) fun _ _ thrown => ⟨rfl, thrown⟩)

theorem holds_autocommit {post : Except ε Unit → G → Prop} {row : κ} {f : σ → σ}
    (commits : CommitsWith T request g f (post (.ok ()))) :
    (autocommit row f : Prog σ κ ε Unit).Holds T request post g id :=
  holds_transaction commits

theorem holds_autocommit_bind {row : κ} {f : σ → σ} {k : Unit → Prog σ κ ε β}
    (commits : CommitsWith T request g f fun g' => (k ()).Holds T request post g' id) :
    (autocommit row f >>= k).Holds T request post g id :=
  holds_transaction_bind commits

end Prog

/-! ### Runs -/

/-- Every thread holds a token; all of them are valid and compatible. -/
structure Tokens.Held (T : Tokens ι σ κ G) (c : Config ι σ κ ε) (token : Nat → G) : Prop where
  inv : T.inv c.db
  valid : ∀ i, T.valid (token i) c.db
  compat : ∀ i j, i ≠ j → T.compat (token i) (token j)
  threads : ∀ (i : Nat) (t : Thread ι σ κ ε), c.threads[i]? = some t →
    t.prog.Holds T t.request (fun _ _ => True) (token i) t.view
  absent : ∀ i, c.threads.length ≤ i → token i = T.free

variable {c c' : Config ι σ κ ε}

private theorem Tokens.Held.exchanged {token : Nat → G} {i : Nat} {g' : G} {t t' : Thread ι σ κ ε}
    (held : T.Held c token) (found : c.threads[i]? = some t)
    (threads : c'.threads = c.threads.set i t') (exchange : T.Exchange (token i) g' c.db c'.db)
    (holds : t'.prog.Holds T t'.request (fun _ _ => True) g' t'.view) :
    T.Held c' (Function.update token i g') := by
  have others : ∀ j, j ≠ i → T.valid (token j) c'.db ∧ T.compat g' (token j) := fun j different =>
    exchange.others (token j) (held.valid j) (held.compat i j (Ne.symm different))
  refine ⟨exchange.inv, fun j => ?_, fun j k different => ?_, fun j u foundU => ?_,
    fun j outside => ?_⟩
  · by_cases own : j = i
    · rw [own, Function.update_self]
      exact exchange.valid
    · rw [Function.update_of_ne own]
      exact (others j own).1
  · by_cases own : j = i
    · subst own
      rw [Function.update_self, Function.update_of_ne (Ne.symm different)]
      exact (others k (Ne.symm different)).2
    · rw [Function.update_of_ne own]
      by_cases last : k = i
      · rw [last, Function.update_self]
        exact T.compat_symm _ _ (others j own).2
      · rw [Function.update_of_ne last]
        exact held.compat j k different
  · rw [threads] at foundU
    rcases getElem?_set_some foundU with ⟨rfl, rfl⟩ | ⟨other, old⟩
    · rw [Function.update_self]
      exact holds
    · rw [Function.update_of_ne other]
      exact held.threads j u old
  · have inside := (List.getElem?_eq_some_iff.mp found).1
    rw [threads, List.length_set] at outside
    rw [Function.update_of_ne (by omega)]
    exact held.absent j outside

private theorem Tokens.exchange_free {s : σ} (inv : T.inv s) : T.Exchange g T.free s s :=
  ⟨inv, T.free_valid s, fun h validH _ => ⟨validH, T.free_compat h⟩⟩

/-- The statement a thread is about to make is allowed. -/
def Tokens.Allows (T : Tokens ι σ κ G) (c : Config ι σ κ ε) : Event ι → Prop
  | .advance i => ∀ t statement, c.threads[i]? = some t → t.statement = some statement →
      T.allows t.request statement c.db
  | _ => True

private theorem Tokens.Held.advance {token : Nat → G} {i : Nat} {t t' : Thread ι σ κ ε} {db' : σ}
    (held : T.Held c token) (found : c.threads[i]? = some t) (allowed : T.Allows c (.advance i))
    (moves : t.Moves c.db t' db') (now : c'.db = db') (threads : c'.threads = c.threads.set i t') :
    ∃ token', T.Held c' token' := by
  have holds := held.threads i t found
  have valid := held.valid i
  have stays : c'.db = c.db → T.Exchange (token i) (token i) c.db c'.db := fun same => by
    rw [same]
    exact .refl held.inv valid
  cases moves with
  | read progIs =>
    rw [progIs] at holds
    obtain ⟨g', exchange, rest⟩ :=
      holds c.db held.inv valid (allowed t .read found (by simp [Thread.statement, progIs]))
    exact ⟨_, held.exchanged found threads (now ▸ exchange) rest⟩
  | lock progIs =>
    rw [progIs] at holds
    exact ⟨_, held.exchanged found threads (stays now) holds⟩
  | write progIs =>
    rw [progIs] at holds
    refine ⟨_, held.exchanged found threads (stays now) ?_⟩
    rw [Thread.view_write]
    exact holds
  | commit progIs =>
    rw [progIs] at holds
    obtain ⟨g', exchange, rest⟩ := holds c.db held.inv valid
      (allowed t (.commit t.view) found (by simp [Thread.statement, progIs]))
    exact ⟨_, held.exchanged found threads (now ▸ exchange) rest⟩
  | rollback progIs =>
    rw [progIs] at holds
    exact ⟨_, held.exchanged found threads (stays now) holds⟩

variable [DecidableEq κ] {handler : ι → Prog σ κ ε Unit}

theorem Tokens.Held.apply {token : Nat → G} {e : Event ι}
    (handlers : ∀ request, (handler request).Holds T request (fun _ _ => True) T.free id)
    (held : T.Held c token) (allowed : T.Allows c e) (applied : c.apply handler e = some c') :
    ∃ token', T.Held c' token' := by
  rcases Config.apply_cases applied with
    ⟨request, rfl, same, threads⟩ | ⟨i, t, t', rfl, found, moves, threads⟩ |
    ⟨i, t, rfl, found, same, threads⟩
  · refine ⟨token, same ▸ held.inv, fun i => same ▸ held.valid i, held.compat, fun i t found => ?_,
      fun i outside => ?_⟩
    · rw [threads] at found
      rcases getElem?_append_some found with ⟨rfl, rfl⟩ | old
      · rw [held.absent _ le_rfl]
        exact handlers request
      · exact held.threads i t old
    · rw [threads, List.length_append, List.length_singleton] at outside
      exact held.absent i (by omega)
  · exact held.advance found allowed moves rfl threads
  · have given : T.Exchange (token i) T.free c.db c'.db := by
      rw [same]
      exact exchange_free held.inv
    exact ⟨_, held.exchanged found threads given ⟨rfl, trivial⟩⟩

/-- Handlers that exchange their tokens as they may keep the invariant in every allowed run. -/
theorem Reaches.held {ok : Config ι σ κ ε → Event ι → Prop} {db : σ} {c : Config ι σ κ ε}
    (handlers : ∀ request, (handler request).Holds T request (fun _ _ => True) T.free id)
    (allows : ∀ c e, ok c e → T.Allows c e) (base : T.inv db)
    (run : Reaches handler ok (Config.idle db) c) : ∃ token, T.Held c token := by
  refine run.invariant (fun c => ∃ token, T.Held c token) ?_ ?_
  · exact ⟨fun _ => T.free, base, fun _ => T.free_valid db, fun _ _ _ => T.free_compat _,
      fun i t found => by simp [Config.idle] at found, fun _ _ => rfl⟩
  · rintro before e after ⟨token, held⟩ allowed applied
    exact held.apply handlers (allows before e allowed) applied

end ReadCommitted
