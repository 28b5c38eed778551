import OlNode.ReadCommitted.Frame
import OlNode.ReadCommitted.Interleaving

/-!
# The footprint of a handler

Bounds on what a handler does: which states its queries must not tell apart, which rows it locks or
writes, which writes it makes and which errors it throws. They are stated for all states the handler
may see, so they hold in every interleaving.
-/
namespace ReadCommitted

variable {σ κ ε α β : Type}

/-- `same s s'`: the state `s` may be seen, and `s'` has to look the same. -/
structure Footprint (σ κ ε : Type) where
  same : σ → σ → Prop := Eq
  row : κ → Prop := fun _ => True
  write : (σ → σ) → Prop := fun _ => True
  error : ε → Prop := fun _ => True

/-- The query gives the same answer on states that have to look the same. -/
def Footprint.Blind (F : Footprint σ κ ε) (q : σ → α) : Prop := ∀ s s', F.same s s' → q s' = q s

namespace Tx

variable {F : Footprint σ κ ε}

def Touches (F : Footprint σ κ ε) : Tx σ κ ε α → Prop
  | .done _ => True
  | .fail error => F.error error
  | .read next => ∀ s, F.same s s → (∀ s', F.same s s' → next s' = next s) ∧ (next s).Touches F
  | .lock row next => F.row row ∧ next.Touches F
  | .write row f next => F.row row ∧ F.write f ∧ next.Touches F

/-- Whatever the body returns satisfies `R`. -/
def Returns (F : Footprint σ κ ε) (R : α → Prop) : Tx σ κ ε α → Prop
  | .done value => R value
  | .fail _ => True
  | .read next => ∀ s, F.same s s → (next s).Returns F R
  | .lock _ next => next.Returns F R
  | .write _ _ next => next.Returns F R

variable {k : α → Tx σ κ ε β} {x : Tx σ κ ε α}

theorem Returns.bind {R : α → Prop} {R' : β → Prop} (first : x.Returns F R)
    (rest : ∀ a, R a → (k a).Returns F R') : (x >>= k).Returns F R' := by
  change (x.bind k).Returns F R'
  induction x with
  | done value => exact rest value first
  | fail error => trivial
  | read next ih => exact fun s seen => ih s (first s seen)
  | lock row next ih => exact ih first
  | write row f next ih => exact ih first

theorem returns_true (x : Tx σ κ ε α) : x.Returns F fun _ => True := by
  induction x with
  | done value => trivial
  | fail error => trivial
  | read next ih => exact fun s _ => ih s
  | lock row next ih => exact ih
  | write row f next ih => exact ih

theorem Touches.bind_returns {R : α → Prop} (first : x.Touches F) (returns : x.Returns F R)
    (rest : ∀ a, R a → (k a).Touches F) :
    (x >>= k).Touches F := by
  change (x.bind k).Touches F
  induction x with
  | done value => exact rest value returns
  | fail error => exact first
  | read next ih =>
    intro s seen
    refine ⟨fun s' same => ?_, ih s (first s seen).2 (returns s seen)⟩
    exact congrArg (Tx.bind · k) ((first s seen).1 s' same)
  | lock row next ih => exact ⟨first.1, ih first.2 returns⟩
  | write row f next ih => exact ⟨first.1, first.2.1, ih first.2.2 returns⟩

theorem Touches.bind (first : x.Touches F) (rest : ∀ a, (k a).Touches F) :
    (x >>= k).Touches F :=
  first.bind_returns x.returns_true fun a _ => rest a

theorem touches_select {q : σ → α} (blind : F.Blind q) : (select q : Tx σ κ ε α).Touches F :=
  fun s _ => ⟨fun s' same => congrArg Tx.done (blind s s' same), trivial⟩

theorem touches_select_bind {q : σ → α} (blind : F.Blind q)
    (rest : ∀ s, F.same s s → (k (q s)).Touches F) : (select q >>= k).Touches F :=
  fun s seen => ⟨fun s' same => congrArg k (blind s s' same), rest s seen⟩

@[simp] theorem touches_lockRow (row : κ) :
    (lockRow row : Tx σ κ ε Unit).Touches F ↔ F.row row :=
  ⟨fun touches => touches.1, fun touches => ⟨touches, trivial⟩⟩

@[simp] theorem touches_update (row : κ) (f : σ → σ) :
    (update row f : Tx σ κ ε Unit).Touches F ↔ F.row row ∧ F.write f :=
  ⟨fun touches => ⟨touches.1, touches.2.1⟩, fun touches => ⟨touches.1, touches.2, trivial⟩⟩

theorem touches_ensure {condition : Bool} {error : ε} (throws : F.error error) :
    (ensure condition error : Tx σ κ ε Unit).Touches F := by
  cases condition
  · exact throws
  · trivial

theorem touches_ensure_bind {condition : Bool} {error : ε} {k : Unit → Tx σ κ ε β}
    (throws : F.error error) (goesOn : condition = true → (k ()).Touches F) :
    (ensure condition error >>= k).Touches F := by
  cases condition
  · exact throws
  · exact goesOn rfl

theorem touches_when {condition : Prop} [Decidable condition] {x : Tx σ κ ε Unit}
    (touches : x.Touches F) : (Tx.when condition x).Touches F := by
  unfold Tx.when
  split
  · exact touches
  · trivial

/-- Where every state may be seen, every write of the body is one of the footprint. -/
theorem Touches.writes (touches : x.Touches F) (seen : ∀ s, F.same s s) :
    x.Writes F.write := by
  induction x with
  | done value => trivial
  | fail error => trivial
  | read next ih => exact fun s => ih s (touches s (seen s)).2
  | lock row next ih => exact ih touches.2
  | write row f next ih => exact ⟨touches.2.1, ih touches.2.2⟩

end Tx

namespace Prog

variable {F : Footprint σ κ ε}

/-- The handler stays within the footprint. -/
def Touches (F : Footprint σ κ ε) : Prog σ κ ε α → Prop
  | .done _ => True
  | .fail error => F.error error
  | .read next => ∀ s, F.same s s → (∀ s', F.same s s' → next s' = next s) ∧ (next s).Touches F
  | .lock row next => F.row row ∧ next.Touches F
  | .write row f next => F.row row ∧ F.write f ∧ next.Touches F
  | .commit next => next.Touches F
  | .rollback next => next.Touches F

variable {p : Prog σ κ ε α} {k : α → Prog σ κ ε β}

theorem Touches.bind (first : p.Touches F) (rest : ∀ a, (k a).Touches F) :
    (p >>= k).Touches F := by
  change (p.bind k).Touches F
  induction p with
  | done value => exact rest value
  | fail error => exact first
  | read next ih =>
    intro s seen
    refine ⟨fun s' same => ?_, ih s (first s seen).2⟩
    exact congrArg (Prog.bind · k) ((first s seen).1 s' same)
  | lock row next ih => exact ⟨first.1, ih first.2⟩
  | write row f next ih => exact ⟨first.1, first.2.1, ih first.2.2⟩
  | commit next ih => exact ih first
  | rollback next ih => exact ih first

theorem Touches.forget (touches : p.Touches F) : p.forget.Touches F :=
  touches.bind fun _ => trivial

theorem touches_run {body : Tx σ κ ε α} {ok : α → Prog σ κ ε β} {caught : ε → Prog σ κ ε β}
    (first : body.Touches F) (rest : ∀ a, (ok a).Touches F)
    (onError : ∀ e, F.error e → (caught e).Touches F) : (body.run ok caught).Touches F := by
  induction body with
  | done value => exact rest value
  | fail error => exact onError error first
  | read next ih =>
    intro s seen
    refine ⟨fun s' same => ?_, ih s (first s seen).2⟩
    exact congrArg (Tx.run · ok caught) ((first s seen).1 s' same)
  | lock row next ih => exact ⟨first.1, ih first.2⟩
  | write row f next ih => exact ⟨first.1, first.2.1, ih first.2.2⟩

theorem touches_transaction {body : Tx σ κ ε α} (touches : body.Touches F) :
    (transaction body).Touches F :=
  touches_run touches (fun _ => trivial) fun _ throws => throws

theorem touches_select {q : σ → α} (blind : F.Blind q) : (select q : Prog σ κ ε α).Touches F :=
  fun s _ => ⟨fun s' same => congrArg Prog.done (blind s s' same), trivial⟩

theorem touches_select_bind {q : σ → α} (blind : F.Blind q)
    (rest : ∀ s, F.same s s → (k (q s)).Touches F) : (select q >>= k).Touches F :=
  fun s seen => ⟨fun s' same => congrArg k (blind s s' same), rest s seen⟩

theorem touches_ensure_bind {condition : Bool} {error : ε} {k : Unit → Prog σ κ ε β}
    (throws : F.error error) (goesOn : condition = true → (k ()).Touches F) :
    (ensure condition error >>= k).Touches F := by
  cases condition
  · exact throws
  · exact goesOn rfl

theorem touches_autocommit {row : κ} {f : σ → σ} (own : F.row row) (write : F.write f) :
    (autocommit row f : Prog σ κ ε Unit).Touches F :=
  touches_transaction ((Tx.touches_update _ _).mpr ⟨own, write⟩)

theorem Touches.writes (touches : p.Touches F) (seen : ∀ s, F.same s s) :
    p.Writes F.write := by
  induction p with
  | done value => trivial
  | fail error => trivial
  | read next ih => exact fun s => ih s (touches s (seen s)).2
  | lock row next ih => exact ih touches.2
  | write row f next ih => exact ⟨touches.2.1, ih touches.2.2⟩
  | commit next ih => exact ih touches
  | rollback next ih => exact ih touches

/-- Reads, then returns or throws an error of the footprint. -/
def ReadOnly (F : Footprint σ κ ε) : Prog σ κ ε α → Prop
  | .done _ => True
  | .fail error => F.error error
  | .read next => ∀ s, F.same s s → (∀ s', F.same s s' → next s' = next s) ∧ (next s).ReadOnly F
  | _ => False

theorem ReadOnly.touches (reads : p.ReadOnly F) : p.Touches F := by
  induction p with
  | done value => trivial
  | fail error => exact reads
  | read next ih => exact fun s seen => ⟨(reads s seen).1, ih s (reads s seen).2⟩
  | lock row next ih => exact reads.elim
  | write row f next ih => exact reads.elim
  | commit next ih => exact reads.elim
  | rollback next ih => exact reads.elim

theorem ReadOnly.bind (first : p.ReadOnly F) (rest : ∀ a, (k a).ReadOnly F) :
    (p >>= k).ReadOnly F := by
  change (p.bind k).ReadOnly F
  induction p with
  | done value => exact rest value
  | fail error => exact first
  | read next ih =>
    intro s seen
    refine ⟨fun s' same => ?_, ih s (first s seen).2⟩
    exact congrArg (Prog.bind · k) ((first s seen).1 s' same)
  | lock row next ih => exact first.elim
  | write row f next ih => exact first.elim
  | commit next ih => exact first.elim
  | rollback next ih => exact first.elim

theorem readOnly_select {q : σ → α} (blind : F.Blind q) : (select q : Prog σ κ ε α).ReadOnly F :=
  fun s _ => ⟨fun s' same => congrArg Prog.done (blind s s' same), trivial⟩

theorem readOnly_ensure {condition : Bool} {error : ε} (throws : F.error error) :
    (ensure condition error : Prog σ κ ε Unit).ReadOnly F := by
  cases condition
  · exact throws
  · trivial

end Prog

end ReadCommitted
