import OlNode.Store.Operations

/-!
# What a user wears

Each transaction that changes a slot holds the slot's lock and reads the slot under it, but
`activateItem` and `deactivateItem` act on an item that was looked up before. They are right when
that item is still what it was: unexpired for the one, the one worn for the other. Then the item
worn and the slot's row agree in every state that is reached.
-/
namespace OlNode.Stores

open ReadCommitted

def UserStoreItem.inSlot (row : UserStoreItem) (userId : UserId) (category : StoreItemCategory) :
    Prop :=
  row.userId = userId ∧ row.category = category

instance (row : UserStoreItem) (userId : UserId) (category : StoreItemCategory) :
    Decidable (row.inSlot userId category) := inferInstanceAs (Decidable (_ ∧ _))

/-- The slot points to the one item of the slot that is applied, and an applied item has not been
expired. -/
structure Worn (db : StoreDb) : Prop where
  points : ∀ userId category id, db.pointer userId category = some id ↔
    ∃ row, db.item id = some row ∧ row.inSlot userId category ∧ row.isApplied = true
  unexpired : ∀ id row, db.item id = some row → row.isApplied = true → row.isActive = true

/-! ### The agreement of the requests -/

/-- What a lock protects: a slot with the rows in it, and an id that is not in use. -/
def Unworn : Lock → StoreDb → StoreDb → Prop
  | .storeActive userId category, s, t => t.pointer userId category = s.pointer userId category ∧
    ∀ id row, s.item id = some row → row.inSlot userId category → t.item id = some row
  | .userStoreItem id, s, t => s.item id = none → t.item id = none
  | _, _, _ => True

def Stays (s t : StoreDb) : Prop :=
  ∀ id row, s.item id = some row → ∃ row', t.item id = some row' ∧
    row'.inSlot row.userId row.category

/-- At the lock of its slot, an item to be worn has not been expired and an item to be taken off is
still the one worn, if any is. -/
def StillFits (request : Request) (statement : Statement StoreDb Lock) (db : StoreDb) : Prop :=
  ∀ userId category, statement = .lock (.storeActive userId category) →
    match request with
    | .activate _ id => ∀ row, db.item id = some row → row.isActive = true
    | .deactivate _ id => ∀ worn, db.pointer userId category = some worn → worn = id
    | .setActive _ actions _ => ∀ action ∈ actions, ∀ id, action.userStoreItemId = some id →
        action.category = category → ∀ row, db.item id = some row → row.isActive = true
    | _ => True

def wearing : Agreement Request StoreDb Lock where
  inv := Worn
  grows := Stays
  same := Unworn
  step _ _ _ := True
  allows := StillFits
  grows_refl s id row found := ⟨row, found, rfl, rfl⟩
  grows_trans s t u first second id row found := by
    obtain ⟨rowT, foundT, user, category⟩ := first id row found
    obtain ⟨rowU, foundU, user', category'⟩ := second id rowT foundT
    exact ⟨rowU, foundU, user'.trans user, category'.trans category⟩
  same_refl row s := by
    cases row <;> simp +contextual [Unworn]
  same_trans row s t u first second := by
    cases row with
    | storeActive userId category =>
      refine ⟨second.1.trans first.1, fun id item found slot => ?_⟩
      exact second.2 id item (first.2 id item found slot) slot
    | userStoreItem id => exact fun absent => second (first absent)
    | _ => trivial

/-! ### Changing a slot -/

/-- A commit on one slot: it now points to `worn`, and exactly that item of the slot is applied. -/
structure Switches (userId : UserId) (category : StoreItemCategory) (worn : Option Nat)
    (t u : StoreDb) : Prop where
  slot : u.pointer userId category = worn
  others : ∀ userId' category', ¬ (userId' = userId ∧ category' = category) →
    u.pointer userId' category' = t.pointer userId' category'
  absent : ∀ id, t.item id = none → u.item id = none
  outside : ∀ id row, t.item id = some row → ¬ row.inSlot userId category → u.item id = some row
  inside : ∀ id row, t.item id = some row → row.inSlot userId category →
    ∃ row', u.item id = some row' ∧ row'.inSlot userId category ∧
      (row'.isApplied = true ↔ worn = some id) ∧ (row'.isApplied = true → row'.isActive = true)

section Switching

variable {userId : UserId} {category : StoreItemCategory} {worn : Option Nat} {t u : StoreDb}
  (switches : Switches userId category worn t u)
include switches

/-- A row after the switch was there before, in the same slot. -/
theorem Switches.before {id : Nat} {row : UserStoreItem} (found : u.item id = some row) :
    ∃ old, t.item id = some old ∧ row.inSlot old.userId old.category := by
  cases present : t.item id with
  | none =>
    rw [switches.absent id present] at found
    cases found
  | some old =>
    refine ⟨old, rfl, ?_⟩
    by_cases slot : old.inSlot userId category
    · obtain ⟨row', now, inSlot, -⟩ := switches.inside id old present slot
      rw [found, Option.some.injEq] at now
      rw [now, slot.1, slot.2]
      exact inSlot
    · rw [switches.outside id old present slot, Option.some.injEq] at found
      exact found ▸ ⟨rfl, rfl⟩

theorem Switches.stays_worn (before : Worn t)
    (present : ∀ id, worn = some id → ∃ row, t.item id = some row ∧ row.inSlot userId category) :
    Worn u where
  points userId' category' id := by
    by_cases same : userId' = userId ∧ category' = category
    · obtain ⟨rfl, rfl⟩ := same
      rw [switches.slot]
      constructor
      · intro points
        obtain ⟨row, found, slot⟩ := present id points
        obtain ⟨row', now, inSlot, applied, -⟩ := switches.inside id row found slot
        exact ⟨row', now, inSlot, applied.mpr points⟩
      · rintro ⟨row, found, slot, applied⟩
        obtain ⟨old, stored, ownSlot⟩ := switches.before found
        have oldSlot : old.inSlot userId' category' :=
          ⟨ownSlot.1.symm.trans slot.1, ownSlot.2.symm.trans slot.2⟩
        obtain ⟨row', now, -, iff, -⟩ := switches.inside id old stored oldSlot
        rw [found, Option.some.injEq] at now
        exact iff.mp (now ▸ applied)
    · rw [switches.others userId' category' same, before.points]
      constructor
      · rintro ⟨row, found, slot, applied⟩
        have away : ¬ row.inSlot userId category :=
          fun inSlot => same ⟨slot.1.symm.trans inSlot.1, slot.2.symm.trans inSlot.2⟩
        exact ⟨row, switches.outside id row found away, slot, applied⟩
      · rintro ⟨row, found, slot, applied⟩
        obtain ⟨old, stored, ownSlot⟩ := switches.before found
        have away : ¬ old.inSlot userId category := fun inSlot => same
          ⟨slot.1.symm.trans (ownSlot.1.trans inSlot.1), slot.2.symm.trans (ownSlot.2.trans inSlot.2)⟩
        rw [switches.outside id old stored away, Option.some.injEq] at found
        exact ⟨row, found ▸ stored, slot, applied⟩
  unexpired id row found applied := by
    obtain ⟨old, stored, -⟩ := switches.before found
    by_cases slot : old.inSlot userId category
    · obtain ⟨row', now, -, -, active⟩ := switches.inside id old stored slot
      rw [found, Option.some.injEq] at now
      exact now ▸ active (now ▸ applied)
    · rw [switches.outside id old stored slot, Option.some.injEq] at found
      exact found ▸ before.unexpired id old stored (found ▸ applied)

/-- The commit answers for its own slot only. -/
theorem Switches.keeps {request : Request} {held : Set Lock} (before : Worn t)
    (locked : .storeActive userId category ∈ held)
    (present : ∀ id, worn = some id → ∃ row, t.item id = some row ∧ row.inSlot userId category) :
    wearing.Keeps request held t u where
  inv := switches.stays_worn before present
  grows id row found := by
    by_cases slot : row.inSlot userId category
    · obtain ⟨row', now, inSlot, -⟩ := switches.inside id row found slot
      rw [slot.1, slot.2]
      exact ⟨row', now, inSlot⟩
    · exact ⟨row, switches.outside id row found slot, rfl, rfl⟩
  same lock free := by
    cases lock with
    | storeActive userId' category' =>
      have other : ¬ (userId' = userId ∧ category' = category) := by
        rintro ⟨rfl, rfl⟩
        exact free locked
      refine ⟨switches.others userId' category' other, fun id row found slot => ?_⟩
      refine switches.outside id row found fun inSlot => other ?_
      exact ⟨slot.1.symm.trans inSlot.1, slot.2.symm.trans inSlot.2⟩
    | userStoreItem id => exact switches.absent id
    | _ => trivial
  step := trivial

end Switching

/-! ### What the updates do -/

variable (db : StoreDb)

@[simp] theorem pointer_modifyItem (id : Nat) (f : UserStoreItem → UserStoreItem) :
    (db.modifyItem id f).pointer = db.pointer := rfl

@[simp] theorem item_setActive (userId : UserId) (category : StoreItemCategory)
    (worn : Option Nat) : (db.setActive userId category worn).item = db.item := rfl

theorem item_modifyItem_self (id : Nat) (f : UserStoreItem → UserStoreItem) :
    (db.modifyItem id f).item id = (db.item id).map f := by
  simp [StoreDb.modifyItem]

theorem item_modifyItem_other {id other : Nat} (f : UserStoreItem → UserStoreItem)
    (different : other ≠ id) : (db.modifyItem id f).item other = db.item other := by
  simp [StoreDb.modifyItem, different]

theorem pointer_setActive_self (userId : UserId) (category : StoreItemCategory)
    (worn : Option Nat) : (db.setActive userId category worn).pointer userId category = worn := by
  simp [StoreDb.setActive, StoreDb.pointer]

theorem pointer_setActive_other {userId userId' : UserId} {category category' : StoreItemCategory}
    (worn : Option Nat) (other : ¬ (userId' = userId ∧ category' = category)) :
    (db.setActive userId category worn).pointer userId' category' =
      db.pointer userId' category' := by
  simp [StoreDb.setActive, StoreDb.pointer, other]

/-- The state after `unapplyActive`. -/
def StoreDb.unapplied (db : StoreDb) (userId : UserId) : Option Nat → StoreDb
  | none => db
  | some id => db.modifyItem id (unapply userId)

@[simp] theorem pointer_unapplied (userId : UserId) (activeRow : Option Nat) :
    (db.unapplied userId activeRow).pointer = db.pointer := by
  cases activeRow <;> rfl

section Effects

variable {userId : UserId} {category : StoreItemCategory} {t : StoreDb} {id : Nat}
  {row : UserStoreItem}

theorem Worn.applied_iff (worn : Worn t) (found : t.item id = some row)
    (slot : row.inSlot userId category) :
    row.isApplied = true ↔ t.pointer userId category = some id := by
  rw [worn.points]
  constructor
  · exact fun applied => ⟨row, found, slot, applied⟩
  · rintro ⟨other, stored, -, applied⟩
    rw [found, Option.some.injEq] at stored
    exact stored ▸ applied

/-- Taking off what is worn leaves the slot without an applied item. -/
theorem Worn.unapplied_inside (worn : Worn t) (found : t.item id = some row)
    (slot : row.inSlot userId category) :
    ∃ row', (t.unapplied userId (t.pointer userId category)).item id = some row' ∧
      row'.inSlot userId category ∧ row'.isApplied = false ∧ row'.isActive = row.isActive := by
  have iff := worn.applied_iff found slot
  cases points : t.pointer userId category with
  | none =>
    rw [points] at iff
    exact ⟨row, found, slot, by simpa using iff, rfl⟩
  | some other =>
    by_cases same : id = other
    · subst same
      refine ⟨{ row with isApplied := false }, ?_, slot, rfl, rfl⟩
      rw [StoreDb.unapplied, item_modifyItem_self, found, Option.map_some, unapply, if_pos slot.1]
    · rw [points, Option.some.injEq] at iff
      refine ⟨row, ?_, slot, by simpa [Ne.symm same] using iff, rfl⟩
      rw [StoreDb.unapplied, item_modifyItem_other _ _ same, found]

theorem Worn.unapplied_outside (worn : Worn t) (found : t.item id = some row)
    (away : ¬ row.inSlot userId category) :
    (t.unapplied userId (t.pointer userId category)).item id = some row := by
  cases points : t.pointer userId category with
  | none => exact found
  | some other =>
    have different : id ≠ other := by
      rintro rfl
      obtain ⟨worn', stored, slot, -⟩ := (worn.points userId category id).mp points
      rw [found, Option.some.injEq] at stored
      exact away (stored ▸ slot)
    rw [StoreDb.unapplied, item_modifyItem_other _ _ different, found]

theorem unapplied_absent (activeRow : Option Nat) (absent : t.item id = none) :
    (t.unapplied userId activeRow).item id = none := by
  cases activeRow with
  | none => exact absent
  | some other =>
    by_cases same : id = other
    · subst same
      rw [StoreDb.unapplied, item_modifyItem_self, absent, Option.map_none]
    · rw [StoreDb.unapplied, item_modifyItem_other _ _ same, absent]

theorem clear_switches (worn : Worn t) : Switches userId category none t
    ((t.unapplied userId (t.pointer userId category)).setActive userId category none) where
  slot := pointer_setActive_self _ _ _ _
  others userId' category' other := by
    rw [pointer_setActive_other _ _ other, pointer_unapplied]
  absent id absent := unapplied_absent _ absent
  outside id row found away := worn.unapplied_outside found away
  inside id row found slot := by
    obtain ⟨row', now, inSlot, unapplied, -⟩ := worn.unapplied_inside found slot
    exact ⟨row', now, inSlot, by simp [unapplied], by simp [unapplied]⟩

section

variable (worn : Worn t) (found : t.item id = some row) (slot : row.inSlot userId category)
include worn found slot

theorem activate_switches (active : row.isActive = true) (now : Time) :
    Switches userId category (some id) t
      (((t.unapplied userId (t.pointer userId category)).modifyItem id fun row =>
        { row with isApplied := true, activatedAt := some now }).setActive userId category
          (some id)) where
  slot := pointer_setActive_self _ _ _ _
  others userId' category' other := by
    rw [pointer_setActive_other _ _ other, pointer_modifyItem, pointer_unapplied]
  absent other absent := by
    have different : other ≠ id := by
      rintro rfl
      rw [found] at absent
      cases absent
    rw [item_setActive, item_modifyItem_other _ _ different]
    exact unapplied_absent _ absent
  outside other otherRow foundOther away := by
    have different : other ≠ id := by
      rintro rfl
      rw [found, Option.some.injEq] at foundOther
      exact away (foundOther ▸ slot)
    rw [item_setActive, item_modifyItem_other _ _ different]
    exact worn.unapplied_outside foundOther away
  inside other otherRow foundOther slotOther := by
    obtain ⟨row', now', inSlot, unapplied, sameActive⟩ := worn.unapplied_inside foundOther slotOther
    by_cases same : other = id
    · subst same
      rw [found, Option.some.injEq] at foundOther
      subst foundOther
      refine ⟨{ row' with isApplied := true, activatedAt := some now }, ?_, inSlot, by simp, ?_⟩
      · rw [item_setActive, item_modifyItem_self, now', Option.map_some]
      · exact fun _ => sameActive.trans active
    · refine ⟨row', ?_, inSlot, ?_, by simp [unapplied]⟩
      · rw [item_setActive, item_modifyItem_other _ _ same, now']
      · simp [unapplied, Ne.symm same]

/-- One item of a slot is taken off, and the slot points to whatever else was worn. -/
theorem takeOff_switches {f : UserStoreItem → UserStoreItem} {left : Option Nat} {u : StoreDb}
    (off : (f row).isApplied = false) (stays : (f row).inSlot userId category)
    (items : u.item = (t.modifyItem id f).item) (slotIs : u.pointer userId category = left)
    (others : ∀ userId' category', ¬ (userId' = userId ∧ category' = category) →
      u.pointer userId' category' = t.pointer userId' category') (gone : left ≠ some id)
    (rest : ∀ other, other ≠ id → (t.pointer userId category = some other ↔ left = some other)) :
    Switches userId category left t u where
  slot := slotIs
  others := others
  absent other absent := by
    have different : other ≠ id := by
      rintro rfl
      rw [found] at absent
      cases absent
    rw [items, item_modifyItem_other _ _ different, absent]
  outside other otherRow foundOther away := by
    have different : other ≠ id := by
      rintro rfl
      rw [found, Option.some.injEq] at foundOther
      exact away (foundOther ▸ slot)
    rw [items, item_modifyItem_other _ _ different, foundOther]
  inside other otherRow foundOther slotOther := by
    by_cases same : other = id
    · subst same
      refine ⟨f row, ?_, stays, by simp [off, gone], by simp [off]⟩
      rw [items, item_modifyItem_self, found, Option.map_some]
    · refine ⟨otherRow, ?_, slotOther, ?_, worn.unexpired other otherRow foundOther⟩
      · rw [items, item_modifyItem_other _ _ same, foundOther]
      · exact (worn.applied_iff foundOther slotOther).trans (rest other same)

theorem deactivate_switches (only : ∀ other, t.pointer userId category = some other → other = id) :
    Switches userId category none t
      ((t.modifyItem id fun row => { row with isApplied := false }).setActive userId category
        none) := by
  refine takeOff_switches worn found slot rfl slot rfl (pointer_setActive_self _ _ _ _)
    (fun _ _ other => pointer_setActive_other _ _ other) nofun fun other different => ?_
  constructor
  · exact fun points => absurd (only other points) different
  · exact nofun

end

theorem expire_switches (worn : Worn t) (found : t.item id = some row) (expiredAt : Time) :
    let expired := t.modifyItem id fun row =>
      { row with isActive := false, isApplied := false, expiredAt := some expiredAt }
    Switches row.userId row.category
      (if row.isApplied then none else t.pointer row.userId row.category) t
      (if row.isApplied then expired.setActive row.userId row.category none else expired) := by
  have iff := worn.applied_iff found ⟨rfl, rfl⟩
  intro expired
  cases applied : row.isApplied with
  | true =>
    have points := iff.mp applied
    refine takeOff_switches worn found ⟨rfl, rfl⟩ rfl ⟨rfl, rfl⟩ rfl
      (pointer_setActive_self _ _ _ _) (fun _ _ other => pointer_setActive_other _ _ other) nofun
      fun other different => ?_
    constructor
    · intro pointsOther
      rw [points, Option.some.injEq] at pointsOther
      exact absurd pointsOther.symm different
    · exact nofun
  | false =>
    refine takeOff_switches worn found ⟨rfl, rfl⟩ rfl ⟨rfl, rfl⟩ rfl rfl (fun _ _ _ => rfl) ?_
      fun _ _ => Iff.rfl
    exact fun points => by simp [iff.mpr points] at applied

end Effects

/-! ### The repository under the slot's lock -/

section Repository

variable {request : Request} {held : Set Lock} {w : StoreDb → StoreDb} {s : StoreDb}

theorem keeps_refl (worn : Worn s) : wearing.Keeps request held s s :=
  ⟨worn, wearing.grows_refl s, fun row _ => wearing.same_refl row s, trivial⟩

theorem keeps_trans {t u : StoreDb} (first : wearing.Keeps request held s t)
    (second : wearing.Keeps request held t u) : wearing.Keeps request held s u where
  inv := second.inv
  grows := wearing.grows_trans s t u first.grows second.grows
  same row free := wearing.same_trans row s t u (first.same row free) (second.same row free)
  step := trivial

/-- What a transaction has to answer for when it commits. -/
def Commits {α : Type} (request : Request) (_ : α) (held : Set Lock) (w : StoreDb → StoreDb)
    (s : StoreDb) : Prop :=
  ∀ t, wearing.Rely held s t → wearing.allows request (.commit w) t →
    wearing.Keeps request held t (w t)

theorem unapplyActive_relies {α : Type} {userId : UserId} {activeRow : Option Nat}
    {k : Unit → StoreTx α} {ok : α → Set Lock → (StoreDb → StoreDb) → StoreDb → Prop}
    {err : LedgerError → StoreDb → Prop} (worn : Worn s)
    (rest : ∀ t held', held ⊆ held' → wearing.Rely held s t →
      (k ()).Relies wearing request ok err held'
        ((fun db => db.unapplied userId activeRow) ∘ w) t) :
    (unapplyActive userId activeRow >>= k).Relies wearing request ok err held w s := by
  cases activeRow with
  | none => exact rest s held subset_rfl (.refl worn)
  | some id =>
    refine Tx.relies_update fun t rely _ => ?_
    exact rest t _ (Set.subset_insert _ _) rely

variable {userId : UserId} {category : StoreItemCategory} {itemId : Nat}

/-- The item is in its slot and has not been expired from the lock to the commit; `w` are the
writes made before. -/
def Ready (request : Request) (held : Set Lock) (w : StoreDb → StoreDb) (userId : UserId)
    (category : StoreItemCategory) (itemId : Nat) (t : StoreDb) : Prop :=
  (∀ held', held ⊆ held' → wearing.Keeps request held' t (w t)) ∧
    ∃ row, (w t).item itemId = some row ∧ row.inSlot userId category ∧ row.isActive = true

theorem activateItem_relies (view : ∀ db, (w db).pointer = db.pointer)
    (ready : ∀ x, wearing.Rely held s x →
      wearing.allows request (.lock (.storeActive userId category)) x →
      ∀ t, wearing.Rely (insert (.storeActive userId category) held) x t →
        Ready request held w userId category itemId t) :
    (activateItem userId itemId category).Relies wearing request (Commits request) (fun _ _ => True)
      held w s := by
  refine Tx.relies_lockRow fun x locking allowed => ?_
  refine Tx.relies_select fun y reading => ?_
  rw [view y]
  refine unapplyActive_relies reading.inv fun z held' more unapplying => ?_
  refine Tx.relies_select fun a clock => ?_
  refine Tx.relies_update fun b applying _ => ?_
  intro c pointing _ t committing _
  have sub : insert (.storeActive userId category) held ⊆ insert (.storeActive userId category)
      (insert (.userStoreItem itemId) held') :=
    more.trans ((Set.subset_insert _ _).trans (Set.subset_insert _ _))
  have locked : .storeActive userId category ∈ insert (.storeActive userId category) held :=
    Set.mem_insert _ _
  have sinceRead : wearing.Rely (insert (.storeActive userId category) held) y t :=
    unapplying.trans ((clock.mono more).trans ((applying.mono more).trans
      ((pointing.mono (more.trans (Set.subset_insert _ _))).trans (committing.mono sub))))
  have pointer : y.pointer userId category = (w t).pointer userId category := by
    rw [view t]
    exact (sinceRead.same _ locked).1.symm
  obtain ⟨keeps, row, found, slot, active⟩ := ready x locking allowed t (reading.trans sinceRead)
  have made := keeps _ ((Set.subset_insert _ _).trans sub)
  rw [pointer]
  have switches := activate_switches made.inv found slot active
    ((w a).unapplied userId ((w t).pointer userId category)).now
  refine keeps_trans made (switches.keeps made.inv (sub locked) fun other same => ?_)
  exact ⟨row, Option.some.inj same ▸ found, slot⟩

theorem clearActiveCategory_relies :
    (clearActiveCategory userId category).Relies wearing request (Commits request)
      (fun _ _ => True) ∅ id s := by
  refine Tx.relies_lockRow fun x locking allowed => ?_
  refine Tx.relies_select fun y reading => ?_
  refine unapplyActive_relies reading.inv fun z held' more unapplying => ?_
  intro c pointing _ t committing _
  have sub := more.trans (Set.subset_insert (.storeActive userId category) held')
  have locked : .storeActive userId category ∈ insert (.storeActive userId category) (∅ : Set Lock) :=
    Set.mem_insert _ _
  have sinceRead := unapplying.trans ((pointing.mono more).trans (committing.mono sub))
  have pointer : (id y).pointer userId category = t.pointer userId category :=
    (sinceRead.same _ locked).1.symm
  rw [pointer]
  exact (clear_switches committing.inv).keeps committing.inv (sub locked) nofun

/-- The item to be taken off is in the slot, and nothing else is worn there. -/
theorem deactivateItem_relies
    (ready : ∀ x, wearing.Rely ∅ s x →
      wearing.allows request (.lock (.storeActive userId category)) x →
      (∃ row, x.item itemId = some row ∧ row.inSlot userId category) ∧
        ∀ other, x.pointer userId category = some other → other = itemId) :
    (deactivateItem userId itemId category).Relies wearing request (Commits request)
      (fun _ _ => True) ∅ id s := by
  refine Tx.relies_lockRow fun x locking allowed => ?_
  refine Tx.relies_update fun y unapplying _ => ?_
  intro z pointing _ t committing _
  have one : insert (.storeActive userId category) (∅ : Set Lock) ⊆ insert (.userStoreItem itemId) _ :=
    Set.subset_insert _ _
  have sub := one.trans (Set.subset_insert (.storeActive userId category) _)
  have locked : .storeActive userId category ∈ insert (.storeActive userId category) (∅ : Set Lock) :=
    Set.mem_insert _ _
  have sinceLock := unapplying.trans ((pointing.mono one).trans (committing.mono sub))
  obtain ⟨samePointer, sameRows⟩ := sinceLock.same _ locked
  obtain ⟨⟨row, found, slot⟩, only⟩ := ready x locking allowed
  have switches := deactivate_switches committing.inv (sameRows itemId row found slot) slot
    (samePointer.symm ▸ only)
  exact switches.keeps committing.inv (sub locked) nofun

theorem expireRow_relies {row : UserStoreItem} (found : s.item itemId = some row)
    (locked : .storeActive row.userId row.category ∈ held) :
    (expireRow itemId row).Relies wearing request (Commits request) (fun _ _ => True) held id s := by
  refine Tx.relies_select fun x clock => ?_
  split
  · exact fun t committing _ => keeps_refl committing.inv
  · refine Tx.relies_select fun y stamping => ?_
    refine Tx.relies_update fun z expiring _ => ?_
    have one := Set.subset_insert (.userStoreItem itemId) held
    have sinceRead := clock.trans (stamping.trans expiring)
    let expired : StoreDb → StoreDb := fun db => db.modifyItem itemId fun row =>
      { row with isActive := false, isApplied := false, expiredAt := some y.now }
    have keeps : ∀ held' t, held ⊆ held' → wearing.Rely held z t → wearing.Keeps request held' t
        (if row.isApplied then (expired t).setActive row.userId row.category none
          else expired t) := by
      intro held' t more rely
      have still := ((sinceRead.trans rely).same _ locked).2 itemId row found ⟨rfl, rfl⟩
      refine (expire_switches rely.inv still y.now).keeps rely.inv (more locked) fun other points => ?_
      split at points
      · cases points
      · obtain ⟨worn, stored, slot, -⟩ := (rely.inv.points _ _ other).mp points
        exact ⟨worn, stored, slot⟩
    unfold Tx.when
    cases applied : row.isApplied with
    | true =>
      intro c pointing _ t committing _
      have two := one.trans (Set.subset_insert (.storeActive row.userId row.category) _)
      have kept := keeps _ t two ((pointing.mono one).trans (committing.mono two))
      rw [if_pos applied] at kept
      exact kept
    | false =>
      intro t committing _
      have kept := keeps _ t one (committing.mono one)
      rw [if_neg (by simp [applied])] at kept
      exact kept

theorem expireItem_relies :
    (expireItem itemId).Relies wearing request (Commits request) (fun _ _ => True) ∅ id s := by
  refine Tx.relies_select fun x looking => ?_
  dsimp only [id]
  cases target : x.item itemId with
  | none => exact fun t committing _ => keeps_refl committing.inv
  | some found =>
    refine Tx.relies_lockRow fun y locking _ => ?_
    refine Tx.relies_select fun z reading => ?_
    dsimp only [id]
    obtain ⟨row, again, user, category⟩ := (locking.trans (reading.mono (Set.empty_subset _))).grows
      itemId found target
    rw [again]
    dsimp only
    split
    · refine expireRow_relies again ?_
      rw [user, category]
      exact Set.mem_insert _ _
    · exact fun t committing _ => keeps_refl committing.inv

end Repository

/-! ### The service -/

section Service

variable {request : Request} {s : StoreDb} {userId : UserId} {itemId : Nat}

abbrev Leaves {α : Type} (_ : Except LedgerError α) (db : StoreDb) : Prop := Worn db

theorem transaction_relies {α : Type} {body : StoreTx α} (worn : Worn s)
    (first : body.Relies wearing request (Commits request) (fun _ _ => True) ∅ id s) :
    (Prog.transaction body).Relies wearing request Leaves ∅ id s := by
  refine Prog.relies_transaction ((first.since worn).imp ?_ fun _ _ thrown => thrown.1.inv)
  intro a held w t commits u rely allowed
  have keeps := commits u rely allowed
  exact ⟨keeps, keeps.inv⟩

theorem ownedBy_some {owned : Option UserStoreItem} {row : UserStoreItem}
    (found : ownedBy userId owned = some row) : owned = some row ∧ row.userId = userId := by
  simpa [ownedBy, Option.filter_eq_some_iff] using found

/-- An item that was found in a slot is there from the lock on, and unexpired if it was so then. -/
theorem ready_of_found {category : StoreItemCategory} {t : StoreDb}
    (found : ∃ row, t.item itemId = some row ∧ row.inSlot userId category)
    (active : ∀ row, t.item itemId = some row → row.isActive = true) {u : StoreDb}
    (rely : wearing.Rely (insert (.storeActive userId category) ∅) t u) :
    Ready request ∅ id userId category itemId u := by
  obtain ⟨row, stored, slot⟩ := found
  refine ⟨fun _ _ => keeps_refl rely.inv, row, ?_, slot, active row stored⟩
  exact (rely.same _ (Set.mem_insert _ _)).2 itemId row stored slot

theorem activateOwnedItem_relies :
    (activateOwnedItem userId itemId).Relies wearing (.activate userId itemId) Leaves ∅ id s := by
  refine Prog.relies_select fun t looking => ?_
  cases owned : ownedBy userId (t.item itemId) with
  | none => exact Prog.relies_fail looking.inv
  | some row =>
    obtain ⟨found, user⟩ := ownedBy_some owned
    refine Prog.relies_ensure_bind (fun _ => looking.inv) fun _ => ?_
    refine Prog.relies_select fun u clock => ?_
    refine Prog.relies_ensure_bind (fun _ => clock.inv) fun _ => ?_
    refine transaction_relies clock.inv (activateItem_relies (fun _ => rfl) ?_)
    intro x locking allowed y rely
    obtain ⟨row', stored, slot⟩ := (clock.trans locking).grows itemId row found
    exact ready_of_found ⟨row', stored, user ▸ slot⟩ (allowed _ _ rfl) rely

theorem deactivateOwnedItem_relies :
    (deactivateOwnedItem userId itemId).Relies wearing (.deactivate userId itemId) Leaves ∅ id
      s := by
  refine Prog.relies_select fun t looking => ?_
  cases owned : ownedBy userId (t.item itemId) with
  | none => exact Prog.relies_fail looking.inv
  | some row =>
    obtain ⟨found, user⟩ := ownedBy_some owned
    refine Prog.relies_ensure_bind (fun _ => looking.inv) fun _ => ?_
    split
    · refine transaction_relies looking.inv (deactivateItem_relies fun x locking allowed => ?_)
      obtain ⟨row', stored, slot⟩ := locking.grows itemId row found
      exact ⟨⟨row', stored, user ▸ slot⟩, allowed _ _ rfl⟩
    · exact Prog.relies_pure looking.inv

/-! ### Several slots at once -/

/-- The items of the actions are the user's, in their slots. -/
def Checked (userId : UserId) (actions : List CosmeticAction) (db : StoreDb) : Prop :=
  ∀ action ∈ actions, ∀ itemId, action.userStoreItemId = some itemId →
    ∃ row, db.item itemId = some row ∧ row.inSlot userId action.category

theorem Checked.stays {actions : List CosmeticAction} {t : StoreDb}
    (checked : Checked userId actions s) (stays : Stays s t) : Checked userId actions t := by
  intro action member itemId chosen
  obtain ⟨row, found, slot⟩ := checked action member itemId chosen
  obtain ⟨row', stored, slot'⟩ := stays itemId row found
  exact ⟨row', stored, slot.1 ▸ slot.2 ▸ slot'⟩

/-- The state after checks, and what they have found if they passed. -/
def Passes (userId : UserId) (actions : List CosmeticAction) (outcome : Except LedgerError Unit)
    (db : StoreDb) : Prop :=
  Worn db ∧ (outcome = .ok () → Checked userId actions db)

theorem checkCosmetic_relies (action : CosmeticAction) (worn : Worn s) :
    (checkCosmetic userId action).Relies wearing request (Passes userId [action]) ∅ id s := by
  unfold checkCosmetic
  cases chosen : action.userStoreItemId with
  | none =>
    refine Prog.relies_pure ⟨worn, fun _ other member itemId same => ?_⟩
    rw [List.mem_singleton.mp member, chosen] at same
    cases same
  | some itemId =>
    refine Prog.relies_select fun t looking => ?_
    cases owned : ownedBy userId (t.item itemId) with
    | none => exact Prog.relies_fail ⟨looking.inv, nofun⟩
    | some row =>
      obtain ⟨found, user⟩ := ownedBy_some owned
      refine Prog.relies_ensure_bind (fun _ => ⟨looking.inv, nofun⟩) fun category => ?_
      refine Prog.relies_ensure_bind (fun _ => ⟨looking.inv, nofun⟩) fun _ => ?_
      refine Prog.relies_select fun u clock => ?_
      unfold Prog.ensure
      split
      · refine Prog.relies_pure ⟨clock.inv, fun _ other member otherId same => ?_⟩
        rw [List.mem_singleton.mp member, chosen, Option.some.injEq] at same
        rw [List.mem_singleton.mp member, ← same]
        obtain ⟨row', stored, slot⟩ := clock.grows itemId row found
        exact ⟨row', stored, user ▸ of_decide_eq_true category ▸ slot⟩
      · exact Prog.relies_fail ⟨clock.inv, nofun⟩

variable (actions : List CosmeticAction)

theorem checkAll_relies (worn : Worn s) :
    (forEach (checkCosmetic userId) actions).Relies wearing request (Passes userId actions)
      ∅ id s := by
  induction actions generalizing s with
  | nil => exact Prog.relies_pure ⟨worn, fun _ _ member => nomatch member⟩
  | cons action rest ih =>
    refine (checkCosmetic_relies action worn).bind (fun _ t passed => ?_) ?_
    · refine (ih passed.1).grown.imp fun outcome u others => ⟨others.2.1, ?_⟩
      intro returned other member
      rcases List.mem_cons.mp member with rfl | later
      · exact (passed.2 rfl).stays others.1 other (List.mem_singleton_self other)
      · exact others.2.2 returned other later
    · exact fun _ _ thrown => ⟨thrown.1, nofun⟩

theorem applyCosmetic_relies {all : List CosmeticAction} {rareId : Except LedgerError Unit}
    {action : CosmeticAction} (member : action ∈ all) (worn : Worn s)
    (checked : Checked userId all s) :
    (applyCosmetic userId action).Relies wearing (.setActive userId all rareId) Leaves ∅ id s := by
  refine transaction_relies worn ?_
  cases chosen : action.userStoreItemId with
  | none => exact clearActiveCategory_relies
  | some itemId =>
    refine activateItem_relies (fun _ => rfl) fun x locking allowed y rely => ?_
    exact ready_of_found (checked.stays locking.grows action member itemId chosen)
      (allowed _ _ rfl action member itemId chosen rfl) rely

/-- The checks stay true while the slots are changed one after the other. -/
theorem applyAll_relies {all : List CosmeticAction} {rareId : Except LedgerError Unit}
    (sub : actions ⊆ all) (worn : Worn s) (checked : Checked userId all s) :
    (forEach (applyCosmetic userId) actions).Relies wearing (.setActive userId all rareId) Leaves
      ∅ id s := by
  induction actions generalizing s with
  | nil => exact Prog.relies_pure worn
  | cons action rest ih =>
    obtain ⟨member, others⟩ := List.cons_subset.mp sub
    refine (applyCosmetic_relies member worn checked).grown.bind (fun _ t left => ?_)
      fun _ _ left => left.2
    exact ih others left.2 (checked.stays left.1)

theorem setActiveItems_relies (rareId : Except LedgerError Unit) (worn : Worn s) :
    (setActiveItems userId actions rareId).Relies wearing (.setActive userId actions rareId) Leaves
      ∅ id s := by
  refine (checkAll_relies actions worn).bind (fun _ t passed => ?_) fun _ _ thrown => thrown.1
  cases rareId with
  | error error => exact Prog.relies_fail passed.1
  | ok => exact applyAll_relies actions (List.Subset.refl _) passed.1 (passed.2 rfl)

/-! ### Purchases -/

/-- A write to the wallets, the markers or the clock. -/
def Aside (f : StoreDb → StoreDb) : Prop :=
  ∀ db, (f db).item = db.item ∧ (f db).active = db.active

theorem Aside.comp {f g : StoreDb → StoreDb} (last : Aside f) (first : Aside g) :
    Aside (f ∘ g) := fun db =>
  ⟨(last (g db)).1.trans (first db).1, (last (g db)).2.trans (first db).2⟩

theorem harmless_aside : wearing.Harmless Aside where
  none _ := ⟨rfl, rfl⟩
  comp _ _ := Aside.comp
  keeps _ _ f t aside worn := by
    obtain ⟨items, active⟩ := aside t
    have pointer : (f t).pointer = t.pointer := by
      funext userId category
      rw [StoreDb.pointer, StoreDb.pointer, active]
    refine ⟨⟨?_, ?_⟩, ?_, fun row _ => ?_, trivial⟩
    · rw [pointer, items]
      exact worn.points
    · rw [items]
      exact worn.unexpired
    · intro id row found
      exact ⟨row, items ▸ found, rfl, rfl⟩
    · cases row with
      | storeActive userId category =>
        exact ⟨by rw [pointer], fun id row found _ => items ▸ found⟩
      | userStoreItem id =>
        intro absent
        rw [items, absent]
      | _ => trivial

/-- A new item that is not worn is added under an id that was free. -/
theorem create_keeps {held : Set Lock} {t u : StoreDb} {row : UserStoreItem} (worn : Worn t)
    (fresh : t.item itemId = none) (off : row.isApplied = false)
    (locked : .userStoreItem itemId ∈ held)
    (items : u.item = Function.update t.item itemId (some row)) (active : u.active = t.active) :
    wearing.Keeps request held t u := by
  have pointer : u.pointer = t.pointer := by
    funext userId category
    rw [StoreDb.pointer, StoreDb.pointer, active]
  have old : ∀ id row', t.item id = some row' → u.item id = some row' := by
    intro id row' found
    have different : id ≠ itemId := by
      rintro rfl
      rw [fresh] at found
      cases found
    rw [items, Function.update_of_ne different, found]
  have applied : ∀ id row', u.item id = some row' → row'.isApplied = true →
      t.item id = some row' := by
    intro id row' found on
    by_cases same : id = itemId
    · subst same
      rw [items, Function.update_self, Option.some.injEq] at found
      rw [← found, off] at on
      cases on
    · rwa [items, Function.update_of_ne same] at found
  refine ⟨⟨fun userId category id => ?_, fun id row' found on => ?_⟩, ?_, fun lock free => ?_,
    trivial⟩
  · rw [pointer, worn.points]
    constructor
    · rintro ⟨row', found, slot, on⟩
      exact ⟨row', old id row' found, slot, on⟩
    · rintro ⟨row', found, slot, on⟩
      exact ⟨row', applied id row' found on, slot, on⟩
  · exact worn.unexpired id row' (applied id row' found on) on
  · exact fun id row' found => ⟨row', old id row' found, rfl, rfl⟩
  · cases lock with
    | storeActive userId category => exact ⟨by rw [pointer], fun id row' found _ => old id row' found⟩
    | userStoreItem id =>
      intro absent
      have different : id ≠ itemId := by
        rintro rfl
        exact free locked
      rw [items, Function.update_of_ne different, absent]
    | _ => trivial

theorem purchaseTx_relies (env : PurchaseEnvironment) (params : PurchaseItemParams)
    (item : StoreItem) (expiresAt : Time) (worn : Worn s) :
    (purchaseTx env params item expiresAt).Relies wearing request (Commits request)
      (fun _ _ => True) ∅ id s := by
  have debits : (onMoney (debitForStoreItemPurchase params.buyerId item.coinCost params.recipientId
      (.storePurchase params.idempotencyKey))).Writes Aside := .zoom (fun _ _ => ⟨rfl, rfl⟩) _
  refine Tx.Relies.bind (debits.relies (Q := Aside) (fun _ _ => Aside.comp) (fun _ => ⟨rfl, rfl⟩) worn
    ?_ fun _ _ _ => trivial)
  intro _ held w t _ aside rely
  refine Tx.Relies.bind (Tx.relies_lockRow fun x locking _ => ?_)
  refine Tx.relies_select fun y reading => ?_
  refine Tx.relies_check fun free => ?_
  have fresh : y.item env.userStoreItemId = none := by
    rw [(aside y).1] at free
    simp only [Bool.not_eq_true', Bool.or_eq_false_iff] at free
    simpa using free.1
  intro z creating _
  have locked : .userStoreItem env.userStoreItemId ∈ insert (.userStoreItem env.userStoreItemId)
      held := Set.mem_insert _ _
  have inside := Set.mem_insert (.userStoreItem env.userStoreItemId)
    (insert (.userStoreItem env.userStoreItemId) held)
  let row : UserStoreItem :=
    { userId := params.recipientId, storeItemId := params.storeItemId, category := item.category,
      purchasedById := params.buyerId, coinsPaid := item.coinCost, isActive := true,
      isApplied := false, expiresAt, activatedAt := none, expiredAt := none, revokedAt := none }
  let create : StoreDb → StoreDb := fun db =>
    { db with item := Function.update db.item env.userStoreItemId (some row)
              itemKeys := db.itemKeys ++ [params.idempotencyKey] }
  have made : ∀ u held', insert (.userStoreItem env.userStoreItemId)
      (insert (.userStoreItem env.userStoreItemId) held) ⊆ held' →
      wearing.Rely (insert (.userStoreItem env.userStoreItemId)
        (insert (.userStoreItem env.userStoreItemId) held)) z u →
      wearing.Keeps request held' u (create (w u)) := by
    intro u held' more later
    have stillFree := later.same _ inside (creating.same _ locked fresh)
    have items : (create (w u)).item = Function.update u.item env.userStoreItemId (some row) := by
      change Function.update (w u).item _ _ = _
      rw [(aside u).1]
    exact create_keeps later.inv stillFree rfl (more inside) items (aside u).2
  refine Tx.Relies.bind ?_
  unfold Tx.when
  split
  next self =>
    refine (activateItem_relies (fun db => ?_) fun x locking _ u since => ⟨?_, ?_⟩).imp ?_
      fun _ _ _ => trivial
    · funext userId category
      change ((w db).active userId category).join = (db.active userId category).join
      rw [(aside db).2]
    · exact fun held' more => made u held' more
        (locking.trans (since.mono (Set.subset_insert _ _)))
    · exact ⟨row, Function.update_self .., ⟨rfl, rfl⟩, rfl⟩
    · exact fun _ _ _ _ commits => commits
  next gift => exact fun u committing _ => made u _ subset_rfl committing

theorem purchaseItem_relies (env : PurchaseEnvironment) (params : PurchaseItemParams) :
    (purchaseItem env params).Relies wearing request Leaves ∅ id s := by
  refine IdemMarkers.around_relies harmless_aside (fun _ _ => ⟨rfl, rfl⟩) _ fun t worn => ?_
  refine Prog.relies_select fun u looking => ?_
  cases (u.storeItem params.storeItemId).filter (·.isActive) with
  | none => exact Prog.relies_fail looking.inv
  | some item =>
    refine Prog.relies_select fun x related => ?_
    refine Prog.relies_ensure_bind (fun _ => related.inv) fun _ => ?_
    refine Prog.relies_select fun y clock => ?_
    have bought : (withSerializationRetry (purchaseTx env params item
        (y.now + item.validityDays * 86400000)) 3 env.aborts).Relies wearing request Leaves ∅ id y := by
      refine withSerializationRetry_relies Worn (fun _ _ rely _ => rely.inv) ?_ clock.inv clock.inv 3
        env.aborts fun _ _ worn _ => worn
      intro z worn _
      refine ((purchaseTx_relies env params item _ worn).since worn).imp ?_ fun _ _ e => e.1.inv
      intro _ held w a commits b rely allowed
      have keeps := commits b rely allowed
      exact ⟨keeps, keeps.inv⟩
    exact bought.bind (fun _ _ worn => Prog.relies_pure worn) fun _ _ worn => worn

theorem handler_relies (request : Request) (worn : Worn s) :
    (handler request).Relies wearing request Leaves ∅ id s := by
  cases request with
  | tick milliseconds =>
    exact harmless_aside.relies (Prog.only_autocommit fun _ => ⟨rfl, rfl⟩) worn
  | purchase env params =>
    exact (purchaseItem_relies env params).bind (fun _ _ worn => Prog.relies_pure worn)
      fun _ _ worn => worn
  | activate userId itemId => exact activateOwnedItem_relies
  | deactivate userId itemId => exact deactivateOwnedItem_relies
  | setActive userId actions rareId => exact setActiveItems_relies actions rareId worn
  | expire itemId => exact transaction_relies worn expireItem_relies
  | forgetIdem buyerId key =>
    exact harmless_aside.relies (IdemMarkers.forgetIdemKey_only fun _ _ => ⟨rfl, rfl⟩) worn

end Service

/-! ### Runs -/

abbrev StoreConfig := Config Request StoreDb Lock LedgerError

/-- In every run in which items are activated while unexpired and taken off while worn, the slots,
the applied items and the expired items agree in every state reached. -/
theorem one_worn {db : StoreDb} {c : StoreConfig} (worn : Worn db)
    (run : Reaches handler wearing.Allows (Config.idle db) c) : Worn c.db :=
  (Reaches.observed
    (fun request _ worn => (handler_relies request worn).imp fun _ _ _ => trivial)
    (fun _ _ allowed => allowed) worn run).inv

def ride (isApplied : Bool) : UserStoreItem :=
  { userId := 1, storeItemId := 5, category := .ride, purchasedById := 1, coinsPaid := 100,
    isActive := true, isApplied, expiresAt := 1000, activatedAt := none, expiredAt := none,
    revokedAt := none }

/-- User 1 owns two rides and sits on the first. -/
def riding : StoreDb where
  now := 10
  money := MoneyDb.empty
  storeItem _ := none
  existsFollow _ _ := false
  item := Function.update (Function.update (fun _ => none) 1 (some (ride true))) 2
    (some (ride false))
  itemKeys := []
  active userId category := if userId = 1 ∧ category = .ride then some (some 1) else none
  idem _ := none

theorem riding_item (id : Nat) (row : UserStoreItem) :
    riding.item id = some row ↔ id = 1 ∧ row = ride true ∨ id = 2 ∧ row = ride false := by
  by_cases second : id = 2
  · subst second
    simp [riding, eq_comm]
  · by_cases first : id = 1
    · subst first
      simp [riding, eq_comm]
    · simp [riding, first, second]

theorem riding_worn : Worn riding where
  points userId category id := by
    have pointer : riding.pointer userId category = some id ↔
        (userId = 1 ∧ category = .ride) ∧ 1 = id := by
      by_cases slot : userId = 1 ∧ category = .ride <;> simp [StoreDb.pointer, riding, slot]
    rw [pointer]
    constructor
    · rintro ⟨⟨rfl, rfl⟩, rfl⟩
      exact ⟨ride true, (riding_item 1 _).mpr (.inl ⟨rfl, rfl⟩), ⟨rfl, rfl⟩, rfl⟩
    · rintro ⟨row, found, ⟨rfl, rfl⟩, applied⟩
      rcases (riding_item id row).mp found with ⟨rfl, rfl⟩ | ⟨rfl, rfl⟩
      · exact ⟨⟨rfl, rfl⟩, rfl⟩
      · cases applied
  unexpired id row found _ := by
    rcases (riding_item id row).mp found with ⟨rfl, rfl⟩ | ⟨rfl, rfl⟩ <;> rfl

private def stillFits (c : StoreConfig) : Event Request → Bool
  | .advance i =>
    match c.threads[i]? with
    | none => true
    | some t =>
      match t.request, t.statement with
      | .activate _ id, some (.lock (.storeActive _ _)) => (c.db.item id).all (·.isActive)
      | .deactivate _ id, some (.lock (.storeActive userId category)) =>
        (c.db.pointer userId category).all (· == id)
      | .setActive _ _ _, _ => false
      | _, _ => true
  | _ => true

private theorem stillFits_sound (c : StoreConfig) (e : Event Request)
    (checked : stillFits c e = true) : wearing.Allows c e := by
  cases e with
  | advance i =>
    rintro t statement found next userId category rfl
    split
    next id requestIs =>
      intro row present
      simpa [stillFits, found, requestIs, next, present] using checked
    next id requestIs =>
      intro worn present
      simpa [stillFits, found, requestIs, next, present] using checked
    next requestIs => simp [stillFits, found, requestIs] at checked
    next => trivial
  | _ => trivial

/-- The user changes to the other ride, then takes it off. -/
theorem one_worn_changed : ∃ c : StoreConfig,
    Reaches handler wearing.Allows (Config.idle riding) c ∧
      (c.db.item 1).map (·.isApplied) = some false ∧ c.db.pointer 1 .ride = none ∧ Worn c.db := by
  obtain ⟨c, run, first, empty⟩ : ∃ c, Reaches handler wearing.Allows (Config.idle riding) c ∧
      (c.db.item 1).map (·.isApplied) = some false ∧ c.db.pointer 1 .ride = none :=
    exists_reaches_checked stillFits_sound
      [serve (.activate 1 2) 0 9, serve (.deactivate 1 2) 1 5] (by decide +kernel)
  exact ⟨c, run, first, empty, one_worn riding_worn run⟩

/-- The first ride is worn when its owner asks to take it off, and no longer when that is done: the
slot is emptied, and the second ride stays applied. -/
theorem not_one_worn : ¬ ∀ (db : StoreDb) (c : StoreConfig), Worn db →
    Reaches handler (fun _ _ => True) (Config.idle db) c → Worn c.db := by
  intro claim
  obtain ⟨c, run, applied, empty⟩ : ∃ c, Reaches handler (fun _ _ => True) (Config.idle riding) c ∧
      c.db.item 2 = some { ride true with activatedAt := some 10 } ∧ c.db.pointer 1 .ride = none :=
    exists_reaches [serve (.deactivate 1 1) 0 1, serve (.activate 1 2) 1 9,
      List.replicate 4 (.advance 0)] (by decide +kernel)
  have points := ((claim riding c riding_worn run).points 1 .ride 2).mpr
    ⟨_, applied, ⟨rfl, rfl⟩, rfl⟩
  rw [empty] at points
  cases points

end OlNode.Stores
