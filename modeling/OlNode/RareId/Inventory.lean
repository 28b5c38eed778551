import OlNode.RareId.Operations

/-!
# One owner for every rare id

An id is free, or it is sold under exactly one active assignment to its current owner. A purchase
keeps to this under the lock of the id's row. An expiry job frees the row of its assignment without
looking again, and a revocation leaves the row as it is; both keep to it only if what they have
read before is still the case, which is the condition on the runs.
-/
namespace OlNode.RareIds

open ReadCommitted

/-! ### The inventory -/

def activeFor (db : RareIdDb) (publicId : Nat) : List UserVipAssignment :=
  db.assignments.filter fun row => row.isActive ∧ row.publicId = publicId

inductive IdState (db : RareIdDb) (publicId : Nat) : Prop where
  | forSale (unassigned : activeFor db publicId = [])
      (listed : ∀ row, db.vipPublicId publicId = some row → row.isAvailable = true) :
      IdState db publicId
  | sold (assignment : UserVipAssignment) (row : VipPublicId)
      (assigned : activeFor db publicId = [assignment])
      (present : db.vipPublicId publicId = some row) (taken : row.isAvailable = false)
      (owner : row.currentOwnerId = some assignment.userId) : IdState db publicId

structure Inventory (db : RareIdDb) : Prop where
  ids : ∀ publicId, IdState db publicId
  /-- Users that show the same id are one user. -/
  shown : ∀ u ∈ db.users, ∀ v ∈ db.users, ∀ publicId,
    u.currentVipPublicId = some publicId → v.currentVipPublicId = some publicId → u.id = v.id
  unique : ∀ a ∈ db.assignments, ∀ b ∈ db.assignments, a.id = b.id → a = b

section Assignments

variable {db : RareIdDb} {id : Nat}

theorem findAssignment_eq_some (unique : ∀ a ∈ db.assignments, ∀ b ∈ db.assignments,
    a.id = b.id → a = b) {a : UserVipAssignment} :
    findAssignment db id = some a ↔ a ∈ db.assignments ∧ a.id = id := by
  constructor
  · intro found
    exact ⟨List.mem_of_find?_eq_some found, by simpa using List.find?_some found⟩
  · rintro ⟨member, rfl⟩
    cases found : findAssignment db a.id with
    | none => simpa using List.find?_eq_none.mp found a member
    | some b =>
      have same : b.id = a.id := by simpa using List.find?_some found
      rw [unique b (List.mem_of_find?_eq_some found) a member same]

theorem findAssignment_eq_none :
    findAssignment db id = none ↔ ∀ a ∈ db.assignments, a.id ≠ id := by
  simp [findAssignment]

/-- Ending an assignment takes it from the active ones of its id. -/
theorem activeFor_modifyAssignment {f : UserVipAssignment → UserVipAssignment}
    (ends : ∀ row, (f row).isActive = false) (publicId : Nat) :
    activeFor (db.modifyAssignment id f) publicId =
      (activeFor db publicId).filter fun row => row.id ≠ id := by
  simp only [activeFor, RareIdDb.modifyAssignment]
  induction db.assignments with
  | nil => rfl
  | cons row rows ih =>
    rw [List.map_cons, List.filter_cons, List.filter_cons, ih]
    by_cases same : row.id = id
    · by_cases active : row.isActive = true ∧ row.publicId = publicId
      · simp [same, ends, active]
      · simp [same, ends, active]
    · by_cases active : row.isActive = true ∧ row.publicId = publicId
      · simp [same, active]
      · simp [same, active]

theorem mem_activeFor {publicId : Nat} {a : UserVipAssignment} :
    a ∈ activeFor db publicId ↔
      a ∈ db.assignments ∧ a.isActive = true ∧ a.publicId = publicId := by
  simp [activeFor]

end Assignments

/-! ### The agreement of the requests -/

def Protected : Lock → RareIdDb → RareIdDb → Prop
  | .vipPublicId publicId, s, t =>
    s.vipPublicId publicId = t.vipPublicId publicId ∧ activeFor s publicId = activeFor t publicId
  | .vipAssignment id, s, t => findAssignment s id = none → findAssignment t id = none
  | .vipOverlay publicId, s, t => ∀ u ∈ t.users, u.currentVipPublicId = some publicId →
    ∃ v ∈ s.users, v.id = u.id ∧ v.currentVipPublicId = some publicId
  | _, _, _ => True

/-- An assignment stays with its user and its id. -/
def Grows (s t : RareIdDb) : Prop :=
  ∀ a ∈ s.assignments, ∃ b ∈ t.assignments,
    b.id = a.id ∧ b.userId = a.userId ∧ b.publicId = a.publicId

/-- An expiry job commits while no other assignment of its id is active, and a revocation on an
assignment that is no longer active. -/
def StillCurrent (request : Request) (statement : Statement RareIdDb Lock) (db : RareIdDb) : Prop :=
  ∀ writes, statement = .commit writes →
    match request with
    | .purchase _ _ => True
    | .expiryJob assignmentId => ∀ a ∈ db.assignments, a.id = assignmentId →
        ∀ b ∈ activeFor db a.publicId, b.id = assignmentId
    | .revoke _ _ assignmentId => ∀ a ∈ db.assignments, a.id = assignmentId → a.isActive = false

def leasing : Agreement Request RareIdDb Lock where
  inv := Inventory
  grows := Grows
  same := Protected
  step _ _ _ := True
  allows := StillCurrent
  grows_refl s a member := ⟨a, member, rfl, rfl, rfl⟩
  grows_trans s t u first second a member := by
    obtain ⟨b, memberB, id, user, publicId⟩ := first a member
    obtain ⟨c, memberC, id', user', publicId'⟩ := second b memberB
    exact ⟨c, memberC, id'.trans id, user'.trans user, publicId'.trans publicId⟩
  same_refl row s := by
    cases row <;> simp [Protected]
    case vipOverlay => exact fun u member shows => ⟨u, member, rfl, shows⟩
  same_trans row s t u first second := by
    cases row <;> simp only [Protected] at first second ⊢
    case vipPublicId => exact ⟨first.1.trans second.1, first.2.trans second.2⟩
    case vipAssignment => exact fun absent => second (first absent)
    case vipOverlay =>
      intro user member shows
      obtain ⟨v, memberV, id, showsV⟩ := second user member shows
      obtain ⟨x, memberX, id', showsX⟩ := first v memberV showsV
      exact ⟨x, memberX, id'.trans id, showsX⟩

/-! ### The commit of a purchase -/

section Purchase

variable {g : MoneyDb → MoneyDb} {env : PurchaseEnvironment} {params : PurchaseParams}
  {db : RareIdDb} {held : Set Lock}

def assignmentOf (env : PurchaseEnvironment) (params : PurchaseParams) : UserVipAssignment :=
  { id := env.assignmentId, userId := params.recipientId, publicId := params.publicId,
    startsAt := env.now, expiresAt := env.now + env.duration, revokedAt := none, isActive := true }

/-- The state after the sale, before the recipient shows the id. -/
def sale (g : MoneyDb → MoneyDb) (env : PurchaseEnvironment) (params : PurchaseParams)
    (db : RareIdDb) : RareIdDb :=
  let sold := (db.setMoney (g db.money)).modifyRow params.publicId
    (sell params.recipientId env.now (env.now + env.duration))
  { sold with assignments := sold.assignments ++ [assignmentOf env params] }

def showing (env : PurchaseEnvironment) (params : PurchaseParams) (db : RareIdDb) : RareIdDb :=
  db.modifyUser params.recipientId fun user =>
    { user with currentVipPublicId := some params.publicId,
                vipPublicIdExpiresAt := some (env.now + env.duration),
                vipPurchaseAt := some env.now }

/-- What the purchase has seen under its locks. -/
structure Reserved (env : PurchaseEnvironment) (params : PurchaseParams) (held : Set Lock)
    (db : RareIdDb) : Prop where
  available : ∃ row, db.vipPublicId params.publicId = some row ∧ row.isAvailable = true
  fresh : findAssignment db env.assignmentId = none
  rowLocked : .vipPublicId params.publicId ∈ held
  idLocked : .vipAssignment env.assignmentId ∈ held

theorem activeFor_sale (publicId : Nat) : activeFor (sale g env params db) publicId =
    activeFor db publicId ++
      if params.publicId = publicId then [assignmentOf env params] else [] := by
  simp only [activeFor, sale, RareIdDb.modifyRow, RareIdDb.setMoney, List.filter_append,
    List.filter_cons, List.filter_nil, assignmentOf, true_and, decide_eq_true_eq]

variable (g env db) in
theorem sale_other {publicId : Nat} (other : params.publicId ≠ publicId) :
    (sale g env params db).vipPublicId publicId = db.vipPublicId publicId ∧
      activeFor (sale g env params db) publicId = activeFor db publicId := by
  constructor
  · exact Function.update_of_ne (Ne.symm other) _ _
  · rw [activeFor_sale, if_neg other, List.append_nil]

theorem Reserved.inventory (reserved : Reserved env params held db) (inventory : Inventory db) :
    Inventory (sale g env params db) where
  ids publicId := by
    by_cases same : params.publicId = publicId
    · subst same
      obtain ⟨row, present, available⟩ := reserved.available
      cases inventory.ids params.publicId with
      | forSale unassigned listed =>
        refine .sold (assignmentOf env params)
          (sell params.recipientId env.now (env.now + env.duration) row) ?_ ?_ rfl rfl
        · simp [activeFor_sale, unassigned]
        · simp [sale, RareIdDb.modifyRow, RareIdDb.setMoney, present]
      | sold assignment other assigned presentOther taken owner =>
        rw [presentOther, Option.some.injEq] at present
        rw [present, available] at taken
        cases taken
    · obtain ⟨sameRow, sameActive⟩ := sale_other g env db same
      cases inventory.ids publicId with
      | forSale unassigned listed =>
        exact .forSale (sameActive.trans unassigned) fun row present =>
          listed row (sameRow ▸ present)
      | sold assignment row assigned present taken owner =>
        exact .sold assignment row (sameActive.trans assigned) (sameRow.trans present) taken owner
  shown := inventory.shown
  unique := by
    have fresh := findAssignment_eq_none.mp reserved.fresh
    intro a memberA b memberB same
    rcases List.mem_append.mp memberA with oldA | newA <;>
      rcases List.mem_append.mp memberB with oldB | newB
    · exact inventory.unique a oldA b oldB same
    · rw [List.mem_singleton.mp newB] at same
      exact absurd same (fresh a oldA)
    · rw [List.mem_singleton.mp newA] at same
      exact absurd same.symm (fresh b oldB)
    · exact (List.mem_singleton.mp newA).trans (List.mem_singleton.mp newB).symm

theorem Reserved.protected (reserved : Reserved env params held db) (row : Lock)
    (free : row ∉ held) : Protected row db (sale g env params db) := by
  cases row with
  | vipPublicId publicId =>
    have other : params.publicId ≠ publicId := by
      rintro rfl
      exact free reserved.rowLocked
    obtain ⟨sameRow, sameActive⟩ := sale_other g env db other
    exact ⟨sameRow.symm, sameActive.symm⟩
  | vipAssignment id =>
    intro absent
    rw [findAssignment_eq_none] at absent ⊢
    intro a member same
    rcases List.mem_append.mp member with old | new
    · exact absent a old same
    · rw [List.mem_singleton.mp new] at same
      exact free (same ▸ reserved.idLocked)
  | vipOverlay publicId => exact fun u member shows => ⟨u, member, rfl, shows⟩
  | _ => trivial

theorem Reserved.keeps (reserved : Reserved env params held db) (inventory : Inventory db)
    (request : Request) : leasing.Keeps request held db (sale g env params db) where
  inv := reserved.inventory inventory
  grows a member := ⟨a, List.mem_append_left _ member, rfl, rfl, rfl⟩
  same := reserved.protected
  step := trivial

/-- No other user shows the id of the purchase. -/
def Unshown (params : PurchaseParams) (db : RareIdDb) : Prop :=
  ∀ u ∈ db.users, u.currentVipPublicId = some params.publicId → u.id = params.recipientId

/-- A user after the recipient shows the id. -/
theorem mem_showing {u : User} (member : u ∈ (showing env params db).users) :
    ∃ v ∈ db.users, u.id = v.id ∧
      (u.id = params.recipientId ∧ u.currentVipPublicId = some params.publicId ∨
        u.currentVipPublicId = v.currentVipPublicId) := by
  obtain ⟨v, memberV, rfl⟩ := List.mem_map.mp member
  refine ⟨v, memberV, ?_⟩
  by_cases own : v.id = params.recipientId
  · rw [if_pos own]
    exact ⟨rfl, .inl ⟨own, rfl⟩⟩
  · rw [if_neg own]
    exact ⟨rfl, .inr rfl⟩

theorem showing_shown (unshown : Unshown params db)
    (shown : ∀ u ∈ db.users, ∀ v ∈ db.users, ∀ publicId,
      u.currentVipPublicId = some publicId → v.currentVipPublicId = some publicId → u.id = v.id) :
    ∀ u ∈ (showing env params db).users, ∀ v ∈ (showing env params db).users, ∀ publicId,
      u.currentVipPublicId = some publicId → v.currentVipPublicId = some publicId →
        u.id = v.id := by
  intro u memberU v memberV publicId showsU showsV
  obtain ⟨u', oldU, idU, nowU⟩ := mem_showing memberU
  obtain ⟨v', oldV, idV, nowV⟩ := mem_showing memberV
  -- whoever shows the purchased id now is the recipient
  have recipient : ∀ x x' : User, x' ∈ db.users → x.id = x'.id →
      (x.id = params.recipientId ∧ x.currentVipPublicId = some params.publicId ∨
        x.currentVipPublicId = x'.currentVipPublicId) →
      x.currentVipPublicId = some params.publicId → x.id = params.recipientId := by
    rintro x x' old id (⟨own, -⟩ | same) shows
    · exact own
    · exact id.trans (unshown x' old (same.symm.trans shows))
  by_cases purchased : publicId = params.publicId
  · subst purchased
    exact (recipient u u' oldU idU nowU showsU).trans (recipient v v' oldV idV nowV showsV).symm
  · have before : ∀ x x' : User, (x.id = params.recipientId ∧
        x.currentVipPublicId = some params.publicId ∨
        x.currentVipPublicId = x'.currentVipPublicId) → x.currentVipPublicId = some publicId →
        x'.currentVipPublicId = some publicId := by
      rintro x x' (⟨-, current⟩ | same) shows
      · rw [current, Option.some.injEq] at shows
        exact absurd shows.symm purchased
      · exact same.symm.trans shows
    have same := shown u' oldU v' oldV publicId (before u u' nowU showsU) (before v v' nowV showsV)
    exact idU.trans (same.trans idV.symm)

/-- The recipient shows the id, under the lock on the unique index. -/
theorem showing_keeps {request : Request} {s : RareIdDb} (keeps : leasing.Keeps request held s db)
    (unshown : Unshown params db) (locked : .vipOverlay params.publicId ∈ held) :
    leasing.Keeps request held s (showing env params db) where
  inv :=
    { ids := fun publicId => by
        cases keeps.inv.ids publicId with
        | forSale unassigned listed => exact .forSale unassigned listed
        | sold assignment row assigned present taken owner =>
          exact .sold assignment row assigned present taken owner
      shown := showing_shown unshown keeps.inv.shown
      unique := keeps.inv.unique }
  grows := keeps.grows
  same row free := by
    have before := keeps.same row free
    cases row with
    | vipOverlay publicId =>
      intro u member shows
      obtain ⟨v, old, id, ⟨-, current⟩ | same⟩ := mem_showing member
      · rw [current, Option.some.injEq] at shows
        exact absurd (shows ▸ locked) free
      · obtain ⟨x, oldX, idX, showsX⟩ := before v old (same.symm.trans shows)
        exact ⟨x, oldX, idX.trans id.symm, showsX⟩
    | _ => exact before
  step := trivial

end Purchase

/-! ### The end of a lease -/

section Ends

variable {db : RareIdDb} {held : Set Lock} {id : Nat}
  {f : UserVipAssignment → UserVipAssignment}

/-- An assignment after one of them was changed. -/
theorem mem_modifyAssignment {b : UserVipAssignment}
    (member : b ∈ (db.modifyAssignment id f).assignments) :
    ∃ a ∈ db.assignments, b = if a.id = id then f a else a := by
  obtain ⟨a, old, rfl⟩ := List.mem_map.mp member
  exact ⟨a, old, rfl⟩

theorem modifyAssignment_unique (keepsId : ∀ row, (f row).id = row.id)
    (unique : ∀ a ∈ db.assignments, ∀ b ∈ db.assignments, a.id = b.id → a = b) :
    ∀ a ∈ (db.modifyAssignment id f).assignments, ∀ b ∈ (db.modifyAssignment id f).assignments,
      a.id = b.id → a = b := by
  have idOf : ∀ row : UserVipAssignment, (if row.id = id then f row else row).id = row.id := by
    intro row
    split
    · exact keepsId row
    · rfl
  intro a memberA b memberB same
  obtain ⟨a', oldA, rfl⟩ := mem_modifyAssignment memberA
  obtain ⟨b', oldB, rfl⟩ := mem_modifyAssignment memberB
  rw [idOf, idOf] at same
  rw [unique a' oldA b' oldB same]

theorem modifyAssignment_grows (keepsId : ∀ row, (f row).id = row.id)
    (keepsUser : ∀ row, (f row).userId = row.userId)
    (keepsPublicId : ∀ row, (f row).publicId = row.publicId) :
    Grows db (db.modifyAssignment id f) := by
  intro a member
  refine ⟨_, List.mem_map_of_mem member, ?_⟩
  split
  · exact ⟨keepsId a, keepsUser a, keepsPublicId a⟩
  · exact ⟨rfl, rfl, rfl⟩

theorem modifyAssignment_absent (keepsId : ∀ row, (f row).id = row.id) {other : Nat}
    (absent : findAssignment db other = none) :
    findAssignment (db.modifyAssignment id f) other = none := by
  rw [findAssignment_eq_none] at absent ⊢
  intro b member
  obtain ⟨a, old, rfl⟩ := mem_modifyAssignment member
  split
  · rw [keepsId]
    exact absent a old
  · exact absent a old

/-- A revocation that finds the assignment inactive changes nothing for the inventory. -/
theorem revoked_keeps (inventory : Inventory db) (request : Request) (now : Time)
    (inactive : ∀ a ∈ db.assignments, a.id = id → a.isActive = false) :
    leasing.Keeps request held db (db.modifyAssignment id fun row =>
      { row with revokedAt := some now, isActive := false }) := by
  have active : ∀ publicId, activeFor (db.modifyAssignment id fun row =>
      { row with revokedAt := some now, isActive := false }) publicId = activeFor db publicId := by
    intro publicId
    rw [activeFor_modifyAssignment fun _ => rfl, List.filter_eq_self]
    intro a member
    obtain ⟨old, isActive, -⟩ := mem_activeFor.mp member
    rw [decide_eq_true_eq]
    intro same
    rw [inactive a old same] at isActive
    cases isActive
  constructor
  · constructor
    · intro publicId
      cases inventory.ids publicId with
      | forSale unassigned listed => exact .forSale ((active publicId).trans unassigned) listed
      | sold assignment row assigned present taken owner =>
        exact .sold assignment row ((active publicId).trans assigned) present taken owner
    · exact inventory.shown
    · exact modifyAssignment_unique (fun _ => rfl) inventory.unique
  · exact modifyAssignment_grows (fun _ => rfl) (fun _ => rfl) fun _ => rfl
  · intro row _
    cases row with
    | vipPublicId publicId => exact ⟨rfl, (active publicId).symm⟩
    | vipAssignment other =>
      intro absent
      refine modifyAssignment_absent ?_ absent
      exact fun _ => rfl
    | vipOverlay publicId => exact fun u member shows => ⟨u, member, rfl, shows⟩
    | _ => trivial
  · trivial

def expire (assignment : UserVipAssignment) (db : RareIdDb) : RareIdDb :=
  ((db.modifyAssignment assignment.id fun row => { row with isActive := false }).clearOverlay
    assignment.userId assignment.publicId).modifyRow assignment.publicId free

theorem mem_clearOverlay {userId : UserId} {publicId : Nat} {u : User}
    (member : u ∈ (db.clearOverlay userId publicId).users) :
    ∃ v ∈ db.users, u.id = v.id ∧
      ∀ other, u.currentVipPublicId = some other → v.currentVipPublicId = some other := by
  obtain ⟨v, old, rfl⟩ := List.mem_map.mp member
  refine ⟨v, old, ?_⟩
  split
  · dsimp only
    split
    · exact ⟨rfl, nofun⟩
    · exact ⟨rfl, fun _ shows => shows⟩
  · exact ⟨rfl, fun _ shows => shows⟩

theorem activeFor_expire (assignment : UserVipAssignment) (publicId : Nat) :
    activeFor (expire assignment db) publicId =
      (activeFor db publicId).filter fun row => row.id ≠ assignment.id :=
  activeFor_modifyAssignment (fun _ => rfl) publicId

/-- An expiry job that commits while no other assignment of the id is active. -/
theorem expired_keeps {assignment : UserVipAssignment} (inventory : Inventory db)
    (request : Request) (locked : .vipPublicId assignment.publicId ∈ held)
    (known : ∃ a ∈ db.assignments, a.id = assignment.id ∧ a.publicId = assignment.publicId)
    (last : ∀ b ∈ activeFor db assignment.publicId, b.id = assignment.id) :
    leasing.Keeps request held db (expire assignment db) := by
  have emptied : activeFor (expire assignment db) assignment.publicId = [] := by
    rw [activeFor_expire, List.filter_eq_nil_iff]
    intro b member
    simp [last b member]
  have others : ∀ publicId, assignment.publicId ≠ publicId →
      (expire assignment db).vipPublicId publicId = db.vipPublicId publicId ∧
        activeFor (expire assignment db) publicId = activeFor db publicId := by
    intro publicId other
    refine ⟨Function.update_of_ne (Ne.symm other) _ _, ?_⟩
    rw [activeFor_expire, List.filter_eq_self]
    intro b member
    obtain ⟨old, -, publicIdIs⟩ := mem_activeFor.mp member
    obtain ⟨a, oldA, idIs, samePublicId⟩ := known
    rw [decide_eq_true_eq]
    intro same
    rw [inventory.unique b old a oldA (same.trans idIs.symm), samePublicId] at publicIdIs
    exact other publicIdIs
  constructor
  · constructor
    · intro publicId
      by_cases own : assignment.publicId = publicId
      · subst own
        refine .forSale emptied fun row present => ?_
        simp only [expire, RareIdDb.modifyRow, Function.update_self, Option.map_eq_some_iff]
          at present
        obtain ⟨before, -, rfl⟩ := present
        rfl
      · obtain ⟨sameRow, sameActive⟩ := others publicId own
        cases inventory.ids publicId with
        | forSale unassigned listed =>
          exact .forSale (sameActive.trans unassigned) fun row present =>
            listed row (sameRow ▸ present)
        | sold assignment row assigned present taken owner =>
          exact .sold assignment row (sameActive.trans assigned) (sameRow.trans present) taken owner
    · intro u memberU v memberV publicId showsU showsV
      obtain ⟨u', oldU, idU, beforeU⟩ := mem_clearOverlay memberU
      obtain ⟨v', oldV, idV, beforeV⟩ := mem_clearOverlay memberV
      have same := inventory.shown u' oldU v' oldV publicId (beforeU _ showsU) (beforeV _ showsV)
      exact idU.trans (same.trans idV.symm)
    · exact modifyAssignment_unique (fun _ => rfl) inventory.unique
  · exact modifyAssignment_grows (fun _ => rfl) (fun _ => rfl) fun _ => rfl
  · intro row free
    cases row with
    | vipPublicId publicId =>
      have other : assignment.publicId ≠ publicId := by
        rintro rfl
        exact free locked
      obtain ⟨sameRow, sameActive⟩ := others publicId other
      exact ⟨sameRow.symm, sameActive.symm⟩
    | vipAssignment other =>
      intro absent
      refine modifyAssignment_absent ?_ absent
      exact fun _ => rfl
    | vipOverlay publicId =>
      intro u member shows
      obtain ⟨v, old, idIs, before⟩ := mem_clearOverlay member
      exact ⟨v, old, idIs.symm, before publicId shows⟩
    | _ => trivial
  · trivial

end Ends

/-! ### The requests -/

section Requests

variable {request : Request} {s : RareIdDb} {env : PurchaseEnvironment} {params : PurchaseParams}
  {held : Set Lock} {g : MoneyDb → MoneyDb}

/-- A commit of a purchase is in order whatever the others do meanwhile. -/
def Commits (request : Request) (held : Set Lock) (w : RareIdDb → RareIdDb) (s : RareIdDb) : Prop :=
  ∀ t, leasing.Rely held s t → leasing.Keeps request held t (w t)

theorem Reserved.rely {t : RareIdDb} (reserved : Reserved env params held s)
    (rely : leasing.Rely held s t) : Reserved env params held t := by
  obtain ⟨row, present, available⟩ := reserved.available
  have same : s.vipPublicId params.publicId = t.vipPublicId params.publicId ∧ _ :=
    rely.same _ reserved.rowLocked
  have fresh : findAssignment s env.assignmentId = none → findAssignment t env.assignmentId = none :=
    rely.same _ reserved.idLocked
  exact ⟨⟨row, same.1 ▸ present, available⟩, fresh reserved.fresh, reserved.rowLocked,
    reserved.idLocked⟩

theorem showRareId_relies (reserved : Reserved env params held s) :
    (showRareId params.recipientId params.publicId (env.now + env.duration) env.now).Relies leasing
      request (fun _ held w s => Commits request held w s) (fun _ _ => True) held
      (sale g env params) s := by
  refine Tx.relies_lockRow fun t rely _ => Tx.relies_select fun u further => ?_
  refine Tx.relies_check fun unshown v last _ x final => ?_
  have more := Set.subset_insert (.vipOverlay params.publicId) held
  have sub := more.trans (Set.subset_insert (.user params.recipientId) _)
  have since : leasing.Rely (insert (.vipOverlay params.publicId) held) u x :=
    last.trans (final.mono (Set.subset_insert _ _))
  have still := reserved.rely (rely.trans ((further.trans since).mono more))
  have reservedNow : Reserved env params (insert (.user params.recipientId)
      (insert (.vipOverlay params.publicId) held)) x :=
    { still with rowLocked := sub still.rowLocked, idLocked := sub still.idLocked }
  refine showing_keeps (reservedNow.keeps final.inv request) ?_ (.inr (.inl rfl))
  intro user member shows
  -- nobody has come to show the id since the index was locked
  obtain ⟨before, old, sameId, showed⟩ : ∃ v ∈ u.users, v.id = user.id ∧ _ :=
    since.same (.vipOverlay params.publicId) (.inl rfl) user member shows
  rw [Bool.not_eq_true', List.any_eq_false] at unshown
  have notOther := unshown before old
  rw [decide_eq_true_eq] at notOther
  by_contra different
  exact notOther ⟨fun same => different (sameId.symm.trans same), showed⟩

theorem createAssignment_relies {ok : Unit → Set Lock → (RareIdDb → RareIdDb) → RareIdDb → Prop}
    (available : ∃ row, s.vipPublicId params.publicId = some row ∧ row.isAvailable = true)
    (rowLocked : .vipPublicId params.publicId ∈ held)
    (reserved : ∀ t held', Reserved env params held' t → ok () held' (sale g env params) t) :
    (createAssignment (assignmentOf env params)).Relies leasing request ok (fun _ _ => True) held
      (fun db => (db.setMoney (g db.money)).modifyRow params.publicId
        (sell params.recipientId env.now (env.now + env.duration))) s := by
  refine Tx.relies_lockRow fun t rely _ => Tx.relies_select fun u further => ?_
  refine Tx.relies_check fun free v last _ => ?_
  have more := Set.subset_insert (.vipAssignment env.assignmentId) held
  obtain ⟨row, present, isAvailable⟩ := available
  have same : s.vipPublicId params.publicId = v.vipPublicId params.publicId ∧ _ :=
    (rely.trans ((further.trans last).mono more)).same _ rowLocked
  have fresh : findAssignment u env.assignmentId = none := by
    simp only [Bool.not_eq_true', Option.isSome_eq_false_iff, Option.isNone_iff_eq_none] at free
    exact free
  have stillFresh : findAssignment u env.assignmentId = none → findAssignment v env.assignmentId = none :=
    last.same _ (Set.mem_insert _ _)
  refine reserved v _ ⟨⟨row, same.1 ▸ present, isAvailable⟩, stillFresh fresh, ?_, ?_⟩
  · exact .inr (.inr rowLocked)
  · exact .inl rfl

theorem reserve_relies :
    (reserve env params).Relies leasing request (fun _ held w s => Commits request held w s)
      (fun _ _ => True) held (fun db => db.setMoney (g db.money)) s := by
  refine Tx.relies_lockRow fun t rely _ => Tx.relies_select fun u further => ?_
  refine Tx.relies_check fun isAvailable => ?_
  rw [Option.any_eq_true] at isAvailable
  obtain ⟨row, present, isAvailable⟩ := isAvailable
  refine Tx.relies_update fun v last _ => ?_
  have same : u.vipPublicId params.publicId = v.vipPublicId params.publicId ∧ _ :=
    last.same _ (Set.mem_insert _ _)
  refine Tx.Relies.bind (createAssignment_relies (g := g) ⟨row, same.1 ▸ present, isAvailable⟩
    (.inl rfl) fun x held' reserved => ?_)
  by_cases self : params.recipientId = params.buyerId
  · rw [Tx.when, if_pos self]
    exact showRareId_relies reserved
  · rw [Tx.when, if_neg self]
    exact Tx.relies_pure fun y final => (reserved.rely final).keeps final.inv request

def OnMoney (w : RareIdDb → RareIdDb) : Prop :=
  ∃ g : MoneyDb → MoneyDb, w = fun db => db.setMoney (g db.money)

theorem purchaseTx_relies (inventory : Inventory s) (priceCredits : Int) :
    (purchaseTx env params priceCredits).Relies leasing request
      (fun _ held w s => Commits request held w s) (fun _ _ => True) ∅ id s := by
  have debit : (onMoney (debitForVipPurchase params.buyerId priceCredits params.recipientId
      (.vipPurchase params.idempotencyKey))).Writes OnMoney :=
    Tx.Writes.zoom (fun f => ⟨f, rfl⟩) _
  refine Tx.Relies.bind (debit.relies (Q := OnMoney) ?_ ⟨id, rfl⟩ inventory ?_ ?_)
  · rintro f h ⟨g, rfl⟩ ⟨g', rfl⟩
    exact ⟨g ∘ g', rfl⟩
  · rintro _ held w t - ⟨g, rfl⟩ rely
    exact reserve_relies
  · exact fun _ _ _ => trivial

theorem executePurchaseRareId_relies :
    (executePurchaseRareId env params).Abides leasing request s := by
  refine Prog.relies_select fun t rely => ?_
  cases priceOf t params.publicId with
  | none => exact Prog.relies_fail trivial
  | some priceCredits =>
    refine Prog.relies_select fun u _ => Prog.relies_check fun _ => ?_
    refine Prog.relies_select fun v last => ?_
    refine Prog.relies_check fun _ => ?_
    refine withSerializationRetry_relies (fun _ => True) (fun _ _ _ _ => trivial) ?_ last.inv
      trivial 3 env.aborts fun _ _ _ _ => trivial
    intro x inventory _
    exact (purchaseTx_relies inventory priceCredits).imp
      (fun _ _ _ _ commits y rely _ => ⟨commits y rely, trivial⟩) fun _ _ _ => trivial

theorem processRareIdExpiryJob_relies (assignmentId : Nat) :
    (processRareIdExpiryJob assignmentId).Abides leasing (.expiryJob assignmentId) s := by
  refine Prog.relies_select fun t rely => ?_
  cases found : findAssignment t assignmentId with
  | none => exact Prog.relies_pure trivial
  | some assignment =>
    obtain ⟨member, idIs⟩ := (findAssignment_eq_some rely.inv.unique).mp found
    dsimp only
    unfold Prog.when
    split
    next =>
      refine Prog.relies_transaction fun u toU _ v toV _ x toX _ y toY current => ⟨?_, trivial⟩
      have since : leasing.Rely ∅ t y :=
        ((toU.trans (toV.mono (Set.empty_subset _))).trans (toX.mono (Set.empty_subset _))).trans
          (toY.mono (Set.empty_subset _))
      obtain ⟨a, memberA, sameId, -, samePublicId⟩ := since.grows assignment member
      refine expired_keeps toY.inv _ (.inl rfl) ⟨a, memberA, sameId, samePublicId⟩ ?_
      intro b active
      rw [idIs]
      exact current _ rfl a memberA (sameId.trans idIs) b (samePublicId ▸ active)
    next => exact Prog.relies_pure trivial

theorem revokeVip_relies (now : Time) (userId : UserId) (assignmentId : Nat) :
    (revokeVip now userId assignmentId).Abides leasing (.revoke now userId assignmentId) s := by
  refine Prog.relies_select fun t rely => ?_
  cases findOwned t assignmentId userId with
  | none => exact Prog.relies_fail trivial
  | some assignment =>
    refine Prog.relies_check fun _ => ?_
    refine Prog.relies_select fun u _ => Prog.relies_check fun _ => ?_
    refine Prog.relies_autocommit fun v _ _ x toX current => ⟨?_, trivial⟩
    exact revoked_keeps toX.inv _ now (current _ rfl)

theorem handler_relies (request : Request) (s : RareIdDb) :
    (handler request).Abides leasing request s := by
  cases request with
  | purchase env params => exact executePurchaseRareId_relies
  | expiryJob assignmentId => exact processRareIdExpiryJob_relies assignmentId
  | revoke now userId assignmentId => exact revokeVip_relies now userId assignmentId

end Requests

/-! ### Runs -/

theorem one_owner {db : RareIdDb} {c : RareIdConfig} (inventory : Inventory db)
    (run : Reaches handler leasing.Allows (Config.idle db) c) : Inventory c.db :=
  (run.observed (fun request s _ => handler_relies request s) (fun _ _ allowed => allowed)
    inventory).inv

def funds (userId : UserId) (key : Nat) : CoinLedgerEntry :=
  { wallet := ⟨userId, .coin⟩, direction := .credit, txType := .topup, amount := 100,
    balanceAfter := 100, idempotencyKey := .other key }

/-- The id 7 is leased to user 1; users 2 and 3 can pay for it. -/
def leased : RareIdDb where
  money := { MoneyDb.empty with coinLedger := [funds 2 0, funds 3 1] }
  vipPublicId publicId :=
    if publicId = 7 then some ⟨false, some 1, some 100, some 0, some 10, none⟩ else none
  assignments := [⟨0, 1, 7, 0, 10, none, true⟩]
  users := [⟨1, some 7, some 10, some 0⟩, ⟨2, none, none, none⟩, ⟨3, none, none, none⟩]
  follows := fun _ _ => true

theorem leased_inventory : Inventory leased where
  ids publicId := by
    by_cases same : publicId = 7
    · subst same
      exact .sold ⟨0, 1, 7, 0, 10, none, true⟩ ⟨false, some 1, some 100, some 0, some 10, none⟩
        rfl rfl rfl rfl
    · refine .forSale ?_ ?_
      · simp [activeFor, leased, Ne.symm same]
      · simp [leased, same]
  shown := by
    intro u memberU v memberV publicId showsU showsV
    have only : ∀ user ∈ leased.users, user.currentVipPublicId = some publicId → user.id = 1 := by
      intro user member shows
      simp only [leased, List.mem_cons, List.not_mem_nil, or_false] at member
      rcases member with rfl | rfl | rfl
      · rfl
      · cases shows
      · cases shows
    exact (only u memberU showsU).trans (only v memberV showsV).symm
  unique := by
    intro a memberA b memberB _
    rw [List.mem_singleton.mp memberA, List.mem_singleton.mp memberB]

def buy (buyerId recipientId : UserId) (assignmentId : Nat) : Request :=
  .purchase { now := 20, duration := 100, assignmentId, aborts := [] }
    { buyerId, publicId := 7, recipientId, idempotencyKey := assignmentId }

private def stillCurrent (c : RareIdConfig) : Event Request → Bool
  | .advance i =>
    match c.threads[i]? with
    | none => true
    | some t =>
      match t.request, t.statement with
      | .expiryJob assignmentId, some (.commit _) => c.db.assignments.all fun a =>
          a.id ≠ assignmentId || (activeFor c.db a.publicId).all fun b => b.id = assignmentId
      | .revoke _ _ assignmentId, some (.commit _) => c.db.assignments.all fun a =>
          a.id ≠ assignmentId || !a.isActive
      | _, _ => true
  | _ => true

private theorem stillCurrent_sound (c : RareIdConfig) (e : Event Request)
    (checked : stillCurrent c e = true) : leasing.Allows c e := by
  cases e with
  | advance i =>
    rintro t statement found next writes rfl
    cases requestIs : t.request with
    | purchase env params => trivial
    | expiryJob assignmentId =>
      intro a member same b active
      simp only [stillCurrent, found, requestIs, next, List.all_eq_true] at checked
      have all := checked a member
      simp only [same, ne_eq, not_true, decide_false, Bool.false_or, List.all_eq_true,
        decide_eq_true_eq] at all
      exact all b active
    | revoke now userId assignmentId =>
      intro a member same
      simp only [stillCurrent, found, requestIs, next, List.all_eq_true] at checked
      simpa [same] using checked a member
  | _ => trivial

/-- The lease of user 1 ends and user 3 buys the id. -/
theorem one_owner_released : ∃ c : RareIdConfig,
    Reaches handler leasing.Allows (Config.idle leased) c ∧
      (activeFor c.db 7).map (·.userId) = [3] ∧ Inventory c.db := by
  obtain ⟨c, run, owner⟩ : ∃ c, Reaches handler leasing.Allows (Config.idle leased) c ∧
      (activeFor c.db 7).map (·.userId) = [3] :=
    exists_reaches_checked stillCurrent_sound [serve (.expiryJob 0) 0 5, serve (buy 3 3 1) 1 23]
      (by decide +kernel)
  exact ⟨c, run, owner, one_owner leased_inventory run⟩

/-- The expiry job runs twice at once. The second run frees the id again after it was sold, and it
is sold a second time: users 4 and 3 both hold it. -/
theorem not_one_owner : ¬ ∀ (db : RareIdDb) (c : RareIdConfig), Inventory db →
    Reaches handler (fun _ _ => True) (Config.idle db) c → Inventory c.db := by
  intro claim
  obtain ⟨c, run, tested⟩ : ∃ c, Reaches handler (fun _ _ => True) (Config.idle leased) c ∧
      (activeFor c.db 7).map (·.userId) = [4, 3] :=
    exists_reaches [.start (.expiryJob 0) :: .advance 0 :: serve (.expiryJob 0) 1 5,
      serve (buy 2 4 1) 2 20, List.replicate 4 (.advance 0), serve (buy 3 3 2) 3 23]
      (by decide +kernel)
  cases (claim leased c leased_inventory run).ids 7 with
  | forSale unassigned listed => simp [unassigned] at tested
  | sold assignment row assigned present taken owner => simp [assigned] at tested

end OlNode.RareIds
