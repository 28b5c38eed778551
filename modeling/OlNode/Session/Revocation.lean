import OlNode.Session.Calls

/-!
# Revocation is final

A revocation marks the rows and then deletes the blobs. What undoes it is a blob written after the
delete by a call that had seen the session before, a session whose blob is not deleted because it
was not among those listed, and a rotation of a row that has been revoked or rotated in between.
Where none of that happens, a closed session stays dead: its row is revoked and it has no blob.
-/
namespace OlNode.Sessions

open ReadCommitted

/-! ### The law -/

def exchangedToken : SessionEvent → Option RefreshToken
  | .exchanged _ presented _ => some presented
  | _ => none

def closedBy : SessionEvent → List Nat
  | .closed ids => ids
  | _ => []

structure Final (history : List SessionEvent) : Prop where
  passed : ∀ id, .passed id true ∉ history
  exchanged : ∀ before id presented issued after,
    history = before ++ .exchanged id presented issued :: after → id ∉ before.flatMap closedBy
  once : (history.filterMap exchangedToken).Nodup

def SessionDb.Revoked (db : SessionDb) (id : Nat) : Prop :=
  ∃ row, db.find id = some row ∧ row.isRevoked = true

def SessionDb.Dead (db : SessionDb) (id : Nat) : Prop := db.Revoked id ∧ db.blobs id = none

structure FinalKept (db : SessionDb) : Prop where
  final : Final db.history
  dead : ∀ id ∈ db.history.flatMap closedBy, db.Dead id
  spent : ∀ token ∈ db.history.filterMap exchangedToken,
    ∃ row, db.find token.sessionId = some row ∧ token.iat < row.refreshTokenHash.iat

/-- Rows stay, and so does what is revoked or dead. -/
structure Settles (s t : SessionDb) : Prop where
  rows : ∀ id, (s.find id).isSome → (t.find id).isSome
  revoked : ∀ id, s.Revoked id → t.Revoked id
  dead : ∀ id, s.Dead id → t.Dead id

private theorem Final.append {history : List SessionEvent} (final : Final history) {e : SessionEvent}
    (passed : ∀ id, e ≠ .passed id true)
    (exchanged : ∀ id presented issued, e = .exchanged id presented issued →
      id ∉ history.flatMap closedBy ∧ presented ∉ history.filterMap exchangedToken) :
    Final (history ++ [e]) where
  passed id member := by
    rcases List.mem_append.mp member with old | last
    · exact final.passed id old
    · exact passed id (List.mem_singleton.mp last).symm
  exchanged before id presented issued after split := by
    rcases List.eq_nil_or_concat after with rfl | ⟨fewer, last, rfl⟩
    · obtain ⟨same, single⟩ := List.append_inj' split rfl
      rw [← same]
      exact (exchanged id presented issued (List.singleton_inj.mp single)).1
    · rw [List.concat_eq_append, ← List.cons_append, ← List.append_assoc] at split
      exact final.exchanged before id presented issued fewer (List.append_inj' split rfl).1
  once := by
    rw [List.filterMap_append]
    cases e with
    | exchanged id presented issued =>
      refine List.nodup_append.mpr ⟨final.once, List.nodup_singleton _, ?_⟩
      intro token member other last same
      rw [List.mem_singleton.mp last] at same
      exact (exchanged id presented issued rfl).2 (same ▸ member)
    | _ =>
      change (history.filterMap exchangedToken ++ []).Nodup
      rw [List.append_nil]
      exact final.once

variable {u t : SessionDb}

private theorem FinalKept.step (kept : FinalKept u) (settles : Settles u t)
    (final : Final t.history)
    (closed : ∀ id ∈ t.history.flatMap closedBy, id ∈ u.history.flatMap closedBy ∨ t.Dead id)
    (spent : ∀ token ∈ t.history.filterMap exchangedToken,
      token ∈ u.history.filterMap exchangedToken ∨
        ∃ row, t.find token.sessionId = some row ∧ token.iat < row.refreshTokenHash.iat)
    (later : ∀ id row, u.find id = some row → ∃ row', t.find id = some row' ∧
      row.refreshTokenHash.iat ≤ row'.refreshTokenHash.iat) : FinalKept t where
  final := final
  dead id member := by
    rcases closed id member with old | now
    · exact settles.dead id (kept.dead id old)
    · exact now
  spent token member := by
    rcases spent token member with old | now
    · obtain ⟨row, found, before⟩ := kept.spent token old
      obtain ⟨row', found', after⟩ := later _ row found
      exact ⟨row', found', lt_of_lt_of_le before after⟩
    · exact now

/-- An entry that neither closes a session nor exchanges a token nor lets one pass. -/
def SessionEvent.isPlain : SessionEvent → Bool
  | .exchanged .. => false
  | .closed _ => false
  | .passed _ wasClosed => !wasClosed
  | _ => true

private theorem FinalKept.plain (kept : FinalKept u) (settles : Settles u t)
    (recorded : t.history = u.history ∨
      ∃ e : SessionEvent, e.isPlain = true ∧ t.history = u.history ++ [e])
    (later : ∀ id row, u.find id = some row → ∃ row', t.find id = some row' ∧
      row.refreshTokenHash.iat ≤ row'.refreshTokenHash.iat) : FinalKept t := by
  rcases recorded with same | ⟨e, isPlain, same⟩
  · exact kept.step settles (same ▸ kept.final) (fun id member => .inl (same ▸ member))
      (fun token member => .inl (same ▸ member)) later
  · have closes : (u.history ++ [e]).flatMap closedBy = u.history.flatMap closedBy := by
      cases e <;> simp_all [closedBy, SessionEvent.isPlain]
    have exchanges : (u.history ++ [e]).filterMap exchangedToken =
        u.history.filterMap exchangedToken := by
      cases e <;> simp_all [exchangedToken, SessionEvent.isPlain]
    refine kept.step settles ?_ (fun id member => .inl ?_) (fun token member => .inl ?_) later
    · rw [same]
      refine kept.final.append (fun id passes => ?_) fun id presented issued exchanged => ?_
      · rw [passes] at isPlain
        cases isPlain
      · rw [exchanged] at isPlain
        cases isPlain
    · rwa [same, closes] at member
    · rwa [same, exchanges] at member

/-! ### Commits -/

private theorem Settles.trans {s t u : SessionDb} (first : Settles s t) (second : Settles t u) :
    Settles s u :=
  ⟨fun id isSome => second.rows id (first.rows id isSome),
    fun id revoked => second.revoked id (first.revoked id revoked),
    fun id dead => second.dead id (first.dead id dead)⟩

/-- The token of a row is only replaced by one of the same second or a later one. -/
private def NoOlder (u t : SessionDb) : Prop :=
  ∀ id row, u.find id = some row → ∃ row', t.find id = some row' ∧
    row.refreshTokenHash.iat ≤ row'.refreshTokenHash.iat

private theorem noOlder_quiet (sessions : t.sessions = u.sessions) :
    NoOlder u t := by
  intro id row found
  refine ⟨row, ?_, le_rfl⟩
  unfold SessionDb.find
  rw [sessions]
  exact found

section Runs

variable {request : Request}

private theorem FinalKept.close {u t : SessionDb} (kept : FinalKept u) (settles : Settles u t)
    {ids : List Nat} (recorded : t.history = u.history ++ [SessionEvent.closed ids])
    (sessions : t.sessions = u.sessions) (dead : ∀ id ∈ ids, t.Dead id) : FinalKept t := by
  refine kept.step settles ?_ (fun id member => ?_) (fun token member => .inl ?_)
    (noOlder_quiet sessions)
  · rw [recorded]
    exact kept.final.append (by simp) (by simp)
  · rw [recorded, List.flatMap_append, List.mem_append] at member
    refine member.imp_right fun last => dead id ?_
    simpa [closedBy] using last
  · rw [recorded, List.filterMap_append] at member
    simpa [exchangedToken] using member

end Runs

end OlNode.Sessions
