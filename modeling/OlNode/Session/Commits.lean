import OlNode.ReadCommitted.Journal
import OlNode.Session.Rows

/-!
# What a login, a refresh and a revocation commit

Each commit is one of a few kinds, with what is known of the committed state when it is made: the
row a login reuses is still open, and the device of a row it inserts has no open session. That
follows from the locks alone, for every run. Laws of the sessions are then proved commit by commit.
-/
namespace OlNode.Sessions

open ReadCommitted

structure Base (db : SessionDb) : Prop where
  unique : (db.sessions.map (·.id)).Nodup
  single : ∀ deviceId, (db.openOn deviceId).length ≤ 1
  signed : ∀ row ∈ db.sessions,
    row.refreshTokenHash.sessionId = row.id ∧ row.refreshTokenHash.iat ≤ db.now / 1000

inductive Commits (u : SessionDb) : SessionDb → Prop where
  | insert (row : SessionRow) (counted : List Nat) (now : Time) (since : now ≤ u.now)
      (fresh : u.find row.id = none) (signed : row.refreshTokenHash = signRefresh row.id now)
      (free : (u.revoke (excessOf counted) now).openOn row.deviceId = []) :
      Commits u ((u.revoke (excessOf counted) now).create row counted)
  | reuse (row : SessionRow) (now expiresAt : Time) (since : now ≤ u.now)
      (found : u.find row.id = some row) (isOpen : row.isRevoked = false)
      (later : row.refreshTokenHash.iat ≤ now / 1000) :
      Commits u ((u.modify row.id (·.reuse (signRefresh row.id now) now expiresAt)).record
        (.reused row.id))
  | exchange (id : Nat) (presented : RefreshToken) (signedAt now expiresAt : Time)
      (since : signedAt ≤ u.now) :
      Commits u ((u.modify id (·.rotate (signRefresh id signedAt) now expiresAt)).record
        (.exchanged id presented (signRefresh id signedAt)))
  | bump (id : Nat) (now : Time) :
      Commits u (u.modify id fun row =>
        { row with tokenVersion := row.tokenVersion + 1, updatedAt := now })
  | revoke (ids : List Nat) (now : Time) : Commits u (u.revoke ids now)
  | sweep (listed ids : List Nat) (now : Time) :
      Commits u ((u.revoke ids now).record (.swept listed ids))
  | cache (id version : Nat) : Commits u (u.writeSessionRedis id version)
  | uncache (id : Nat) : Commits u (u.setBlob id none)
  | lock (refreshLocks : Nat → Option Time) : Commits u { u with refreshLocks }
  | tick (elapsed : Time) : Commits u { u with now := u.now + elapsed }

/-! ### Rows after a commit -/

theorem openOn_length_le {s t : SessionDb} {ids : List Nat} {g : SessionRow → SessionRow}
    (rewrites : Rewrites ids g s) (written : t.sessions = s.sessions.map g) (deviceId : String) :
    (t.openOn deviceId).length ≤ (s.openOn deviceId).length := by
  unfold SessionDb.openOn
  rw [written, List.filter_map, List.length_map, ← List.countP_eq_length_filter,
    ← List.countP_eq_length_filter]
  refine List.countP_mono_left fun row member passes => ?_
  simp only [Function.comp, rewrites.device, Bool.and_eq_true, Bool.not_eq_true'] at passes ⊢
  refine ⟨passes.1, ?_⟩
  by_contra closed
  rw [Bool.not_eq_false] at closed
  rw [rewrites.revoked row member closed] at passes
  exact absurd passes.2 (by simp)

theorem Base.rewrite {s t : SessionDb} (base : Base s) {ids : List Nat}
    {g : SessionRow → SessionRow} (rewrites : Rewrites ids g s)
    (written : t.sessions = s.sessions.map g) (now : t.now = s.now)
    (signed : ∀ row ∈ s.sessions, (g row).refreshTokenHash.sessionId = row.id ∧
      (g row).refreshTokenHash.iat ≤ s.now / 1000) : Base t where
  unique := by
    rw [written, List.map_map]
    have same : (fun row : SessionRow => row.id) ∘ g = (·.id) := funext rewrites.id
    rw [same]
    exact base.unique
  single deviceId := le_trans (openOn_length_le rewrites written deviceId) (base.single deviceId)
  signed row member := by
    rw [written] at member
    obtain ⟨old, oldMember, rfl⟩ := List.mem_map.mp member
    rw [rewrites.id, now]
    exact signed old oldMember

theorem Base.quiet {s t : SessionDb} (base : Base s) (sessions : t.sessions = s.sessions)
    (now : s.now ≤ t.now) : Base t where
  unique := sessions ▸ base.unique
  single deviceId := by
    unfold SessionDb.openOn
    rw [sessions]
    exact base.single deviceId
  signed row member := by
    obtain ⟨own, before⟩ := base.signed row (sessions ▸ member)
    exact ⟨own, le_trans before (Nat.div_le_div_right now)⟩

variable {s : SessionDb}

theorem find_eq_none {id : Nat} :
    s.find id = none ↔ ∀ row ∈ s.sessions, row.id ≠ id := by
  simp [SessionDb.find]

theorem Base.create (base : Base s) {row : SessionRow} (counted : List Nat)
    (fresh : s.find row.id = none) (free : s.openOn row.deviceId = [])
    (signed : row.refreshTokenHash.sessionId = row.id ∧ row.refreshTokenHash.iat ≤ s.now / 1000) :
    Base (s.create row counted) where
  unique := by
    rw [SessionDb.create, List.map_append]
    refine List.nodup_append.mpr ⟨base.unique, List.nodup_singleton _, ?_⟩
    intro id member other last same
    obtain ⟨old, oldMember, rfl⟩ := List.mem_map.mp member
    rw [List.map_singleton, List.mem_singleton] at last
    exact find_eq_none.mp fresh old oldMember (same.trans last)
  single deviceId := by
    unfold SessionDb.openOn SessionDb.create
    rw [List.filter_append, List.length_append]
    by_cases own : row.deviceId = deviceId
    · have none : (s.openOn deviceId).length = 0 := by rw [← own, free]; rfl
      unfold SessionDb.openOn at none
      rw [none, Nat.zero_add]
      exact List.length_filter_le _ _
    · rw [List.filter_singleton]
      have not : (decide (row.deviceId = deviceId) && !row.isRevoked) = false := by simp [own]
      rw [not]
      exact base.single deviceId
  signed other member := by
    rcases List.mem_append.mp member with old | last
    · exact base.signed other old
    · obtain rfl := List.mem_singleton.mp last
      exact signed

theorem Base.revoke (base : Base s) (ids : List Nat) (now : Time) :
    Base (s.revoke ids now) := by
  refine base.rewrite (revoke_rewrites ids now s) rfl rfl fun row member => ?_
  split
  · exact base.signed row member
  · exact base.signed row member

theorem find_revoke_none {id : Nat} (fresh : s.find id = none) (ids : List Nat) (now : Time) :
    (s.revoke ids now).find id = none := by
  rw [find_map (revoke_rewrites ids now s).id rfl, fresh]
  rfl

theorem reuse_rewrites {u : SessionDb} (base : Base u) {row : SessionRow}
    (found : u.find row.id = some row) (isOpen : row.isRevoked = false) (token : RefreshToken)
    (now expiresAt : Time) :
    Rewrites [row.id] (fun other => if other.id = row.id
      then other.reuse token now expiresAt else other) u := by
  refine modify_rewrites (fun _ => ⟨rfl, rfl⟩) (fun other same closed => ?_) base.unique
  rw [found] at same
  obtain rfl := Option.some.inj same
  rw [isOpen] at closed
  cases closed

theorem rotate_rewrites {u : SessionDb} (base : Base u) (id : Nat) (token : RefreshToken)
    (now expiresAt : Time) :
    Rewrites [id] (fun other => if other.id = id then other.rotate token now expiresAt else other)
      u :=
  modify_rewrites (fun _ => ⟨rfl, rfl⟩) (fun _ _ closed => closed) base.unique

theorem bump_rewrites {u : SessionDb} (base : Base u) (id : Nat) (now : Time) :
    Rewrites [id] (fun other => if other.id = id
      then { other with tokenVersion := other.tokenVersion + 1, updatedAt := now } else other) u :=
  modify_rewrites (fun _ => ⟨rfl, rfl⟩) (fun _ _ closed => closed) base.unique

theorem Commits.base {u t : SessionDb} (commits : Commits u t) (base : Base u) : Base t := by
  cases commits with
  | insert row counted now since fresh signed free =>
    refine (base.revoke _ now).create counted (find_revoke_none fresh _ now) free ?_
    rw [signed]
    exact ⟨rfl, Nat.div_le_div_right since⟩
  | reuse row now expiresAt since found isOpen later =>
    refine base.rewrite (reuse_rewrites base found isOpen _ now expiresAt) rfl rfl
      fun other member => ?_
    split
    next own => exact ⟨own.symm, Nat.div_le_div_right since⟩
    next => exact base.signed other member
  | exchange id presented signedAt now expiresAt since =>
    refine base.rewrite (rotate_rewrites base id _ now expiresAt) rfl rfl fun other member => ?_
    split
    next own => exact ⟨own.symm, Nat.div_le_div_right since⟩
    next => exact base.signed other member
  | bump id now =>
    refine base.rewrite (bump_rewrites base id now) rfl rfl fun other member => ?_
    split
    · exact base.signed other member
    · exact base.signed other member
  | revoke ids now => exact base.revoke ids now
  | sweep listed ids now => exact (base.revoke ids now).quiet rfl le_rfl
  | cache id version => exact base.quiet rfl le_rfl
  | uncache id => exact base.quiet rfl le_rfl
  | lock refreshLocks => exact base.quiet rfl le_rfl
  | tick elapsed => exact base.quiet rfl (Nat.le_add_right _ _)

/-! ### Laws on top of the base -/

/-- A law of the sessions in runs whose entries are `clear`, and what stays along such runs. -/
structure Law where
  clear : SessionDb → SessionEvent → Bool
  holds : SessionDb → Prop
  trend : SessionDb → SessionDb → Prop
  trend_refl : ∀ s, trend s s
  trend_trans : ∀ s t u, trend s t → trend t u → trend s u
  keeps : ∀ u t, Base u → holds u → Commits u t →
    (∀ e, t.history = u.history ++ [e] → clear u e = true) → holds t ∧ trend u t

variable {X : Law} {request : Request}

def Law.journal (X : Law) : Journal SessionDb SessionEvent := ⟨(·.history), X.clear⟩

def Law.agreement (X : Law) : Agreement Request SessionDb Lock where
  inv db := Base db ∧ X.holds db
  grows s t := s.now ≤ t.now ∧ X.trend s t
  same := Same
  step _ _ _ := True
  allows _ := X.journal.Allowed
  grows_refl s := ⟨le_rfl, X.trend_refl s⟩
  grows_trans s t u first second :=
    ⟨le_trans first.1 second.1, X.trend_trans s t u first.2 second.2⟩
  same_refl := same_refl
  same_trans := same_trans

end OlNode.Sessions
