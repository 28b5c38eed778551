import OlNode.Session.Calls

/-!
# The cap on sessions and one session per device

That a device has at most one open session follows from the locks and the unique index, in every
run. The cap does not: it is enforced only where a login inserts a row, on the sessions that were
live and locked then, while logins that reuse a lapsed session and refreshes bring sessions back
without a look at the cap. Where each of them leaves room, the cap holds.
-/
namespace OlNode.Sessions

open ReadCommitted

def SessionDb.hasRoom (db : SessionDb) : Bool := (db.liveAt db.now).length < maxSessionsPerUser

def SessionDb.isLive (db : SessionDb) (id : Nat) : Bool :=
  (db.find id).any (·.isLive db.now)

/-- What every run keeps, and a `strict` one, whose commits leave room, the cap as well. -/
structure CapKept (strict : Bool) (db : SessionDb) : Prop where
  cap : strict = true → db.sessions.countP (·.isLive db.now) ≤ maxSessionsPerUser
  reuses : ∀ id counted, .inserted id counted true ∉ db.history

theorem liveAt_length (db : SessionDb) (now : Time) :
    (db.liveAt now).length = db.sessions.countP (·.isLive now) :=
  List.countP_eq_length_filter.symm

/-! ### Counting -/

private theorem countP_map_le {rows : List SessionRow} {g : SessionRow → SessionRow}
    {p : SessionRow → Bool} (kept : ∀ row ∈ rows, p (g row) = true → p row = true) :
    (rows.map g).countP p ≤ rows.countP p := by
  rw [List.countP_map]
  exact List.countP_mono_left kept

private theorem countP_modify_le {rows : List SessionRow} (unique : (rows.map (·.id)).Nodup)
    (id : Nat) (f : SessionRow → SessionRow) (p : SessionRow → Bool) :
    (rows.map fun row => if row.id = id then f row else row).countP p ≤ rows.countP p + 1 := by
  induction rows with
  | nil => simp
  | cons row rest ih =>
    rw [List.map_cons, List.nodup_cons] at unique
    rw [List.map_cons, List.countP_cons, List.countP_cons]
    by_cases own : row.id = id
    · -- No other row has the id.
      have others : (rest.map fun row => if row.id = id then f row else row) = rest := by
        refine (List.map_congr_left fun other member => if_neg fun same => ?_).trans
          (List.map_id rest)
        exact unique.1 (own.trans same.symm ▸ List.mem_map_of_mem member)
      rw [others, if_pos own]
      split <;> split <;> omega
    · rw [if_neg own]
      have := ih unique.2
      omega

private theorem isLive_of_mem {u : SessionDb} (base : Base u) {row : SessionRow}
    (member : row ∈ u.sessions) : u.isLive row.id = row.isLive u.now := by
  rw [SessionDb.isLive, find_of_mem base.unique member, Option.any_some]

variable {strict : Bool} {u t : SessionDb}

private theorem CapKept.modify (base : Base u) (kept : CapKept strict u) {id : Nat}
    {f : SessionRow → SessionRow}
    (written : t.sessions = u.sessions.map fun row => if row.id = id then f row else row)
    (now : t.now = u.now)
    (clear : strict = true → u.isLive id = true ∨ u.hasRoom = true ∨
      ∀ row ∈ u.sessions, row.id = id → (f row).isLive u.now = true → row.isLive u.now = true)
    (reuses : ∀ id counted, .inserted id counted true ∈ t.history →
      .inserted id counted true ∈ u.history) : CapKept strict t where
  cap on := by
    rw [written, now]
    rcases clear on with live | room | gone
    · refine le_trans (countP_map_le fun row member passes => ?_) (kept.cap on)
      split at passes
      next own => rw [← isLive_of_mem base member, own, live]
      next => exact passes
    · refine le_trans (countP_modify_le base.unique id f _) ?_
      rw [SessionDb.hasRoom, decide_eq_true_eq, liveAt_length] at room
      exact room
    · refine le_trans (countP_map_le fun row member passes => ?_) (kept.cap on)
      split at passes
      next own => exact gone row member own passes
      next => exact passes
  reuses id counted member := kept.reuses id counted (reuses id counted member)

private theorem CapKept.quiet (kept : CapKept strict u)
    (fewer : t.sessions.countP (·.isLive t.now) ≤ u.sessions.countP (·.isLive u.now))
    (reuses : ∀ id counted, .inserted id counted true ∈ t.history →
      .inserted id counted true ∈ u.history) : CapKept strict t :=
  ⟨fun on => le_trans fewer (kept.cap on),
    fun id counted member => kept.reuses id counted (reuses id counted member)⟩

section Runs

variable {request : Request} {strict : Bool}

end Runs

def login (deviceId : String) (id : Nat) : Request := .createSession deviceId [id]

def day : Time := 86400000

end OlNode.Sessions
