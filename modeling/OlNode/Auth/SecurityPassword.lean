import OlNode.ReadCommitted.Tokens
import OlNode.Schema

/-!
# Guessing the security PIN

`verifyCurrentPassword` reads the counter of wrong attempts, compares the PIN against the stored
hash and writes the counter back as an absolute value. Calls that overlap can all compare on the
same old count. As long as a PIN is compared only against the row as it is now and while no other
comparison waits to be recorded, the counter never falls behind the wrong PINs that were compared.
-/
namespace OlNode.SecurityPassword

open ReadCommitted

structure Row where
  passwordHash : String
  failedAttempts : Nat
  lastFailedAttemptAt : Option Time
  lockedUntil : Option Time
  deriving DecidableEq

/-- What happens to the PIN of the user. A comparison and the reset after a cooldown go with the
row they were decided on. -/
inductive PinEvent where
  | compared (seen : Row) (correct : Bool) (instant : Time)
  | cleared
  | expired (seen : Row) (instant : Time)
  deriving DecidableEq

/-- `pending`: a PIN was compared, and what came of it is not recorded yet. -/
structure PinDb where
  now : Time
  row : Option Row
  pending : Bool := false
  history : List PinEvent := []

inductive Lock where
  | clock | securityPassword | comparison
  deriving DecidableEq

inductive PinError where
  | notSet
  | locked (retryAfterSec : Nat)
  | incorrect

abbrev PinProg := Prog PinDb Lock PinError

/-- SECURITY_PASSWORD_FAILED_ATTEMPTS_LIMIT, COOLDOWN_MS and the comparison of bcrypt. -/
structure Environment where
  limit : Nat
  cooldown : Time
  compare : String → String → Bool

variable (env : Environment)

inductive PinLockout where
  | open
  | cooldownExpired
  | locked (retryAfterSec : Nat)

def resolvePinLockout (sec : Row) (now : Time) : PinLockout :=
  match sec.lastFailedAttemptAt with
  | none => .open
  | some last =>
    if sec.failedAttempts < env.limit then .open
    else if last + env.cooldown ≤ now then .cooldownExpired
    else .locked ((last + env.cooldown - now + 999) / 1000)

def resetAttempts (row : Row) : Row :=
  { row with failedAttempts := 0, lockedUntil := none, lastFailedAttemptAt := none }

/-! ### Statements -/

/-- `resetFailedAttempts` after a cooldown. -/
def PinDb.expire (db : PinDb) (sec : Row) : PinDb :=
  { db with row := db.row.map resetAttempts, history := db.history ++ [.expired sec db.now] }

/-- `passwordService.compare`. -/
def PinDb.compare (db : PinDb) (sec : Row) (correct : Bool) : PinDb :=
  { db with pending := true, history := db.history ++ [.compared sec correct db.now] }

/-- `update` after a wrong PIN. -/
def PinDb.recordWrong (db : PinDb) (failedAttempts : Nat) (lastFailedAttemptAt : Time) : PinDb :=
  { db with
    pending := false
    row := db.row.map fun row =>
      { row with failedAttempts, lastFailedAttemptAt := some lastFailedAttemptAt,
                 lockedUntil := if env.limit ≤ failedAttempts
                   then some (lastFailedAttemptAt + env.cooldown) else none } }

/-- `resetFailedAttempts` after the right PIN. -/
def PinDb.recordRight (db : PinDb) : PinDb :=
  { db with pending := false, row := db.row.map resetAttempts, history := db.history ++ [.cleared] }

/-- `upsert` of `setPin`, `adminSetPin` and `resetPassword`. The last wrong attempt stays. -/
def PinDb.upsert (db : PinDb) (passwordHash : String) : PinDb :=
  { db with
    row := some (match db.row with
      | some row => { row with passwordHash, failedAttempts := 0, lockedUntil := none }
      | none => { passwordHash, failedAttempts := 0, lastFailedAttemptAt := none,
                  lockedUntil := none })
    history := db.history ++ [.cleared] }

/-- `update` of `changePin`. -/
def PinDb.change (db : PinDb) (passwordHash : String) : PinDb :=
  { db with
    row := db.row.map fun row => { row with passwordHash, failedAttempts := 0, lockedUntil := none }
    history := db.history ++ [.cleared] }

/-! ### Operations -/

def reject (sec : Row) : PinProg Unit := do
  let lastFailedAttemptAt ← Prog.select (·.now)
  Prog.autocommit .securityPassword
    (·.recordWrong env (sec.failedAttempts + 1) lastFailedAttemptAt)
  Prog.fail .incorrect

def compareWith (sec : Row) (currentPassword : String) : PinProg Unit := do
  Prog.autocommit .comparison (·.compare sec (env.compare currentPassword sec.passwordHash))
  if env.compare currentPassword sec.passwordHash
  then Prog.autocommit .securityPassword (·.recordRight)
  else reject env sec

def unlock (sec : Row) (currentPassword : String) : PinLockout → PinProg Unit
  | .open => compareWith env sec currentPassword
  | .cooldownExpired => do
    Prog.autocommit .securityPassword (·.expire sec)
    compareWith env (resetAttempts sec) currentPassword
  | .locked retryAfterSec => Prog.fail (.locked retryAfterSec)

def judge (currentPassword : String) : Option Row → PinProg Unit
  | none => Prog.fail .notSet
  | some sec => do
    let now ← Prog.select (·.now)
    unlock env sec currentPassword (resolvePinLockout env sec now)

def verifyCurrentPassword (currentPassword : String) : PinProg Unit := do
  let sec ← Prog.select (·.row)
  judge env currentPassword sec

inductive Request where
  | verifyCurrentPassword (currentPassword : String)
  | changePin (currentPin newHash : String)
  | setPin (newHash : String)
  | tick (elapsed : Time)

def handler : Request → PinProg Unit
  | .verifyCurrentPassword currentPassword => verifyCurrentPassword env currentPassword
  | .changePin currentPin newHash => do
    verifyCurrentPassword env currentPin
    Prog.autocommit .securityPassword (·.change newHash)
  | .setPin newHash => Prog.autocommit .securityPassword (·.upsert newHash)
  | .tick elapsed => Prog.autocommit .clock fun db => { db with now := db.now + elapsed }

/-! ### The law -/

/-- The wrong PINs since the last reset, and the instant of the last one. The end of a cooldown is a
reset if it has lasted in full since the last wrong PIN. -/
structure Tally where
  wrong : Nat := 0
  last : Time := 0

def Tally.add (tally : Tally) : PinEvent → Tally
  | .compared _ true _ => tally
  | .compared _ false instant => { wrong := tally.wrong + 1, last := instant }
  | .cleared => { tally with wrong := 0 }
  | .expired _ instant =>
    if tally.last + env.cooldown ≤ instant then { tally with wrong := 0 } else tally

def tallyOf (history : List PinEvent) : Tally := history.foldl (Tally.add env) {}

def PinEvent.isComparison : PinEvent → Bool
  | .compared .. => true
  | _ => false

/-- No PIN, right or wrong, is compared once as many wrong ones as the limit were compared since the
last reset. -/
def GuessesBounded (history : List PinEvent) : Prop :=
  ∀ before e after, history = before ++ e :: after → e.isComparison = true →
    (tallyOf env before).wrong < env.limit

/-! ### What a call holds -/

/-- `pending` and `pendingAt` are held between a wrong comparison and its record, with the count the
call has read, `matched` between the right one and its record. -/
inductive Token where
  | nothing
  | clock (instant : Time)
  | pending (failedAttempts : Nat)
  | pendingAt (failedAttempts : Nat) (instant : Time)
  | matched

def Token.comparing : Token → Bool
  | .nothing => false
  | .clock _ => false
  | .pending _ => true
  | .pendingAt _ _ => true
  | .matched => true

def PinDb.tally (db : PinDb) : Tally := tallyOf env db.history

def Token.Valid (db : PinDb) : Token → Prop
  | .nothing => True
  | .clock instant => instant ≤ db.now
  | .pending failedAttempts => db.pending = true ∧ db.row.isSome ∧
    (db.tally env).wrong ≤ failedAttempts + 1 ∧ (db.tally env).last ≤ db.now
  | .pendingAt failedAttempts instant => db.pending = true ∧ db.row.isSome ∧
    (db.tally env).wrong ≤ failedAttempts + 1 ∧ (db.tally env).last ≤ instant
  | .matched => db.pending = true

/-- The counter is not behind. -/
structure Counted (tally : Tally) (row : Option Row) : Prop where
  wrong : tally.wrong ≤ (row.map (·.failedAttempts)).getD 0
  last : 0 < tally.wrong → ∃ instant, row.bind (·.lastFailedAttemptAt) = some instant ∧
    tally.last ≤ instant

structure Lawful (db : PinDb) : Prop where
  bounded : GuessesBounded env db.history
  last : (db.tally env).last ≤ db.now
  counted : db.pending = false → Counted (db.tally env) db.row

/-- A PIN is compared against the row as it is now, and while no other comparison waits to be
recorded; the reset after a cooldown is made on the row it was decided on. -/
def Undisturbed (db : PinDb) : PinEvent → Prop
  | .compared seen _ _ => db.pending = false ∧ db.row = some seen
  | .expired seen _ => db.row = some seen
  | .cleared => True

def Allowed (statement : Statement PinDb Lock) (db : PinDb) : Prop :=
  match statement with
  | .commit writes => ∀ e, (writes db).history = db.history ++ [e] → Undisturbed db e
  | _ => True

def ownership : Tokens Request PinDb Lock Token where
  inv := Lawful env
  valid g db := g.Valid env db
  compat g h := g.comparing = true → h.comparing = false
  allows _ := Allowed
  free := .nothing
  free_valid _ := trivial
  free_compat _ comparing := by cases comparing
  compat_symm g h apart comparing := by
    cases own : g.comparing with
    | false => rfl
    | true => rw [apart own] at comparing; cases comparing

/-! ### The tally -/

section Tally

variable {env}

theorem tallyOf_append (history : List PinEvent) (e : PinEvent) :
    tallyOf env (history ++ [e]) = (tallyOf env history).add env e := by
  simp [tallyOf]

theorem GuessesBounded.append {history : List PinEvent} (bounded : GuessesBounded env history)
    {e : PinEvent} (may : e.isComparison = true → (tallyOf env history).wrong < env.limit) :
    GuessesBounded env (history ++ [e]) := by
  intro before other after split comparison
  rcases List.eq_nil_or_concat after with rfl | ⟨rest, last, rfl⟩
  · obtain ⟨rfl, same⟩ := List.append_inj' split rfl
    obtain rfl := List.singleton_inj.mp same
    exact may comparison
  · rw [List.concat_eq_append, ← List.cons_append, ← List.append_assoc] at split
    exact bounded before other rest (List.append_inj' split rfl).1 comparison

private theorem Tally.add_le {tally : Tally} {e : PinEvent} (harmless : ∀ seen instant,
    e ≠ .compared seen false instant) :
    (tally.add env e).wrong ≤ tally.wrong ∧ (tally.add env e).last = tally.last := by
  cases e with
  | compared seen correct instant =>
    cases correct with
    | true => exact ⟨le_rfl, rfl⟩
    | false => exact absurd rfl (harmless seen instant)
  | cleared => exact ⟨Nat.zero_le _, rfl⟩
  | expired seen instant =>
    unfold Tally.add
    dsimp only
    split
    · exact ⟨Nat.zero_le _, rfl⟩
    · exact ⟨le_rfl, rfl⟩

end Tally

/-! ### The statements of a call -/

/-- A statement that is not a comparison, as far as the calls that wait to record theirs go. -/
structure Harmless (s t : PinDb) : Prop where
  now : s.now ≤ t.now
  row : s.row.isSome → t.row.isSome
  wrong : (t.tally env).wrong ≤ (s.tally env).wrong
  last : (t.tally env).last = (s.tally env).last

section Statements

variable {env} {s t : PinDb}

private theorem Token.Valid.harmless {g : Token} (valid : g.Valid env s)
    (harmless : Harmless env s t) (pending : g.comparing = true → t.pending = s.pending) :
    g.Valid env t := by
  cases g with
  | nothing => trivial
  | clock instant => exact le_trans valid harmless.now
  | pending failedAttempts =>
    obtain ⟨waits, isSome, wrong, last⟩ := valid
    exact ⟨(pending rfl).trans waits, harmless.row isSome, le_trans harmless.wrong wrong,
      harmless.last ▸ le_trans last harmless.now⟩
  | pendingAt failedAttempts instant =>
    obtain ⟨waits, isSome, wrong, last⟩ := valid
    exact ⟨(pending rfl).trans waits, harmless.row isSome, le_trans harmless.wrong wrong,
      harmless.last ▸ last⟩
  | matched => exact (pending rfl).trans valid

private theorem Lawful.event {e : PinEvent} (lawful : Lawful env s)
    (recorded : t.history = s.history ++ [e]) (now : t.now = s.now)
    (harmless : ∀ seen instant, e ≠ .compared seen false instant)
    (may : e.isComparison = true → (s.tally env).wrong < env.limit)
    (counted : t.pending = false → Counted (t.tally env) t.row) : Lawful env t := by
  have tally : t.tally env = (s.tally env).add env e := by
    rw [PinDb.tally, recorded, tallyOf_append]
    rfl
  refine ⟨?_, ?_, counted⟩
  · rw [recorded]
    exact lawful.bounded.append may
  · rw [tally, (Tally.add_le harmless).2, now]
    exact lawful.last

private theorem harmless_event {e : PinEvent} (recorded : t.history = s.history ++ [e])
    (now : t.now = s.now) (row : s.row.isSome → t.row.isSome)
    (harmless : ∀ seen instant, e ≠ .compared seen false instant) :
    Harmless env s t := by
  have tally : t.tally env = (s.tally env).add env e := by
    rw [PinDb.tally, recorded, tallyOf_append]
    rfl
  exact ⟨now ▸ le_rfl, row, tally ▸ (Tally.add_le harmless).1, tally ▸ (Tally.add_le harmless).2⟩

/-- A reset sets the tally to nothing, so whatever the counter says then is enough. -/
private theorem counted_cleared (recorded : t.history = s.history ++ [.cleared])
    (row : Option Row) : Counted (t.tally env) row := by
  have tally : (t.tally env).wrong = 0 := by
    rw [PinDb.tally, recorded, tallyOf_append]
    rfl
  exact ⟨by omega, fun positive => by omega⟩

private theorem exchange_cleared {g : Token} (lawful : Lawful env s)
    (recorded : t.history = s.history ++ [.cleared]) (now : t.now = s.now)
    (row : s.row.isSome → t.row.isSome) (pending : t.pending = s.pending) :
    (ownership env).Exchange g .nothing s t := by
  have kept : Harmless env s t := harmless_event recorded now row (by simp)
  refine ⟨lawful.event recorded now (by simp) (fun comparison => by cases comparison)
    fun _ => counted_cleared recorded t.row, trivial, fun h valid _ => ⟨?_, ?_⟩⟩
  · exact valid.harmless kept fun _ => pending
  · exact (ownership env).free_compat h

private theorem exchange_tick {g : Token} {s : PinDb} (lawful : Lawful env s)
    (elapsed : Time) :
    (ownership env).Exchange g .nothing s { s with now := s.now + elapsed } := by
  have kept : Harmless env s { s with now := s.now + elapsed } :=
    ⟨Nat.le_add_right _ _, id, le_rfl, rfl⟩
  exact ⟨⟨lawful.bounded, le_trans lawful.last kept.now, lawful.counted⟩, trivial,
    fun h valid _ => ⟨valid.harmless kept fun _ => rfl, (ownership env).free_compat h⟩⟩

private theorem exchange_expire {s : PinDb} {sec : Row} {last instant : Time}
    (lawful : Lawful env s) (valid : (Token.clock instant).Valid env s)
    (current : s.row = some sec) (failed : sec.lastFailedAttemptAt = some last)
    (over' : last + env.cooldown ≤ instant) :
    (ownership env).Exchange (.clock instant) .nothing s (s.expire sec) := by
  have kept : Harmless env s (s.expire sec) :=
    harmless_event rfl rfl (by simp [PinDb.expire]) (by simp)
  refine ⟨lawful.event rfl rfl (by simp) (fun comparison => by cases comparison) fun waits => ?_,
    trivial, fun h validH _ => ⟨validH.harmless kept fun _ => rfl, (ownership env).free_compat h⟩⟩
  have counted := lawful.counted waits
  have tally : (s.expire sec).tally env = (s.tally env).add env (.expired sec s.now) :=
    tallyOf_append _ _
  have nothing : ((s.expire sec).tally env).wrong = 0 := by
    rw [tally]
    by_cases wrong : 0 < (s.tally env).wrong
    · obtain ⟨at', found, before⟩ := counted.last wrong
      rw [current, Option.bind_some, failed] at found
      obtain rfl := Option.some.inj found
      have full : (s.tally env).last + env.cooldown ≤ s.now :=
        le_trans (Nat.add_le_add_right before _) (le_trans over' valid)
      rw [Tally.add, if_pos full]
    · have le : ((s.tally env).add env (.expired sec s.now)).wrong ≤ (s.tally env).wrong :=
        (Tally.add_le (by simp)).1
      omega
  exact ⟨by omega, fun positive => by omega⟩

private theorem exchange_compare {g : Token} {s : PinDb} {sec : Row} {correct : Bool}
    (positive : 0 < env.limit) (lawful : Lawful env s) (idle : s.pending = false)
    (current : s.row = some sec)
    (unlocked : sec.failedAttempts < env.limit ∨ sec.lastFailedAttemptAt = none) :
    (ownership env).Exchange g (if correct then .matched else .pending sec.failedAttempts) s
      (s.compare sec correct) := by
  have counted := lawful.counted idle
  have within : (s.tally env).wrong ≤ sec.failedAttempts := by
    have wrong := counted.wrong
    rwa [current] at wrong
  have may : (s.tally env).wrong < env.limit := by
    rcases unlocked with fewer | never
    · exact lt_of_le_of_lt within fewer
    · by_contra reached
      obtain ⟨instant, found, -⟩ := counted.last (by omega)
      rw [current, Option.bind_some, never] at found
      cases found
  have tally : (s.compare sec correct).tally env =
      (s.tally env).add env (.compared sec correct s.now) := tallyOf_append _ _
  -- Nobody else waits to record a comparison.
  have others : ∀ h : Token, h.Valid env s → h.comparing = false := by
    intro h valid
    cases h with
    | nothing => rfl
    | clock _ => rfl
    | pending _ => exact absurd (idle.symm.trans valid.1) Bool.false_ne_true
    | pendingAt _ _ => exact absurd (idle.symm.trans valid.1) Bool.false_ne_true
    | matched => exact absurd (idle.symm.trans valid) Bool.false_ne_true
  refine ⟨⟨lawful.bounded.append fun _ => may, ?_, fun waits => by cases waits⟩, ?_,
    fun h valid _ => ⟨?_, fun _ => others h valid⟩⟩
  · rw [tally]
    cases correct with
    | true => exact lawful.last
    | false => exact le_rfl
  · cases correct with
    | true => exact (rfl : (s.compare sec true).pending = true)
    | false =>
      refine ⟨rfl, by simp [PinDb.compare, current], ?_, ?_⟩
      · rw [tally]
        exact Nat.succ_le_succ within
      · rw [tally]
        exact le_rfl
  · cases h with
    | nothing => trivial
    | clock _ => exact valid
    | pending n => exact absurd (others (.pending n) valid) (by simp [Token.comparing])
    | pendingAt n i => exact absurd (others (.pendingAt n i) valid) (by simp [Token.comparing])
    | matched => exact absurd (others .matched valid) (by simp [Token.comparing])

private theorem exchange_recordWrong {s : PinDb} {failedAttempts : Nat} {instant : Time}
    (lawful : Lawful env s) (valid : (Token.pendingAt failedAttempts instant).Valid env s) :
    (ownership env).Exchange (.pendingAt failedAttempts instant) .nothing s
      (s.recordWrong env (failedAttempts + 1) instant) := by
  obtain ⟨-, isSome, wrong, last⟩ := valid
  obtain ⟨row, found⟩ := Option.isSome_iff_exists.mp isSome
  have kept : Harmless env s (s.recordWrong env (failedAttempts + 1) instant) :=
    ⟨le_rfl, by simp [PinDb.recordWrong], le_rfl, rfl⟩
  refine ⟨⟨lawful.bounded, lawful.last, fun _ => ⟨?_, fun _ => ⟨instant, ?_, last⟩⟩⟩, trivial,
    fun h validH apart => ⟨?_, (ownership env).free_compat h⟩⟩
  · change (s.tally env).wrong ≤ _
    simpa [PinDb.recordWrong, found] using wrong
  · simp [PinDb.recordWrong, found]
  · refine validH.harmless kept fun comparing => ?_
    rw [apart rfl] at comparing
    cases comparing

private theorem exchange_recordRight {s : PinDb} (lawful : Lawful env s) :
    (ownership env).Exchange .matched .nothing s s.recordRight := by
  have kept : Harmless env s s.recordRight :=
    harmless_event rfl rfl (by simp [PinDb.recordRight]) (by simp)
  refine ⟨lawful.event rfl rfl (by simp) (fun comparison => by cases comparison)
    fun _ => counted_cleared rfl _, trivial, fun h valid apart => ⟨?_,
      (ownership env).free_compat h⟩⟩
  refine valid.harmless kept fun comparing => ?_
  rw [apart rfl] at comparing
  cases comparing

end Statements

/-! ### Runs -/

section Runs

variable {env} {request : Request}

private theorem compareWith_holds (positive : 0 < env.limit) {sec : Row}
    (unlocked : sec.failedAttempts < env.limit ∨ sec.lastFailedAttemptAt = none)
    (currentPassword : String) (g : Token) :
    (compareWith env sec currentPassword).Holds (ownership env) request (fun _ _ => True) g id := by
  refine Prog.holds_autocommit_bind fun s lawful _ allowed => ?_
  obtain ⟨idle, current⟩ := allowed _ rfl
  refine ⟨_, exchange_compare positive lawful idle current unlocked, ?_⟩
  cases env.compare currentPassword sec.passwordHash with
  | true =>
    exact Prog.holds_autocommit fun s lawful _ _ => ⟨.nothing, exchange_recordRight lawful, trivial⟩
  | false =>
    refine Prog.holds_select_bind fun s lawful valid => ?_
    refine ⟨.pendingAt sec.failedAttempts s.now, .learn lawful ?_ fun _ apart => apart, ?_⟩
    · obtain ⟨waits, isSome, wrong, last⟩ := valid
      exact ⟨waits, isSome, wrong, last⟩
    · refine Prog.holds_autocommit_bind fun s lawful valid _ => ?_
      exact ⟨.nothing, exchange_recordWrong lawful valid, Prog.holds_fail trivial⟩

private theorem unlock_holds (positive : 0 < env.limit) (sec : Row) (currentPassword : String)
    (now : Time) :
    (unlock env sec currentPassword (resolvePinLockout env sec now)).Holds (ownership env) request
      (fun _ _ => True) (.clock now) id := by
  unfold resolvePinLockout
  cases failed : sec.lastFailedAttemptAt with
  | none => exact compareWith_holds positive (.inr failed) currentPassword (.clock now)
  | some last =>
    dsimp only
    split
    next fewer => exact compareWith_holds positive (.inl fewer) currentPassword (.clock now)
    next =>
      split
      next full =>
        refine Prog.holds_autocommit_bind fun s lawful valid allowed => ?_
        have current : s.row = some sec := allowed _ rfl
        exact ⟨.nothing, exchange_expire lawful valid current failed full,
          compareWith_holds positive (.inr rfl) currentPassword .nothing⟩
      next => exact Prog.holds_fail trivial

private theorem verifyCurrentPassword_holds (positive : 0 < env.limit) (currentPassword : String) :
    (verifyCurrentPassword env currentPassword).Holds (ownership env) request
      (fun _ _ => True) .nothing id := by
  refine Prog.holds_select_bind fun s lawful valid => ⟨.nothing, .refl lawful valid, ?_⟩
  cases s.row with
  | none => exact Prog.holds_fail trivial
  | some sec =>
    refine Prog.holds_select_bind fun s lawful _ => ⟨.clock s.now, ?_, ?_⟩
    · exact .learn lawful (le_refl s.now) fun _ _ comparing => by cases comparing
    · exact unlock_holds positive sec currentPassword s.now

private theorem handler_holds (positive : 0 < env.limit) (request : Request) :
    (handler env request).Holds (ownership env) request (fun _ _ => True) .nothing id := by
  cases request with
  | verifyCurrentPassword currentPassword => exact verifyCurrentPassword_holds positive _
  | changePin currentPin newHash =>
    refine (verifyCurrentPassword_holds positive currentPin).bind (fun _ g _ => ?_)
      fun _ _ _ => trivial
    exact Prog.holds_autocommit fun s lawful _ _ =>
      ⟨.nothing, exchange_cleared lawful rfl rfl (by simp [PinDb.change]) rfl, trivial⟩
  | setPin newHash =>
    exact Prog.holds_autocommit fun s lawful _ _ =>
      ⟨.nothing, exchange_cleared lawful rfl rfl (by simp [PinDb.upsert]) rfl, trivial⟩
  | tick elapsed =>
    exact Prog.holds_autocommit fun s lawful _ _ => ⟨.nothing, exchange_tick lawful elapsed, trivial⟩

end Runs

/-- Every PIN is compared, and every cooldown ended, on the row as it is, and no two comparisons
wait to be recorded at a time. -/
def Orderly : Config Request PinDb Lock PinError → Event Request → Prop := (ownership env).Allows

theorem guesses_bounded (positive : 0 < env.limit) {db : PinDb} (fresh : db.history = [])
    {c : Config Request PinDb Lock PinError}
    (run : Reaches (handler env) (Orderly env) (Config.idle db) c) :
    GuessesBounded env c.db.history := by
  have none : db.tally env = {} := by rw [PinDb.tally, fresh]; rfl
  have base : Lawful env db := by
    refine ⟨?_, ?_, fun _ => ⟨?_, ?_⟩⟩
    · rw [fresh]
      intro before e after split
      simp at split
    · rw [none]
      exact Nat.zero_le _
    · rw [none]
      exact Nat.zero_le _
    · rw [none]
      intro wrong
      exact absurd wrong (lt_irrefl 0)
  obtain ⟨token, held⟩ := run.held (handler_holds positive) (fun _ _ orderly => orderly) base
  exact held.inv.bounded

/-! ### Runs of a few calls -/

/-- Hashes are the PINs themselves, and one wrong PIN locks. -/
def strictEnvironment : Environment := ⟨1, 60000, fun pin hash => pin = hash⟩

def pinDb : PinDb := { now := 0, row := some ⟨"1234", 0, none, none⟩ }

private def undisturbed (db : PinDb) : PinEvent → Bool
  | .compared seen _ _ => !db.pending && decide (db.row = some seen)
  | .expired seen _ => db.row = some seen
  | .cleared => true

private def staysOrderly (c : Config Request PinDb Lock PinError) : Event Request → Bool
  | .advance i => (c.threads[i]?).all fun t => (t.view c.db).history = c.db.history ||
      (t.view c.db).history.getLast?.all fun e => undisturbed c.db e
  | _ => true

private theorem orderly_of_staysOrderly (c : Config Request PinDb Lock PinError)
    (e : Event Request) (checked : staysOrderly c e = true) : Orderly env c e := by
  cases e with
  | start _ => trivial
  | crash _ => trivial
  | advance i =>
    intro t statement found stated
    rw [staysOrderly, found, Option.all_some, Bool.or_eq_true, decide_eq_true_eq] at checked
    cases statement with
    | commit writes =>
      obtain rfl := Thread.statement_commit stated
      intro e recorded
      rcases checked with same | quiet
      · rw [recorded] at same
        simpa using congrArg List.length same
      · rw [recorded, List.getLast?_concat, Option.all_some] at quiet
        cases e with
        | compared seen correct instant =>
          simpa [undisturbed, Undisturbed] using quiet
        | cleared => trivial
        | expired seen instant => simpa [undisturbed, Undisturbed] using quiet
    | _ => trivial

/-- A wrong PIN, a call during the cooldown and one after it. -/
theorem guesses_bounded_cooldown :
    ∃ c : Config Request PinDb Lock PinError,
      c.db.history = [.compared ⟨"1234", 0, none, none⟩ false 0,
        .expired ⟨"1234", 1, some 0, some 60000⟩ 60000,
        .compared ⟨"1234", 0, none, none⟩ true 60000, .cleared] ∧
      GuessesBounded strictEnvironment c.db.history := by
  obtain ⟨c, run, history⟩ : ∃ c, Reaches (handler strictEnvironment) (Orderly strictEnvironment)
      (Config.idle pinDb) c ∧
      c.db.history = [.compared ⟨"1234", 0, none, none⟩ false 0,
        .expired ⟨"1234", 1, some 0, some 60000⟩ 60000,
        .compared ⟨"1234", 0, none, none⟩ true 60000, .cleared] :=
    exists_reaches_checked (orderly_of_staysOrderly strictEnvironment) [
      serve (.verifyCurrentPassword "0000") 0 7,
      serve (.verifyCurrentPassword "1234") 1 2, serve (.tick 60000) 2 2,
      serve (.verifyCurrentPassword "1234") 3 8] (by decide +kernel)
  exact ⟨c, history, guesses_bounded _ (by decide) rfl run⟩

/-- The limit and the cooldown of the service as it is delivered. -/
def deliveredEnvironment : Environment := ⟨6, 600000, fun pin hash => pin = hash⟩

/-- Seven calls that all read the row before one of them records its wrong PIN all compare. -/
theorem guesses_not_bounded :
    ∃ c, Reaches (handler deliveredEnvironment) (fun _ _ => True) (Config.idle pinDb) c ∧
      ¬GuessesBounded deliveredEnvironment c.db.history := by
  obtain ⟨c, run, history⟩ : ∃ c, Reaches (handler deliveredEnvironment) (fun _ _ => True)
      (Config.idle pinDb) c ∧
      c.db.history = List.replicate 7 (.compared ⟨"1234", 0, none, none⟩ false 0) :=
    exists_reaches [(List.range 7).flatMap (serve (.verifyCurrentPassword "0000") · 2),
      (List.range 7).flatMap fun i => List.replicate 5 (.advance i)] (by decide +kernel)
  refine ⟨c, run, fun bounded => ?_⟩
  rw [history] at bounded
  exact absurd (bounded (List.replicate 6 _) _ [] rfl rfl) (by decide)

end OlNode.SecurityPassword
