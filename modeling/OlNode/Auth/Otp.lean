import Mathlib.Data.List.MinMax
import OlNode.ReadCommitted.Rely
import OlNode.Schema

/-!
# One-time passwords

`createAndStore` and `verify`. A verification looks for the newest token that is unused and not
expired, compares the code, and then marks the token as used, whatever has happened to it in
between; older tokens stay valid. A token is accepted once, in time and never after a newer one, as
long as a verification marks only a token that is still unused and in time, and leaves no older one
that is valid.
-/
namespace OlNode.Otp

open ReadCommitted

inductive OtpPurpose where
  | signup | login | resetPassword | setSecurityPassword | bindEmail | bindPhone | modifyEmail
  | modifyPhone
  deriving DecidableEq

/-- Tokens are numbered in the order in which they were issued. -/
structure OtpToken where
  id : Nat
  userId : Option UserId
  otpHash : String
  otpPurpose : OtpPurpose
  targetIdentifier : String
  isUsed : Bool := false
  attemptCount : Nat := 0
  expiresAt : Time
  verifiedAt : Option Time := none
  createdAt : Time
  deriving DecidableEq

/-- A verification that returned true: the token as it was found, and when it was marked. -/
structure Acceptance where
  token : OtpToken
  instant : Time
  deriving DecidableEq

structure OtpDb where
  now : Time
  tokens : List OtpToken
  accepted : List Acceptance := []

inductive Lock where
  | clock | token (id : Nat) | newToken
  deriving DecidableEq

abbrev OtpProg := Prog OtpDb Lock Empty

def OTP_VALIDITY_MS : Time := 5 * 60 * 1000

/-- HMAC with the secrets of the deployment, and the canonical form of an identifier. -/
structure Environment where
  hashOtp : String → String
  verifyOtpHash : String → String → Bool
  normalizeIdentifierGuess : String → String

structure CreateParams where
  targetIdentifier : String
  purpose : OtpPurpose
  userId : Option UserId

/-- `userId` is `none` where the caller leaves it out, `some none` where it passes null. -/
structure VerifyParams where
  targetIdentifier : String
  purpose : OtpPurpose
  otp : String
  userId : Option (Option UserId)

variable (env : Environment)

def OtpDb.create (db : OtpDb) (token : Nat → Time → OtpToken) : OtpDb :=
  { db with tokens := db.tokens ++ [token db.tokens.length db.now] }

/-- `otp` is STATIC_OTP_DEV or what `generateOtp` drew. -/
def createAndStore (params : CreateParams) (otp : String) : OtpProg Unit := do
  let now ← Prog.select (·.now)
  Prog.autocommit .newToken (·.create fun id createdAt =>
    { id, userId := params.userId, otpHash := env.hashOtp otp, otpPurpose := params.purpose,
      targetIdentifier := env.normalizeIdentifierGuess params.targetIdentifier,
      expiresAt := now + OTP_VALIDITY_MS, createdAt })

/-- `findFirst` with `orderBy: { createdAt: 'desc' }`. -/
def findValid (params : VerifyParams) (db : OtpDb) : Option OtpToken :=
  (db.tokens.filter fun token =>
    token.targetIdentifier = env.normalizeIdentifierGuess params.targetIdentifier &&
      token.otpPurpose = params.purpose && !token.isUsed && decide (db.now < token.expiresAt) &&
      params.userId.all (token.userId = ·)).argmax (·.createdAt)

def OtpDb.modify (db : OtpDb) (id : Nat) (f : OtpToken → OtpToken) : OtpDb :=
  { db with tokens := db.tokens.map fun token => if token.id = id then f token else token }

def incrementAttempt (id : Nat) (db : OtpDb) : OtpDb :=
  db.modify id fun token => { token with attemptCount := token.attemptCount + 1 }

/-- With the acceptance that follows. -/
def markUsed (record : OtpToken) (db : OtpDb) : OtpDb :=
  { db.modify record.id fun token => { token with isUsed := true, verifiedAt := some db.now } with
    accepted := db.accepted ++ [⟨record, db.now⟩] }

def compareWith (otp : String) : Option OtpToken → OtpProg Bool
  | none => pure false
  | some record =>
    if env.verifyOtpHash otp record.otpHash then do
      Prog.autocommit (.token record.id) (markUsed record)
      pure true
    else do
      Prog.autocommit (.token record.id) (incrementAttempt record.id)
      pure false

def verify (params : VerifyParams) : OtpProg Bool := do
  let record ← Prog.select (findValid env params)
  compareWith env params.otp record

inductive Request where
  | createAndStore (params : CreateParams) (otp : String)
  | verify (params : VerifyParams)
  | tick (elapsed : Time)

def handler : Request → OtpProg Unit
  | .createAndStore params otp => createAndStore env params otp
  | .verify params => (verify env params).forget
  | .tick elapsed => Prog.autocommit .clock fun db => { db with now := db.now + elapsed }

/-! ### The law -/

/-- Issued for the same identifier and purpose. -/
def OtpToken.Rivals (a b : OtpToken) : Prop :=
  a.targetIdentifier = b.targetIdentifier ∧ a.otpPurpose = b.otpPurpose

instance (a b : OtpToken) : Decidable (a.Rivals b) :=
  inferInstanceAs (Decidable (_ ∧ _))

/-- The token will not be accepted any more. -/
def OtpToken.Spent (token : OtpToken) (now : Time) : Prop :=
  token.isUsed = true ∨ token.expiresAt ≤ now

instance (token : OtpToken) (now : Time) : Decidable (token.Spent now) :=
  inferInstanceAs (Decidable (_ ∨ _))

/-- Among tokens of one identifier and purpose, each is accepted at most once, in time, and none
after one that was issued later. -/
structure OneTime (accepted : List Acceptance) : Prop where
  ordered : accepted.Pairwise fun a b => a.token.Rivals b.token → a.token.id < b.token.id
  inTime : ∀ a ∈ accepted, a.instant < a.token.expiresAt

instance (accepted : List Acceptance) : Decidable (OneTime accepted) :=
  decidable_of_iff
    ((accepted.Pairwise fun a b => a.token.Rivals b.token → a.token.id < b.token.id) ∧
      ∀ a ∈ accepted, a.instant < a.token.expiresAt)
    ⟨fun both => ⟨both.1, both.2⟩, fun law => ⟨law.1, law.2⟩⟩

/-- The row is the one that was found, but for its marks. -/
def OtpToken.SameAs (a b : OtpToken) : Prop :=
  a.id = b.id ∧ a.Rivals b ∧ a.expiresAt = b.expiresAt

def OtpDb.Numbered (db : OtpDb) : Prop :=
  ∀ (i : Nat) (token : OtpToken), db.tokens[i]? = some token → token.id = i

structure Lawful (db : OtpDb) : Prop where
  numbered : db.Numbered
  oneTime : OneTime db.accepted
  marked : ∀ a ∈ db.accepted, ∃ row ∈ db.tokens, row.SameAs a.token ∧ row.isUsed = true
  older : ∀ a ∈ db.accepted, ∀ row ∈ db.tokens, row.Rivals a.token → row.id < a.token.id →
    row.Spent db.now

/-- Tokens are never deleted and never become unused, and time goes on. -/
structure Grows (s t : OtpDb) : Prop where
  kept : ∀ row ∈ s.tokens, ∃ row' ∈ t.tokens, row'.SameAs row
  now : s.now ≤ t.now

/-- A verification marks a token only while it is unused and in time, and no older token of the
same identifier and purpose is valid. -/
structure Timely (record : OtpToken) (db : OtpDb) : Prop where
  unused : ∀ row ∈ db.tokens, row.id = record.id → row.isUsed = false
  inTime : db.now < record.expiresAt
  older : ∀ row ∈ db.tokens, row.Rivals record → row.id < record.id → row.Spent db.now

instance (record : OtpToken) (db : OtpDb) : Decidable (Timely record db) :=
  decidable_of_iff
    ((∀ row ∈ db.tokens, row.id = record.id → row.isUsed = false) ∧ db.now < record.expiresAt ∧
      ∀ row ∈ db.tokens, row.Rivals record → row.id < record.id → row.Spent db.now)
    ⟨fun all => ⟨all.1, all.2.1, all.2.2⟩, fun timely => ⟨timely.1, timely.2, timely.3⟩⟩

def Allowed (statement : Statement OtpDb Lock) (db : OtpDb) : Prop :=
  match statement with
  | .commit writes => ∀ a, (writes db).accepted = db.accepted ++ [a] → Timely a.token db
  | _ => True

def agreement : Agreement Request OtpDb Lock where
  inv := Lawful
  grows := Grows
  same _ _ _ := True
  step _ _ _ := True
  allows _ := Allowed
  grows_refl s := ⟨fun row member => ⟨row, member, rfl, ⟨rfl, rfl⟩, rfl⟩, le_rfl⟩
  grows_trans s t u first second := by
    refine ⟨fun row member => ?_, le_trans first.now second.now⟩
    obtain ⟨row', member', same⟩ := first.kept row member
    obtain ⟨row'', member'', same'⟩ := second.kept row' member'
    exact ⟨row'', member'', same'.1.trans same.1,
      ⟨same'.2.1.1.trans same.2.1.1, same'.2.1.2.trans same.2.1.2⟩, same'.2.2.trans same.2.2⟩
  same_refl _ _ := trivial
  same_trans _ _ _ _ _ _ := trivial

/-! ### The statements -/

private theorem OtpToken.Spent.later {token : OtpToken} {now later : Time}
    (spent : token.Spent now) (elapsed : now ≤ later) : token.Spent later := by
  rcases spent with used | expired
  · exact .inl used
  · exact .inr (le_trans expired elapsed)

structure Marks (mark : OtpToken → OtpToken) : Prop where
  same : ∀ row, (mark row).SameAs row
  used : ∀ row, row.isUsed = true → (mark row).isUsed = true

variable {mark : OtpToken → OtpToken}

private theorem Marks.spent (marks : Marks mark) {row : OtpToken} {now : Time}
    (spent : row.Spent now) : (mark row).Spent now := by
  rcases spent with used | expired
  · exact .inl (marks.used row used)
  · exact .inr ((marks.same row).2.2 ▸ expired)

variable {db : OtpDb}

private theorem Lawful.marked_by (lawful : Lawful db) (marks : Marks mark) :
    Lawful { db with tokens := db.tokens.map mark } where
  numbered i token found := by
    rw [List.getElem?_map, Option.map_eq_some_iff] at found
    obtain ⟨row, old, rfl⟩ := found
    rw [(marks.same row).1]
    exact lawful.numbered i row old
  oneTime := lawful.oneTime
  marked a member := by
    obtain ⟨row, rowMember, same, used⟩ := lawful.marked a member
    have own := marks.same row
    refine ⟨mark row, List.mem_map_of_mem rowMember, ⟨own.1.trans same.1,
      ⟨own.2.1.1.trans same.2.1.1, own.2.1.2.trans same.2.1.2⟩, own.2.2.trans same.2.2⟩,
      marks.used row used⟩
  older a member row rowMember rivals before := by
    obtain ⟨old, oldMember, rfl⟩ := List.mem_map.mp rowMember
    have own := marks.same old
    refine marks.spent (lawful.older a member old oldMember ?_ (own.1 ▸ before))
    exact ⟨own.2.1.1.symm.trans rivals.1, own.2.1.2.symm.trans rivals.2⟩

private theorem grows_marked (marks : Marks mark) (accepted : List Acceptance) :
    Grows db { db with tokens := db.tokens.map mark, accepted } :=
  ⟨fun row member => ⟨mark row, List.mem_map_of_mem member, marks.same row⟩, le_rfl⟩

private theorem marks_ite (id : Nat) (marks : Marks mark) :
    Marks fun row => if row.id = id then mark row else row where
  same row := by
    by_cases own : row.id = id
    · rw [if_pos own]
      exact marks.same row
    · rw [if_neg own]
      exact ⟨rfl, ⟨rfl, rfl⟩, rfl⟩
  used row used := by
    by_cases own : row.id = id
    · rw [if_pos own]
      exact marks.used row used
    · rw [if_neg own]
      exact used

private theorem marks_used (now : Time) :
    Marks fun row => { row with isUsed := true, verifiedAt := some now } :=
  ⟨fun _ => ⟨rfl, ⟨rfl, rfl⟩, rfl⟩, fun _ _ => rfl⟩

private theorem marks_attempt :
    Marks fun row => { row with attemptCount := row.attemptCount + 1 } :=
  ⟨fun _ => ⟨rfl, ⟨rfl, rfl⟩, rfl⟩, fun _ used => used⟩

private theorem accepted_before (lawful : Lawful db) {record row : OtpToken}
    (timely : Timely record db) (found : row ∈ db.tokens) (same : row.SameAs record)
    {a : Acceptance} (member : a ∈ db.accepted) (rivals : a.token.Rivals record) :
    a.token.id < record.id := by
  obtain ⟨marked, markedMember, sameA, used⟩ := lawful.marked a member
  rcases Nat.lt_trichotomy a.token.id record.id with before | equal | after
  · exact before
  · -- The row of an accepted token is used, that of the record is not.
    have unused := timely.unused marked markedMember (sameA.1.trans equal)
    rw [used] at unused
    cases unused
  · have rival : row.Rivals a.token :=
      ⟨same.2.1.1.trans rivals.1.symm, same.2.1.2.trans rivals.2.symm⟩
    rcases lawful.older a member row found rival (same.1 ▸ after) with used | expired
    · rw [timely.unused row found same.1] at used
      cases used
    · rw [same.2.2] at expired
      exact absurd timely.inTime (not_lt.mpr expired)

private theorem markUsed_lawful (lawful : Lawful db) {record row : OtpToken}
    (timely : Timely record db) (found : row ∈ db.tokens) (same : row.SameAs record) :
    Lawful (markUsed record db) := by
  have marks := marks_ite record.id (marks_used db.now)
  have kept := lawful.marked_by marks
  refine ⟨kept.numbered, ⟨?_, ?_⟩, ?_, ?_⟩
  · refine List.pairwise_append.mpr ⟨lawful.oneTime.ordered, List.pairwise_singleton _ _, ?_⟩
    intro a member b last rivals
    obtain rfl := List.mem_singleton.mp last
    exact accepted_before lawful timely found same member rivals
  · intro a member
    rcases List.mem_append.mp member with old | last
    · exact lawful.oneTime.inTime a old
    · obtain rfl := List.mem_singleton.mp last
      exact timely.inTime
  · intro a member
    rcases List.mem_append.mp member with old | last
    · exact kept.marked a old
    · obtain rfl := List.mem_singleton.mp last
      refine ⟨_, List.mem_map_of_mem found, ?_, ?_⟩
      · rw [if_pos same.1]
        exact same
      · rw [if_pos same.1]
  · intro a member row' rowMember rivals before
    rcases List.mem_append.mp member with old | last
    · exact kept.older a old row' rowMember rivals before
    · obtain rfl := List.mem_singleton.mp last
      obtain ⟨old, oldMember, rfl⟩ := List.mem_map.mp rowMember
      have own := marks.same old
      refine marks.spent (timely.older old oldMember ?_ (own.1 ▸ before))
      exact ⟨own.2.1.1.symm.trans rivals.1, own.2.1.2.symm.trans rivals.2⟩

private theorem create_lawful (lawful : Lawful db) {token : Nat → Time → OtpToken}
    (numbered : ∀ id now, (token id now).id = id) : Lawful (db.create token) := by
  refine ⟨fun i row found => ?_, lawful.oneTime, fun a member => ?_, fun a member row => ?_⟩
  · rcases getElem?_append_some found with ⟨rfl, rfl⟩ | old
    · exact numbered _ _
    · exact lawful.numbered i row old
  · obtain ⟨row, rowMember, marked⟩ := lawful.marked a member
    exact ⟨row, List.mem_append_left _ rowMember, marked⟩
  · intro rowMember rivals before
    rcases List.mem_append.mp rowMember with old | last
    · exact lawful.older a member row old rivals before
    · -- What is issued now is newer than whatever was accepted.
      obtain rfl := List.mem_singleton.mp last
      obtain ⟨marked, markedMember, same, -⟩ := lawful.marked a member
      obtain ⟨j, found⟩ := List.mem_iff_getElem?.mp markedMember
      have inside := (List.getElem?_eq_some_iff.mp found).1
      have number := lawful.numbered j marked found
      rw [numbered, ← same.1, number] at before
      exact absurd before (Nat.lt_asymm inside)

private theorem grows_create (token : Nat → Time → OtpToken) :
    Grows db (db.create token) :=
  ⟨fun row member => ⟨row, List.mem_append_left _ member, rfl, ⟨rfl, rfl⟩, rfl⟩, le_rfl⟩

private theorem tick_lawful (lawful : Lawful db) (elapsed : Time) :
    Lawful { db with now := db.now + elapsed } :=
  ⟨lawful.numbered, lawful.oneTime, lawful.marked, fun a member row rowMember rivals before =>
    (lawful.older a member row rowMember rivals before).later (Nat.le_add_right _ _)⟩

/-! ### Runs -/

section Runs

variable {env : Environment}

private theorem relies_lawful {request : Request} {row : Lock} {f : OtpDb → OtpDb} {s : OtpDb}
    (lawful : ∀ t, agreement.Rely ∅ s t → Allowed (.commit f) t → Lawful (f t))
    (grows : ∀ t, Grows t (f t)) :
    (Prog.autocommit row f : OtpProg Unit).Abides agreement request s :=
  Prog.relies_autocommit fun _ first _ u second allowed =>
    ⟨⟨lawful u (first.trans (second.mono (Set.empty_subset _))) allowed, grows u,
      fun _ _ => trivial, trivial⟩, trivial⟩

private theorem createAndStore_relies {request : Request} (params : CreateParams) (otp : String)
    (s : OtpDb) :
    (createAndStore env params otp).Abides agreement request s := by
  refine Prog.relies_select fun _ _ => relies_lawful (fun u later _ => ?_) fun u => ?_
  · exact create_lawful later.inv fun _ _ => rfl
  · exact grows_create _

private theorem verify_relies {request : Request} (params : VerifyParams) (s : OtpDb) :
    (verify env params).Abides agreement request s := by
  refine Prog.relies_select fun t rely => ?_
  cases found : findValid env params t with
  | none => exact Prog.relies_pure trivial
  | some record =>
    have member : record ∈ t.tokens := List.mem_of_mem_filter (List.argmax_mem found)
    unfold compareWith
    dsimp only
    by_cases match' : env.verifyOtpHash params.otp record.otpHash
    · rw [if_pos match']
      refine Prog.Relies.bind (relies_lawful (fun u later allowed => ?_) fun u => ?_)
        (fun _ _ _ => Prog.relies_pure trivial) fun _ _ _ => trivial
      · obtain ⟨row, rowMember, same⟩ := later.grows.kept record member
        exact markUsed_lawful later.inv (allowed _ rfl) rowMember same
      · exact grows_marked (marks_ite record.id (marks_used u.now)) _
    · rw [if_neg match']
      refine Prog.Relies.bind (relies_lawful (fun u later _ => ?_) fun u => ?_)
        (fun _ _ _ => Prog.relies_pure trivial) fun _ _ _ => trivial
      · exact later.inv.marked_by (marks_ite record.id marks_attempt)
      · exact grows_marked (marks_ite record.id marks_attempt) u.accepted

private theorem handler_relies (request : Request) (s : OtpDb) :
    (handler env request).Abides agreement request s := by
  cases request with
  | createAndStore params otp => exact createAndStore_relies params otp s
  | verify params => exact (verify_relies params s).forget
  | tick elapsed =>
    refine relies_lawful (fun u later _ => tick_lawful later.inv elapsed) fun u => ?_
    exact ⟨fun row member => ⟨row, member, rfl, ⟨rfl, rfl⟩, rfl⟩, Nat.le_add_right _ _⟩

end Runs

/-- Every token that is marked is unused and in time, and leaves no older one valid. -/
def Orderly : Config Request OtpDb Lock Empty → Event Request → Prop := agreement.Allows

theorem otp_oneTime (env : Environment) {db : OtpDb} (numbered : db.Numbered)
    (fresh : db.accepted = []) {c : Config Request OtpDb Lock Empty}
    (run : Reaches (handler env) Orderly (Config.idle db) c) : OneTime c.db.accepted := by
  have base : Lawful db := by
    refine ⟨numbered, ⟨?_, ?_⟩, ?_, ?_⟩
    all_goals simp [fresh]
  have observed := run.observed (fun request s _ => handler_relies request s)
    (fun _ _ allowed => allowed) base
  exact observed.inv.oneTime

/-! ### Runs of two calls -/

/-- Codes are stored as they are. -/
def plainEnvironment : Environment where
  hashOtp otp := otp
  verifyOtpHash otp hash := otp = hash
  normalizeIdentifierGuess identifier := identifier

def issue (otp : String) : Request := .createAndStore ⟨"identifier", .login, none⟩ otp

def enter (otp : String) : Request := .verify ⟨"identifier", .login, otp, none⟩

private def marksTimely (c : Config Request OtpDb Lock Empty) : Event Request → Bool
  | .advance i => (c.threads[i]?).all fun t => (t.view c.db).accepted = c.db.accepted ||
      (t.view c.db).accepted.getLast?.all fun a => decide (Timely a.token c.db)
  | _ => true

private theorem orderly_of_marksTimely (c : Config Request OtpDb Lock Empty) (e : Event Request)
    (checked : marksTimely c e = true) : Orderly c e := by
  cases e with
  | start _ => trivial
  | crash _ => trivial
  | advance i =>
    intro t statement found stated
    rw [marksTimely, found, Option.all_some, Bool.or_eq_true, decide_eq_true_eq] at checked
    cases statement with
    | commit writes =>
      obtain rfl := Thread.statement_commit stated
      intro a accepted
      rcases checked with same | timely
      · rw [accepted] at same
        simpa using congrArg List.length same
      · rw [accepted, List.getLast?_concat, Option.all_some] at timely
        exact of_decide_eq_true timely
    | _ => trivial

/-- A code is mistyped, entered, and refused when it is entered again; then another one is issued
and entered. -/
theorem otp_oneTime_entered :
    ∃ c : Config Request OtpDb Lock Empty,
      c.db.accepted.map (·.token.id) = [0, 1] ∧ OneTime c.db.accepted := by
  obtain ⟨c, run, accepted⟩ : ∃ c, Reaches (handler plainEnvironment) Orderly
      (Config.idle { now := 0, tokens := [] }) c ∧ c.db.accepted.map (·.token.id) = [0, 1] :=
    exists_reaches_checked orderly_of_marksTimely [serve (issue "12345") 0 3,
      serve (enter "54321") 1 3, serve (enter "12345") 2 3, serve (enter "12345") 3 1,
      serve (.tick 1000) 4 2, serve (issue "67890") 5 3, serve (enter "67890") 6 3]
      (by decide +kernel)
  refine ⟨c, accepted, otp_oneTime _ (fun i token found => ?_) rfl run⟩
  simp at found

/-- Two verifications that both look up the token before one of them marks it accept it twice. And
the older of two tokens is accepted after the newer one. -/
theorem otp_not_oneTime :
    (∃ c, Reaches (handler plainEnvironment) (fun _ _ => True)
      (Config.idle { now := 0, tokens := [] }) c ∧ ¬OneTime c.db.accepted) ∧
    ∃ c, Reaches (handler plainEnvironment) (fun _ _ => True)
      (Config.idle { now := 0, tokens := [] }) c ∧ c.db.accepted.map (·.token.id) = [1, 0] ∧
        ¬OneTime c.db.accepted := by
  constructor
  · exact exists_reaches [serve (issue "12345") 0 3, serve (enter "12345") 1 1,
      serve (enter "12345") 2 3, List.replicate 2 (.advance 1)] (by decide +kernel)
  · exact exists_reaches [serve (issue "12345") 0 3, serve (.tick 1000) 1 2,
      serve (issue "67890") 2 3, serve (enter "67890") 3 3, serve (enter "12345") 4 3]
      (by decide +kernel)

end OlNode.Otp
