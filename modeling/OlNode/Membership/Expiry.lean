import OlNode.Membership.Operations

/-!
# When a paid period is ended early

Both expiry jobs read the expiry, decide and then write. A purchase only ever makes a row active, so
it does not matter where it commits, except between the two statements of a job. The VIP job puts
the expiry into the `where` of its update; the guardian job does not, and is right only when the row
it marks is still due.
-/
namespace OlNode.Memberships

open ReadCommitted

/-- A period that has been paid for and is not over is in force. -/
structure InForce (db : MembershipDb) : Prop where
  guardians : ∀ id row, db.guardians id = some row → db.now < row.expiresAt → row.isExpired = false
  vip : ∀ userId v expiresAt, db.vip userId = some v → v.expiresAt = some expiresAt →
    db.now < expiresAt → v.active = true

/-- The guardian job commits while the row is due. -/
def StillDue (request : Request) (statement : Statement MembershipDb Lock) (db : MembershipDb) :
    Prop :=
  ∀ writes, statement = .commit writes →
    match request with
    | .guardianExpiry id => ∀ row, db.guardians id = some row → row.expiresAt ≤ db.now
    | _ => True

def expiring : Agreement Request MembershipDb Lock where
  inv := InForce
  grows s t := s.now ≤ t.now
  same _ _ _ := True
  step _ _ _ := True
  allows := StillDue
  grows_refl _ := Nat.le_refl _
  grows_trans _ _ _ := Nat.le_trans
  same_refl _ _ := trivial
  same_trans _ _ _ _ _ _ := trivial

/-! ### Writes that end nothing -/

/-- The write keeps what is in force, at any time. -/
def EndsNothing (f : MembershipDb → MembershipDb) : Prop :=
  ∀ db, (f db).now = db.now ∧ (InForce db → InForce (f db))

theorem EndsNothing.comp {f g : MembershipDb → MembershipDb} (last : EndsNothing f)
    (first : EndsNothing g) : EndsNothing (f ∘ g) := fun db =>
  ⟨(last (g db)).1.trans (first db).1, fun inForce => (last (g db)).2 ((first db).2 inForce)⟩

/-- The write leaves the clock, the guardians and the memberships alone. -/
theorem endsNothing_of_same {f : MembershipDb → MembershipDb} (now : ∀ db, (f db).now = db.now)
    (guardians : ∀ db, (f db).guardians = db.guardians) (vip : ∀ db, (f db).vip = db.vip) :
    EndsNothing f := by
  intro db
  refine ⟨now db, fun inForce => ⟨?_, ?_⟩⟩
  · rw [guardians, now]
    exact inForce.guardians
  · rw [vip, now]
    exact inForce.vip

theorem onMoney_endsNothing {α : Type} (x : LedgerTx α) : (onMoney x).Writes EndsNothing :=
  .zoom (fun _ => endsNothing_of_same (fun _ => rfl) (fun _ => rfl) fun _ => rfl) x

theorem setGuardian_endsNothing (id : GuardianId) {row : Guardian} (fresh : row.isExpired = false) :
    EndsNothing fun db => db.setGuardian id row := by
  intro db
  refine ⟨rfl, fun inForce => ⟨fun other found present future => ?_, inForce.vip⟩⟩
  by_cases same : other = id
  · subst same
    have now : row = found := by simpa [MembershipDb.setGuardian] using present
    exact now ▸ fresh
  · simp only [MembershipDb.setGuardian, Function.update_of_ne same] at present
    exact inForce.guardians other found present future

theorem extendVip_endsNothing (userId : UserId) (expiresAt now : Time) :
    EndsNothing fun db => db.extendVip userId expiresAt now := by
  intro db
  refine ⟨rfl, fun inForce => ⟨inForce.guardians, fun other v expiry present stored future => ?_⟩⟩
  by_cases same : other = userId
  · subst same
    simp only [MembershipDb.extendVip, Function.update_self, Option.map_eq_some_iff] at present
    obtain ⟨before, -, rfl⟩ := present
    rfl
  · simp only [MembershipDb.extendVip, Function.update_of_ne same] at present
    exact inForce.vip other v expiry present stored future

/-! ### Purchases -/

theorem guardianTx_endsNothing (env : GuardianEnvironment) (guardianUserId : UserId)
    (input : PurchaseGuardianInput) (key : LedgerKey) (guarded : Bool) (totalCoins : Int)
    (expiresAt : Time) :
    (guardianTx env guardianUserId input key guarded totalCoins expiresAt).Writes EndsNothing := by
  refine .bind (Tx.writes_when (.bind (onMoney_endsNothing _) fun dup => ?_)) fun _ => ?_
  · cases dup <;> trivial
  refine .bind (onMoney_endsNothing _) fun _ => .bind ?_ fun row => ?_
  · intro db
    exact ⟨setGuardian_endsNothing _ rfl, trivial⟩
  · refine .bind (Tx.writes_select _) fun now => .bind (Tx.writes_when ?_) fun _ => trivial
    exact .bind (onMoney_endsNothing _) fun _ => trivial

theorem stackPurchase_endsNothing (id : Nat) (userId : UserId) (tier : VipMembershipTier)
    (entry : LedgerKey) : (stackPurchase id userId tier entry).Writes EndsNothing := by
  refine .bind (Tx.writes_select _) fun u => ?_
  cases u with
  | none => trivial
  | some v =>
    refine .bind (Tx.writes_select _) fun now => ?_
    rw [Tx.writes_ensure_bind, Tx.writes_update_bind]
    refine fun _ => ⟨extendVip_endsNothing _ _ _, .bind ?_ fun _ => trivial⟩
    rw [insertPurchase, Tx.writes_lockRow_bind]
    refine .bind (Tx.writes_select _) fun existing => ?_
    rw [Tx.writes_ensure_bind]
    refine fun _ => .bind (Tx.writes_select _) fun createdAt => ?_
    rw [Tx.writes_update]
    exact endsNothing_of_same (fun _ => rfl) (fun _ => rfl) fun _ => rfl

theorem runPurchaseTransaction_endsNothing (id : Nat) (userId : UserId) (tier : VipMembershipTier)
    (key : LedgerKey) : (runPurchaseTransaction id userId tier key).Writes EndsNothing := by
  refine .bind (Tx.writes_select _) fun preRead => ?_
  cases preRead with
  | none => trivial
  | some v =>
    refine .bind (Tx.writes_select _) fun preNow => ?_
    rw [Tx.writes_ensure_bind]
    refine fun _ => .bind (onMoney_endsNothing _) fun debit => ?_
    refine .bind (Tx.writes_select _) fun existing => ?_
    cases existing with
    | some purchase => trivial
    | none => exact stackPurchase_endsNothing id userId tier debit.ledgerEntryId

theorem harmless_endsNothing : expiring.Harmless EndsNothing where
  none _ := ⟨rfl, fun inForce => inForce⟩
  comp _ _ := EndsNothing.comp
  keeps _ _ _ t endsNothing inForce :=
    ⟨(endsNothing t).2 inForce, Nat.le_of_eq (endsNothing t).1.symm, fun _ _ => trivial, trivial⟩

theorem marks_endNothing (key : LedgerKey) (marker : Option (Option GuardianPurchaseResult)) :
    EndsNothing (guardianMarkers.set key marker) :=
  endsNothing_of_same (fun _ => rfl) (fun _ => rfl) fun _ => rfl

theorem purchaseGuardian_endsNothing (env : GuardianEnvironment) (guardianUserId : UserId)
    (input : PurchaseGuardianInput) :
    (purchaseGuardian env guardianUserId input).Only EndsNothing false :=
  purchaseGuardian_only env guardianUserId input (fun _ _ _ _ _ => guardianTx_endsNothing ..)
    marks_endNothing

theorem answerPurchase_endsNothing (purchaseId : Nat) (userId : UserId) (tier : VipMembershipTier)
    (key : LedgerKey) (aborts : List Nat) :
    (answerPurchase purchaseId userId tier key aborts).Only EndsNothing false := by
  have writes := runPurchaseTransaction_endsNothing purchaseId userId tier key
  refine Prog.only_select_bind fun bought => .bind (Prog.Only.attempt ?_) fun outcome => ?_
  · refine .bind (withSerializationRetry_only writes 3 aborts).attempt fun outcome => ?_
    split
    · exact Prog.only_pure
    · exact Prog.only_transaction writes
    · exact Prog.only_fail
  · exact Prog.only_autocommit
      (endsNothing_of_same (fun _ => rfl) (fun _ => rfl) fun _ => rfl)

/-! ### The jobs and the clock -/

section Jobs

variable {request : Request} {s : MembershipDb}

/-- Whatever the outcome, what is in force stays so. -/
abbrev Leaves {α : Type} (_ : Except LedgerError α) (db : MembershipDb) : Prop := InForce db

/-- The update of the VIP job matches no row that is still in force, whenever it commits. -/
theorem deactivate_keeps (userId : UserId) {now : Time} {held : Set Lock} {t : MembershipDb}
    (inForce : InForce t) (earlier : now ≤ t.now) :
    expiring.Keeps request held t (deactivate userId now t) where
  inv := by
    refine ⟨inForce.guardians, fun other v expiresAt present stored future => ?_⟩
    by_cases same : other = userId
    · subst same
      simp only [deactivate, Function.update_self, Option.map_eq_some_iff] at present
      obtain ⟨before, found, rfl⟩ := present
      split at stored
      next due =>
        have expiry : before.expiresAt = some expiresAt := stored
        have expired : expiresAt ≤ now := by simpa [expiry] using due
        exact absurd (Nat.lt_of_lt_of_le future expired) (Nat.not_lt.mpr earlier)
      next later =>
        rw [if_neg later]
        exact inForce.vip other before expiresAt found stored future
    · simp only [deactivate, Function.update_of_ne same] at present
      exact inForce.vip other v expiresAt present stored future
  grows := Nat.le_refl _
  same _ _ := trivial
  step := trivial

theorem processVipExpiry_relies (userId : UserId) :
    (processVipExpiry userId).Relies expiring request Leaves ∅ id s := by
  refine Prog.relies_select fun t rely => ?_
  cases (t.vip userId).bind (·.expiresAt) with
  | none => exact Prog.relies_pure rely.inv
  | some expiresAt =>
    refine Prog.relies_select fun u later => ?_
    split
    · exact Prog.relies_pure later.inv
    · refine Prog.relies_select fun v latest => ?_
      refine Prog.relies_autocommit fun w toWrite _ x toCommit _ => ?_
      have passed : v.now ≤ x.now := Nat.le_trans toWrite.grows toCommit.grows
      have keeps : expiring.Keeps request {.user userId} x (deactivate userId v.now x) :=
        deactivate_keeps userId toCommit.inv passed
      exact ⟨keeps, keeps.inv⟩

/-- The update of the guardian job is right for a row that is due. -/
theorem markExpired_keeps (id : GuardianId) {t : MembershipDb}
    (inForce : InForce t) (due : ∀ row, t.guardians id = some row → row.expiresAt ≤ t.now) :
    expiring.Keeps (.guardianExpiry id) {.guardian id.guardianUserId id.targetUserId} t
      (markExpired id t) where
  inv := by
    refine ⟨fun other row present future => ?_, inForce.vip⟩
    by_cases same : other = id
    · subst same
      simp only [markExpired, Function.update_self, Option.map_eq_some_iff] at present
      obtain ⟨before, found, rfl⟩ := present
      exact absurd future (Nat.not_lt.mpr (due before found))
    · simp only [markExpired, Function.update_of_ne same] at present
      exact inForce.guardians other row present future
  grows := Nat.le_refl _
  same _ _ := trivial
  step := trivial

theorem processGuardianExpiry_relies (id : GuardianId) :
    (processGuardianExpiry id).Relies expiring (.guardianExpiry id) Leaves ∅ (fun db => db) s := by
  refine Prog.relies_select fun t rely => ?_
  cases t.guardians id with
  | none => exact Prog.relies_pure rely.inv
  | some g =>
    dsimp only
    split
    · exact Prog.relies_pure rely.inv
    · refine Prog.relies_select fun u later => ?_
      split
      · exact Prog.relies_pure later.inv
      · refine Prog.relies_autocommit fun v _ _ w toCommit allowed => ?_
        have keeps := markExpired_keeps id toCommit.inv (allowed (markExpired id) rfl)
        exact ⟨keeps, keeps.inv⟩

theorem tick_relies (milliseconds : Nat) :
    (handler (.tick milliseconds)).Relies expiring request Leaves ∅ id s := by
  refine Prog.relies_autocommit fun t _ _ u rely _ => ?_
  have inForce : InForce { u with now := u.now + milliseconds } := by
    constructor
    · intro id row present future
      exact rely.inv.guardians id row present (Nat.lt_of_le_of_lt (Nat.le_add_right _ _) future)
    · intro userId v expiresAt present stored future
      exact rely.inv.vip userId v expiresAt present stored
        (Nat.lt_of_le_of_lt (Nat.le_add_right _ _) future)
  exact ⟨⟨inForce, Nat.le_add_right _ _, fun _ _ => trivial, trivial⟩, inForce⟩

end Jobs

theorem handler_relies (request : Request) {s : MembershipDb} (inForce : InForce s) :
    (handler request).Relies expiring request Leaves ∅ id s := by
  cases request with
  | tick milliseconds => exact tick_relies milliseconds
  | guardian env guardianUserId input =>
    have only := purchaseGuardian_endsNothing env guardianUserId input
    exact harmless_endsNothing.relies (only.bind fun _ => Prog.only_pure) inForce
  | guardianExpiry id => exact processGuardianExpiry_relies id
  | forgetIdem key =>
    exact harmless_endsNothing.relies (IdemMarkers.forgetIdemKey_only (marks_endNothing key)) inForce
  | vip purchaseId userId tier clientKey aborts =>
    exact harmless_endsNothing.relies (answerPurchase_endsNothing purchaseId userId tier _ aborts)
      inForce
  | vipExpiry userId => exact processVipExpiry_relies userId

/-! ### Runs -/

abbrev MembershipConfig := Config Request MembershipDb Lock LedgerError

/-- In every run in which each guardian job commits while its row is due, every period that has
been paid for and is not over is in force. -/
theorem no_early_expiry {db : MembershipDb} {c : MembershipConfig} (inForce : InForce db)
    (run : Reaches handler expiring.Allows (Config.idle db) c) : InForce c.db :=
  (Reaches.observed
    (fun request _ inForce => (handler_relies request inForce).imp fun _ _ _ => trivial)
    (fun _ _ allowed => allowed) inForce run).inv

/-- User 1 is the guardian of user 2 until 10, and has coins. -/
def guarded : MembershipDb where
  now := 10
  money := MoneyDb.empty.addCoin
    { wallet := ⟨1, .coin⟩, direction := .credit, txType := .topup, amount := 1000000,
      balanceAfter := 1000000, idempotencyKey := .other 0 }
  guardians := Function.update (fun _ => none) ⟨1, 2⟩ (some ⟨.silver, 1, 150000, 10, false, 0⟩)
  vip _ := some ⟨none, none, false⟩
  purchases := []
  idem _ := none
  answers := []

theorem guarded_inForce : InForce guarded where
  guardians id row present future := by
    by_cases same : id = ⟨1, 2⟩
    · subst same
      simp only [guarded, Function.update_self, Option.some.injEq] at present
      rw [← present]
    · simp [guarded, Function.update_of_ne same] at present
  vip userId v expiresAt present stored _ := by
    simp only [guarded, Option.some.injEq] at present
    rw [← present] at stored
    cases stored

def renewal : Request :=
  .guardian ⟨fun now months => now + months * 1000, 0, 0, []⟩ 1 ⟨2, .silver, 1, none⟩

private def stillDue (c : MembershipConfig) : Event Request → Bool
  | .advance i =>
    match c.threads[i]? with
    | none => true
    | some t =>
      match t.request, t.statement with
      | .guardianExpiry id, some (.commit _) =>
        (c.db.guardians id).all fun row => row.expiresAt ≤ c.db.now
      | _, _ => true
  | _ => true

private theorem stillDue_sound (c : MembershipConfig) (e : Event Request)
    (checked : stillDue c e = true) : expiring.Allows c e := by
  cases e with
  | advance i =>
    rintro t statement found next writes rfl
    split
    next id requestIs =>
      intro row present
      simpa [stillDue, found, requestIs, next, present] using checked
    next => trivial
  | _ => trivial

/-- The job ends the first period, and the renewal begins a second one. -/
theorem no_early_expiry_renewed : ∃ c : MembershipConfig,
    Reaches handler expiring.Allows (Config.idle guarded) c ∧
      (c.db.guardians ⟨1, 2⟩).map (·.expiresAt) = some 1010 ∧ InForce c.db := by
  obtain ⟨c, run, second⟩ : ∃ c, Reaches handler expiring.Allows (Config.idle guarded) c ∧
      (c.db.guardians ⟨1, 2⟩).map (·.expiresAt) = some 1010 :=
    exists_reaches_checked stillDue_sound [serve (.guardianExpiry ⟨1, 2⟩) 0 4, serve renewal 1 16]
      (by decide +kernel)
  exact ⟨c, run, second, no_early_expiry guarded_inForce run⟩

/-- The job has read the row when the renewal commits, and marks the renewed row. -/
theorem not_no_early_expiry : ¬ ∀ (db : MembershipDb) (c : MembershipConfig), InForce db →
    Reaches handler (fun _ _ => True) (Config.idle db) c → InForce c.db := by
  intro claim
  obtain ⟨c, run, now, marked⟩ : ∃ c, Reaches handler (fun _ _ => True) (Config.idle guarded) c ∧
      c.db.now = 10 ∧ c.db.guardians ⟨1, 2⟩ = some ⟨.silver, 1, 150000, 1010, true, 10⟩ :=
    exists_reaches [serve (.guardianExpiry ⟨1, 2⟩) 0 2, serve renewal 1 16,
      [.advance 0, .advance 0]] (by decide +kernel)
  have active := (claim guarded c guarded_inForce run).guardians _ _ marked (by rw [now]; decide)
  cases active

end OlNode.Memberships
