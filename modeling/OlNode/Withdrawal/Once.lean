import OlNode.Keyed
import OlNode.Ledger.Coins
import OlNode.Withdrawal.Creation
import OlNode.Withdrawal.Frame

/-!
# A withdrawal is created once

The debit and the row it pays for are committed together, and the unique index on the client's key
lets only one such pair in. So whatever happens to the Redis marker, and wherever calls fail, the
rows and the debits stay paired and no key has two of them. A debit that is found under the id of
a new withdrawal is no danger either: its row exists already, and the primary key refuses another.
-/
namespace OlNode.WithdrawalCreation

open ReadCommitted Withdrawals

/-- The ledger rows of the debit of a withdrawal. -/
def debits (db : WithdrawalsDb) (id : Nat) : List Posting :=
  db.money.postings.filter fun p => p.key = .withdrawalDebit id

def WithdrawalRecord.identity (record : WithdrawalRecord) :
    Nat × UserId × Int × WithdrawalKey :=
  (record.row.id, record.row.userId, record.row.amountPoints, record.idempotencyKey)

/-- No two withdrawals have one id or one key; the withdrawal of a client's key belongs to the
client and has exactly one debit, of its amount; and there is no debit without a withdrawal. -/
structure Once (db : WithdrawalsDb) : Prop where
  ids : (db.withdrawals.map (·.row.id)).Nodup
  keys : (db.withdrawals.map (·.idempotencyKey)).Nodup
  paid : ∀ record ∈ db.withdrawals, ∀ userId clientKey,
    record.idempotencyKey = .create userId clientKey →
      record.row.userId = userId ∧ debits db record.row.id = [debitPosting record.row]
  paired : ∀ id, db.findById id = none → debits db id = []

theorem findById_eq_none {db : WithdrawalsDb} {id : Nat} :
    db.findById id = none ↔ id ∉ db.withdrawals.map (·.row.id) := by
  simp [WithdrawalsDb.findById]

theorem findByKey_eq_none {db : WithdrawalsDb} {key : WithdrawalKey} :
    db.findByKey key = none ↔ key ∉ db.withdrawals.map (·.idempotencyKey) := by
  simp [WithdrawalsDb.findByKey]

@[simp] theorem findById_setMoney (db : WithdrawalsDb) (money : MoneyDb) :
    (db.setMoney money).findById = db.findById := rfl

@[simp] theorem findByKey_setMoney (db : WithdrawalsDb) (money : MoneyDb) :
    (db.setMoney money).findByKey = db.findByKey := rfl

theorem findById_of_mem {db : WithdrawalsDb} (ids : (db.withdrawals.map (·.row.id)).Nodup)
    {record : WithdrawalRecord} (member : record ∈ db.withdrawals) :
    db.findById record.row.id = some record :=
  Keyed.find?_of_mem ids member

/-! ### The agreement of the requests -/

/-- An id or a key that is not in use stays so while its index entry is locked. -/
def Unused : Lock → WithdrawalsDb → WithdrawalsDb → Prop
  | .withdrawalRow id, s, t => s.findById id = none → t.findById id = none
  | .withdrawalKey key, s, t => s.findByKey key = none → t.findByKey key = none
  | _, _, _ => True

def creating : Agreement Request WithdrawalsDb Lock where
  inv := Once
  grows s t := ∀ id, debits s id ≠ [] → debits t id ≠ []
  same := Unused
  step _ _ _ := True
  allows _ _ _ := True
  grows_refl _ _ present := present
  grows_trans _ _ _ first second id present := second id (first id present)
  same_refl row s := by
    cases row <;> simp [Unused]
  same_trans row s t u first second := by
    cases row with
    | withdrawalRow id => exact fun absent => second (first absent)
    | withdrawalKey key => exact fun absent => second (first absent)
    | _ => trivial

/-! ### A new withdrawal -/

/-- The state after the debit and the row it pays for. -/
def WithdrawalsDb.created (db : WithdrawalsDb) (entry : PointLedgerEntry)
    (record : WithdrawalRecord) : WithdrawalsDb :=
  { db with money := db.money.addPoint entry, withdrawals := db.withdrawals ++ [record] }

section Created

variable {db : WithdrawalsDb} {entry : PointLedgerEntry} {record : WithdrawalRecord}

theorem debits_created (posted : posting entry = debitPosting record.row) (id : Nat) :
    debits (db.created entry record) id =
      debits db id ++ if record.row.id = id then [debitPosting record.row] else [] := by
  rw [debits, debits, WithdrawalsDb.created, postings_addPoint, List.filter_append, posted]
  by_cases same : record.row.id = id <;> simp [debitPosting, entryFor, same]

theorem findById_created (id : Nat) :
    (db.created entry record).findById id = none ↔ db.findById id = none ∧ record.row.id ≠ id := by
  simp [WithdrawalsDb.findById, WithdrawalsDb.created]

theorem findByKey_created (key : WithdrawalKey) :
    (db.created entry record).findByKey key = none ↔
      db.findByKey key = none ∧ record.idempotencyKey ≠ key := by
  simp [WithdrawalsDb.findByKey, WithdrawalsDb.created]

theorem Once.created (once : Once db) (posted : posting entry = debitPosting record.row)
    (newId : db.findById record.row.id = none)
    (newKey : db.findByKey record.idempotencyKey = none) {clientKey : Nat}
    (client : record.idempotencyKey = .create record.row.userId clientKey) :
    Once (db.created entry record) where
  ids := by
    have fresh := findById_eq_none.mp newId
    simp only [WithdrawalsDb.created, List.map_append, List.map_cons, List.map_nil]
    exact List.nodup_append.mpr ⟨once.ids, List.nodup_singleton _, by simpa using fresh⟩
  keys := by
    have fresh := findByKey_eq_none.mp newKey
    simp only [WithdrawalsDb.created, List.map_append, List.map_cons, List.map_nil]
    exact List.nodup_append.mpr ⟨once.keys, List.nodup_singleton _, by simpa using fresh⟩
  paid other member userId key isKey := by
    rw [debits_created posted]
    simp only [WithdrawalsDb.created, List.mem_append, List.mem_singleton] at member
    rcases member with old | rfl
    · have different : record.row.id ≠ other.row.id := by
        intro same
        exact findById_eq_none.mp newId (List.mem_map.mpr ⟨other, old, same.symm⟩)
      obtain ⟨user, debit⟩ := once.paid other old userId key isKey
      rw [if_neg different, List.append_nil]
      exact ⟨user, debit⟩
    · rw [client, WithdrawalKey.create.injEq] at isKey
      rw [if_pos rfl, once.paired _ newId, List.nil_append]
      exact ⟨isKey.1, rfl⟩
  paired id absent := by
    obtain ⟨before, different⟩ := (findById_created id).mp absent
    rw [debits_created posted, if_neg different, once.paired id before, List.append_nil]

theorem created_keeps {request : Request} {held : Set Lock} (once : Once db)
    (posted : posting entry = debitPosting record.row)
    (newId : db.findById record.row.id = none)
    (newKey : db.findByKey record.idempotencyKey = none) {clientKey : Nat}
    (client : record.idempotencyKey = .create record.row.userId clientKey)
    (idHeld : .withdrawalRow record.row.id ∈ held)
    (keyHeld : .withdrawalKey record.idempotencyKey ∈ held) :
    creating.Keeps request held db (db.created entry record) where
  inv := once.created posted newId newKey client
  grows id present := by
    rw [debits_created posted]
    exact fun empty => present (List.append_eq_nil_iff.mp empty).1
  same row free := by
    cases row with
    | withdrawalRow id =>
      refine fun absent => (findById_created id).mpr ⟨absent, ?_⟩
      rintro rfl
      exact free idHeld
    | withdrawalKey key =>
      refine fun absent => (findByKey_created key).mpr ⟨absent, ?_⟩
      rintro rfl
      exact free keyHeld
    | _ => trivial
  step := trivial

end Created

/-! ### What is done besides -/

/-- A write that leaves the debits and what identifies the withdrawals alone, when no two of them
have one id. -/
def Aside (f : WithdrawalsDb → WithdrawalsDb) : Prop :=
  ∀ db, (db.withdrawals.map (·.row.id)).Nodup →
    (f db).withdrawals.map WithdrawalRecord.identity =
        db.withdrawals.map WithdrawalRecord.identity ∧
      debits (f db) = debits db

/-- Records with the same identities have the same ids and the same keys. -/
theorem ids_of_identities {records others : List WithdrawalRecord}
    (same : records.map WithdrawalRecord.identity = others.map WithdrawalRecord.identity) :
    records.map (·.row.id) = others.map (·.row.id) := by
  have ids := congrArg (List.map Prod.fst) same
  rwa [List.map_map, List.map_map] at ids

theorem keys_of_identities {records others : List WithdrawalRecord}
    (same : records.map WithdrawalRecord.identity = others.map WithdrawalRecord.identity) :
    records.map (·.idempotencyKey) = others.map (·.idempotencyKey) := by
  have keys := congrArg (List.map fun identity => identity.2.2.2) same
  rwa [List.map_map, List.map_map] at keys

theorem Aside.comp {f g : WithdrawalsDb → WithdrawalsDb} (last : Aside f) (first : Aside g) :
    Aside (f ∘ g) := by
  intro db ids
  obtain ⟨rows, ledger⟩ := first db ids
  obtain ⟨rows', ledger'⟩ := last (g db) (by rwa [ids_of_identities rows])
  exact ⟨rows'.trans rows, ledger'.trans ledger⟩

theorem debitPosting_of_identity {record other : WithdrawalRecord}
    (same : record.identity = other.identity) :
    debitPosting record.row = debitPosting other.row := by
  simp only [WithdrawalRecord.identity, Prod.mk.injEq] at same
  obtain ⟨id, user, amount, -⟩ := same
  simp [debitPosting, entryFor, id, user, amount]

theorem harmless_aside : creating.Harmless Aside where
  none _ _ := ⟨rfl, rfl⟩
  comp _ _ := Aside.comp
  keeps _ _ f t aside once := by
    obtain ⟨rows, ledger⟩ := aside t once.ids
    have ids := ids_of_identities rows
    have keys := keys_of_identities rows
    have absentId : ∀ id, (f t).findById id = none ↔ t.findById id = none := by
      intro id
      rw [findById_eq_none, findById_eq_none, ids]
    have absentKey : ∀ key, (f t).findByKey key = none ↔ t.findByKey key = none := by
      intro key
      rw [findByKey_eq_none, findByKey_eq_none, keys]
    refine ⟨⟨ids ▸ once.ids, keys ▸ once.keys, ?_, ?_⟩, ?_, fun row _ => ?_, trivial⟩
    · intro record member userId clientKey isKey
      have listed := List.mem_map_of_mem (f := WithdrawalRecord.identity) member
      rw [rows] at listed
      obtain ⟨old, oldMember, same⟩ := List.mem_map.mp listed
      rw [debitPosting_of_identity same.symm, ledger]
      simp only [WithdrawalRecord.identity, Prod.mk.injEq] at same
      obtain ⟨id, user, -, key⟩ := same
      rw [← id, ← user]
      exact once.paid old oldMember userId clientKey (key.trans isKey)
    · intro id absent
      rw [ledger]
      exact once.paired id ((absentId id).mp absent)
    · intro id present
      rwa [ledger]
    · cases row with
      | withdrawalRow id => exact (absentId id).mpr
      | withdrawalKey key => exact (absentKey key).mpr
      | _ => trivial

/-- Nothing of a withdrawal that the debit depends on changes, nor does the ledger. -/
def KeepsIdentity (f : WithdrawalDb → WithdrawalDb) : Prop :=
  ∀ one, (f one).money = one.money ∧
    (f one).withdrawal.map (fun w => (w.id, w.userId, w.amountPoints)) =
      one.withdrawal.map fun w => (w.id, w.userId, w.amountPoints)

/-- On the table, the record with the id is the one that the operation has seen. -/
theorem aside_of_keepsIdentity {f : WithdrawalDb → WithdrawalDb} (keeps : KeepsIdentity f)
    (id : Nat) : Aside fun db => db.setPayroll id (f (db.payroll id)) := by
  intro db ids
  obtain ⟨money, row⟩ := keeps (db.payroll id)
  constructor
  · simp only [WithdrawalsDb.setPayroll, List.map_map]
    refine List.map_congr_left fun record member => ?_
    rw [Function.comp_apply]
    split
    next same =>
      -- The operation has seen this record: ids are unique.
      have seen : (db.payroll id).withdrawal = some record.row := by
        rw [WithdrawalsDb.payroll, ← same, findById_of_mem ids member, Option.map_some]
      rw [seen, Option.map_some, Option.map_eq_some_iff] at row
      obtain ⟨w, after, identity⟩ := row
      simp only [Prod.mk.injEq] at identity
      simp [WithdrawalRecord.identity, after, identity]
    next => rfl
  · funext other
    change (f (db.payroll id)).money.postings.filter _ = _
    rw [money]
    rfl

theorem assignToAgency_only (env : Environment) (opts : AssignOptions) :
    (assignToAgency env opts).Only KeepsIdentity false := by
  have status : ∀ u : WithdrawalUpdate, KeepsIdentity fun db => db.modify (·.apply u) := by
    intro u one
    refine ⟨rfl, ?_⟩
    simp only [WithdrawalDb.modify_withdrawal, Option.map_map]
    rfl
  have enqueued : ∀ job : PayrollJob, KeepsIdentity fun db =>
      if job ∈ db.jobs then db else { db with jobs := job :: db.jobs } := by
    intro job one
    dsimp only
    split <;> exact ⟨rfl, rfl⟩
  have frame : AssignFrame KeepsIdentity :=
    ⟨fun u _ => status u, fun _ _ _ => ⟨rfl, rfl⟩, fun id => enqueued (.sla id)⟩
  refine .bind (Prog.only_transaction (assignToAgencyTx_writes frame env opts)) fun outcome => ?_
  cases outcome with
  | assigned assignmentId => exact Prog.only_autocommit (enqueued (.sla assignmentId))
  | alreadyAssigned =>
    rw [afterAssign]
    split
    · exact Prog.only_fail
    · exact Prog.only_pure
  | nothing => exact Prog.only_pure
  | _ => exact Prog.only_fail

/-! ### The transaction -/

section Transaction

variable {request : Request} {held : Set Lock} {s : WithdrawalsDb}

theorem onMoney_bind {α β : Type} (x : LedgerTx α) (k : α → LedgerTx β) :
    onMoney (x >>= k) = onMoney x >>= fun a => onMoney (k a) := Tx.zoom_bind _ _ x k

theorem onMoney_effects {α : Type} {post : α → (WithdrawalsDb → WithdrawalsDb) → Prop}
    {x : LedgerTx α}
    (first : x.Effects (fun a g => post a fun db => db.setMoney (g db.money)) id) :
    (onMoney x).Effects post id := by
  have getSet : ∀ money (db : WithdrawalsDb), (db.setMoney money).money = money := fun _ _ => rfl
  exact Tx.Effects.zoom (v := id) getSet (fun _ _ _ => rfl) first

theorem assertPointsDebitAllowedInTx_writes {P : (MoneyDb → MoneyDb) → Prop} (userId : UserId) :
    (assertPointsDebitAllowedInTx userId).Writes P := by
  refine .bind (fun db => ?_) fun flags => ?_
  · cases found : db.freezeFlags userId <;> simp [Tx.bind, found]
  · unfold Tx.ensure
    split <;> trivial

/-- The debit under the id of a withdrawal: either the id has one already, or it is written. -/
theorem debit_relies {ok : LedgerReceipt → Set Lock → (WithdrawalsDb → WithdrawalsDb) →
      WithdrawalsDb → Prop} {err : LedgerError → WithdrawalsDb → Prop} {row : Withdrawal}
    (once : Once s)
    (found : ∀ t receipt, creating.Rely held s t → debits t row.id ≠ [] → ok receipt held id t)
    (posted : ∀ t held' receipt entry, creating.Rely held s t → held ⊆ held' →
      posting entry = debitPosting row →
      ok receipt held' (fun db => db.setMoney (db.money.addPoint entry)) t)
    (throws : ∀ e t, creating.Rely held s t → err e t) :
    (onMoney (PointWallet.debit row.userId row.amountPoints .withdrawal
      { idempotencyKey := .withdrawalDebit row.id, refId := some (.withdrawal row.id) })).Relies
      creating request ok err held id s := by
  unfold PointWallet.debit assertPositiveAmount
  rw [onMoney_bind, onMoney, Tx.zoom_ensure]
  refine Tx.relies_ensure_bind (fun _ => throws _ s (.refl once)) fun _ => ?_
  intro t rely _
  change Tx.Relies creating request ok err
    (onMoney (match findByKey t.money.pointLedger (.withdrawalDebit row.id) with
      | some _ => _
      | none => _)) held id t
  cases existing : findByKey t.money.pointLedger (.withdrawalDebit row.id) with
  | some entry =>
    refine found t _ rely fun none => ?_
    obtain ⟨p, member, isKey⟩ := (findByKey_pointLedger_isSome t.money _).mp (by rw [existing]; rfl)
    have listed : p ∈ debits t row.id := List.mem_filter.mpr ⟨member, decide_eq_true isKey⟩
    rw [none] at listed
    cases listed
  | none =>
    let Posts (_ : LedgerReceipt) (w : WithdrawalsDb → WithdrawalsDb) : Prop :=
      ∃ entry, posting entry = debitPosting row ∧ w = fun db => db.setMoney (db.money.addPoint entry)
    have writes : ∀ x : WithdrawalsTx LedgerReceipt, x.Effects Posts id →
        x.Relies creating request ok err held id t := by
      intro x effects
      refine effects.relies rely.inv ?_ fun e u later => throws e u (rely.trans later)
      rintro receipt held' w u more ⟨entry, debit, rfl⟩ later
      exact posted u held' receipt entry (rely.trans later) more debit
    refine writes _ (onMoney_effects ?_)
    refine (Tx.effects_select_bind _ _).mpr fun db => (Tx.effects_lockRow_bind _ _).mpr ?_
    have unwritten : (Tx.when (true = true) (assertPointsDebitAllowedInTx row.userId)).Effects
        (fun _ w => w = id) id :=
      (Tx.writes_when (assertPointsDebitAllowedInTx_writes _)).effects_after
        (P := fun _ => False) (fun _ _ impossible => impossible.elim) rfl
    refine Tx.Effects.bind (unwritten.imp ?_)
    rintro _ _ rfl balance
    refine Tx.effects_ensure_bind fun _ => Tx.Effects.bind ?_
    exact PointLedgerRepository.insert_effects ⟨_, rfl, rfl⟩

theorem debitAndCreate_relies {params : CreateParams} {row : Withdrawal}
    (user : row.userId = params.userId) (amount : row.amountPoints = params.grossPoints) :
    (debitAndCreate params row).Relies creating request (fun _ => creating.Commits request Once)
      (fun _ t => Once t) held id s := by
  refine Tx.relies_select fun t rely => ?_
  refine Tx.Relies.bind fun u further _ => ?_
  refine Tx.relies_ensure_bind (fun _ => further.inv) fun _ => ?_
  rw [← user, ← amount]
  refine Tx.Relies.bind (debit_relies further.inv ?_ ?_ fun _ _ later => later.inv)
  · -- The id has a debit, so it has a row, and the new one is refused.
    intro x receipt later present
    refine Tx.relies_lockRow fun y toRow _ => Tx.relies_lockRow fun z toKey _ => ?_
    refine Tx.relies_select fun db reading => ?_
    refine Tx.relies_ensure_bind (fun _ => reading.inv) fun free => ?_
    have still : debits db row.id ≠ [] :=
      reading.grows _ (toKey.grows _ (toRow.grows _ present))
    refine absurd (reading.inv.paired row.id ?_) still
    simp only [id, Bool.not_eq_true', Bool.or_eq_false_iff] at free
    simpa using free.1
  · intro x held' receipt entry later more posted
    refine Tx.relies_lockRow fun y toRow _ => Tx.relies_lockRow fun z toKey _ => ?_
    refine Tx.relies_select fun db reading => ?_
    refine Tx.relies_ensure_bind (fun _ => reading.inv) fun free => ?_
    simp only [Bool.not_eq_true', Bool.or_eq_false_iff] at free
    have newId : db.findById row.id = none := by simpa using free.1
    have newKey : db.findByKey params.idem = none := by simpa using free.2
    have idHeld : .withdrawalRow row.id ∈ insert (.withdrawalKey params.idem)
        (insert (.withdrawalRow row.id) held') := Set.mem_insert_of_mem _ (Set.mem_insert _ _)
    have keyHeld : .withdrawalKey params.idem ∈ insert (.withdrawalKey params.idem)
        (insert (.withdrawalRow row.id) held') := Set.mem_insert _ _
    intro v updating _ t committing _
    have still := updating.trans (committing.mono (Set.subset_insert _ _))
    have client : params.idem = .create row.userId params.idempotencyKey := by
      rw [user]
      rfl
    have keeps : creating.Keeps request _ t (t.created entry ⟨row, params.idem⟩) :=
      created_keeps committing.inv posted (still.same _ idHeld newId) (still.same _ keyHeld newKey)
        client (Set.mem_insert_of_mem (.withdrawalRow row.id) idHeld)
        (Set.mem_insert_of_mem (.withdrawalRow row.id) keyHeld)
    exact ⟨keeps, keeps.inv⟩

theorem createTx_relies {params : CreateParams} {row : Withdrawal}
    (user : row.userId = params.userId) (amount : row.amountPoints = params.grossPoints) :
    (createTx params row).Relies creating request (fun _ => creating.Commits request Once)
      (fun _ t => Once t) ∅ id s := by
  refine Tx.relies_lockRow fun t rely _ => ?_
  refine Tx.relies_select fun u reading => ?_
  dsimp only [id]
  cases u.findByKey params.idem with
  | some record =>
    exact fun x committing _ =>
      ⟨harmless_aside.keeps request _ id x harmless_aside.none committing.inv, committing.inv⟩
  | none =>
    refine Tx.Relies.bind (debitAndCreate_relies user amount)

end Transaction

/-! ### Calls -/

theorem marks_aside (key : UserId × Nat) (marker : Option (Option CreateWithdrawalResponse)) :
    Aside (creationMarkers.set key marker) := fun _ _ => ⟨rfl, rfl⟩

theorem createWithdrawalResponse_only (params : CreateParams) (withdrawalId : Nat) :
    (createWithdrawalResponse params withdrawalId).Only Aside false := by
  refine Prog.only_select_bind fun refreshed => ?_
  cases refreshed with
  | none => exact Prog.only_fail
  | some record => exact .bind (Prog.only_autocommit (marks_aside _ _)) fun _ => Prog.only_pure

theorem finish_only (env : CreateEnvironment) (params : CreateParams)
    (methodType : WithdrawalMethodType) (replayOf : Option Nat) :
    (finish env params methodType replayOf).Only Aside false := by
  cases replayOf with
  | some withdrawalId => exact createWithdrawalResponse_only params withdrawalId
  | none =>
    have assigned : (onWithdrawal env.withdrawalId (assignToAgency env.payroll {})).Only Aside
        false := (assignToAgency_only env.payroll {}).embed
      fun _ keeps => aside_of_keepsIdentity keeps env.withdrawalId
    refine .bind ?_ fun _ => createWithdrawalResponse_only params env.withdrawalId
    unfold Prog.when
    split
    · exact assigned
    · exact Prog.only_pure

section Calls

variable {request : Request} {s : WithdrawalsDb}

theorem orWinner_relies (params : CreateParams) (outcome : Except LedgerError (Option Nat))
    (once : Once s) :
    (orWinner params outcome).Relies creating request (fun _ t => Once t) ∅ id s := by
  refine harmless_aside.relies ?_ once
  cases outcome with
  | ok replayOf => exact Prog.only_pure
  | error error =>
    rw [orWinner]
    split
    · refine Prog.only_select_bind fun winner => ?_
      cases winner with
      | none => exact Prog.only_fail
      | some record => exact Prog.only_pure
    · exact Prog.only_fail

theorem executeCreateWithdrawal_relies (env : CreateEnvironment) (params : CreateParams) :
    (executeCreateWithdrawal env params).Relies creating request (fun _ t => Once t) ∅ id s := by
  refine Prog.relies_select fun t rely => ?_
  dsimp only [id]
  cases t.findByKey params.idem with
  | some record =>
    exact harmless_aside.relies (createWithdrawalResponse_only params record.row.id) rely.inv
  | none =>
    refine Prog.relies_ensure_bind (fun _ => rely.inv) fun _ => ?_
    have allowed : (assertPointsDebitAllowed params.userId).Only Aside false := by
      refine Prog.only_select_bind fun row => ?_
      cases row with
      | none => exact Prog.only_fail
      | some flags => exact Prog.only_ensure
    refine (harmless_aside.relies allowed rely.inv).bind (fun _ u once => ?_) fun _ _ once => once
    cases env.method with
    | none => exact Prog.relies_fail once
    | some methodType =>
      refine Prog.relies_ensure_bind (fun _ => once) fun _ => ?_
      cases calculateWithdrawalAmounts params.grossPoints env.fees methodType with
      | error error => exact Prog.relies_fail once
      | ok amounts =>
        let row := newWithdrawal env.withdrawalId (env.input params methodType) amounts
        have created : (withSerializationRetry (createTx params row) 3 env.aborts).Relies creating
            request (fun _ t => Once t) ∅ id u := by
          refine withSerializationRetry_relies Once (fun _ _ later _ => later.inv) ?_ once once 3
            env.aborts fun _ _ once _ => once
          exact fun v _ _ => createTx_relies rfl rfl
        refine created.attempt_bind fun outcome v once => ?_
        refine (orWinner_relies params outcome once).bind (fun replayOf x once => ?_)
          fun _ _ once => once
        exact harmless_aside.relies (finish_only env params methodType replayOf) once

theorem createWithdrawal_relies (env : CreateEnvironment) (params : CreateParams) :
    (createWithdrawal env params).Relies creating request (fun _ t => Once t) ∅ id s := by
  refine Prog.relies_select fun t rely => ?_
  cases (creationMarkers.get t (params.userId, params.idempotencyKey)).join with
  | some response => exact Prog.relies_pure rely.inv
  | none =>
    have acquires := IdemMarkers.acquireIdemKey_only
      (marks_aside (params.userId, params.idempotencyKey))
    refine (harmless_aside.relies acquires rely.inv).bind (fun acquired u once => ?_)
      fun _ _ once => once
    refine Prog.relies_ensure_bind (fun _ => once) fun _ => ?_
    have executes : (env.failing (executeCreateWithdrawal env params)).Relies creating request
        (fun _ t => Once t) ∅ id u := by
      unfold CreateEnvironment.failing
      split
      · exact executeCreateWithdrawal_relies env params
      · exact (executeCreateWithdrawal_relies env params).failAfter once (fun _ once => once)
          (fun _ => ⟨rfl, rfl⟩) _
    refine executes.attempt_bind fun outcome v once => ?_
    refine harmless_aside.relies ?_ once
    cases outcome with
    | ok response => exact Prog.only_pure
    | error error =>
      refine .bind ?_ fun _ => Prog.only_fail
      unfold Prog.when
      split
      · exact IdemMarkers.forgetIdemKey_only (marks_aside _)
      · exact Prog.only_pure

end Calls

/-- A credit under a key of its own is no debit of a withdrawal. -/
theorem earn_only (userId : UserId) (amount : Int) (ref : Nat) :
    (handler (.earn userId amount ref)).Only Aside false := by
  have adds : (PointWallet.creditRow userId amount .adjustment { idempotencyKey := .other ref }).Writes
      fun f => ∃ entry, entry.idempotencyKey = .other ref ∧ f = fun db => db.addPoint entry := by
    refine (Tx.writes_ensure_bind ..).mpr fun _ => (Tx.writes_select_bind ..).mpr fun db => ?_
    split
    · trivial
    · refine (Tx.writes_lockRow_bind ..).mpr ((Tx.writes_select_bind ..).mpr fun db => ?_)
      refine .bind ?_ fun _ => trivial
      refine (Tx.writes_ensure_bind ..).mpr fun _ => (Tx.writes_lockRow_bind ..).mpr ?_
      refine (Tx.writes_select_bind ..).mpr fun db => (Tx.writes_ensure_bind ..).mpr fun _ => ?_
      exact ⟨⟨_, rfl, rfl⟩, trivial⟩
  have aside : (onMoney (PointWallet.creditRow userId amount .adjustment
      { idempotencyKey := .other ref })).Writes Aside := by
    refine adds.zoom_of ?_
    rintro _ ⟨entry, key, rfl⟩ db _
    refine ⟨rfl, ?_⟩
    funext id
    change (db.money.addPoint entry).postings.filter _ = _
    rw [postings_addPoint, List.filter_append]
    simp [debits, posting, key]
  exact .bind (Prog.only_transaction aside) fun _ => Prog.only_pure

theorem handler_relies (request : Request) {s : WithdrawalsDb} (once : Once s) :
    (handler request).Relies creating request (fun _ t => Once t) ∅ id s := by
  cases request with
  | create env params =>
    exact (createWithdrawal_relies env params).bind (fun _ _ once => Prog.relies_pure once)
      fun _ _ once => once
  | forgetIdem userId clientKey =>
    exact harmless_aside.relies (IdemMarkers.forgetIdemKey_only (marks_aside _)) once
  | earn userId amount ref => exact harmless_aside.relies (earn_only userId amount ref) once

/-! ### Runs -/

abbrev CreationConfig := Config Request WithdrawalsDb Lock LedgerError

/-- The withdrawals created under a client's key. -/
def withdrawalsOf (db : WithdrawalsDb) (userId : UserId) (clientKey : Nat) :
    List WithdrawalRecord :=
  db.withdrawals.filter fun record => record.idempotencyKey = .create userId clientKey

/-- A client's key has neither a withdrawal nor a debit, or one withdrawal with one debit of its
amount; no debit is without its withdrawal. -/
def CreatedOnce (db : WithdrawalsDb) : Prop :=
  (∀ userId clientKey, withdrawalsOf db userId clientKey = [] ∨
    ∃ record, withdrawalsOf db userId clientKey = [record] ∧ record.row.userId = userId ∧
      debits db record.row.id = [debitPosting record.row]) ∧
  ∀ id, db.findById id = none → debits db id = []

theorem Once.createdOnce {db : WithdrawalsDb} (once : Once db) : CreatedOnce db := by
  refine ⟨fun userId clientKey => ?_, once.paired⟩
  have few : (withdrawalsOf db userId clientKey).length ≤ 1 := by
    have count := List.nodup_iff_count_le_one.mp once.keys (.create userId clientKey)
    rw [List.count_eq_countP, List.countP_map, List.countP_eq_length_filter] at count
    exact count
  cases rows : withdrawalsOf db userId clientKey with
  | nil => exact .inl rfl
  | cons record rest =>
    rw [rows, List.length_cons] at few
    have alone : rest = [] := List.length_eq_zero_iff.mp (by omega)
    have member : record ∈ withdrawalsOf db userId clientKey := by
      rw [rows]
      exact List.mem_cons_self
    obtain ⟨stored, isKey⟩ := List.mem_filter.mp member
    obtain ⟨user, debit⟩ := once.paid record stored userId clientKey (of_decide_eq_true isKey)
    exact .inr ⟨record, by rw [alone], user, debit⟩

/-- In every run of any calls, whatever fails and whichever markers are lost. -/
theorem created_once {db : WithdrawalsDb} {c : CreationConfig} (once : Once db)
    (run : Reaches handler (fun _ _ => True) (Config.idle db) c) : CreatedOnce c.db := by
  have allowed : ∀ (c : CreationConfig) e, True → creating.Allows c e := by
    intro c e _
    cases e with
    | advance i => exact fun _ _ _ _ => trivial
    | _ => trivial
  exact (Reaches.observed
    (fun request _ once => (handler_relies request once).imp fun _ _ _ => trivial)
    allowed once run).inv.createdOnce

def noWithdrawals : WithdrawalsDb where
  money := MoneyDb.empty
  withdrawals := []
  assignments _ := []
  jobs _ := []
  idem _ := none

theorem noWithdrawals_once : Once noWithdrawals :=
  ⟨List.nodup_nil, List.nodup_nil, List.forall_mem_nil _, fun _ _ => rfl⟩

def toBank (withdrawalId : Nat) (failure : Option (Nat × LedgerError)) : CreateEnvironment where
  withdrawalId := withdrawalId
  faceIndexed := true
  method := some .bank
  railEnabled := true
  fees := bankInput.fees
  payroll := morning
  aborts := []
  failure := failure
  released := true

/-- The first call fails after its commit and loses its marker; the second answers with the
withdrawal of the first. -/
theorem created_once_retried : ∃ c : CreationConfig,
    Reaches handler (fun _ _ => True) (Config.idle noWithdrawals) c ∧
      (withdrawalsOf c.db 1 5).map (·.row.id) = [7] ∧ (debits c.db 7).map (·.signed) = [-600] ∧
      ((c.db.idem (1, 5)).join.map (·.withdrawalId)) = some 7 ∧ CreatedOnce c.db := by
  obtain ⟨c, run, tested⟩ : ∃ c, Reaches handler (fun _ _ => True) (Config.idle noWithdrawals) c ∧
      (withdrawalsOf c.db 1 5).map (·.row.id) = [7] ∧ (debits c.db 7).map (·.signed) = [-600] ∧
      (c.db.idem (1, 5)).join.map (·.withdrawalId) = some 7 :=
    exists_reaches [serve (.earn 1 1000 0) 0 7,
      serve (.create (toBank 7 (some (22, .serializationAbort))) ⟨1, 600, 5⟩) 1 30,
      serve (.create (toBank 8 none) ⟨1, 600, 5⟩) 2 9] (by decide +kernel)
  exact ⟨c, run, tested.1, tested.2.1, tested.2.2, created_once noWithdrawals_once run⟩

end OlNode.WithdrawalCreation
