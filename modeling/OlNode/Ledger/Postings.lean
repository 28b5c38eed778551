import OlNode.Ledger.Wallets

/-!
# What a point ledger row says

A posting is the part of a point ledger row that says what happened: the key it was written under,
the wallet, the signed amount and the business object it refers to. The running balance is left
out. The wallet services add at most one posting for each key.
-/
namespace OlNode

open ReadCommitted

structure Posting where
  key : LedgerKey
  wallet : Wallet
  signed : Int
  refId : Option RefId
  deriving DecidableEq

/-- The signed amount of a point ledger row; a WITHDRAWAL_ESCROW row is only a marker. -/
def pointSigned (e : PointLedgerEntry) : Int :=
  if e.txType = .withdrawalEscrow then 0
  else match e.direction with
    | .credit => e.amount
    | .debit => -e.amount

def posting (e : PointLedgerEntry) : Posting :=
  ⟨e.idempotencyKey, e.wallet, pointSigned e, e.refId⟩

def MoneyDb.postings (db : MoneyDb) : List Posting := db.pointLedger.map posting

/-- Some row was written under the key. -/
def HasKey (postings : List Posting) (key : LedgerKey) : Prop := ∃ p ∈ postings, p.key = key

instance (postings : List Posting) (key : LedgerKey) : Decidable (HasKey postings key) :=
  inferInstanceAs (Decidable (∃ p ∈ postings, p.key = key))

@[simp] theorem hasKey_nil (key : LedgerKey) : ¬ HasKey [] key := by simp [HasKey]

@[simp] theorem hasKey_cons (p : Posting) (ps : List Posting) (key : LedgerKey) :
    HasKey (p :: ps) key ↔ p.key = key ∨ HasKey ps key := by simp [HasKey]

@[simp] theorem hasKey_append (ps qs : List Posting) (key : LedgerKey) :
    HasKey (ps ++ qs) key ↔ HasKey ps key ∨ HasKey qs key := by
  simp only [HasKey, List.mem_append, or_and_right, exists_or]

@[simp] theorem postings_addPoint (db : MoneyDb) (e : PointLedgerEntry) :
    (db.addPoint e).postings = db.postings ++ [posting e] := by
  simp [MoneyDb.postings, MoneyDb.addPoint]

theorem findByKey_pointLedger (db : MoneyDb) (key : LedgerKey) :
    findByKey db.pointLedger key = none ↔ ¬ HasKey db.postings key := by
  rw [findByKey_eq_none]
  simp [HasKey, MoneyDb.postings, posting]

theorem findByKey_pointLedger_isSome (db : MoneyDb) (key : LedgerKey) :
    (findByKey db.pointLedger key).isSome ↔ HasKey db.postings key := by
  rw [findByKey_isSome]
  simp [HasKey, MoneyDb.postings, posting]

/-- The effect of a wallet operation that writes at most one row: none if the key is taken. -/
def PostsOnce (db db' : MoneyDb) (p : Posting) : Prop :=
  (HasKey db.postings p.key ∧ db'.postings = db.postings) ∨
    (¬ HasKey db.postings p.key ∧ db'.postings = db.postings ++ [p])

variable {db db' : MoneyDb}

theorem PostsOnce.fresh {p : Posting} (posted : PostsOnce db db' p)
    (absent : ¬ HasKey db.postings p.key) : db'.postings = db.postings ++ [p] := by
  rcases posted with ⟨taken, -⟩ | ⟨-, appended⟩
  · exact absurd taken absent
  · exact appended

variable {userId : UserId}

/-- The row of a leg, with the balance it leaves. -/
def pointRow (direction : LedgerDirection) (userId : UserId) (amount : Int) (txType : PointTxType)
    (options : PointOptions) (balanceAfter : Int) : PointLedgerEntry :=
  { wallet := ⟨userId, .point⟩, direction, txType, amount, balanceAfter
    refId := options.refId, counterpartyId := options.counterpartyId
    idempotencyKey := options.idempotencyKey }

theorem hasKey_of_find {key : LedgerKey} {row : PointLedgerEntry}
    (existing : findByKey db.pointLedger key = some row) : HasKey db.postings key :=
  (findByKey_pointLedger_isSome db key).mp (by rw [existing, Option.isSome_some])

variable {amount : Int} {options : PointOptions} {txType : PointTxType}

/-- A credit that returns has found the row of its key, or inserts it. -/
theorem PointWallet.creditRow_ok {result : PointLedgerEntry × Bool}
    (returned : (creditRow userId amount txType options).eval db = .ok (result, db')) :
    (HasKey db.postings options.idempotencyKey ∧ result.2 = false ∧ db' = db) ∨
      (¬ HasKey db.postings options.idempotencyKey ∧ 0 < amount ∧ ∃ balance,
        result = (pointRow .credit userId amount txType options balance, true) ∧
        db' = db.addPoint (pointRow .credit userId amount txType options balance)) := by
  obtain ⟨-, returned⟩ := Tx.eval_ensure_bind_ok.mp returned
  simp only [PointLedgerRepository.findByIdempotencyKey, Tx.eval_select_bind] at returned
  cases existing : findByKey db.pointLedger options.idempotencyKey with
  | some row =>
    rw [existing] at returned
    cases returned
    exact .inl ⟨hasKey_of_find existing, rfl, rfl⟩
  | none =>
    simp only [existing, lockForUpdate, latestPointBalance, Tx.eval_lockRow_bind,
      Tx.eval_select_bind] at returned
    obtain ⟨entry, mid, inserted, returned⟩ := Tx.eval_bind_ok.mp returned
    obtain ⟨positive, -, rfl, rfl⟩ := PointLedgerRepository.insert_ok inserted
    cases returned
    exact .inr ⟨(findByKey_pointLedger db _).mp existing, positive, _, rfl, rfl⟩

theorem PostsOnce.of_row {direction : LedgerDirection} {balance : Int}
    (marker : txType ≠ .withdrawalEscrow) (absent : ¬ HasKey db.postings options.idempotencyKey) :
    PostsOnce db (db.addPoint (pointRow direction userId amount txType options balance))
      ⟨options.idempotencyKey, ⟨userId, .point⟩,
        match direction with | .credit => amount | .debit => -amount, options.refId⟩ := by
  refine .inr ⟨absent, ?_⟩
  rw [postings_addPoint, posting, pointSigned, pointRow, if_neg marker]

theorem PointWallet.creditRow_posts {result : PointLedgerEntry × Bool}
    (marker : txType ≠ .withdrawalEscrow)
    (returned : (creditRow userId amount txType options).eval db = .ok (result, db')) :
    PostsOnce db db' ⟨options.idempotencyKey, ⟨userId, .point⟩, amount, options.refId⟩ := by
  rcases creditRow_ok returned with ⟨taken, -, rfl⟩ | ⟨absent, -, balance, -, rfl⟩
  · exact .inl ⟨taken, rfl⟩
  · exact .of_row marker absent

variable {receipt : LedgerReceipt}

/-- A credit that pays no commission and gives no XP. -/
theorem PointWallet.creditInTransaction_posts {now : Time}
    (quiet : txType ∉ creditsWithCommission) (marker : txType ≠ .withdrawalEscrow)
    (noXp : options.applyLivestreamLevel = false)
    (returned : (creditInTransaction now userId amount txType options).eval db =
      .ok (receipt, db')) :
    PostsOnce db db' ⟨options.idempotencyKey, ⟨userId, .point⟩, amount, options.refId⟩ := by
  obtain ⟨⟨entry, inserted⟩, mid, row, rest⟩ := Tx.eval_bind_ok.mp returned
  have same : mid = db' := by
    simp [Tx.eval_bind, quiet, noXp, Except.bind] at rest
    exact rest.2
  exact same ▸ creditRow_posts marker row

/-- Checks that only throw leave the state alone. -/
theorem assertPointsDebitAllowedInTx_ok {u : Unit}
    (returned : (assertPointsDebitAllowedInTx userId).eval db = .ok (u, db')) : db' = db := by
  simp only [assertPointsDebitAllowedInTx, getUserWalletFreezeFlags] at returned
  obtain ⟨flags, mid, found, rest⟩ := Tx.eval_bind_ok.mp returned
  rw [Tx.eval_select_bind] at found
  cases row : db.freezeFlags userId with
  | none => simp [row] at found
  | some flags' =>
    simp only [row, Tx.eval_pure, Except.ok.injEq, Prod.mk.injEq] at found
    exact (Tx.eval_ensure_ok.mp rest).2 ▸ found.2.symm

/-- A debit that returns has found the row of its key, or inserts it. -/
theorem PointWallet.debit_ok
    (returned : (debit userId amount txType options).eval db = .ok (receipt, db')) :
    (HasKey db.postings options.idempotencyKey ∧ db' = db) ∨
      (¬ HasKey db.postings options.idempotencyKey ∧ 0 < amount ∧ ∃ balance,
        db' = db.addPoint (pointRow .debit userId amount txType options balance)) := by
  obtain ⟨-, returned⟩ := Tx.eval_ensure_bind_ok.mp returned
  simp only [PointLedgerRepository.findByIdempotencyKey, Tx.eval_select_bind] at returned
  cases existing : findByKey db.pointLedger options.idempotencyKey with
  | some row =>
    rw [existing] at returned
    cases returned
    exact .inl ⟨hasKey_of_find existing, rfl⟩
  | none =>
    simp only [existing, lockForUpdate, latestPointBalance, Tx.eval_lockRow_bind,
      Tx.eval_select_bind] at returned
    obtain ⟨u, checked, freeze, returned⟩ := Tx.eval_bind_ok.mp returned
    have unchanged : checked = db := by
      rw [Tx.eval_when] at freeze
      split at freeze
      next => exact assertPointsDebitAllowedInTx_ok freeze
      next =>
        cases freeze
        rfl
    subst unchanged
    rw [Tx.eval_select_bind] at returned
    obtain ⟨-, returned⟩ := Tx.eval_ensure_bind_ok.mp returned
    obtain ⟨entry, mid, inserted, returned⟩ := Tx.eval_bind_ok.mp returned
    obtain ⟨positive, -, rfl, rfl⟩ := PointLedgerRepository.insert_ok inserted
    cases returned
    exact .inr ⟨(findByKey_pointLedger _ _).mp existing, positive, _, rfl⟩

theorem PointWallet.debit_posts (marker : txType ≠ .withdrawalEscrow)
    (returned : (debit userId amount txType options).eval db = .ok (receipt, db')) :
    PostsOnce db db' ⟨options.idempotencyKey, ⟨userId, .point⟩, -amount, options.refId⟩ := by
  rcases debit_ok returned with ⟨taken, rfl⟩ | ⟨absent, -, balance, rfl⟩
  · exact .inl ⟨taken, rfl⟩
  · exact .of_row marker absent

end OlNode
