import OlNode.Ledger.Wallets
import OlNode.ReadCommitted.Rely

/-!
# Rewards in points

A point credit of a type that pays no commission and no experience, inside a larger transaction,
for any database that contains the money tables and any agreement in which the lock of a key
protects its absence. The credit finds the row of its key, or it appends one.
-/
namespace OlNode

open ReadCommitted

variable {ι σ : Type}

/-- What the lock of a key protects, in an agreement about a larger database. -/
structure PointBooks (A : Agreement ι σ Lock) (get : σ → MoneyDb) (set : MoneyDb → σ → σ) :
    Prop where
  get_set : ∀ money s, get (set money s) = money
  pointKey : ∀ key s t, A.same (.pointKey key) s t →
    (findByKey (get s).pointLedger key = none ↔ findByKey (get t).pointLedger key = none)

/-- The INSERT of a row. -/
def postPoints (get : σ → MoneyDb) (set : MoneyDb → σ → σ) (row : PointLedgerEntry) (s : σ) : σ :=
  set ((get s).addPoint row) s

structure RewardRow (row : PointLedgerEntry) (userId : UserId) (amount : Int)
    (txType : PointTxType) (key : LedgerKey) : Prop where
  positive : 0 < amount
  wallet : row.wallet = ⟨userId, .point⟩
  direction : row.direction = .credit
  txType : row.txType = txType
  amount : row.amount = amount
  key : row.idempotencyKey = key

section Plain

variable {now : Time} {userId : UserId} {amount : Int} {txType : PointTxType}
  {options : PointOptions}

/-- Without commission and experience a credit is its row. -/
theorem PointWallet.creditInTransaction_eq
    (noCommission : txType ∉ PointWallet.creditsWithCommission)
    (noLevel : options.applyLivestreamLevel = false) :
    PointWallet.creditInTransaction now userId amount txType options =
      PointWallet.creditRow userId amount txType options >>= fun credited =>
        pure ⟨credited.1.idempotencyKey, credited.1.balanceAfter⟩ := by
  unfold PointWallet.creditInTransaction
  refine congrArg _ (funext fun credited => ?_)
  obtain ⟨entry, inserted⟩ := credited
  simp only [noCommission, noLevel, and_false, false_and, Bool.false_eq_true, Tx.when, if_false]
  rfl

/-- Run alone, a reward under a fresh key appends its row, if it is worth anything. -/
theorem PointWallet.eval_creditInTransaction {money : MoneyDb}
    (noCommission : txType ∉ PointWallet.creditsWithCommission)
    (noLevel : options.applyLivestreamLevel = false)
    (fresh : findByKey money.pointLedger options.idempotencyKey = none) :
    (0 < amount → ∃ row, ∃ receipt : LedgerReceipt, receipt.ledgerEntryId = options.idempotencyKey ∧
      (PointWallet.creditInTransaction now userId amount txType options).eval money =
        .ok (receipt, money.addPoint row)) ∧
    (amount ≤ 0 → (PointWallet.creditInTransaction now userId amount txType options).eval money =
      .error invalidAmount) := by
  rw [PointWallet.creditInTransaction_eq noCommission noLevel]
  constructor
  · intro positive
    obtain ⟨row, _, _, key, _, credited⟩ :=
      PointWallet.eval_creditRow positive fresh userId txType
    refine ⟨row, ⟨row.idempotencyKey, row.balanceAfter⟩, key, ?_⟩
    exact Tx.eval_bind_of_ok _ credited
  · intro worthless
    refine Tx.eval_bind_of_error _ ?_
    rw [PointWallet.creditRow, assertPositiveAmount, Tx.eval_ensure_bind, if_neg]
    simpa using worthless

variable {A : Agreement ι σ Lock} {get : σ → MoneyDb} {set : MoneyDb → σ → σ} {request : ι}
  {held : Set Lock} {w : σ → σ} {s : σ} {err : LedgerError → σ → Prop}
  {ok : LedgerReceipt → Set Lock → (σ → σ) → σ → Prop}

/-- A reward: the row of its key if there is one, else a new row. -/
theorem PointBooks.credit_relies (books : PointBooks A get set) (inv : A.inv s)
    (untouched : ∀ s, (get (w s)).pointLedger = (get s).pointLedger)
    (noCommission : txType ∉ PointWallet.creditsWithCommission)
    (noLevel : options.applyLivestreamLevel = false)
    (found : ∀ t row, A.Rely held s t →
      findByKey (get t).pointLedger options.idempotencyKey = some row →
      ok ⟨options.idempotencyKey, row.balanceAfter⟩ held w t)
    (posted : ∀ t held' row, held ⊆ held' → .pointKey options.idempotencyKey ∈ held' →
      A.Rely held s t → findByKey (get t).pointLedger options.idempotencyKey = none →
      RewardRow row userId amount txType options.idempotencyKey →
      ok ⟨options.idempotencyKey, row.balanceAfter⟩ held' (postPoints get set row ∘ w) t)
    (throws : ∀ error t, A.Rely held s t → err error t) :
    ((PointWallet.creditInTransaction now userId amount txType options).zoom get set).Relies A
      request ok err held w s := by
  rw [PointWallet.creditInTransaction_eq noCommission noLevel]
  simp only [PointWallet.creditRow, assertPositiveAmount, Tx.zoom_bind, Tx.zoom_ensure]
  refine Tx.Relies.bind (Tx.relies_ensure_bind (fun _ => throws _ s (.refl inv)) fun positive => ?_)
  rw [decide_eq_true_eq] at positive
  refine Tx.relies_select fun t rely => ?_
  dsimp only
  rw [untouched t]
  cases present : findByKey (get t).pointLedger options.idempotencyKey with
  | some row =>
    have keyIs : row.idempotencyKey = options.idempotencyKey := by
      simpa using List.find?_some present
    exact keyIs ▸ found t row rely present
  | none =>
    simp only [PointLedgerRepository.insert, assertPositiveAmount, Tx.zoom_bind, Tx.zoom_ensure]
    refine Tx.relies_lockRow fun u locking _ => ?_
    have more := Set.subset_insert (.wallet ⟨userId, .point⟩) held
    refine Tx.relies_select fun v reading => ?_
    have before := rely.trans (locking.trans (reading.mono more))
    refine Tx.Relies.bind (Tx.relies_ensure_bind (fun _ => throws _ v before) fun _ => ?_)
    refine Tx.relies_lockRow fun x keying _ => Tx.relies_select fun y checking => ?_
    have again := Set.subset_insert (.pointKey options.idempotencyKey)
      (insert (.wallet ⟨userId, .point⟩) held)
    have checked := before.trans ((keying.trans (checking.mono again)).mono more)
    refine Tx.relies_ensure_bind (fun _ => throws _ y checked) fun free => ?_
    have absent : findByKey (get y).pointLedger options.idempotencyKey = none := by
      change (findByKey (get (w y)).pointLedger options.idempotencyKey).isNone = true at free
      rw [untouched y] at free
      simpa using free
    refine Tx.relies_update fun z inserting _ => ?_
    have locked : .pointKey options.idempotencyKey ∈
        insert (.pointKey options.idempotencyKey) (insert (.wallet ⟨userId, .point⟩) held) :=
      Set.mem_insert _ _
    -- the key stays free under its lock
    have still := (books.pointKey _ _ _ (inserting.same _ locked)).mp absent
    refine posted z _ _ ((more.trans again).trans (Set.subset_insert _ _)) (.inl rfl)
      (checked.trans ((inserting.mono again).mono more)) still ?_
    exact ⟨positive, rfl, rfl, rfl, rfl, rfl⟩

end Plain

end OlNode
