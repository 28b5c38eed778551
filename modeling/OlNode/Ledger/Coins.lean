import OlNode.Ledger.Wallets
import OlNode.ReadCommitted.Effects

/-!
# What single operations write

A ledger row that is inserted is the last one of its table. Levels, point rows, commission markers
and commission are written in the same transactions as coin rows, but in other tables.
-/
namespace OlNode

open ReadCommitted

/-- The unique index may refuse the row; when it does not, it is the only write. -/
theorem CoinLedgerRepository.insert_effects {entry : CoinLedgerEntry} {w : MoneyDb → MoneyDb}
    {post : CoinLedgerEntry → (MoneyDb → MoneyDb) → Prop}
    (after : post entry ((fun db => db.addCoin entry) ∘ w)) : (insert entry).Effects post w := by
  refine Tx.effects_ensure_bind fun _ => ?_
  rw [Tx.effects_lockRow_bind]
  exact fun db => Tx.effects_ensure_bind fun _ => after

theorem PointLedgerRepository.insert_effects {entry : PointLedgerEntry} {w : MoneyDb → MoneyDb}
    {post : PointLedgerEntry → (MoneyDb → MoneyDb) → Prop}
    (after : post entry ((fun db => db.addPoint entry) ∘ w)) : (insert entry).Effects post w := by
  refine Tx.effects_ensure_bind fun _ => ?_
  rw [Tx.effects_lockRow_bind]
  exact fun db => Tx.effects_ensure_bind fun _ => after

/-- A write to any table but the coin ledger. -/
def KeepsCoins (f : MoneyDb → MoneyDb) : Prop := ∀ db, (f db).coinLedger = db.coinLedger

theorem applyCredit_keepsCoins (userId : UserId) (levelType : LevelType) (increment : Int) :
    (applyCredit userId levelType increment).Writes KeepsCoins := by
  simp only [applyCredit, Tx.writes_lockRow_bind, Tx.writes_select_bind, Tx.writes_update_bind,
    Tx.writes_pure, and_true]
  exact fun _ _ _ => rfl

theorem assertCoinDebitAllowedInTx_writes {P : (MoneyDb → MoneyDb) → Prop} (userId : UserId)
    (currencyType : WalletCurrencyType) :
    (assertCoinDebitAllowedInTx userId currencyType).Writes P := by
  refine .bind (fun db => ?_) fun flags => ?_
  · cases found : db.freezeFlags userId <;> simp [Tx.bind, found]
  · unfold throwIfCoinFrozen
    split
    · trivial
    · split <;> trivial

theorem PointLedgerRepository.insert_keepsCoins (entry : PointLedgerEntry) :
    (PointLedgerRepository.insert entry).Writes KeepsCoins := by
  simp only [PointLedgerRepository.insert, PointLedgerRepository.findByIdempotencyKey,
    assertPositiveAmount, Tx.writes_ensure_bind, Tx.writes_lockRow_bind, Tx.writes_select_bind,
    Tx.writes_update_bind, Tx.writes_pure, and_true]
  exact fun _ _ _ _ => rfl

theorem PointWallet.creditRow_keepsCoins (userId : UserId) (amount : Int) (txType : PointTxType)
    (options : PointOptions) : (creditRow userId amount txType options).Writes KeepsCoins := by
  simp only [creditRow, assertPositiveAmount, PointLedgerRepository.findByIdempotencyKey,
    Tx.writes_ensure_bind, Tx.writes_select_bind]
  intro _ db
  split
  · trivial
  · simp only [lockForUpdate, latestPointBalance, Tx.writes_lockRow_bind, Tx.writes_select_bind]
    exact fun _ => .bind (PointLedgerRepository.insert_keepsCoins _) fun _ => trivial

theorem markCommissionProcessed_keepsCoins (hostEntry : LedgerKey) :
    (markCommissionProcessed hostEntry).Writes KeepsCoins := by
  simp only [markCommissionProcessed, Tx.writes_lockRow_bind, Tx.writes_select_bind]
  intro db
  split
  · trivial
  · exact (Tx.writes_update_bind _ _ _).mpr ⟨fun _ => rfl, trivial⟩

theorem applyCommission_keepsCoins (now : Time) (hostUserId : UserId) (hostEntry : LedgerKey)
    (hostPointsCredited : Int) (hostTxType : PointTxType) :
    (applyCommission now hostUserId hostEntry hostPointsCredited hostTxType).Writes
      KeepsCoins := by
  refine .bind (fun _ => trivial) fun resolved => ?_
  cases resolved with
  | none => trivial
  | some agencyUserId =>
    dsimp only
    split
    · rw [Tx.writes_select_bind]
      intro db
      split
      · exact .bind (markCommissionProcessed_keepsCoins hostEntry) fun _ => trivial
      · rw [Tx.writes_select_bind]
        intro db'
        split
        · trivial
        · refine .bind (markCommissionProcessed_keepsCoins hostEntry) fun fresh => ?_
          split
          · refine .bind (Tx.writes_when ?_) fun _ => trivial
            exact .bind (fun _ => trivial) fun _ =>
              .bind (PointWallet.creditRow_keepsCoins ..) fun _ => trivial
          · trivial
    · trivial

theorem PointWallet.creditInTransaction_keepsCoins (now : Time) (userId : UserId) (amount : Int)
    (txType : PointTxType) (options : PointOptions) :
    (creditInTransaction now userId amount txType options).Writes KeepsCoins := by
  refine .bind (creditRow_keepsCoins userId amount txType options) fun row => ?_
  obtain ⟨entry, inserted⟩ := row
  have commission := applyCommission_keepsCoins now userId entry.idempotencyKey amount txType
  have level := applyCredit_keepsCoins userId .livestream amount
  refine .bind (Tx.writes_when (.bind commission fun _ => trivial)) fun _ => ?_
  exact .bind (Tx.writes_when (.bind level fun _ => trivial)) fun _ => trivial

end OlNode
