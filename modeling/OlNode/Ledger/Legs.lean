import OlNode.Ledger.Coins
import OlNode.ReadCommitted.Rely

/-!
# The legs of a movement

A debit or a credit of a coin wallet inside a larger transaction, for any database that contains
the money tables and any agreement in which the lock of a wallet protects its balance and the lock
of a key its absence. A leg finds the row of its key, or it appends a row that is computed from the
balance the wallet has until the commit.
-/
namespace OlNode

open ReadCommitted

variable {ι σ α : Type}

/-- What the locks of the coin ledger protect, in an agreement about a larger database. -/
structure Books (A : Agreement ι σ Lock) (get : σ → MoneyDb) (set : MoneyDb → σ → σ) : Prop where
  get_set : ∀ money s, get (set money s) = money
  wallet : ∀ wallet s t, A.same (.wallet wallet) s t →
    latestBalance (get s).coinLedger wallet = latestBalance (get t).coinLedger wallet
  coinKey : ∀ key s t, A.same (.coinKey key) s t →
    (findByKey (get s).coinLedger key = none ↔ findByKey (get t).coinLedger key = none)

/-- The writes of a transaction that has appended `rows` to the coin ledger. -/
def Appends (get : σ → MoneyDb) (w : σ → σ) (rows : List CoinLedgerEntry) : Prop :=
  ∀ s, (get (w s)).coinLedger = (get s).coinLedger ++ rows

def postRow (get : σ → MoneyDb) (set : MoneyDb → σ → σ) (row : CoinLedgerEntry) (s : σ) : σ :=
  set ((get s).addCoin row) s

/-- What a row of this direction adds to its wallet. -/
def LedgerDirection.signed : LedgerDirection → Int → Int
  | .debit, amount => -amount
  | .credit, amount => amount

/-- The row of one leg, for the balance it was computed from. -/
structure LegRow (row : CoinLedgerEntry) (direction : LedgerDirection) (wallet : Wallet)
    (amount : Int) (key : LedgerKey) (balance : Int) : Prop where
  positive : 0 < amount
  covered : direction = .debit → amount ≤ balance
  balanceAfter : row.balanceAfter = balance + direction.signed amount
  wallet : row.wallet = wallet
  key : row.idempotencyKey = key
  direction : row.direction = direction
  amount : row.amount = amount

theorem latestBalance_append_congr {ledger ledger' rows : List CoinLedgerEntry} {wallet : Wallet}
    (same : latestBalance ledger wallet = latestBalance ledger' wallet) :
    latestBalance (ledger ++ rows) wallet = latestBalance (ledger' ++ rows) wallet := by
  simp only [latestBalance, newest, List.filter_append, List.getLast?_append] at same ⊢
  cases (rows.filter fun entry => decide (entry.wallet = wallet)).getLast? with
  | none => simpa using same
  | some row => rfl

section Rows

variable {row : CoinLedgerEntry} {direction : LedgerDirection} {wallet : Wallet} {amount : Int}
  {key : LedgerKey} {ledger : List CoinLedgerEntry}

theorem LegRow.balance
    (fits : LegRow row direction wallet amount key (latestBalance ledger wallet)) (w : Wallet) :
    latestBalance (ledger ++ [row]) w = latestBalance ledger w +
      (if w = wallet then direction.signed amount else 0) := by
  by_cases own : w = wallet
  · subst own
    rw [latestBalance_append_same fits.wallet, fits.balanceAfter, if_pos rfl]
  · have other : row.wallet ≠ w := fun same => own (same.symm.trans fits.wallet)
    simp [latestBalance_append_other other, own]

theorem LegRow.noDebt
    (fits : LegRow row direction wallet amount key (latestBalance ledger wallet))
    (before : ∀ w, 0 ≤ latestBalance ledger w) (w : Wallet) :
    0 ≤ latestBalance (ledger ++ [row]) w := by
  have balance := fits.balance w
  have positive := fits.positive
  have had := before w
  by_cases own : w = wallet
  · rw [if_pos own] at balance
    cases direction with
    | debit =>
      have covered := fits.covered rfl
      rw [← own] at covered
      simp only [LedgerDirection.signed] at balance
      omega
    | credit =>
      simp only [LedgerDirection.signed] at balance
      omega
  · rw [if_neg own] at balance
    omega

end Rows

/-! ### Statement by statement -/

section Statements

variable {A : Agreement ι σ Lock} {get : σ → MoneyDb} {set : MoneyDb → σ → σ} {request : ι}
  {held : Set Lock} {w : σ → σ} {s : σ} {rows : List CoinLedgerEntry}
  {err : LedgerError → σ → Prop}

private theorem Appends.findByKey (appends : Appends get w rows) {key : LedgerKey}
    (own : findByKey rows key = none) (s : σ) :
    OlNode.findByKey (get (w s)).coinLedger key = OlNode.findByKey (get s).coinLedger key := by
  unfold OlNode.findByKey at own ⊢
  rw [appends s, List.find?_append, own, Option.or_none]

/-- The INSERT of a row whose key the transaction itself has not used. -/
theorem Books.insert_relies (books : Books A get set)
    {ok : CoinLedgerEntry → Set Lock → (σ → σ) → σ → Prop} {row : CoinLedgerEntry}
    (appends : Appends get w rows) (own : findByKey rows row.idempotencyKey = none)
    (positive : 0 < row.amount)
    (inserted : ∀ t held', held ⊆ held' → .coinKey row.idempotencyKey ∈ held' →
      A.Rely held s t → findByKey (get t).coinLedger row.idempotencyKey = none →
      ok row held' (postRow get set row ∘ w) t)
    (throws : ∀ t, A.Rely held s t → findByKey (get t).coinLedger row.idempotencyKey ≠ none →
      err .uniqueViolation t) :
    ((CoinLedgerRepository.insert row).zoom get set).Relies A request ok err held w s := by
  simp only [CoinLedgerRepository.insert, assertPositiveAmount, Tx.zoom_bind, Tx.zoom_ensure]
  refine Tx.relies_ensure_bind (fun none => ?_) fun _ => ?_
  · simp [positive] at none
  refine Tx.relies_lockRow fun t rely _ => Tx.relies_select fun u further => ?_
  have later : A.Rely held s u := rely.trans (further.mono (Set.subset_insert _ _))
  have view := appends.findByKey own u
  refine Tx.relies_ensure_bind (fun taken => ?_) fun free v last _ => ?_
  · refine throws u later fun absent => ?_
    change (findByKey (get (w u)).coinLedger row.idempotencyKey).isNone = false at taken
    rw [view, absent] at taken
    cases taken
  · have absent : findByKey (get u).coinLedger row.idempotencyKey = none := by
      change (findByKey (get (w u)).coinLedger row.idempotencyKey).isNone = true at free
      rw [view] at free
      simpa using free
    have kept := books.coinKey _ _ _ (last.same _ (Set.mem_insert _ _))
    have since := later.trans (last.mono (Set.subset_insert _ _))
    refine inserted v _ ?_ (Set.mem_insert _ _) since (kept.mp absent)
    exact (Set.subset_insert _ _).trans (Set.subset_insert _ _)

private theorem Books.post_relies (books : Books A get set)
    {ok : LedgerReceipt → Set Lock → (σ → σ) → σ → Prop} (direction : LedgerDirection)
    {wallet : Wallet} {amount : Int} {key : LedgerKey} {row : CoinLedgerEntry}
    (appends : Appends get w rows) (locked : .wallet wallet ∈ held)
    (own : findByKey rows key = none)
    (fits : LegRow row direction wallet amount key
      (latestBalance ((get s).coinLedger ++ rows) wallet))
    (posted : ∀ t held', held ⊆ held' → .coinKey key ∈ held' → A.Rely held s t →
      findByKey (get t).coinLedger key = none →
      LegRow row direction wallet amount key
        (latestBalance ((get t).coinLedger ++ rows) wallet) →
      ok ⟨key, row.balanceAfter⟩ held' (postRow get set row ∘ w) t)
    (throws : ∀ t, A.Rely held s t → findByKey (get t).coinLedger key ≠ none →
      err .uniqueViolation t) :
    ((CoinLedgerRepository.insert row).zoom get set >>= fun entry =>
      pure ⟨entry.idempotencyKey, entry.balanceAfter⟩).Relies A request ok err held w s := by
  have keyIs := fits.key
  have positive : 0 < row.amount := fits.amount ▸ fits.positive
  refine Tx.Relies.bind (books.insert_relies appends (keyIs ▸ own) positive ?_ ?_)
  · intro t held' sub keyHeld rely absent
    have balance := books.wallet _ _ _ (rely.same _ locked)
    have after := posted t held' sub (keyIs ▸ keyHeld) rely (keyIs ▸ absent)
      (latestBalance_append_congr balance ▸ fits)
    exact keyIs ▸ after
  · exact fun t rely taken => throws t rely (keyIs ▸ taken)

private theorem freezeCheck_relies {ok : Unit → Set Lock → (σ → σ) → σ → Prop} (check : Bool)
    {userId : UserId} {currencyType : WalletCurrencyType} (inv : A.inv s)
    (allowed : ∀ t, A.Rely held s t → ok () held w t)
    (refused : ∀ error t, A.Rely held s t → error ≠ .uniqueViolation → err error t) :
    ((Tx.when (check = true) (assertCoinDebitAllowedInTx userId currencyType)).zoom get set).Relies
      A request ok err held w s := by
  cases check with
  | false => exact allowed s (.refl inv)
  | true =>
    simp only [Tx.when, if_true, assertCoinDebitAllowedInTx, getUserWalletFreezeFlags, Tx.zoom_bind]
    refine Tx.Relies.bind (Tx.relies_select fun t rely => ?_)
    dsimp only
    cases (get (w t)).freezeFlags userId with
    | none => exact refused _ t rely nofun
    | some flags =>
      change ((throwIfCoinFrozen flags currencyType).zoom get set).Relies A request ok err held w t
      unfold throwIfCoinFrozen
      split
      · exact refused _ t rely nofun
      · split
        · exact refused _ t rely nofun
        · exact allowed t rely

/-- The row that stands under the key is the answer. -/
def Answers (A : Agreement ι σ Lock) (get : σ → MoneyDb) (held : Set Lock) (w : σ → σ) (s : σ)
    (key : LedgerKey) (ok : LedgerReceipt → Set Lock → (σ → σ) → σ → Prop) : Prop :=
  ∀ t row, A.Rely held s t → findByKey (get t).coinLedger key = some row →
    ok ⟨key, row.balanceAfter⟩ held w t

/-- The row of a leg goes in where none stood, under the locks of its wallet and its key. -/
def Posts (A : Agreement ι σ Lock) (get : σ → MoneyDb) (rows : List CoinLedgerEntry)
    (held : Set Lock) (s : σ) (direction : LedgerDirection) (wallet : Wallet) (amount : Int)
    (key : LedgerKey) (goes : σ → Set Lock → CoinLedgerEntry → Prop) : Prop :=
  ∀ t held' row, held ⊆ held' → .wallet wallet ∈ held' → .coinKey key ∈ held' →
    A.Rely held s t → findByKey (get t).coinLedger key = none →
    LegRow row direction wallet amount key (latestBalance ((get t).coinLedger ++ rows) wallet) →
    goes t held' row

/-- A unique violation comes of a row under the key. -/
def Fails (A : Agreement ι σ Lock) (get : σ → MoneyDb) (held : Set Lock) (s : σ)
    (key : LedgerKey) (err : LedgerError → σ → Prop) : Prop :=
  ∀ error t, A.Rely held s t →
    (error = .uniqueViolation → findByKey (get t).coinLedger key ≠ none) → err error t

theorem Fails.of_ne (fails : Fails A get held s key err) {error : LedgerError} {t : σ}
    (rely : A.Rely held s t) (other : error ≠ .uniqueViolation) : err error t :=
  fails error t rely fun same => absurd same other

variable {ok : LedgerReceipt → Set Lock → (σ → σ) → σ → Prop} {userId : UserId} {amount : Int}
  {txType : CoinTxType} {options : CoinOptions}

private theorem Books.debitRow_relies (books : Books A get set) (inv : A.inv s)
    (appends : Appends get w rows) (own : findByKey rows options.idempotencyKey = none)
    (found : Answers A get held w s options.idempotencyKey ok)
    (posted : Posts A get rows held s .debit ⟨userId, options.currencyType⟩ amount
      options.idempotencyKey fun t held' row =>
      ((Tx.when (options.applyWealth ∧ options.currencyType = .coin) do
          let _ ← applyCredit userId .wealth amount
          pure ()).zoom get set >>= fun _ =>
        pure ⟨options.idempotencyKey, row.balanceAfter⟩).Relies A request ok err held'
          (postRow get set row ∘ w) t)
    (throws : Fails A get held s options.idempotencyKey err) :
    ((CoinWallet.debit userId amount txType options).zoom get set).Relies A request ok err held
      w s := by
  simp only [CoinWallet.debit, assertPositiveAmount, Tx.zoom_bind, Tx.zoom_ensure]
  refine Tx.relies_ensure_bind (fun _ => throws.of_ne (.refl inv) (by decide)) fun positive => ?_
  rw [decide_eq_true_eq] at positive
  refine Tx.relies_select fun t rely => ?_
  dsimp only
  rw [appends.findByKey own]
  cases present : findByKey (get t).coinLedger options.idempotencyKey with
  | some row =>
    have keyIs : row.idempotencyKey = options.idempotencyKey := by
      simpa using List.find?_some present
    exact keyIs ▸ found t row rely present
  | none =>
    simp only [Tx.zoom_bind, Tx.zoom_ensure]
    refine Tx.relies_lockRow fun u further _ => ?_
    have locked : .wallet ⟨userId, options.currencyType⟩ ∈
        insert (.wallet ⟨userId, options.currencyType⟩) held := Set.mem_insert _ _
    have before := rely.trans further
    refine Tx.Relies.bind (freezeCheck_relies _ further.inv (fun v since => ?_)
      fun error v since other => ?_)
    · refine Tx.relies_select fun x read => ?_
      have later := before.trans ((since.trans read).mono (Set.subset_insert _ _))
      refine Tx.relies_ensure_bind (fun _ => throws.of_ne later (by decide)) fun covered => ?_
      rw [decide_eq_true_eq] at covered
      let row : CoinLedgerEntry :=
        { wallet := ⟨userId, options.currencyType⟩, direction := .debit, txType, amount
          balanceAfter :=
            latestBalance (get (w x)).coinLedger ⟨userId, options.currencyType⟩ - amount
          idempotencyKey := options.idempotencyKey, counterpartyId := options.counterpartyId }
      have fits : LegRow row .debit ⟨userId, options.currencyType⟩ amount options.idempotencyKey
          (latestBalance ((get x).coinLedger ++ rows) ⟨userId, options.currencyType⟩) :=
        ⟨positive, fun _ => appends x ▸ covered, by rw [← appends x]; rfl, rfl, rfl, rfl, rfl⟩
      refine Tx.Relies.bind (books.insert_relies appends own positive ?_ ?_)
      · intro y held' sub keyHeld inserted absent
        have balance := books.wallet _ _ _ (inserted.same _ locked)
        refine posted y held' row ((Set.subset_insert _ _).trans sub) (sub locked) keyHeld
          (later.trans (inserted.mono (Set.subset_insert _ _))) absent ?_
        exact latestBalance_append_congr balance ▸ fits
      · exact fun y inserted taken =>
          throws _ y (later.trans (inserted.mono (Set.subset_insert _ _))) fun _ => taken
    · have later := before.trans (since.mono (Set.subset_insert _ _))
      exact throws.of_ne later other

/-- A debit without experience: the row of its key if there is one, else a new row. -/
theorem Books.debit_relies (books : Books A get set) (inv : A.inv s)
    (appends : Appends get w rows) (own : findByKey rows options.idempotencyKey = none)
    (plain : options.applyWealth = false)
    (found : Answers A get held w s options.idempotencyKey ok)
    (posted : Posts A get rows held s .debit ⟨userId, options.currencyType⟩ amount
      options.idempotencyKey fun t held' row =>
        ok ⟨options.idempotencyKey, row.balanceAfter⟩ held' (postRow get set row ∘ w) t)
    (throws : Fails A get held s options.idempotencyKey err) :
    ((CoinWallet.debit userId amount txType options).zoom get set).Relies A request ok err held
      w s := by
  refine books.debitRow_relies inv appends own found ?_ throws
  intro t held' row sub wallet key rely absent fits
  simp only [plain, Bool.false_eq_true, false_and, Tx.when, if_false]
  exact posted t held' row sub wallet key rely absent fits

/-- A row is inserted, and in the other tables of the money anything may be written with it. -/
def Inserts (get : σ → MoneyDb) (set : MoneyDb → σ → σ) (row : CoinLedgerEntry) (f : σ → σ) :
    Prop :=
  ∀ s, ∃ money, f s = set money s ∧ money.coinLedger = (get s).coinLedger ++ [row]

/-- A debit that counts as experience: the level of the user is written after the row. -/
theorem Books.debitWealth_relies (books : Books A get set)
    (set_set : ∀ money before s, set money (set before s) = set money s) (inv : A.inv s)
    (appends : Appends get w rows) (own : findByKey rows options.idempotencyKey = none)
    (found : Answers A get held w s options.idempotencyKey ok)
    (posted : Posts A get rows held s .debit ⟨userId, options.currencyType⟩ amount
      options.idempotencyKey fun t held' row => ∀ f, Inserts get set row f →
        ok ⟨options.idempotencyKey, row.balanceAfter⟩ held' (f ∘ w) t)
    (throws : Fails A get held s options.idempotencyKey err) :
    ((CoinWallet.debit userId amount txType options).zoom get set).Relies A request ok err held
      w s := by
  refine books.debitRow_relies inv appends own found ?_ throws
  intro t held' row sub wallet key rely absent fits
  have inserted : Inserts get set row (postRow get set row) :=
    fun s => ⟨(get s).addCoin row, rfl, rfl⟩
  by_cases levelled : options.applyWealth ∧ options.currencyType = .coin
  · simp only [Tx.when, if_pos levelled, applyCredit, Tx.zoom_bind]
    refine Tx.Relies.bind (Tx.Relies.bind (Tx.relies_lockRow fun u first _ =>
      Tx.relies_select fun v second => Tx.relies_select fun x third =>
      Tx.relies_update fun y fourth _ => ?_))
    have more := Set.subset_insert (.userLevel userId .wealth) held'
    have since := (first.trans ((second.trans third).mono more)).trans (fourth.mono more)
    have balance := books.wallet _ _ _ (since.same _ wallet)
    exact posted y _ row
      ((sub.trans more).trans (Set.subset_insert _ _)) (.inr (.inr wallet)) (.inr (.inr key))
      (rely.trans (since.mono sub)) ((books.coinKey _ _ _ (since.same _ key)).mp absent)
      (latestBalance_append_congr balance ▸ fits)
      ((fun s => set ((get s).setLevel userId .wealth _) s) ∘ postRow get set row)
      fun s => ⟨_, set_set _ _ s, by
        change (get (set _ s)).coinLedger = _
        rw [books.get_set]
        rfl⟩
  · simp only [Tx.when, if_neg levelled]
    exact posted t held' row sub wallet key rely absent fits _ inserted

/-- A credit without experience. -/
theorem Books.credit_relies (books : Books A get set) (inv : A.inv s)
    (appends : Appends get w rows) (own : findByKey rows options.idempotencyKey = none)
    (plain : options.applyWealth = false)
    (found : Answers A get held w s options.idempotencyKey ok)
    (posted : Posts A get rows held s .credit ⟨userId, options.currencyType⟩ amount
      options.idempotencyKey fun t held' row =>
        ok ⟨options.idempotencyKey, row.balanceAfter⟩ held' (postRow get set row ∘ w) t)
    (throws : Fails A get held s options.idempotencyKey err) :
    ((CoinWallet.credit userId amount txType options).zoom get set).Relies A request ok err held
      w s := by
  simp only [CoinWallet.credit, assertPositiveAmount, Tx.zoom_bind, Tx.zoom_ensure]
  refine Tx.relies_ensure_bind (fun _ => throws.of_ne (.refl inv) (by decide)) fun positive => ?_
  rw [decide_eq_true_eq] at positive
  refine Tx.relies_select fun t rely => ?_
  dsimp only
  rw [appends.findByKey own]
  cases present : findByKey (get t).coinLedger options.idempotencyKey with
  | some row =>
    have keyIs : row.idempotencyKey = options.idempotencyKey := by
      simpa using List.find?_some present
    exact keyIs ▸ found t row rely present
  | none =>
    simp only [Tx.zoom_bind]
    refine Tx.relies_lockRow fun u further _ => ?_
    have locked : .wallet ⟨userId, options.currencyType⟩ ∈
        insert (.wallet ⟨userId, options.currencyType⟩) held := Set.mem_insert _ _
    refine Tx.relies_select fun x read => ?_
    have later := (rely.trans further).trans (read.mono (Set.subset_insert _ _))
    simp only [plain, Bool.false_eq_true, false_and, Tx.when, if_false]
    refine books.post_relies .credit appends locked own
      ⟨positive, fun debit => (by cases debit), by rw [← appends x]; rfl, rfl, rfl, rfl, rfl⟩ ?_ ?_
    · intro y held' sub keyHeld inserted absent fits
      exact posted y held' _ ((Set.subset_insert _ _).trans sub) (sub locked) keyHeld
        (later.trans (inserted.mono (Set.subset_insert _ _))) absent fits
    · exact fun y inserted taken =>
        throws _ y (later.trans (inserted.mono (Set.subset_insert _ _))) fun _ => taken

end Statements

end OlNode
