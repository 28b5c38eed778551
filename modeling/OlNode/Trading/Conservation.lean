import OlNode.Trading.Movements

/-!
# Transfers, reversals and conversions conserve coins

In every interleaving each recorded movement is booked once, with the recorded amounts, no balance
falls below zero and a transfer is reversed at most once. A call that fails has changed nothing,
provided that Redis answers when the list of recent users is deleted: the deletion comes after the
commit, and its error is the answer of a call whose coins have moved.
-/
namespace OlNode.Trading

open ReadCommitted InternalLedger

/-! ### Statement by statement -/

theorem getOrCreate_effects (wallet : Wallet) (draft : Draft) :
    (getOrCreate wallet).Effects
      (fun _ w => ∃ wallets, w = Draft.apply { draft with wallets }) draft.apply := by
  unfold getOrCreate
  rw [Tx.effects_select_bind]
  intro s
  split
  · exact ⟨draft.wallets, rfl⟩
  · unfold insertWallet
    rw [Tx.effects_lockRow_bind, Tx.effects_select_bind]
    intro t
    refine Tx.effects_ensure_bind fun _ => ?_
    exact ⟨draft.wallets ++ [wallet], draft.apply_wallet wallet⟩

/-- Two wallets are created where they are missing, and locked. -/
theorem openWallets_effects (first second : Wallet) :
    (openWallets first second).Effects (fun _ w => ∃ wallets, w = Draft.apply { wallets })
      (Draft.apply {}) := by
  unfold openWallets
  refine Tx.Effects.bind ((getOrCreate_effects first {}).imp ?_)
  rintro _ _ ⟨wallets, rfl⟩
  refine Tx.Effects.bind ((getOrCreate_effects second { wallets }).imp ?_)
  rintro _ _ ⟨wallets', rfl⟩
  exact ⟨wallets', rfl⟩

section Bodies

variable {α : Type} {request : Request} {held : Set Lock} {s : TradingDb}
  {err : LedgerError → TradingDb → Prop}

theorem openWallets_relies {ok : α → Set Lock → (TradingDb → TradingDb) → TradingDb → Prop}
    {first second : Wallet} {k : Unit → TradingTx α} (sound : Sound s)
    (throws : ∀ error t, err error t)
    (rest : ∀ t held' wallets, held ⊆ held' → moving.Rely held s t →
      (k ()).Relies moving request ok err held' (Draft.apply { wallets }) t) :
    (openWallets first second >>= k).Relies moving request ok err held id s := by
  rw [← Draft.apply_empty]
  refine Tx.Relies.bind ((openWallets_effects first second).relies sound ?_ fun e t _ => throws e t)
  rintro _ held' _ t sub ⟨wallets, rfl⟩ rely
  exact rest t held' wallets sub rely

variable {key : MovementKey}

/-- A movement whose key is taken, as far as its transaction can see. -/
theorem recorded_of_leg {t : TradingDb} {legKey : LedgerKey} {row : CoinLedgerEntry}
    (sound : Sound t) (own : legKey = .movementDebit key ∨ legKey = .movementCredit key)
    (found : findByKey t.money.coinLedger legKey = some row) : movementOf t key ≠ none := by
  intro none
  rw [(findByKey_leg (sound.movements key) own).mpr none] at found
  cases found

theorem recorded_grows {t u : TradingDb} (grows : Grows t u) (recorded : movementOf t key ≠ none) :
    movementOf u key ≠ none := by
  obtain ⟨movement, present⟩ := Option.ne_none_iff_exists'.mp recorded
  rw [grows key movement present]
  nofun

/-- The two legs are both new, or the movement is recorded by now. -/
theorem moveCoins_relies
    {ok : LedgerReceipt × LedgerReceipt → Set Lock → (TradingDb → TradingDb) → TradingDb → Prop}
    {amount : Int} {source target : Side} {wallets : List Wallet} (sound : Sound s)
    (throws : ∀ error t, err error t)
    (moved : ∀ t held' debit credit, moving.Rely held s t →
      Booked key source.wallet target.wallet amount held' debit credit t →
      ok (⟨.movementDebit key, debit.balanceAfter⟩, ⟨.movementCredit key, credit.balanceAfter⟩)
        held' (Draft.apply { rows := [debit, credit], wallets }) t)
    (taken : ∀ t held' receipts draft, moving.Rely held s t → movementOf t key ≠ none →
      ok receipts held' (Draft.apply draft) t) :
    (moveCoins key amount source target).Relies moving request ok err held
      (Draft.apply { wallets }) s := by
  unfold moveCoins onMoney
  refine Tx.Relies.bind (books.debit_relies sound (Draft.appends _) rfl rfl ?_ ?_
    fun error t _ _ => throws error t)
  · intro t row rely found
    have recorded := recorded_of_leg rely.inv (.inl rfl) found
    refine Tx.Relies.bind (books.credit_relies rely.inv (Draft.appends _) rfl rfl ?_ ?_
      fun error t _ _ => throws error t)
    · intro u _ further _
      exact taken u held _ _ (rely.trans further) (recorded_grows further.grows recorded)
    · intro u held' credit sub _ _ further _ _
      rw [Draft.apply_row]
      exact taken u held' _ _ (rely.trans further) (recorded_grows further.grows recorded)
  · intro t held' debit sub sourceHeld keyHeld rely absent fitsDebit
    rw [Draft.apply_row]
    have own : findByKey [debit] (.movementCredit key) = none := by
      rw [findByKey_eq_none]
      intro row member
      rw [List.mem_singleton] at member
      subst member
      rw [fitsDebit.key]
      nofun
    refine Tx.Relies.bind (books.credit_relies rely.inv (Draft.appends _) own rfl ?_ ?_
      fun error t _ _ => throws error t)
    · intro u row further found
      have recorded := recorded_of_leg further.inv (.inr rfl) found
      exact taken u held' _ _ (rely.trans (further.mono sub)) recorded
    · intro u held'' credit sub' targetHeld creditHeld further _ fitsCredit
      rw [Draft.apply_row]
      have balance := books.wallet _ _ _ (further.same _ sourceHeld)
      simp only [List.append_nil] at fitsDebit
      exact moved u held'' debit credit (rely.trans (further.mono sub))
        ⟨balance ▸ fitsDebit, fitsCredit, sub' sourceHeld, targetHeld, sub' keyHeld, creditHeld⟩

/-- The record is inserted only if the movement is not recorded yet. -/
theorem createUnique_relies {ok : α → Set Lock → (TradingDb → TradingDb) → TradingDb → Prop}
    {taken : TradingDb → Bool} {error : LedgerError} {add w : TradingDb → TradingDb}
    {k : Unit → TradingTx α} (throws : ∀ error t, err error t)
    (unique : ∀ t, taken (w t) = false → movementOf t key = none)
    (created : ∀ t held', held ⊆ held' → .movement key ∈ held' → moving.Rely held s t →
      movementOf t key = none → (k ()).Relies moving request ok err held' (add ∘ w) t) :
    (createUnique key taken error add >>= k).Relies moving request ok err held w s := by
  refine Tx.Relies.bind ?_
  refine Tx.relies_lockRow fun t rely _ => Tx.relies_select fun u further => ?_
  have later := rely.trans (further.mono (Set.subset_insert _ _))
  refine Tx.relies_ensure_bind (fun _ => throws _ u) fun free v last _ => ?_
  rw [Bool.not_eq_true'] at free
  have kept : movementOf u key = none ↔ movementOf v key = none :=
    last.same (.movement key) (Set.mem_insert _ _)
  refine created v _ ?_ ?_ (later.trans (last.mono (Set.subset_insert _ _)))
    (kept.mp (unique u free))
  · exact (Set.subset_insert _ _).trans (Set.subset_insert _ _)
  · exact Set.mem_insert _ _

end Bodies

/-! ### The transactions -/

section Transactions

variable {α : Type} {request : Request} {held : Set Lock} {s : TradingDb}

/-- The writes keep to the agreement when they are committed. -/
def Keeping (request : Request) (_ : α) (held : Set Lock) (w : TradingDb → TradingDb)
    (s : TradingDb) : Prop :=
  moving.Commits request (fun _ => True) held w s

theorem keeping_nothing (value : α) : Keeping request value ∅ id s :=
  fun _ rely _ => ⟨keeps_refl rely.inv, trivial⟩

theorem keeping_record (record : Record) {debit credit : CoinLedgerEntry}
    (ready : Ready record held debit credit s) (value : α) (wallets : List Wallet) :
    Keeping request value held
      (record.apply ∘ Draft.apply { rows := [debit, credit], wallets }) s :=
  fun _ rely _ => ⟨(ready.rely rely).keeps rely.inv request, trivial⟩

theorem runTransferTransaction_relies {transferId : TransferId} {recipientUserId : UserId}
    {recipientWalletType : WalletCurrencyType} {tradingCoins : Int}
    (coins : recipientWalletType = .coin ∨ recipientWalletType = .tradingCoin) :
    (runTransferTransaction transferId recipientUserId recipientWalletType tradingCoins).Relies
      moving request (Keeping request) (fun _ _ => True) ∅ id s := by
  have throws : ∀ (error : LedgerError) (t : TradingDb), True := fun _ _ => trivial
  have recordedType : walletTypeFromTransferRecord
      (if recipientWalletType = .coin then .personal else .trading) = recipientWalletType := by
    rcases coins with rfl | rfl <;> rfl
  have unique : ∀ (draft : Draft) (y : TradingDb),
      (findTransfer (draft.apply y) transferId).isSome = false →
      movementOf y (.tradingTransfer transferId) = none := by
    intro draft y absent
    rw [← movementOf_draft draft]
    simpa [movementOf] using absent
  refine Tx.relies_select fun t rely => ?_
  cases findTransfer (id t) transferId with
  | some transfer => exact keeping_nothing transfer
  | none =>
    refine openWallets_relies rely.inv throws fun u held wallets _ opened => ?_
    refine Tx.Relies.bind (moveCoins_relies opened.inv throws ?_ ?_)
    · intro v held' debit credit _ booked
      refine createUnique_relies throws (unique _) fun x held'' sub keyHeld last free => ?_
      have legs := booked.rely sub last
      refine keeping_record (.ofTransfer _) ⟨?_, rfl, free, rfl, keyHeld⟩ _ wallets
      simpa [Record.key, Record.movement, CoinTradingTransfer.movement, recordedType] using legs
    · intro v held' receipts draft _ recorded
      refine createUnique_relies throws (unique draft) fun x _ _ _ last free => ?_
      exact absurd free (recorded_grows last.grows recorded)

/-- Nothing of the original amount is lost between what is recovered and what is missing. -/
theorem computeRecovery_accounted (original available : Int) (mode : RevertMode) :
    (computeRecovery original available mode).recovered +
        (computeRecovery original available mode).shortfall = original ∧
      0 ≤ (computeRecovery original available mode).shortfall := by
  unfold computeRecovery
  dsimp only
  generalize (if 0 < available then available else 0) = left
  split
  · simp
  next partly =>
    simp only [decide_eq_true_eq, not_or] at partly
    constructor
    · change left + (original - left) = original
      omega
    · change 0 ≤ original - left
      omega

theorem readAvailableBalance_effects (wallet : Wallet) (w : TradingDb → TradingDb) :
    (readAvailableBalance wallet).Effects (fun _ w' => w' = w) w := by
  unfold readAvailableBalance
  rw [Tx.effects_select_bind]
  intro t
  split
  · rw [Tx.effects_select_bind]
    exact fun _ => rfl
  · rfl

/-- The transfer was read before; whatever has happened since, it has moved the same coins. -/
theorem runReversal_relies {now : Time} {input : ReversalInput} {transfer : CoinTradingTransfer}
    (sound : Sound s) (known : findTransfer s transfer.id = some transfer) :
    (runReversal now input transfer).Relies moving request (Keeping request) (fun _ _ => True) ∅
      id s := by
  have throws : ∀ (error : LedgerError) (t : TradingDb), True := fun _ _ => trivial
  have unique : ∀ (draft : Draft) (y : TradingDb),
      (findReversal ((draft.apply y).markReversed transfer.id now input.adminUserId input.reason)
        transfer.id).isSome = false → movementOf y (.tradingReversal transfer.id) = none := by
    intro draft y absent
    rw [← movementOf_draft draft,
      ← movementOf_markReversed transfer.id now input.adminUserId input.reason]
    simpa [movementOf] using absent
  refine openWallets_relies sound throws fun u held wallets _ opened => ?_
  refine Tx.Relies.bind ((readAvailableBalance_effects _ _).relies opened.inv ?_
    fun _ _ _ => trivial)
  rintro available held _ t - rfl read
  refine Tx.relies_check fun something => ?_
  rw [decide_eq_true_eq] at something
  refine Tx.Relies.bind (moveCoins_relies read.inv throws ?_ ?_)
  · intro v held' debit credit moved booked
    refine Tx.relies_update fun x rely _ => ?_
    refine createUnique_relies throws (unique _) fun y held'' sub keyHeld last free => ?_
    have legs := (booked.rely (Set.subset_insert _ _) rely).rely sub last
    have since : Grows s y := moving.grows_trans s t y (moving.grows_trans s u t opened.grows read.grows)
      (moving.grows_trans t v y moved.grows (moving.grows_trans v x y rely.grows last.grows))
    have accounted := computeRecovery_accounted transfer.coinsCredited available input.mode
    refine keeping_record (.ofReversal _ now input.adminUserId input.reason)
      ⟨?_, rfl, free, ?_, keyHeld⟩ _ wallets
    · exact legs
    · refine Record.Fits.grows ⟨transfer, known, ?_⟩ since
      exact ⟨rfl, rfl, rfl, accounted.1, something, accounted.2⟩
  · intro v held' receipts draft _ recorded
    refine Tx.relies_update fun x rely _ => ?_
    refine createUnique_relies throws (unique draft) fun y _ _ _ last free => ?_
    exact absurd free (recorded_grows last.grows (recorded_grows rely.grows recorded))

theorem runConversion_relies {direction : DiamondConversionDirection} {userId : UserId}
    {amount : Int} {idempotencyKey : Nat} :
    (runConversion direction userId amount idempotencyKey).Relies moving request (Keeping request)
      (fun _ _ => True) ∅ id s := by
  have throws : ∀ (error : LedgerError) (t : TradingDb), True := fun _ _ => trivial
  have unique : ∀ (conversion : DiamondConversion) (draft : Draft) (y : TradingDb),
      ((draft.apply y).conversions.any fun other => conversion.clashes other) = false →
      movementOf y conversion.key = none := by
    intro conversion draft y absent
    unfold DiamondConversion.key
    rw [movementOf_conversionKey, Option.map_eq_none_iff]
    refine List.find?_eq_none.mpr fun other member same => ?_
    rw [List.any_eq_false] at absent
    rw [decide_eq_true_eq] at same
    refine absent other member ?_
    rw [DiamondConversion.clashes, decide_eq_true_eq]
    exact .inl same.symm
  refine Tx.relies_select fun t rely => ?_
  cases findExistingConversion (id t) (conversionKey direction userId idempotencyKey) with
  | some conversion => exact keeping_nothing conversion
  | none =>
    refine openWallets_relies rely.inv throws fun u held wallets _ opened => ?_
    refine Tx.Relies.bind (moveCoins_relies opened.inv throws ?_ ?_)
    · intro v held' debit credit _ booked
      refine createUnique_relies throws (unique _ _) fun x held'' sub keyHeld last free => ?_
      have legs := booked.rely sub last
      refine keeping_record (.ofConversion _) ⟨?_, ?_, free, trivial, keyHeld⟩ _ wallets
      · cases direction <;> exact legs
      · cases direction <;> rfl
    · intro v held' receipts draft _ recorded
      refine createUnique_relies throws (unique _ draft) fun x _ _ _ last free => ?_
      exact absurd free (recorded_grows last.grows recorded)

end Transactions

/-! ### The calls -/

section Calls

variable {α : Type} {request : Request} {s : TradingDb}

/-- What every call has to show: its commits keep to the agreement. -/
abbrev Serves (request : Request) (p : TradingProg α) (s : TradingDb) : Prop :=
  p.Abides moving request s

theorem Serves.bind {β : Type} {p : TradingProg α} {k : α → TradingProg β}
    (first : Serves request p s) (rest : ∀ a t, Serves request (k a) t) :
    Serves request (p >>= k) s :=
  Prog.Relies.bind first (fun a t _ => rest a t) fun _ _ _ => trivial

theorem ensure_serves (condition : Bool) (error : LedgerError) (s : TradingDb) :
    Serves request (Prog.ensure condition error) s := by
  cases condition
  · exact Prog.relies_fail trivial
  · exact Prog.relies_pure trivial

theorem retry_serves {run : TradingTx α} (aborts : List Nat)
    (attempt : ∀ s, run.Relies moving request (Keeping request) (fun _ _ => True) ∅ id s)
    (sound : Sound s) : Serves request (withSerializationRetry run 3 aborts) s :=
  withSerializationRetry_relies (fun _ => True) (fun _ _ _ _ => trivial)
    (fun s _ _ => attempt s) sound trivial 3 aborts fun _ _ _ _ => trivial

theorem transferOnce_serves {run : TradingTx CoinTradingTransfer} (aborts : List Nat)
    (attempt : ∀ s, run.Relies moving request (Keeping request) (fun _ _ => True) ∅ id s)
    (sound : Sound s) : Serves request (transferOnce aborts run) s := by
  refine Prog.Relies.attempt_bind (retry_serves aborts attempt sound) fun outcome t _ => ?_
  cases outcome with
  | ok transfer => exact Prog.relies_pure trivial
  | error error =>
    dsimp only
    split
    · exact Prog.relies_transaction (attempt t)
    · exact Prog.relies_fail trivial

theorem resolveRecipientWalletType_coins (recipient : TradingUser)
    (target : Option RecipientWalletType) :
    resolveRecipientWalletType recipient target = .coin ∨
      resolveRecipientWalletType recipient target = .tradingCoin := by
  unfold resolveRecipientWalletType
  split
  · exact .inl rfl
  · split
    · exact .inl rfl
    · exact .inr rfl

theorem transferTradingCoins_serves (env : CallEnvironment) (senderAgentUserId : UserId)
    (input : TransferInput) (s : TradingDb) :
    Serves request (transferTradingCoins env senderAgentUserId input) s := by
  refine Serves.bind ?_ fun _ s => ?_
  · exact (ensure_serves _ _ s).bind fun _ t => ensure_serves _ _ t
  refine Prog.relies_select fun t _ => ?_
  refine Prog.relies_check fun _ => ?_
  refine Prog.relies_select fun u _ => ?_
  refine Prog.relies_check fun _ => ?_
  refine Prog.relies_select fun v found => ?_
  cases v.userByPublicId input.recipientPublicId with
  | none => exact Prog.relies_fail trivial
  | some recipient =>
    refine Prog.relies_check fun _ => ?_
    refine (transferOnce_serves env.aborts (fun s => ?_) found.inv).bind fun transfer x => ?_
    · exact runTransferTransaction_relies (resolveRecipientWalletType_coins recipient _)
    · exact (ensure_serves _ _ x).bind fun _ _ => Prog.relies_pure trivial

theorem reverseTransfer_serves (env : CallEnvironment) (input : ReversalInput) (s : TradingDb) :
    Serves request (reverseTransfer env input) s := by
  refine Prog.relies_select fun t read => ?_
  cases found : findTransfer t input.transferId with
  | none => exact Prog.relies_fail trivial
  | some transfer =>
    have known : findTransfer t transfer.id = some transfer := by
      have own : transfer.id = input.transferId := by simpa using List.find?_some found
      rw [own]
      exact found
    refine Prog.relies_check fun _ => ?_
    refine Serves.bind ?_ fun recovery u => ?_
    · refine Prog.relies_run ((runReversal_relies read.inv known).imp ?_ ?_)
      · exact fun _ _ _ _ keeping u rely allowed =>
          ⟨(keeping u rely allowed).1, Prog.relies_pure trivial⟩
      · exact fun _ _ _ => Prog.relies_fail trivial
    · exact (ensure_serves _ _ u).bind fun _ _ => Prog.relies_pure trivial

theorem convert_serves (env : CallEnvironment) (direction : DiamondConversionDirection)
    (label : String) (userId : UserId) (amount : Int) (idempotencyKey : Nat) (sound : Sound s) :
    Serves request (convert env direction label userId amount idempotencyKey) s := by
  refine Prog.relies_check fun _ => ?_
  refine Prog.Relies.attempt_bind (retry_serves env.aborts (fun _ => runConversion_relies) sound)
    fun outcome t _ => ?_
  cases outcome with
  | ok conversion => exact Prog.relies_pure trivial
  | error error =>
    dsimp only
    split
    · refine Prog.relies_select fun u _ => ?_
      split
      · exact Prog.relies_pure trivial
      · exact Prog.relies_fail trivial
    · exact Prog.relies_fail trivial

theorem handler_serves (request : Request) (sound : Sound s) :
    Serves request (handler request) s := by
  unfold handler
  split
  · exact Prog.Relies.forget (transferTradingCoins_serves _ _ _ s)
  · exact Prog.Relies.forget (reverseTransfer_serves _ _ s)
  · exact Prog.Relies.forget (convert_serves _ _ _ _ _ _ sound)
  · exact Prog.Relies.forget (convert_serves _ _ _ _ _ _ sound)

end Calls

/-! ### Calls that fail -/

section Failures

variable {env : CallEnvironment}

theorem invalidate_returns {α : Type} (deleted : env.recentUsersDeleted = true) (value : α) :
    ∃ result, (invalidateTradingTransferCaches env >>= fun _ => pure value : TradingProg α) =
      .done result := by
  refine ⟨value, ?_⟩
  rw [invalidateTradingTransferCaches, deleted]
  rfl

theorem transferOnce_commitsLast (aborts : List Nat) (run : TradingTx CoinTradingTransfer) :
    (transferOnce aborts run).CommitsLast := by
  refine (withSerializationRetry_commitsLast run 3 aborts).attempt_bind ?_ fun error => ?_
  · exact fun transfer => ⟨transfer, rfl⟩
  · dsimp only
    split
    · exact Prog.commitsLast_transaction run
    · trivial

theorem transferTradingCoins_commitsLast (deleted : env.recentUsersDeleted = true)
    (senderAgentUserId : UserId) (input : TransferInput) :
    (transferTradingCoins env senderAgentUserId input).CommitsLast := by
  unfold transferTradingCoins assertPositiveAmountMultiple
  cases decide (TRADING_COIN_TRANSFER_STEP ≤ input.tradingCoins) with
  | false => trivial
  | true =>
    refine Prog.commitsLast_ensure_bind fun _ => Prog.commitsLast_select_bind fun sender => ?_
    refine Prog.commitsLast_ensure_bind fun _ => Prog.commitsLast_select_bind fun agency => ?_
    refine Prog.commitsLast_ensure_bind fun _ => Prog.commitsLast_select_bind fun recipient => ?_
    cases recipient with
    | none => trivial
    | some recipient =>
      refine Prog.commitsLast_ensure_bind fun _ => ?_
      exact (transferOnce_commitsLast _ _).bind (invalidate_returns deleted)

theorem reverseTransfer_commitsLast (deleted : env.recentUsersDeleted = true)
    (input : ReversalInput) : (reverseTransfer env input).CommitsLast := by
  refine Prog.commitsLast_select_bind fun transfer => ?_
  cases transfer with
  | none => trivial
  | some transfer =>
    refine Prog.commitsLast_ensure_bind fun _ => ?_
    refine Prog.CommitsLast.bind ?_ (invalidate_returns deleted)
    exact Prog.commitsLast_run (fun recovery => ⟨recovery, rfl⟩) fun _ => trivial

theorem convert_commitsLast (direction : DiamondConversionDirection) (label : String)
    (userId : UserId) (amount : Int) (idempotencyKey : Nat) :
    (convert env direction label userId amount idempotencyKey).CommitsLast := by
  refine Prog.commitsLast_ensure_bind fun _ => ?_
  refine (withSerializationRetry_commitsLast _ 3 env.aborts).attempt_bind ?_ fun error => ?_
  · exact fun conversion => ⟨conversion, rfl⟩
  · dsimp only
    split
    · refine Prog.commitsLast_select_bind fun existing => ?_
      split <;> trivial
    · trivial

theorem handler_commitsLast (request : Request)
    (deleted : request.env.recentUsersDeleted = true) : (handler request).CommitsLast := by
  unfold handler
  split
  · exact (transferTradingCoins_commitsLast deleted _ _).forget
  · exact (reverseTransfer_commitsLast deleted _).forget
  · exact (convert_commitsLast _ _ _ _ _).forget
  · exact (convert_commitsLast _ _ _ _ _).forget

end Failures

/-! ### Runs -/

/-- One event changes nothing, or it makes one movement as the last thing its call does, and the
call returns. -/
def MovesAndReturns (c c' : TradingConfig) (e : Event Request) : Prop :=
  c'.db = c.db ∨ ∃ i t key movement, e = .advance i ∧ c'.threads[i]? = some t ∧
    t.prog = .done () ∧ Moves c.db c'.db key movement

/-- Redis answers every call that deletes the list of recent users. -/
def RecentUsersDeleted (_ : TradingConfig) (e : Event Request) : Prop :=
  ∀ request, e = .start request → request.env.recentUsersDeleted = true

theorem coins_conserved {db : TradingDb} {c : TradingConfig} (sound : Sound db)
    (run : Reaches handler RecentUsersDeleted (Config.idle db) c) :
    Sound c.db ∧ ∀ e c', RecentUsersDeleted c e → c.apply handler e = some c' →
      MovesAndReturns c c' e := by
  have handlers : ∀ request s, moving.inv s →
      (handler request).Abides moving request s :=
    fun request s sound => handler_serves request sound
  have allows : ∀ (c : TradingConfig) e, moving.Allows c e := by
    intro c e
    cases e with
    | advance i => exact fun _ _ _ _ => trivial
    | start request => trivial
    | crash i => trivial
  have observed := run.observed handlers (fun c e _ => allows c e) sound
  have deleted : ∀ t ∈ c.threads, t.request.env.recentUsersDeleted = true :=
    run.requests fun _ request allowed => allowed request rfl
  have last := run.commitsLast (fun request => request.env.recentUsersDeleted = true)
    handler_commitsLast (by simp [Config.idle])
  refine ⟨observed.inv, fun e c' _ applied => ?_⟩
  rcases (observed.apply handlers (allows c e) applied).2 with same | ⟨i, t, rfl, found, keeps⟩
  · exact .inl same
  have member := List.mem_of_getElem? found
  rcases apply_commitsLast found (last t member (deleted t member)) applied with same | returned
  · exact .inl same
  · obtain ⟨t', now, done⟩ := returned
    rcases keeps.step with same | ⟨key, movement, moves⟩
    · exact .inl same
    · exact .inr ⟨i, t', key, movement, rfl, now, done, moves⟩

def agentFunds : CoinLedgerEntry :=
  { wallet := ⟨1, .tradingCoin⟩, direction := .credit, txType := .tradingTopup, amount := 500,
    balanceAfter := 500, idempotencyKey := .other 0 }

/-- An agent with 500 trading coins and a user who has no wallet yet. -/
def agentDb : TradingDb where
  money := { MoneyDb.empty with coinLedger := [agentFunds] }
  wallets := [⟨1, .tradingCoin⟩]
  user := fun userId => if userId = 1 then some ⟨1, true⟩ else none
  userByPublicId := fun publicId => if publicId = 20 then some ⟨2, false⟩ else none
  transfers := []
  reversals := []
  conversions := []

theorem agentDb_sound : Sound agentDb where
  movements key := by
    refine .unmoved ?_ (by simp [rowsOf, agentDb, agentFunds])
    cases key <;> rfl
  noDebt wallet := by
    by_cases funded : (⟨1, .tradingCoin⟩ : Wallet) = wallet
    · subst funded
      decide
    · simp [latestBalance, newest, agentDb, agentFunds, funded]
  tables := ⟨List.nodup_nil, List.nodup_nil, List.nodup_nil, nofun, nofun⟩

def send (recentUsersDeleted : Bool) : Request where
  env := { now := 10, aborts := [], recentUsersDeleted }
  call := .transfer 1
    { recipientPublicId := 20, tradingCoins := 200, targetWalletType := none, idempotencyKey := 7 }

def spend : Request where
  env := { now := 11, aborts := [], recentUsersDeleted := true }
  call := .buyDiamonds 2 50 8

/-- The transfer is taken back as far as the coins are still there. -/
def takeBack : Request where
  env := { now := 12, aborts := [], recentUsersDeleted := true }
  call := .reverse { adminUserId := 9, transferId := ⟨1, 7⟩, reason := 0, mode := .force }

private def redisAnswers (_ : TradingConfig) : Event Request → Bool
  | .start request => request.env.recentUsersDeleted
  | _ => true

private theorem redisAnswers_sound (c : TradingConfig) (e : Event Request)
    (checked : redisAnswers c e = true) : RecentUsersDeleted c e := by
  rintro request rfl
  exact checked

/-- Of 200 coins 50 have become diamonds, so the reversal recovers 150. -/
theorem coins_conserved_takeBack : ∃ c : TradingConfig,
    Reaches handler RecentUsersDeleted (Config.idle agentDb) c ∧ c.db.transfers.length = 1 ∧
      c.db.reversals.map AdminTransactionReversal.recoveredAmount = [150] ∧
      c.db.reversals.map AdminTransactionReversal.shortfallAmount = [50] ∧ Sound c.db := by
  obtain ⟨c, run, one, recovered, short⟩ : ∃ c,
      Reaches handler RecentUsersDeleted (Config.idle agentDb) c ∧ c.db.transfers.length = 1 ∧
      c.db.reversals.map AdminTransactionReversal.recoveredAmount = [150] ∧
      c.db.reversals.map AdminTransactionReversal.shortfallAmount = [50] :=
    exists_reaches_checked redisAnswers_sound
      [serve (send true) 0 28, serve spend 1 25, serve takeBack 2 24] (by decide +kernel)
  exact ⟨c, run, one, recovered, short, (coins_conserved agentDb_sound run).1⟩

/-- Thread 0 is about to make the first transfer, and to fail with it. -/
private def failsWithTransfer (c : TradingConfig) : Bool :=
  c.db.transfers.isEmpty && (c.apply handler (.advance 0)).any fun c' =>
    !c'.db.transfers.isEmpty && c'.threads.all fun t =>
      match t.prog with
      | .done _ => false
      | _ => true

/-- The coins have moved when Redis does not answer, and the call fails. -/
theorem not_coins_conserved : ¬ ∀ (db : TradingDb) (c : TradingConfig), Sound db →
    Reaches handler (fun _ _ => True) (Config.idle db) c →
    ∀ e c', c.apply handler e = some c' → MovesAndReturns c c' e := by
  intro claim
  obtain ⟨c, run, tested⟩ : ∃ c, Reaches handler (fun _ _ => True) (Config.idle agentDb) c ∧
      failsWithTransfer c = true :=
    exists_reaches [serve (send false) 0 27] (by decide +kernel)
  rw [failsWithTransfer, Bool.and_eq_true, Option.any_eq_true] at tested
  obtain ⟨empty, c', applied, after⟩ := tested
  rw [Bool.and_eq_true, Bool.not_eq_true', List.all_eq_true] at after
  obtain ⟨moved, unfinished⟩ := after
  rcases claim agentDb c agentDb_sound run (.advance 0) c' applied with
    same | ⟨i, t, key, movement, -, found, done, -⟩
  · rw [same, empty] at moved
    cases moved
  · have running := unfinished t (List.mem_of_getElem? found)
    rw [done] at running
    cases running

end OlNode.Trading
