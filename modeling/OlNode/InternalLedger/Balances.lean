import OlNode.InternalLedger.Chain

/-!
# Balances over whole runs

What the internal-ledger operations do to the wallets, and from it the ledger chain invariant for
every interleaving of all money requests.
-/
namespace OlNode.InternalLedger

open ReadCommitted

variable {saw : MoneyDb → Prop} {unconfirmed : UserId → Int} {K K' : Knowledge Wallet WalletRows}

/-- Wallets may have been locked, but nothing has been written yet. -/
def Locked (unconfirmed : UserId → Int) (K : Knowledge Wallet WalletRows) : Prop :=
  ∀ w, K w = .initial ∨ ∃ rows, K w = .held rows rows ∧ Sound unconfirmed w rows

theorem Locked.knows (locked : Locked unconfirmed K) : Knows unconfirmed K := by
  intro w
  rcases locked w with untouched | ⟨rows, held, valid⟩
  · exact .inl untouched
  · exact .inr ⟨rows, rows, held, valid, valid⟩

theorem locked_initial : Locked unconfirmed .initial := fun _ => .inl rfl

theorem knows_initial : Knows unconfirmed .initial := locked_initial.knows

private theorem Locked.update (locked : Locked unconfirmed K) {w : Wallet} {rows : WalletRows}
    (valid : Sound unconfirmed w rows) :
    Locked unconfirmed (Function.update K w (.held rows rows)) := by
  intro other
  by_cases same : other = w
  · subst same
    exact .inr ⟨rows, Function.update_self .., valid⟩
  · rw [Function.update_of_ne same]
    exact locked other

theorem lockWalletsInOrder_safe (wallets : List Wallet) (locked : Locked unconfirmed K) :
    (lockWalletsInOrder wallets).Safe (walletParts saw unconfirmed) K fun _ K' =>
      Locked unconfirmed K' ∧
        (∀ w rows, K w = .held rows rows → K' w = .held rows rows) ∧
        ∀ w ∈ wallets, ∃ rows, K' w = .held rows rows := by
  induction wallets generalizing K with
  | nil => exact ⟨locked, fun _ _ held => held, fun _ member => by simp at member⟩
  | cons wallet wallets ih =>
    refine lock_bind locked.knows fun before now locks was is => ?_
    have same : before = now := by
      rcases locks with held | ⟨-, same⟩
      · rcases locked wallet with untouched | ⟨rows, held', -⟩
        · rw [held] at untouched
          cases untouched
        · rw [held] at held'
          cases held'
          rfl
      · exact same
    subst same
    refine (ih (locked.update was)).mono fun _ K' ⟨locked', kept, all⟩ => ⟨locked', ?_, ?_⟩
    · intro w rows held
      refine kept w rows ?_
      by_cases same : w = wallet
      · subst same
        rcases locks with held' | ⟨untouched, -⟩
        · rw [held'] at held
          rw [Function.update_self, held]
        · rw [untouched] at held
          cases held
      · rw [Function.update_of_ne same, held]
    · intro w member
      rcases List.mem_cons.mp member with rfl | member
      · exact ⟨before, kept w before (Function.update_self ..)⟩
      · exact all w member

theorem lockForOperation_safe (payerUserId : UserId) (hostUserId : Option UserId)
    (withCommission : Bool) :
    (lockForOperation payerUserId hostUserId withCommission).Safe (walletParts saw unconfirmed)
      .initial fun _ K' =>
      Locked unconfirmed K' ∧ (∃ rows, K' ⟨payerUserId, .coin⟩ = .held rows rows) ∧
        ∀ host, hostUserId = some host → ∃ rows, K' ⟨host, .point⟩ = .held rows rows := by
  have side := sideFrame saw unconfirmed
  refine .bind (Tx.Touches.safe (commissionAgency_touches side.toPlainFrame _ _) fun agencyUserId => ?_)
  refine .bind ((lockWalletsInOrder_safe _ locked_initial).mono fun _ K' ⟨locked, _, all⟩ => ?_)
  refine Tx.Touches.safe (assertCoinDebitAllowedInTx_touches side _ _) fun _ => ⟨locked, ?_, ?_⟩
  · exact all _ (by simp)
  · intro host isHost
    exact all _ (by simp [isHost])

/-- The transaction has charged `amount` to a wallet that could afford it. -/
def Paid (w : Wallet) (amount : Int) (K : Knowledge Wallet WalletRows) : Prop :=
  ∃ before now row, K w = .held before now ∧ before.coin ++ [row] <+: now.coin ∧
    row.direction = .debit ∧ row.amount = amount ∧ amount ≤ tailBalance before.coin

theorem Paid.later {w : Wallet} {amount : Int} (paid : Paid w amount K)
    (later : Later unconfirmed K K') : Paid w amount K' := by
  obtain ⟨before, now, row, held, charged, rest⟩ := paid
  obtain ⟨now', held', longer⟩ := later.coins w before now held
  exact ⟨before, now', row, held', charged.trans longer, rest⟩

theorem charge_safe {entry : CoinLedgerEntry} {rows : WalletRows}
    {Q : CoinLedgerEntry → Knowledge Wallet WalletRows → Prop} (locked : Locked unconfirmed K)
    (held : K entry.wallet = .held rows rows) (debit : entry.direction = .debit)
    (enough : entry.amount ≤ tailBalance rows.coin)
    (next : entry.balanceAfter = tailBalance rows.coin - entry.amount)
    (after : ∀ K', Knows unconfirmed K' → Paid entry.wallet entry.amount K' →
      K' entry.wallet = .held rows (rows.addCoin entry) → (∀ w ≠ entry.wallet, K' w = K w) →
      Q entry K') :
    (CoinLedgerRepository.insert entry).Safe (walletParts saw unconfirmed) K Q := by
  refine insertCoin_safe held (after _ ?_ ?_ (Function.update_self ..) fun _ other =>
    Function.update_of_ne other ..)
  · have is := (Locks.inv locked.knows held).2
    refine (later_append locked.knows held ⟨is.1.addCoin ?_ ?_, is.2⟩ ?_).knows
    · simp [coinSigned, debit, next, sub_eq_add_neg]
    · omega
    · exact List.prefix_append _ _
  · exact ⟨rows, rows.addCoin entry, entry, Function.update_self .., List.prefix_refl _, debit, rfl,
      enough⟩

variable {before now : WalletRows}

/-- The coin wallets a transaction has locked are left alone. -/
def CoinsKept (K K' : Knowledge Wallet WalletRows) : Prop :=
  ∀ w : Wallet, w.currencyType ≠ .point → ∀ before now, K w = .held before now →
    K' w = .held before now

theorem Books.coinsKept (books : Books unconfirmed PaysCommission K K') : CoinsKept K K' := by
  intro w other before now held
  obtain ⟨later, held', -⟩ := books.coins w before now held
  let committed : Wallet → WalletRows := fun w =>
    match K' w with
    | .held before _ => before
    | .free _ => before
  have agrees : ∀ w, (K' w).Agrees (committed w) := by
    intro w
    cases is : K' w <;> simp [committed, is, Hold.Agrees]
  have same : rowsOf K' committed w = rowsOf K committed w := by
    rcases books.posted committed agrees with none | ⟨agencyUserId, points, e, -, paid⟩
    · rw [none]
    · rw [paid, Function.update_of_ne (by rintro rfl; simp at other)]
  simp only [rowsOf, held, held', Hold.after] at same
  rw [held', same]

/-- The host's credit, to a wallet that was locked with the payer's. -/
theorem insertHost_safe {entry : PointLedgerEntry}
    {Q : PointLedgerEntry → Knowledge Wallet WalletRows → Prop} (knows : Knows unconfirmed K)
    {userId : UserId} (host : entry.wallet = ⟨userId, .point⟩)
    (held : K ⟨userId, .point⟩ = .held before now) (credit : entry.direction = .credit)
    (real : entry.txType ≠ .withdrawalEscrow)
    (next : entry.balanceAfter = tailBalance now.point + entry.amount)
    (after : ∀ K', Later unconfirmed K K' → CoinsKept K K' → Q entry K') :
    (PointLedgerRepository.insert entry).Safe (walletParts saw unconfirmed) K Q := by
  rw [← host] at held
  refine insertPoint_safe held (after _ ?_ ?_)
  · have is := (Locks.inv knows held).2
    refine later_append knows held ⟨is.1.addPoint ?_, is.2⟩ (List.prefix_refl _)
    simp [pointSigned, real, credit, next]
  · intro w other before' now' held'
    rw [Function.update_of_ne (by rintro rfl; simp [host] at other), held']

theorem settleHostCredit_runs (now : Time) (hostUserId : UserId) (hostEntry : LedgerKey)
    (points : Int) (txType : PointTxType) (withCommission : Bool) :
    Runs saw unconfirmed PaysCommission
      (settleHostCredit now hostUserId hostEntry points txType withCommission) := by
  unfold settleHostCredit
  split
  · exact applyCommission_runs _ _ _ _ _
  · exact runs_outside trivial fun _ => .inl rfl

/-! ### Gifts -/

theorem creditGiftHost_safe {input : GiftSendInput} {points pointsBefore : Int}
    {rows : WalletRows} (knows : Knows unconfirmed K)
    (held : K ⟨input.receiverId, .point⟩ = .held rows rows)
    (balance : pointsBefore = tailBalance rows.point) :
    (creditGiftHost input points (pointsBefore + points)).Safe (walletParts saw unconfirmed) K
      fun _ K' => Later unconfirmed K K' := by
  unfold creditGiftHost
  split
  · refine .bind (insertHost_safe knows rfl held rfl (by simp) ?_ fun K' later _ => later)
    simp [balance]
  · exact Later.refl knows

variable (env : Environment)

theorem giftSendTx_safe (input : GiftSendInput) (gift : Gift) (coinCost points : Int) :
    (giftSendTx env input gift coinCost points).Safe (walletParts saw unconfirmed) .initial
      fun _ K' => Knows unconfirmed K' ∧ Paid ⟨input.senderId, .coin⟩ coinCost K' := by
  have side := sideFrame saw unconfirmed
  refine .bind ((lockForOperation_safe _ _ _).mono fun _ K₁ ⟨locked, ⟨rows, payer⟩, hosts⟩ => ?_)
  obtain ⟨hostRows, host⟩ := hosts input.receiverId rfl
  refine (Tx.safe_select_bind _ _).mpr fun db seen => ?_
  rw [sees_coin seen payer]
  refine Tx.safe_check trivial fun enough => ?_
  refine (Tx.safe_select_bind _ _).mpr fun db' seen' => ?_
  rw [sees_point seen' host]
  refine .bind (charge_safe locked payer rfl (by simpa using enough) rfl ?_)
  intro K₂ knows paid _ others
  have hostStill := (others ⟨input.receiverId, .point⟩ (by simp)).trans host
  refine .bind ((creditGiftHost_safe knows hostStill rfl).mono fun credited K₃ later => ?_)
  refine .bind (Tx.Touches.safe (createGiftTransaction_touches side _) fun _ => ?_)
  refine .bind (Tx.Touches.safe (applyCredit_touches side _ _ _) fun wealth => ?_)
  split
  · refine .bind (Tx.Touches.safe (applyCredit_touches side _ _ _) fun _ => ?_)
    refine .bind ((settleHostCredit_runs _ _ _ _ _ _ K₃ later.knows).mono fun _ K₄ books => ?_)
    exact ⟨books.knows, paid.later (later.trans books.toLater)⟩
  · exact ⟨later.knows, paid.later later⟩

/-! ### Lucky gifts -/

variable {input : LuckyGiftInput}

theorem creditLuckyHost_safe {hostPoints : Int} (withCommission : Bool)
    (knows : Knows unconfirmed K) (held : K ⟨input.receiver, .point⟩ = .held before now) :
    (creditLuckyHost env input hostPoints withCommission).Safe (walletParts saw unconfirmed) K
      fun _ K' => Later unconfirmed K K' ∧ CoinsKept K K' := by
  have side := sideFrame saw unconfirmed
  unfold creditLuckyHost
  split
  · refine (Tx.safe_select_bind _ _).mpr fun db seen => ?_
    rw [sees_point seen held]
    refine .bind (insertHost_safe knows rfl held rfl (by simp) rfl fun K₁ later coins => ?_)
    refine .bind (Tx.Touches.safe (applyCredit_touches side _ _ _) fun _ => ?_)
    refine .bind ((settleHostCredit_runs _ _ _ _ _ _ K₁ later.knows).mono fun _ K₂ books => ?_)
    exact ⟨later.trans books.toLater, fun w other before now held =>
      books.coinsKept w other _ _ (coins w other _ _ held)⟩
  · exact ⟨.refl knows, fun _ _ _ _ held => held⟩

theorem payReward_safe {coinsAfterDebit reward : Int} (knows : Knows unconfirmed K)
    (held : K ⟨input.senderId, .coin⟩ = .held before now)
    (balance : coinsAfterDebit = tailBalance now.coin) :
    (payReward input coinsAfterDebit reward).Safe (walletParts saw unconfirmed) K
      fun _ K' => Later unconfirmed K K' := by
  unfold payReward
  split
  next positive =>
    have is := (Locks.inv knows held).2
    have covered := is.1.tail_nonneg
    refine .bind (insertCoin_safe held ?_)
    refine later_append knows held ⟨is.1.addCoin ?_ ?_, is.2⟩ (List.prefix_append _ _)
    · simp [coinSigned, balance]
    · dsimp only
      omega
  next => exact Later.refl knows

theorem waterPayout_safe (gift : Gift) (totalCost hostPoints : Int) {coinsAfterDebit : Int}
    (withCommission : Bool) (wealth : LevelResult) (config : LuckyTierConfig)
    {before now hostBefore hostNow : WalletRows} (knows : Knows unconfirmed K)
    (held : K ⟨input.senderId, .coin⟩ = .held before now)
    (balance : coinsAfterDebit = tailBalance now.coin)
    (host : K ⟨input.receiver, .point⟩ = .held hostBefore hostNow) :
    (waterPayout env input gift totalCost hostPoints coinsAfterDebit withCommission wealth
      config).Safe (walletParts saw unconfirmed) K fun _ K' => Later unconfirmed K K' := by
  have side := sideFrame saw unconfirmed
  have pools := poolFrame saw unconfirmed
  refine .bind ((creditLuckyHost_safe env _ knows host).mono fun _ K₁ ⟨later, coins⟩ => ?_)
  refine .bind (Tx.Touches.safe (createGiftTransaction_touches side _) fun _ => ?_)
  refine .bind (Tx.Touches.safe (drawFromPool_touches pools
    (fun _ _ => Parts.outside_blind _ _) _ _ trivial) fun _ => ?_)
  have still := coins ⟨input.senderId, .coin⟩ (by simp) _ _ held
  refine .bind ((payReward_safe later.knows still balance).mono fun _ K₂ later' => ?_)
  refine .bind (Tx.Touches.safe (auditSend_touches pools rfl rfl) fun _ => ?_)
  exact later.trans later'

theorem legacyPayout_safe (gift : Gift) (totalCost hostPoints : Int) {coinsAfterDebit : Int}
    (withCommission : Bool) (wealth : LevelResult) {before now hostBefore hostNow : WalletRows}
    (knows : Knows unconfirmed K) (held : K ⟨input.senderId, .coin⟩ = .held before now)
    (balance : coinsAfterDebit = tailBalance now.coin)
    (host : K ⟨input.receiver, .point⟩ = .held hostBefore hostNow) :
    (legacyPayout env input gift totalCost hostPoints coinsAfterDebit withCommission
      wealth).Safe (walletParts saw unconfirmed) K fun _ K' => Later unconfirmed K K' := by
  have side := sideFrame saw unconfirmed
  refine .bind ((payReward_safe knows held balance).mono fun _ K₁ later => ?_)
  obtain ⟨hostNow', host', -⟩ := later.coins _ _ _ host
  refine .bind ((creditLuckyHost_safe env _ later.knows host').mono fun _ K₂ ⟨later', _⟩ => ?_)
  refine .bind (Tx.Touches.safe (createGiftTransaction_touches side _) fun _ => ?_)
  exact later.trans later'

theorem luckyGiftTx_safe (input : LuckyGiftInput) (gift : Gift) (totalCost hostPoints : Int) :
    (luckyGiftTx env input gift totalCost hostPoints).Safe (walletParts saw unconfirmed) .initial
      fun _ K' => Knows unconfirmed K' ∧ Paid ⟨input.senderId, .coin⟩ totalCost K' := by
  have side := sideFrame saw unconfirmed
  refine .bind (Tx.Touches.safe (resolveEngine_touches side.toPlainFrame _ _ _) fun engine => ?_)
  refine .bind ((lockForOperation_safe _ _ _).mono fun _ K₁ ⟨locked, ⟨rows, payer⟩, hosts⟩ => ?_)
  obtain ⟨hostRows, host⟩ := hosts input.receiver rfl
  refine .bind (Tx.Touches.safe ?_ fun _ => ?_)
  · cases engine <;> exact Tx.touches_ensure trivial
  refine (Tx.safe_select_bind _ _).mpr fun db seen => ?_
  rw [sees_coin seen payer]
  refine Tx.safe_check trivial fun enough => ?_
  refine .bind (charge_safe locked payer rfl (by simpa using enough) rfl ?_)
  intro K₂ knows paid charged others
  have hostStill := (others ⟨input.receiver, .point⟩ (by simp)).trans host
  refine .bind (Tx.Touches.safe (applyCredit_touches side _ _ _) fun wealth => ?_)
  have done : ∀ K₃, Later unconfirmed K₂ K₃ →
      Knows unconfirmed K₃ ∧ Paid ⟨input.senderId, .coin⟩ totalCost K₃ :=
    fun K₃ later => ⟨later.knows, paid.later later⟩
  cases engine with
  | waterV1 config =>
    exact (waterPayout_safe env gift _ _ _ _ _ knows charged (by simp [WalletRows.addCoin])
      hostStill).mono fun _ K₃ later => done K₃ later
  | legacy =>
    exact (legacyPayout_safe env gift _ _ _ _ knows charged (by simp [WalletRows.addCoin])
      hostStill).mono fun _ K₃ later => done K₃ later

/-! ### Calls and messages -/

theorem billMinute_safe (session : VideoCallSession) (minute requestId : Nat) :
    (billMinute env session minute requestId).Safe (walletParts saw unconfirmed) .initial
      fun _ K' => Knows unconfirmed K' ∧ Paid ⟨session.callerId, .coin⟩
        (callerCoinDebitForCall session.pricePerMin env.shares.videoCallHostShareBp) K' := by
  have side := sideFrame saw unconfirmed
  refine .bind ((lockForOperation_safe _ _ _).mono fun _ K₁ ⟨locked, ⟨rows, payer⟩, hosts⟩ => ?_)
  obtain ⟨hostRows, host⟩ := hosts session.creatorId rfl
  refine (Tx.safe_select_bind _ _).mpr fun db seen => ?_
  rw [sees_coin seen payer]
  refine Tx.safe_check trivial fun enough => ?_
  refine .bind (charge_safe locked payer rfl (by simpa using enough) rfl ?_)
  intro K₂ knows paid _ others
  have hostStill := (others ⟨session.creatorId, .point⟩ (by simp)).trans host
  refine (Tx.safe_select_bind _ _).mpr fun db' seen' => ?_
  rw [sees_point seen' hostStill]
  refine .bind (insertHost_safe knows rfl hostStill rfl (by simp) rfl fun K₃ later _ => ?_)
  refine .bind (Tx.Touches.safe (applyCredit_touches side _ _ _) fun _ => ?_)
  refine .bind (Tx.Touches.safe (applyCredit_touches side _ _ _) fun _ => ?_)
  refine .bind ((settleHostCredit_runs _ _ _ _ _ _ K₃ later.knows).mono fun _ K₄ books => ?_)
  exact ⟨books.knows, paid.later (later.trans books.toLater)⟩

private theorem sessionsOutside : SessionFrame (walletParts saw unconfirmed).outside where
  toPlainFrame := plainFrame_outside fun _ _ => trivial
  session := by simp [Parts.outside, walletParts]
  setSession := fun _ _ _ => rfl

theorem lockSession_safe {sessionId : Nat}
    {Q : Option VideoCallSession → Knowledge Wallet WalletRows → Prop}
    (next : ∀ s, saw s → Q (s.session sessionId) K) :
    (lockSession sessionId).Safe (walletParts saw unconfirmed) K Q := by
  refine (Tx.safe_lockRow_bind _ _).mpr fun committed _ => ?_
  rw [Knowledge.lock_other (by simp [walletParts])]
  exact fun s seen => next s seen.shown

/-- The caller of a session the transaction saw has paid for a minute. -/
def PaidMinute (saw : MoneyDb → Prop) (env : Environment) (sessionId : Nat)
    (K : Knowledge Wallet WalletRows) : Prop :=
  ∃ s session, saw s ∧ s.session sessionId = some session ∧ Paid ⟨session.callerId, .coin⟩
    (callerCoinDebitForCall session.pricePerMin env.shares.videoCallHostShareBp) K

theorem callAcceptTx_safe (input : CallAcceptInput) :
    (callAcceptTx env input).Safe (walletParts saw unconfirmed) .initial fun _ K' =>
      Knows unconfirmed K' ∧ PaidMinute saw env input.sessionId K' := by
  refine .bind (lockSession_safe fun s shown => ?_)
  cases found : s.session input.sessionId with
  | none => trivial
  | some session =>
    refine Tx.safe_check trivial fun _ => ?_
    refine Tx.safe_check trivial fun _ => ?_
    refine .bind ((billMinute_safe _ _ _ _).mono fun bill K' ⟨knows, paid⟩ => ?_)
    exact .bind (Tx.Touches.safe (updateSession_touches sessionsOutside _) fun _ =>
      ⟨knows, s, session, shown, found, paid⟩)

theorem callMinuteTx_safe (input : CallMinuteInput) :
    (callMinuteTx env input).Safe (walletParts saw unconfirmed) .initial fun _ K' =>
      K' = .initial ∨ Knows unconfirmed K' ∧ PaidMinute saw env input.sessionId K' := by
  refine .bind (lockSession_safe fun s shown => ?_)
  cases found : s.session input.sessionId with
  | none => trivial
  | some session =>
    dsimp only
    split
    · exact .inl rfl
    · refine Tx.safe_check trivial fun _ => ?_
      refine Tx.safe_check trivial fun _ => ?_
      refine .bind ((billMinute_safe _ _ _ _).mono fun bill K' billed => ?_)
      obtain ⟨knows, paid⟩ := billed
      exact .bind (Tx.Touches.safe (updateSession_touches sessionsOutside _) fun _ =>
        .inr ⟨knows, s, session, shown, found, paid⟩)

theorem globalMessageTx_safe (input : GlobalMessageInput) :
    (globalMessageTx input).Safe (walletParts saw unconfirmed) .initial fun _ K' =>
      Knows unconfirmed K' ∧ Paid ⟨input.senderId, .coin⟩ GLOBAL_MESSAGE_COST K' := by
  have side := sideFrame saw unconfirmed
  refine .bind ((lockForOperation_safe _ _ _).mono fun _ K₁ ⟨locked, ⟨rows, payer⟩, _⟩ => ?_)
  refine (Tx.safe_select_bind _ _).mpr fun db seen => ?_
  rw [sees_coin seen payer]
  refine Tx.safe_check trivial fun enough => ?_
  refine .bind (charge_safe locked payer rfl (by simpa using enough) rfl ?_)
  intro K₂ knows paid _ _
  exact .bind (Tx.Touches.safe (applyCredit_touches side _ _ _) fun _ => ⟨knows, paid⟩)

/-! ### Every interleaving -/

/-- The first new row of the wallet is a debit of `amount`, which its balance covered. -/
def Charged (w : Wallet) (amount : Int) (rows rows' : Wallet → WalletRows) : Prop :=
  ∃ row, (rows w).coin ++ [row] <+: (rows' w).coin ∧ row.direction = .debit ∧
    row.amount = amount ∧ amount ≤ tailBalance (rows w).coin

/-- What a call does to the wallets when it commits. The operations of a transaction post in turn;
a gift or a call minute charges the price of the gift or session it saw, a message its fixed cost,
to a sender or caller who can afford it. Other requests never touch a wallet. -/
def Call.Affords (saw : MoneyDb → Prop) (call : Call) (rows rows' : Wallet → WalletRows) : Prop :=
  match call.request with
  | .wallet ops => Posted saw ops rows rows'
  | .giftSend input => ∃ s gift, saw s ∧ s.gift input.giftId = some gift ∧
      Charged ⟨input.senderId, .coin⟩ (gift.coinCost * input.quantity) rows rows'
  | .luckyGiftSend input => ∃ s gift, saw s ∧ s.gift input.giftId = some gift ∧
      Charged ⟨input.senderId, .coin⟩ (gift.coinCost * input.count) rows rows'
  | .globalMessage input => Charged ⟨input.senderId, .coin⟩ GLOBAL_MESSAGE_COST rows rows'
  | .callAccept { sessionId, .. } | .callMinute { sessionId, .. } =>
    ∃ s session, saw s ∧ s.session sessionId = some session ∧ Charged ⟨session.callerId, .coin⟩
      (callerCoinDebitForCall session.pricePerMin call.env.shares.videoCallHostShareBp) rows rows'
  | _ => False

/-- What serving the call may do to the wallets. -/
def MayPost (saw : MoneyDb → Prop) (call : Call) (rows rows' : Wallet → WalletRows) : Prop :=
  rows' = rows ∨ call.Affords saw rows rows'

private theorem mayPost_refl (call : Call) (rows : Wallet → WalletRows) :
    MayPost saw call rows rows := .inl rfl

private theorem settles_of_knows {may : (Wallet → WalletRows) → (Wallet → WalletRows) → Prop}
    (knows : Knows unconfirmed K)
    (moves : ∀ committed, (∀ w, (K w).Agrees (committed w)) →
      may committed fun w => (K w).after (committed w)) :
    K.Settles (walletParts saw unconfirmed) may := by
  refine ⟨fun w => ?_, fun committed _ agrees => moves committed agrees⟩
  rcases knows w with untouched | ⟨before, now, held, -, is⟩
  · rw [untouched]
    exact Hold.settles_initial _
  · rw [held]
    exact is

private theorem Paid.charged {w : Wallet} {amount : Int} (paid : Paid w amount K)
    {committed : Wallet → WalletRows} (agrees : ∀ w, (K w).Agrees (committed w)) :
    Charged w amount committed fun w => (K w).after (committed w) := by
  obtain ⟨before, now, row, held, charged, debit, isAmount, enough⟩ := paid
  have same := agrees w
  rw [held] at same
  refine ⟨row, ?_, debit, isAmount, ?_⟩
  · dsimp only
    rw [same, held]
    exact charged
  · rw [same]
    exact enough

theorem loadSendableGift_safe {α : Type} {giftId : Nat} {lucky : Bool}
    {may : (Wallet → WalletRows) → (Wallet → WalletRows) → Prop} {k : Gift → LedgerProg α}
    (next : ∀ s gift, saw s → s.gift giftId = some gift →
      (k gift).Safe (walletParts saw unconfirmed) may K) :
    (loadSendableGift giftId lucky >>= k).Safe (walletParts saw unconfirmed) may K := by
  rw [loadSendableGift, Prog.bind_assoc]
  refine Prog.safe_select_bind.mpr fun s seen => ?_
  cases found : s.gift giftId with
  | none => trivial
  | some gift =>
    simp only [Prog.bind_assoc]
    refine Prog.safe_ensure_bind (fun _ => trivial) fun _ => ?_
    exact Prog.safe_ensure_bind (fun _ => trivial) fun _ => next s gift seen.shown found

theorem handler_safe (call : Call) :
    (handler call).Safe (walletParts saw unconfirmed) (MayPost saw call) .initial := by
  obtain ⟨env, request⟩ := call
  have refl : ∀ rows, MayPost saw ⟨env, request⟩ rows rows := mayPost_refl ⟨env, request⟩
  have quiet := Prog.settles_initial (S := walletParts saw unconfirmed) refl
  have plain : PlainFrame (walletParts saw unconfirmed).outside := plainFrame_outside fun _ _ => trivial
  have tiers : TierFrame (walletParts saw unconfirmed).outside fun _ => True :=
    ⟨plain, fun _ _ _ _ => trivial, by simp [Parts.outside, walletParts], fun _ _ _ _ => rfl,
      fun _ _ _ _ => rfl⟩
  have replays : ∀ (input : LuckyGiftInput) totalCost hostPoints debit,
      (replayLucky input totalCost hostPoints debit).ReadOnly (walletParts saw unconfirmed).outside :=
    fun _ => replayLucky_reads plain (Parts.outside_blind _ _)
  cases request with
  | wallet ops =>
    refine .run ((walletTx_runs env.now ops _ knows_initial).mono fun _ K' books => ⟨?_, trivial⟩)
      fun _ _ => trivial
    exact settles_of_knows books.knows fun committed agrees => .inr (books.posted committed agrees)
  | giftSend input =>
    refine .forget (.after_reads (checkCallGift_reads plain input) fun _ => ?_)
    refine loadSendableGift_safe fun s gift shown found => ?_
    refine .run ((giftSendTx_safe env input gift _ _).mono fun _ K done => ⟨?_, trivial⟩)
      fun error _ => ?_
    · obtain ⟨knows, paid⟩ := done
      exact settles_of_knows knows fun _ agrees => .inr ⟨s, gift, shown, found, paid.charged agrees⟩
    · split
      · exact (replayGiftSend_reads plain input _ _).safe
      · trivial
  | luckyGiftSend input =>
    refine .forget (loadSendableGift_safe fun s gift shown found => ?_)
    refine Prog.safe_select_bind.mpr fun db _ => ?_
    split
    · exact (replays input _ _ _).safe
    · refine .run ((luckyGiftTx_safe env input gift _ _).mono fun _ K done => ⟨?_, trivial⟩)
        fun error _ => ?_
      · obtain ⟨knows, paid⟩ := done
        exact settles_of_knows knows fun _ agrees =>
          .inr ⟨s, gift, shown, found, paid.charged agrees⟩
      · split
        · exact Prog.safe_select_bind.mpr fun _ _ => (replays input _ _ _).safe
        · trivial
  | callAccept input =>
    refine .forget (.run ((callAcceptTx_safe env input).mono fun _ K done => ⟨?_, trivial⟩)
      fun error _ => ?_)
    · obtain ⟨knows, s, session, shown, found, paid⟩ := done
      exact settles_of_knows knows fun _ agrees =>
        .inr ⟨s, session, shown, found, paid.charged agrees⟩
    · split
      · exact (replayCallAccept_reads plain env input).safe
      · trivial
  | callMinute input =>
    refine .forget (.run ((callMinuteTx_safe env input).mono fun _ K done => ⟨?_, trivial⟩)
      fun _ _ => trivial)
    rcases done with rfl | ⟨knows, s, session, shown, found, paid⟩
    · exact quiet
    · exact settles_of_knows knows fun _ agrees =>
        .inr ⟨s, session, shown, found, paid.charged agrees⟩
  | globalMessage input =>
    refine .forget (.run ((globalMessageTx_safe input).mono fun _ K done => ⟨?_, trivial⟩)
      fun error _ => ?_)
    · obtain ⟨knows, paid⟩ := done
      exact settles_of_knows knows fun _ agrees => .inr (paid.charged agrees)
    · split
      · refine (replayOrDuplicate_reads plain _ _ fun row => ?_).safe
        exact .bind (currentLevel_reads plain _ _) fun _ => trivial
      · trivial
  | createSession session => exact (createSession_touches sessionsOutside session).safe refl
  | closeSession sessionId status =>
    exact (Prog.touches_autocommit (by simp [Parts.outside, walletParts]) fun _ _ => rfl).safe refl
  | recordSeedDecision tierId choice amount =>
    refine (Prog.Touches.forget (recordSeedDecision_touches tiers tierId choice amount ?_ ?_ ?_)).safe
      refl
    · simp [Parts.outside, walletParts]
    · exact fun _ _ => rfl
    · exact fun _ _ _ => rfl
  | createConfigVersion tierId patch econValid =>
    exact (createConfigVersion_touches tiers tierId econValid fun _ _ _ _ => trivial).forget.safe refl
  | setMode tierId mode allowed => exact (setMode_touches tiers tierId mode allowed).safe refl
  | shadowWorkerTick rolls =>
    exact (runShadowWorkerTick_touches (shadowFrame saw unconfirmed) _ _ _).safe refl
  | changeSettings settings =>
    exact (Prog.touches_autocommit (by simp [Parts.outside, walletParts]) fun _ _ => rfl).safe refl

/-- The states the threads of a run to `c` have looked at. -/
def LookedAt (db : MoneyDb) (c : LedgerConfig) (s : MoneyDb) : Prop :=
  ∃ (mid : LedgerConfig) (i : Nat) (thread : Thread Call MoneyDb Lock LedgerError),
    Reaches handler (fun _ _ => True) (.idle db) mid ∧ Reaches handler (fun _ _ => True) mid c ∧
      mid.threads[i]? = some thread ∧ s = thread.view mid.db

/-- In every interleaving of money requests, in every state that is ever committed, the last row of
each wallet holds the sum of its rows (escrow markers excluded) and no coin balance is negative.
Whatever commits next leaves all wallets alone, or every debit in it fits the spendable balance
that the operations before it left. -/
theorem ledger_chain (db : MoneyDb) (start : ∀ w, (walletRows db w).Chained) (c : LedgerConfig)
    (run : Reaches handler (fun _ _ => True) (.idle db) c) :
    (∀ w, (walletRows c.db w).Chained) ∧
      ∀ event c', c.apply handler event = some c' → walletRows c'.db = walletRows c.db ∨
        ∃ i thread, event = .advance i ∧ c.threads[i]? = some thread ∧
          thread.request.Affords (LookedAt db c) (walletRows c.db) (walletRows c'.db) := by
  let parts := walletParts (LookedAt db c) db.unconfirmedPoints
  have shows : ∀ mid, Reaches handler (fun _ _ => True) (.idle db) mid →
      Reaches handler (fun _ _ => True) mid c → parts.Shows mid :=
    fun mid before after i thread found => ⟨mid, i, thread, before, after, found, rfl⟩
  have guarded : Guarded parts (MayPost (LookedAt db c)) c :=
    run.guarded (fun _ call _ => handler_safe call) (fun w => ⟨start w, rfl⟩) shows
  refine ⟨fun w => (guarded.valid w).1, fun event c' applied => ?_⟩
  rcases guarded.moves (shows c run .refl) applied with
    same | ⟨i, thread, isAdvance, found, unchanged | moved⟩
  · exact .inl (by rw [same])
  · exact .inl unchanged
  · rcases moved with unchanged | affords
    · exact .inl unchanged
    · exact .inr ⟨i, thread, isAdvance, found, affords⟩

theorem chained_empty (w : Wallet) : (walletRows MoneyDb.empty w).Chained := by
  constructor <;> simp [walletRows, MoneyDb.empty, tailBalance]

/-- A debit starts, a top-up commits, and the debit goes on from the new balance. -/
theorem ledger_chain_topUpThenSpend :
    ∃ c : LedgerConfig, Reaches handler (fun _ _ => True) (.idle MoneyDb.empty) c ∧
      c.db.coinLedger.map (·.balanceAfter) = [100, 70] ∧ ∀ w, (walletRows c.db w).Chained := by
  let spend : Call := ⟨noon, .wallet [.coinDebit 1 30 .giftSend { idempotencyKey := .other 2 }]⟩
  obtain ⟨c, run, balances⟩ : ∃ c, Reaches handler (fun _ _ => True) (.idle MoneyDb.empty) c ∧
      c.db.coinLedger.map (·.balanceAfter) = [100, 70] :=
    exists_reaches [[.start spend, .start (topUp 1 100 1), .advance 0],
      List.replicate 7 (.advance 1), List.replicate 7 (.advance 0)] (by decide +kernel)
  exact ⟨c, run, balances, (ledger_chain _ chained_empty c run).1⟩

end OlNode.InternalLedger
