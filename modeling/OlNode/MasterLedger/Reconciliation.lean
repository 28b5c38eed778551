import OlNode.MasterLedger.Weights
import OlNode.Keyed
import Mathlib.Tactic.Ring

/-!
# When the identity closes

The rows of an operation weigh nothing together: most weigh nothing each, and the rest come in
pairs that cancel if the period takes both. A reversal takes out what the transfer put in, if the
reports see both. So after every run of such operations only what is floored at zero can remain.
-/
namespace OlNode.MasterLedger

open History Totals CompanyCash

/-! ### What one write adds -/

def Write.share (db : LedgerDb) (house : HouseAccounts) (w : Window) : Write → Int
  | .coin wallet direction txType amount stamp =>
    if w.contains stamp.createdAt then
      coinWeight ⟨txType, direction, wallet.currencyType, house.contains wallet.userId, false,
        false⟩ * amount
    else 0
  | .point userId direction txType amount hostTxType stamp =>
    if w.contains stamp.createdAt then
      pointWeight ⟨txType, direction, .point, house.contains userId, false, false⟩ hostTxType *
        amount
    else 0
  | .storeItem row => -if w.contains row.createdAt then row.coinsPaid else 0
  | .vipPurchase row => -if w.contains row.createdAt then row.coinCost else 0
  | .transfer row => transferUnits db house w row
  | .reverseTransfer _ _ => 0

/-- Rows of coins are on wallets of coins, commission is tagged, and no transfer is reversed. -/
def Write.Adds : Write → Prop
  | .coin wallet _ _ _ _ => wallet.currencyType ≠ .point
  | .point _ _ txType _ hostTxType _ => txType = .agentCommission → hostTxType.isSome = true
  | .transfer row => 0 ≤ row.tradingCoinsDebited
  | .reverseTransfer _ _ => False
  | _ => True

variable {t : CoinTradingTransfer}

private theorem transferUnits_zero (db : LedgerDb) (house : HouseAccounts) (w : Window)
    (nothing : t.tradingCoinsDebited = 0) :
    transferUnits db house w t = 0 := by
  simp [transferUnits, nothing]

section Writes

variable (db : LedgerDb) (house : HouseAccounts) (w : Window)

private theorem imbalance_appendCoin (e : Leg CoinTxType) (kind : e.wallet.currencyType ≠ .point)
    (positive : 0 < e.amount) :
    imbalance (db.appendCoin e kind positive) house w = imbalance db house w +
      if w.contains e.createdAt then coinWeight (totalsKey house e) * e.amount else 0 := by
  have coins := sumWhere_append (fun e : Leg CoinTxType => w.contains e.createdAt)
    (fun e => coinWeight (totalsKey house e) * e.amount) db.coin [e]
  rw [sumWhere_cons, sumWhere_nil] at coins
  change sumWhere _ _ (db.coin ++ [e]) + sumWhere _ _ db.point +
    (db.coinTradingTransfers.map (transferUnits db house w)).sum - sumWhere _ _ db.storeItems -
    sumWhere _ _ db.vipPurchases = _
  rw [coins]
  unfold imbalance
  omega

private theorem imbalance_appendPoint (e : Leg PointTxType) (kind : e.wallet.currencyType = .point)
    (positive : 0 < e.amount) :
    imbalance (db.appendPoint e kind positive) house w = imbalance db house w +
      if w.contains e.createdAt then pointWeight (totalsKey house e) e.hostTxType * e.amount
      else 0 := by
  have points := sumWhere_append (fun e : Leg PointTxType => w.contains e.createdAt)
    (fun e => pointWeight (totalsKey house e) e.hostTxType * e.amount) db.point [e]
  rw [sumWhere_cons, sumWhere_nil] at points
  change sumWhere _ _ db.coin + sumWhere _ _ (db.point ++ [e]) +
    (db.coinTradingTransfers.map (transferUnits db house w)).sum - sumWhere _ _ db.storeItems -
    sumWhere _ _ db.vipPurchases = _
  rw [points]
  unfold imbalance
  omega

private theorem imbalance_appendTransfer (t : CoinTradingTransfer)
    (positive : 0 < t.tradingCoinsDebited) :
    imbalance (db.appendTransfer t positive) house w =
      imbalance db house w + transferUnits db house w t := by
  change sumWhere _ _ db.coin + sumWhere _ _ db.point +
    ((db.coinTradingTransfers ++ [t]).map (transferUnits db house w)).sum -
    sumWhere _ _ db.storeItems - sumWhere _ _ db.vipPurchases = _
  rw [List.map_append, List.sum_append, List.map_singleton, List.sum_singleton]
  unfold imbalance
  omega

private theorem imbalance_write {write : Write} (adds : write.Adds) :
    imbalance (db.write write) house w = imbalance db house w + write.share db house w := by
  cases write with
  | coin wallet direction txType amount stamp =>
    unfold LedgerDb.write Write.share
    dsimp only
    split
    next ok => exact imbalance_appendCoin db house w _ _ _
    next refused =>
      have nothing : amount = 0 := by
        by_contra some
        exact refused ⟨adds, Nat.pos_of_ne_zero some⟩
      simp [nothing]
  | point userId direction txType amount hostTxType stamp =>
    unfold LedgerDb.write Write.share
    dsimp only
    split
    next ok => exact imbalance_appendPoint db house w _ _ _
    next refused =>
      have nothing : amount = 0 := Nat.eq_zero_of_not_pos refused
      simp [nothing]
  | storeItem row =>
    change sumWhere _ _ db.coin + sumWhere _ _ db.point +
      (db.coinTradingTransfers.map (transferUnits db house w)).sum -
      sumWhere _ _ (db.storeItems ++ [row]) - sumWhere _ _ db.vipPurchases = _
    rw [sumWhere_append, sumWhere_cons, sumWhere_nil]
    unfold imbalance Write.share
    dsimp only
    omega
  | vipPurchase row =>
    change sumWhere _ _ db.coin + sumWhere _ _ db.point +
      (db.coinTradingTransfers.map (transferUnits db house w)).sum -
      sumWhere _ _ db.storeItems - sumWhere _ _ (db.vipPurchases ++ [row]) = _
    rw [sumWhere_append, sumWhere_cons, sumWhere_nil]
    unfold imbalance Write.share
    dsimp only
    omega
  | transfer row =>
    unfold LedgerDb.write Write.share
    dsimp only
    split
    next ok => exact imbalance_appendTransfer db house w row ok
    next refused =>
      have nothing : row.tradingCoinsDebited = 0 := Int.le_antisymm (Int.not_lt.mp refused) adds
      rw [transferUnits_zero db house w nothing, Int.add_zero]
  | reverseTransfer _ _ => exact absurd adds not_false

private theorem write_rest (write : Write) :
    (db.write write).classification = db.classification ∧
      (db.write write).agentPointTransfers = db.agentPointTransfers := by
  cases write with
  | coin wallet direction txType amount stamp =>
    unfold LedgerDb.write
    dsimp only
    split
    · exact ⟨rfl, rfl⟩
    · exact ⟨rfl, rfl⟩
  | point userId direction txType amount hostTxType stamp =>
    unfold LedgerDb.write
    dsimp only
    split
    · exact ⟨rfl, rfl⟩
    · exact ⟨rfl, rfl⟩
  | transfer row =>
    unfold LedgerDb.write
    dsimp only
    split
    · exact ⟨rfl, rfl⟩
    · exact ⟨rfl, rfl⟩
  | storeItem row => exact ⟨rfl, rfl⟩
  | vipPurchase row => exact ⟨rfl, rfl⟩
  | reverseTransfer id reversedAt => exact ⟨rfl, rfl⟩

private theorem transferUnits_write (write : Write) :
    transferUnits (db.write write) house w = transferUnits db house w := by
  funext t
  have kind : coinFlowKind (db.write write) house t = coinFlowKind db house t := by
    unfold coinFlowKind
    rw [(write_rest db write).1]
  unfold transferUnits
  rw [kind]

private theorem share_write (write other : Write) :
    other.share (db.write write) house w = other.share db house w := by
  cases other with
  | transfer row => exact congrFun (transferUnits_write db house w write) row
  | _ => rfl

end Writes

private theorem imbalance_writeAll {house : HouseAccounts} {w : Window} {writes : List Write} :
    ∀ {db : LedgerDb}, (∀ write ∈ writes, write.Adds) →
      imbalance (db.writeAll writes) house w =
        imbalance db house w + (writes.map (Write.share db house w)).sum := by
  induction writes with
  | nil =>
    intro db _
    simp [LedgerDb.writeAll]
  | cons write writes ih =>
    intro db adds
    have rest := @ih (db.write write) fun other member =>
      adds other (List.mem_cons_of_mem _ member)
    have shares : writes.map (Write.share (db.write write) house w) =
        writes.map (Write.share db house w) :=
      List.map_congr_left fun other _ => share_write db house w write other
    rw [shares, imbalance_write db house w (adds write List.mem_cons_self)] at rest
    rw [List.map_cons, List.sum_cons, ← Int.add_assoc]
    exact rest

/-! ### What one operation adds -/

/-- The customers whose coins or points an operation counts as spent or given back. -/
def Operation.spenders : Operation → List UserId
  | .sendGift senderId .. | .sendLuckyGift senderId .. | .refundGift senderId .. => [senderId]
  | .chargeVideoCall callerId .. => [callerId]
  | .subscribeCreator subscriberId .. => [subscriberId]
  | .purchaseGuardian userId .. | .purchaseStoreItem userId .. | .purchaseVipMembership userId ..
  | .purchaseRareId userId .. | .exchangePoints userId .. | .requestCustomGift userId ..
  | .refundCustomGift userId .. => [userId]
  | _ => []

/-- A period takes all of these instants or none. -/
def together (w : Window) (instants : List Time) : Bool :=
  instants.all (w.contains ·) || instants.all (!w.contains ·)

/-- A reversal takes out of the reports what the transfer put in. -/
def settles (house : HouseAccounts) (w : Window) (kind : TreasuryFlowClassificationType)
    (t : CoinTradingTransfer) (recovered : Nat) (reversedAt : Time) : Bool :=
  match house.contains t.senderAgentUserId, house.contains t.recipientUserId with
  -- A sale is reversed in any period, a giveaway in its own only.
  | true, false => !w.contains reversedAt || (decide (recovered = t.tradingCoinsDebited) &&
      (decide (kind = .sale) || w.contains t.createdAt))
  -- What is returned to the house counts as if it had never been, once it is reversed.
  | false, true => together w [t.createdAt, reversedAt] &&
      (!w.contains reversedAt || decide (recovered = t.tradingCoinsDebited))
  | _, _ => true

/-- The period takes all rows of the operation that the reports set against each other. -/
def Operation.Booked (house : HouseAccounts) (w : Window) (db : LedgerDb) : Operation → Bool
  | .purchaseStoreItem _ _ stamp createdAt => together w [stamp.createdAt, createdAt]
  | .purchaseVipMembership _ _ stamp purchase => together w [stamp.createdAt, purchase.createdAt]
  | .buyDiamonds _ _ coinStamp diamondStamp =>
    together w [coinStamp.createdAt, diamondStamp.createdAt]
  | .redeemDiamonds _ _ diamondStamp coinStamp =>
    together w [diamondStamp.createdAt, coinStamp.createdAt]
  | .settleGame _ _ _ _ userStamp houseStamp =>
    together w [userStamp.createdAt, houseStamp.createdAt]
  | .tradingTransfer _ _ _ _ _ senderStamp recipientStamp createdAt =>
    together w [senderStamp.createdAt, recipientStamp.createdAt, createdAt]
  | .reverseTransfer id _ recovered recipientStamp senderStamp reversedAt =>
    match db.findReversible id with
    | none => true
    | some t => together w [recipientStamp.createdAt, senderStamp.createdAt, reversedAt] &&
        settles house w (coinFlowKind db house t) t recovered reversedAt
  | _ => true

/-- Every operation of the run is booked where it happens. -/
def BookedRun (house : HouseAccounts) (w : Window) : LedgerDb → List Operation → Bool
  | _, [] => true
  | db, op :: ops => op.Booked house w db && BookedRun house w (db.perform op) ops

private theorem spent_weight : ∀ txType ∈ [CoinTxType.giftSend, .videoCall, .creatorSubscription,
    .guardianPurchase, .vipPurchase, .customGiftRequest],
    coinWeight ⟨txType, .debit, .coin, false, false, false⟩ = 0 := by
  decide

private theorem host_weight : ∀ txType ∈ [PointTxType.giftReceive, .livestreamGift, .videoCall,
    .subscription, .guardianPurchase, .payrollHostPayout, .payrollProcessingReward,
    .payrollTakeoverInventory, .withdrawalRefund, .livestreamStreakReward, .normalHostReward,
    .normalHostBasicReward, .royalHostReward], ∀ isHouse,
    pointWeight ⟨txType, .credit, .point, isHouse, false, false⟩ none = 0 := by
  decide

private theorem debit_weight : ∀ txType ∈ [PointTxType.withdrawal, .withdrawalEscrowSettled,
    .adjustment], ∀ isHouse,
    pointWeight ⟨txType, .debit, .point, isHouse, false, false⟩ none = 0 := by
  decide

private theorem commission_weight : ∀ hostTxType ∈ commissionTypes, ∀ isHouse,
    pointWeight ⟨.agentCommission, .credit, .point, isHouse, false, false⟩ (some hostTxType) =
      0 := by
  decide

section Shares

variable (db : LedgerDb) {house : HouseAccounts} (w : Window) {userId : UserId}

private theorem share_spent {txType : CoinTxType}
    (known : txType ∈ [CoinTxType.giftSend, .videoCall,
      .creatorSubscription, .guardianPurchase, .vipPurchase, .customGiftRequest])
    (customer : house.contains userId = false) (coins : Nat) (stamp : Stamp) :
    (debitCoin userId .coin txType coins stamp).share db house w = 0 := by
  unfold debitCoin Write.share
  dsimp only
  rw [customer, spent_weight txType known, Int.zero_mul, ite_self]

private theorem share_host {txType : PointTxType} (known : txType ∈ [PointTxType.giftReceive,
      .livestreamGift, .videoCall, .subscription, .guardianPurchase, .payrollHostPayout,
      .payrollProcessingReward, .payrollTakeoverInventory, .withdrawalRefund,
      .livestreamStreakReward, .normalHostReward, .normalHostBasicReward, .royalHostReward])
    (userId : UserId) (points : Nat) (stamp : Stamp) :
    (creditPoint userId txType points stamp).share db house w = 0 := by
  unfold creditPoint Write.share
  dsimp only
  rw [host_weight txType known, Int.zero_mul, ite_self]

private theorem share_debit {txType : PointTxType} (known : txType ∈ [PointTxType.withdrawal,
      .withdrawalEscrowSettled, .adjustment]) (userId : UserId) (points : Nat) (stamp : Stamp) :
    (debitPoint userId txType points stamp).share db house w = 0 := by
  unfold debitPoint Write.share
  dsimp only
  rw [debit_weight txType known, Int.zero_mul, ite_self]

private theorem share_credit {txType : CoinTxType} {currency : WalletCurrencyType}
    (balanced : coinWeight ⟨txType, .credit, currency, house.contains userId, false, false⟩ = 0)
    (coins : Nat) (stamp : Stamp) :
    (creditCoin userId currency txType coins stamp).share db house w = 0 := by
  unfold creditCoin Write.share
  dsimp only
  rw [balanced, Int.zero_mul, ite_self]

private theorem share_creditHost {txType : PointTxType}
    (known : txType ∈ [PointTxType.giftReceive, .livestreamGift, .videoCall]) (host : HostCredit) :
    ((creditHost txType host).map (Write.share db house w)).sum = 0 := by
  have own : (creditPoint host.hostUserId txType host.points host.stamp).share db house w = 0 := by
    refine share_host db w ?_ _ _ _
    exact (by decide : ∀ t ∈ [PointTxType.giftReceive, .livestreamGift, .videoCall], t ∈ _) _ known
  have eligible : txType ∈ commissionTypes :=
    (by decide : ∀ t ∈ [PointTxType.giftReceive, .livestreamGift, .videoCall],
      t ∈ commissionTypes) _ known
  rw [creditHost, List.map_cons, List.sum_cons, own, Int.zero_add]
  cases host.commission with
  | none => rfl
  | some commission =>
    have none : (commissionOn txType commission).share db house w = 0 := by
      unfold commissionOn Write.share
      dsimp only
      rw [commission_weight txType eligible, Int.zero_mul, ite_self]
    simp [none]

private theorem share_pair {a b : Time} (same : together w [a, b] = true) (amount : Int) :
    (if w.contains a then amount else 0) = if w.contains b then amount else 0 := by
  unfold together at same
  cases inside : w.contains a <;> cases other : w.contains b
  all_goals simp_all

private theorem share_two {first second : Write} {a b : Time} (amount : Int)
    (same : together w [a, b] = true)
    (one : first.share db house w = if w.contains a then amount else 0)
    (two : second.share db house w = -if w.contains b then amount else 0) :
    ([first, second].map (Write.share db house w)).sum = 0 := by
  rw [List.map_cons, List.map_singleton, List.sum_cons, List.sum_singleton, one, two,
    share_pair w same]
  omega

private theorem share_weight (wallet : Wallet) (direction : LedgerDirection) (txType : CoinTxType)
    {weight : Int} (weighs : coinWeight ⟨txType, direction, wallet.currencyType,
      house.contains wallet.userId, false, false⟩ = weight) (amount : Nat) (stamp : Stamp) :
    (Write.coin wallet direction txType amount stamp).share db house w =
      if w.contains stamp.createdAt then weight * amount else 0 := by
  unfold Write.share
  dsimp only
  rw [weighs]

private theorem share_opposite {stamp stamp' : Stamp} (wallet wallet' : Wallet)
    (txType txType' : CoinTxType) {weight : Int}
    (same : together w [stamp.createdAt, stamp'.createdAt] = true)
    (one : coinWeight ⟨txType, .debit, wallet.currencyType, house.contains wallet.userId, false,
      false⟩ = weight)
    (two : coinWeight ⟨txType', .credit, wallet'.currencyType, house.contains wallet'.userId,
      false, false⟩ = -weight) (amount : Nat) :
    ([Write.coin wallet .debit txType amount stamp,
      .coin wallet' .credit txType' amount stamp'].map (Write.share db house w)).sum = 0 := by
  refine share_two db w (weight * amount) same
    (share_weight db w wallet .debit txType one amount stamp)
    ((share_weight db w wallet' .credit txType' two amount stamp').trans ?_)
  rw [Int.neg_mul]
  split
  · rfl
  · rfl

private theorem game_weight (isHouse : Bool) :
    coinWeight ⟨.gameWagerOut, .debit, .diamond, isHouse, false, false⟩ = 1 ∧
      coinWeight ⟨.gameWagerIn, .credit, .diamond, isHouse, false, false⟩ = -1 ∧
      coinWeight ⟨.gameResultOut, .debit, .diamond, isHouse, false, false⟩ = 1 ∧
      coinWeight ⟨.gameResultIn, .credit, .diamond, isHouse, false, false⟩ = -1 ∧
      coinWeight ⟨.gameRefundOut, .debit, .diamond, isHouse, false, false⟩ = 1 ∧
      coinWeight ⟨.gameRefundIn, .credit, .diamond, isHouse, false, false⟩ = -1 := by
  revert isHouse
  decide

private theorem diamond_weight (isHouse : Bool) :
    coinWeight ⟨.diamondPurchaseIn, .credit, .diamond, isHouse, false, false⟩ =
        -coinWeight ⟨.diamondPurchaseOut, .debit, .coin, isHouse, false, false⟩ ∧
      coinWeight ⟨.diamondRedeemIn, .credit, .coin, isHouse, false, false⟩ =
        -coinWeight ⟨.diamondRedeemOut, .debit, .diamond, isHouse, false, false⟩ := by
  revert isHouse
  decide

private theorem together_comm {a b : Time} : together w [a, b] = together w [b, a] := by
  simp [together, Bool.and_comm]

private theorem shares_game (kind : SettlementKind) (userId gameHouseUserId : UserId)
    (diamonds : Nat) {userStamp houseStamp : Stamp}
    (same : together w [userStamp.createdAt, houseStamp.createdAt] = true) :
    ((gamePair kind userId gameHouseUserId diamonds userStamp houseStamp).map
      (Write.share db house w)).sum = 0 := by
  have user := game_weight (house.contains userId)
  have other := game_weight (house.contains gameHouseUserId)
  cases kind with
  | bet =>
    exact share_opposite db w ⟨userId, .diamond⟩ ⟨gameHouseUserId, .diamond⟩ .gameWagerOut
      .gameWagerIn same user.1 other.2.1 diamonds
  | result =>
    exact share_opposite db w ⟨gameHouseUserId, .diamond⟩ ⟨userId, .diamond⟩ .gameResultOut
      .gameResultIn (together_comm w ▸ same) other.2.2.1 user.2.2.2.1 diamonds
  | refund =>
    exact share_opposite db w ⟨gameHouseUserId, .diamond⟩ ⟨userId, .diamond⟩ .gameRefundOut
      .gameRefundIn (together_comm w ▸ same) other.2.2.2.2.1 user.2.2.2.2.2 diamonds

/-! #### Transfers of trading coins -/

private theorem together_three {a b c : Time} (same : together w [a, b, c] = true) :
    ∃ inside, w.contains a = inside ∧ w.contains b = inside ∧ w.contains c = inside := by
  unfold together at same
  refine ⟨w.contains a, rfl, ?_⟩
  cases first : w.contains a <;> cases second : w.contains b <;> cases third : w.contains c
  all_goals simp_all

/-- An admin cannot classify a flow as internal. -/
def NeverInternal (db : LedgerDb) : Prop :=
  ∀ id, db.classification .coinTradingTransfer id ≠ some .internal

/-- A row of a customer weighs 1, a row of the house nothing. -/
private def customerWeight (house : HouseAccounts) (userId : UserId) : Int :=
  if house.contains userId then 0 else 1

private theorem transfer_weight (isHouse personal : Bool) :
    coinWeight ⟨.tradingTransferOut, .debit, .tradingCoin, isHouse, false, false⟩ =
        (if isHouse then 0 else 1) ∧
      coinWeight ⟨.tradingTransferIn, .credit, recipientWalletType personal, isHouse, false,
        false⟩ = -(if isHouse then 0 else 1) ∧
      coinWeight ⟨.tradingTransferReversal, .debit, recipientWalletType personal, isHouse, false,
        false⟩ = (if isHouse then 0 else 1) ∧
      coinWeight ⟨.tradingTransferReversal, .credit, .tradingCoin, isHouse, false, false⟩ =
        -(if isHouse then 0 else 1) := by
  revert isHouse personal
  decide

private theorem flowKind_cases {db : LedgerDb} (never : NeverInternal db) {t : CoinTradingTransfer}
    (outside : house.contains t.recipientUserId = false) :
    coinFlowKind db house t = .sale ∨ coinFlowKind db house t = .promo ∨
      coinFlowKind db house t = .writeOff := by
  have not := never t.id
  unfold coinFlowKind effectiveClassification
  rw [outside]
  cases stored : db.classification .coinTradingTransfer t.id with
  | none => exact .inl rfl
  | some kind =>
    rw [stored] at not
    cases kind with
    | internal => exact absurd rfl not
    | sale => exact .inl rfl
    | promo => exact .inr (.inl rfl)
    | writeOff => exact .inr (.inr rfl)

private theorem flowKind_internal {t : CoinTradingTransfer}
    (inside : house.contains t.recipientUserId = true) : coinFlowKind db house t = .internal := by
  unfold coinFlowKind effectiveClassification
  rw [if_pos inside]

private theorem transferUnits_new {db : LedgerDb} (never : NeverInternal db)
    {t : CoinTradingTransfer} (fresh : t.reversedAt = none) :
    transferUnits db house w t = if w.contains t.createdAt then
      (customerWeight house t.recipientUserId - customerWeight house t.senderAgentUserId) *
        t.tradingCoinsDebited else 0 := by
  unfold transferUnits createdIn customerWeight
  rw [fresh]
  cases recipient : house.contains t.recipientUserId with
  | true =>
    rw [flowKind_internal db recipient]
    cases house.contains t.senderAgentUserId <;> cases w.contains t.createdAt
    all_goals simp
  | false =>
    rcases flowKind_cases never recipient with kind | kind | kind
    all_goals
      rw [kind]
      cases house.contains t.senderAgentUserId <;> cases w.contains t.createdAt
    all_goals simp

private theorem shares_transfer {db : LedgerDb} (never : NeverInternal db) (id : Nat)
    (senderAgentUserId recipientUserId : UserId) (personal : Bool) (tradingCoins : Nat)
    {senderStamp recipientStamp : Stamp} {createdAt : Time}
    (same : together w [senderStamp.createdAt, recipientStamp.createdAt, createdAt] = true) :
    ([debitCoin senderAgentUserId .tradingCoin .tradingTransferOut tradingCoins senderStamp,
      creditCoin recipientUserId (recipientWalletType personal) .tradingTransferIn tradingCoins
        recipientStamp,
      .transfer ⟨id, senderAgentUserId, recipientUserId, tradingCoins, createdAt, none⟩].map
        (Write.share db house w)).sum = 0 := by
  have out := share_weight db w ⟨senderAgentUserId, .tradingCoin⟩ .debit .tradingTransferOut
    (transfer_weight (house.contains senderAgentUserId) personal).1 tradingCoins senderStamp
  have into := share_weight db w ⟨recipientUserId, recipientWalletType personal⟩ .credit
    .tradingTransferIn (transfer_weight (house.contains recipientUserId) personal).2.1 tradingCoins
    recipientStamp
  have units := @transferUnits_new house w db never
    ⟨id, senderAgentUserId, recipientUserId, tradingCoins, createdAt, none⟩ rfl
  obtain ⟨inside, atSender, atRecipient, atRow⟩ := together_three w same
  have shared : (Write.transfer ⟨id, senderAgentUserId, recipientUserId, tradingCoins, createdAt,
      none⟩).share db house w = _ := units
  rw [List.map_cons, List.map_cons, List.map_singleton, List.sum_cons, List.sum_cons,
    List.sum_singleton, shared, debitCoin, creditCoin, out, into, atSender, atRecipient, atRow]
  unfold customerWeight
  cases inside with
  | false => rfl
  | true =>
    simp only [if_true]
    ring

/-! #### Every other operation -/

private theorem store_weight :
    coinWeight ⟨.storeItemPurchase, .debit, .coin, false, false, false⟩ = 1 ∧
      coinWeight ⟨.vipMembershipPurchase, .debit, .coin, false, false, false⟩ = 1 := by
  decide

private theorem exchange_weight :
    pointWeight ⟨.transferOut, .debit, .point, false, false, false⟩ none = 0 ∧
      coinWeight ⟨.tradingExchangeFromPoints, .credit, .tradingCoin, false, false, false⟩ = 0 ∧
      coinWeight ⟨.pointExchangeToCoins, .credit, .coin, false, false, false⟩ = 0 := by
  decide

private theorem refund_weight :
    coinWeight ⟨.giftRefund, .credit, .coin, false, false, false⟩ = 0 ∧
      coinWeight ⟨.customGiftRefund, .credit, .coin, false, false, false⟩ = 0 := by
  decide

private theorem funding_weight (isHouse : Bool) :
    coinWeight ⟨.platformReward, .credit, .coin, isHouse, false, false⟩ = 0 ∧
      coinWeight ⟨.topup, .credit, .coin, isHouse, false, false⟩ = 0 ∧
      coinWeight ⟨.tradingTopup, .credit, .tradingCoin, isHouse, false, false⟩ = 0 := by
  revert isHouse
  decide

private theorem shares_exchange (customer : house.contains userId = false) (isAgent : Bool)
    (points coins : Nat) (pointStamp coinStamp : Stamp) :
    ([debitPoint userId .transferOut points pointStamp,
      if isAgent then creditCoin userId .tradingCoin .tradingExchangeFromPoints coins coinStamp
      else creditCoin userId .coin .pointExchangeToCoins coins coinStamp].map
        (Write.share db house w)).sum = 0 := by
  have out : (debitPoint userId .transferOut points pointStamp).share db house w = 0 := by
    unfold debitPoint Write.share
    dsimp only
    rw [customer, exchange_weight.1, Int.zero_mul, ite_self]
  rw [List.map_cons, List.map_singleton, List.sum_cons, List.sum_singleton, out, Int.zero_add]
  cases isAgent with
  | true => exact share_credit db w (customer.symm ▸ exchange_weight.2.1) coins coinStamp
  | false => exact share_credit db w (customer.symm ▸ exchange_weight.2.2) coins coinStamp

private theorem shares_purchase {txType : CoinTxType} (customer : house.contains userId = false)
    (weighs : coinWeight ⟨txType, .debit, .coin, false, false, false⟩ = 1) (coins : Nat)
    {stamp : Stamp} {row : Write} {createdAt : Time}
    (same : together w [stamp.createdAt, createdAt] = true)
    (counted : row.share db house w = -if w.contains createdAt then (coins : Int) else 0) :
    ([debitCoin userId .coin txType coins stamp, row].map (Write.share db house w)).sum = 0 := by
  have own : coinWeight ⟨txType, .debit, .coin, house.contains userId, false, false⟩ = 1 := by
    rw [customer]
    exact weighs
  have leg := share_weight db w ⟨userId, .coin⟩ .debit txType own coins stamp
  rw [Int.one_mul] at leg
  exact share_two db w (coins : Int) same leg counted

end Shares

private theorem sum_one (share : Write → Int) (write : Write) (none : share write = 0) :
    ([write].map share).sum = 0 := by
  rw [List.map_singleton, List.sum_singleton, none]

private theorem sum_two (share : Write → Int) (first second : Write) (none : share first = 0)
    (none' : share second = 0) : ([first, second].map share).sum = 0 := by
  rw [List.map_cons, List.map_singleton, List.sum_cons, List.sum_singleton, none, none']
  rfl

private theorem sum_creditHost (share : Write → Int) (write : Write) (writes : List Write)
    (none : share write = 0) (rest : (writes.map share).sum = 0) :
    ((write :: writes).map share).sum = 0 := by
  rw [List.map_cons, List.sum_cons, none, rest]
  rfl

private theorem shares_eq_zero {db : LedgerDb} {house : HouseAccounts} {w : Window}
    (never : NeverInternal db) {op : Operation} (customers : ∀ u ∈ op.spenders, u ∉ house)
    (booked : op.Booked house w db = true) :
    (∀ id personal recovered recipientStamp senderStamp reversedAt,
      op ≠ .reverseTransfer id personal recovered recipientStamp senderStamp reversedAt) →
    ((op.writes db).map (Write.share db house w)).sum = 0 := by
  intro plain
  have customer : ∀ u ∈ op.spenders, house.contains u = false := by
    intro u member
    simpa using customers u member
  cases op with
  | sendGift senderId coins stamp host =>
    exact sum_creditHost _ _ _ (share_spent db w (by decide) (customer _ List.mem_cons_self) _ _)
      (share_creditHost db w (by decide) host)
  | sendLuckyGift senderId coins stamp reward rewardStamp host =>
    refine sum_creditHost _ _ _ (share_spent db w (by decide) (customer _ List.mem_cons_self) _ _) ?_
    exact sum_creditHost _ _ _ (share_credit db w (funding_weight _).1 reward rewardStamp)
      (share_creditHost db w (by decide) host)
  | refundGift senderId coins stamp =>
    have own := customer senderId List.mem_cons_self
    exact sum_one _ _ (share_credit db w (own.symm ▸ refund_weight.1) coins stamp)
  | chargeVideoCall callerId coins stamp host =>
    exact sum_creditHost _ _ _ (share_spent db w (by decide) (customer _ List.mem_cons_self) _ _)
      (share_creditHost db w (by decide) host)
  | subscribeCreator subscriberId coins stamp host =>
    exact sum_two _ _ _ (share_spent db w (by decide) (customer _ List.mem_cons_self) _ _)
      (share_host db w (by decide) _ _ _)
  | purchaseGuardian userId coins stamp host =>
    exact sum_two _ _ _ (share_spent db w (by decide) (customer _ List.mem_cons_self) _ _)
      (share_host db w (by decide) _ _ _)
  | purchaseStoreItem userId coins stamp createdAt =>
    exact shares_purchase db w (customer _ List.mem_cons_self) store_weight.1 coins booked rfl
  | purchaseVipMembership userId coins stamp purchase =>
    exact shares_purchase db w (customer _ List.mem_cons_self) store_weight.2 coins booked rfl
  | purchaseRareId userId coins stamp =>
    exact sum_one _ _ (share_spent db w (by decide) (customer _ List.mem_cons_self) _ _)
  | exchangePoints userId isAgent points pointStamp coins coinStamp =>
    exact shares_exchange db w (customer _ List.mem_cons_self) isAgent points coins pointStamp
      coinStamp
  | requestCustomGift userId coins stamp =>
    exact sum_one _ _ (share_spent db w (by decide) (customer _ List.mem_cons_self) _ _)
  | refundCustomGift userId coins stamp =>
    have own := customer userId List.mem_cons_self
    exact sum_one _ _ (share_credit db w (own.symm ▸ refund_weight.2) coins stamp)
  | createWithdrawal userId points stamp =>
    exact sum_one _ _ (share_debit db w (by decide) userId points stamp)
  | completePayroll agencyUserId payout payoutStamp reward rewardStamp =>
    exact sum_two _ _ _ (share_host db w (by decide) _ _ _) (share_host db w (by decide) _ _ _)
  | settleEscrow userId points stamp =>
    exact sum_one _ _ (share_debit db w (by decide) userId points stamp)
  | takeOverPayroll companyAgencyUserId inventory inventoryStamp reward rewardStamp =>
    exact sum_two _ _ _ (share_host db w (by decide) _ _ _) (share_host db w (by decide) _ _ _)
  | refundWithdrawal userId points stamp =>
    exact sum_one _ _ (share_host db w (by decide) userId points stamp)
  | reversePayroll agencyUserId payout payoutStamp reward rewardStamp =>
    exact sum_two _ _ _ (share_debit db w (by decide) _ _ _) (share_debit db w (by decide) _ _ _)
  | buyDiamonds userId coins coinStamp diamondStamp =>
    exact share_opposite db w ⟨userId, .coin⟩ ⟨userId, .diamond⟩ .diamondPurchaseOut
      .diamondPurchaseIn booked rfl (diamond_weight _).1 coins
  | redeemDiamonds userId diamonds diamondStamp coinStamp =>
    exact share_opposite db w ⟨userId, .diamond⟩ ⟨userId, .coin⟩ .diamondRedeemOut
      .diamondRedeemIn booked rfl (diamond_weight _).2 diamonds
  | settleGame userId gameHouseUserId kind diamonds userStamp houseStamp =>
    exact shares_game db w kind userId gameHouseUserId diamonds booked
  | streakReward userId points stamp =>
    exact sum_one _ _ (share_host db w (by decide) userId points stamp)
  | normalHostReward userId points stamp =>
    exact sum_one _ _ (share_host db w (by decide) userId points stamp)
  | normalHostBasicReward userId points stamp =>
    exact sum_one _ _ (share_host db w (by decide) userId points stamp)
  | royalHostReward userId points stamp =>
    exact sum_one _ _ (share_host db w (by decide) userId points stamp)
  | reverseCommission agencyUserId points stamp =>
    exact sum_one _ _ (share_debit db w (by decide) agencyUserId points stamp)
  | tradingTransfer id senderAgentUserId recipientUserId personal tradingCoins senderStamp
      recipientStamp createdAt =>
    exact shares_transfer w never id senderAgentUserId recipientUserId personal tradingCoins booked
  | reverseTransfer id personal recovered recipientStamp senderStamp reversedAt =>
    exact absurd rfl (plain id personal recovered recipientStamp senderStamp reversedAt)
  | topUp userId coins stamp =>
    exact sum_one _ _ (share_credit db w (funding_weight _).2.1 coins stamp)
  | topUpTrading userId tradingCoins stamp =>
    exact sum_one _ _ (share_credit db w (funding_weight _).2.2 tradingCoins stamp)

variable {stamp : Stamp}

private theorem adds_debitCoin {userId : UserId} {currency : WalletCurrencyType}
    {txType : CoinTxType} {coins : Nat} :
    (debitCoin userId currency txType coins stamp).Adds ↔ currency ≠ .point := Iff.rfl

private theorem adds_creditCoin {userId : UserId} {currency : WalletCurrencyType}
    {txType : CoinTxType} {coins : Nat} :
    (creditCoin userId currency txType coins stamp).Adds ↔ currency ≠ .point := Iff.rfl

private theorem adds_debitPoint {userId : UserId} {txType : PointTxType} {points : Nat}
    (earned : txType ≠ .agentCommission) :
    (debitPoint userId txType points stamp).Adds := fun commission => absurd commission earned

private theorem adds_creditPoint {userId : UserId} {txType : PointTxType} {points : Nat}
    (earned : txType ≠ .agentCommission) :
    (creditPoint userId txType points stamp).Adds := fun commission => absurd commission earned

private theorem adds_transfer {row : CoinTradingTransfer} :
    (Write.transfer row).Adds ↔ 0 ≤ row.tradingCoinsDebited := Iff.rfl

private theorem adds_storeItem {row : UserStoreItem} : (Write.storeItem row).Adds := trivial

private theorem adds_vipPurchase {row : Memberships.VipMembershipPurchase} :
    (Write.vipPurchase row).Adds :=
  trivial

private theorem adds_creditHost {txType : PointTxType} (earned : txType ≠ .agentCommission)
    (host : HostCredit) : ∀ write ∈ creditHost txType host, write.Adds := by
  unfold creditHost
  cases host.commission with
  | none => simp [adds_creditPoint earned]
  | some commission =>
    have tagged : (commissionOn txType commission).Adds := fun _ => rfl
    simp [adds_creditPoint earned, tagged]

private theorem adds_gamePair (kind : SettlementKind) (userId gameHouseUserId : UserId)
    (diamonds : Nat) (userStamp houseStamp : Stamp) :
    ∀ write ∈ gamePair kind userId gameHouseUserId diamonds userStamp houseStamp, write.Adds := by
  cases kind
  all_goals simp [gamePair, adds_debitCoin, adds_creditCoin]

private theorem coin_adds (personal : Bool) : recipientWalletType personal ≠ .point := by
  cases personal
  all_goals decide

private theorem writes_add {db : LedgerDb} {op : Operation}
    (plain : ∀ id personal recovered recipientStamp senderStamp reversedAt,
      op ≠ .reverseTransfer id personal recovered recipientStamp senderStamp reversedAt) :
    ∀ write ∈ op.writes db, write.Adds := by
  cases op with
  | reverseTransfer id personal recovered recipientStamp senderStamp reversedAt =>
    exact absurd rfl (plain id personal recovered recipientStamp senderStamp reversedAt)
  | sendGift senderId coins stamp host =>
    exact List.forall_mem_cons.mpr ⟨coin_adds true, adds_creditHost (by decide) host⟩
  | sendLuckyGift senderId coins stamp reward rewardStamp host =>
    exact List.forall_mem_cons.mpr ⟨coin_adds true,
      List.forall_mem_cons.mpr ⟨coin_adds true, adds_creditHost (by decide) host⟩⟩
  | chargeVideoCall callerId coins stamp host =>
    exact List.forall_mem_cons.mpr ⟨coin_adds true, adds_creditHost (by decide) host⟩
  | settleGame userId gameHouseUserId kind diamonds userStamp houseStamp =>
    exact adds_gamePair kind userId gameHouseUserId diamonds userStamp houseStamp
  | exchangePoints userId isAgent points pointStamp coins coinStamp =>
    cases isAgent
    all_goals simp [Operation.writes, adds_debitPoint, adds_creditCoin]
  | tradingTransfer id senderAgentUserId recipientUserId personal tradingCoins senderStamp
      recipientStamp createdAt =>
    simp [Operation.writes, adds_debitCoin, adds_creditCoin, adds_transfer, coin_adds]
  | purchaseStoreItem | purchaseVipMembership =>
    simp [Operation.writes, adds_debitCoin, adds_storeItem, adds_vipPurchase]
  | _ =>
    simp [Operation.writes, adds_debitCoin, adds_creditCoin, adds_debitPoint, adds_creditPoint]

/-! #### Reversals -/

private theorem transferUnits_reversed {db : LedgerDb} {house : HouseAccounts} (w : Window)
    (never : NeverInternal db) (fresh : t.reversedAt = none) {recovered : Nat} {reversedAt : Time}
    (settled : settles house w (coinFlowKind db house t) t recovered reversedAt = true) :
    transferUnits db house w { t with reversedAt := some reversedAt } +
        (if w.contains reversedAt then (customerWeight house t.recipientUserId -
          customerWeight house t.senderAgentUserId) * recovered else 0) =
      transferUnits db house w t := by
  have kind : coinFlowKind db house { t with reversedAt := some reversedAt } =
      coinFlowKind db house t := rfl
  unfold settles at settled
  unfold transferUnits createdIn customerWeight
  dsimp only
  rw [kind, fresh]
  cases sender : house.contains t.senderAgentUserId <;>
    cases recipient : house.contains t.recipientUserId
  · simp
  · simp only [sender, recipient, Bool.and_eq_true] at settled
    obtain ⟨same, full⟩ := settled
    cases created : w.contains t.createdAt <;> cases reversed : w.contains reversedAt
    all_goals simp [together, created, reversed] at same full ⊢
    all_goals omega
  · rcases flowKind_cases never recipient with own | own | own
    all_goals
      simp only [sender, recipient, own] at settled
      cases created : w.contains t.createdAt <;> cases reversed : w.contains reversedAt
    all_goals simp [own, created, reversed] at settled ⊢
    all_goals omega
  · rw [flowKind_internal db recipient]
    simp

private theorem sum_marked {transfers : List CoinTradingTransfer}
    (unique : (transfers.map (·.id)).Nodup) (member : t ∈ transfers)
    (units : CoinTradingTransfer → Int) (reversedAt : Time) :
    ((transfers.map (LedgerDb.markReversed t.id reversedAt)).map units).sum =
      (transfers.map units).sum - units t + units { t with reversedAt := some reversedAt } := by
  have parts := Keyed.perm_remove unique member
  have before := (parts.map units).sum_eq
  have after := ((parts.map (LedgerDb.markReversed t.id reversedAt)).map units).sum_eq
  have rest : (transfers.filter fun other => decide (other.id ≠ t.id)).map
      (LedgerDb.markReversed t.id reversedAt) =
      transfers.filter fun other => decide (other.id ≠ t.id) := by
    conv_rhs => rw [← List.map_id (transfers.filter fun other => decide (other.id ≠ t.id))]
    refine List.map_congr_left fun other kept => if_neg ?_
    simpa using (List.mem_filter.mp kept).2
  have own : LedgerDb.markReversed t.id reversedAt t = { t with reversedAt := some reversedAt } :=
    if_pos rfl
  rw [List.map_cons, List.sum_cons] at before
  rw [List.map_cons, rest, List.map_cons, List.sum_cons, own] at after
  omega

private theorem imbalance_reverseTransfer (db : LedgerDb) (house : HouseAccounts) (w : Window)
    (unique : (db.coinTradingTransfers.map (·.id)).Nodup) (member : t ∈ db.coinTradingTransfers)
    (reversedAt : Time) :
    imbalance (db.write (.reverseTransfer t.id reversedAt)) house w = imbalance db house w -
      transferUnits db house w t +
        transferUnits db house w { t with reversedAt := some reversedAt } := by
  have marked := sum_marked unique member (transferUnits db house w) reversedAt
  change sumWhere _ _ db.coin + sumWhere _ _ db.point +
    ((db.coinTradingTransfers.map (LedgerDb.markReversed t.id reversedAt)).map
      (transferUnits db house w)).sum - sumWhere _ _ db.storeItems -
    sumWhere _ _ db.vipPurchases = _
  rw [marked]
  unfold imbalance
  omega

private theorem transfers_coin (db : LedgerDb) (wallet : Wallet) (direction : LedgerDirection)
    (txType : CoinTxType) (amount : Nat) (stamp : Stamp) :
    (db.write (.coin wallet direction txType amount stamp)).coinTradingTransfers =
      db.coinTradingTransfers := by
  unfold LedgerDb.write
  dsimp only
  split
  · rfl
  · rfl

private theorem findReversible_some {db : LedgerDb} {id : Nat}
    (found : db.findReversible id = some t) :
    t ∈ db.coinTradingTransfers ∧ t.id = id ∧ t.reversedAt = none := by
  refine ⟨List.mem_of_find?_eq_some found, ?_⟩
  simpa using @List.find?_some _ (fun t : CoinTradingTransfer => t.id = id && t.reversedAt.isNone) _
    _ found

private theorem imbalance_reversal {db : LedgerDb} {house : HouseAccounts} {w : Window}
    (never : NeverInternal db) (unique : (db.coinTradingTransfers.map (·.id)).Nodup) (id : Nat)
    (personal : Bool) (recovered : Nat) {recipientStamp senderStamp : Stamp} {reversedAt : Time}
    (booked : (Operation.reverseTransfer id personal recovered recipientStamp senderStamp
      reversedAt).Booked house w db = true) :
    imbalance (db.perform (.reverseTransfer id personal recovered recipientStamp senderStamp
      reversedAt)) house w = imbalance db house w := by
  unfold LedgerDb.perform Operation.writes
  unfold Operation.Booked at booked
  dsimp only at booked ⊢
  cases found : db.findReversible id with
  | none => rfl
  | some t =>
    rw [found] at booked
    obtain ⟨same, settled⟩ := Bool.and_eq_true_iff.mp booked
    obtain ⟨member, rfl, fresh⟩ := findReversible_some found
    obtain ⟨inside, atRecipient, atSender, atRow⟩ := together_three w same
    have units := transferUnits_reversed w never fresh settled
    have out := share_weight db w ⟨t.recipientUserId, recipientWalletType personal⟩ .debit
      .tradingTransferReversal (transfer_weight (house.contains t.recipientUserId) personal).2.2.1
      recovered recipientStamp
    have back := share_weight db w ⟨t.senderAgentUserId, .tradingCoin⟩ .credit
      .tradingTransferReversal (transfer_weight (house.contains t.senderAgentUserId)
      personal).2.2.2 recovered senderStamp
    -- the two rows first, then the mark on the transfer
    let debit := debitCoin t.recipientUserId (recipientWalletType personal)
      .tradingTransferReversal recovered recipientStamp
    let credit := creditCoin t.senderAgentUserId .tradingCoin .tradingTransferReversal recovered
      senderStamp
    have transfers : ((db.write debit).write credit).coinTradingTransfers =
        db.coinTradingTransfers :=
      (transfers_coin _ _ _ _ _ _).trans (transfers_coin _ _ _ _ _ _)
    have first := @imbalance_write db house w debit (coin_adds personal)
    have second := @imbalance_write (db.write debit) house w credit (coin_adds false)
    have mark := imbalance_reverseTransfer ((db.write debit).write credit) house w
      (transfers.symm ▸ unique) (transfers.symm ▸ member) reversedAt
    rw [transferUnits_write, transferUnits_write, second, share_write, first] at mark
    have legs : debit.share db house w + credit.share db house w =
        if w.contains reversedAt then (customerWeight house t.recipientUserId -
          customerWeight house t.senderAgentUserId) * recovered else 0 := by
      refine (congrArg₂ (· + ·) out back).trans ?_
      rw [atRecipient, atSender, atRow]
      cases inside with
      | false => rfl
      | true =>
        unfold customerWeight
        simp only [if_true]
        ring
    change imbalance (((db.write debit).write credit).write (.reverseTransfer t.id reversedAt))
      house w = _
    rw [mark]
    omega

/-! ### Runs -/

/-- What every run keeps besides the balance of the two sides. -/
private structure Orderly (db : LedgerDb) : Prop where
  never : NeverInternal db
  tagged : Tagged db
  none : db.agentPointTransfers = []

private theorem orderly_write {db : LedgerDb} (orderly : Orderly db) {write : Write}
    (adds : write.Adds ∨ ∃ id reversedAt, write = .reverseTransfer id reversedAt) :
    Orderly (db.write write) := by
  obtain ⟨classification, agent⟩ := write_rest db write
  refine ⟨fun id => ?_, ?_, agent.trans orderly.none⟩
  · rw [classification]
    exact orderly.never id
  · cases write with
    | point userId direction txType amount hostTxType stamp =>
      have tag : txType = .agentCommission → hostTxType.isSome = true := by
        rcases adds with adds | ⟨id, reversedAt, same⟩
        · exact adds
        · cases same
      unfold LedgerDb.write
      dsimp only
      split
      next ok =>
        intro e member
        rcases List.mem_append.mp member with old | last
        · exact orderly.tagged e old
        · rw [List.mem_singleton.mp last]
          exact tag
      next => exact orderly.tagged
    | coin wallet direction txType amount stamp =>
      unfold LedgerDb.write
      dsimp only
      split
      next => exact orderly.tagged
      next => exact orderly.tagged
    | transfer row =>
      unfold LedgerDb.write
      dsimp only
      split
      next => exact orderly.tagged
      next => exact orderly.tagged
    | storeItem row => exact orderly.tagged
    | vipPurchase row => exact orderly.tagged
    | reverseTransfer id reversedAt => exact orderly.tagged

private theorem orderly_writeAll {writes : List Write} : ∀ {db : LedgerDb}, Orderly db →
    (∀ write ∈ writes, write.Adds ∨ ∃ id reversedAt, write = .reverseTransfer id reversedAt) →
    Orderly (db.writeAll writes) := by
  induction writes with
  | nil => exact fun orderly _ => orderly
  | cons write writes ih =>
    intro db orderly allowed
    exact ih (orderly_write orderly (allowed write List.mem_cons_self))
      fun other member => allowed other (List.mem_cons_of_mem _ member)

private theorem writes_allowed (db : LedgerDb) (op : Operation) :
    ∀ write ∈ op.writes db,
      write.Adds ∨ ∃ id reversedAt, write = .reverseTransfer id reversedAt := by
  by_cases reversal : ∃ id personal recovered recipientStamp senderStamp reversedAt,
      op = .reverseTransfer id personal recovered recipientStamp senderStamp reversedAt
  · obtain ⟨id, personal, recovered, recipientStamp, senderStamp, reversedAt, rfl⟩ := reversal
    unfold Operation.writes
    dsimp only
    cases db.findReversible id with
    | none => simp
    | some t =>
      refine List.forall_mem_cons.mpr ⟨.inl (coin_adds personal), List.forall_mem_cons.mpr
        ⟨.inl (coin_adds false), List.forall_mem_cons.mpr ⟨.inr ⟨_, _, rfl⟩, by simp⟩⟩⟩
  · exact fun write member => .inl (writes_add (fun id personal recovered recipientStamp
      senderStamp reversedAt same => reversal ⟨_, _, _, _, _, _, same⟩) write member)

private theorem imbalance_perform {db : LedgerDb} {house : HouseAccounts} {w : Window}
    (orderly : Orderly db) (unique : (db.coinTradingTransfers.map (·.id)).Nodup) {op : Operation}
    (customers : ∀ u ∈ op.spenders, u ∉ house) (booked : op.Booked house w db = true) :
    imbalance (db.perform op) house w = imbalance db house w := by
  by_cases reversal : ∃ id personal recovered recipientStamp senderStamp reversedAt,
      op = .reverseTransfer id personal recovered recipientStamp senderStamp reversedAt
  · obtain ⟨id, personal, recovered, recipientStamp, senderStamp, reversedAt, rfl⟩ := reversal
    exact imbalance_reversal orderly.never unique id personal recovered booked
  · have plain : ∀ id personal recovered recipientStamp senderStamp reversedAt,
        op ≠ .reverseTransfer id personal recovered recipientStamp senderStamp reversedAt :=
      fun _ _ _ _ _ _ same => reversal ⟨_, _, _, _, _, _, same⟩
    rw [LedgerDb.perform, imbalance_writeAll (writes_add plain),
      shares_eq_zero orderly.never customers booked plain, Int.add_zero]

private theorem imbalance_run {house : HouseAccounts} {w : Window} {ops : List Operation} :
    ∀ {db : LedgerDb}, Orderly db → (db.run ops).Stamped →
      (∀ op ∈ ops, ∀ u ∈ op.spenders, u ∉ house) → BookedRun house w db ops = true →
      imbalance (db.run ops) house w = imbalance db house w ∧ Orderly (db.run ops) := by
  induction ops with
  | nil => exact fun orderly _ _ _ => ⟨rfl, orderly⟩
  | cons op ops ih =>
    intro db orderly stamped customers booked
    obtain ⟨first, rest⟩ := Bool.and_eq_true_iff.mp booked
    have before : db.Stamped := LedgerDb.stamped_of_run stamped
    have own := imbalance_perform orderly before.transfers (customers op List.mem_cons_self) first
    have next := ih (orderly_writeAll orderly (writes_allowed db op)) stamped
      (fun other member => customers other (List.mem_cons_of_mem _ member)) rest
    exact ⟨next.1.trans own, next.2⟩

private theorem cutOff_eq_zero_iff (nets : List (Window → Int)) (w : Window) :
    0 ≤ (nets.map fun net => clamp (net w) - net w).sum ∧
      ((nets.map fun net => clamp (net w) - net w).sum = 0 ↔ ∀ net ∈ nets, 0 ≤ net w) := by
  induction nets with
  | nil => simp
  | cons net nets ih =>
    obtain ⟨nonneg, iff⟩ := ih
    have own : clamp (net w) = if net w < 0 then 0 else net w := rfl
    rw [List.map_cons, List.sum_cons, List.forall_mem_cons, ← iff, own]
    split
    · omega
    · omega

/-- After every run of booked operations of customers, the identity closes for a period exactly if
none of the sums behind the lines that are floored at zero is negative. -/
theorem reconciliation_closes_iff {isAgent : UserId → Bool}
    {classification : TreasuryFlowKind → Nat → Option TreasuryFlowClassificationType}
    {cash : List CashRow} {ops : List Operation} {house : HouseAccounts} {start stop : Time}
    (ordered : start ≤ stop)
    (never : ∀ id, classification .coinTradingTransfer id ≠ some .internal)
    (stamped : ((LedgerDb.initial isAgent classification cash).run ops).Stamped)
    (customers : ∀ op ∈ ops, ∀ u ∈ op.spenders, u ∉ house)
    (booked : BookedRun house (period start stop) (.initial isAgent classification cash) ops =
      true) :
    reconciliationDelta ((LedgerDb.initial isAgent classification cash).run ops) house start stop =
        0 ↔
      ∀ net ∈ clampedNets ((LedgerDb.initial isAgent classification cash).run ops) house,
        0 ≤ net (period start stop) := by
  have begins : Orderly (.initial isAgent classification cash) := by
    refine ⟨never, ?_, rfl⟩
    intro e member
    cases member
  have empty : imbalance (.initial isAgent classification cash) house (period start stop) = 0 := by
    simp [imbalance, LedgerDb.initial]
  obtain ⟨balanced, orderly⟩ := imbalance_run begins stamped customers booked
  have delta := reconciliationDelta_eq (LedgerDb.run_chained stamped) orderly.tagged orderly.none
    ordered house
  have floors := (cutOff_eq_zero_iff (clampedNets ((LedgerDb.initial isAgent classification
    cash).run ops) house) (period start stop)).2
  rw [delta, balanced, empty, ← floors, cutOff]
  omega

private theorem stamped_of_pairwise {db : LedgerDb}
    (coin : db.coin.Pairwise fun e next => sortKey e < sortKey next)
    (point : db.point.Pairwise fun e next => sortKey e < sortKey next)
    (transfers : (db.coinTradingTransfers.map (·.id)).Nodup) : db.Stamped :=
  ⟨fun _ => coin.filter _, fun _ => point.filter _, transfers⟩

/-- Without any account of the admins or of the cash journal. -/
def plainLedger (ops : List Operation) : LedgerDb :=
  (LedgerDb.initial (fun _ => false) (fun _ _ => none) []).run ops

/-- The treasury sells to a customer, who sends a gift, plays and asks for a custom gift. -/
def mixedRun : List Operation := [
  .topUpTrading 9 5300 ⟨0, 0, .giftPoint 0⟩,
  .tradingTransfer 1 9 1 true 5000 ⟨1, 1, .giftPoint 1⟩ ⟨2, 1, .giftPoint 2⟩ 1,
  .sendGift 1 1000 ⟨3, 2, .giftPoint 3⟩
    ⟨2, 600, ⟨4, 2, .giftPoint 4⟩, some ⟨3, 60, ⟨5, 2, .giftPoint 5⟩⟩⟩,
  .buyDiamonds 1 500 ⟨6, 3, .giftPoint 6⟩ ⟨7, 3, .giftPoint 7⟩,
  .settleGame 1 8 .bet 200 ⟨8, 4, .giftPoint 8⟩ ⟨9, 4, .giftPoint 9⟩,
  .requestCustomGift 1 1000 ⟨10, 5, .giftPoint 10⟩,
  .tradingTransfer 2 9 1 true 300 ⟨11, 5, .giftPoint 11⟩ ⟨12, 5, .giftPoint 12⟩ 5,
  .reverseTransfer 2 true 300 ⟨13, 6, .giftPoint 13⟩ ⟨14, 6, .giftPoint 14⟩ 6]

theorem reconciliation_closes_mixed :
    reconciliationDelta (plainLedger mixedRun) [8, 9] 0 7 = 0 :=
  (reconciliation_closes_iff (by decide) (by simp)
    (stamped_of_pairwise (by decide) (by decide) (by decide))
    (by decide) (by decide)).mpr (by decide)

/-- A customer tops up and asks for a custom gift, which is refused a period later. -/
def customGiftRefused : List Operation := [
  .topUp 1 5000 ⟨1, 0, .giftPoint 1⟩, .requestCustomGift 1 1000 ⟨2, 1, .giftPoint 2⟩,
  .refundCustomGift 1 1000 ⟨3, 3, .giftPoint 3⟩]

theorem reconciliation_not_closes :
    (plainLedger customGiftRefused).Stamped ∧
      (∀ op ∈ customGiftRefused, ∀ u ∈ op.spenders, u ∉ [8, 9]) ∧
      reconciliationDelta (plainLedger customGiftRefused) [8, 9] 2 4 = -1000 :=
  ⟨stamped_of_pairwise (by decide) (by decide) (by decide),
    by decide, by decide⟩

end OlNode.MasterLedger
