import OlNode.MasterLedger.Float

/-!
# The rows the money operations write

An operation is given by what it decides: parties, amounts and the instants of its rows. Its writes
are listed in the order of the source. A row of a wallet gets the balance of the wallet's last row
plus or less its amount, so the chain of every wallet is intact if its rows are stamped in order.

Whether an operation is refused is left out: a run is a list of operations that were not.
-/
namespace OlNode.MasterLedger

open History Totals CompanyCash
open Memberships (VipMembershipPurchase)

/-- What a row has besides its content. -/
structure Stamp where
  id : Nat
  createdAt : Time
  idempotencyKey : LedgerKey

inductive Write where
  | coin (wallet : Wallet) (direction : LedgerDirection) (txType : CoinTxType) (amount : Nat)
      (stamp : Stamp)
  | point (userId : UserId) (direction : LedgerDirection) (txType : PointTxType) (amount : Nat)
      (hostTxType : Option PointTxType) (stamp : Stamp)
  | storeItem (row : UserStoreItem)
  | vipPurchase (row : VipMembershipPurchase)
  | transfer (row : CoinTradingTransfer)
  | reverseTransfer (id : Nat) (reversedAt : Time)

/-! ### Writes -/

section Append

variable {TxType : Type}

def tailOf (legs : List (Leg TxType)) (wallet : Wallet) : Int :=
  ((latest (legs.filter fun e => decide (e.wallet = wallet))).map (·.balanceAfter)).getD 0

def nextLeg (carries : TxType → Bool) (legs : List (Leg TxType)) (wallet : Wallet)
    (direction : LedgerDirection) (txType : TxType) (amount : Nat)
    (hostTxType : Option PointTxType) (stamp : Stamp) : Leg TxType where
  wallet := wallet
  direction := direction
  txType := txType
  amount := amount
  balanceAfter := expectedBalanceAfter (tailOf legs wallet) direction amount (carries txType)
  idempotencyKey := stamp.idempotencyKey
  id := stamp.id
  createdAt := stamp.createdAt
  hostTxType := hostTxType

theorem nextLeg_pos {carries : TxType → Bool} {legs : List (Leg TxType)} {wallet : Wallet}
    {direction : LedgerDirection} {txType : TxType} {amount : Nat}
    {hostTxType : Option PointTxType} {stamp : Stamp} (positive : 0 < amount) :
    0 < (nextLeg carries legs wallet direction txType amount hostTxType stamp).amount :=
  Int.natCast_pos.mpr positive

end Append

namespace LedgerDb

variable (db : LedgerDb)

def getOrCreate (wallet : Wallet) : List Wallet := db.wallets.insert wallet

def appendCoin (e : Leg CoinTxType) (kind : e.wallet.currencyType ≠ .point)
    (positive : 0 < e.amount) : LedgerDb :=
  { db with
    wallets := db.getOrCreate e.wallet
    coin := db.coin ++ [e]
    wallets_nodup := db.wallets_nodup.insert
    coin_wallet := by
      intro other member
      rcases List.mem_append.mp member with old | last
      · exact ⟨List.mem_insert_of_mem (db.coin_wallet other old).1, (db.coin_wallet other old).2⟩
      · obtain rfl := List.mem_singleton.mp last
        exact ⟨List.mem_insert_self, kind⟩
    point_wallet := fun other member =>
      ⟨List.mem_insert_of_mem (db.point_wallet other member).1, (db.point_wallet other member).2⟩
    coin_pos := by
      intro other member
      rcases List.mem_append.mp member with old | last
      · exact db.coin_pos other old
      · obtain rfl := List.mem_singleton.mp last
        exact positive }

def appendPoint (e : Leg PointTxType) (kind : e.wallet.currencyType = .point)
    (positive : 0 < e.amount) : LedgerDb :=
  { db with
    wallets := db.getOrCreate e.wallet
    point := db.point ++ [e]
    wallets_nodup := db.wallets_nodup.insert
    point_wallet := by
      intro other member
      rcases List.mem_append.mp member with old | last
      · exact ⟨List.mem_insert_of_mem (db.point_wallet other old).1, (db.point_wallet other old).2⟩
      · obtain rfl := List.mem_singleton.mp last
        exact ⟨List.mem_insert_self, kind⟩
    coin_wallet := fun other member =>
      ⟨List.mem_insert_of_mem (db.coin_wallet other member).1, (db.coin_wallet other member).2⟩
    point_pos := by
      intro other member
      rcases List.mem_append.mp member with old | last
      · exact db.point_pos other old
      · obtain rfl := List.mem_singleton.mp last
        exact positive }

def appendTransfer (t : CoinTradingTransfer) (positive : 0 < t.tradingCoinsDebited) : LedgerDb :=
  { db with
    coinTradingTransfers := db.coinTradingTransfers ++ [t]
    transfer_pos := by
      intro other member
      rcases List.mem_append.mp member with old | last
      · exact db.transfer_pos other old
      · obtain rfl := List.mem_singleton.mp last
        exact positive }

def markReversed (id : Nat) (reversedAt : Time) (t : CoinTradingTransfer) : CoinTradingTransfer :=
  if t.id = id then { t with reversedAt := some reversedAt } else t

def reverseTransfer (id : Nat) (reversedAt : Time) : LedgerDb :=
  { db with
    coinTradingTransfers := db.coinTradingTransfers.map (markReversed id reversedAt)
    transfer_pos := by
      intro t member
      obtain ⟨old, oldMember, rfl⟩ := List.mem_map.mp member
      have positive := db.transfer_pos old oldMember
      unfold markReversed
      split
      · exact positive
      · exact positive }

def write : Write → LedgerDb
  | .coin wallet direction txType amount stamp =>
    if ok : wallet.currencyType ≠ .point ∧ 0 < amount then
      db.appendCoin (nextLeg (fun _ => false) db.coin wallet direction txType amount none stamp)
        ok.1 (nextLeg_pos ok.2)
    else db
  | .point userId direction txType amount hostTxType stamp =>
    if ok : 0 < amount then
      db.appendPoint (nextLeg pointLedgerBalanceCarriesForward db.point ⟨userId, .point⟩ direction
        txType amount hostTxType stamp) rfl (nextLeg_pos ok)
    else db
  | .storeItem row => { db with storeItems := db.storeItems ++ [row] }
  | .vipPurchase row => { db with vipPurchases := db.vipPurchases ++ [row] }
  | .transfer row =>
    if ok : 0 < row.tradingCoinsDebited then db.appendTransfer row ok else db
  | .reverseTransfer id reversedAt => db.reverseTransfer id reversedAt

def writeAll (writes : List Write) : LedgerDb := writes.foldl write db

end LedgerDb

/-! ### Operations -/

structure AgencyCommission where
  agencyUserId : UserId
  points : Nat
  stamp : Stamp

/-- What the host gets and the commission on it. -/
structure HostCredit where
  hostUserId : UserId
  points : Nat
  stamp : Stamp
  commission : Option AgencyCommission := none

inductive SettlementKind where
  | bet | result | refund
  deriving DecidableEq

/-- The first parties are the customers whose coins or points are spent. -/
inductive Operation where
  | sendGift (senderId : UserId) (coins : Nat) (stamp : Stamp) (host : HostCredit)
  | sendLuckyGift (senderId : UserId) (coins : Nat) (stamp : Stamp) (reward : Nat)
      (rewardStamp : Stamp) (host : HostCredit)
  | refundGift (senderId : UserId) (coins : Nat) (stamp : Stamp)
  | chargeVideoCall (callerId : UserId) (coins : Nat) (stamp : Stamp) (host : HostCredit)
  | subscribeCreator (subscriberId : UserId) (coins : Nat) (stamp : Stamp) (host : HostCredit)
  | purchaseGuardian (userId : UserId) (coins : Nat) (stamp : Stamp) (host : HostCredit)
  | purchaseStoreItem (userId : UserId) (coins : Nat) (stamp : Stamp) (createdAt : Time)
  | purchaseVipMembership (userId : UserId) (coins : Nat) (stamp : Stamp)
      (purchase : VipMembershipPurchase)
  | purchaseRareId (userId : UserId) (coins : Nat) (stamp : Stamp)
  | exchangePoints (userId : UserId) (isAgent : Bool) (points : Nat) (pointStamp : Stamp)
      (coins : Nat) (coinStamp : Stamp)
  | requestCustomGift (userId : UserId) (coins : Nat) (stamp : Stamp)
  | refundCustomGift (userId : UserId) (coins : Nat) (stamp : Stamp)
  | createWithdrawal (userId : UserId) (points : Nat) (stamp : Stamp)
  | completePayroll (agencyUserId : UserId) (payout : Nat) (payoutStamp : Stamp) (reward : Nat)
      (rewardStamp : Stamp)
  | settleEscrow (userId : UserId) (points : Nat) (stamp : Stamp)
  | takeOverPayroll (companyAgencyUserId : UserId) (inventory : Nat) (inventoryStamp : Stamp)
      (reward : Nat) (rewardStamp : Stamp)
  | refundWithdrawal (userId : UserId) (points : Nat) (stamp : Stamp)
  | reversePayroll (agencyUserId : UserId) (payout : Nat) (payoutStamp : Stamp) (reward : Nat)
      (rewardStamp : Stamp)
  | buyDiamonds (userId : UserId) (coins : Nat) (coinStamp diamondStamp : Stamp)
  | redeemDiamonds (userId : UserId) (diamonds : Nat) (diamondStamp coinStamp : Stamp)
  | settleGame (userId gameHouseUserId : UserId) (kind : SettlementKind) (diamonds : Nat)
      (userStamp houseStamp : Stamp)
  | streakReward (userId : UserId) (points : Nat) (stamp : Stamp)
  | normalHostReward (userId : UserId) (points : Nat) (stamp : Stamp)
  | normalHostBasicReward (userId : UserId) (points : Nat) (stamp : Stamp)
  | royalHostReward (userId : UserId) (points : Nat) (stamp : Stamp)
  | reverseCommission (agencyUserId : UserId) (points : Nat) (stamp : Stamp)
  | tradingTransfer (id : Nat) (senderAgentUserId recipientUserId : UserId)
      (recipientGetsPersonalCoin : Bool) (tradingCoins : Nat)
      (senderStamp recipientStamp : Stamp) (createdAt : Time)
  | reverseTransfer (id : Nat) (recipientGetsPersonalCoin : Bool) (recovered : Nat)
      (recipientStamp senderStamp : Stamp) (reversedAt : Time)
  | topUp (userId : UserId) (coins : Nat) (stamp : Stamp)
  | topUpTrading (userId : UserId) (tradingCoins : Nat) (stamp : Stamp)

section Writes

def debitCoin (userId : UserId) (currency : WalletCurrencyType) (txType : CoinTxType) (coins : Nat)
    (stamp : Stamp) : Write :=
  .coin ⟨userId, currency⟩ .debit txType coins stamp

def creditCoin (userId : UserId) (currency : WalletCurrencyType) (txType : CoinTxType) (coins : Nat)
    (stamp : Stamp) : Write :=
  .coin ⟨userId, currency⟩ .credit txType coins stamp

def debitPoint (userId : UserId) (txType : PointTxType) (points : Nat) (stamp : Stamp) : Write :=
  .point userId .debit txType points none stamp

def creditPoint (userId : UserId) (txType : PointTxType) (points : Nat) (stamp : Stamp) : Write :=
  .point userId .credit txType points none stamp

/-- Commission is tagged with the type of the credit it is on. -/
def commissionOn (hostTxType : PointTxType) (commission : AgencyCommission) : Write :=
  .point commission.agencyUserId .credit .agentCommission commission.points (some hostTxType)
    commission.stamp

/-- Points of these types earn their host's agency a commission. -/
def creditHost (txType : PointTxType) (host : HostCredit) : List Write :=
  creditPoint host.hostUserId txType host.points host.stamp ::
    host.commission.toList.map (commissionOn txType)

/-- The pair of rows of a game settlement; a bet debits the user. -/
def gamePair (kind : SettlementKind) (userId gameHouseUserId : UserId) (diamonds : Nat)
    (userStamp houseStamp : Stamp) : List Write :=
  match kind with
  | .bet => [debitCoin userId .diamond .gameWagerOut diamonds userStamp,
      creditCoin gameHouseUserId .diamond .gameWagerIn diamonds houseStamp]
  | .result => [debitCoin gameHouseUserId .diamond .gameResultOut diamonds houseStamp,
      creditCoin userId .diamond .gameResultIn diamonds userStamp]
  | .refund => [debitCoin gameHouseUserId .diamond .gameRefundOut diamonds houseStamp,
      creditCoin userId .diamond .gameRefundIn diamonds userStamp]

def recipientWalletType (recipientGetsPersonalCoin : Bool) : WalletCurrencyType :=
  if recipientGetsPersonalCoin then .coin else .tradingCoin

def LedgerDb.findReversible (db : LedgerDb) (id : Nat) : Option CoinTradingTransfer :=
  db.coinTradingTransfers.find? fun t => t.id = id && t.reversedAt.isNone

def Operation.writes (db : LedgerDb) : Operation → List Write
  | .sendGift senderId coins stamp host =>
    debitCoin senderId .coin .giftSend coins stamp :: creditHost .giftReceive host
  | .sendLuckyGift senderId coins stamp reward rewardStamp host =>
    [debitCoin senderId .coin .giftSend coins stamp,
      creditCoin senderId .coin .platformReward reward rewardStamp] ++
      creditHost .livestreamGift host
  -- Only older ledgers hold such rows.
  | .refundGift senderId coins stamp => [creditCoin senderId .coin .giftRefund coins stamp]
  | .chargeVideoCall callerId coins stamp host =>
    debitCoin callerId .coin .videoCall coins stamp :: creditHost .videoCall host
  | .subscribeCreator subscriberId coins stamp host =>
    [debitCoin subscriberId .coin .creatorSubscription coins stamp,
      creditPoint host.hostUserId .subscription host.points host.stamp]
  | .purchaseGuardian userId coins stamp host =>
    [debitCoin userId .coin .guardianPurchase coins stamp,
      creditPoint host.hostUserId .guardianPurchase host.points host.stamp]
  | .purchaseStoreItem userId coins stamp createdAt =>
    [debitCoin userId .coin .storeItemPurchase coins stamp, .storeItem ⟨coins, createdAt⟩]
  | .purchaseVipMembership userId coins stamp purchase =>
    [debitCoin userId .coin .vipMembershipPurchase coins stamp,
      .vipPurchase { purchase with userId, coinCost := coins }]
  | .purchaseRareId userId coins stamp => [debitCoin userId .coin .vipPurchase coins stamp]
  | .exchangePoints userId isAgent points pointStamp coins coinStamp =>
    [debitPoint userId .transferOut points pointStamp,
      if isAgent then creditCoin userId .tradingCoin .tradingExchangeFromPoints coins coinStamp
      else creditCoin userId .coin .pointExchangeToCoins coins coinStamp]
  | .requestCustomGift userId coins stamp =>
    [debitCoin userId .coin .customGiftRequest coins stamp]
  | .refundCustomGift userId coins stamp => [creditCoin userId .coin .customGiftRefund coins stamp]
  | .createWithdrawal userId points stamp => [debitPoint userId .withdrawal points stamp]
  | .completePayroll agencyUserId payout payoutStamp reward rewardStamp =>
    [creditPoint agencyUserId .payrollHostPayout payout payoutStamp,
      creditPoint agencyUserId .payrollProcessingReward reward rewardStamp]
  | .settleEscrow userId points stamp => [debitPoint userId .withdrawalEscrowSettled points stamp]
  | .takeOverPayroll companyAgencyUserId inventory inventoryStamp reward rewardStamp =>
    [creditPoint companyAgencyUserId .payrollTakeoverInventory inventory inventoryStamp,
      creditPoint companyAgencyUserId .payrollProcessingReward reward rewardStamp]
  | .refundWithdrawal userId points stamp => [creditPoint userId .withdrawalRefund points stamp]
  | .reversePayroll agencyUserId payout payoutStamp reward rewardStamp =>
    [debitPoint agencyUserId .adjustment payout payoutStamp,
      debitPoint agencyUserId .adjustment reward rewardStamp]
  | .buyDiamonds userId coins coinStamp diamondStamp =>
    [debitCoin userId .coin .diamondPurchaseOut coins coinStamp,
      creditCoin userId .diamond .diamondPurchaseIn coins diamondStamp]
  | .redeemDiamonds userId diamonds diamondStamp coinStamp =>
    [debitCoin userId .diamond .diamondRedeemOut diamonds diamondStamp,
      creditCoin userId .coin .diamondRedeemIn diamonds coinStamp]
  | .settleGame userId gameHouseUserId kind diamonds userStamp houseStamp =>
    gamePair kind userId gameHouseUserId diamonds userStamp houseStamp
  | .streakReward userId points stamp => [creditPoint userId .livestreamStreakReward points stamp]
  | .normalHostReward userId points stamp => [creditPoint userId .normalHostReward points stamp]
  | .normalHostBasicReward userId points stamp =>
    [creditPoint userId .normalHostBasicReward points stamp]
  | .royalHostReward userId points stamp => [creditPoint userId .royalHostReward points stamp]
  | .reverseCommission agencyUserId points stamp =>
    [debitPoint agencyUserId .adjustment points stamp]
  | .tradingTransfer id senderAgentUserId recipientUserId recipientGetsPersonalCoin tradingCoins
      senderStamp recipientStamp createdAt =>
    [debitCoin senderAgentUserId .tradingCoin .tradingTransferOut tradingCoins senderStamp,
      creditCoin recipientUserId (recipientWalletType recipientGetsPersonalCoin)
        .tradingTransferIn tradingCoins recipientStamp,
      .transfer { id, senderAgentUserId, recipientUserId, tradingCoinsDebited := tradingCoins,
                  createdAt }]
  | .reverseTransfer id recipientGetsPersonalCoin recovered recipientStamp senderStamp reversedAt =>
    match db.findReversible id with
    | none => []
    | some t =>
      [debitCoin t.recipientUserId (recipientWalletType recipientGetsPersonalCoin)
          .tradingTransferReversal recovered recipientStamp,
        creditCoin t.senderAgentUserId .tradingCoin .tradingTransferReversal recovered
          senderStamp,
        .reverseTransfer id reversedAt]
  | .topUp userId coins stamp => [creditCoin userId .coin .topup coins stamp]
  | .topUpTrading userId tradingCoins stamp =>
    [creditCoin userId .tradingCoin .tradingTopup tradingCoins stamp]

end Writes

namespace LedgerDb

def perform (db : LedgerDb) (op : Operation) : LedgerDb := db.writeAll (op.writes db)

def run (db : LedgerDb) (ops : List Operation) : LedgerDb := ops.foldl perform db

/-- A program that has not run yet, with what the admins classified and the cash journal. -/
def initial (isAgent : UserId → Bool)
    (classification : TreasuryFlowKind → Nat → Option TreasuryFlowClassificationType)
    (cash : List CashRow) : LedgerDb where
  isAgent := isAgent
  wallets := []
  coin := []
  point := []
  classification := classification
  cash := cash
  wallets_nodup := List.nodup_nil
  coin_wallet := by simp
  point_wallet := by simp
  coin_pos := noLegs_pos _
  point_pos := noLegs_pos _
  transfer_pos := noTransfers_pos

end LedgerDb

/-! ### The chain of every wallet -/

/-- The rows of a wallet are stamped in the order they are written, and the ids are unique. -/
structure LedgerDb.Stamped (db : LedgerDb) : Prop where
  coin : ∀ wallet, (db.coin.filter (·.wallet = wallet)).Pairwise
    fun e next => sortKey e < sortKey next
  point : ∀ wallet, (db.point.filter (·.wallet = wallet)).Pairwise
    fun e next => sortKey e < sortKey next
  transfers : (db.coinTradingTransfers.map (·.id)).Nodup

section Chain

variable {TxType : Type} {carries : TxType → Bool}

private theorem chainOk_concat (e : Leg TxType) (history : List (Leg TxType)) (balance : Int) :
    chainOk carries balance (history ++ [e]) = (chainOk carries balance history &&
      (checkLedgerBalanceChain (((history.getLast?).map (·.balanceAfter)).getD balance) e.direction
        e.amount e.balanceAfter (carries e.txType)).ok) := by
  induction history generalizing balance with
  | nil => simp [chainOk]
  | cons first history ih =>
    have last : ((((first :: history).getLast?).map (·.balanceAfter)).getD balance) =
        (((history.getLast?).map (·.balanceAfter)).getD first.balanceAfter) := by
      rw [List.getLast?_cons]
      cases history.getLast? <;> rfl
    rw [List.cons_append, chainOk, chainOk, ih, last, Bool.and_assoc]

private theorem chainOk_next {legs : List (Leg TxType)} {wallet other : Wallet}
    {direction : LedgerDirection} {txType : TxType} {amount : Nat}
    {hostTxType : Option PointTxType} {stamp : Stamp}
    (ordered : (legs.filter (·.wallet = other)).Pairwise fun e next => sortKey e < sortKey next)
    (intact : chainOk carries 0 (legs.filter (·.wallet = other)) = true) :
    chainOk carries 0 ((legs ++ [nextLeg carries legs wallet direction txType amount hostTxType
      stamp]).filter (·.wallet = other)) = true := by
  rw [List.filter_append]
  by_cases own : wallet = other
  · subst own
    have tail := latest_eq_getLast? (List.Perm.refl _) ordered
    rw [List.filter_cons_of_pos (by simp [nextLeg]), List.filter_nil, chainOk_concat, intact,
      Bool.true_and]
    simp only [checkLedgerBalanceChain, nextLeg, tailOf, tail, decide_true]
  · rw [List.filter_cons_of_neg (by simp [nextLeg, own]), List.filter_nil, List.append_nil]
    exact intact

end Chain

namespace LedgerDb

structure Intact (db : LedgerDb) : Prop where
  coin : ∀ wallet, chainOk (fun _ => false) 0 (db.coin.filter (·.wallet = wallet)) = true
  point : ∀ wallet, chainOk pointLedgerBalanceCarriesForward 0
    (db.point.filter (·.wallet = wallet)) = true

variable {db : LedgerDb}

private theorem markReversed_id (id : Nat) (reversedAt : Time) (t : CoinTradingTransfer) :
    (markReversed id reversedAt t).id = t.id := by
  unfold markReversed
  split
  · rfl
  · rfl

private theorem stamped_of_write {w : Write} (stamped : (db.write w).Stamped) : db.Stamped := by
  cases w with
  | coin wallet direction txType amount stamp =>
    unfold write at stamped
    dsimp only at stamped
    split at stamped
    next ok =>
      refine ⟨fun other => (stamped.coin other).sublist ?_, stamped.point, stamped.transfers⟩
      exact (List.sublist_append_left _ _).filter _
    next => exact stamped
  | point userId direction txType amount hostTxType stamp =>
    unfold write at stamped
    dsimp only at stamped
    split at stamped
    next ok =>
      refine ⟨stamped.coin, fun other => (stamped.point other).sublist ?_, stamped.transfers⟩
      exact (List.sublist_append_left _ _).filter _
    next => exact stamped
  | storeItem row => exact ⟨stamped.coin, stamped.point, stamped.transfers⟩
  | vipPurchase row => exact ⟨stamped.coin, stamped.point, stamped.transfers⟩
  | transfer row =>
    unfold write at stamped
    dsimp only at stamped
    split at stamped
    next ok =>
      refine ⟨stamped.coin, stamped.point, stamped.transfers.sublist ?_⟩
      exact (List.sublist_append_left _ _).map _
    next => exact stamped
  | reverseTransfer id reversedAt =>
    refine ⟨stamped.coin, stamped.point, ?_⟩
    have same : (db.coinTradingTransfers.map (markReversed id reversedAt)).map (·.id) =
        db.coinTradingTransfers.map (·.id) := by
      rw [List.map_map]
      exact List.map_congr_left fun t _ => markReversed_id id reversedAt t
    exact same ▸ stamped.transfers

private theorem intact_write {w : Write} (stamped : (db.write w).Stamped) (intact : db.Intact) :
    (db.write w).Intact := by
  have before := stamped_of_write stamped
  cases w with
  | coin wallet direction txType amount stamp =>
    unfold write
    dsimp only
    split
    next ok => exact ⟨fun other => chainOk_next (before.coin other) (intact.coin other), intact.point⟩
    next => exact intact
  | point userId direction txType amount hostTxType stamp =>
    unfold write
    dsimp only
    split
    next ok =>
      exact ⟨intact.coin, fun other => chainOk_next (before.point other) (intact.point other)⟩
    next => exact intact
  | storeItem row => exact ⟨intact.coin, intact.point⟩
  | vipPurchase row => exact ⟨intact.coin, intact.point⟩
  | transfer row =>
    unfold write
    dsimp only
    split
    next ok => exact ⟨intact.coin, intact.point⟩
    next => exact intact
  | reverseTransfer id reversedAt => exact ⟨intact.coin, intact.point⟩

theorem stamped_of_writeAll {writes : List Write} : ∀ {db : LedgerDb},
    (db.writeAll writes).Stamped → db.Stamped := by
  induction writes with
  | nil => exact id
  | cons w writes ih => exact fun stamped => stamped_of_write (ih stamped)

private theorem intact_writeAll {writes : List Write} : ∀ {db : LedgerDb},
    (db.writeAll writes).Stamped → db.Intact → (db.writeAll writes).Intact := by
  induction writes with
  | nil => exact fun _ intact => intact
  | cons w writes ih =>
    intro db stamped intact
    exact ih stamped (intact_write (stamped_of_writeAll stamped) intact)

theorem stamped_of_run {ops : List Operation} : ∀ {db : LedgerDb},
    (db.run ops).Stamped → db.Stamped := by
  induction ops with
  | nil => exact id
  | cons op ops ih => exact fun stamped => stamped_of_writeAll (ih stamped)

private theorem intact_run {ops : List Operation} : ∀ {db : LedgerDb},
    (db.run ops).Stamped → db.Intact → (db.run ops).Intact := by
  induction ops with
  | nil => exact fun _ intact => intact
  | cons op ops ih =>
    intro db stamped intact
    exact ih stamped (intact_writeAll (stamped_of_run stamped) intact)

/-- Every run from the start leaves an intact ledger. -/
theorem run_chained {isAgent : UserId → Bool}
    {classification : TreasuryFlowKind → Nat → Option TreasuryFlowClassificationType}
    {cash : List CashRow} {ops : List Operation}
    (stamped : ((initial isAgent classification cash).run ops).Stamped) :
    ((initial isAgent classification cash).run ops).Chained := by
  have intact := intact_run stamped ⟨fun _ => rfl, fun _ => rfl⟩
  exact ⟨fun wallet => ⟨_, List.Perm.refl _, stamped.coin wallet, intact.coin wallet⟩,
    fun wallet => ⟨_, List.Perm.refl _, stamped.point wallet, intact.point wallet⟩⟩

end LedgerDb

end OlNode.MasterLedger
