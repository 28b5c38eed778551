import OlNode.MasterLedger.Additive

/-!
# The identity of the dashboard, row by row

Gross sales less payouts should be the change of the customers' float and the operating profit.
Every row has a weight in the difference: what it adds to the one side less what it adds to the
other. The difference is the weighted sum of the rows of the period, less what the lines floored at
zero leave out.
-/
namespace OlNode.MasterLedger

open History Totals CompanyCash

def reconciliationDelta (db : LedgerDb) (house : HouseAccounts) (start stop : Time) : Int :=
  let imputed := imputedCash db house (period start stop)
  let deltaFloat := (computeFloatAt db stop house).customerTotal -
    (computeFloatAt db start house).customerTotal
  let lhs := imputed.grossSaleUnits - imputed.companyPayoutUnits
  let rhs := deltaFloat + (operatingPnl db house (period start stop)).operatingProfitUnits
  lhs - rhs

/-! ### Weights -/

section Terms

variable {TxType : Type} [DecidableEq TxType]

/-- What one unit of a row with this key adds to a sum of picked totals. -/
def weigh (terms : List (Int × PickParams TxType)) (k : LedgerTotalsKey TxType) : Int :=
  (terms.map fun t => if t.2.picks k then t.1 else 0).sum

private theorem sum_terms (house : HouseAccounts) (w : Window) (legs : List (Leg TxType))
    (terms : List (Int × PickParams TxType)) :
    (terms.map fun t => t.1 * sumLegs house w legs t.2).sum =
      sumWhere (fun e => w.contains e.createdAt)
        (fun e => weigh terms (totalsKey house e) * e.amount) legs := by
  induction terms with
  | nil =>
    rw [List.map_nil, List.sum_nil, sumWhere_eq_weighted]
    simp [weigh]
  | cons t terms ih =>
    have own : t.1 * sumLegs house w legs t.2 = sumWhere (fun e => w.contains e.createdAt)
        (fun e => (if t.2.picks (totalsKey house e) then t.1 else 0) * e.amount) legs := by
      rw [sumLegs_eq, sumWhere_eq_weighted, sumWhere_eq_weighted, ← List.sum_map_mul_left]
      refine congrArg List.sum (List.map_congr_left fun e _ => ?_)
      by_cases inside : w.contains e.createdAt <;> by_cases picked : t.2.picks (totalsKey house e)
      all_goals simp [inside, picked]
    rw [List.map_cons, List.sum_cons, ih, own, ← sumWhere_add]
    refine sumWhere_congr fun e _ _ => ?_
    rw [weigh, weigh, List.map_cons, List.sum_cons, Int.add_mul]

def floatWeight (k : LedgerTotalsKey TxType) : Int :=
  if k.isHouse then 0 else if k.direction = .credit then 1 else -1

end Terms

private def spent (txType : CoinTxType) : Int × PickParams CoinTxType :=
  (-1, { direction := .debit, txTypes := [txType], currency := some .coin })

private def credited (txType : CoinTxType) (currency : WalletCurrencyType) :
    Int × PickParams CoinTxType :=
  (1, { direction := .credit, txTypes := [txType], currency := some currency })

private def toCustomer (txType : CoinTxType) (currency : WalletCurrencyType) :
    Int × PickParams CoinTxType :=
  (1, { direction := .credit, txTypes := [txType], currency := some currency, owner := .customer })

private def houseLeg (sign : Int) (direction : LedgerDirection) (txType : CoinTxType) :
    Int × PickParams CoinTxType :=
  (sign, { direction, txTypes := [txType], currency := some .diamond, owner := .house })

private def adjusted (direction : LedgerDirection) (currency : WalletCurrencyType)
    (txTypes : List CoinTxType) : Int × PickParams CoinTxType :=
  (if direction = .credit then 1 else -1, { direction, txTypes, currency := some currency,
                                            reallocation := some .exclude, owner := .customer })

/-- The sums over the coin ledger, with the sign they have in gross sales less operating profit. -/
private def coinTerms : List (Int × PickParams CoinTxType) := [
  toCustomer .topup .coin, toCustomer .tradingTopup .tradingCoin,
  adjusted .credit .coin [.adjustment], adjusted .credit .tradingCoin [.adjustment],
  adjusted .credit .diamond ADMIN_DIAMOND_TX,
  spent .giftSend, credited .giftRefund .coin,
  spent .videoCall, spent .creatorSubscription, spent .guardianPurchase,
  spent .customGiftRequest, credited .customGiftRefund .coin,
  credited .pointExchangeToCoins .coin, credited .tradingExchangeFromPoints .tradingCoin,
  spent .vipPurchase, spent .usernameChange, spent .globalMessage,
  houseLeg (-1) .credit .gameWagerIn, houseLeg 1 .debit .gameWagerOut,
  houseLeg 1 .debit .gameResultOut, houseLeg (-1) .credit .gameResultIn,
  houseLeg 1 .debit .gameRefundOut, houseLeg (-1) .credit .gameRefundIn,
  (-1, { direction := .debit, txTypes := [.expire], currency := some .coin, owner := .customer }),
  adjusted .debit .coin [.adjustment], adjusted .debit .tradingCoin [.adjustment],
  adjusted .debit .diamond ADMIN_DIAMOND_TX,
  toCustomer .dailyLogin .coin, toCustomer .weeklyTopup .coin, toCustomer .platformReward .coin,
  toCustomer .vipReward .coin]

private def hostTerm (txTypes : List PointTxType) : Int × PickParams PointTxType :=
  (1, { direction := .credit, txTypes, owner := .customer })

private def pointTerms : List (Int × PickParams PointTxType) := [
  (1, { direction := .credit, txTypes := [.adjustment], reallocation := some .exclude,
        owner := .customer }),
  hostTerm [.giftReceive, .livestreamGift], hostTerm [.videoCall], hostTerm [.subscription],
  hostTerm [.guardianPurchase],
  (-1, { direction := .debit, txTypes := [.transferOut] }),
  (-1, { direction := .debit, txTypes := [.withdrawal, .withdrawalEscrowSettled],
         owner := .customer }),
  hostTerm [.payrollHostPayout, .payrollProcessingReward, .payrollTakeoverInventory,
    .withdrawalRefund],
  (-1, { direction := .debit, txTypes := [.agencyForceExitPenalty], owner := .customer }),
  (-1, { direction := .debit, txTypes := [.adjustment], reallocation := some .exclude,
         owner := .customer }),
  hostTerm REWARD_POINT_TX]

/-- The commission types the lines of the profit take off. -/
def commissionTypes : List PointTxType :=
  [.giftReceive, .livestreamGift, .videoCall, .subscription, .guardianPurchase]

def commissionWeight (k : LedgerTotalsKey PointTxType) (hostTxType : Option PointTxType) : Int :=
  if k.txType = .agentCommission ∧ k.direction = .credit ∧ k.isHouse = false ∧
    hostTxType.any commissionTypes.contains = true then 1 else 0

/-- The weight of a coin row in the difference of the two sides. -/
def coinWeight (k : LedgerTotalsKey CoinTxType) : Int := weigh coinTerms k - floatWeight k

def pointWeight (k : LedgerTotalsKey PointTxType) (hostTxType : Option PointTxType) : Int :=
  weigh pointTerms k + commissionWeight k hostTxType -
    if pointLedgerBalanceCarriesForward k.txType then 0 else floatWeight k

/-- What a transfer of trading coins adds to the sales and the giveaways, less what is returned. -/
def transferUnits (db : LedgerDb) (house : HouseAccounts) (w : Window) (t : CoinTradingTransfer) :
    Int :=
  let sold := house.contains t.senderAgentUserId && decide (coinFlowKind db house t = .sale)
  let given := house.contains t.senderAgentUserId &&
    (decide (coinFlowKind db house t = .promo) || decide (coinFlowKind db house t = .writeOff))
  let returned := house.contains t.recipientUserId && !house.contains t.senderAgentUserId &&
    t.reversedAt.isNone
  (if sold && w.contains t.createdAt then t.tradingCoinsDebited else 0) -
    (if sold && t.reversedAt.any w.contains then t.tradingCoinsDebited else 0) +
    (if given && createdIn w t then t.tradingCoinsDebited else 0) -
    (if returned && w.contains t.createdAt then t.tradingCoinsDebited else 0)

/-! ### The change of the float -/

private theorem sumWhere_between {ρ : Type} (time : ρ → Time) (value : ρ → Int) {start stop : Time}
    (ordered : start ≤ stop) (rows : List ρ) :
    sumWhere (fun row => decide (time row < stop)) value rows -
        sumWhere (fun row => decide (time row < start)) value rows =
      sumWhere (fun row => (period start stop).contains (time row)) value rows := by
  induction rows with
  | nil => rfl
  | cons row rows ih =>
    have own : ((period start stop).contains (time row) : Bool) =
        (decide (time row < stop) && !decide (time row < start)) := by
      rw [period_contains]
      by_cases early : time row < start
      · simp [early, not_le.mpr early]
      · simp [early, not_lt.mp early]
    have later : time row < start → time row < stop := fun early => lt_of_lt_of_le early ordered
    simp only [sumWhere_cons, own, ← ih]
    by_cases early : time row < start
    · simp [early, later early]
    · simp [early]
      omega

private theorem customer_moved {TxType : Type} [DecidableEq TxType] (house : HouseAccounts)
    (carries : TxType → Bool) (e : Leg TxType) :
    (if house.contains e.wallet.userId then 0 else 1) * moved carries e =
      (if carries e.txType then 0 else floatWeight (totalsKey house e)) * e.amount := by
  unfold moved floatWeight Leg.signed totalsKey
  cases e.direction <;> by_cases carried : carries e.txType <;>
    by_cases own : house.contains e.wallet.userId
  all_goals simp only [carried, own]
  all_goals simp

variable {db : LedgerDb}

private theorem deltaFloat_eq (chained : db.Chained) {start stop : Time} (ordered : start ≤ stop)
    (house : HouseAccounts) :
    (computeFloatAt db stop house).customerTotal - (computeFloatAt db start house).customerTotal =
      sumWhere (fun e => (period start stop).contains e.createdAt)
          (fun e => floatWeight (totalsKey house e) * e.amount) db.coin +
        sumWhere (fun e => (period start stop).contains e.createdAt)
          (fun e => (if pointLedgerBalanceCarriesForward e.txType then 0
            else floatWeight (totalsKey house e)) * e.amount) db.point := by
  have coins := sumWhere_between (fun e : Leg CoinTxType => e.createdAt)
    (fun e => (if house.contains e.wallet.userId then 0 else 1) * moved (fun _ => false) e)
    ordered db.coin
  have points := sumWhere_between (fun e : Leg PointTxType => e.createdAt)
    (fun e => (if house.contains e.wallet.userId then 0 else 1) *
      moved pointLedgerBalanceCarriesForward e) ordered db.point
  rw [customerTotal_eq chained, customerTotal_eq chained]
  simp only [customer_moved, Bool.false_eq_true, if_false] at coins points ⊢
  omega

/-! ### The difference as a sum over the rows -/

/-- Every commission row says what it is on. -/
def Tagged (db : LedgerDb) : Prop :=
  ∀ e ∈ db.point, e.txType = .agentCommission → e.hostTxType.isSome = true

private theorem commission_eq (tagged : Tagged db) (house : HouseAccounts)
    (types : List PointTxType) {e : Leg PointTxType} (member : e ∈ db.point) :
    isCommissionFor db house types e = (decide (e.txType = .agentCommission) &&
      decide (e.direction = .credit) && !house.contains e.wallet.userId &&
        e.hostTxType.any types.contains) := by
  have onPoints := (db.point_wallet e member).2
  unfold isCommissionFor
  by_cases own : e.txType = .agentCommission
  · cases tag : e.hostTxType with
    | none =>
      have some := tagged e member own
      simp [tag] at some
    | some hostTxType => simp [own, onPoints]
  · simp [own]

private theorem sumWhere_and {ρ : Type} (window cond : ρ → Bool) (value : ρ → Int) (rows : List ρ) :
    sumWhere (fun row => window row && cond row) value rows =
      sumWhere window (fun row => (if cond row then 1 else 0) * value row) rows := by
  rw [sumWhere_eq_weighted, sumWhere_eq_weighted]
  refine congrArg List.sum (List.map_congr_left fun row _ => ?_)
  by_cases inside : window row <;> by_cases taken : cond row
  all_goals simp [inside, taken]

private theorem commissions_eq (tagged : Tagged db) (house : HouseAccounts) (w : Window) :
    sumGiftRelatedAgencyCommission db house w + sumAgencyCommission db house w .videoCall +
        sumAgencyCommission db house w .subscription +
        sumAgencyCommission db house w .guardianPurchase =
      sumWhere (fun e => w.contains e.createdAt)
        (fun e => commissionWeight (totalsKey house e) e.hostTxType * e.amount) db.point := by
  unfold sumGiftRelatedAgencyCommission sumAgencyCommission
  simp only [sumWhere_and, ← sumWhere_add]
  refine sumWhere_congr fun e member _ => ?_
  simp only [commission_eq tagged house _ member]
  unfold commissionWeight totalsKey
  by_cases own : e.txType = .agentCommission
  · have some := tagged e member own
    cases tag : e.hostTxType with
    | none => simp [tag] at some
    | some hostTxType =>
      cases e.direction with
      | debit => simp
      | credit =>
        by_cases customer : house.contains e.wallet.userId
        · simp only [customer]
          simp
        · rw [Bool.not_eq_true] at customer
          simp only [own, customer]
          cases hostTxType <;> simp [commissionTypes]
  · simp [own]

private theorem returns_eq (none : db.agentPointTransfers = []) (house : HouseAccounts)
    (w : Window) :
    returnsToHouseUnits db house w = sumWhere (fun t => house.contains t.recipientUserId &&
      !house.contains t.senderAgentUserId && t.reversedAt.isNone && w.contains t.createdAt)
        (·.tradingCoinsDebited) db.coinTradingTransfers := by
  unfold returnsToHouseUnits
  split
  next empty =>
    obtain rfl : house = [] := List.isEmpty_iff.mp empty
    simp [sumWhere]
  next => rw [none, sumWhere_nil, Int.add_zero]

private theorem flows_eq (none : db.agentPointTransfers = []) (house : HouseAccounts) (w : Window) :
    (periodTotals db house w).saleUnits - (periodTotals db house w).reversedSaleUnits -
        returnsToHouseUnits db house w + treasuryGiveaway db house w =
      (db.coinTradingTransfers.map (transferUnits db house w)).sum := by
  obtain ⟨sale, promo, writeOff, reversed⟩ := periodTotals_eq db house w
  have sales := coinFlow_sales db house w
  have points : ∀ kind, pointFlow db house kind (w.contains ·.createdAt) = 0 := by
    intro kind
    rw [pointFlow, none, sumWhere_nil]
  have units : (db.coinTradingTransfers.map (transferUnits db house w)).sum =
      coinFlow db house .sale (w.contains ·.createdAt) -
        coinFlow db house .sale (·.reversedAt.any w.contains) +
        (coinFlow db house .promo (createdIn w) + coinFlow db house .writeOff (createdIn w)) -
        returnsToHouseUnits db house w := by
    rw [returns_eq none]
    unfold coinFlow
    generalize db.coinTradingTransfers = transfers
    induction transfers with
    | nil => rfl
    | cons t transfers ih =>
      rw [List.map_cons, List.sum_cons, ih]
      simp only [sumWhere_cons]
      unfold transferUnits
      dsimp only
      cases house.contains t.senderAgentUserId with
      | true =>
        cases coinFlowKind db house t
        all_goals simp only [reduceCtorEq, decide_true, decide_false, Bool.true_and, Bool.false_and,
          Bool.or_false, Bool.false_or, Bool.not_true, Bool.and_false, Bool.false_eq_true, if_false]
        all_goals omega
      | false =>
        simp only [Bool.false_and, Bool.not_false, Bool.and_true, Bool.false_eq_true, if_false]
        omega
  unfold treasuryGiveaway
  rw [units, sale, promo, writeOff, reversed, points, points, points]
  omega

/-- What the lines floored at zero leave out. -/
def cutOff (db : LedgerDb) (house : HouseAccounts) (w : Window) : Int :=
  ((clampedNets db house).map fun net => clamp (net w) - net w).sum

/-- What all rows of the period add to the difference. -/
def imbalance (db : LedgerDb) (house : HouseAccounts) (w : Window) : Int :=
  sumWhere (fun e => w.contains e.createdAt)
      (fun e => coinWeight (totalsKey house e) * e.amount) db.coin +
    sumWhere (fun e => w.contains e.createdAt)
      (fun e => pointWeight (totalsKey house e) e.hostTxType * e.amount) db.point +
    (db.coinTradingTransfers.map (transferUnits db house w)).sum -
    sumWhere (fun i => w.contains i.createdAt) (·.coinsPaid) db.storeItems -
    sumWhere (fun p => w.contains p.createdAt) (·.coinCost) db.vipPurchases

private theorem sumLegs_house_nil {TxType : Type} [DecidableEq TxType] (w : Window)
    (legs : List (Leg TxType)) (direction : LedgerDirection) (txTypes : List TxType)
    (currency : Option WalletCurrencyType) :
    sumLegs [] w legs { direction, txTypes, currency, owner := .house } = 0 := by
  rw [sumLegs_eq, sumWhere_eq_weighted]
  simp [PickParams.picks, totalsKey]

private theorem gameHouseEdge_eq (db : LedgerDb) (house : HouseAccounts) (w : Window) :
    (gameHouseEdgeUnits db house w).edge =
      -((coinTerms.drop 17).take 6 |>.map fun t => t.1 * sumLegs house w db.coin t.2).sum := by
  simp only [coinTerms, houseLeg, List.drop_succ_cons, List.drop_zero, List.take_succ_cons,
    List.take_zero, List.map_cons, List.map_nil, List.sum_cons, List.sum_nil]
  unfold gameHouseEdgeUnits sumCoin
  split
  next empty =>
    obtain rfl : house = [] := List.isEmpty_iff.mp empty
    simp only [sumLegs_house_nil]
    rfl
  next =>
    dsimp only
    omega

private theorem sum_clamped (nets : List (Window → Int)) (w : Window) :
    (nets.map fun net => clamp (net w)).sum =
      (nets.map fun net => net w).sum + (nets.map fun net => clamp (net w) - net w).sum := by
  induction nets with
  | nil => rfl
  | cons net nets ih =>
    simp only [List.map_cons, List.sum_cons, ih]
    omega

private theorem units_eq (db : LedgerDb) (house : HouseAccounts) (w : Window) :
    (imputedCash db house w).grossSaleUnits - (periodTotals db house w).saleUnits +
        (periodTotals db house w).reversedSaleUnits + returnsToHouseUnits db house w -
        companyPayoutUnits db w -
        (((clampedNets db house).map fun net => net w).sum + plainUnits db house w) =
      (coinTerms.map fun t => t.1 * sumLegs house w db.coin t.2).sum +
        (pointTerms.map fun t => t.1 * sumLegs house w db.point t.2).sum +
        (sumGiftRelatedAgencyCommission db house w + sumAgencyCommission db house w .videoCall +
          sumAgencyCommission db house w .subscription +
          sumAgencyCommission db house w .guardianPurchase) -
        sumWhere (fun i => w.contains i.createdAt) (·.coinsPaid) db.storeItems -
        sumWhere (fun p => w.contains p.createdAt) (·.coinCost) db.vipPurchases := by
  have edge := gameHouseEdge_eq db house w
  simp only [coinTerms, houseLeg, List.drop_succ_cons, List.drop_zero, List.take_succ_cons,
    List.take_zero, List.map_cons, List.map_nil, List.sum_cons, List.sum_nil] at edge
  simp only [imputedCash, totalUnits, clampedNets, splitPairs, plainUnits, giftNet, storeNet,
    customGiftNet, conversionNet, splitUnits, profitFromCoinToPointSplit, hostPoints, coinsSpent,
    coinsCredited, sumAdjustments, rewardMintUnits, sumCoin, sumPoint, coinTerms, pointTerms,
    spent, credited, toCustomer, houseLeg, adjusted, hostTerm, edge, reduceCtorEq, if_true,
    if_false, List.map_cons, List.map_nil, List.cons_append, List.nil_append, List.sum_cons,
    List.sum_nil]
  omega

theorem reconciliationDelta_eq (chained : db.Chained) (tagged : Tagged db)
    (none : db.agentPointTransfers = []) {start stop : Time} (ordered : start ≤ stop)
    (house : HouseAccounts) :
    reconciliationDelta db house start stop =
      imbalance db house (period start stop) - cutOff db house (period start stop) := by
  have float := deltaFloat_eq chained ordered house
  have flows := flows_eq none house (period start stop)
  have units := units_eq db house (period start stop)
  have clamped := sum_clamped (clampedNets db house) (period start stop)
  have profit := operatingProfit_eq db house (period start stop)
  have payouts : (imputedCash db house (period start stop)).companyPayoutUnits =
      companyPayoutUnits db (period start stop) := rfl
  have commissions := commissions_eq tagged house (period start stop)
  have coins : sumWhere (fun e => (period start stop).contains e.createdAt)
      (fun e => weigh coinTerms (totalsKey house e) * e.amount) db.coin =
      sumWhere (fun e => (period start stop).contains e.createdAt)
          (fun e => coinWeight (totalsKey house e) * e.amount) db.coin +
        sumWhere (fun e => (period start stop).contains e.createdAt)
          (fun e => floatWeight (totalsKey house e) * e.amount) db.coin := by
    rw [← sumWhere_add]
    refine sumWhere_congr fun e _ _ => ?_
    rw [coinWeight, Int.sub_mul, Int.sub_add_cancel]
  have points : sumWhere (fun e => (period start stop).contains e.createdAt)
        (fun e => weigh pointTerms (totalsKey house e) * e.amount) db.point +
      sumWhere (fun e => (period start stop).contains e.createdAt)
        (fun e => commissionWeight (totalsKey house e) e.hostTxType * e.amount) db.point =
      sumWhere (fun e => (period start stop).contains e.createdAt)
          (fun e => pointWeight (totalsKey house e) e.hostTxType * e.amount) db.point +
        sumWhere (fun e => (period start stop).contains e.createdAt)
          (fun e => (if pointLedgerBalanceCarriesForward e.txType then 0
            else floatWeight (totalsKey house e)) * e.amount) db.point := by
    rw [← sumWhere_add, ← sumWhere_add]
    refine sumWhere_congr fun e _ _ => ?_
    rw [← Int.add_mul, ← Int.add_mul, pointWeight]
    exact congrArg (· * e.amount) (Int.sub_add_cancel _ _).symm
  rw [sum_terms, sum_terms, coins, commissions] at units
  unfold reconciliationDelta imbalance cutOff
  dsimp only
  rw [payouts, float, profit, clamped]
  omega

end OlNode.MasterLedger
