import OlNode.MasterLedger.Model

/-!
# The reports of a period

`imputedCash` values what left the house's inventory, `operatingPnl` what the customers spent. The
treasury's transfers are sales unless an admin classified them otherwise.
-/
namespace OlNode.MasterLedger

open History Totals CompanyCash

structure LedgerLine where
  id : String
  label : String
  units : Int

/-! ### Treasury flows -/

structure TreasuryFlowTotals where
  saleUnits : Int := 0
  promoUnits : Int := 0
  writeOffUnits : Int := 0
  internalUnits : Int := 0
  /-- Sales booked in an earlier period but reversed inside this one. -/
  reversedSaleUnits : Int := 0
  saleCount : Nat := 0

structure AggRow where
  kind : TreasuryFlowClassificationType
  units : Int
  cnt : Nat

/-- `SELECT kind, SUM(units), COUNT(*) … GROUP BY 1`. -/
def aggregate {ρ : Type} (kind : ρ → TreasuryFlowClassificationType) (units : ρ → Int)
    (rows : List ρ) : List AggRow :=
  (groups kind rows).map fun g =>
    { kind := g.1, units := (g.2.map units).sum, cnt := g.2.length }

def TreasuryFlowTotals.add (reversal : Bool) (totals : TreasuryFlowTotals) (r : AggRow) :
    TreasuryFlowTotals :=
  if reversal then
    if r.kind = .sale then { totals with reversedSaleUnits := totals.reversedSaleUnits + r.units }
    else totals
  else match r.kind with
    | .sale => { totals with
        saleUnits := totals.saleUnits + r.units, saleCount := totals.saleCount + r.cnt }
    | .promo => { totals with promoUnits := totals.promoUnits + r.units }
    | .writeOff => { totals with writeOffUnits := totals.writeOffUnits + r.units }
    | .internal => { totals with internalUnits := totals.internalUnits + r.units }

def applyAgg (totals : TreasuryFlowTotals) (rows : List AggRow) (reversal : Bool) :
    TreasuryFlowTotals :=
  rows.foldl (TreasuryFlowTotals.add reversal) totals

def coinFlowKind (db : LedgerDb) (house : HouseAccounts) (t : CoinTradingTransfer) :
    TreasuryFlowClassificationType :=
  effectiveClassification t.recipientUserId (db.classification .coinTradingTransfer t.id) house

def pointFlowKind (db : LedgerDb) (house : HouseAccounts) (t : AgentPointTransfer) :
    TreasuryFlowClassificationType :=
  effectiveClassification t.recipientAgentUserId (db.classification .agentPointTransfer t.id) house

def periodTotals (db : LedgerDb) (house : HouseAccounts) (w : Window) : TreasuryFlowTotals :=
  if house.isEmpty then {}
  else
    -- A transfer created and reversed inside the window is in no line.
    let coinCreated := aggregate (coinFlowKind db house) (·.tradingCoinsDebited)
      (db.coinTradingTransfers.filter fun t => house.contains t.senderAgentUserId &&
        !t.reversedAt.any w.contains && w.contains t.createdAt)
    let pointCreated := aggregate (pointFlowKind db house) (·.points)
      (db.agentPointTransfers.filter fun t => house.contains t.senderAgentUserId &&
        w.contains t.createdAt)
    let coinReversed := aggregate (coinFlowKind db house) (·.tradingCoinsDebited)
      (db.coinTradingTransfers.filter fun t => house.contains t.senderAgentUserId &&
        t.reversedAt.any w.contains && !w.contains t.createdAt)
    applyAgg (applyAgg (applyAgg {} coinCreated false) pointCreated false) coinReversed true

/-! ### Parts of the reports -/

/-- Company fiat paid out, in units; `amountUsd` counts 1/10000 of a dollar, which is one unit. -/
def companyPayoutUnits (db : LedgerDb) (w : Window) : Int :=
  sumWhere (fun e => e.direction = .outgoing && !e.promotional && w.contains e.createdAt)
    (fun e => e.unitsAmount.getD e.amountUsd) db.cash

def returnsToHouseUnits (db : LedgerDb) (house : HouseAccounts) (w : Window) : Int :=
  if house.isEmpty then 0
  else
    sumWhere (fun t => house.contains t.recipientUserId && !house.contains t.senderAgentUserId &&
        t.reversedAt.isNone && w.contains t.createdAt) (·.tradingCoinsDebited)
      db.coinTradingTransfers +
    sumWhere (fun t => house.contains t.recipientAgentUserId &&
        !house.contains t.senderAgentUserId && w.contains t.createdAt) (·.points)
      db.agentPointTransfers

/-- A commission row of a customer agency for one of these host tx types: tagged with it, or
untagged and pointing at a credit of that type. -/
def isCommissionFor (db : LedgerDb) (house : HouseAccounts) (hostTxTypes : List PointTxType)
    (e : Leg PointTxType) : Bool :=
  e.txType = .agentCommission && e.direction = .credit && e.wallet.currencyType = .point &&
    !house.contains e.wallet.userId &&
    (e.hostTxType.any hostTxTypes.contains || (e.hostTxType.isNone && db.point.any fun h =>
      e.refId = some (.ledgerEntry h.idempotencyKey) && hostTxTypes.contains h.txType &&
        h.direction = .credit))

def sumAgencyCommission (db : LedgerDb) (house : HouseAccounts) (w : Window)
    (hostTxType : PointTxType) : Int :=
  sumWhere (fun e => w.contains e.createdAt && isCommissionFor db house [hostTxType] e) (·.amount)
    db.point

/-- Commission on gifts: an untagged row may also point at the gift itself. -/
def sumGiftRelatedAgencyCommission (db : LedgerDb) (house : HouseAccounts) (w : Window) : Int :=
  sumWhere (fun e => w.contains e.createdAt &&
      (isCommissionFor db house [.giftReceive, .livestreamGift] e ||
        (e.txType = .agentCommission && e.direction = .credit && e.wallet.currencyType = .point &&
          !house.contains e.wallet.userId && e.hostTxType.isNone &&
          db.giftTransactions.any fun g => e.refId = some (.giftTransaction g.id)))) (·.amount)
    db.point

structure GameHouseEdge where
  wagers : Int := 0
  payouts : Int := 0
  refunds : Int := 0
  edge : Int := 0

/-- Net diamonds the game house won, without the rounds it played against itself. -/
def gameHouseEdgeUnits (db : LedgerDb) (house : HouseAccounts) (w : Window) : GameHouseEdge :=
  if house.isEmpty then {}
  else
    let leg (direction : LedgerDirection) (txType : CoinTxType) := sumCoin db house w
      { direction, txTypes := [txType], currency := some .diamond, owner := .house }
    let wagers := leg .credit .gameWagerIn - leg .debit .gameWagerOut
    let payouts := leg .debit .gameResultOut - leg .credit .gameResultIn
    let refunds := leg .debit .gameRefundOut - leg .credit .gameRefundIn
    { wagers, payouts, refunds, edge := wagers - payouts - refunds }

def REWARD_POINT_TX : List PointTxType :=
  [.livestreamStreakReward, .platformReward, .normalHostReward, .normalHostBasicReward,
    .royalHostReward]

def rewardMintUnits (db : LedgerDb) (house : HouseAccounts) (w : Window) : Int :=
  let coin (txType : CoinTxType) := sumCoin db house w
    { direction := .credit, txTypes := [txType], currency := some .coin, owner := .customer }
  coin .dailyLogin + coin .weeklyTopup + coin .platformReward + coin .vipReward +
    sumPoint db house w
      { direction := .credit, txTypes := REWARD_POINT_TX, owner := .customer }

def ADMIN_DIAMOND_TX : List CoinTxType := [.adjustment, .gameAdjustment]

/-- The admin adjustments of the customers' wallets, over the four currencies. -/
def sumAdjustments (db : LedgerDb) (house : HouseAccounts) (w : Window)
    (direction : LedgerDirection) (promotionalOnly : Bool) (reallocation : Option Reallocation) :
    Int :=
  let coin (currency : WalletCurrencyType) (txTypes : List CoinTxType) := sumCoin db house w
    { direction, txTypes, currency := some currency, promotionalOnly, reallocation,
      owner := .customer }
  coin .coin [.adjustment] + coin .tradingCoin [.adjustment] +
    sumPoint db house w
      { direction, txTypes := [.adjustment], promotionalOnly, reallocation, owner := .customer } +
    coin .diamond ADMIN_DIAMOND_TX

def promoAdminMints (db : LedgerDb) (house : HouseAccounts) (w : Window) : Int :=
  sumAdjustments db house w .credit true none

def treasuryGiveaway (db : LedgerDb) (house : HouseAccounts) (w : Window) : Int :=
  (periodTotals db house w).promoUnits + (periodTotals db house w).writeOffUnits

/-! ### Imputed cash -/

structure ImputedCash where
  revenue : List LedgerLine
  costs : List LedgerLine
  grossSaleUnits : Int
  companyPayoutUnits : Int
  treasuryGiveaway : Int
  promoAdminMints : Int
  netMarginUnits : Int
  saleCount : Nat

def totalUnits (lines : List LedgerLine) : Int := (lines.map (·.units)).sum

def imputedCash (db : LedgerDb) (house : HouseAccounts) (w : Window) : ImputedCash :=
  let treasury := periodTotals db house w
  let topups (txType : CoinTxType) (currency : WalletCurrencyType) := sumCoin db house w
    { direction := .credit, txTypes := [txType], currency := some currency, owner := .customer }
  let payouts := companyPayoutUnits db w
  let promoAdminMints := promoAdminMints db house w
  let treasuryGiveaway := treasuryGiveaway db house w
  -- Promotional credits are a cost, so they must not also count as a sale.
  let directAdminSales := sumAdjustments db house w .credit false (some .exclude) - promoAdminMints
  let revenue : List LedgerLine := [
    ⟨"treasurySales", "Treasury unit sales (imputed)", treasury.saleUnits⟩,
    ⟨"treasurySaleReversals", "Treasury sale reversals", -treasury.reversedSaleUnits⟩,
    ⟨"returnsToHouse", "Units returned to house accounts", -returnsToHouseUnits db house w⟩,
    ⟨"epayCoinTopups", "Epay personal coin top-ups", topups .topup .coin⟩,
    ⟨"epayTradingTopups", "Epay trading-coin top-ups", topups .tradingTopup .tradingCoin⟩,
    ⟨"directAdminSales", "Direct admin mints to customers", directAdminSales⟩]
  let costs : List LedgerLine := [
    ⟨"companyPayouts", "Company fiat payouts (EPAY + takeover)", -payouts⟩,
    ⟨"treasuryGiveaway", "Treasury promo / write-off grants", -treasuryGiveaway⟩,
    ⟨"promoAdminMints", "Promotional admin mints", -promoAdminMints⟩]
  { revenue, costs, grossSaleUnits := totalUnits revenue, companyPayoutUnits := payouts,
    treasuryGiveaway, promoAdminMints, saleCount := treasury.saleCount,
    netMarginUnits := totalUnits revenue - payouts - treasuryGiveaway - promoAdminMints }

/-! ### Operating profit -/

/-- `rawCoins` of `profitFromCoinToPointSplit`. -/
def profitFromCoinToPointSplit (coinsSpent hostPoints agencyCommissionPoints : Int) : Int :=
  coinsSpent - hostPoints - agencyCommissionPoints

def clamp (n : Int) : Int := if n < 0 then 0 else n

def profitFromFullCoinSink (coinsSpent : Int) : Int := clamp coinsSpent

/-- Coins spent by anyone on one kind of thing. -/
def coinsSpent (db : LedgerDb) (house : HouseAccounts) (w : Window) (txType : CoinTxType) : Int :=
  sumCoin db house w { direction := .debit, txTypes := [txType], currency := some .coin }

/-- Coins credited to anyone under one type. -/
def coinsCredited (db : LedgerDb) (house : HouseAccounts) (w : Window) (txType : CoinTxType)
    (currency : WalletCurrencyType) : Int :=
  sumCoin db house w { direction := .credit, txTypes := [txType], currency := some currency }

def hostPoints (db : LedgerDb) (house : HouseAccounts) (w : Window) (txTypes : List PointTxType) :
    Int :=
  sumPoint db house w { direction := .credit, txTypes, owner := .customer }

structure SplitPair where
  id : String
  label : String
  coinType : CoinTxType
  pointType : PointTxType

def splitPairs : List SplitPair := [
  ⟨"videoCalls", "Video calls", .videoCall, .videoCall⟩,
  ⟨"subscriptions", "Subscriptions", .creatorSubscription, .subscription⟩,
  ⟨"guardian", "Guardian", .guardianPurchase, .guardianPurchase⟩]

def splitUnits (db : LedgerDb) (house : HouseAccounts) (w : Window) (p : SplitPair) : Int :=
  profitFromCoinToPointSplit (coinsSpent db house w p.coinType)
    (hostPoints db house w [p.pointType]) (sumAgencyCommission db house w p.pointType)

structure OperatingPnl where
  revenue : List LedgerLine
  costs : List LedgerLine
  operatingProfitUnits : Int

def operatingPnl (db : LedgerDb) (house : HouseAccounts) (w : Window) : OperatingPnl :=
  let giftCoins := coinsSpent db house w .giftSend - coinsCredited db house w .giftRefund .coin
  let gifts := profitFromCoinToPointSplit (clamp giftCoins)
    (hostPoints db house w [.giftReceive, .livestreamGift])
    (sumGiftRelatedAgencyCommission db house w)
  let store := sumWhere (fun i => w.contains i.createdAt) (·.coinsPaid) db.storeItems
  let vipMembership := sumWhere (fun p => w.contains p.createdAt) (·.coinCost) db.vipPurchases
  let customNet := coinsSpent db house w .customGiftRequest -
    coinsCredited db house w .customGiftRefund .coin
  let conversionSpread :=
    sumPoint db house w { direction := .debit, txTypes := [.transferOut] } -
      coinsCredited db house w .pointExchangeToCoins .coin -
      coinsCredited db house w .tradingExchangeFromPoints .tradingCoin
  let withdrawalDebits := sumPoint db house w
    { direction := .debit, txTypes := [.withdrawal, .withdrawalEscrowSettled], owner := .customer }
  let withdrawalCustomerCredits := sumPoint db house w
    { direction := .credit, owner := .customer,
      txTypes := [.payrollHostPayout, .payrollProcessingReward, .payrollTakeoverInventory,
        .withdrawalRefund] }
  let withdrawalNet := withdrawalDebits - withdrawalCustomerCredits - companyPayoutUnits db w
  let coinExpiry := sumCoin db house w
    { direction := .debit, txTypes := [.expire], currency := some .coin, owner := .customer }
  let forceExitPenalty := sumPoint db house w
    { direction := .debit, txTypes := [.agencyForceExitPenalty], owner := .customer }
  let adminClawback := sumAdjustments db house w .debit false (some .exclude)
  let revenue : List LedgerLine := [⟨"gifts", "Gifts (net of lucky refunds)", clamp gifts⟩] ++
    (splitPairs.map fun p => ⟨p.id, p.label, clamp (splitUnits db house w p)⟩) ++ [
    ⟨"store", "Store", profitFromFullCoinSink store⟩,
    ⟨"vipMembership", "VIP membership", vipMembership⟩,
    ⟨"vipRareId", "Rare ID", coinsSpent db house w .vipPurchase⟩,
    ⟨"usernameChange", "Username change", coinsSpent db house w .usernameChange⟩,
    ⟨"globalMessage", "Global message", coinsSpent db house w .globalMessage⟩,
    ⟨"customGifts", "Custom gifts (net)", clamp customNet⟩,
    ⟨"conversionSpread", "Point→coin conversion spread", clamp conversionSpread⟩,
    ⟨"withdrawalNet", "Withdrawal retention (net of company payouts)", withdrawalNet⟩,
    ⟨"gameHouseEdge", "Game house edge (diamonds won, net of payouts)",
      (gameHouseEdgeUnits db house w).edge⟩,
    ⟨"coinExpiry", "Expired coins", coinExpiry⟩,
    ⟨"forceExitPenalty", "Agency force-exit penalties", forceExitPenalty⟩,
    ⟨"adminClawback", "Admin clawbacks from customers", adminClawback⟩]
  let costs : List LedgerLine := [
    ⟨"rewards", "Platform rewards / login / streak", -rewardMintUnits db house w⟩,
    ⟨"promoAdminMints", "Promotional admin mints", -promoAdminMints db house w⟩,
    ⟨"treasuryGiveaway", "Treasury promo / write-off grants", -treasuryGiveaway db house w⟩]
  { revenue, costs, operatingProfitUnits := totalUnits revenue + totalUnits costs }

end OlNode.MasterLedger
