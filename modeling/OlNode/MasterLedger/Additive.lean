import OlNode.MasterLedger.Operations
import OlNode.MasterLedger.Reports

/-!
# The reports over two periods in a row

Every sum over a period is the sum over its two parts. What is not a plain sum: a treasury transfer
that is reversed in its own period is dropped, and later booked as a reversal, but only if it was a
sale; and some lines of the operating profit are cut off at zero in each period.
-/
namespace OlNode.MasterLedger

open History Totals CompanyCash

def period (start stop : Time) : Window := { start := some start, stop := some stop }

theorem period_contains (start stop t : Time) :
    (period start stop).contains t = (decide (start ≤ t) && decide (t < stop)) := rfl

/-- What is reported for the whole is the sum of what is reported for the parts. -/
def Additive (start mid stop : Time) (report : Window → Int) : Prop :=
  report (period start stop) = report (period start mid) + report (period mid stop)

section Sums

variable {start mid stop : Time} {f g : Window → Int}

theorem Additive.add (left : Additive start mid stop f) (right : Additive start mid stop g) :
    Additive start mid stop fun w => f w + g w := by
  simp only [Additive] at *
  omega

theorem Additive.sub (left : Additive start mid stop f) (right : Additive start mid stop g) :
    Additive start mid stop fun w => f w - g w := by
  simp only [Additive] at *
  omega

theorem Additive.zero : Additive start mid stop fun _ => 0 := rfl

theorem Additive.congr (left : Additive start mid stop f) (same : ∀ w, g w = f w) :
    Additive start mid stop g := by
  simpa only [Additive, same] using left

variable (lower : start ≤ mid) (upper : mid ≤ stop)
include lower upper

/-- An instant of the whole is in exactly one part. -/
theorem contains_cases (t : Time) :
    ((period start stop).contains t = true ∧
      (((period start mid).contains t = true ∧ (period mid stop).contains t = false) ∨
        ((period start mid).contains t = false ∧ (period mid stop).contains t = true))) ∨
    ((period start stop).contains t = false ∧ (period start mid).contains t = false ∧
      (period mid stop).contains t = false) := by
  simp only [period_contains, Bool.and_eq_true, Bool.and_eq_false_iff, decide_eq_true_eq,
    decide_eq_false_iff_not, not_le, not_lt]
  rcases lt_or_ge t start with before | after
  · exact .inr ⟨.inl before, .inl before, .inl (lt_of_lt_of_le before lower)⟩
  · rcases lt_or_ge t mid with first | second
    · exact .inl ⟨⟨after, lt_of_lt_of_le first upper⟩, .inl ⟨⟨after, first⟩, .inl first⟩⟩
    · rcases lt_or_ge t stop with inside | beyond
      · exact .inl ⟨⟨after, inside⟩, .inr ⟨.inr second, second, inside⟩⟩
      · exact .inr ⟨.inr beyond, .inr second, .inr beyond⟩

theorem Additive.sum {ρ : Type} {cond : Window → ρ → Bool} (time : ρ → Time) (always : ρ → Bool)
    (windowed : ∀ w row, cond w row = (w.contains (time row) && always row)) (value : ρ → Int)
    (rows : List ρ) : Additive start mid stop fun w => sumWhere (cond w) value rows := by
  simp only [Additive]
  induction rows with
  | nil => rfl
  | cons row rows ih =>
    rw [sumWhere_cons, sumWhere_cons, sumWhere_cons, ih]
    simp only [windowed]
    rcases contains_cases lower upper (time row) with
      ⟨whole, ⟨one, two⟩ | ⟨one, two⟩⟩ | ⟨whole, one, two⟩
    all_goals
      by_cases passes : always row <;> simp [whole, one, two, passes] <;> omega

theorem Additive.sumLegs {TxType : Type} [DecidableEq TxType] (house : HouseAccounts)
    (legs : List (Leg TxType)) (params : PickParams TxType) :
    Additive start mid stop fun w => sumLegs house w legs params := by
  simp only [sumLegs_eq]
  exact Additive.sum lower upper (fun e : Leg TxType => e.createdAt) _ (fun _ _ => rfl) _ _

end Sums

/-! ### Plain sums of the reports -/

section Parts

variable {start mid stop : Time} (lower : start ≤ mid) (upper : mid ≤ stop) (db : LedgerDb)
  (house : HouseAccounts)
include lower upper

theorem sumCoin_additive (params : PickParams CoinTxType) :
    Additive start mid stop fun w => sumCoin db house w params :=
  Additive.sumLegs lower upper house db.coin params

theorem sumPoint_additive (params : PickParams PointTxType) :
    Additive start mid stop fun w => sumPoint db house w params :=
  Additive.sumLegs lower upper house db.point params

theorem companyPayoutUnits_additive : Additive start mid stop (companyPayoutUnits db) := by
  refine Additive.sum lower upper (fun e : CashRow => e.createdAt)
    (fun e => e.direction = .outgoing && !e.promotional) ?_ _ _
  intro w e
  exact Bool.and_comm _ _

theorem returnsToHouseUnits_additive : Additive start mid stop (returnsToHouseUnits db house) := by
  by_cases empty : house.isEmpty
  · exact Additive.zero.congr fun w => by simp [returnsToHouseUnits, empty]
  · have coins : Additive start mid stop fun w => sumWhere
        (fun t => house.contains t.recipientUserId && !house.contains t.senderAgentUserId &&
          t.reversedAt.isNone && w.contains t.createdAt) (·.tradingCoinsDebited)
        db.coinTradingTransfers := by
      refine Additive.sum lower upper (fun t : CoinTradingTransfer => t.createdAt)
        (fun t => house.contains t.recipientUserId && !house.contains t.senderAgentUserId &&
          t.reversedAt.isNone) ?_ _ _
      intro w t
      exact Bool.and_comm _ _
    have points : Additive start mid stop fun w => sumWhere
        (fun t => house.contains t.recipientAgentUserId &&
          !house.contains t.senderAgentUserId && w.contains t.createdAt) (·.points)
        db.agentPointTransfers := by
      refine Additive.sum lower upper (fun t : AgentPointTransfer => t.createdAt)
        (fun t => house.contains t.recipientAgentUserId && !house.contains t.senderAgentUserId)
        ?_ _ _
      intro w t
      exact Bool.and_comm _ _
    exact (coins.add points).congr fun w => by simp [returnsToHouseUnits, empty]

theorem sumAgencyCommission_additive (hostTxType : PointTxType) :
    Additive start mid stop fun w => sumAgencyCommission db house w hostTxType :=
  Additive.sum lower upper (fun e : Leg PointTxType => e.createdAt) _ (fun _ _ => rfl) _ _

theorem sumGiftRelatedAgencyCommission_additive :
    Additive start mid stop (sumGiftRelatedAgencyCommission db house) :=
  Additive.sum lower upper (fun e : Leg PointTxType => e.createdAt) _ (fun _ _ => rfl) _ _

theorem gameHouseEdgeUnits_additive :
    Additive start mid stop fun w => (gameHouseEdgeUnits db house w).edge := by
  by_cases empty : house.isEmpty
  · exact Additive.zero.congr fun w => by simp [gameHouseEdgeUnits, empty]
  · have leg := fun direction txType => sumCoin_additive lower upper db house
      { direction, txTypes := [txType], currency := some .diamond, owner := .house }
    have edge := (((leg .credit .gameWagerIn).sub (leg .debit .gameWagerOut)).sub
      ((leg .debit .gameResultOut).sub (leg .credit .gameResultIn))).sub
      ((leg .debit .gameRefundOut).sub (leg .credit .gameRefundIn))
    exact edge.congr fun w => by simp [gameHouseEdgeUnits, empty]

theorem rewardMintUnits_additive : Additive start mid stop (rewardMintUnits db house) := by
  have coin := fun txType => sumCoin_additive lower upper db house
    { direction := .credit, txTypes := [txType], currency := some .coin, owner := .customer }
  exact ((((coin .dailyLogin).add (coin .weeklyTopup)).add (coin .platformReward)).add
    (coin .vipReward)).add (sumPoint_additive lower upper db house _)

theorem sumAdjustments_additive (direction : LedgerDirection) (promotionalOnly : Bool)
    (reallocation : Option Reallocation) :
    Additive start mid stop fun w =>
      sumAdjustments db house w direction promotionalOnly reallocation :=
  (((sumCoin_additive lower upper db house _).add (sumCoin_additive lower upper db house _)).add
    (sumPoint_additive lower upper db house _)).add (sumCoin_additive lower upper db house _)

end Parts

/-! ### Treasury flows -/

section Treasury

variable {ρ : Type}

private theorem sumWhere_aggregate (kind : ρ → TreasuryFlowClassificationType) (units : ρ → Int)
    (rows : List ρ) (k : TreasuryFlowClassificationType) :
    sumWhere (fun r => decide (r.kind = k)) (·.units) (aggregate kind units rows) =
      sumWhere (fun row => decide (kind row = k)) units rows := by
  have grouped := sum_groups kind (fun other => if other = k then 1 else 0) units rows
  rw [sumWhere_eq_weighted, sumWhere_eq_weighted, aggregate, List.map_map]
  simpa only [Function.comp_def, decide_eq_true_eq] using grouped

private theorem applyAgg_created (totals : TreasuryFlowTotals) (rows : List AggRow) :
    applyAgg totals rows false =
      { totals with
        saleUnits := totals.saleUnits +
          sumWhere (fun r => decide (r.kind = .sale)) (·.units) rows
        promoUnits := totals.promoUnits +
          sumWhere (fun r => decide (r.kind = .promo)) (·.units) rows
        writeOffUnits := totals.writeOffUnits +
          sumWhere (fun r => decide (r.kind = .writeOff)) (·.units) rows
        internalUnits := totals.internalUnits +
          sumWhere (fun r => decide (r.kind = .internal)) (·.units) rows
        saleCount := totals.saleCount + ((rows.filter (·.kind = .sale)).map (·.cnt)).sum } := by
  induction rows generalizing totals with
  | nil => simp [applyAgg]
  | cons r rows ih =>
    refine (ih (totals.add false r)).trans ?_
    simp only [sumWhere_cons, TreasuryFlowTotals.add]
    cases kind : r.kind <;> simp [kind, add_assoc]

private theorem applyAgg_reversed (totals : TreasuryFlowTotals) (rows : List AggRow) :
    applyAgg totals rows true =
      { totals with
        reversedSaleUnits := totals.reversedSaleUnits +
          sumWhere (fun r => decide (r.kind = .sale)) (·.units) rows } := by
  induction rows generalizing totals with
  | nil => simp [applyAgg]
  | cons r rows ih =>
    refine (ih (totals.add true r)).trans ?_
    simp only [sumWhere_cons, TreasuryFlowTotals.add]
    cases kind : r.kind <;> simp
    omega

variable (db : LedgerDb) (house : HouseAccounts)

/-- Coin transfers of one kind that leave the house and satisfy `cond`, in units. -/
def coinFlow (kind : TreasuryFlowClassificationType) (cond : CoinTradingTransfer → Bool) : Int :=
  sumWhere (fun t => house.contains t.senderAgentUserId && decide (coinFlowKind db house t = kind) &&
    cond t) (·.tradingCoinsDebited) db.coinTradingTransfers

def pointFlow (kind : TreasuryFlowClassificationType) (cond : AgentPointTransfer → Bool) : Int :=
  sumWhere (fun t => house.contains t.senderAgentUserId && decide (pointFlowKind db house t = kind) &&
    cond t) (·.points) db.agentPointTransfers

/-- Created in the window and not reversed in it. -/
def createdIn (w : Window) (t : CoinTradingTransfer) : Bool :=
  w.contains t.createdAt && !t.reversedAt.any w.contains

/-- Reversed in the window and not created in it. -/
def reversedIn (w : Window) (t : CoinTradingTransfer) : Bool :=
  t.reversedAt.any w.contains && !w.contains t.createdAt

theorem periodTotals_eq (w : Window) :
    (periodTotals db house w).saleUnits = coinFlow db house .sale (createdIn w) +
        pointFlow db house .sale (w.contains ·.createdAt) ∧
      (periodTotals db house w).promoUnits = coinFlow db house .promo (createdIn w) +
        pointFlow db house .promo (w.contains ·.createdAt) ∧
      (periodTotals db house w).writeOffUnits = coinFlow db house .writeOff (createdIn w) +
        pointFlow db house .writeOff (w.contains ·.createdAt) ∧
      (periodTotals db house w).reversedSaleUnits = coinFlow db house .sale (reversedIn w) := by
  by_cases empty : house.isEmpty
  · -- Nothing leaves a house without accounts.
    obtain rfl : house = [] := List.isEmpty_iff.mp empty
    simp [periodTotals, coinFlow, pointFlow, sumWhere]
  · have coins : ∀ cond k, sumWhere (fun r => decide (r.kind = k)) (·.units)
        (aggregate (coinFlowKind db house) (·.tradingCoinsDebited)
          (db.coinTradingTransfers.filter fun t => house.contains t.senderAgentUserId && cond t)) =
        coinFlow db house k cond := by
      intro cond k
      rw [sumWhere_aggregate, sumWhere_filter, coinFlow]
      simp only [Bool.and_comm, Bool.and_assoc]
    have points : ∀ k, sumWhere (fun r => decide (r.kind = k)) (·.units)
        (aggregate (pointFlowKind db house) (·.points)
          (db.agentPointTransfers.filter fun t => house.contains t.senderAgentUserId &&
            w.contains t.createdAt)) = pointFlow db house k (w.contains ·.createdAt) := by
      intro k
      rw [sumWhere_aggregate, sumWhere_filter, pointFlow]
      simp only [Bool.and_comm, Bool.and_left_comm, Bool.and_assoc]
    rw [periodTotals, if_neg empty]
    have created : createdIn w = fun t => !t.reversedAt.any w.contains && w.contains t.createdAt :=
      funext fun _ => Bool.and_comm ..
    simp only [applyAgg_created, applyAgg_reversed, Bool.and_assoc, coins, points, zero_add,
      created, true_and]
    rfl

private theorem coinFlow_add_eq (k : TreasuryFlowClassificationType)
    (a b c d : CoinTradingTransfer → Bool)
    (each : ∀ t, ((if a t then 1 else 0) + (if b t then 1 else 0) : Int) =
      (if c t then 1 else 0) + (if d t then 1 else 0)) :
    coinFlow db house k a + coinFlow db house k b =
      coinFlow db house k c + coinFlow db house k d := by
  simp only [coinFlow, sumWhere_eq_weighted, ← List.sum_map_add]
  congr 1
  refine List.map_congr_left fun t _ => ?_
  have own := each t
  by_cases flows : house.contains t.senderAgentUserId && decide (coinFlowKind db house t = k)
  · simp only [flows, Bool.true_and, ← add_mul, own]
  · rw [Bool.not_eq_true] at flows
    simp only [flows, Bool.false_and]

/-- What a sale adds to the revenue: its units when it is created, less them when reversed. -/
theorem coinFlow_sales (w : Window) :
    coinFlow db house .sale (createdIn w) - coinFlow db house .sale (reversedIn w) =
      coinFlow db house .sale (w.contains ·.createdAt) -
        coinFlow db house .sale (·.reversedAt.any w.contains) := by
  have same := coinFlow_add_eq db house .sale (createdIn w) (·.reversedAt.any w.contains)
    (w.contains ·.createdAt) (reversedIn w) fun t => by
      unfold createdIn reversedIn
      by_cases created : w.contains t.createdAt <;> by_cases reversed : t.reversedAt.any w.contains
      all_goals simp [created, reversed]
  omega

/-- A transfer is created in one part and reversed in the other. -/
def crosses (start mid stop : Time) (t : CoinTradingTransfer) : Bool :=
  ((period start mid).contains t.createdAt && t.reversedAt.any (period mid stop).contains) ||
    ((period mid stop).contains t.createdAt && t.reversedAt.any (period start mid).contains)

section Parts

variable {start mid stop : Time} (lower : start ≤ mid) (upper : mid ≤ stop)
include lower upper

theorem treasurySales_additive : Additive start mid stop fun w =>
    (periodTotals db house w).saleUnits - (periodTotals db house w).reversedSaleUnits := by
  have created : Additive start mid stop fun w =>
      coinFlow db house .sale (w.contains ·.createdAt) := by
    refine Additive.sum lower upper (fun t : CoinTradingTransfer => t.createdAt) (fun t =>
      house.contains t.senderAgentUserId && decide (coinFlowKind db house t = .sale)) ?_ _ _
    intro w t
    exact Bool.and_comm _ _
  have reversed : Additive start mid stop fun w =>
      coinFlow db house .sale (·.reversedAt.any w.contains) := by
    refine Additive.sum lower upper (fun t : CoinTradingTransfer => t.reversedAt.getD 0) (fun t =>
      house.contains t.senderAgentUserId && decide (coinFlowKind db house t = .sale) &&
        t.reversedAt.isSome) ?_ _ _
    intro w t
    cases reversedAt : t.reversedAt with
    | none => simp [reversedAt]
    | some instant => simp [reversedAt, Bool.and_comm]
  have points : Additive start mid stop fun w =>
      pointFlow db house .sale (w.contains ·.createdAt) := by
    refine Additive.sum lower upper (fun t : AgentPointTransfer => t.createdAt) (fun t =>
      house.contains t.senderAgentUserId && decide (pointFlowKind db house t = .sale)) ?_ _ _
    intro w t
    exact Bool.and_comm _ _
  refine ((created.sub reversed).add points).congr fun w => ?_
  obtain ⟨sale, -, -, reversal⟩ := periodTotals_eq db house w
  have sales := coinFlow_sales db house w
  omega

/-- The parts report what was given away in one and taken back in the other; the whole does not. -/
theorem giveaway_excess (k : TreasuryFlowClassificationType) :
    coinFlow db house k (createdIn (period start mid)) +
        coinFlow db house k (createdIn (period mid stop)) =
      coinFlow db house k (createdIn (period start stop)) +
        coinFlow db house k (crosses start mid stop) := by
  refine coinFlow_add_eq db house k _ _ _ _ fun t => ?_
  unfold createdIn crosses
  cases reversedAt : t.reversedAt with
  | none =>
    rcases contains_cases lower upper t.createdAt with
      ⟨whole, ⟨one, two⟩ | ⟨one, two⟩⟩ | ⟨whole, one, two⟩
    all_goals simp [whole, one, two]
  | some reversed =>
    rcases contains_cases lower upper t.createdAt with
      ⟨whole, ⟨one, two⟩ | ⟨one, two⟩⟩ | ⟨whole, one, two⟩ <;>
    rcases contains_cases lower upper reversed with
      ⟨whole', ⟨one', two'⟩ | ⟨one', two'⟩⟩ | ⟨whole', one', two'⟩
    all_goals simp [whole, one, two, whole', one', two']

end Parts

end Treasury

/-! ### Lines cut off at zero -/

def OppositeSigns (a b : Int) : Prop := (a < 0 ∧ 0 < b) ∨ (b < 0 ∧ 0 < a)

instance (a b : Int) : Decidable (OppositeSigns a b) :=
  inferInstanceAs (Decidable ((a < 0 ∧ 0 < b) ∨ (b < 0 ∧ 0 < a)))

/-- Cutting off the parts never reports less than cutting off the whole. -/
theorem clamp_add_le (a b : Int) : clamp (a + b) ≤ clamp a + clamp b := by
  unfold clamp
  split_ifs <;> omega

theorem clamp_add_iff (a b : Int) : clamp (a + b) = clamp a + clamp b ↔ ¬OppositeSigns a b := by
  unfold clamp OppositeSigns
  split_ifs <;> omega

section Lines

variable (db : LedgerDb) (house : HouseAccounts)

/-- Gift coins not refunded, less what hosts and agencies got. -/
def giftNet (w : Window) : Int :=
  coinsSpent db house w .giftSend - coinsCredited db house w .giftRefund .coin -
    hostPoints db house w [.giftReceive, .livestreamGift] -
    sumGiftRelatedAgencyCommission db house w

def storeNet (w : Window) : Int :=
  sumWhere (fun i => w.contains i.createdAt) (·.coinsPaid) db.storeItems

def customGiftNet (w : Window) : Int :=
  coinsSpent db house w .customGiftRequest - coinsCredited db house w .customGiftRefund .coin

def conversionNet (w : Window) : Int :=
  sumPoint db house w { direction := .debit, txTypes := [.transferOut] } -
    coinsCredited db house w .pointExchangeToCoins .coin -
    coinsCredited db house w .tradingExchangeFromPoints .tradingCoin

/-- The sums behind the lines that are cut off at zero. -/
def clampedNets : List (Window → Int) :=
  [giftNet db house] ++ splitPairs.map (fun p w => splitUnits db house w p) ++
    [storeNet db, customGiftNet db house, conversionNet db house]

/-- The other lines of the operating profit, but for the giveaway. -/
def plainUnits (w : Window) : Int :=
  sumWhere (fun p => w.contains p.createdAt) (·.coinCost) db.vipPurchases +
    coinsSpent db house w .vipPurchase + coinsSpent db house w .usernameChange +
    coinsSpent db house w .globalMessage +
    (sumPoint db house w
      { direction := .debit, txTypes := [.withdrawal, .withdrawalEscrowSettled],
        owner := .customer } -
    sumPoint db house w
      { direction := .credit, owner := .customer,
        txTypes := [.payrollHostPayout, .payrollProcessingReward, .payrollTakeoverInventory,
          .withdrawalRefund] } - companyPayoutUnits db w) +
    (gameHouseEdgeUnits db house w).edge +
    sumCoin db house w
      { direction := .debit, txTypes := [.expire], currency := some .coin, owner := .customer } +
    sumPoint db house w
      { direction := .debit, txTypes := [.agencyForceExitPenalty], owner := .customer } +
    sumAdjustments db house w .debit false (some .exclude) -
    rewardMintUnits db house w - promoAdminMints db house w

private theorem sumPoint_nonneg (w : Window) (params : PickParams PointTxType) :
    0 ≤ sumPoint db house w params := by
  rw [sumPoint, sumLegs_eq]
  exact sumWhere_nonneg fun e member => (db.point_pos e member).le

/-- The inner cut of the gift line changes nothing, since hosts and agencies get no less than 0. -/
private theorem clamp_gifts (w : Window) :
    clamp (profitFromCoinToPointSplit
      (clamp (coinsSpent db house w .giftSend - coinsCredited db house w .giftRefund .coin))
      (hostPoints db house w [.giftReceive, .livestreamGift])
      (sumGiftRelatedAgencyCommission db house w)) = clamp (giftNet db house w) := by
  have host : 0 ≤ hostPoints db house w [.giftReceive, .livestreamGift] :=
    sumPoint_nonneg db house w _
  have agency : 0 ≤ sumGiftRelatedAgencyCommission db house w :=
    sumWhere_nonneg fun e member => (db.point_pos e member).le
  unfold profitFromCoinToPointSplit giftNet clamp
  split_ifs <;> omega

theorem operatingProfit_eq (w : Window) :
    (operatingPnl db house w).operatingProfitUnits =
      ((clampedNets db house).map fun net => clamp (net w)).sum + plainUnits db house w -
        treasuryGiveaway db house w := by
  have gifts := clamp_gifts db house w
  simp only [operatingPnl, totalUnits, clampedNets, splitPairs, List.map_cons, List.map_nil,
    List.cons_append, List.nil_append, List.sum_cons, List.sum_nil, profitFromFullCoinSink,
    plainUnits, storeNet, customGiftNet, conversionNet]
  omega

end Lines

/-! ### Both reports -/

section Reports

variable {start mid stop : Time} (lower : start ≤ mid) (upper : mid ≤ stop) (db : LedgerDb)
  (house : HouseAccounts)
include lower upper

private theorem plainUnits_additive : Additive start mid stop (plainUnits db house) := by
  have spent := fun txType => sumCoin_additive lower upper db house
    { direction := .debit, txTypes := [txType], currency := some .coin }
  have vip : Additive start mid stop fun w =>
      sumWhere (fun p => w.contains p.createdAt) (·.coinCost) db.vipPurchases :=
    Additive.sum lower upper (fun p : Memberships.VipMembershipPurchase => p.createdAt)
      (fun _ => true) (fun _ _ => (Bool.and_true _).symm) _ _
  have point := sumPoint_additive lower upper db house
  have payouts := companyPayoutUnits_additive lower upper db
  have edge := gameHouseEdgeUnits_additive lower upper db house
  have rewards := rewardMintUnits_additive lower upper db house
  have adjustments := sumAdjustments_additive lower upper db house
  have sinks := ((vip.add (spent .vipPurchase)).add (spent .usernameChange)).add
    (spent .globalMessage)
  exact ((((((sinks.add (((point _).sub (point _)).sub payouts)).add edge).add
    (sumCoin_additive lower upper db house _)).add (point _)).add
    (adjustments _ _ _)).sub rewards).sub (adjustments _ _ _)

private theorem clampedNets_additive {net : Window → Int} (member : net ∈ clampedNets db house) :
    Additive start mid stop net := by
  have coin := sumCoin_additive lower upper db house
  have point := sumPoint_additive lower upper db house
  simp only [clampedNets, splitPairs, List.map_cons, List.map_nil, List.cons_append,
    List.nil_append, List.mem_cons, List.not_mem_nil, or_false] at member
  have split : ∀ p : SplitPair, Additive start mid stop fun w => splitUnits db house w p :=
    fun p => ((coin _).sub (point _)).sub (sumAgencyCommission_additive lower upper db house _)
  rcases member with rfl | rfl | rfl | rfl | rfl | rfl | rfl
  · exact (((coin _).sub (coin _)).sub (point _)).sub
      (sumGiftRelatedAgencyCommission_additive lower upper db house)
  · exact split _
  · exact split _
  · exact split _
  · exact Additive.sum lower upper (fun i : UserStoreItem => i.createdAt) (fun _ => true)
      (fun _ _ => (Bool.and_true _).symm) _ _
  · exact (coin _).sub (coin _)
  · exact ((point _).sub (coin _)).sub (coin _)

private theorem grossSaleUnits_additive :
    Additive start mid stop fun w => (imputedCash db house w).grossSaleUnits := by
  have sales := treasurySales_additive db house lower upper
  have returns := returnsToHouseUnits_additive lower upper db house
  have topups := fun txType currency => sumCoin_additive lower upper db house
    { direction := .credit, txTypes := [txType], currency := some currency, owner := .customer }
  have adjustments := sumAdjustments_additive lower upper db house
  have minted := (adjustments .credit false (some .exclude)).sub (adjustments .credit true none)
  refine ((((sales.sub returns).add (topups .topup .coin)).add
    (topups .tradingTopup .tradingCoin)).add minted).congr fun w => ?_
  simp only [imputedCash, totalUnits, promoAdminMints, List.map_cons, List.map_nil, List.sum_cons,
    List.sum_nil]
  omega

end Reports

private theorem clampedSum_iff {start mid stop : Time} (nets : List (Window → Int))
    (additive : ∀ net ∈ nets, Additive start mid stop net) :
    let total := fun w => (nets.map fun net => clamp (net w)).sum
    total (period start stop) ≤ total (period start mid) + total (period mid stop) ∧
      (total (period start stop) = total (period start mid) + total (period mid stop) ↔
        ∀ net ∈ nets, ¬OppositeSigns (net (period start mid)) (net (period mid stop))) := by
  induction nets with
  | nil => simp
  | cons net nets ih =>
    have whole : net (period start stop) = net (period start mid) + net (period mid stop) :=
      additive net List.mem_cons_self
    obtain ⟨le, iff⟩ := ih fun other member => additive other (List.mem_cons_of_mem _ member)
    dsimp only at le iff
    have ownLe := clamp_add_le (net (period start mid)) (net (period mid stop))
    have ownIff := clamp_add_iff (net (period start mid)) (net (period mid stop))
    simp only [List.map_cons, List.sum_cons, List.forall_mem_cons, whole, ← iff, ← ownIff]
    omega

/-- A transfer of the treasury to a customer for nothing. -/
def isGiveaway (db : LedgerDb) (house : HouseAccounts) (t : CoinTradingTransfer) : Bool :=
  house.contains t.senderAgentUserId &&
    (coinFlowKind db house t = .promo || coinFlowKind db house t = .writeOff)

private theorem coinFlow_nonneg (db : LedgerDb) (house : HouseAccounts)
    (k : TreasuryFlowClassificationType) (cond : CoinTradingTransfer → Bool) :
    0 ≤ coinFlow db house k cond :=
  sumWhere_nonneg fun t member => (db.transfer_pos t member).le

private theorem crossing_eq_zero_iff (db : LedgerDb) (house : HouseAccounts)
    (cond : CoinTradingTransfer → Bool) :
    coinFlow db house .promo cond + coinFlow db house .writeOff cond = 0 ↔
      ∀ t ∈ db.coinTradingTransfers, isGiveaway db house t → ¬cond t := by
  have promo := coinFlow_nonneg db house .promo cond
  have writeOff := coinFlow_nonneg db house .writeOff cond
  have both : coinFlow db house .promo cond + coinFlow db house .writeOff cond = 0 ↔
      coinFlow db house .promo cond = 0 ∧ coinFlow db house .writeOff cond = 0 := by omega
  rw [both, coinFlow, coinFlow, sumWhere_eq_zero_iff db.transfer_pos,
    sumWhere_eq_zero_iff db.transfer_pos, ← forall₂_and]
  refine forall₂_congr fun t _ => ?_
  simp only [isGiveaway, Bool.and_eq_true, Bool.or_eq_true, decide_eq_true_eq]
  tauto

private theorem giveaway_iff {start mid stop : Time} (lower : start ≤ mid) (upper : mid ≤ stop)
    (db : LedgerDb) (house : HouseAccounts) :
    Additive start mid stop (treasuryGiveaway db house) ↔
      ∀ t ∈ db.coinTradingTransfers, isGiveaway db house t → ¬crosses start mid stop t := by
  have promo := giveaway_excess db house lower upper .promo
  have writeOff := giveaway_excess db house lower upper .writeOff
  have points : ∀ k, Additive start mid stop fun w =>
      pointFlow db house k (w.contains ·.createdAt) := by
    intro k
    refine Additive.sum lower upper (fun t : AgentPointTransfer => t.createdAt) (fun t =>
      house.contains t.senderAgentUserId && decide (pointFlowKind db house t = k)) ?_ _ _
    intro w t
    exact Bool.and_comm _ _
  have pointPromo := points .promo
  have pointWriteOff := points .writeOff
  have total : ∀ w, treasuryGiveaway db house w =
      coinFlow db house .promo (createdIn w) + pointFlow db house .promo (w.contains ·.createdAt) +
        (coinFlow db house .writeOff (createdIn w) +
          pointFlow db house .writeOff (w.contains ·.createdAt)) := by
    intro w
    obtain ⟨-, promos, writeOffs, -⟩ := periodTotals_eq db house w
    rw [treasuryGiveaway, promos, writeOffs]
  rw [← crossing_eq_zero_iff]
  simp only [Additive, total] at *
  omega

/-- The reports of a period are the sums of those of its parts exactly if no giveaway was made in
one part and reversed in the other, and no line that is cut off at zero is negative in one part and
positive in the other. -/
theorem reports_additive_iff {start mid stop : Time} (lower : start ≤ mid) (upper : mid ≤ stop)
    (db : LedgerDb) (house : HouseAccounts) :
    (Additive start mid stop (fun w => (imputedCash db house w).grossSaleUnits) ∧
        Additive start mid stop (fun w => (imputedCash db house w).companyPayoutUnits) ∧
        Additive start mid stop (fun w => (imputedCash db house w).treasuryGiveaway) ∧
        Additive start mid stop (fun w => (operatingPnl db house w).operatingProfitUnits)) ↔
      (∀ t ∈ db.coinTradingTransfers, isGiveaway db house t → ¬crosses start mid stop t) ∧
        ∀ net ∈ clampedNets db house,
          ¬OppositeSigns (net (period start mid)) (net (period mid stop)) := by
  have gross := grossSaleUnits_additive lower upper db house
  have payouts := companyPayoutUnits_additive lower upper db
  have giveaway := giveaway_iff lower upper db house
  have plain := plainUnits_additive lower upper db house
  have clamped := (clampedSum_iff (clampedNets db house)
    fun _ => clampedNets_additive lower upper db house).2
  dsimp only at clamped
  rw [← giveaway, ← clamped]
  constructor
  · rintro ⟨-, -, gave, operating⟩
    refine ⟨gave, ?_⟩
    change Additive start mid stop (treasuryGiveaway db house) at gave
    simp only [Additive, operatingProfit_eq] at *
    omega
  · rintro ⟨gave, cut⟩
    refine ⟨gross, payouts, gave, ?_⟩
    simp only [Additive, operatingProfit_eq] at *
    omega

/-- A user tops up for a custom gift that is refunded later, and is given trading coins, which are
taken back at the same time. -/
def takenBackLater : LedgerDb :=
  (LedgerDb.initial (· = 9) (fun _ _ => some .promo) []).run [
    .topUpTrading 9 40 ⟨1, 0, .other 1⟩, .topUp 1 100 ⟨2, 0, .other 2⟩,
    .requestCustomGift 1 100 ⟨3, 1, .other 3⟩,
    .tradingTransfer 1 9 1 true 40 ⟨4, 1, .other 4⟩ ⟨5, 1, .other 5⟩ 1,
    .refundCustomGift 1 100 ⟨6, 3, .other 6⟩,
    .reverseTransfer 1 true 40 ⟨7, 3, .other 7⟩ ⟨8, 3, .other 8⟩ 3]

/-- In one part everything is topped up, in the other it is spent and taken back. -/
theorem reports_additive_takenBackLater :
    Additive 0 1 4 (fun w => (imputedCash takenBackLater [9] w).grossSaleUnits) ∧
      Additive 0 1 4 (fun w => (imputedCash takenBackLater [9] w).companyPayoutUnits) ∧
      Additive 0 1 4 (fun w => (imputedCash takenBackLater [9] w).treasuryGiveaway) ∧
      Additive 0 1 4 (fun w => (operatingPnl takenBackLater [9] w).operatingProfitUnits) := by
  refine (reports_additive_iff (by decide) (by decide) takenBackLater [9]).mpr ⟨by decide, ?_⟩
  intro net member
  simp only [clampedNets, splitPairs, List.map_cons, List.map_nil, List.cons_append,
    List.nil_append, List.mem_cons, List.not_mem_nil, or_false] at member
  rcases member with rfl | rfl | rfl | rfl | rfl | rfl | rfl <;> decide

theorem reports_not_additive :
    ¬Additive 0 2 4 (fun w => (imputedCash takenBackLater [9] w).treasuryGiveaway) ∧
      ¬Additive 0 2 4 (fun w => (operatingPnl takenBackLater [9] w).operatingProfitUnits) := by
  unfold Additive
  decide

end OlNode.MasterLedger
