import Mathlib.Tactic.Ring
import OlNode.LuckyWater.Guard

/-!
# What the guard promises the house

The exact expectation of a unit's reward is taken over all rolls. Coins are rounded down wherever
the ledger pays, so a spend costs the house at most what the basis points say; at a spend that all
the denominators divide it costs exactly that. The guard therefore protects the margin for every
spend just when it also holds for the agency's share before it was rounded.
-/
namespace OlNode

/-- The expected reward of one unit over a uniform roll. -/
def expectedReward (weights : BandWeights) (price : Int) : ℚ :=
  ((∑ roll ∈ Finset.range 10000, rawReward price (outcomeFromRoll weights roll) : Int) : ℚ) / 10000

/-- The host points of a spend, as `luckyGiftSend` computes them. -/
def luckyHostPoints (shares : HostRevenueShares) (spend : Int) : Int :=
  (spend * shares.luckyHostShareBp).tdiv 10000

/-- The most that `applyCommission` credits to an agency of any level for a spend; the host credit
is a LIVESTREAM_GIFT, for which the live rate counts. -/
def largestCommission (shares : HostRevenueShares) (levels : List CommissionLevelRow)
    (spend : Int) : Int :=
  if shares.luckyWaterAgencyCommission then
    (levels.map fun l => (luckyHostPoints shares spend * l.liveRateBp).tdiv 10000).max?.getD 0
  else 0

/-- What a unit costs the house in the mean, points at their guarded value. -/
def expectedCost (weights : BandWeights) (shares : HostRevenueShares)
    (levels : List CommissionLevelRow) (vMaxBp price : Int) : ℚ :=
  expectedReward weights price +
    (luckyHostPoints shares price + largestCommission shares levels price) * vMaxBp / 10000

def KeepsMargin (weights : BandWeightsByBand) (shares : HostRevenueShares)
    (levels : List CommissionLevelRow) (tier : LuckyTierRow) : Prop :=
  ∀ band price, 0 < price → expectedCost (weights.at band) shares levels tier.vMaxBp price <
    (1 - (tier.safetyMarginBp : ℚ) / 10000) * price

/-! ### The expectation -/

/-- The rolls that an outcome's weight covers, one after the other. -/
theorem sum_outcomeFrom (weights : BandWeights) (f : LuckyOutcome → Int)
    (outcomes : List LuckyOutcome) (acc : Nat) :
    ∑ roll ∈ Finset.Ico acc (acc + (outcomes.map weights.at).sum),
        f (outcomeFrom weights roll acc outcomes) =
      (outcomes.map fun k => (weights.at k : Int) * f k).sum := by
  induction outcomes generalizing acc with
  | nil => simp
  | cons k rest ih =>
    have first : acc ≤ acc + weights.at k := Nat.le_add_right _ _
    have second : acc + weights.at k ≤ acc + weights.at k + (rest.map weights.at).sum :=
      Nat.le_add_right _ _
    have hits : ∑ roll ∈ Finset.Ico acc (acc + weights.at k),
        f (outcomeFrom weights roll acc (k :: rest)) = (weights.at k : Int) * f k := by
      have constant : ∀ roll ∈ Finset.Ico acc (acc + weights.at k),
          f (outcomeFrom weights roll acc (k :: rest)) = f k := by
        intro roll inside
        rw [outcomeFrom, if_pos (Finset.mem_Ico.mp inside).2]
      rw [Finset.sum_congr rfl constant, Finset.sum_const, Nat.card_Ico, nsmul_eq_mul,
        Nat.add_sub_cancel_left]
    have misses : ∑ roll ∈ Finset.Ico (acc + weights.at k)
          (acc + weights.at k + (rest.map weights.at).sum),
        f (outcomeFrom weights roll acc (k :: rest)) =
        (rest.map fun k => (weights.at k : Int) * f k).sum := by
      rw [← ih (acc + weights.at k)]
      refine Finset.sum_congr rfl fun roll inside => ?_
      have past := (Finset.mem_Ico.mp inside).1
      rw [outcomeFrom, if_neg (by omega)]
    rw [List.map_cons, List.sum_cons, ← Nat.add_assoc,
      ← Finset.sum_Ico_consecutive _ first second, hits, misses, List.map_cons, List.sum_cons]

theorem expectedReward_eq {weights : BandWeights} (full : sumBandWeights weights = 10000)
    (price : Int) :
    expectedReward weights price =
      ((LUCKY_OUTCOMES.map fun k => (weights.at k : Int) * rawReward price k).sum : Int) /
        10000 := by
  have rolls := sum_outcomeFrom weights (rawReward price) LUCKY_OUTCOMES 0
  rw [← sumBandWeights, full, Nat.zero_add, ← Finset.range_eq_Ico] at rolls
  rw [expectedReward, ← rolls]
  rfl

variable {price : Int}

theorem rawReward_eq_div (priced : 0 ≤ price) (k : LuckyOutcome) :
    rawReward price k = price * (OUTCOME_FRACTION k).1 / (OUTCOME_FRACTION k).2 := by
  cases k
  · simp [rawReward, OUTCOME_FRACTION]
  all_goals exact Int.tdiv_eq_ediv_of_nonneg (by simp only [OUTCOME_FRACTION]; omega)

/-- The two tables of multipliers agree: the fraction of an outcome is its basis points. -/
theorem fraction_eq_bp (k : LuckyOutcome) :
    (OUTCOME_FRACTION k).1 * 10000 = OUTCOME_MULTIPLIER_BP k * (OUTCOME_FRACTION k).2 := by
  cases k <;> rfl

theorem denominator_pos (k : LuckyOutcome) : 0 < (OUTCOME_FRACTION k).2 := by
  cases k <;> decide

theorem rawReward_le (priced : 0 ≤ price) (k : LuckyOutcome) :
    rawReward price k * 10000 ≤ price * OUTCOME_MULTIPLIER_BP k := by
  have rounded := Int.ediv_mul_le (price * (OUTCOME_FRACTION k).1) (denominator_pos k).ne'
  rw [rawReward_eq_div priced]
  refine le_of_mul_le_mul_right ?_ (denominator_pos k)
  calc price * (OUTCOME_FRACTION k).1 / (OUTCOME_FRACTION k).2 * 10000 * (OUTCOME_FRACTION k).2
      ≤ price * ((OUTCOME_FRACTION k).1 * 10000) := by linarith
    _ = price * OUTCOME_MULTIPLIER_BP k * (OUTCOME_FRACTION k).2 := by
      rw [fraction_eq_bp, mul_assoc]

/-- The reward of an outcome at this price needs no rounding. -/
def Integral (price : Int) (k : LuckyOutcome) : Prop :=
  (OUTCOME_FRACTION k).2 ∣ price * (OUTCOME_FRACTION k).1

theorem rawReward_exact (priced : 0 ≤ price) {k : LuckyOutcome} (integral : Integral price k) :
    rawReward price k * 10000 = price * OUTCOME_MULTIPLIER_BP k := by
  have whole := Int.ediv_mul_cancel integral
  rw [rawReward_eq_div priced]
  refine mul_right_cancel₀ (denominator_pos k).ne' ?_
  calc price * (OUTCOME_FRACTION k).1 / (OUTCOME_FRACTION k).2 * 10000 * (OUTCOME_FRACTION k).2
      = price * ((OUTCOME_FRACTION k).1 * 10000) := by linarith
    _ = price * OUTCOME_MULTIPLIER_BP k * (OUTCOME_FRACTION k).2 := by
      rw [fraction_eq_bp, mul_assoc]

theorem integral_even (half : Int) (k : LuckyOutcome) : Integral (2 * half) k := by
  unfold Integral
  cases k <;> simp only [OUTCOME_FRACTION] <;> omega

/-- The rewards of a band, weighted, are within the band's basis points of the price. -/
theorem weighted_le (priced : 0 ≤ price) (weights : BandWeights) (outcomes : List LuckyOutcome) :
    (outcomes.map fun k => (weights.at k : Int) * rawReward price k).sum * 10000 ≤
      price * ((outcomes.map fun k => weights.at k * OUTCOME_MULTIPLIER_BP k).sum : Nat) := by
  induction outcomes with
  | nil => simp
  | cons k rest ih =>
    have one : (weights.at k : Int) * (rawReward price k * 10000) ≤
        (weights.at k : Int) * (price * OUTCOME_MULTIPLIER_BP k) :=
      mul_le_mul_of_nonneg_left (rawReward_le priced k) (Int.natCast_nonneg _)
    simp only [List.map_cons, List.sum_cons] at ih ⊢
    push_cast at ih ⊢
    linarith

theorem weighted_exact (priced : 0 ≤ price) (weights : BandWeights) {outcomes : List LuckyOutcome}
    (integral : ∀ k ∈ outcomes, Integral price k) :
    (outcomes.map fun k => (weights.at k : Int) * rawReward price k).sum * 10000 =
      price * ((outcomes.map fun k => weights.at k * OUTCOME_MULTIPLIER_BP k).sum : Nat) := by
  induction outcomes with
  | nil => simp
  | cons k rest ih =>
    obtain ⟨own, others⟩ := List.forall_mem_cons.mp integral
    have one := congrArg ((weights.at k : Int) * ·) (rawReward_exact priced own)
    have rest := ih others
    simp only [List.map_cons, List.sum_cons] at one rest ⊢
    push_cast at rest ⊢
    linarith

private theorem ratio_le {paid price : Int} {weight : Nat} (bound : paid * 10000 ≤ price * weight) :
    (paid : ℚ) * 10000 ≤ price * weight := by
  exact_mod_cast bound

private theorem ratio_eq {paid price : Int} {weight : Nat} (exact : paid * 10000 = price * weight) :
    (paid : ℚ) * 10000 = price * weight := by
  exact_mod_cast exact

/-- Rounding rewards down never exceeds the band's expected value. -/
theorem expectedReward_le {weights : BandWeights} (full : sumBandWeights weights = 10000)
    (priced : 0 ≤ price) :
    expectedReward weights price ≤ computeBandEvBp weights / 10000 * price := by
  have bound := ratio_le (weighted_le priced weights LUCKY_OUTCOMES)
  rw [expectedReward_eq full, computeBandEvBp]
  linarith

theorem expectedReward_exact {weights : BandWeights} (full : sumBandWeights weights = 10000)
    (priced : 0 ≤ price) (integral : ∀ k, Integral price k) :
    expectedReward weights price = computeBandEvBp weights / 10000 * price := by
  have exact := ratio_eq (weighted_exact priced weights
    fun k (_ : k ∈ LUCKY_OUTCOMES) => integral k)
  rw [expectedReward_eq full, computeBandEvBp]
  linarith

theorem expectedReward_even {weights : BandWeights} (full : sumBandWeights weights = 10000)
    {half : Int} (priced : 0 ≤ half) :
    expectedReward weights (2 * half) = computeBandEvBp weights / 10000 * (2 * half : Int) :=
  expectedReward_exact full (by omega) (integral_even half)

/-! ### Points -/

theorem max?_map {α : Type} [LinearOrder α] {f : α → α} (mono : Monotone f) (rates : List α) :
    (rates.map f).max? = rates.max?.map f := by
  induction rates with
  | nil => rfl
  | cons rate rest ih =>
    rw [List.map_cons, List.max?_cons, List.max?_cons, ih]
    cases rest.max? with
    | none => rfl
    | some most => simp [mono.map_max]

def maxLiveRateBp (levels : List CommissionLevelRow) : Int :=
  (levels.map (·.liveRateBp)).max?.getD 0

theorem maxLiveRateBp_nonneg (levels : List CommissionLevelRow) : 0 ≤ maxLiveRateBp levels := by
  unfold maxLiveRateBp
  cases most : (levels.map (·.liveRateBp)).max? with
  | none => exact Int.le_refl 0
  | some rate =>
    obtain ⟨level, -, rfl⟩ := List.mem_map.mp (List.max?_mem most)
    exact level.live_bounds.1

theorem luckyHostPoints_nonneg (shares : HostRevenueShares) {spend : Int} (spent : 0 ≤ spend) :
    0 ≤ luckyHostPoints shares spend :=
  Int.tdiv_nonneg (Int.mul_nonneg spent shares.luckyHostShareBp_nonneg) (by decide)

/-- The largest commission is that of the level with the highest rate. -/
theorem largestCommission_eq (shares : HostRevenueShares) (levels : List CommissionLevelRow)
    {spend : Int} (spent : 0 ≤ spend) :
    largestCommission shares levels spend =
      if shares.luckyWaterAgencyCommission then
        (luckyHostPoints shares spend * maxLiveRateBp levels).tdiv 10000
      else 0 := by
  have points := luckyHostPoints_nonneg shares spent
  have mono : Monotone fun rate : Int => (luckyHostPoints shares spend * rate).tdiv 10000 := by
    intro low high below
    exact Int.tdiv_le_tdiv (by decide) (mul_le_mul_of_nonneg_left below points)
  have rates := max?_map mono (levels.map (·.liveRateBp))
  rw [List.map_map] at rates
  unfold largestCommission maxLiveRateBp
  split
  · change ((levels.map _).max?).getD 0 = _
    rw [show (levels.map fun l => (luckyHostPoints shares spend * l.liveRateBp).tdiv 10000) =
      levels.map ((fun rate => (luckyHostPoints shares spend * rate).tdiv 10000) ∘
        (·.liveRateBp)) from rfl, rates]
    cases (levels.map (·.liveRateBp)).max? <;> simp
  · rfl

/-- The agency's share of the spend before `agencyShareBpOfSpend` rounds it down, at the rate that
lucky gifts are paid by. -/
def unroundedAgencyBp (shares : HostRevenueShares) (levels : List CommissionLevelRow) : ℚ :=
  if shares.luckyWaterAgencyCommission then
    (shares.luckyHostShareBp : ℚ) * maxLiveRateBp levels / 10000
  else 0

/-- What the ledger credits for a spend is within the basis points of the spend. -/
theorem points_le (shares : HostRevenueShares) (levels : List CommissionLevelRow) {spend : Int}
    (spent : 0 ≤ spend) :
    (luckyHostPoints shares spend + largestCommission shares levels spend : ℚ) ≤
      (shares.luckyHostShareBp + unroundedAgencyBp shares levels) / 10000 * spend := by
  have nonneg := luckyHostPoints_nonneg shares spent
  have rate := maxLiveRateBp_nonneg levels
  have host : luckyHostPoints shares spend * 10000 ≤ spend * shares.luckyHostShareBp := by
    unfold luckyHostPoints
    have := Int.mul_nonneg spent shares.luckyHostShareBp_nonneg
    rw [Int.tdiv_eq_ediv_of_nonneg this]
    omega
  have hostQ : (luckyHostPoints shares spend : ℚ) * 10000 ≤ spend * shares.luckyHostShareBp := by
    exact_mod_cast host
  rw [largestCommission_eq shares levels spent, unroundedAgencyBp]
  split
  · have paid : (luckyHostPoints shares spend * maxLiveRateBp levels).tdiv 10000 * 10000 ≤
        luckyHostPoints shares spend * maxLiveRateBp levels := by
      rw [Int.tdiv_eq_ediv_of_nonneg (Int.mul_nonneg nonneg rate)]
      omega
    have paidQ : ((luckyHostPoints shares spend * maxLiveRateBp levels).tdiv 10000 : ℚ) * 10000 ≤
        luckyHostPoints shares spend * maxLiveRateBp levels := by
      exact_mod_cast paid
    have rateQ : (0 : ℚ) ≤ maxLiveRateBp levels := by exact_mod_cast rate
    have scaled := mul_le_mul_of_nonneg_right hostQ rateQ
    linarith
  · push_cast
    linarith

/-- A spend that every denominator of the economy divides. -/
def roundSpend : Int := 2 * 100000000

theorem points_roundSpend (shares : HostRevenueShares) (levels : List CommissionLevelRow) :
    (luckyHostPoints shares roundSpend + largestCommission shares levels roundSpend : ℚ) =
      (shares.luckyHostShareBp + unroundedAgencyBp shares levels) / 10000 * roundSpend := by
  have host : luckyHostPoints shares roundSpend = 20000 * shares.luckyHostShareBp := by
    have product : roundSpend * shares.luckyHostShareBp =
        20000 * shares.luckyHostShareBp * 10000 := by
      unfold roundSpend
      omega
    rw [luckyHostPoints, product, Int.mul_tdiv_cancel _ (by decide)]
  have commission : (luckyHostPoints shares roundSpend * maxLiveRateBp levels).tdiv 10000 =
      2 * (shares.luckyHostShareBp * maxLiveRateBp levels) := by
    have product : luckyHostPoints shares roundSpend * maxLiveRateBp levels =
        2 * (shares.luckyHostShareBp * maxLiveRateBp levels) * 10000 := by
      rw [host]
      ring
    rw [product, Int.mul_tdiv_cancel _ (by decide)]
  rw [largestCommission_eq shares levels (by decide), unroundedAgencyBp, commission, host]
  split
  · push_cast [roundSpend]
    ring
  · push_cast [roundSpend]
    ring

/-! ### The guard and the margin -/

/-- The guard's margin covers what rounding the agency's share down left out. -/
def CoversRounding (weights : BandWeightsByBand) (shares : HostRevenueShares)
    (levels : List CommissionLevelRow) (tier : LuckyTierRow) : Prop :=
  let econ := buildLuckyF2Econ shares levels tier.econ
  (unroundedAgencyBp shares levels - econ.aBp) * tier.vMaxBp / 10000 <
    selfGiftGuardMarginBp (computeAllBandEvBp weights .high) econ

section Accepted

variable {weights : BandWeightsByBand} {shares : HostRevenueShares}
  {levels : List CommissionLevelRow} {tier : LuckyTierRow}

theorem coversRounding_iff :
    CoversRounding weights shares levels tier ↔
      computeAllBandEvBp weights .high +
        (shares.luckyHostShareBp + unroundedAgencyBp shares levels) * tier.vMaxBp / 10000 <
      10000 - tier.safetyMarginBp := by
  simp only [CoversRounding, selfGiftGuardMarginBp, buildLuckyF2Econ, LuckyTierRow.econ]
  constructor
  · intro covered
    linarith
  · intro covered
    linarith

theorem coversRounding_of_keepsMargin
    (accepted : Accepted weights (buildLuckyF2Econ shares levels tier.econ))
    (keeps : KeepsMargin weights shares levels tier) :
    CoversRounding weights shares levels tier := by
  have cost := keeps .high roundSpend (by decide)
  have reward : expectedReward _ roundSpend = _ :=
    expectedReward_even (accepted.sums .high) (by decide : (0 : Int) ≤ 100000000)
  rw [expectedCost, points_roundSpend] at cost
  rw [reward] at cost
  push_cast [roundSpend] at cost
  rw [coversRounding_iff, computeAllBandEvBp]
  linarith

theorem keepsMargin_of_coversRounding
    (accepted : Accepted weights (buildLuckyF2Econ shares levels tier.econ))
    (covers : CoversRounding weights shares levels tier) :
    KeepsMargin weights shares levels tier := by
  intro band price priced
  have covered := coversRounding_iff.mp covers
  have value : (0 : ℚ) < tier.vMaxBp := by exact_mod_cast tier.vMaxBp_pos
  have spend : (0 : ℚ) < price := by exact_mod_cast priced
  have reward := expectedReward_le (accepted.sums band) priced.le
  have points := points_le shares levels priced.le
  have highest : computeBandEvBp (weights.at band) / 10000 * price ≤
      computeAllBandEvBp weights .high / 10000 * price := by
    refine mul_le_mul_of_nonneg_right ?_ spend.le
    exact div_le_div_of_nonneg_right (accepted.below band) (by norm_num)
  have valued : (luckyHostPoints shares price + largestCommission shares levels price : ℚ) *
      tier.vMaxBp / 10000 ≤
      (shares.luckyHostShareBp + unroundedAgencyBp shares levels) / 10000 * price *
        tier.vMaxBp / 10000 := by
    refine div_le_div_of_nonneg_right ?_ (by norm_num)
    exact mul_le_mul_of_nonneg_right points value.le
  have scaled := mul_lt_mul_of_pos_right covered spend
  rw [expectedCost]
  linarith

/-- An accepted configuration keeps the margin for every band and price just when the guard's margin
covers the rounding. -/
theorem keepsMargin_iff {ev : LuckyBand → ℚ}
    (valid : validateBandWeights weights (buildLuckyF2Econ shares levels tier.econ) = .ok ev) :
    KeepsMargin weights shares levels tier ↔ CoversRounding weights shares levels tier := by
  have accepted := (validateBandWeights_ok.mp valid).1.accepted
  exact ⟨coversRounding_of_keepsMargin accepted, keepsMargin_of_coversRounding accepted⟩

end Accepted

/-- The shipped tables with the commission off, with 50 basis points to spare. -/
theorem keepsMargin_shipped :
    KeepsMargin DEFAULT_BAND_WEIGHTS_V1 DEFAULT_HOST_REVENUE_SHARES [] seededT100 ∧
      CoversRounding DEFAULT_BAND_WEIGHTS_V1 DEFAULT_HOST_REVENUE_SHARES [] seededT100 := by
  have valid : validateBandWeights DEFAULT_BAND_WEIGHTS_V1
      (buildLuckyF2Econ DEFAULT_HOST_REVENUE_SHARES [] seededT100.econ) =
      .ok (computeAllBandEvBp DEFAULT_BAND_WEIGHTS_V1) :=
    validateBandWeights_ok.mpr ⟨by decide +kernel, rfl⟩
  have covers : CoversRounding DEFAULT_BAND_WEIGHTS_V1 DEFAULT_HOST_REVENUE_SHARES [] seededT100 := by
    rw [coversRounding_iff]
    decide +kernel
  exact ⟨(keepsMargin_iff valid).mpr covers, covers⟩

/-- A table whose high band leaves half a basis point. -/
def tightWeights : BandWeightsByBand :=
  { DEFAULT_BAND_WEIGHTS_V1 with
    high := { miss := 5259, half := 2041, equal := 1400, medium := 800, jackpot := 500 } }

def commissionShares : HostRevenueShares :=
  { DEFAULT_HOST_REVENUE_SHARES with luckyWaterAgencyCommission := true }

/-- 400 of 1999 basis points are 79.96, which the guard counts as 79. -/
def oddLevel : CommissionLevelRow where
  level := 0
  minWindowPoints := 0
  liveRateBp := 1999
  matchChatRateBp := 1999
  sortOrder := 0
  live_bounds := by decide
  matchChat_bounds := by decide

theorem not_keepsMargin : ¬ ∀ weights shares levels tier ev,
    validateBandWeights weights (buildLuckyF2Econ shares levels tier.econ) = .ok ev →
      KeepsMargin weights shares levels tier := by
  intro claim
  have valid : validateBandWeights tightWeights
      (buildLuckyF2Econ commissionShares [oddLevel] seededT100.econ) =
      .ok (computeAllBandEvBp tightWeights) :=
    validateBandWeights_ok.mpr ⟨by decide +kernel, rfl⟩
  have keeps := claim tightWeights commissionShares [oddLevel] seededT100 _ valid
  have covers := coversRounding_of_keepsMargin (validateBandWeights_ok.mp valid).1.accepted keeps
  rw [coversRounding_iff] at covers
  revert covers
  decide +kernel

end OlNode
