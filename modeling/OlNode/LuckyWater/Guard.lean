import Mathlib.Algebra.BigOperators.Intervals
import Mathlib.Algebra.Order.Field.Rat
import Mathlib.Tactic.FieldSimp
import Mathlib.Tactic.Linarith
import Mathlib.Tactic.NormNum
import OlNode.LuckyWater.Engine

/-!
# The self-gift guard

`bandWeights.ts` and `f2Econ.ts`. The source computes with doubles. What it compares are multiples
of 1/10000, which doubles of this size keep apart, so rational numbers give the same answers.

The guard compares basis points of the spend. What the ledger pays out is rounded down from coins,
which is on the safe side; the agency's share of the spend is rounded down in basis points before
it is compared, which is not.
-/
namespace OlNode

def OUTCOME_MULTIPLIER_BP : LuckyOutcome → Nat
  | .miss => 0
  | .half => 5000
  | .equal => 10000
  | .medium => 25000
  | .jackpot => 100000

def LUCKY_BANDS : List LuckyBand := [.critical, .low, .normal, .high]

def sumBandWeights (weights : BandWeights) : Nat := (LUCKY_OUTCOMES.map weights.at).sum

def computeBandEvBp (weights : BandWeights) : ℚ :=
  ((LUCKY_OUTCOMES.map fun k => weights.at k * OUTCOME_MULTIPLIER_BP k).sum : Nat) / 10000

def computeAllBandEvBp (weights : BandWeightsByBand) (band : LuckyBand) : ℚ :=
  computeBandEvBp (weights.at band)

structure LuckyF2Econ where
  rBp : Int
  hBp : Int
  aBp : Int
  vMaxBp : Int
  safetyMarginBp : Int
  minGapBp : Int

/-- The messages of `LuckyWeightsError`, with the numbers they quote. -/
inductive LuckyWeightsError where
  | sumIsNotBp (band : LuckyBand) (sum : Nat)
  | criticalAllowsMediumOrJackpot
  | lowAllowsJackpot
  | criticalNotBelowLow (critical low : ℚ)
  | lowNotBelowR (low : ℚ) (rBp : Int)
  | rNotBelowNormal (rBp : Int) (normal : ℚ)
  | belowMinGap (normal : ℚ) (rBp minGapBp : Int)
  | normalNotBelowHigh (normal high : ℚ)
  | selfGiftGuardViolated (high : ℚ) (econ : LuckyF2Econ) (margin : ℚ)

def selfGiftGuardMarginBp (evHighBp : ℚ) (econ : LuckyF2Econ) : ℚ :=
  (10000 - econ.safetyMarginBp) - (evHighBp + (econ.hBp + econ.aBp) * econ.vMaxBp / 10000)

def throwUnless (condition : Bool) (error : LuckyWeightsError) : Except LuckyWeightsError Unit :=
  if condition then .ok () else .error error

def assertSelfGiftGuard (evHighBp : ℚ) (econ : LuckyF2Econ) : Except LuckyWeightsError Unit :=
  let margin := selfGiftGuardMarginBp evHighBp econ
  throwUnless (0 < margin) (.selfGiftGuardViolated evHighBp econ margin)

/-- The weights are natural numbers here, so only their sum is left to check. -/
def assertBandWeightsShape (weights : BandWeightsByBand) (band : LuckyBand) :
    Except LuckyWeightsError Unit :=
  throwUnless (sumBandWeights (weights.at band) = 10000)
    (.sumIsNotBp band (sumBandWeights (weights.at band)))

def validateBandWeights (weights : BandWeightsByBand) (econ : LuckyF2Econ) :
    Except LuckyWeightsError (LuckyBand → ℚ) := do
  LUCKY_BANDS.forM (assertBandWeightsShape weights)
  throwUnless (weights.critical.medium = 0 ∧ weights.critical.jackpot = 0)
    .criticalAllowsMediumOrJackpot
  throwUnless (weights.low.jackpot = 0) .lowAllowsJackpot
  let ev := computeAllBandEvBp weights
  throwUnless (ev .critical < ev .low) (.criticalNotBelowLow (ev .critical) (ev .low))
  throwUnless (ev .low < econ.rBp) (.lowNotBelowR (ev .low) econ.rBp)
  throwUnless (econ.rBp < ev .normal) (.rNotBelowNormal econ.rBp (ev .normal))
  throwUnless (¬ ev .normal - econ.rBp < econ.minGapBp)
    (.belowMinGap (ev .normal) econ.rBp econ.minGapBp)
  throwUnless (ev .normal < ev .high) (.normalNotBelowHigh (ev .normal) (ev .high))
  assertSelfGiftGuard (ev .high) econ
  pure ev

/-! ### The rates of a tier -/

/-- A row of `agency_commission_levels`; `replaceCommissionLevels` checks the bounds. -/
structure CommissionLevelRow where
  level : Nat
  minWindowPoints : Int
  liveRateBp : Int
  matchChatRateBp : Int
  sortOrder : Int
  live_bounds : 0 ≤ liveRateBp ∧ liveRateBp ≤ 10000
  matchChat_bounds : 0 ≤ matchChatRateBp ∧ matchChatRateBp ≤ 10000

/-- A row of `lucky_tier_config` with the columns that only the validation reads. The bounds are
CHECK constraints of the table. -/
@[ext]
structure LuckyTierRow extends LuckyTierConfig where
  vMaxBp : Int
  safetyMarginBp : Int
  minGapBp : Int
  vMaxBp_pos : 0 < vMaxBp
  safetyMarginBp_nonneg : 0 ≤ safetyMarginBp
  minGapBp_nonneg : 0 ≤ minGapBp

instance : DecidableEq LuckyTierRow := fun _ _ => decidable_of_iff' _ LuckyTierRow.ext_iff

structure LuckyTierEcon where
  rBp : Int
  jBp : Int
  vMaxBp : Int
  safetyMarginBp : Int
  minGapBp : Int

def LuckyTierRow.econ (row : LuckyTierRow) : LuckyTierEcon :=
  { rBp := row.rBp, jBp := row.jBp, vMaxBp := row.vMaxBp, safetyMarginBp := row.safetyMarginBp,
    minGapBp := row.minGapBp }

def agencyShareBpOfSpend (hostShareBp agencyRateOnHostBp : Int) : Int :=
  (hostShareBp * agencyRateOnHostBp) / 10000

def maxAgencyRateOnHostBp (levels : List CommissionLevelRow) : Int :=
  (levels.map fun l => max l.liveRateBp l.matchChatRateBp).max?.getD 0

def buildLuckyF2Econ (shares : HostRevenueShares) (levels : List CommissionLevelRow)
    (tier : LuckyTierEcon) : LuckyF2Econ where
  rBp := tier.rBp
  hBp := shares.luckyHostShareBp
  aBp := if shares.luckyWaterAgencyCommission then
      agencyShareBpOfSpend shares.luckyHostShareBp (maxAgencyRateOnHostBp levels)
    else 0
  vMaxBp := tier.vMaxBp
  safetyMarginBp := tier.safetyMarginBp
  minGapBp := tier.minGapBp

/-! ### The shipped tables -/

def DEFAULT_BAND_WEIGHTS_V1 : BandWeightsByBand where
  critical := { miss := 3000, half := 3000, equal := 4000, medium := 0, jackpot := 0 }
  low := { miss := 3400, half := 2800, equal := 2400, medium := 1400, jackpot := 0 }
  normal := { miss := 4000, half := 2600, equal := 1850, medium := 1250, jackpot := 300 }
  high := { miss := 5200, half := 2100, equal := 1400, medium := 800, jackpot := 500 }

def seededTier (tierId : LuckyTierId) (priceMin : Int) (priceMax : Option Int) (l0 floor : Nat)
    (positive : 0 < l0) (below : floor ≤ l0) : LuckyTierRow where
  tierId := tierId
  version := 1
  priceMin := priceMin
  priceMax := priceMax
  rBp := 9200
  jBp := 0
  l0 := l0
  floor := floor
  thresholds := { criticalMaxBp := 5000, lowMaxBp := 10000, normalMaxBp := 15000 }
  bandWeights := DEFAULT_BAND_WEIGHTS_V1
  mMax := 10
  dailyWinCapCoins := 0
  coolDownAfterBigWinSeconds := 0
  rBp_pos := by decide
  l0_pos := by exact_mod_cast positive
  floor_nonneg := Int.natCast_nonneg floor
  floor_le_l0 := by exact_mod_cast below
  mMax_pos := by decide
  vMaxBp := 10000
  safetyMarginBp := 100
  minGapBp := 50
  vMaxBp_pos := by decide
  safetyMarginBp_nonneg := by decide
  minGapBp_nonneg := by decide

def seededT100 : LuckyTierRow :=
  seededTier .t100 1 (some 199) 100000 20000 (by decide) (by decide)

def DEFAULT_TIERS_V1 : List LuckyTierRow :=
  [seededT100,
    seededTier .t500 200 (some 999) 250000 50000 (by decide) (by decide),
    seededTier .t2k 1000 (some 4999) 1000000 200000 (by decide) (by decide),
    seededTier .t10k 5000 (some 49999) 5000000 1000000 (by decide) (by decide),
    seededTier .t50k 50000 none 25000000 5000000 (by decide) (by decide)]

/-! ### What an accepted configuration satisfies -/

theorem throwUnless_bind_ok {α : Type} {condition : Bool} {error : LuckyWeightsError}
    {next : Unit → Except LuckyWeightsError α} {a : α} :
    (throwUnless condition error >>= next) = .ok a ↔ condition = true ∧ next () = .ok a := by
  cases condition
  · simp [throwUnless, bind, Except.bind]
  · simp [throwUnless, bind, Except.bind]

/-- The checks of `validateBandWeights`, in its order. -/
def Valid (weights : BandWeightsByBand) (econ : LuckyF2Econ) : Prop :=
  let ev := computeAllBandEvBp weights
  (∀ band ∈ LUCKY_BANDS, sumBandWeights (weights.at band) = 10000) ∧
    (weights.critical.medium = 0 ∧ weights.critical.jackpot = 0) ∧ weights.low.jackpot = 0 ∧
    ev .critical < ev .low ∧ ev .low < econ.rBp ∧ econ.rBp < ev .normal ∧
    ¬ ev .normal - econ.rBp < econ.minGapBp ∧ ev .normal < ev .high ∧
    0 < selfGiftGuardMarginBp (ev .high) econ

instance (weights : BandWeightsByBand) (econ : LuckyF2Econ) : Decidable (Valid weights econ) :=
  inferInstanceAs (Decidable (_ ∧ _))

theorem validateBandWeights_ok {weights : BandWeightsByBand} {econ : LuckyF2Econ}
    {ev : LuckyBand → ℚ} :
    validateBandWeights weights econ = .ok ev ↔
      Valid weights econ ∧ computeAllBandEvBp weights = ev := by
  simp only [validateBandWeights, LUCKY_BANDS, List.forM_eq_forM, List.forM_cons, List.forM_nil,
    assertBandWeightsShape, assertSelfGiftGuard, bind_assoc, pure_bind, throwUnless_bind_ok,
    decide_eq_true_eq]
  simp only [pure, Except.pure, Except.ok.injEq, Valid, LUCKY_BANDS, List.forall_mem_cons,
    List.not_mem_nil, false_implies, implies_true, and_true, and_assoc]

structure Accepted (weights : BandWeightsByBand) (econ : LuckyF2Econ) : Prop where
  sums : ∀ band, sumBandWeights (weights.at band) = 10000
  below : ∀ band, computeAllBandEvBp weights band ≤ computeAllBandEvBp weights .high
  guard : 0 < selfGiftGuardMarginBp (computeAllBandEvBp weights .high) econ

theorem Valid.accepted {weights : BandWeightsByBand} {econ : LuckyF2Econ}
    (valid : Valid weights econ) : Accepted weights econ := by
  obtain ⟨sums, -, -, criticalLow, lowR, rNormal, -, normalHigh, guard⟩ := valid
  refine ⟨?_, ?_, guard⟩
  · intro band
    exact sums band (by cases band <;> simp [LUCKY_BANDS])
  · intro band
    have lowNormal := lowR.trans rNormal
    cases band
    · exact (criticalLow.trans (lowNormal.trans normalHigh)).le
    · exact (lowNormal.trans normalHigh).le
    · exact normalHigh.le
    · exact le_refl _

end OlNode
