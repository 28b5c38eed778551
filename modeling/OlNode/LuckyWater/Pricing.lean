import Mathlib.Algebra.BigOperators.Ring.Finset
import OlNode.LuckyWater.Margin

/-!
# The validator prices what the engine draws

`assertBandWeightsShape` and `computeBandEvBp` read a band as five weights, `outcomeFromRoll` as
cumulative bounds of a roll. The rolls that give an outcome are as many as its weight, so the
rewards of all rolls add up to the validator's expected value of the price, less what is rounded
down.
-/
namespace OlNode

theorem assertBandWeightsShape_ok {weights : BandWeightsByBand} {band : LuckyBand} :
    assertBandWeightsShape weights band = .ok () ↔ sumBandWeights (weights.at band) = 10000 := by
  unfold assertBandWeightsShape throwUnless
  split
  next full => simpa using full
  next short => simpa using short

/-- How many of the rolls from 0 to 9999 give an outcome. -/
def rollsFor (weights : BandWeights) (k : LuckyOutcome) : Nat :=
  ((Finset.range 10000).filter fun roll => outcomeFromRoll weights roll = k).card

/-- The rewards of all rolls from 0 to 9999 at a price. -/
def rewardOfRolls (weights : BandWeights) (price : Int) : Int :=
  ∑ roll ∈ Finset.range 10000, rawReward price (outcomeFromRoll weights roll)

/-- What depends on the outcome only, added up over the rolls, counts each outcome by its weight. -/
theorem sum_rolls {weights : BandWeights} (full : sumBandWeights weights = 10000)
    (f : LuckyOutcome → Int) :
    ∑ roll ∈ Finset.range 10000, f (outcomeFromRoll weights roll) =
      (LUCKY_OUTCOMES.map fun k => (weights.at k : Int) * f k).sum := by
  have rolls := sum_outcomeFrom weights f LUCKY_OUTCOMES 0
  rw [← sumBandWeights, full, Nat.zero_add, ← Finset.range_eq_Ico] at rolls
  exact rolls

theorem rollsFor_eq {weights : BandWeights} (full : sumBandWeights weights = 10000)
    (k : LuckyOutcome) : rollsFor weights k = weights.at k := by
  -- The number of rolls is the sum of the outcome's indicator.
  have counted := sum_rolls full fun drawn => if drawn = k then 1 else 0
  have once : (LUCKY_OUTCOMES.map fun drawn =>
      (weights.at drawn : Int) * if drawn = k then 1 else 0).sum = weights.at k := by
    cases k <;> simp [LUCKY_OUTCOMES]
  rw [once, Finset.sum_boole] at counted
  exact_mod_cast counted

theorem rewardOfRolls_eq (weights : BandWeights) (price : Int) :
    (rewardOfRolls weights price : ℚ) = expectedReward weights price * 10000 := by
  rw [expectedReward, rewardOfRolls]
  field_simp

/-- An accepted band gives each outcome on as many rolls as its weight says, and its rewards cost
what the validator computes, up to rounding in the pool's favour. -/
theorem rolls_priced {weights : BandWeightsByBand} {band : LuckyBand}
    (accepted : assertBandWeightsShape weights band = .ok ()) :
    (∀ k, rollsFor (weights.at band) k = (weights.at band).at k) ∧
      ∀ price : Int, 0 ≤ price →
        (rewardOfRolls (weights.at band) price : ℚ) ≤
          price * computeBandEvBp (weights.at band) ∧
        ((∀ k, Integral price k) →
          (rewardOfRolls (weights.at band) price : ℚ) =
            price * computeBandEvBp (weights.at band)) := by
  have full := assertBandWeightsShape_ok.mp accepted
  refine ⟨rollsFor_eq full, fun price priced => ⟨?_, fun integral => ?_⟩⟩
  · have within := expectedReward_le full priced
    rw [rewardOfRolls_eq]
    linarith
  · have exact := expectedReward_exact full priced integral
    rw [rewardOfRolls_eq]
    linarith

/-- The shipped normal band, at a price with odd coins and at an even one. -/
theorem rolls_priced_normal :
    rollsFor DEFAULT_BAND_WEIGHTS_V1.normal .jackpot = 300 ∧
      (rewardOfRolls DEFAULT_BAND_WEIGHTS_V1.normal 199 : ℚ) ≤
        199 * computeBandEvBp DEFAULT_BAND_WEIGHTS_V1.normal ∧
      (rewardOfRolls DEFAULT_BAND_WEIGHTS_V1.normal 200 : ℚ) =
        200 * computeBandEvBp DEFAULT_BAND_WEIGHTS_V1.normal := by
  have accepted : assertBandWeightsShape DEFAULT_BAND_WEIGHTS_V1 .normal = .ok () := rfl
  obtain ⟨rolls, priced⟩ := rolls_priced accepted
  have odd := (priced 199 (by decide)).1
  have even := (priced 200 (by decide)).2 (integral_even 100)
  exact ⟨rolls .jackpot, by exact_mod_cast odd, by exact_mod_cast even⟩

end OlNode
