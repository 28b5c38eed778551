import Mathlib.Algebra.BigOperators.Group.List.Basic
import Mathlib.Algebra.Order.Ring.Int
import OlNode.Ledger.Database

/-!
# The water_v1 draw engine

`waterEngine.ts` and `categoryMap.ts`: a send of `count` units draws unit by unit against the
pool's water. The random numbers are an input, one roll for each unit. Amounts are BigInt in the
source, so division truncates.
-/
namespace OlNode

/-- Numerator and denominator of the reward multiplier of an outcome. -/
def OUTCOME_FRACTION : LuckyOutcome → Int × Int
  | .miss => (0, 1)
  | .half => (1, 2)
  | .equal => (1, 1)
  | .medium => (5, 2)
  | .jackpot => (10, 1)

def BIG_WIN_MULTIPLE : Int := 10

inductive DrawDowngrade where
  | poolFloor | userCap
  deriving DecidableEq

structure UnitDraw where
  i : Nat
  band : LuckyBand
  roll : Nat
  rollMax : Nat
  outcome : LuckyOutcome
  mNum : Int
  mDen : Int
  rRaw : Int
  rPaid : Int
  downgrade : Option DrawDowngrade

structure DrawUnitsParams where
  unitPrice : Int
  count : Nat
  weights : BandWeightsByBand
  thresholds : LambdaThresholds
  l0 : Int
  floor : Int
  mMax : Int
  startingWater : Int
  dailyWinCapCoins : Int
  priorDailyWon : Int
  coolDownActive : Bool
  /-- The answer of `randomInt(0, 10000)` for the unit with this index. -/
  randomInt : Nat → Nat

structure DrawUnitsResult where
  units : List UnitDraw
  rewards : List Int
  totalPaid : Int
  finalWater : Int
  bigWin : Bool

def lambdaBp (w l0 : Int) : Int :=
  if l0 ≤ 0 then 0 else (w * 10000).tdiv l0

def bandForWater (w l0 : Int) (t : LambdaThresholds) : LuckyBand :=
  let lam := lambdaBp w l0
  if lam < t.criticalMaxBp then .critical
  else if lam < t.lowMaxBp then .low
  else if lam < t.normalMaxBp then .normal
  else .high

def BandWeightsByBand.at (weights : BandWeightsByBand) : LuckyBand → BandWeights
  | .critical => weights.critical
  | .low => weights.low
  | .normal => weights.normal
  | .high => weights.high

def BandWeights.at (weights : BandWeights) : LuckyOutcome → Nat
  | .miss => weights.miss
  | .half => weights.half
  | .equal => weights.equal
  | .medium => weights.medium
  | .jackpot => weights.jackpot

def LUCKY_OUTCOMES : List LuckyOutcome := [.miss, .half, .equal, .medium, .jackpot]

/-- The loop over the outcomes with the accumulated weight so far. -/
def outcomeFrom (weights : BandWeights) (roll : Nat) : Nat → List LuckyOutcome → LuckyOutcome
  | _, [] => .miss
  | acc, outcome :: rest =>
    if roll < acc + weights.at outcome then outcome
    else outcomeFrom weights roll (acc + weights.at outcome) rest

def outcomeFromRoll (weights : BandWeights) (roll : Nat) : LuckyOutcome :=
  outcomeFrom weights roll 0 LUCKY_OUTCOMES

def computeInflow (spend rBp : Int) : Int := (spend * rBp).tdiv 10000

def rawReward (price : Int) (outcome : LuckyOutcome) : Int :=
  let frac := OUTCOME_FRACTION outcome
  if frac.1 = 0 then 0 else (price * frac.1).tdiv frac.2

structure DrawState where
  w : Int
  totalPaid : Int
  capRemaining : Int
  bigWin : Bool
  units : List UnitDraw
  rewards : List Int

namespace DrawUnitsParams

def capOn (p : DrawUnitsParams) : Bool := 0 < p.dailyWinCapCoins

/-- The caps on one unit's reward, in order: user caps first, then the pool floor. -/
def downgrade (p : DrawUnitsParams) (s : DrawState) (rCap : Int) : Option DrawDowngrade :=
  if 0 < rCap then
    if p.coolDownActive then some .userCap
    else if p.capOn ∧ s.capRemaining < rCap then some .userCap
    else if s.w - p.floor < rCap then some .poolFloor
    else none
  else none

/-- The body of the loop. -/
def drawUnit (p : DrawUnitsParams) (s : DrawState) (i : Nat) : DrawState :=
  let band := bandForWater s.w p.l0 p.thresholds
  let roll := p.randomInt i
  let outcome := outcomeFromRoll (p.weights.at band) roll
  let rRaw := rawReward p.unitPrice outcome
  let mMaxCapAmount := p.unitPrice * p.mMax
  -- a win above the m_max cap is reduced to it, not downgraded
  let rCap := if mMaxCapAmount < rRaw then mMaxCapAmount else rRaw
  let downgrade := p.downgrade s rCap
  let rPaid := if downgrade.isSome then 0 else rCap
  let frac := OUTCOME_FRACTION outcome
  { w := s.w - rPaid
    totalPaid := s.totalPaid + rPaid
    capRemaining := if p.capOn then s.capRemaining - rPaid else s.capRemaining
    bigWin := s.bigWin || (p.unitPrice * BIG_WIN_MULTIPLE ≤ rPaid ∧ 0 < rPaid)
    rewards := s.rewards ++ [rPaid]
    units := s.units ++
      [{ i, band, roll, rollMax := 10000, outcome, mNum := frac.1, mDen := frac.2, rRaw, rPaid,
         downgrade }] }

def initial (p : DrawUnitsParams) : DrawState where
  w := p.startingWater
  totalPaid := 0
  capRemaining := if p.capOn then p.dailyWinCapCoins - p.priorDailyWon else 0
  bigWin := false
  units := []
  rewards := []

end DrawUnitsParams

def drawUnits (p : DrawUnitsParams) : DrawUnitsResult :=
  let s := (List.range p.count).foldl p.drawUnit p.initial
  { units := s.units, rewards := s.rewards, totalPaid := s.totalPaid, finalWater := s.w,
    bigWin := s.bigWin }

/-- The groups of `collapseBreakdown`: `g` is the loop variable, the second component what is
left of the array. -/
def collapseStep (base extra : Nat) (s : List Int × List Int) (g : Nat) : List Int × List Int :=
  let size := base + if g < extra then 1 else 0
  (s.1 ++ [(s.2.take size).sum], s.2.drop size)

def collapseBreakdown (perUnit : List Int) (maxGroups : Nat := 10) : List Int :=
  let n := perUnit.length
  if n ≤ maxGroups then perUnit
  else
    ((List.range maxGroups).foldl (collapseStep (n / maxGroups) (n % maxGroups)) ([], perUnit)).1

/-! ### Categories -/

def singleCategory (unitPrice paidReward : Int) : LuckyCategory :=
  if paidReward ≤ 0 then .miss
  else
    let bp := if 0 < unitPrice then (paidReward * 10000).tdiv unitPrice else 0
    if bp < 7500 then .small
    else if bp < 17500 then .equal
    else if bp < 62500 then .medium
    else .jackpot

def comboCategory (totalPaid spend : Int) : LuckyCategory :=
  let bp := if 0 < spend then (totalPaid * 10000).tdiv spend else 0
  if bp = 0 then .miss
  else if bp < 7500 then .unlucky
  else if bp < 9500 then .normal
  else if bp < 12500 then .breakEven
  else .winner

def resolveCategory (count : Nat) (unitPrice totalPaid : Int) : LuckyCategory :=
  if count ≤ 1 then singleCategory unitPrice totalPaid
  else comboCategory totalPaid (unitPrice * count)

/-! ### What a draw can do to the water -/

theorem rawReward_nonneg {price : Int} (priced : 0 ≤ price) (outcome : LuckyOutcome) :
    0 ≤ rawReward price outcome := by
  unfold rawReward
  dsimp only
  split
  · exact Int.le_refl 0
  · cases outcome <;> simp only [OUTCOME_FRACTION] <;>
      exact Int.tdiv_nonneg (by omega) (by omega)

namespace DrawUnitsParams

variable (p : DrawUnitsParams)

/-- The loop invariant: the water has lost what was paid, nobody was charged for a draw, and water
that was paid from is still above the floor. -/
structure Solvent (s : DrawState) : Prop where
  water : s.w = p.startingWater - s.totalPaid
  paid : 0 ≤ s.totalPaid
  floor : 0 < s.totalPaid → p.floor ≤ s.w
  rewards : s.rewards.sum = s.totalPaid

theorem solvent_initial : p.Solvent p.initial := by
  constructor <;> simp [initial]

/-- A unit that pays leaves the water above the floor. -/
theorem not_downgraded {s : DrawState} {rCap : Int} (kept : p.downgrade s rCap = none)
    (wins : 0 < rCap) : rCap ≤ s.w - p.floor := by
  unfold downgrade at kept
  rw [if_pos wins] at kept
  split at kept
  · cases kept
  · split at kept
    · cases kept
    · split at kept
      · cases kept
      · omega

theorem drawUnit_solvent {s : DrawState} (priced : 0 ≤ p.unitPrice) (capped : 0 ≤ p.mMax)
    (solvent : p.Solvent s) (i : Nat) : p.Solvent (p.drawUnit s i) := by
  let outcome := outcomeFromRoll (p.weights.at (bandForWater s.w p.l0 p.thresholds)) (p.randomInt i)
  let rCap := if p.unitPrice * p.mMax < rawReward p.unitPrice outcome then p.unitPrice * p.mMax
    else rawReward p.unitPrice outcome
  let rPaid := if (p.downgrade s rCap).isSome then 0 else rCap
  have raw := rawReward_nonneg priced outcome
  have most : 0 ≤ p.unitPrice * p.mMax := Int.mul_nonneg priced capped
  have cap : 0 ≤ rCap := by
    simp only [rCap]
    split <;> assumption
  have paid : 0 ≤ rPaid := by
    simp only [rPaid]
    split
    · exact Int.le_refl 0
    · exact cap
  have floor : 0 < rPaid → rPaid ≤ s.w - p.floor := by
    intro wins
    cases decided : p.downgrade s rCap with
    | none =>
      have same : rPaid = rCap := by simp [rPaid, decided]
      rw [same] at wins ⊢
      exact p.not_downgraded decided wins
    | some reason =>
      have none : rPaid = 0 := by simp [rPaid, decided]
      omega
  have total : (p.drawUnit s i).totalPaid = s.totalPaid + rPaid := rfl
  have water : (p.drawUnit s i).w = s.w - rPaid := rfl
  have rewards : (p.drawUnit s i).rewards = s.rewards ++ [rPaid] := rfl
  obtain ⟨waterBefore, paidBefore, floorBefore, rewardsBefore⟩ := solvent
  constructor
  · omega
  · omega
  · intro won
    by_cases wins : 0 < rPaid
    · have := floor wins
      omega
    · have := floorBefore (by omega)
      omega
  · simp [rewards, total, rewardsBefore]

theorem foldl_solvent (priced : 0 ≤ p.unitPrice) (capped : 0 ≤ p.mMax) (indices : List Nat)
    {s : DrawState} (solvent : p.Solvent s) : p.Solvent (indices.foldl p.drawUnit s) := by
  induction indices generalizing s with
  | nil => exact solvent
  | cons i rest ih => exact ih (p.drawUnit_solvent priced capped solvent i)

end DrawUnitsParams

/-- What `drawUnits` promises to whoever settles its result. -/
theorem drawUnits_solvent (p : DrawUnitsParams) (priced : 0 ≤ p.unitPrice) (capped : 0 ≤ p.mMax) :
    (drawUnits p).finalWater = p.startingWater - (drawUnits p).totalPaid ∧
      0 ≤ (drawUnits p).totalPaid ∧
      (0 < (drawUnits p).totalPaid → p.floor ≤ (drawUnits p).finalWater) ∧
      (drawUnits p).rewards.sum = (drawUnits p).totalPaid := by
  obtain ⟨water, paid, floor, rewards⟩ :=
    p.foldl_solvent priced capped (List.range p.count) p.solvent_initial
  exact ⟨water, paid, floor, rewards⟩

end OlNode
