import Mathlib.Algebra.Order.BigOperators.Group.List
import Mathlib.Algebra.Order.Group.Int
import OlNode.LuckyWater.Guard

/-!
# The contract of the draw loop

What `drawUnits` promises for any water, caps and rolls. Each unit is decided on the water and the
remaining daily cap that the units before it have left, so the promises are carried by an invariant
of the loop. `Pays` says what one unit can do in the state it is drawn in; the invariant follows
from it alone.
-/
namespace OlNode

namespace DrawUnitsParams

variable (p : DrawUnitsParams)

/-- The raw reward after the `m_max` cap. -/
def rCap (rRaw : Int) : Int :=
  if p.unitPrice * p.mMax < rRaw then p.unitPrice * p.mMax else rRaw

/-- The unit that the loop appends in the state `s`. -/
def unitAt (s : DrawState) (i : Nat) : UnitDraw :=
  let band := bandForWater s.w p.l0 p.thresholds
  let outcome := outcomeFromRoll (p.weights.at band) (p.randomInt i)
  let rRaw := rawReward p.unitPrice outcome
  let downgrade := p.downgrade s (p.rCap rRaw)
  { i, band, roll := p.randomInt i, rollMax := 10000, outcome, mNum := (OUTCOME_FRACTION outcome).1,
    mDen := (OUTCOME_FRACTION outcome).2, rRaw,
    rPaid := if downgrade.isSome then 0 else p.rCap rRaw, downgrade }

theorem drawUnit_eq (s : DrawState) (i : Nat) :
    p.drawUnit s i =
      { w := s.w - (p.unitAt s i).rPaid
        totalPaid := s.totalPaid + (p.unitAt s i).rPaid
        capRemaining :=
          if p.capOn then s.capRemaining - (p.unitAt s i).rPaid else s.capRemaining
        bigWin := s.bigWin || (p.unitPrice * BIG_WIN_MULTIPLE ≤ (p.unitAt s i).rPaid ∧
          0 < (p.unitAt s i).rPaid)
        rewards := s.rewards ++ [(p.unitAt s i).rPaid]
        units := s.units ++ [p.unitAt s i] } := by
  simp only [drawUnit, unitAt, rCap]
  congr

/-- What a unit can do: it pays within the multiplier cap, and only what the water above the floor
and the rest of the daily cap allow. -/
structure Pays (s : DrawState) (u : UnitDraw) : Prop where
  bounded : 0 ≤ u.rPaid ∧ u.rPaid ≤ p.unitPrice * p.mMax
  floor : 0 < u.rPaid → u.rPaid ≤ s.w - p.floor
  dailyCap : p.capOn = true → 0 < u.rPaid → u.rPaid ≤ s.capRemaining
  coolDown : p.coolDownActive = true → u.rPaid = 0
  downgraded : u.downgrade.isSome = true ↔ 0 < p.rCap u.rRaw ∧ u.rPaid = 0

theorem rCap_bounds {rRaw : Int} (priced : 0 ≤ p.unitPrice) (capped : 0 ≤ p.mMax)
    (raw : 0 ≤ rRaw) : 0 ≤ p.rCap rRaw ∧ p.rCap rRaw ≤ p.unitPrice * p.mMax := by
  have most : 0 ≤ p.unitPrice * p.mMax := Int.mul_nonneg priced capped
  unfold rCap
  split <;> omega

/-- A win that is not downgraded has passed all three guards. -/
theorem guards_passed {s : DrawState} {rCap : Int} (kept : p.downgrade s rCap = none)
    (wins : 0 < rCap) : p.coolDownActive = false ∧ (p.capOn = true → rCap ≤ s.capRemaining) ∧
      rCap ≤ s.w - p.floor := by
  have floor := p.not_downgraded kept wins
  unfold downgrade at kept
  rw [if_pos wins] at kept
  split at kept
  · cases kept
  next cold =>
  split at kept
  · cases kept
  next within =>
  simp only [not_and] at within
  exact ⟨by simpa using cold, fun on => by have := within on; omega, floor⟩

theorem unitAt_pays (s : DrawState) (priced : 0 ≤ p.unitPrice) (capped : 0 ≤ p.mMax) (i : Nat) :
    p.Pays s (p.unitAt s i) := by
  have raw : 0 ≤ (p.unitAt s i).rRaw := rawReward_nonneg priced _
  obtain ⟨nonneg, most⟩ := p.rCap_bounds priced capped raw
  have paid : (p.unitAt s i).rPaid =
      if (p.unitAt s i).downgrade.isSome then 0 else p.rCap (p.unitAt s i).rRaw := rfl
  have decided : (p.unitAt s i).downgrade = p.downgrade s (p.rCap (p.unitAt s i).rRaw) := rfl
  cases reason : p.downgrade s (p.rCap (p.unitAt s i).rRaw) with
  | some why =>
    -- Only a win is ever downgraded, and then it pays nothing.
    have wins : 0 < p.rCap (p.unitAt s i).rRaw := by
      by_contra none
      simp [downgrade, none] at reason
    have nothing : (p.unitAt s i).rPaid = 0 := by simp [paid, decided, reason]
    constructor <;> simp [nothing, decided, reason, wins]
    omega
  | none =>
    have all : (p.unitAt s i).rPaid = p.rCap (p.unitAt s i).rRaw := by
      simp [paid, decided, reason]
    constructor
    · omega
    · intro wins
      exact all ▸ (p.guards_passed reason (all ▸ wins)).2.2
    · intro on wins
      exact all ▸ (p.guards_passed reason (all ▸ wins)).2.1 on
    · intro cold
      by_contra pays
      have warm := (p.guards_passed reason (by omega)).1
      simp [cold] at warm
    · simp only [decided, reason, Option.isSome_none, Bool.false_eq_true, false_iff]
      omega

/-- What the units drawn so far have in common. -/
structure Contract (units : List UnitDraw) (rewards : List Int) (water : Int) (bigWin : Bool) :
    Prop where
  paid : units.map (·.rPaid) = rewards
  water : water = p.startingWater - rewards.sum
  bounded : ∀ reward ∈ rewards, 0 ≤ reward ∧ reward ≤ p.unitPrice * p.mMax
  /-- The water after a unit that pays. -/
  floor : ∀ k reward, rewards[k]? = some reward → 0 < reward →
    p.floor ≤ p.startingWater - (rewards.take (k + 1)).sum
  dailyCap : 0 < p.dailyWinCapCoins → 0 < rewards.sum →
    p.priorDailyWon + rewards.sum ≤ p.dailyWinCapCoins
  coolDown : p.coolDownActive = true → ∀ reward ∈ rewards, reward = 0
  bigWin : bigWin = true ↔ ∃ reward ∈ rewards, 0 < reward ∧ p.unitPrice * BIG_WIN_MULTIPLE ≤ reward
  downgraded : ∀ u ∈ units, u.downgrade.isSome = true ↔ 0 < p.rCap u.rRaw ∧ u.rPaid = 0

/-- The loop invariant: the contract for what has been drawn, and the rest of the daily cap. -/
structure Drawn (s : DrawState) : Prop extends Contract p s.units s.rewards s.w s.bigWin where
  total : s.totalPaid = s.rewards.sum
  remaining : p.capOn = true →
    s.capRemaining = p.dailyWinCapCoins - p.priorDailyWon - s.rewards.sum

theorem drawn_initial : p.Drawn p.initial := by
  constructor
  · constructor <;> simp [initial]
  · simp [initial]
  · intro on
    simp [initial, on]

theorem drawUnit_drawn {s : DrawState} (priced : 0 ≤ p.unitPrice) (capped : 0 ≤ p.mMax)
    (drawn : p.Drawn s) (i : Nat) : p.Drawn (p.drawUnit s i) := by
  have pays := p.unitAt_pays s priced capped i
  have before : 0 ≤ s.rewards.sum := List.sum_nonneg fun r member => (drawn.bounded r member).1
  rw [drawUnit_eq]
  constructor
  · constructor
    · simp [drawn.paid]
    · have := drawn.water
      simp only [List.sum_append, List.sum_singleton]
      omega
    · simp only [List.mem_append, List.mem_singleton]
      rintro reward (old | rfl)
      · exact drawn.bounded reward old
      · exact pays.bounded
    · intro k reward found wins
      rcases Nat.lt_trichotomy k s.rewards.length with old | last | beyond
      · rw [List.getElem?_append_left old] at found
        rw [List.take_append_of_le_length old]
        exact drawn.floor k reward found wins
      · -- The unit just drawn: all rewards so far are taken.
        subst last
        have whole : (s.rewards ++ [(p.unitAt s i).rPaid]).take (s.rewards.length + 1) =
            s.rewards ++ [(p.unitAt s i).rPaid] := List.take_of_length_le (by simp)
        have same : (p.unitAt s i).rPaid = reward := by simpa using found
        have room := pays.floor (same ▸ wins)
        have := drawn.water
        rw [whole, List.sum_append, List.sum_singleton]
        omega
      · rw [List.getElem?_eq_none (by simp; omega)] at found
        cases found
    · intro applies won
      have on : p.capOn = true := by simpa [capOn] using applies
      have left := drawn.remaining on
      simp only [List.sum_append, List.sum_singleton] at won ⊢
      by_cases wins : 0 < (p.unitAt s i).rPaid
      · have within := pays.dailyCap on wins
        omega
      · have nothing := pays.bounded.1
        have := drawn.dailyCap applies (by omega)
        omega
    · intro cold
      simp only [List.mem_append, List.mem_singleton]
      rintro reward (old | rfl)
      · exact drawn.coolDown cold reward old
      · exact pays.coolDown cold
    · simp only [Bool.or_eq_true, decide_eq_true_eq, drawn.bigWin, List.mem_append,
        List.mem_singleton]
      constructor
      · rintro (⟨reward, old, won⟩ | ⟨big, wins⟩)
        · exact ⟨reward, .inl old, won⟩
        · exact ⟨_, .inr rfl, wins, big⟩
      · rintro ⟨reward, old | rfl, wins, big⟩
        · exact .inl ⟨reward, old, wins, big⟩
        · exact .inr ⟨big, wins⟩
    · simp only [List.mem_append, List.mem_singleton]
      rintro u (old | rfl)
      · exact drawn.downgraded u old
      · exact pays.downgraded
  · simp [drawn.total]
  · intro on
    have := drawn.remaining on
    simp only [on, if_true, List.sum_append, List.sum_singleton]
    omega

/-- The invariant holds after any number of rounds; each round has drawn one unit. -/
theorem foldl_drawn (priced : 0 ≤ p.unitPrice) (capped : 0 ≤ p.mMax) (indices : List Nat)
    {s : DrawState} (drawn : p.Drawn s) :
    p.Drawn (indices.foldl p.drawUnit s) ∧
      (indices.foldl p.drawUnit s).rewards.length = s.rewards.length + indices.length := by
  induction indices generalizing s with
  | nil => exact ⟨drawn, rfl⟩
  | cons i rest ih =>
    obtain ⟨kept, length⟩ := ih (p.drawUnit_drawn priced capped drawn i)
    refine ⟨kept, ?_⟩
    rw [List.foldl_cons, length, drawUnit_eq]
    simp
    omega

end DrawUnitsParams

/-- The contract of `drawUnits`, for every water, cap, cool-down and sequence of rolls. -/
theorem drawUnits_contract (p : DrawUnitsParams) (priced : 0 ≤ p.unitPrice) (capped : 0 ≤ p.mMax) :
    (drawUnits p).rewards.length = p.count ∧
      (drawUnits p).totalPaid = (drawUnits p).rewards.sum ∧
      p.Contract (drawUnits p).units (drawUnits p).rewards (drawUnits p).finalWater
        (drawUnits p).bigWin := by
  obtain ⟨drawn, length⟩ := p.foldl_drawn priced capped (List.range p.count) p.drawn_initial
  refine ⟨?_, drawn.total, drawn.toContract⟩
  rw [List.length_range] at length
  exact length.trans (Nat.zero_add _)

/-- A combo of three units at a price of 100: a medium, a jackpot and a miss. -/
def comboDraw : DrawUnitsParams where
  unitPrice := 100
  count := 3
  weights := DEFAULT_BAND_WEIGHTS_V1
  thresholds := { criticalMaxBp := 5000, lowMaxBp := 10000, normalMaxBp := 15000 }
  l0 := 100000
  floor := 20000
  mMax := 10
  startingWater := 120000
  dailyWinCapCoins := 2000
  priorDailyWon := 500
  coolDownActive := false
  randomInt i := [9000, 9800, 1000].getD i 0

theorem drawUnits_contract_combo :
    (drawUnits comboDraw).rewards = [250, 1000, 0] ∧ (drawUnits comboDraw).rewards.length = 3 ∧
      (drawUnits comboDraw).totalPaid = (drawUnits comboDraw).rewards.sum ∧
      comboDraw.Contract (drawUnits comboDraw).units (drawUnits comboDraw).rewards
        (drawUnits comboDraw).finalWater (drawUnits comboDraw).bigWin :=
  ⟨by decide, drawUnits_contract comboDraw (by decide) (by decide)⟩

end OlNode
