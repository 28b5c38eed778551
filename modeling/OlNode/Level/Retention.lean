import OlNode.Keyed
import OlNode.Level.RichTier

/-!
# Where the rollover lands

The carry-over of a closed month is the threshold of the landing tier and half of the gap to the
next one. On every ladder that `replaceTierConfig` accepts, thresholds are positive and strictly
increase, so half of a gap never closes it: `computeTier` finds the landing tier again.
-/
namespace OlNode.RichTier

/-! ### The rows of an accepted ladder -/

private theorem checkTiers_rows {rows : List RichTierLadderRow} {i : Nat} {before : Option Int}
    (checked : checkTiers i before rows = .ok ()) :
    (∀ k < rows.length, ∃ row ∈ rows, row.tier = i + 1 + k) ∧
      ∀ row ∈ rows, 0 < row.minRechargeCoins := by
  induction rows generalizing i before with
  | nil => simp
  | cons row rows ih =>
    rw [checkTiers] at checked
    split at checked
    · cases checked
    next tier =>
    split at checked
    · cases checked
    next positive =>
    split at checked
    · cases checked
    split at checked
    · cases checked
    obtain ⟨later, positives⟩ := ih checked
    have numbered : row.tier = i + 1 := by simpa using tier
    constructor
    · intro k inside
      cases k with
      | zero => exact ⟨row, List.mem_cons_self, by simp [numbered]⟩
      | succ k =>
        obtain ⟨next, member, found⟩ := later k (by simpa using inside)
        refine ⟨next, List.mem_cons_of_mem _ member, ?_⟩
        push_cast at found ⊢
        omega
    · intro next member
      rcases List.mem_cons.mp member with rfl | member
      · omega
      · exact positives next member

/-- The tiers are 1 to 10, each with a positive threshold. -/
theorem replaceTierConfig_rows {tiers ladder : List RichTierLadderRow}
    (accepted : replaceTierConfig tiers = .ok ladder) :
    (∀ t : Int, 1 ≤ t → t ≤ 10 → ∃ row ∈ ladder, row.tier = t) ∧
      ∀ row ∈ ladder, 0 < row.minRechargeCoins := by
  rw [replaceTierConfig] at accepted
  dsimp only at accepted
  split at accepted
  · cases accepted
  next ten =>
  split at accepted
  next checked =>
    cases accepted
    obtain ⟨numbered, positive⟩ := checkTiers_rows checked
    refine ⟨fun t low high => ?_, positive⟩
    obtain ⟨row, member, found⟩ := numbered (t - 1).toNat (by simp at ten ⊢; omega)
    exact ⟨row, member, by omega⟩
  · cases accepted

section Accepted

variable {tiers ladder : List RichTierLadderRow} (accepted : replaceTierConfig tiers = .ok ladder)

include accepted

theorem thresholdForTier_eq {row : RichTierLadderRow} (member : row ∈ ladder) :
    thresholdForTier row.tier ladder = row.minRechargeCoins := by
  have unique : (ladder.map (·.tier)).Nodup := by
    rw [List.nodup_iff_pairwise_ne, List.pairwise_map]
    exact (replaceTierConfig_ascending accepted).2.imp fun less => less.1.ne
  rw [thresholdForTier, Keyed.find?_of_mem unique member]
  rfl

/-- There is no threshold below the first tier. -/
theorem thresholdForTier_zero : thresholdForTier 0 ladder = 0 := by
  have none : (ladder.find? fun row => decide (row.tier = 0)) = none := by
    rw [List.find?_eq_none]
    intro row member
    have positive := (replaceTierConfig_ascending accepted).1 row member
    simp
    omega
  rw [thresholdForTier, none]
  rfl

/-- Coins from the threshold of a tier up to the next one make that tier. -/
theorem computeTier_eq {coins t : Int} (low : 0 ≤ t) (high : t < 10)
    (reached : thresholdForTier t ladder ≤ coins)
    (short : coins < thresholdForTier (t + 1) ladder) : computeTier coins ladder = t := by
  obtain ⟨positive, ascending⟩ := replaceTierConfig_ascending accepted
  obtain ⟨rows, -⟩ := replaceTierConfig_rows accepted
  obtain ⟨next, nextMember, nextTier⟩ := rows (t + 1) (by omega) (by omega)
  rw [← nextTier, thresholdForTier_eq accepted nextMember] at short
  -- No row above the tier is within reach.
  have beyond : ∀ row ∈ ladder, t < row.tier → coins < row.minRechargeCoins := by
    intro row member higher
    by_cases same : row.tier = next.tier
    · rw [← thresholdForTier_eq accepted member, same, thresholdForTier_eq accepted nextMember]
      exact short
    · have above := Ladder.threshold_lt ascending nextMember member (by omega)
      omega
  rw [computeTier, sortedLadder_eq ascending]
  have found := Ladder.climb_highest (ascending.imp fun less => ⟨less.1, less.2.le⟩) coins 0
  refine found.unique ⟨?_, ?_⟩
  · by_cases lowest : t = 0
    · refine .inr ⟨lowest, fun row member => beyond row member ?_⟩
      have := positive row member
      omega
    · obtain ⟨row, member, tier⟩ := rows t (by omega) (by omega)
      rw [← tier, thresholdForTier_eq accepted member] at reached
      exact .inl ⟨row, member, tier, reached⟩
  · intro row member within
    by_contra higher
    have := beyond row member (by omega)
    omega

theorem thresholdForTier_lt {t : Int} (low : 0 ≤ t) (high : t < 10) :
    thresholdForTier t ladder < thresholdForTier (t + 1) ladder := by
  obtain ⟨rows, positive⟩ := replaceTierConfig_rows accepted
  obtain ⟨next, nextMember, nextTier⟩ := rows (t + 1) (by omega) (by omega)
  rw [← nextTier, thresholdForTier_eq accepted nextMember]
  by_cases lowest : t = 0
  · rw [lowest, thresholdForTier_zero accepted]
    exact positive next nextMember
  · obtain ⟨row, member, tier⟩ := rows t (by omega) (by omega)
    rw [← tier, thresholdForTier_eq accepted member]
    exact Ladder.threshold_lt (replaceTierConfig_ascending accepted).2 member nextMember (by omega)

end Accepted

/-! ### Retention -/

theorem retentionLandingTier_bounds (t : Int) :
    0 ≤ retentionLandingTier t ∧ retentionLandingTier t ≤ 7 := by
  unfold retentionLandingTier
  split
  · omega
  split
  · omega
  split
  · omega
  split <;> omega

/-- The carry-over lies in the lower half of the landing tier's band. -/
theorem applyRetentionRule_bounds {tiers ladder : List RichTierLadderRow}
    (accepted : replaceTierConfig tiers = .ok ladder) (t : Int) :
    thresholdForTier (retentionLandingTier t) ladder ≤ applyRetentionRule t ladder ∧
      applyRetentionRule t ladder < thresholdForTier (retentionLandingTier t + 1) ladder := by
  obtain ⟨low, high⟩ := retentionLandingTier_bounds t
  have gap := thresholdForTier_lt accepted low (by omega)
  rw [applyRetentionRule]
  dsimp only
  split
  next none =>
    -- Nothing is carried over to a user who lands on no tier.
    have landing : retentionLandingTier t = 0 := by omega
    have zero := thresholdForTier_zero accepted
    rw [landing] at gap ⊢
    omega
  next =>
    rw [if_neg (by omega)]
    omega

/-- The tier of the carry-over is the tier the user was promised to land on. -/
theorem retention_lands {tiers ladder : List RichTierLadderRow}
    (accepted : replaceTierConfig tiers = .ok ladder) (t : Int) :
    computeTier (applyRetentionRule t ladder) ladder = retentionLandingTier t ∧
      thresholdForTier (retentionLandingTier t) ladder ≤ applyRetentionRule t ladder ∧
      applyRetentionRule t ladder < thresholdForTier (retentionLandingTier t + 1) ladder := by
  obtain ⟨low, high⟩ := retentionLandingTier_bounds t
  obtain ⟨reached, short⟩ := applyRetentionRule_bounds accepted t
  exact ⟨computeTier_eq accepted low (by omega) reached short, reached, short⟩

theorem retention_lands_third :
    computeTier (applyRetentionRule 3 defaultRichTierLadder) defaultRichTierLadder = 1 ∧
      3000000 ≤ applyRetentionRule 3 defaultRichTierLadder ∧
      applyRetentionRule 3 defaultRichTierLadder < 5000000 :=
  retention_lands default_accepted 3

end OlNode.RichTier
