import OlNode.Withdrawal.FeeTiers
import OlNode.Withdrawal.Operations

/-!
# The split of a withdrawal

`calculateWithdrawalAmounts` on the snapshot of the payroll configuration, and the admin update that
configures it. Every rate that an update lets through is a share of the whole, so the parts of an
amount add up to it and none is negative.
-/
namespace OlNode.Payroll

/-! ### Configuration -/

/-- The row of `payroll_config`, as far as the amounts depend on it. -/
structure PayrollConfigRow where
  platformFeeRateBp : Int
  agentRewardRateBp : Int
  serviceFeeUsd : Rat
  minWithdrawalUsd : Rat
  maxWithdrawalUsd : Rat
  deriving DecidableEq

structure PayrollDb where
  config : Option PayrollConfigRow
  /-- The active rows of `payroll_fee_tiers`. -/
  tiers : List PayrollFeeTierRow
  deriving DecidableEq

/-- A request that the route's schema lets through: the rates are not negative. -/
structure PayrollConfigUpdates where
  platformFeeRateBp : Option Nat := none
  agentRewardRateBp : Option Nat := none
  feeTiers : Option (List FeeTierInput) := none
  serviceFeeUsd : Option Rat := none
  minWithdrawalUsd : Option Rat := none
  maxWithdrawalUsd : Option Rat := none

def payrollConfigMissing : LedgerError :=
  .app { status := 500, message := "Payroll config missing", code := .configError }

/-- A column with two decimals rounds a half away from 0. -/
def toDecimal (usd : Rat) : Rat :=
  if 0 ≤ usd then (usd * 100 + 1 / 2).floor / 100 else -(((-usd) * 100 + 1 / 2).floor / 100)

/-- An empty list of tiers counts as none. -/
def normalizeFeeTiers : Option (List FeeTierInput) →
    Except LedgerError (Option (List PayrollFeeTierRates))
  | some (row :: rows) => some <$> normalizeAndValidateFeeTiers (row :: rows)
  | _ => .ok none

/-- `softReplace` when there are tiers, else `updateAgentRewardOnActive` when there is a share. -/
def replaceTiers (normalizedTiers : Option (List PayrollFeeTierRates))
    (agentRewardRateBp : Option Nat) (tiers : List PayrollFeeTierRow) : List PayrollFeeTierRow :=
  match normalizedTiers, agentRewardRateBp with
  | some normalized, _ => numbered normalized
  | none, some bp => tiers.map fun row => { row with agentRewardRateBp := bp }
  | none, none => tiers

/-- The first of the new tiers sets the rates, else the request, else they stay. -/
def updatedConfig (updates : PayrollConfigUpdates) (first : Option PayrollFeeTierRates)
    (current : PayrollConfigRow) : PayrollConfigRow :=
  { platformFeeRateBp := (first.map (·.platformFeeRateBp)).getD
      ((updates.platformFeeRateBp.map Int.ofNat).getD current.platformFeeRateBp)
    agentRewardRateBp := (first.map (·.agentRewardRateBp)).getD
      ((updates.agentRewardRateBp.map Int.ofNat).getD current.agentRewardRateBp)
    serviceFeeUsd := (updates.serviceFeeUsd.map toDecimal).getD current.serviceFeeUsd
    minWithdrawalUsd := (updates.minWithdrawalUsd.map toDecimal).getD current.minWithdrawalUsd
    maxWithdrawalUsd := (updates.maxWithdrawalUsd.map toDecimal).getD current.maxWithdrawalUsd }

def updateConfig (updates : PayrollConfigUpdates) (db : PayrollDb) : Except LedgerError PayrollDb :=
  match db.config with
  | none => .error payrollConfigMissing
  | some current => do
    let normalizedTiers ← normalizeFeeTiers updates.feeTiers
    let config := updatedConfig updates (normalizedTiers.bind (·.head?)) current
    if 10000 < config.agentRewardRateBp then
      .error (invalidFeeConfig "Agent reward share cannot exceed 100% of platform fee")
    else pure ⟨some config, replaceTiers normalizedTiers updates.agentRewardRateBp db.tiers⟩

/-- The row that `payroll_config` is created with. -/
def defaultConfig : PayrollConfigRow :=
  { platformFeeRateBp := 500, agentRewardRateBp := 6000, serviceFeeUsd := 1
    minWithdrawalUsd := 10, maxWithdrawalUsd := 10000000 }

/-! ### Snapshot -/

structure PayrollConfigSnapshot where
  platformFeeRateBp : Int
  agentRewardRateBp : Int
  feeTiers : List PayrollFeeTierDto
  serviceFeeUsd : Rat
  minWithdrawalUsd : Rat
  maxWithdrawalUsd : Rat

/-- `ORDER BY sort_order, min_points`. -/
def findActive (db : PayrollDb) : List PayrollFeeTierRow :=
  db.tiers.insertionSort fun a b =>
    a.sortOrder < b.sortOrder ∨ a.sortOrder = b.sortOrder ∧ a.minPoints ≤ b.minPoints

def loadFeeTiers (db : PayrollDb) : List PayrollFeeTierDto :=
  let rows := findActive db
  if rows.isEmpty then defaultPayrollFeeTierDtos else rows.map formatPayrollFeeTierDto

def loadPayrollConfigRow (db : PayrollDb) : Except LedgerError PayrollConfigSnapshot :=
  match db.config with
  | none => .error payrollConfigMissing
  | some row =>
    let feeTiers := loadFeeTiers db
    .ok
      { platformFeeRateBp := (feeTiers.head?.map (·.platformFeeRateBp)).getD row.platformFeeRateBp
        agentRewardRateBp := (feeTiers.head?.map (·.agentRewardRateBp)).getD row.agentRewardRateBp
        feeTiers
        serviceFeeUsd := row.serviceFeeUsd
        minWithdrawalUsd := row.minWithdrawalUsd
        maxWithdrawalUsd := row.maxWithdrawalUsd }

/-! ### Amounts -/

structure CalculatedAmounts where
  platformFeeRateBp : Int
  platformFeePoints : Int
  agentRewardPoints : Int
  hostPayoutPoints : Int
  hostPayoutUsd : Rat
  serviceFeeUsd : Rat
  serviceFeePoints : Int
  hostNetUsd : Rat

def refused (message : String) (code : ErrorCode) : LedgerError :=
  .app { status := 400, message, code }

def serviceFeeUsdToPoints (serviceFeeUsd : Rat) : Int :=
  if serviceFeeUsd ≤ 0 then 0 else usdToPoints serviceFeeUsd

def hostPayoutUsd (hostPayoutPoints : Int) : Rat := hostPayoutPoints / 10000

def epayAmounts (grossPoints : Int) (config : PayrollConfigSnapshot) : CalculatedAmounts :=
  let serviceFeePoints := serviceFeeUsdToPoints config.serviceFeeUsd
  let hostPayoutPoints := grossPoints - serviceFeePoints
  { platformFeeRateBp := 0, platformFeePoints := 0, agentRewardPoints := 0
    hostPayoutPoints
    hostPayoutUsd := hostPayoutUsd hostPayoutPoints
    serviceFeeUsd := config.serviceFeeUsd
    serviceFeePoints
    hostNetUsd := hostPayoutUsd hostPayoutPoints }

def bankAmounts (grossPoints : Int) (rates : PayrollFeeRates) : CalculatedAmounts :=
  let platformFeePoints := (grossPoints * rates.platformFeeRateBp).tdiv 10000
  let hostPayoutPoints := grossPoints - platformFeePoints
  { platformFeeRateBp := rates.platformFeeRateBp
    platformFeePoints
    agentRewardPoints := (platformFeePoints * rates.agentRewardRateBp).tdiv 10000
    hostPayoutPoints
    hostPayoutUsd := hostPayoutUsd hostPayoutPoints
    serviceFeeUsd := 0, serviceFeePoints := 0
    hostNetUsd := hostPayoutUsd hostPayoutPoints }

def calculateWithdrawalAmounts (grossPoints : Int) (config : PayrollConfigSnapshot)
    (methodType : WithdrawalMethodType) : Except LedgerError CalculatedAmounts :=
  if grossPoints ≤ 0 then .error (refused "Amount must be positive" .invalidAmount)
  else if (grossPoints : Rat) / 10000 < config.minWithdrawalUsd - 1 / 10 ^ 9 then
    .error (refused "Below minimum withdrawal amount" .belowMinWithdrawal)
  else if config.maxWithdrawalUsd + 1 / 10 ^ 9 < (grossPoints : Rat) / 10000 then
    .error (refused "Above maximum withdrawal amount" .aboveMaxWithdrawal)
  else match methodType with
    | .epay =>
      if grossPoints ≤ serviceFeeUsdToPoints config.serviceFeeUsd then
        .error (refused "Service fee exceeds or equals the requested withdrawal amount"
          .serviceFeeExceedsAmount)
      else .ok (epayAmounts grossPoints config)
    | .bank => bankAmounts grossPoints <$>
        resolvePayrollFeeRates grossPoints (some config.feeTiers) (some config.agentRewardRateBp)

/-! ### What accepted updates keep -/

/-- Every rate of an active tier is a share of the whole. -/
def Rated (tiers : List PayrollFeeTierRow) : Prop :=
  ∀ row ∈ tiers, IsRate row.platformFeeRateBp ∧ IsRate row.agentRewardRateBp

/-- The states of the configuration: what the migrations leave, with or without tiers, and what
accepted updates make of it. -/
inductive Configured : PayrollDb → Prop
  | created : Configured ⟨some defaultConfig, []⟩
  | seeded : Configured ⟨some defaultConfig, numbered DEFAULT_PAYROLL_FEE_TIERS⟩
  | updated {db db' : PayrollDb} {updates : PayrollConfigUpdates} (before : Configured db)
      (accepted : updateConfig updates db = .ok db') : Configured db'

variable {tiers : List PayrollFeeTierRates}

theorem numbered_rated
    (rated : ∀ t ∈ tiers, IsRate t.platformFeeRateBp ∧ IsRate t.agentRewardRateBp) :
    Rated (numbered tiers) := by
  intro row member
  have tier : row.toPayrollFeeTierRates ∈ tiers := by
    rw [← numbered_rates tiers]
    exact List.mem_map_of_mem member
  exact rated row.toPayrollFeeTierRates tier

theorem default_rated : Rated (numbered DEFAULT_PAYROLL_FEE_TIERS) := by
  apply numbered_rated
  unfold DEFAULT_PAYROLL_FEE_TIERS IsRate
  decide

theorem normalizeFeeTiers_rated {feeTiers : Option (List FeeTierInput)}
    (normalized : normalizeFeeTiers feeTiers = .ok (some tiers)) :
    ∀ t ∈ tiers, IsRate t.platformFeeRateBp ∧ IsRate t.agentRewardRateBp := by
  unfold normalizeFeeTiers at normalized
  split at normalized
  next row rows =>
    cases accepted : normalizeAndValidateFeeTiers (row :: rows) with
    | error e =>
      rw [accepted] at normalized
      cases normalized
    | ok accepted' =>
      rw [accepted] at normalized
      cases normalized
      intro t member
      have wellFormed := (normalizeAndValidateFeeTiers_ok accepted).1 t member
      exact ⟨wellFormed.platform, wellFormed.agent⟩
  · cases normalized

theorem updateConfig_rated {updates : PayrollConfigUpdates} {db db' : PayrollDb}
    (rated : Rated db.tiers) (accepted : updateConfig updates db = .ok db') : Rated db'.tiers := by
  unfold updateConfig at accepted
  split at accepted
  · cases accepted
  next current _ =>
    obtain ⟨normalizedTiers, normalized, accepted⟩ := bind_ok.mp accepted
    dsimp only at accepted
    split at accepted
    · cases accepted
    next share =>
      cases accepted
      show Rated (replaceTiers normalizedTiers updates.agentRewardRateBp db.tiers)
      unfold replaceTiers
      split
      · exact numbered_rated (normalizeFeeTiers_rated normalized)
      next bp given =>
        -- The share that all active tiers get was checked as the configuration's own.
        have checked : (bp : Int) ≤ 10000 := by simpa [updatedConfig, given] using share
        intro row member
        obtain ⟨old, stored, rfl⟩ := List.mem_map.mp member
        exact ⟨(rated old stored).1, Int.natCast_nonneg bp, checked⟩
      · exact rated

variable {db : PayrollDb}

theorem Configured.rated (configured : Configured db) : Rated db.tiers := by
  induction configured with
  | created => exact List.forall_mem_nil _
  | seeded => exact default_rated
  | updated _ accepted ih => exact updateConfig_rated ih accepted

/-! ### The rates of an amount -/

theorem matchPayrollFeeTier_mem (grossPoints : Int) (nonempty : tiers ≠ []) :
    matchPayrollFeeTier grossPoints tiers ∈ tiers := by
  have mem : ∀ {t}, t ∈ sortByMin tiers ↔ t ∈ tiers := List.mem_insertionSort _
  unfold matchPayrollFeeTier
  dsimp only
  split
  next t found => exact mem.mp (List.mem_of_find?_eq_some found)
  next =>
    cases last : (sortByMin tiers).getLast? with
    | some t => exact mem.mp (List.mem_of_getLast? last)
    | none =>
      rw [List.getLast?_eq_none_iff] at last
      obtain ⟨t, member⟩ := List.exists_mem_of_ne_nil tiers nonempty
      rw [← mem, last] at member
      cases member

/-- The tiers of a snapshot are those of some rows with rates. -/
theorem Configured.loaded (configured : Configured db) :
    ∃ rows ≠ [], Rated rows ∧ loadFeeTiers db = rows.map formatPayrollFeeTierDto := by
  unfold loadFeeTiers
  dsimp only
  split
  next empty => exact ⟨numbered DEFAULT_PAYROLL_FEE_TIERS, by decide, default_rated, rfl⟩
  next some_row =>
    refine ⟨findActive db, by simpa using some_row, ?_, rfl⟩
    intro row member
    exact configured.rated row ((List.mem_insertionSort _).mp member)

/-- The rates of an amount are resolved, and are shares. -/
theorem Configured.rates (configured : Configured db) {snapshot : PayrollConfigSnapshot}
    (loaded : loadPayrollConfigRow db = .ok snapshot) (grossPoints : Int) (fallback : Option Int) :
    ∃ tiers rates, parsePayrollFeeTiers (some snapshot.feeTiers) = .ok tiers ∧
      resolvePayrollFeeRates grossPoints (some snapshot.feeTiers) fallback = .ok rates ∧
      rates = ⟨(matchPayrollFeeTier grossPoints tiers).platformFeeRateBp,
        (matchPayrollFeeTier grossPoints tiers).agentRewardRateBp⟩ ∧
      IsRate rates.platformFeeRateBp ∧ IsRate rates.agentRewardRateBp := by
  obtain ⟨rows, nonempty, rated, tiers⟩ := configured.loaded
  have feeTiers : snapshot.feeTiers = rows.map formatPayrollFeeTierDto := by
    unfold loadPayrollConfigRow at loaded
    split at loaded
    · cases loaded
    · cases loaded
      exact tiers
  rw [feeTiers]
  refine ⟨rows.map (·.toPayrollFeeTierRates), _, parsePayrollFeeTiers_format rows,
    resolvePayrollFeeRates_format nonempty grossPoints fallback, rfl, ?_⟩
  have some_tier : rows.map (·.toPayrollFeeTierRates) ≠ [] := by simpa using nonempty
  have member := matchPayrollFeeTier_mem grossPoints some_tier
  obtain ⟨row, stored, same⟩ := List.mem_map.mp member
  rw [← same]
  exact rated row stored

/-! ### The parts -/

section Shares

variable {points more rateBp : Int}

/-- A share in basis points is a part of the whole. -/
theorem share_bounds (nonneg : 0 ≤ points) (rate : IsRate rateBp) :
    0 ≤ (points * rateBp).tdiv 10000 ∧ (points * rateBp).tdiv 10000 ≤ points := by
  have product : 0 ≤ points * rateBp := Int.mul_nonneg nonneg rate.1
  have bound : points * rateBp ≤ points * 10000 := Int.mul_le_mul_of_nonneg_left rate.2 nonneg
  rw [Int.tdiv_eq_ediv_of_nonneg product]
  omega

/-- The share grows by no more than the amount. -/
theorem share_grows (nonneg : 0 ≤ points) (grows : points ≤ more) (rate : IsRate rateBp) :
    (more * rateBp).tdiv 10000 ≤ (points * rateBp).tdiv 10000 + (more - points) := by
  have bound : (more - points) * rateBp ≤ (more - points) * 10000 :=
    Int.mul_le_mul_of_nonneg_left rate.2 (by omega)
  have product : 0 ≤ points * rateBp := Int.mul_nonneg nonneg rate.1
  have product' : 0 ≤ more * rateBp := Int.mul_nonneg (Int.le_trans nonneg grows) rate.1
  rw [Int.tdiv_eq_ediv_of_nonneg product, Int.tdiv_eq_ediv_of_nonneg product']
  rw [Int.sub_mul] at bound
  omega

end Shares

/-- The amount passes the checks that do not depend on the method. -/
def InLimits (config : PayrollConfigSnapshot) (grossPoints : Int) : Prop :=
  0 < grossPoints ∧ config.minWithdrawalUsd - 1 / 10 ^ 9 ≤ (grossPoints : Rat) / 10000 ∧
    (grossPoints : Rat) / 10000 ≤ config.maxWithdrawalUsd + 1 / 10 ^ 9

variable {amounts : CalculatedAmounts} {config : PayrollConfigSnapshot} {grossPoints : Int}

theorem calculate_inLimits {methodType : WithdrawalMethodType}
    (done : calculateWithdrawalAmounts grossPoints config methodType = .ok amounts) :
    InLimits config grossPoints := by
  unfold calculateWithdrawalAmounts at done
  split at done
  · cases done
  next positive =>
    split at done
    · cases done
    next low =>
      split at done
      · cases done
      next high => exact ⟨Int.not_le.mp positive, not_lt.mp low, not_lt.mp high⟩

/-- Within the limits only EPAY can still refuse an amount. -/
theorem epay_ok_iff :
    calculateWithdrawalAmounts grossPoints config .epay = .ok amounts ↔
      (InLimits config grossPoints ∧ serviceFeeUsdToPoints config.serviceFeeUsd < grossPoints) ∧
        amounts = epayAmounts grossPoints config := by
  constructor
  · intro done
    have limits := calculate_inLimits done
    have ⟨positive, low, high⟩ := limits
    rw [calculateWithdrawalAmounts, if_neg (Int.not_le.mpr positive), if_neg (not_lt.mpr low),
      if_neg (not_lt.mpr high)] at done
    split at done
    · cases done
    next large =>
      cases done
      exact ⟨⟨limits, Int.not_le.mp large⟩, rfl⟩
  · rintro ⟨⟨⟨positive, low, high⟩, large⟩, rfl⟩
    rw [calculateWithdrawalAmounts, if_neg (Int.not_le.mpr positive), if_neg (not_lt.mpr low),
      if_neg (not_lt.mpr high)]
    exact if_neg (Int.not_le.mpr large)

variable {rates : PayrollFeeRates}

theorem bank_ok_iff
    (resolved : resolvePayrollFeeRates grossPoints (some config.feeTiers)
      (some config.agentRewardRateBp) = .ok rates) :
    calculateWithdrawalAmounts grossPoints config .bank = .ok amounts ↔
      InLimits config grossPoints ∧ amounts = bankAmounts grossPoints rates := by
  constructor
  · intro done
    have limits := calculate_inLimits done
    have ⟨positive, low, high⟩ := limits
    rw [calculateWithdrawalAmounts, if_neg (Int.not_le.mpr positive), if_neg (not_lt.mpr low),
      if_neg (not_lt.mpr high)] at done
    rw [resolved] at done
    cases done
    exact ⟨limits, rfl⟩
  · rintro ⟨⟨positive, low, high⟩, rfl⟩
    rw [calculateWithdrawalAmounts, if_neg (Int.not_le.mpr positive), if_neg (not_lt.mpr low),
      if_neg (not_lt.mpr high)]
    rw [resolved]
    rfl

theorem usdToPoints_nonneg {usd : Rat} (nonneg : 0 ≤ usd) : 0 ≤ usdToPoints usd := by
  unfold usdToPoints
  rw [Rat.le_floor_iff]
  have exact_points : 0 ≤ usd * POINTS_PER_USD := mul_nonneg nonneg (by decide)
  exact_mod_cast add_nonneg exact_points (by decide +kernel : (0 : Rat) ≤ 1 / 2)

theorem serviceFeeUsdToPoints_nonneg (usd : Rat) : 0 ≤ serviceFeeUsdToPoints usd := by
  unfold serviceFeeUsdToPoints
  split
  · exact Int.le_refl 0
  next positive => exact usdToPoints_nonneg (le_of_lt (not_le.mp positive))

/-- What is written to the withdrawal's row. -/
def CalculatedAmounts.parts (amounts : CalculatedAmounts) : WithdrawalAmounts :=
  ⟨amounts.platformFeePoints, amounts.agentRewardPoints, amounts.serviceFeePoints⟩

/-- The parts add up to the amount and none is negative; the payout can be computed from the row. -/
structure Splits (grossPoints : Int) (amounts : CalculatedAmounts) : Prop where
  whole : amounts.hostPayoutPoints + amounts.platformFeePoints + amounts.serviceFeePoints =
    grossPoints
  host : 0 ≤ amounts.hostPayoutPoints
  platform : 0 ≤ amounts.platformFeePoints
  service : 0 ≤ amounts.serviceFeePoints
  agent : 0 ≤ amounts.agentRewardPoints ∧ amounts.agentRewardPoints ≤ amounts.platformFeePoints

theorem Splits.stored (splits : Splits grossPoints amounts) (withdrawalId : Nat)
    {input : CreateWithdrawalInput} (gross : input.grossPoints = grossPoints) :
    withdrawalHostPayoutPoints (newWithdrawal withdrawalId input amounts.parts) =
      amounts.hostPayoutPoints := by
  have whole := splits.whole
  show input.grossPoints - amounts.platformFeePoints - amounts.serviceFeePoints = _
  omega

theorem epayAmounts_splits (large : serviceFeeUsdToPoints config.serviceFeeUsd < grossPoints) :
    Splits grossPoints (epayAmounts grossPoints config) := by
  have nonneg := serviceFeeUsdToPoints_nonneg config.serviceFeeUsd
  unfold epayAmounts
  refine ⟨?_, ?_, Int.le_refl 0, nonneg, Int.le_refl 0, Int.le_refl 0⟩ <;> dsimp only <;> omega

theorem bankAmounts_splits (positive : 0 < grossPoints)
    (platform : IsRate rates.platformFeeRateBp) (agent : IsRate rates.agentRewardRateBp) :
    Splits grossPoints (bankAmounts grossPoints rates) := by
  obtain ⟨fee, feePart⟩ := share_bounds (Int.le_of_lt positive) platform
  have reward := share_bounds fee agent
  unfold bankAmounts
  refine ⟨?_, ?_, fee, Int.le_refl 0, reward⟩ <;> dsimp only <;> omega

/-- The tier of an amount, as the snapshot's tiers are parsed. -/
def tierOf (config : PayrollConfigSnapshot) (grossPoints : Int) :
    Except LedgerError PayrollFeeTierRates :=
  matchPayrollFeeTier grossPoints <$> parsePayrollFeeTiers (some config.feeTiers)

/-- What the function answers for an amount: the refusals are those that it names; what it returns
splits the amount, is what the stored row says, and within one tier (or by EPAY, which has none) a
larger amount never pays less. -/
structure Pays (config : PayrollConfigSnapshot) (grossPoints : Int)
    (methodType : WithdrawalMethodType) : Prop where
  returns : (∃ amounts, calculateWithdrawalAmounts grossPoints config methodType = .ok amounts) ↔
    InLimits config grossPoints ∧
      (methodType = .epay → serviceFeeUsdToPoints config.serviceFeeUsd < grossPoints)
  splits : ∀ amounts, calculateWithdrawalAmounts grossPoints config methodType = .ok amounts →
    Splits grossPoints amounts
  stored : ∀ amounts, calculateWithdrawalAmounts grossPoints config methodType = .ok amounts →
    ∀ (withdrawalId : Nat) (input : CreateWithdrawalInput), input.grossPoints = grossPoints →
      withdrawalHostPayoutPoints (newWithdrawal withdrawalId input amounts.parts) =
        amounts.hostPayoutPoints
  monotone : ∀ amounts, calculateWithdrawalAmounts grossPoints config methodType = .ok amounts →
    ∀ more ≥ grossPoints, (methodType = .epay ∨ tierOf config more = tierOf config grossPoints) →
      ∀ amounts', calculateWithdrawalAmounts more config methodType = .ok amounts' →
        amounts.hostPayoutPoints ≤ amounts'.hostPayoutPoints

theorem epay_pays (config : PayrollConfigSnapshot) (grossPoints : Int) :
    Pays config grossPoints .epay := by
  constructor
  · simp [epay_ok_iff]
  · intro amounts done
    obtain ⟨⟨_, large⟩, rfl⟩ := epay_ok_iff.mp done
    exact epayAmounts_splits large
  · intro amounts done withdrawalId input gross
    obtain ⟨⟨_, large⟩, rfl⟩ := epay_ok_iff.mp done
    exact (epayAmounts_splits large).stored withdrawalId gross
  · intro amounts done more grows _ amounts' done'
    -- The flat fee is the same for both.
    obtain ⟨-, rfl⟩ := epay_ok_iff.mp done
    obtain ⟨-, rfl⟩ := epay_ok_iff.mp done'
    unfold epayAmounts
    dsimp only
    omega

theorem Configured.bank_pays (configured : Configured db) {snapshot : PayrollConfigSnapshot}
    (loaded : loadPayrollConfigRow db = .ok snapshot) (grossPoints : Int) :
    Pays snapshot grossPoints .bank := by
  have splits : ∀ {points amounts},
      calculateWithdrawalAmounts points snapshot .bank = .ok amounts → Splits points amounts := by
    intro points amounts done
    obtain ⟨_, rates, _, resolved, _, platform, agent⟩ :=
      configured.rates loaded points (some snapshot.agentRewardRateBp)
    obtain ⟨limits, rfl⟩ := (bank_ok_iff resolved).mp done
    exact bankAmounts_splits limits.1 platform agent
  obtain ⟨tiers, rates, parsed, resolved, tier, platform, agent⟩ :=
    configured.rates loaded grossPoints (some snapshot.agentRewardRateBp)
  constructor
  · simp [bank_ok_iff resolved]
  · intro amounts done
    exact splits done
  · intro amounts done withdrawalId input gross
    exact (splits done).stored withdrawalId gross
  · intro amounts done more grows same amounts' done'
    obtain ⟨tiers', rates', parsed', resolved', tier', -, -⟩ :=
      configured.rates loaded more (some snapshot.agentRewardRateBp)
    -- One tier has one pair of rates, and the fee grows by no more than the amount.
    have one_tier : rates' = rates := by
      have same := same.resolve_left (by decide)
      rw [parsed] at parsed'
      cases parsed'
      unfold tierOf at same
      rw [parsed] at same
      have same : matchPayrollFeeTier more tiers = matchPayrollFeeTier grossPoints tiers :=
        Except.ok.inj same
      rw [tier, tier', same]
    obtain ⟨limits, rfl⟩ := (bank_ok_iff resolved).mp done
    obtain ⟨-, rfl⟩ := (bank_ok_iff resolved').mp done'
    have fee := share_grows (Int.le_of_lt limits.1) grows platform
    rw [one_tier]
    unfold bankAmounts
    dsimp only
    omega

/-- For every configuration that accepted updates make, every amount and both methods, the parts of
a withdrawal add up. -/
theorem withdrawal_pays {db : PayrollDb} (configured : Configured db)
    {snapshot : PayrollConfigSnapshot} (loaded : loadPayrollConfigRow db = .ok snapshot)
    (grossPoints : Int) (methodType : WithdrawalMethodType) :
    Pays snapshot grossPoints methodType := by
  cases methodType with
  | epay => exact epay_pays snapshot grossPoints
  | bank => exact configured.bank_pays loaded grossPoints

/-! ### The schedule of the operations -/

/-- The configuration as the operations on withdrawals are given it: the limits in points, and the
rates of the amount. -/
def feeSchedule (config : PayrollConfigSnapshot) (rates : PayrollFeeRates) : FeeSchedule :=
  { minPoints := ((config.minWithdrawalUsd - 1 / 10 ^ 9) * 10000).ceil
    maxPoints := ((config.maxWithdrawalUsd + 1 / 10 ^ 9) * 10000).floor
    serviceFeePoints := serviceFeeUsdToPoints config.serviceFeeUsd
    platformFeeRateBp := rates.platformFeeRateBp
    agentRewardRateBp := rates.agentRewardRateBp }

/-- What they compute from it are the parts, and the errors, of the full calculation. -/
theorem calculate_feeSchedule (methodType : WithdrawalMethodType)
    (resolved : resolvePayrollFeeRates grossPoints (some config.feeTiers)
      (some config.agentRewardRateBp) = .ok rates) :
    OlNode.calculateWithdrawalAmounts grossPoints (feeSchedule config rates) methodType =
      (calculateWithdrawalAmounts grossPoints config methodType).map (·.parts) := by
  have low : grossPoints < (feeSchedule config rates).minPoints ↔
      (grossPoints : Rat) / 10000 < config.minWithdrawalUsd - 1 / 10 ^ 9 := by
    rw [feeSchedule, Rat.lt_ceil_iff, div_lt_iff₀ (by decide)]
  have high : (feeSchedule config rates).maxPoints < grossPoints ↔
      config.maxWithdrawalUsd + 1 / 10 ^ 9 < (grossPoints : Rat) / 10000 := by
    rw [feeSchedule, Rat.floor_lt_iff, lt_div_iff₀ (by decide)]
  have fee : (feeSchedule config rates).serviceFeePoints =
      serviceFeeUsdToPoints config.serviceFeeUsd := rfl
  unfold OlNode.calculateWithdrawalAmounts calculateWithdrawalAmounts
  simp only [low, high, fee]
  split
  · rfl
  · split
    · rfl
    · split
      · rfl
      · cases methodType with
        | epay =>
          by_cases small : grossPoints ≤ serviceFeeUsdToPoints config.serviceFeeUsd
          · rw [if_pos small, if_pos small]
            rfl
          · rw [if_neg small, if_neg small]
            rfl
        | bank =>
          rw [resolved]
          rfl

/-- The configuration after an update has raised the bands. -/
def raisedDb : PayrollDb :=
  { config := some { defaultConfig with platformFeeRateBp := 300 }
    tiers := numbered [⟨200000, some 1000000, 300, 6000⟩, ⟨1000000, none, 200, 6000⟩] }

theorem raisedDb_configured : Configured raisedDb := by
  have accepted : updateConfig { feeTiers := some raisedBands } ⟨some defaultConfig, []⟩ =
      .ok raisedDb := by decide +kernel
  exact .updated .created accepted

theorem withdrawal_pays_raised : ∃ snapshot, loadPayrollConfigRow raisedDb = .ok snapshot ∧
    Pays snapshot 500000 .bank :=
  ⟨_, rfl, withdrawal_pays raisedDb_configured rfl 500000 .bank⟩

end OlNode.Payroll
