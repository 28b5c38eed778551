import OlNode.LuckyWater.Guard
import OlNode.LuckyWater.Tiers
import OlNode.ReadCommitted.Sequential

/-!
# Administering the lucky economy

`hostRevenueShareConfig.service.ts`, `replaceCommissionLevels` and the parts of
`luckyTierAdmin.service.ts` that validate, over the three configurations the guard depends on. The
shares are read through their Redis copy.
-/
namespace OlNode.Economy

open ReadCommitted

structure HostRevenueShareRow extends HostRevenueShares where
  guardianPurchaseBp : Int
  luckyTargetRtpBp : Int

/-- What `getOrCreate` inserts. -/
def defaultShares : HostRevenueShareRow :=
  { DEFAULT_HOST_REVENUE_SHARES with guardianPurchaseBp := 7500, luckyTargetRtpBp := 9200 }

structure EconomyDb where
  configs : List LuckyTierRow
  mode : LuckyTierId → Option LuckyTierMode
  levels : List CommissionLevelRow
  shares : Option HostRevenueShareRow
  /-- The copy in Redis. -/
  cachedShares : Option HostRevenueShareRow

inductive Row where
  | config (tierId : LuckyTierId)
  | mode (tierId : LuckyTierId)
  | level (level : Nat)
  | shares
  | cachedShares

structure F2Violation where
  tierId : LuckyTierId
  version : Nat
  mode : LuckyTierMode
  cause : LuckyWeightsError

inductive EconomyError where
  | app (error : AppError)
  /-- 422 LUCKY_TIER_F2_VIOLATION with the message of the cause. -/
  | tierF2 (cause : LuckyWeightsError)
  /-- 422 LUCKY_TIER_F2_VIOLATION with the violations as details. -/
  | activeTiersF2 (violations : List F2Violation)
  /-- A CHECK constraint refuses the row. -/
  | check

abbrev EconomyProg := Prog EconomyDb Row EconomyError

def refuse (status : Nat) (message : String) (code : ErrorCode) : EconomyError :=
  .app { status, message, code }

/-! ### Shares -/

def getOrCreate : EconomyProg HostRevenueShareRow := do
  let existing ← Prog.select EconomyDb.shares
  match existing with
  | some row => pure row
  | none => do
    Prog.autocommit .shares fun db => { db with shares := some (db.shares.getD defaultShares) }
    pure defaultShares

def getConfig : EconomyProg HostRevenueShareRow := do
  let hit ← Prog.select EconomyDb.cachedShares
  match hit with
  | some row => pure row
  | none => do
    let row ← getOrCreate
    Prog.autocommit .cachedShares fun db => { db with cachedShares := some row }
    pure row

def getShares : EconomyProg HostRevenueShareRow := getConfig

def bustCache : EconomyProg Unit :=
  Prog.autocommit .cachedShares fun db => { db with cachedShares := none }

structure HostRevenueShareUpdates where
  giftReceiveBp : Option Int := none
  subscriptionBp : Option Int := none
  guardianPurchaseBp : Option Int := none
  videoCallHostShareBp : Option Int := none
  luckyHostShareBp : Option Int := none
  luckyTargetRtpBp : Option Int := none
  luckyWaterAgencyCommission : Option Bool := none

namespace HostRevenueShareUpdates

variable (updates : HostRevenueShareUpdates)

def hasAny : Bool :=
  updates.giftReceiveBp.isSome || updates.subscriptionBp.isSome ||
    updates.guardianPurchaseBp.isSome || updates.videoCallHostShareBp.isSome ||
    updates.luckyHostShareBp.isSome || updates.luckyTargetRtpBp.isSome ||
    updates.luckyWaterAgencyCommission.isSome

/-- The fields that `updateConfig` checks the bounds of. -/
structure InRange : Prop where
  giftReceiveBp : ∀ v ∈ updates.giftReceiveBp, 1 ≤ v ∧ v ≤ 10000
  subscriptionBp : ∀ v ∈ updates.subscriptionBp, 1 ≤ v ∧ v ≤ 10000
  guardianPurchaseBp : ∀ v ∈ updates.guardianPurchaseBp, 1 ≤ v ∧ v ≤ 10000
  videoCallHostShareBp : ∀ v ∈ updates.videoCallHostShareBp, 1 ≤ v ∧ v ≤ 10000
  luckyHostShareBp : ∀ v ∈ updates.luckyHostShareBp, 0 ≤ v ∧ v ≤ 2000
  luckyTargetRtpBp : ∀ v ∈ updates.luckyTargetRtpBp, 5000 ≤ v ∧ v ≤ 9900

def fieldRefusal (name : String) (low high : Int) (value : Option Int) (bounds : String) :
    Option EconomyError :=
  if value.all fun v => low ≤ v ∧ v ≤ high then none
  else some (refuse 422 s!"{name} must be an integer {bounds} bp" .invalidShareBp)

def refusal : Option EconomyError :=
  (fieldRefusal "giftReceiveBp" 1 10000 updates.giftReceiveBp "1–10000").or <|
  (fieldRefusal "subscriptionBp" 1 10000 updates.subscriptionBp "1–10000").or <|
  (fieldRefusal "guardianPurchaseBp" 1 10000 updates.guardianPurchaseBp "1–10000").or <|
  (fieldRefusal "videoCallHostShareBp" 1 10000 updates.videoCallHostShareBp "1–10000").or <|
  (fieldRefusal "luckyHostShareBp" 0 2000 updates.luckyHostShareBp "0–2000").or <|
  fieldRefusal "luckyTargetRtpBp" 5000 9900 updates.luckyTargetRtpBp "5000–9900"

variable {updates}

theorem inRange_of_field {name bounds : String} {low high : Int} {value : Option Int}
    (passed : fieldRefusal name low high value bounds = none) :
    ∀ v ∈ value, low ≤ v ∧ v ≤ high := by
  unfold fieldRefusal at passed
  split at passed
  next fits =>
    rintro v rfl
    simpa using fits
  next => cases passed

theorem inRange_of_refusal (passed : updates.refusal = none) : updates.InRange := by
  simp only [refusal, Option.or_eq_none_iff] at passed
  obtain ⟨gift, subscription, guardian, videoCall, luckyHost, luckyTarget⟩ := passed
  exact ⟨inRange_of_field gift, inRange_of_field subscription, inRange_of_field guardian,
    inRange_of_field videoCall, inRange_of_field luckyHost, inRange_of_field luckyTarget⟩

end HostRevenueShareUpdates

/-- A field that is updated stays within bounds that hold for old and new values. -/
theorem getD_bound {old low high : Int} {value : Option Int} (held : low ≤ old)
    (fits : ∀ v ∈ value, low ≤ v ∧ v ≤ high) : low ≤ value.getD old := by
  cases value with
  | none => exact held
  | some v => exact (fits v rfl).1

/-- `hostRevenueShareConfigRepository.update` on the row. -/
def HostRevenueShareRow.update (row : HostRevenueShareRow) (updates : HostRevenueShareUpdates)
    (inRange : updates.InRange) : HostRevenueShareRow where
  giftReceiveBp := updates.giftReceiveBp.getD row.giftReceiveBp
  subscriptionBp := updates.subscriptionBp.getD row.subscriptionBp
  guardianPurchaseBp := updates.guardianPurchaseBp.getD row.guardianPurchaseBp
  videoCallHostShareBp := updates.videoCallHostShareBp.getD row.videoCallHostShareBp
  luckyHostShareBp := updates.luckyHostShareBp.getD row.luckyHostShareBp
  luckyTargetRtpBp := updates.luckyTargetRtpBp.getD row.luckyTargetRtpBp
  luckyWaterAgencyCommission :=
    updates.luckyWaterAgencyCommission.getD row.luckyWaterAgencyCommission
  giftReceiveBp_pos := getD_bound row.giftReceiveBp_pos inRange.giftReceiveBp
  subscriptionBp_pos := getD_bound row.subscriptionBp_pos inRange.subscriptionBp
  videoCallHostShareBp_pos := getD_bound row.videoCallHostShareBp_pos inRange.videoCallHostShareBp
  luckyHostShareBp_nonneg := getD_bound row.luckyHostShareBp_nonneg inRange.luckyHostShareBp

/-- The updates of the two fields that the guard reads. -/
def HostRevenueShareUpdates.luckyOnly (updates : HostRevenueShareUpdates) :
    HostRevenueShareUpdates :=
  { luckyHostShareBp := updates.luckyHostShareBp,
    luckyWaterAgencyCommission := updates.luckyWaterAgencyCommission }

theorem HostRevenueShareUpdates.InRange.luckyOnly {updates : HostRevenueShareUpdates}
    (inRange : updates.InRange) : updates.luckyOnly.InRange where
  giftReceiveBp := nofun
  subscriptionBp := nofun
  guardianPurchaseBp := nofun
  videoCallHostShareBp := nofun
  luckyHostShareBp := inRange.luckyHostShareBp
  luckyTargetRtpBp := nofun

/-! ### Validation -/

def getLatestConfig (db : EconomyDb) (tierId : LuckyTierId) : Option LuckyTierRow :=
  ((db.configs.filter (·.tierId = tierId)).insertionSort fun a b => b.version ≤ a.version).head?

/-- `agencyCommissionRepository.getLevelConfig`. -/
def getLevelConfig (db : EconomyDb) : List CommissionLevelRow :=
  db.levels.insertionSort fun a b => a.sortOrder ≤ b.sortOrder

def validateTier (db : EconomyDb) (shares : HostRevenueShares) (row : LuckyTierRow) :
    Except LuckyWeightsError (LuckyBand → ℚ) :=
  validateBandWeights row.bandWeights (buildLuckyF2Econ shares (getLevelConfig db) row.econ)

/-- The mode of a tier that is in shadow or enforce. -/
def activeMode (db : EconomyDb) (tierId : LuckyTierId) : Option LuckyTierMode :=
  (db.mode tierId).filter (· ≠ .off)

def violation (db : EconomyDb) (shares : HostRevenueShares) (tierId : LuckyTierId) :
    Option F2Violation :=
  match activeMode db tierId, getLatestConfig db tierId with
  | some mode, some row =>
    match validateTier db shares row with
    | .ok _ => none
    | .error cause => some { tierId, version := row.version, mode, cause }
  | _, _ => none

def assertShadowEnforceTiersPassF2 (shares : HostRevenueShares) : EconomyProg Unit := do
  let violations ← Prog.select fun db => LUCKY_TIER_IDS.filterMap (violation db shares)
  Prog.ensure violations.isEmpty (.activeTiersF2 violations)

def validateWeightsForTier (weights : BandWeightsByBand) (tier : LuckyTierEcon) :
    EconomyProg (LuckyBand → ℚ) := do
  Prog.ensure (tier.rBp + tier.jBp ≤ 10000)
    (refuse 422 "r_bp + j_bp must be ≤ 10000" .luckyTierEconInvalid)
  let shares ← getShares
  let validated ← Prog.select fun db => validateBandWeights weights
    (buildLuckyF2Econ shares.toHostRevenueShares (getLevelConfig db) tier)
  match validated with
  | .ok ev => pure ev
  | .error cause => Prog.fail (.tierF2 cause)

/-! ### The operations -/

/-- The UPDATE of the row, and what follows it. -/
def saveShares (updates : HostRevenueShareUpdates) (inRange : updates.InRange) :
    EconomyProg HostRevenueShareRow := do
  let _ ← getOrCreate
  Prog.autocommit .shares fun db =>
    { db with shares := db.shares.map fun row => row.update updates inRange }
  bustCache
  Prog.select fun db => db.shares.getD defaultShares

def updateConfig (updates : HostRevenueShareUpdates) : EconomyProg HostRevenueShareRow := do
  Prog.ensure updates.hasAny (refuse 400 "Provide at least one share field" .validationError)
  match checked : updates.refusal with
  | some error => Prog.fail error
  | none => do
    let inRange := HostRevenueShareUpdates.inRange_of_refusal checked
    if updates.luckyHostShareBp.isSome || updates.luckyWaterAgencyCommission.isSome then do
      let current ← getShares
      assertShadowEnforceTiersPassF2
        (current.update updates.luckyOnly inRange.luckyOnly).toHostRevenueShares
    else pure ()
    saveShares updates inRange

structure LuckyTierRowPatch extends LuckyTierPatch where
  vMaxBp : Option Int := none
  safetyMarginBp : Option Int := none
  minGapBp : Option Int := none

/-- The next version; `none` when a CHECK constraint refuses it. -/
def nextRow (latest : LuckyTierRow) (patch : LuckyTierRowPatch) : Option LuckyTierRow :=
  (latest.toLuckyTierConfig.next patch.toLuckyTierPatch).bind fun config =>
    let vMaxBp := patch.vMaxBp.getD latest.vMaxBp
    let safetyMarginBp := patch.safetyMarginBp.getD latest.safetyMarginBp
    let minGapBp := patch.minGapBp.getD latest.minGapBp
    if checks : 0 < vMaxBp ∧ 0 ≤ safetyMarginBp ∧ 0 ≤ minGapBp then
      some
        { config with
          vMaxBp, safetyMarginBp, minGapBp, vMaxBp_pos := checks.1,
          safetyMarginBp_nonneg := checks.2.1, minGapBp_nonneg := checks.2.2 }
    else none

/-- The columns of the next version that are validated. -/
def nextEcon (latest : LuckyTierRow) (patch : LuckyTierRowPatch) : LuckyTierEcon where
  rBp := patch.rBp.getD latest.rBp
  jBp := patch.jBp.getD latest.jBp
  vMaxBp := patch.vMaxBp.getD latest.vMaxBp
  safetyMarginBp := patch.safetyMarginBp.getD latest.safetyMarginBp
  minGapBp := patch.minGapBp.getD latest.minGapBp

def nextThresholds (latest : LuckyTierRow) (patch : LuckyTierRowPatch) : LambdaThresholds where
  criticalMaxBp := patch.lambdaCriticalMaxBp.getD latest.thresholds.criticalMaxBp
  lowMaxBp := patch.lambdaLowMaxBp.getD latest.thresholds.lowMaxBp
  normalMaxBp := patch.lambdaNormalMaxBp.getD latest.thresholds.normalMaxBp

def tierNotFound : EconomyError := refuse 404 "Tier config not found" .luckyTierNotFound

def createConfigVersion (tierId : LuckyTierId) (patch : LuckyTierRowPatch) :
    EconomyProg LuckyTierRow := do
  let latest ← Prog.select fun db => getLatestConfig db tierId
  match latest with
  | none => Prog.fail tierNotFound
  | some latest => do
    Prog.ensure (patch.floor.getD latest.floor ≤ patch.l0.getD latest.l0)
      (refuse 422 "floor must be ≤ l0" .luckyTierEconInvalid)
    Prog.ensure (nextThresholds latest patch).increasing
      (refuse 422 "Lambda thresholds must be strictly increasing" .luckyTierEconInvalid)
    let _ ← validateWeightsForTier (patch.bandWeights.getD latest.bandWeights)
      (nextEcon latest patch)
    match nextRow latest patch with
    | none => Prog.fail .check
    | some next => do
      Prog.autocommit (.config tierId) fun db => { db with configs := db.configs ++ [next] }
      pure next

/-- `refusal` is what the function throws, if anything, from the seed log, the draw audits and the
pool. -/
def assertEnforceAllowed (mode : LuckyTierMode) (refusal : Option AppError) : EconomyProg Unit :=
  match mode, refusal with
  | .enforce, some error => Prog.fail (.app error)
  | _, _ => pure ()

def assertLatestConfigPassesF2 (mode : LuckyTierMode) (latest : LuckyTierRow) : EconomyProg Unit :=
  if mode = .off then pure ()
  else do
    let _ ← validateWeightsForTier latest.bandWeights latest.econ
    pure ()

def writeMode (tierId : LuckyTierId) (mode : LuckyTierMode) : EconomyProg Unit :=
  Prog.autocommit (.mode tierId) fun db =>
    { db with mode := fun t => if t = tierId then some mode else db.mode t }

def setMode (tierId : LuckyTierId) (mode : LuckyTierMode) (enforceRefusal : Option AppError) :
    EconomyProg Unit := do
  let latest ← Prog.select fun db => getLatestConfig db tierId
  match latest with
  | none => Prog.fail tierNotFound
  | some latest => do
    let prevMode ← Prog.select fun db => (db.mode tierId).getD .off
    if prevMode = mode then pure ()
    else do
      assertEnforceAllowed mode enforceRefusal
      assertLatestConfigPassesF2 mode latest
      writeMode tierId mode

structure CommissionLevelInput where
  level : Nat
  minWindowPoints : Int
  liveRateBp : Int
  matchChatRateBp : Int
  sortOrder : Int

def upsertLevel (levels : List CommissionLevelRow) (row : CommissionLevelRow) :
    List CommissionLevelRow :=
  if levels.any fun l => l.level = row.level then
    levels.map fun l => if l.level = row.level then row else l
  else levels ++ [row]

/-- The row of an input, or why it is refused. -/
def checkLevel (input : CommissionLevelInput) : Except EconomyError CommissionLevelRow :=
  if input.minWindowPoints < 0 then
    .error (refuse 400 "minWindowPoints must be non-negative" .validationError)
  else if live : 0 ≤ input.liveRateBp ∧ input.liveRateBp ≤ 10000 then
    if matchChat : 0 ≤ input.matchChatRateBp ∧ input.matchChatRateBp ≤ 10000 then
      .ok { level := input.level, minWindowPoints := input.minWindowPoints,
            liveRateBp := input.liveRateBp, matchChatRateBp := input.matchChatRateBp,
            sortOrder := input.sortOrder, live_bounds := live, matchChat_bounds := matchChat }
    else .error (refuse 422 "matchChatRateBp must be 0–10000" .invalidRateBp)
  else .error (refuse 422 "liveRateBp must be 0–10000" .invalidRateBp)

def replaceLevelsTx : List CommissionLevelInput → Tx EconomyDb Row EconomyError Unit
  | [] => pure ()
  | input :: inputs =>
    match checkLevel input with
    | .error error => Tx.fail error
    | .ok row => do
      Tx.update (.level row.level) fun db => { db with levels := upsertLevel db.levels row }
      replaceLevelsTx inputs

/-- `replaceCommissionLevels`. The guard is not consulted. -/
def replaceCommissionLevels (levels : List CommissionLevelInput) : EconomyProg Unit := do
  Prog.ensure (!levels.isEmpty) (refuse 400 "levels must be a non-empty array" .validationError)
  Prog.transaction (replaceLevelsTx levels)

inductive Request where
  | updateConfig (updates : HostRevenueShareUpdates)
  | createConfigVersion (tierId : LuckyTierId) (patch : LuckyTierRowPatch)
  | setMode (tierId : LuckyTierId) (mode : LuckyTierMode) (enforceRefusal : Option AppError)
  | replaceCommissionLevels (levels : List CommissionLevelInput)
  /-- Somebody reads the shares, which may fill their copy. -/
  | getShares
  /-- The copy of the shares reaches its TTL. -/
  | expireCache

def handler : Request → EconomyProg Unit
  | .updateConfig updates => do
    let _ ← updateConfig updates
    pure ()
  | .createConfigVersion tierId patch => do
    let _ ← createConfigVersion tierId patch
    pure ()
  | .setMode tierId mode enforceRefusal => setMode tierId mode enforceRefusal
  | .replaceCommissionLevels levels => replaceCommissionLevels levels
  | .getShares => do
    let _ ← getShares
    pure ()
  | .expireCache => bustCache

end OlNode.Economy
