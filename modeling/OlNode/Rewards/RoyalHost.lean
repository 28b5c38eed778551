import OlNode.Ledger.PointLegs
import OlNode.Ledger.Retry
import OlNode.Rewards.Model

/-!
# Weekly rewards of royal hosts

`royalHostRewardService.claimReward`: the two timing steps and the tiers of a gifting ladder, each
claimed by a text the client sends. A claim is stored in the transaction that credits its points,
under the text of its reward; a tier pays what it adds to the cumulative points of the one below.
-/
namespace OlNode.Rewards

open ReadCommitted

/-! ### The ladder -/

structure GiftingTier where
  threshold : Nat
  cumulativePoints : Nat
  deriving DecidableEq

def invalidGiftingTiers (message : String) : LedgerError :=
  .app { status := 400, message, code := .invalidRoyalHostGiftingTiers }

/-- The loop of `validateGiftingTiers`, with what the tier before had. -/
def validateTiersFrom (prevThreshold prevCumulative : Int) :
    List GiftingTier → Except LedgerError Unit
  | [] => .ok ()
  | t :: tiers =>
    if (t.threshold : Int) ≤ prevThreshold then
      .error (invalidGiftingTiers "giftingTiers thresholds must be strictly ascending")
    else if (t.cumulativePoints : Int) < prevCumulative then
      .error (invalidGiftingTiers "giftingTiers cumulativePoints must be non-decreasing")
    else validateTiersFrom t.threshold t.cumulativePoints tiers

/-- Ascending thresholds, non-decreasing cumulative points. -/
def validateGiftingTiers (tiers : List GiftingTier) : Except LedgerError Unit :=
  validateTiersFrom (-1) (-1) tiers

structure RoyalHostConfig where
  weeklyHoursRequired : Nat
  dailyHoursCapMinutes : Nat
  timingStep1Points : Nat
  timingStep2Points : Nat
  timingStep2EarningThreshold : Nat
  giftingTiers : List GiftingTier
  /-- The schema of an update admits this many tiers. -/
  few : giftingTiers.length ≤ 20
  accepted : validateGiftingTiers giftingTiers = .ok ()

/-- `tiers[tierIndex - 1]` -/
def tierAt (tiers : List GiftingTier) : Nat → Option GiftingTier
  | 0 => none
  | below + 1 => tiers[below]?

/-- The cumulative points of a tier, and none below the first one. -/
def cumulativeAt (tiers : List GiftingTier) (tierIndex : Nat) : Nat :=
  ((tierAt tiers tierIndex).map (·.cumulativePoints)).getD 0

def incrementAt (tiers : List GiftingTier) (tierIndex : Nat) : Int :=
  (cumulativeAt tiers tierIndex : Int) - (cumulativeAt tiers (tierIndex - 1) : Int)

/-! ### Reward types -/

/-- `Number(digits)` -/
def numberOf (digits : List Char) : Nat :=
  digits.foldl (fun n c => 10 * n + (c.toNat - '0'.toNat)) 0

/-- `/^GIFTING_TIER_(\d+)$/`, with the number it captures. -/
def giftingTierIndex (rewardType : String) : Option Nat :=
  match "GIFTING_TIER_".toList.isPrefixOf? rewardType.toList with
  | none => none
  | some digits =>
    if digits ≠ [] ∧ digits.all Char.isDigit = true then some (numberOf digits) else none

def tierClaimType (tierIndex : Nat) : String := "GIFTING_TIER_" ++ toString tierIndex

structure GiftingTierComputed where
  claimType : String
  threshold : Nat
  incrementPoints : Int
  cumulativePoints : Nat
  unlocked : Bool
  claimed : Bool
  deriving DecidableEq

def computeGiftingTiers (config : RoyalHostConfig) (weeklyEarnings : Nat)
    (claimedTypes : List String) : List GiftingTierComputed :=
  config.giftingTiers.mapIdx fun i tier =>
    { claimType := tierClaimType (i + 1), threshold := tier.threshold
      incrementPoints := (tier.cumulativePoints : Int) - (cumulativeAt config.giftingTiers i : Int)
      cumulativePoints := tier.cumulativePoints, unlocked := tier.threshold ≤ weeklyEarnings
      claimed := tierClaimType (i + 1) ∈ claimedTypes }

/-! ### Claims -/

structure RoyalHostRewardClaim where
  userId : UserId
  weekStart : Time
  rewardType : String
  pointsAmount : Int
  ledgerEntryId : LedgerKey

def RoyalHostRewardClaim.key (claim : RoyalHostRewardClaim) : UserId × Time × String :=
  (claim.userId, claim.weekStart, claim.rewardType)

/-- A stream, with its effective seconds as they are counted now. -/
structure StreamSession where
  userId : UserId
  startedAt : Time
  effectiveSeconds : Nat

structure RoyalHostDb where
  now : Time
  money : MoneyDb
  adminTags : UserId → Option (List String) := fun _ => none
  earnings : List Earning := []
  sessions : List StreamSession := []
  claims : List RoyalHostRewardClaim := []

abbrev RoyalHostTx := Tx RoyalHostDb Lock LedgerError
abbrev RoyalHostProg := Prog RoyalHostDb Lock LedgerError

/-- The week an instant is in; instants are counted from the midnight of a Sunday. -/
def utcStartOfWeek (now : Time) : Week := now / (7 * msPerDay)

namespace RoyalHostDb

variable (db : RoyalHostDb)

def setMoney (money : MoneyDb) (db : RoyalHostDb) : RoyalHostDb := { db with money }

def getQualifyingEarnings (userId : UserId) (week : Week) : Nat :=
  getQualifyingRewardEarningsForRange db.earnings userId week.start (Week.start (week + 1))

/-- The seconds of each day of a week, each up to the daily cap. -/
def streamedSecondsForWeek (userId : UserId) (week : Week) (dailyCapSeconds : Nat) : Nat :=
  ((List.range 7).map fun day =>
    min dailyCapSeconds (((db.sessions.filter fun session =>
      session.userId = userId && session.startedAt / msPerDay = week * 7 + day).map
        (·.effectiveSeconds)).sum)).sum

def findClaim (userId : UserId) (weekStart : Time) (rewardType : String) :
    Option RoyalHostRewardClaim :=
  db.claims.find? fun claim => claim.key = (userId, weekStart, rewardType)

def addClaim (claim : RoyalHostRewardClaim) : RoyalHostDb :=
  { db with claims := db.claims ++ [claim] }

end RoyalHostDb

/-! ### Claiming -/

def royalUserNotFound : LedgerError :=
  .app { status := 404, message := "User not found", code := .notFound }

def notRoyalHost : LedgerError :=
  .app { status := 403, message := "Not a Royal Host", code := .royalHostNotEligible }

def thresholdNotMet (message : String) : LedgerError :=
  .app { status := 403, message, code := .royalHostThresholdNotMet }

def invalidRewardType : LedgerError :=
  .app { status := 400, message := "Invalid reward type", code := .invalidRequest }

def alreadyClaimed : LedgerError :=
  .app { status := 409, message := "Already claimed", code := .alreadyClaimed }

def valueTooLong : LedgerError :=
  .app { status := 500, message := "The provided value for the column is too long"
         code := .internalError }

section Claim

variable (config : RoyalHostConfig)

/-- What a reward pays for this live time and these earnings. -/
def rewardPoints (timingRequirementMet : Bool) (weeklyEarnings : Nat) (rewardType : String) :
    Except LedgerError Int :=
  let hours := config.weeklyHoursRequired
  if rewardType = "TIMING_STEP_1" then
    if timingRequirementMet then .ok config.timingStep1Points
    else .error (thresholdNotMet s!"Stream at least {hours} hours this week to claim this reward")
  else if rewardType = "TIMING_STEP_2" then
    if timingRequirementMet && config.timingStep2EarningThreshold ≤ weeklyEarnings then
      .ok config.timingStep2Points
    else .error (thresholdNotMet
      "Timing requirement and minimum weekly earnings must both be met to claim this reward")
  else
    match giftingTierIndex rewardType with
    | none => .error invalidRewardType
    | some tierIndex =>
      match tierAt config.giftingTiers tierIndex with
      | none => .error invalidRewardType
      | some tier =>
        if weeklyEarnings < tier.threshold then
          .error (thresholdNotMet "Weekly earnings threshold not met for this tier")
        else .ok (incrementAt config.giftingTiers tierIndex)

/-- INSERT under the primary key; the column of the reward type is a VARCHAR(20). -/
def insertClaim (claim : RoyalHostRewardClaim) : RoyalHostTx Unit := do
  Tx.ensure (claim.rewardType.length ≤ 20) valueTooLong
  Tx.lockRow (.royalHostClaim claim.userId claim.weekStart claim.rewardType)
  let taken ← Tx.select (·.findClaim claim.userId claim.weekStart claim.rewardType)
  Tx.ensure taken.isNone .uniqueViolation
  Tx.update (.royalHostClaim claim.userId claim.weekStart claim.rewardType) (·.addClaim claim)

def claimTransaction (now : Time) (userId : UserId) (weekStart : Time) (rewardType : String)
    (pointsAmount : Int) : RoyalHostTx Unit := do
  let existing ← Tx.select (·.findClaim userId weekStart rewardType)
  Tx.ensure existing.isNone alreadyClaimed
  let receipt ← (PointWallet.creditInTransaction now userId pointsAmount .royalHostReward
    { idempotencyKey := .royalHostReward userId weekStart rewardType }).zoom
      RoyalHostDb.money RoyalHostDb.setMoney
  insertClaim
    { userId, weekStart, rewardType, pointsAmount, ledgerEntryId := receipt.ledgerEntryId }

/-- A unique violation means that the reward has been claimed. -/
def claimResult : Except LedgerError Unit → RoyalHostProg Unit
  | .ok () => pure ()
  | .error error => Prog.fail (if error = .uniqueViolation then alreadyClaimed else error)

/-- `aborts`: after how many statements the database aborts the first attempts. -/
def payReward (now : Time) (userId : UserId) (week : Week) (rewardType : String)
    (aborts : List Nat) : Except LedgerError Int → RoyalHostProg Unit
  | .error error => Prog.fail error
  | .ok pointsAmount => do
    let outcome ← (withSerializationRetry
      (claimTransaction now userId week.start rewardType pointsAmount) 3 aborts).attempt
    claimResult outcome

variable (toLowerCase : String → String)

def claimReward (userId : UserId) (rewardType : String) (aborts : List Nat) :
    RoyalHostProg Unit := do
  let (adminTags, now) ← Prog.select fun db => (db.adminTags userId, db.now)
  Prog.ensure adminTags.isSome royalUserNotFound
  Prog.ensure (hasRoyalHostTag toLowerCase (adminTags.getD [])) notRoyalHost
  let week := utcStartOfWeek now
  let streamedSeconds ← Prog.select
    (·.streamedSecondsForWeek userId week (config.dailyHoursCapMinutes * 60))
  let weeklyEarnings ← Prog.select (·.getQualifyingEarnings userId week)
  payReward now userId week rewardType aborts
    (rewardPoints config (config.weeklyHoursRequired * 3600 ≤ streamedSeconds) weeklyEarnings
      rewardType)

inductive RoyalHostRequest where
  | claimReward (userId : UserId) (rewardType : String) (aborts : List Nat)
  | earn (earning : Earning)
  | stream (sessions : List StreamSession)
  | setAdminTags (userId : UserId) (adminTags : Option (List String))
  | tick (elapsed : Time)

def royalHostHandler : RoyalHostRequest → RoyalHostProg Unit
  | .claimReward userId rewardType aborts => claimReward config toLowerCase userId rewardType aborts
  | .earn earning => Prog.autocommit .job fun db => { db with earnings := db.earnings ++ [earning] }
  | .stream sessions => Prog.autocommit .job fun db => { db with sessions }
  | .setAdminTags userId adminTags => Prog.autocommit (.user userId) fun db =>
      { db with adminTags := Function.update db.adminTags userId adminTags }
  | .tick elapsed => Prog.autocommit .clock fun db => { db with now := db.now + elapsed }

end Claim

end OlNode.Rewards
