import Mathlib.Data.List.Pairwise
import OlNode.Keyed
import OlNode.Rewards.RoyalHost
import OlNode.Totals

/-!
# Rewards of royal hosts are paid once

The points and the claim of a reward are committed together, and both are unique for the text of the
reward. A tier has many texts, since its number may have leading zeros; if hosts claim tiers by the
texts of the status only, each tier is paid once. The tiers below the highest one within reach pay
together what that one has as its cumulative points.
-/
namespace OlNode.Rewards

open ReadCommitted

/-! ### Ladders that the console accepts -/

section Ladders

variable {tiers : List GiftingTier} {tier : GiftingTier} {n m : Nat}

private theorem validateTiersFrom_ok {prevThreshold prevCumulative : Int}
    (valid : validateTiersFrom prevThreshold prevCumulative tiers = .ok ()) :
    (∀ tier ∈ tiers, prevThreshold < tier.threshold ∧ prevCumulative ≤ tier.cumulativePoints) ∧
      tiers.Pairwise fun tier next =>
        tier.threshold < next.threshold ∧ tier.cumulativePoints ≤ next.cumulativePoints := by
  induction tiers generalizing prevThreshold prevCumulative with
  | nil => exact ⟨nofun, List.Pairwise.nil⟩
  | cons first rest ih =>
    rw [validateTiersFrom] at valid
    split at valid
    next => cases valid
    next ascends =>
      split at valid
      next => cases valid
      next grows =>
        obtain ⟨above, ordered⟩ := ih valid
        constructor
        · intro tier member
          rcases List.mem_cons.mp member with rfl | later
          · exact ⟨by omega, by omega⟩
          · have := above tier later
            exact ⟨by omega, by omega⟩
        · refine List.pairwise_cons.mpr ⟨fun tier member => ?_, ordered⟩
          have := above tier member
          exact ⟨by omega, by omega⟩

theorem RoyalHostConfig.ordered (config : RoyalHostConfig) :
    config.giftingTiers.Pairwise fun tier next =>
      tier.threshold < next.threshold ∧ tier.cumulativePoints ≤ next.cumulativePoints :=
  (validateTiersFrom_ok config.accepted).2

private theorem tierAt_mem (found : tierAt tiers n = some tier) : tier ∈ tiers := by
  cases n with
  | zero => cases found
  | succ below => exact List.mem_of_getElem? found

private theorem tierAt_pos (found : tierAt tiers n = some tier) : 0 < n := by
  cases n with
  | zero => cases found
  | succ below => exact Nat.succ_pos below

private theorem tierAt_le (found : tierAt tiers n = some tier) : n ≤ tiers.length := by
  cases n with
  | zero => cases found
  | succ below => exact (List.getElem?_eq_some_iff.mp found).1

private theorem tierAt_ordered {next : GiftingTier}
    (ordered : tiers.Pairwise fun tier next =>
      tier.threshold < next.threshold ∧ tier.cumulativePoints ≤ next.cumulativePoints)
    (found : tierAt tiers n = some tier) (higher : tierAt tiers m = some next) (less : n < m) :
    tier.threshold < next.threshold ∧ tier.cumulativePoints ≤ next.cumulativePoints := by
  cases n with
  | zero => cases found
  | succ i =>
    cases m with
    | zero => cases higher
    | succ j =>
      obtain ⟨inside, rfl⟩ := List.getElem?_eq_some_iff.mp found
      obtain ⟨within, rfl⟩ := List.getElem?_eq_some_iff.mp higher
      exact List.pairwise_iff_getElem.mp ordered i j inside within (by omega)

private theorem cumulativeAt_mono (config : RoyalHostConfig)
    (within : n < config.giftingTiers.length) :
    cumulativeAt config.giftingTiers n ≤ cumulativeAt config.giftingTiers (n + 1) := by
  cases n with
  | zero => exact Nat.zero_le _
  | succ below =>
    have lower : tierAt config.giftingTiers (below + 1) = some config.giftingTiers[below] :=
      List.getElem?_eq_getElem (by omega)
    have upper : tierAt config.giftingTiers (below + 2) = some config.giftingTiers[below + 1] :=
      List.getElem?_eq_getElem within
    have := (tierAt_ordered config.ordered lower upper (by omega)).2
    simpa only [cumulativeAt, lower, upper, Option.map_some, Option.getD_some] using this

end Ladders

/-! ### Texts of rewards -/

inductive Reward where
  | timingStep (step : Nat)
  | giftingTier (tierIndex : Nat)

def rewardOf (rewardType : String) : Option Reward :=
  if rewardType = "TIMING_STEP_1" then some (.timingStep 1)
  else if rewardType = "TIMING_STEP_2" then some (.timingStep 2)
  else (giftingTierIndex rewardType).map .giftingTier

private theorem rewardOf_cases {rewardType : String}
    (known : (rewardOf rewardType).isSome = true) :
    (rewardType = "TIMING_STEP_1" ∧ rewardOf rewardType = some (.timingStep 1)) ∨
      (rewardType = "TIMING_STEP_2" ∧ rewardOf rewardType = some (.timingStep 2)) ∨
      ∃ tierIndex, giftingTierIndex rewardType = some tierIndex ∧
        rewardOf rewardType = some (.giftingTier tierIndex) := by
  by_cases step1 : rewardType = "TIMING_STEP_1"
  · exact .inl ⟨step1, by simp [rewardOf, step1]⟩
  by_cases step2 : rewardType = "TIMING_STEP_2"
  · exact .inr (.inl ⟨step2, by simp [rewardOf, step2]⟩)
  cases index : giftingTierIndex rewardType with
  | none => simp [rewardOf, step1, step2, index] at known
  | some tierIndex => exact .inr (.inr ⟨tierIndex, rfl, by simp [rewardOf, step1, step2, index]⟩)

/-- Not another spelling of a tier than the one the status shows. -/
def canonical (config : RoyalHostConfig) (rewardType : String) : Bool :=
  (giftingTierIndex rewardType).all fun tierIndex =>
    (tierAt config.giftingTiers tierIndex).isNone || rewardType = tierClaimType tierIndex

private theorem timingStep_index :
    giftingTierIndex "TIMING_STEP_1" = none ∧ giftingTierIndex "TIMING_STEP_2" = none := by
  decide +kernel

/-! ### Payments -/

structure RewardPayment where
  rewardType : String
  points : Int
  deriving DecidableEq

/-- The reward that a row of the ledger pays to a user for a week. -/
def paymentOf (userId : UserId) (weekStart : Time) (row : PointLedgerEntry) :
    Option RewardPayment :=
  match row.idempotencyKey with
  | .royalHostReward _ week rewardType =>
    if row.wallet = ⟨userId, .point⟩ ∧ row.direction = .credit ∧ week = weekStart then
      some ⟨rewardType, row.amount⟩
    else none
  | _ => none

namespace RoyalHostDb

variable (db : RoyalHostDb)

def payments (userId : UserId) (week : Week) : List RewardPayment :=
  db.money.pointLedger.filterMap (paymentOf userId week.start)

/-- The points that the gifting tiers of a week have paid. -/
def giftingPaid (userId : UserId) (week : Week) : Int :=
  (((db.payments userId week).filter fun payment =>
    (giftingTierIndex payment.rewardType).isSome).map (·.points)).sum

def claimedTypes (userId : UserId) (week : Week) : List String :=
  (db.claims.filter fun claim => claim.userId = userId && claim.weekStart = week.start).map
    (·.rewardType)

end RoyalHostDb

/-- The highest tier whose threshold the earnings have reached. -/
def highestReached (config : RoyalHostConfig) (weeklyEarnings : Nat) : Option GiftingTier :=
  (config.giftingTiers.filter fun tier => tier.threshold ≤ weeklyEarnings).getLast?

/-! ### The invariant -/

/-- What a reward was paid for: a tier that the earnings had reached. -/
def Earned (config : RoyalHostConfig) (db : RoyalHostDb) (userId : UserId) (week : Week)
    (rewardType : String) (points : Int) : Prop :=
  (rewardOf rewardType).isSome = true ∧ canonical config rewardType = true ∧
    ∀ tierIndex, giftingTierIndex rewardType = some tierIndex →
    ∃ tier, tierAt config.giftingTiers tierIndex = some tier ∧
      points = incrementAt config.giftingTiers tierIndex ∧
      tier.threshold ≤ db.getQualifyingEarnings userId week

structure Pays (claim : RoyalHostRewardClaim) (row : PointLedgerEntry) : Prop where
  key : row.idempotencyKey = .royalHostReward claim.userId claim.weekStart claim.rewardType
  wallet : row.wallet = ⟨claim.userId, .point⟩
  amount : row.amount = claim.pointsAmount

structure RoyalLawful (config : RoyalHostConfig) (db : RoyalHostDb) : Prop where
  keys : (db.money.pointLedger.map (·.idempotencyKey)).Nodup
  once : (db.claims.map (·.key)).Nodup
  paid : ∀ row ∈ db.money.pointLedger, ∀ payee weekStart rewardType,
    row.idempotencyKey = .royalHostReward payee weekStart rewardType →
    ∃ claim ∈ db.claims, Pays claim row
  earned : ∀ claim ∈ db.claims, ∃ week : Week, claim.weekStart = week.start ∧
    Earned config db claim.userId week claim.rewardType claim.pointsAmount

structure RoyalGrows (s t : RoyalHostDb) : Prop where
  ledger : s.money.pointLedger <+: t.money.pointLedger
  claims : s.claims <+: t.claims
  earnings : s.earnings <+: t.earnings

def royalAgreement (config : RoyalHostConfig) : Agreement RoyalHostRequest RoyalHostDb Lock where
  inv := RoyalLawful config
  grows := RoyalGrows
  same
    | .pointKey key, s, t =>
      findByKey s.money.pointLedger key = none ↔ findByKey t.money.pointLedger key = none
    | .royalHostClaim userId weekStart rewardType, s, t =>
      s.findClaim userId weekStart rewardType = none →
        t.findClaim userId weekStart rewardType = none
    | _, _, _ => True
  step _ _ _ := True
  allows request _ _ :=
    ∀ userId rewardType aborts, request = .claimReward userId rewardType aborts →
      canonical config rewardType = true
  grows_refl _ := ⟨List.prefix_rfl, List.prefix_rfl, List.prefix_rfl⟩
  grows_trans _ _ _ first second :=
    ⟨first.ledger.trans second.ledger, first.claims.trans second.claims,
      first.earnings.trans second.earnings⟩
  same_refl lock s := by
    cases lock with
    | pointKey => exact Iff.rfl
    | royalHostClaim => exact fun absent => absent
    | _ => trivial
  same_trans lock s t u := by
    cases lock with
    | pointKey => exact Iff.trans
    | royalHostClaim => exact fun first second absent => second (first absent)
    | _ => exact fun _ _ => trivial

private theorem royal_books (config : RoyalHostConfig) :
    PointBooks (royalAgreement config) RoyalHostDb.money RoyalHostDb.setMoney where
  get_set _ _ := rfl
  pointKey _ _ _ same := same

section Steps

variable {config : RoyalHostConfig} {s t : RoyalHostDb} {userId : UserId} {week : Week}
  {rewardType : String} {points : Int}

theorem getQualifyingEarnings_mono (grows : s.earnings <+: t.earnings) (userId : UserId)
    (week : Week) : s.getQualifyingEarnings userId week ≤ t.getQualifyingEarnings userId week := by
  obtain ⟨more, same⟩ := grows
  simp only [RoyalHostDb.getQualifyingEarnings, getQualifyingRewardEarningsForRange, ← same,
    List.filter_append, List.map_append, List.sum_append]
  exact Nat.le_add_right _ _

private theorem Earned.later (earned : Earned config s userId week rewardType points)
    (grows : s.earnings <+: t.earnings) : Earned config t userId week rewardType points := by
  obtain ⟨known, admitted, tiers⟩ := earned
  refine ⟨known, admitted, fun tierIndex index => ?_⟩
  obtain ⟨tier, found, amount, reached⟩ := tiers tierIndex index
  exact ⟨tier, found, amount, reached.trans (getQualifyingEarnings_mono grows userId week)⟩

private theorem rewardPoints_known {met : Bool} {weeklyEarnings : Nat}
    (paid : rewardPoints config met weeklyEarnings rewardType = .ok points) :
    (rewardOf rewardType).isSome = true := by
  rw [rewardOf]
  split
  next => rfl
  next notStep1 =>
    split
    next => rfl
    next notStep2 =>
      cases index : giftingTierIndex rewardType with
      | some tierIndex => rfl
      | none =>
        simp only [rewardPoints, notStep1, notStep2, if_false, index] at paid
        cases paid

private theorem rewardPoints_earned {met : Bool}
    (admitted : canonical config rewardType = true)
    (paid : rewardPoints config met (s.getQualifyingEarnings userId week) rewardType = .ok points) :
    Earned config s userId week rewardType points := by
  refine ⟨rewardPoints_known paid, admitted, fun tierIndex index => ?_⟩
  have notStep1 : rewardType ≠ "TIMING_STEP_1" := by
    rintro rfl
    exact absurd (timingStep_index.1.symm.trans index) nofun
  have notStep2 : rewardType ≠ "TIMING_STEP_2" := by
    rintro rfl
    exact absurd (timingStep_index.2.symm.trans index) nofun
  simp only [rewardPoints, notStep1, notStep2, if_false, index] at paid
  cases found : tierAt config.giftingTiers tierIndex with
  | none =>
    rw [found] at paid
    cases paid
  | some tier =>
    rw [found] at paid
    dsimp only at paid
    split at paid
    next => cases paid
    next reached =>
      cases paid
      exact ⟨tier, rfl, rfl, not_lt.mp reached⟩

private theorem findClaim_eq_none {weekStart : Time} :
    s.findClaim userId weekStart rewardType = none ↔
      ∀ claim ∈ s.claims, claim.key ≠ (userId, weekStart, rewardType) := by
  simp [RoyalHostDb.findClaim]

private theorem RoyalLawful.unpaid {weekStart : Time} (lawful : RoyalLawful config s)
    (absent : s.findClaim userId weekStart rewardType = none) :
    findByKey s.money.pointLedger (.royalHostReward userId weekStart rewardType) = none := by
  refine (findByKey_eq_none _).mpr fun row member keyIs => ?_
  obtain ⟨claim, inside, pays⟩ := lawful.paid row member _ _ _ keyIs
  have keys := pays.key.symm.trans keyIs
  injection keys with payee start type
  refine findClaim_eq_none.mp absent claim inside ?_
  rw [RoyalHostRewardClaim.key, payee, start, type]

private theorem claim_lawful {claim : RoyalHostRewardClaim} {row : PointLedgerEntry}
    (lawful : RoyalLawful config s)
    (absent : s.findClaim claim.userId claim.weekStart claim.rewardType = none)
    (pays : Pays claim row)
    (earned : ∃ week : Week, claim.weekStart = week.start ∧
      Earned config s claim.userId week claim.rewardType claim.pointsAmount) :
    RoyalLawful config
      (postPoints RoyalHostDb.money RoyalHostDb.setMoney row (s.addClaim claim)) := by
  refine ⟨?_, ?_, ?_, ?_⟩
  · refine Keyed.nodup_append lawful.keys fun other member same => ?_
    exact (findByKey_eq_none _).mp (lawful.unpaid absent) other member (same.trans pays.key)
  · refine Keyed.nodup_append lawful.once fun other member same => ?_
    exact findClaim_eq_none.mp absent other member same
  · intro other member payee weekStart rewardType keyIs
    rcases List.mem_append.mp member with old | new
    · obtain ⟨found, inside, own⟩ := lawful.paid other old payee weekStart rewardType keyIs
      exact ⟨found, List.mem_append_left _ inside, own⟩
    · rw [List.mem_singleton.mp new]
      exact ⟨claim, List.mem_append_right _ List.mem_cons_self, pays⟩
  · intro other member
    rcases List.mem_append.mp member with old | new
    · exact lawful.earned other old
    · rw [List.mem_singleton.mp new]
      exact earned

end Steps

/-! ### What the requests rely on -/

section Requests

variable {config : RoyalHostConfig} {request : RoyalHostRequest} {s : RoyalHostDb} {now : Time}
  {userId : UserId} {week : Week} {rewardType : String} {points : Int}

private theorem insertClaim_posted {held : Set Lock} {row : PointLedgerEntry}
    {claim : RoyalHostRewardClaim} (pays : Pays claim row)
    (week : Week) (start : claim.weekStart = week.start)
    (earned : Earned config s claim.userId week claim.rewardType claim.pointsAmount)
    (locked : .pointKey row.idempotencyKey ∈ held) :
    (insertClaim claim).Relies (royalAgreement config) request
      (fun _ => (royalAgreement config).Commits request fun _ => True) (fun _ _ => True) held
      (postPoints RoyalHostDb.money RoyalHostDb.setMoney row) s := by
  rw [insertClaim]
  refine Tx.relies_check fun _ => ?_
  refine Tx.relies_lockRow fun t locking _ => Tx.relies_select fun u reading => ?_
  refine Tx.relies_check fun free => ?_
  have absent : u.findClaim claim.userId claim.weekStart claim.rewardType = none :=
    Option.isNone_iff_eq_none.mp free
  have more := Set.subset_insert
    (.royalHostClaim claim.userId claim.weekStart claim.rewardType) held
  intro v inserting _ x committing _
  have rely := inserting.trans (committing.mono (Set.subset_insert _ _))
  -- nobody else has claimed the reward since
  have still : x.findClaim claim.userId claim.weekStart claim.rewardType = none :=
    rely.same _ (Set.mem_insert _ _) absent
  have grows := ((locking.trans (reading.mono more)).trans (rely.mono more)).grows
  have lawful := claim_lawful rely.inv still pays
    ⟨week, start, earned.later grows.earnings⟩
  refine ⟨⟨lawful, ⟨List.prefix_append _ _, List.prefix_append _ _, List.prefix_rfl⟩, ?_,
    trivial⟩, trivial⟩
  intro lock notHeld
  cases lock with
  | pointKey key =>
    have other : row.idempotencyKey ≠ key := by
      rintro rfl
      exact notHeld (.inr (.inr locked))
    change findByKey x.money.pointLedger key = none ↔
      findByKey (x.money.pointLedger ++ [row]) key = none
    simp [findByKey, other]
  | royalHostClaim payee weekStart rewardType =>
    intro free
    refine findClaim_eq_none.mpr fun other member => ?_
    rcases List.mem_append.mp member with old | new
    · exact findClaim_eq_none.mp free other old
    · rw [List.mem_singleton.mp new]
      intro same
      obtain ⟨rfl, rfl, rfl⟩ := same
      exact notHeld (.inl rfl)
  | _ => trivial

private theorem insertClaim_found {held : Set Lock} {row : PointLedgerEntry}
    {claim : RoyalHostRewardClaim}
    (present : findByKey s.money.pointLedger
      (.royalHostReward claim.userId claim.weekStart claim.rewardType) = some row) :
    (insertClaim claim).Relies (royalAgreement config) request
      (fun _ => (royalAgreement config).Commits request fun _ => True) (fun _ _ => True) held id
      s := by
  rw [insertClaim]
  refine Tx.relies_check fun _ => ?_
  refine Tx.relies_lockRow fun t locking _ => Tx.relies_select fun u reading => ?_
  refine Tx.relies_check fun free => ?_
  have absent : u.findClaim claim.userId claim.weekStart claim.rewardType = none :=
    Option.isNone_iff_eq_none.mp free
  -- the row is still there, and so is its claim
  have grows := (locking.trans (reading.mono (Set.subset_insert _ _))).grows
  have member := grows.ledger.subset (List.mem_of_find?_eq_some present)
  have keyIs : row.idempotencyKey =
      .royalHostReward claim.userId claim.weekStart claim.rewardType := by
    simpa using List.find?_some present
  exact absurd keyIs ((findByKey_eq_none _).mp (reading.inv.unpaid absent) row member)

private theorem claimTransaction_relies
    (earned : Earned config s userId week rewardType points) :
    (claimTransaction now userId week.start rewardType points).Relies (royalAgreement config)
      request (fun _ => (royalAgreement config).Commits request fun _ => True) (fun _ _ => True) ∅
      id s := by
  rw [claimTransaction]
  refine Tx.relies_select fun t reading => ?_
  refine Tx.relies_check fun _ => Tx.Relies.bind ?_
  refine (royal_books config).credit_relies reading.inv (fun _ => rfl) (by decide) rfl ?_ ?_
    fun _ _ _ => trivial
  · intro u row rely present
    exact insertClaim_found present
  · intro u held row _ locked rely _ reward
    have later := earned.later (reading.trans rely).grows.earnings
    refine insertClaim_posted ⟨reward.key, reward.wallet, reward.amount⟩ week rfl later ?_
    rw [reward.key]
    exact locked

private theorem payReward_relies (inv : RoyalLawful config s) (aborts : List Nat)
    {met : Bool} (admitted : canonical config rewardType = true) :
    (payReward now userId week rewardType aborts
      (rewardPoints config met (s.getQualifyingEarnings userId week) rewardType)).Abides (royalAgreement config) request s := by
  cases paid : rewardPoints config met (s.getQualifyingEarnings userId week) rewardType with
  | error error => exact Prog.relies_fail trivial
  | ok points =>
    rw [payReward]
    have stable : ∀ t u, (royalAgreement config).Rely ∅ t u →
        Earned config t userId week rewardType points →
        Earned config u userId week rewardType points :=
      fun t u rely earned => earned.later rely.grows.earnings
    have retried : (withSerializationRetry
        (claimTransaction now userId week.start rewardType points) 3 aborts).Abides (royalAgreement config) request s :=
      withSerializationRetry_relies _ stable (fun t _ earned => claimTransaction_relies earned) inv
        (rewardPoints_earned admitted paid) 3 aborts fun _ _ _ _ => trivial
    refine retried.attempt_bind fun outcome t _ => ?_
    cases outcome with
    | ok => exact Prog.relies_pure trivial
    | error error => exact Prog.relies_fail trivial

private theorem autocommit_relies {lock : Lock} {f : RoyalHostDb → RoyalHostDb}
    (money : ∀ u, (f u).money = u.money) (claims : ∀ u, (f u).claims = u.claims)
    (earnings : ∀ u, u.earnings <+: (f u).earnings) :
    (Prog.autocommit lock f : RoyalHostProg Unit).Abides (royalAgreement config) request s := by
  refine Prog.relies_autocommit fun t _ _ u rely _ => ⟨?_, trivial⟩
  have lawful : RoyalLawful config u := rely.inv
  refine ⟨⟨money u ▸ lawful.keys, claims u ▸ lawful.once, ?_, ?_⟩,
    ⟨money u ▸ List.prefix_rfl, claims u ▸ List.prefix_rfl, earnings u⟩, ?_, trivial⟩
  · rw [money u, claims u]
    exact lawful.paid
  · rw [claims u]
    intro claim member
    obtain ⟨week, start, earned⟩ := lawful.earned claim member
    exact ⟨week, start, earned.later (earnings u)⟩
  · intro lock _
    cases lock with
    | pointKey key => simp only [royalAgreement, money u]
    | royalHostClaim payee weekStart rewardType =>
      simp only [royalAgreement, RoyalHostDb.findClaim, claims u, imp_self]
    | _ => trivial

variable {toLowerCase : String → String}

private theorem claimReward_relies (aborts : List Nat)
    (isRequest : request = .claimReward userId rewardType aborts) :
    (claimReward config toLowerCase userId rewardType aborts).Abides (royalAgreement config) request s := by
  rw [claimReward]
  refine Prog.relies_select fun t _ => ?_
  dsimp only
  refine Prog.relies_check fun _ => ?_
  refine Prog.relies_check fun _ => ?_
  refine Prog.relies_select fun u _ => Prog.relies_read_bind fun v earlier admitted => ?_
  exact payReward_relies earlier.inv aborts (admitted userId rewardType aborts isRequest)

theorem royalHostHandler_relies (request : RoyalHostRequest) (s : RoyalHostDb) :
    (royalHostHandler config toLowerCase request).Abides (royalAgreement config) request s := by
  cases request with
  | claimReward userId rewardType aborts => exact claimReward_relies aborts rfl
  | earn earning =>
    exact autocommit_relies (fun _ => rfl) (fun _ => rfl) fun _ => List.prefix_append _ _
  | stream | setAdminTags | tick =>
    exact autocommit_relies (fun _ => rfl) (fun _ => rfl) fun _ => List.prefix_rfl

end Requests

/-! ### What has been paid -/

section Paid

variable {config : RoyalHostConfig} {db : RoyalHostDb} {userId : UserId} {week : Week}
  {rewardType other : String} {payment : RewardPayment}

private theorem start_inj {week other : Week} (same : week.start = other.start) : week = other :=
  Nat.eq_of_mul_eq_mul_right (by decide) same

private theorem paymentOf_some {row : PointLedgerEntry}
    (pays : paymentOf userId week.start row = some payment) :
    (∃ payee, row.idempotencyKey = .royalHostReward payee week.start payment.rewardType) ∧
      row.wallet = ⟨userId, .point⟩ ∧ row.amount = payment.points := by
  unfold paymentOf at pays
  split at pays
  next payee weekStart rewardType keyIs =>
    split at pays
    next holds =>
      obtain ⟨wallet, _, rfl⟩ := holds
      cases pays
      exact ⟨⟨payee, keyIs⟩, wallet, rfl⟩
    next => cases pays
  next => cases pays

private theorem RoyalLawful.payment_key (lawful : RoyalLawful config db) {row : PointLedgerEntry}
    (member : row ∈ db.money.pointLedger) (pays : paymentOf userId week.start row = some payment) :
    row.idempotencyKey = .royalHostReward userId week.start payment.rewardType ∧
      Earned config db userId week payment.rewardType payment.points := by
  obtain ⟨⟨payee, keyIs⟩, wallet, amount⟩ := paymentOf_some pays
  obtain ⟨claim, inside, own⟩ := lawful.paid row member payee week.start payment.rewardType keyIs
  have keys := own.key.symm.trans keyIs
  injection keys with claimant start type
  have users := own.wallet.symm.trans wallet
  injection users with user _
  obtain ⟨claimWeek, claimStart, earned⟩ := lawful.earned claim inside
  obtain rfl : claimWeek = week := start_inj (claimStart.symm.trans start)
  rw [user, type, ← own.amount, amount] at earned
  rw [keyIs, ← claimant, user]
  exact ⟨rfl, earned⟩

theorem RoyalLawful.earned_of_mem (lawful : RoyalLawful config db)
    (member : payment ∈ db.payments userId week) :
    Earned config db userId week payment.rewardType payment.points := by
  obtain ⟨row, inside, pays⟩ := List.mem_filterMap.mp member
  exact (lawful.payment_key inside pays).2

private theorem Earned.canonical_eq {points : Int} {tierIndex : Nat}
    (earned : Earned config db userId week rewardType points)
    (index : giftingTierIndex rewardType = some tierIndex) :
    rewardType = tierClaimType tierIndex := by
  obtain ⟨_, admitted, tiers⟩ := earned
  obtain ⟨tier, found, _⟩ := tiers tierIndex index
  rw [canonical, index, Option.all_some, found, Option.isNone_some, Bool.false_or,
    decide_eq_true_eq] at admitted
  exact admitted

private theorem rewardOf_inj {points points' : Int}
    (earned : Earned config db userId week rewardType points)
    (earned' : Earned config db userId week other points')
    (same : rewardOf rewardType = rewardOf other) : rewardType = other := by
  rcases rewardOf_cases earned.1 with ⟨rfl, first⟩ | ⟨rfl, first⟩ | ⟨n, index, first⟩ <;>
    rcases rewardOf_cases earned'.1 with ⟨rfl, second⟩ | ⟨rfl, second⟩ | ⟨m, next, second⟩ <;>
    cases first.symm.trans (same.trans second)
  · rfl
  · rfl
  · exact (earned.canonical_eq index).trans (earned'.canonical_eq next).symm

private theorem RoyalLawful.payments_nodup (lawful : RoyalLawful config db) (userId : UserId)
    (week : Week) :
    ((db.payments userId week).map fun payment => rewardOf payment.rewardType).Nodup := by
  refine List.pairwise_map.mpr (List.pairwise_filterMap.mpr ?_)
  refine (List.pairwise_map.mp lawful.keys).imp_of_mem ?_
  intro row other member otherMember different payment pays next nextPays same
  obtain ⟨key, earned⟩ := lawful.payment_key member pays
  obtain ⟨otherKey, otherEarned⟩ := lawful.payment_key otherMember nextPays
  rw [key, otherKey, rewardOf_inj earned otherEarned same] at different
  exact different rfl

/-- The index below a tier that is paid. -/
private def stepOf (payment : RewardPayment) : Nat :=
  (giftingTierIndex payment.rewardType).getD 0 - 1

private theorem Earned.points_eq {points : Int} {tierIndex : Nat}
    (earned : Earned config db userId week rewardType points)
    (index : giftingTierIndex rewardType = some tierIndex) :
    0 < tierIndex ∧ points = (cumulativeAt config.giftingTiers (tierIndex - 1 + 1) : Int) -
      cumulativeAt config.giftingTiers (tierIndex - 1) := by
  obtain ⟨tier, found, amount, _⟩ := earned.2.2 tierIndex index
  have positive := tierAt_pos found
  rw [Nat.sub_add_cancel positive]
  exact ⟨positive, amount⟩

private theorem highestReached_spec {weeklyEarnings tierIndex : Nat} {tier : GiftingTier}
    (found : tierAt config.giftingTiers tierIndex = some tier)
    (reached : tier.threshold ≤ weeklyEarnings) :
    ∃ top highest, highestReached config weeklyEarnings = some highest ∧
      tierAt config.giftingTiers top = some highest ∧
      ∀ n next, tierAt config.giftingTiers n = some next → next.threshold ≤ weeklyEarnings →
        n ≤ top := by
  have inside : ∀ n next, tierAt config.giftingTiers n = some next →
      next.threshold ≤ weeklyEarnings →
      next ∈ config.giftingTiers.filter fun tier => tier.threshold ≤ weeklyEarnings :=
    fun n next at_n within => List.mem_filter.mpr ⟨tierAt_mem at_n, by simpa using within⟩
  cases last : highestReached config weeklyEarnings with
  | none =>
    have empty := List.getLast?_eq_none_iff.mp last
    have member := inside tierIndex tier found reached
    rw [empty] at member
    cases member
  | some highest =>
    obtain ⟨below, split⟩ := List.getLast?_eq_some_iff.mp last
    have member : highest ∈ config.giftingTiers.filter fun tier =>
        tier.threshold ≤ weeklyEarnings := by
      simp [split]
    obtain ⟨i, within, same⟩ := List.mem_iff_getElem.mp (List.mem_filter.mp member).1
    have top : tierAt config.giftingTiers (i + 1) = some highest :=
      List.getElem?_eq_some_iff.mpr ⟨within, same⟩
    refine ⟨i + 1, highest, rfl, top, fun n next at_n reach => ?_⟩
    by_contra beyond
    have higher := (tierAt_ordered config.ordered top at_n (not_le.mp beyond)).1
    -- it comes before the last tier within reach, or it is that one
    have ordered := config.ordered.sublist
      (List.filter_sublist (p := fun tier => decide (tier.threshold ≤ weeklyEarnings)))
    rw [split] at ordered
    have listed := inside n next at_n reach
    rw [split] at listed
    rcases List.mem_append.mp listed with earlier | last
    · have := ((List.pairwise_append.mp ordered).2.2 next earlier highest (by simp)).1
      omega
    · rw [List.mem_singleton.mp last] at higher
      omega

/-- The increments of the tiers that are paid telescope up to the highest one within reach. -/
private theorem RoyalLawful.giftingPaid_le (lawful : RoyalLawful config db) (userId : UserId)
    (week : Week) : db.giftingPaid userId week ≤
      (((highestReached config (db.getQualifyingEarnings userId week)).map
        (·.cumulativePoints)).getD 0 : Nat) := by
  let gifting := (db.payments userId week).filter fun payment =>
    (giftingTierIndex payment.rewardType).isSome
  have earned : ∀ payment ∈ gifting, ∃ tierIndex,
      giftingTierIndex payment.rewardType = some tierIndex ∧
        Earned config db userId week payment.rewardType payment.points := by
    intro payment member
    obtain ⟨listed, isTier⟩ := List.mem_filter.mp member
    obtain ⟨tierIndex, index⟩ := Option.isSome_iff_exists.mp isTier
    exact ⟨tierIndex, index, lawful.earned_of_mem listed⟩
  have steps : (gifting.map (·.points)).sum = ((gifting.map stepOf).map fun n =>
      (cumulativeAt config.giftingTiers (n + 1) : Int) -
        cumulativeAt config.giftingTiers n).sum := by
    rw [List.map_map]
    refine congrArg List.sum (List.map_congr_left fun payment member => ?_)
    obtain ⟨tierIndex, index, own⟩ := earned payment member
    simpa only [Function.comp_apply, stepOf, index, Option.getD_some] using (own.points_eq index).2
  have once : (gifting.map stepOf).Nodup := by
    have rewards := List.pairwise_map.mp (lawful.payments_nodup userId week)
    refine List.pairwise_map.mpr ((rewards.filter _).imp_of_mem ?_)
    intro payment other member otherMember different same
    obtain ⟨n, index, own⟩ := earned payment member
    obtain ⟨m, otherIndex, otherOwn⟩ := earned other otherMember
    have positive := (own.points_eq index).1
    have otherPositive := (otherOwn.points_eq otherIndex).1
    simp only [stepOf, index, otherIndex, Option.getD_some] at same
    obtain rfl : n = m := by omega
    exact different (by rw [own.canonical_eq index, otherOwn.canonical_eq otherIndex])
  change (gifting.map (·.points)).sum ≤ _
  cases some : gifting with
  | nil => simp
  | cons first rest =>
    obtain ⟨tierIndex, index, own⟩ := earned first (some ▸ List.mem_cons_self)
    obtain ⟨tier, found, _, reached⟩ := own.2.2 tierIndex index
    obtain ⟨top, highest, isHighest, atTop, bound⟩ := highestReached_spec found reached
    have within : ∀ n ∈ gifting.map stepOf, n < top := by
      intro n member
      obtain ⟨payment, listed, rfl⟩ := List.mem_map.mp member
      obtain ⟨paidIndex, paid, reward⟩ := earned payment listed
      obtain ⟨paidTier, at_paid, _, within⟩ := reward.2.2 paidIndex paid
      have := bound paidIndex paidTier at_paid within
      have := tierAt_pos at_paid
      simp only [stepOf, paid, Option.getD_some]
      omega
    have ascends : ∀ n < top, (cumulativeAt config.giftingTiers n : Int) ≤
        cumulativeAt config.giftingTiers (n + 1) := by
      intro n below
      exact Int.ofNat_le.mpr (cumulativeAt_mono config (below.trans_le (tierAt_le atTop)))
    rw [← some, steps, isHighest]
    have total := Totals.sum_steps_le ascends once within
    have none : cumulativeAt config.giftingTiers 0 = 0 := rfl
    have all : cumulativeAt config.giftingTiers top = highest.cumulativePoints := by
      simp [cumulativeAt, atTop]
    rw [none, all] at total
    simpa using total

end Paid

/-! ### Claims that are still open -/

section Open

variable {config : RoyalHostConfig} {toLowerCase : String → String} {db : RoyalHostDb}
  {userId : UserId} {rewardType : String}

private theorem giftingTierIndex_tierClaimType {tierIndex : Nat} (few : tierIndex ≤ 20) :
    giftingTierIndex (tierClaimType tierIndex) = some tierIndex ∧
      (tierClaimType tierIndex).length ≤ 20 := by
  have all : ∀ n < 21, giftingTierIndex (tierClaimType n) = some n ∧
      (tierClaimType n).length ≤ 20 := by
    decide +kernel
  exact all tierIndex (Nat.lt_succ_of_le few)

private theorem eval_claimTransaction {weekStart : Time} (now : Time) (points : Int)
    (lawful : RoyalLawful config db)
    (absent : db.findClaim userId weekStart rewardType = none) (short : rewardType.length ≤ 20) :
    (0 < points → ∃ db', (claimTransaction now userId weekStart rewardType points).eval db =
      .ok ((), db')) ∧
    (points ≤ 0 → (claimTransaction now userId weekStart rewardType points).eval db =
      .error invalidAmount) := by
  obtain ⟨credited, worthless⟩ := @PointWallet.eval_creditInTransaction now userId points
    .royalHostReward { idempotencyKey := .royalHostReward userId weekStart rewardType } db.money
    (by decide) rfl (lawful.unpaid absent)
  have zoomed : ((PointWallet.creditInTransaction now userId points .royalHostReward
      { idempotencyKey := .royalHostReward userId weekStart rewardType }).zoom
        RoyalHostDb.money RoyalHostDb.setMoney).eval db =
      ((PointWallet.creditInTransaction now userId points .royalHostReward
        { idempotencyKey := .royalHostReward userId weekStart rewardType }).eval db.money).map
          fun r => (r.1, RoyalHostDb.setMoney r.2 db) := by
    refine Tx.eval_zoom ?_ ?_ ?_ _ db <;> intros <;> rfl
  rw [claimTransaction, Tx.eval_select_bind, absent, Tx.eval_ensure_bind, if_pos (by rfl)]
  constructor
  · intro positive
    obtain ⟨row, receipt, _, run⟩ := credited positive
    rw [run] at zoomed
    rw [Tx.eval_bind_of_ok _ zoomed, insertClaim, Tx.eval_ensure_bind,
      if_pos (by simpa using short), Tx.eval_lockRow_bind, Tx.eval_select_bind, Tx.eval_ensure_bind, if_pos, Tx.eval_update]
    · exact ⟨_, rfl⟩
    · exact Option.isNone_iff_eq_none.mpr absent
  · intro negative
    rw [worthless negative] at zoomed
    exact Tx.eval_bind_of_error _ zoomed

private theorem RoyalLawful.claim_succeeds_iff (lawful : RoyalLawful config db)
    {adminTags : List String} (tags : db.adminTags userId = some adminTags)
    (royal : hasRoyalHostTag toLowerCase adminTags = true) {tier : GiftingTierComputed}
    (shown : tier ∈ computeGiftingTiers config
      (db.getQualifyingEarnings userId (utcStartOfWeek db.now))
      (db.claimedTypes userId (utcStartOfWeek db.now)))
    (unlocked : tier.unlocked = true) (unclaimed : tier.claimed = false) :
    ((claimReward config toLowerCase userId tier.claimType []).call db).1 = .ok () ↔
      0 < tier.incrementPoints := by
  obtain ⟨i, within, rfl⟩ := List.mem_mapIdx.mp shown
  obtain ⟨index, short⟩ := giftingTierIndex_tierClaimType (within.trans_le config.few)
  have absent :
      db.findClaim userId (utcStartOfWeek db.now).start (tierClaimType (i + 1)) = none := by
    refine findClaim_eq_none.mpr fun claim member same => ?_
    simp only [RoyalHostRewardClaim.key, Prod.mk.injEq] at same
    obtain ⟨user, start, type⟩ := same
    refine of_decide_eq_false unclaimed (List.mem_map.mpr ⟨claim, ?_, type⟩)
    exact List.mem_filter.mpr ⟨member, by simp [user, start]⟩
  have points : rewardPoints config
      (config.weeklyHoursRequired * 3600 ≤ db.streamedSecondsForWeek userId (utcStartOfWeek db.now)
        (config.dailyHoursCapMinutes * 60))
      (db.getQualifyingEarnings userId (utcStartOfWeek db.now)) (tierClaimType (i + 1)) =
      .ok (incrementAt config.giftingTiers (i + 1)) := by
    have notStep1 : tierClaimType (i + 1) ≠ "TIMING_STEP_1" := by
      intro same
      rw [same] at index
      exact absurd (timingStep_index.1.symm.trans index) nofun
    have notStep2 : tierClaimType (i + 1) ≠ "TIMING_STEP_2" := by
      intro same
      rw [same] at index
      exact absurd (timingStep_index.2.symm.trans index) nofun
    have found : tierAt config.giftingTiers (i + 1) = some config.giftingTiers[i] :=
      List.getElem?_eq_getElem within
    have reached := of_decide_eq_true unlocked
    simp only [rewardPoints, notStep1, notStep2, if_false, index, found, not_lt.mpr reached]
  have increment : incrementAt config.giftingTiers (i + 1) =
      (config.giftingTiers[i].cumulativePoints : Int) - cumulativeAt config.giftingTiers i := by
    have found : tierAt config.giftingTiers (i + 1) = some config.giftingTiers[i] :=
      List.getElem?_eq_getElem within
    simp [incrementAt, cumulativeAt, found]
  obtain ⟨succeeds, fails⟩ :=
    eval_claimTransaction db.now (incrementAt config.giftingTiers (i + 1)) lawful absent short
  dsimp only
  rw [← increment, claimReward, Prog.call_select_bind, tags]
  dsimp only
  rw [Option.getD_some, Prog.call_ensure_bind, if_pos (by rfl), Prog.call_ensure_bind, if_pos royal,
    Prog.call_select_bind, Prog.call_select_bind, points, payReward, withSerializationRetry,
    Prog.call_attempt_transaction_bind]
  constructor
  · intro claimed
    by_contra worthless
    rw [fails (not_lt.mp worthless)] at claimed
    cases claimed
  · intro positive
    obtain ⟨db', run⟩ := succeeds positive
    rw [run]
    rfl

end Open

/-! ### Runs -/

/-- Tiers are claimed by the texts that the status shows. -/
def asShown (config : RoyalHostConfig) : Event RoyalHostRequest → Bool
  | .start (.claimReward _ rewardType _) => canonical config rewardType
  | _ => true

/-- In every run on a ledger without such rewards in which the tiers are claimed by the texts of the
status, each timing step and each tier of a week is paid at most once, the tiers are paid no more
than the cumulative points of the highest one that the earnings have reached, and a royal host can
claim an unlocked and unclaimed tier at once if and only if it adds points. -/
theorem royalHost_paidOnce {config : RoyalHostConfig} {toLowerCase : String → String} {now : Time}
    {money : MoneyDb} {adminTags : UserId → Option (List String)} {earnings : List Earning}
    {sessions : List StreamSession} (keys : (money.pointLedger.map (·.idempotencyKey)).Nodup)
    (unused : ∀ row ∈ money.pointLedger, ∀ userId weekStart rewardType,
      row.idempotencyKey ≠ .royalHostReward userId weekStart rewardType)
    {c : Config RoyalHostRequest RoyalHostDb Lock LedgerError}
    (run : Reaches (royalHostHandler config toLowerCase) (fun _ e => asShown config e = true)
      (Config.idle { now, money, adminTags, earnings, sessions }) c) (userId : UserId) :
    (∀ week, ((c.db.payments userId week).map fun payment => rewardOf payment.rewardType).Nodup ∧
      c.db.giftingPaid userId week ≤
        (((highestReached config (c.db.getQualifyingEarnings userId week)).map
          (·.cumulativePoints)).getD 0 : Nat)) ∧
      ∀ tags, c.db.adminTags userId = some tags → hasRoyalHostTag toLowerCase tags = true →
        ∀ tier ∈ computeGiftingTiers config
          (c.db.getQualifyingEarnings userId (utcStartOfWeek c.db.now))
          (c.db.claimedTypes userId (utcStartOfWeek c.db.now)),
        tier.unlocked = true → tier.claimed = false →
          (((claimReward config toLowerCase userId tier.claimType []).call c.db).1 = .ok () ↔
            0 < tier.incrementPoints) := by
  have start : RoyalLawful config { now, money, adminTags, earnings, sessions } :=
    ⟨keys, List.nodup_nil, fun row member _ _ _ keyIs => (unused row member _ _ _ keyIs).elim,
      nofun⟩
  have advancing := run.advancing (P := fun request => ∀ userId rewardType aborts,
    request = .claimReward userId rewardType aborts → canonical config rewardType = true) (by
      rintro _ _ shown _ _ _ rfl
      exact shown)
  have observed := advancing.observed (fun request s _ => royalHostHandler_relies request s)
    (A := royalAgreement config) (by
      intro c e holds
      cases e with
      | advance i => exact fun t _ found _ => holds.2 i t rfl found
      | start _ | crash _ => trivial) start
  have lawful : RoyalLawful config c.db := observed.inv
  exact ⟨fun week => ⟨lawful.payments_nodup userId week, lawful.giftingPaid_le userId week⟩,
    fun tags found royal tier shown unlocked unclaimed =>
      lawful.claim_succeeds_iff found royal shown unlocked unclaimed⟩

/-- Three tiers, of which the last one adds nothing. -/
def sampleLadder : RoyalHostConfig :=
  { weeklyHoursRequired := 1, dailyHoursCapMinutes := 60, timingStep1Points := 5
    timingStep2Points := 7, timingStep2EarningThreshold := 100
    giftingTiers := [⟨100, 10⟩, ⟨200, 25⟩, ⟨300, 25⟩], few := by decide, accepted := by rfl }

/-- User 1 is a royal host who has reached all tiers. -/
def royalHostDb : RoyalHostDb :=
  { now := 86400000, money := MoneyDb.empty
    adminTags := fun userId => if userId = 1 then some ["Royal Host"] else none
    earnings := [⟨1, 350, 5⟩], sessions := [⟨1, 5, 3600⟩] }

/-- Two tiers and a timing step, the tiers in the wrong order and one of them twice at once. -/
theorem royalHost_paidOnce_claimed :
    ∃ c : Config RoyalHostRequest RoyalHostDb Lock LedgerError,
      (c.db.payments 1 0 =
          [⟨"GIFTING_TIER_2", 15⟩, ⟨"TIMING_STEP_1", 5⟩, ⟨"GIFTING_TIER_1", 10⟩]) ∧
      (∀ week, ((c.db.payments 1 week).map fun payment => rewardOf payment.rewardType).Nodup ∧
        c.db.giftingPaid 1 week ≤
          (((highestReached sampleLadder (c.db.getQualifyingEarnings 1 week)).map
            (·.cumulativePoints)).getD 0 : Nat)) ∧
        ∀ tags, c.db.adminTags 1 = some tags → hasRoyalHostTag toLowerAscii tags = true →
          ∀ tier ∈ computeGiftingTiers sampleLadder
            (c.db.getQualifyingEarnings 1 (utcStartOfWeek c.db.now))
            (c.db.claimedTypes 1 (utcStartOfWeek c.db.now)),
          tier.unlocked = true → tier.claimed = false →
            (((claimReward sampleLadder toLowerAscii 1 tier.claimType []).call c.db).1 = .ok () ↔
              0 < tier.incrementPoints) := by
  obtain ⟨c, run, now⟩ : ∃ c, Reaches (royalHostHandler sampleLadder toLowerAscii)
      (fun _ e => asShown sampleLadder e = true) (Config.idle royalHostDb) c ∧
      c.db.payments 1 0 =
        [⟨"GIFTING_TIER_2", 15⟩, ⟨"TIMING_STEP_1", 5⟩, ⟨"GIFTING_TIER_1", 10⟩] :=
    exists_reaches_checked (fun _ _ => id) [serve (.claimReward 1 "GIFTING_TIER_2" []) 0 4,
      serve (.claimReward 1 "GIFTING_TIER_2" [3]) 1 4, List.replicate 10 (.advance 0),
      List.replicate 5 (.advance 1), serve (.claimReward 1 "TIMING_STEP_1" [2]) 2 17,
      serve (.claimReward 1 "GIFTING_TIER_1" []) 3 14] (by decide +kernel)
  exact ⟨c, now, royalHost_paidOnce (by decide) (by simp [MoneyDb.empty]) run 1⟩

/-- Another spelling of a tier pays it again, beyond what the highest tier has in all. And a tier
that adds nothing is shown as unlocked and unclaimed, but cannot be claimed. -/
theorem royalHost_paidTwice :
    (∃ c : Config RoyalHostRequest RoyalHostDb Lock LedgerError,
      Reaches (royalHostHandler sampleLadder toLowerAscii) (fun _ _ => True)
        (Config.idle royalHostDb) c ∧
      c.db.payments 1 0 = [⟨"GIFTING_TIER_2", 15⟩, ⟨"GIFTING_TIER_02", 15⟩] ∧
      c.db.giftingPaid 1 0 = 30 ∧
      highestReached sampleLadder (c.db.getQualifyingEarnings 1 0) = some ⟨300, 25⟩) ∧
    ∃ tier ∈ computeGiftingTiers sampleLadder (royalHostDb.getQualifyingEarnings 1 0) [],
      tier.unlocked = true ∧ tier.claimed = false ∧
      ((claimReward sampleLadder toLowerAscii 1 tier.claimType []).call royalHostDb).1 ≠
        .ok () := by
  constructor
  · exact exists_reaches [serve (.claimReward 1 "GIFTING_TIER_2" []) 0 14,
      serve (.claimReward 1 "GIFTING_TIER_02" []) 1 14] (by decide +kernel)
  · refine ⟨⟨"GIFTING_TIER_3", 300, 0, 25, true, false⟩, by decide +kernel, rfl, rfl, ?_⟩
    intro claimed
    have refused : ((claimReward sampleLadder toLowerAscii 1 "GIFTING_TIER_3" []).call
        royalHostDb).1.toOption = none := by
      decide +kernel
    rw [claimed] at refused
    cases refused

end OlNode.Rewards
