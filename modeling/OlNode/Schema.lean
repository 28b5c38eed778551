import OlNode.ReadCommitted.Program

/-!
# The tables behind the wallets

Rows and enumerations of the coin and point ledgers, of the users and agencies a ledger operation
consults, and of the gifts and calls it is charged for. Identifiers that are opaque to the code
(UUIDs, client transaction ids, request ids) are natural numbers; instants are milliseconds.

Idempotency keys are strings in the database. Here each key template is a constructor: the
templates the code uses never produce the same string for different arguments, since each starts
or ends with its own fixed text.
-/
namespace OlNode

abbrev UserId := Nat
abbrev Time := Nat

inductive WalletCurrencyType where
  | coin | tradingCoin | point | diamond
  deriving DecidableEq

/-- A wallet is identified by its owner and currency (`userId_currencyType` is unique). -/
structure Wallet where
  userId : UserId
  currencyType : WalletCurrencyType
  deriving DecidableEq

inductive LedgerDirection where
  | credit | debit
  deriving DecidableEq

inductive CoinTxType where
  | topup | giftSend | platformReward | adjustment | videoCall | creatorSubscription
  | globalMessage | gameWagerOut | gameWagerIn | gameResultIn | gameResultOut | gameRefundIn
  | gameRefundOut | vipPurchase | guardianPurchase | vipMembershipPurchase | storeItemPurchase
  | tradingTopup | giftRefund | transferOut | transferIn | tradingTransferOut | tradingTransferIn
  | tradingExchangeFromPoints | tradingTransferReversal | vipReward | dailyLogin | weeklyTopup
  | expire | usernameChange | pointExchangeToCoins | customGiftRequest | customGiftRefund
  | diamondPurchaseOut | diamondPurchaseIn | diamondRedeemOut | diamondRedeemIn | gameAdjustment
  | other (code : Nat)
  deriving DecidableEq

inductive PointTxType where
  | livestreamGift | subscription | guardianPurchase | withdrawal | withdrawalRefund | adjustment
  | videoCall | giftReceive | agentCommission | agentPointTransfer | payrollProcessingReward
  | withdrawalEscrow | withdrawalEscrowSettled | payrollHostPayout | payrollTakeoverInventory
  | commission | transferIn | transferOut | platformReward | agencyForceExitPenalty
  | livestreamStreakReward | royalHostReward | normalHostReward | normalHostBasicReward
  | other (code : Nat)
  deriving DecidableEq

inductive StoreItemCategory where
  | ride | avatarFrame | chatBubble | profileCard
  deriving DecidableEq

inductive LevelType where
  | wealth | livestream
  deriving DecidableEq

/-- `lucky:<sender>:<clientTxId>` or `lucky:<txid>`. -/
inductive LuckyKeyBase where
  | clientScoped (sender : UserId) (clientTxId : Nat)
  | plain (txid : Nat)
  deriving DecidableEq

/-- `withdrawal-create:<userId>:<client key>`; older rows hold `withdrawal:<userId>:<withdrawalId>`. -/
inductive WithdrawalKey where
  | create (userId : UserId) (clientKey : Nat)
  | legacy (userId : UserId) (withdrawalId : Nat)
  deriving DecidableEq

/-- The UUID of a payroll assignment. UUIDs generated for different withdrawals never coincide, so
the id tells which withdrawal it was generated for. -/
structure AssignmentId where
  withdrawalId : Nat
  serial : Nat
  deriving DecidableEq

/-- A trading transfer is known by its sender and the client's key. -/
structure TransferId where
  senderAgentUserId : UserId
  idempotencyKey : Nat
  deriving DecidableEq

/-- A recorded movement between two coin wallets: `trading-transfer:<sender>:<key>`,
`trading-reversal:<transfer>`, `diamond-buy:<user>:<key>` or `diamond-redeem:<user>:<key>`. -/
inductive MovementKey where
  | tradingTransfer (id : TransferId)
  | tradingReversal (transferId : TransferId)
  | diamondBuy (userId : UserId) (idempotencyKey : Nat)
  | diamondRedeem (userId : UserId) (idempotencyKey : Nat)
  deriving DecidableEq

/-- The idempotency keys of ledger rows, one constructor for each template. -/
inductive LedgerKey where
  | withdrawalDebit (withdrawalId : Nat)
  | withdrawalEscrow (withdrawalId : Nat)
  | withdrawalRefund (withdrawalId : Nat)
  | withdrawalSettled (assignmentId : AssignmentId)
  | payrollHostPayout (assignmentId : AssignmentId)
  | payrollReward (assignmentId : AssignmentId)
  | payrollHostPayoutReversal (assignmentId : AssignmentId)
  | payrollRewardReversal (assignmentId : AssignmentId)
  | payrollTakeover (withdrawalId : Nat)
  | payrollTakeoverReward (withdrawalId : Nat)
  | giftCoin (idemBase : Nat)
  | giftPoint (idemBase : Nat)
  | luckyDebit (base : LuckyKeyBase)
  | luckyHostCut (base : LuckyKeyBase)
  | luckyReward (base : LuckyKeyBase)
  | callMinuteCoins (sessionId minute : Nat)
  | callMinutePoints (sessionId minute : Nat)
  | videoCallCoin (sessionId minute : Nat)
  | videoCallPoint (sessionId minute : Nat)
  | globalMessage (idemKey : Nat)
  | agencyCommission (hostEntry : LedgerKey)
  | agencyCommissionReverse (hostEntry : LedgerKey)
  /-- `sub:create:<subscriber>:<creator>:<id>:<nextRenewalAt>` of the row found, if any. -/
  | subscriptionInitial (subscriberId creatorId : UserId) (existing : Option (Nat × Time))
  | subscriptionRenewal (subscriptionId : Nat) (due : Time)
  | subscriptionGrace (subscriptionId : Nat) (due : Time)
  | epayPersonalTopup (orderId : Nat)
  | gameRoundUser (providerId orderId : Nat)
  | gameRoundHouse (providerId orderId : Nat)
  | vipPurchase (idempotencyKey : Nat)
  | guardianPurchase (guardianUserId : UserId) (idempotencyKey : Nat)
  /-- `guardian-purchase:<uuid>`, of a request without a key. -/
  | guardianPurchaseOnce (uuid : Nat)
  | hostPoints (purchaseEvent : LedgerKey)
  | vipMembershipPurchase (userId : UserId) (idempotencyKey : Nat)
  | storePurchase (idempotencyKey : Nat)
  /-- `<movement>:out`, and `:recipient` of a reversal. -/
  | movementDebit (movement : MovementKey)
  /-- `<movement>:in`, and `:sender` of a reversal. -/
  | movementCredit (movement : MovementKey)
  /-- `custom-gift:<user>:<client key, or a uuid>`. -/
  | customGift (userId : UserId) (key : Nat)
  | customGiftRefund (requestId : Nat)
  | royalHostReward (userId : UserId) (weekStart : Time) (rewardType : String)
  | normalHostReward (userId : UserId) (rewardDate : Time) (hourSlot : Nat)
  | other (key : Nat)
  deriving DecidableEq

inductive RefId where
  | withdrawal (id : Nat)
  | giftTransaction (id : Nat)
  | session (id : Nat)
  | message (id : Nat)
  | ledgerEntry (key : LedgerKey)
  | other (id : Nat)
  deriving DecidableEq

/-- A row of `coin_ledger_entries` or `point_ledger_entries`. Rows are identified by their unique
idempotency key; of the metadata only the request id is read back, and the order of a top-up is
kept. -/
structure LedgerEntry (TxType : Type) where
  wallet : Wallet
  direction : LedgerDirection
  txType : TxType
  amount : Int
  balanceAfter : Int
  idempotencyKey : LedgerKey
  refId : Option RefId := none
  counterpartyId : Option UserId := none
  requestId : Option Nat := none
  orderId : Option Nat := none
  deriving DecidableEq

abbrev CoinLedgerEntry := LedgerEntry CoinTxType
abbrev PointLedgerEntry := LedgerEntry PointTxType

structure WalletFreezeFlags where
  personalCoinsFrozen : Bool
  tradingCoinsFrozen : Bool
  pointsFrozen : Bool

structure Agency where
  currentLevel : Nat
  pausedAt : Option Time
  pausedUntil : Option Time

structure AgencyCommissionLevel where
  liveRateBp : Int
  matchChatRateBp : Int

structure WalletUserLevel where
  currentLevel : Nat
  cumulativeTotal : Int
  deriving DecidableEq

structure LevelThreshold where
  level : Nat
  threshold : Int

structure Gift where
  id : Nat
  coinCost : Int
  isActive : Bool
  /-- `isLuckyGift`: its flag, or its category's name or slug. -/
  isLucky : Bool

inductive GiftContext where
  | liveStream | videoCall | luckySingle | luckyCombo
  deriving DecidableEq

structure GiftTransaction where
  id : Nat
  senderUserId : UserId
  receiverUserId : UserId
  giftId : Nat
  coinCost : Int
  quantity : Nat
  pointsAwarded : Int
  context : GiftContext
  createdAt : Time

/-- `video_call_sessions.status` is free text; the code writes the first five. -/
inductive CallStatus where
  | ringing | active | ended | insufficientCoins | missed | other (text : Nat)
  deriving DecidableEq

structure VideoCallSession where
  id : Nat
  callerId : UserId
  creatorId : UserId
  pricePerMin : Int
  status : CallStatus
  minsCharged : Nat
  coinsDeducted : Int
  pointsAwarded : Int
  startedAt : Time

/-- `hostRevenueShareConfigService.getShares()`, in basis points, with the bounds `updateConfig`
checks. -/
structure HostRevenueShares where
  giftReceiveBp : Int
  subscriptionBp : Int
  videoCallHostShareBp : Int
  luckyHostShareBp : Int
  luckyWaterAgencyCommission : Bool
  giftReceiveBp_pos : 1 ≤ giftReceiveBp
  subscriptionBp_pos : 1 ≤ subscriptionBp
  videoCallHostShareBp_pos : 1 ≤ videoCallHostShareBp
  luckyHostShareBp_nonneg : 0 ≤ luckyHostShareBp

def DEFAULT_HOST_REVENUE_SHARES : HostRevenueShares where
  giftReceiveBp := 6000
  subscriptionBp := 7500
  videoCallHostShareBp := 6000
  luckyHostShareBp := 400
  luckyWaterAgencyCommission := false
  giftReceiveBp_pos := by decide
  subscriptionBp_pos := by decide
  videoCallHostShareBp_pos := by decide
  luckyHostShareBp_nonneg := by decide

/-! ### Errors -/

inductive ErrorCode where
  | invalidAmount | insufficientPoints | insufficientCoins | userNotFound | personalCoinsFrozen
  | tradingCoinsFrozen | pointsFrozen | configError | invalidRequest | callNotFound
  | callNotActive | forbidden | giftNotFound | wrongGiftKind | duplicateLedgerKey
  | luckyReplayMismatch | luckyPriceTooLow | invalidLuckyReward | luckyPoolFloor
  | invalidCallState | minuteOutOfOrder | notFound | invalidState | agentLockedOut | slaExpired
  | invalidProofKey | epayPlatformPayout | payrollSelfAssignForbidden | payrollAgencyIneligible
  | agencyNotFound | countryMismatch | alreadyAssigned | companyAgencyNotConfigured
  | disputeAlreadyRaised | disputeWindowExpired | withdrawalRevertWindowExpired
  | faceNotIndexed | paymentMethodDisabled | belowMinWithdrawal | aboveMaxWithdrawal
  | serviceFeeExceedsAmount | luckyTierNotFound | luckyTierEconInvalid | luckyTierSeedInvalid
  | luckyTierSeedNotImplemented | userBlocked | youAreBlocked | alreadyBlocked | blockNotFound
  | subscriptionDuplicate | idemConflict | orderNotFound
  | gameSessionNotFound | gameSessionExpired | gameSessionUserMismatch | gameHouseNotConfigured
  | rareIdNotAvailable | rareIdAlreadyOwned | giftNotAllowed
  | validationError | invalidShareBp | invalidRateBp
  | storeItemNotFound | storeItemNotOwned | storeItemInactive | storeItemExpired
  | storeItemCategoryMismatch | vipDurationCap | cannotGuardianSelf | invalidDuration
  | minPointsExchange | invalidAmountStep | minTransferViolation | invalidRecipient | agencyPaused
  | rateNotFound | packageNotFound
  | invalidTargetLevel | levelAlreadyAtTarget | minTransfer | agentOnly | recipientNotFound
  | selfTransfer | transferNotFound | transferAlreadyReversed | nothingToRecover
  | insufficientTradingCoins | alreadyReverted
  | customGiftDisabled | customGiftRequestPending | customGiftRequestNotFound
  | customGiftRequestAlreadyResolved | alreadyClaimed
  | royalHostNotEligible | royalHostThresholdNotMet
  | normalHostNotEligible | normalHostThresholdNotMet
  | invalidRoyalHostGiftingTiers | invalidNormalHostTiers | invalidFeeConfig | invalidCommissionTier
  /-- A plain `Error`, without a code. -/
  | internalError
  deriving DecidableEq

structure AppError where
  status : Nat
  message : String
  code : ErrorCode
  /-- The detail flag `callAccept` reads back from its own error. -/
  replayable : Bool := false
  deriving DecidableEq

/-- What a handler can throw: an application error, the unique violation of an INSERT (P2002), or
the abort of a transaction by the database (P2034, or 40001 and 40P01 of a raw query). -/
inductive LedgerError where
  | app (error : AppError)
  | uniqueViolation
  | serializationAbort
  deriving DecidableEq

end OlNode
