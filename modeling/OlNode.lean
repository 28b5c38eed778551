import OlNode.Ledger.Tail
import OlNode.Withdrawal.Settlement
import OlNode.Withdrawal.Assignments
import OlNode.Withdrawal.NetZero
import OlNode.Withdrawal.Dispute
import OlNode.Withdrawal.Amounts
import OlNode.LuckyWater.DrawContract
import OlNode.LuckyWater.Pricing
import OlNode.LuckyWater.ActiveTiers
import OlNode.LuckyWater.Routing
import OlNode.InternalLedger.Balances
import OlNode.InternalLedger.Pools
import OlNode.Subscription.Cancel
import OlNode.Subscription.Billing
import OlNode.Subscription.Schedule
import OlNode.Topup.Retry
import OlNode.VideoCall.Ticks
import OlNode.VideoCall.CallPrice
import OlNode.Game.Settlement
import OlNode.Trading.Conservation
import OlNode.RareId.Inventory
import OlNode.Membership.Expiry
import OlNode.Membership.Badge
import OlNode.Store.Slots
import OlNode.Withdrawal.Once
import OlNode.LuckyWater.Scan
import OlNode.Idempotency.Private
import OlNode.Level.UserLevel
import OlNode.Level.Retention
import OlNode.MasterLedger.Reconciliation
import OlNode.MasterLedger.TreasuryFeed
import OlNode.Agency.Commission
import OlNode.Agency.TierLock
import OlNode.Auth.Otp
import OlNode.Auth.SecurityPassword
import OlNode.Account.Deletion
import OlNode.Session.Cap
import OlNode.Session.Revocation
import OlNode.Agency.MembershipConsistency
import OlNode.Level.Backfill
import OlNode.Broadcast.Delivery
import OlNode.Ranking.Rebuild
import OlNode.Messaging.Pagination
import OlNode.Messaging.ReadCursor
import OlNode.Messaging.Outbox
import OlNode.Rewards.WeeklyEvaluation
import OlNode.Rewards.RoyalHostClaims
import OlNode.Rewards.LiveSeconds
import OlNode.Gifting.Gallery
import OlNode.Gifting.CommissionOrder
import OlNode.Agency.LeaveApplications
import OlNode.Moderation.Restrictions
import OlNode.CustomGift.Accounting
import OlNode.Csv.Export
import OlNode.Membership.ExpiryAudit
import OlNode.Support.TicketTiers
import OlNode.Periods.Ist1130
import OlNode.Periods.RankingPeriods
import OlNode.Resilience.CircuitBreaker
import OlNode.PublicId.Exhaustion
import OlNode.Ranking.Board
import OlNode.MasterLedger.ChainAudit
import OlNode.EvenRuns
import OlNode.LuckyWater.Breakdown
import OlNode.MapPool
