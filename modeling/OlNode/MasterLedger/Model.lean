import OlNode.History.Pagination
import OlNode.Totals
import OlNode.Withdrawal.Cash

/-!
# The master ledger: tables and sums

The master ledger values everything in units, 10,000 to the dollar, and divides the accounts into
the house's (treasury, company agency, game house) and the customers'. Its reports are sums over
the two wallet ledgers, the transfer tables, the cash journal and the purchase tables; each ledger
is scanned once for a period and grouped, and the sums pick from the groups.
-/
namespace OlNode.MasterLedger

open History Totals CompanyCash
open Memberships (VipMembershipPurchase)

/-- A ledger row with the tags of its metadata the reports read. -/
structure Leg (TxType : Type) extends LedgerRow TxType where
  promotional : Bool := false
  reallocation : Bool := false
  hostTxType : Option PointTxType := none

/-- Credits count positive, debits negative. -/
def Leg.signed {TxType : Type} (e : Leg TxType) : Int :=
  match e.direction with
  | .credit => e.amount
  | .debit => -e.amount

structure CoinTradingTransfer where
  id : Nat
  senderAgentUserId : UserId
  recipientUserId : UserId
  tradingCoinsDebited : Int
  createdAt : Time
  reversedAt : Option Time := none

structure AgentPointTransfer where
  id : Nat
  senderAgentUserId : UserId
  recipientAgentUserId : UserId
  points : Int
  createdAt : Time

inductive TreasuryFlowKind where
  | coinTradingTransfer | agentPointTransfer
  deriving DecidableEq

inductive TreasuryFlowClassificationType where
  | sale | promo | internal | writeOff
  deriving DecidableEq

/-- A row of the cash journal with its flag and instant. -/
structure CashRow extends CompanyCashEntry where
  promotional : Bool
  createdAt : Time

structure UserStoreItem where
  coinsPaid : Int
  createdAt : Time

/-- The tables of the reports. Coin rows live on wallets of coins, trading coins and diamonds,
point rows on wallets of points; `insert` accepts positive amounts only, and so does a transfer of
trading coins. -/
structure LedgerDb where
  isAgent : UserId → Bool
  wallets : List Wallet
  coin : List (Leg CoinTxType)
  point : List (Leg PointTxType)
  coinTradingTransfers : List CoinTradingTransfer := []
  agentPointTransfers : List AgentPointTransfer := []
  /-- `(flowKind, flowId)` is unique in `treasury_flow_classifications`. -/
  classification : TreasuryFlowKind → Nat → Option TreasuryFlowClassificationType := fun _ _ => none
  cash : List CashRow := []
  storeItems : List UserStoreItem := []
  vipPurchases : List VipMembershipPurchase := []
  giftTransactions : List GiftTransaction := []
  wallets_nodup : wallets.Nodup
  coin_wallet : ∀ e ∈ coin, e.wallet ∈ wallets ∧ e.wallet.currencyType ≠ .point
  point_wallet : ∀ e ∈ point, e.wallet ∈ wallets ∧ e.wallet.currencyType = .point
  coin_pos : ∀ e ∈ coin, 0 < e.amount
  point_pos : ∀ e ∈ point, 0 < e.amount
  transfer_pos : ∀ t ∈ coinTradingTransfers, 0 < t.tradingCoinsDebited := by simp

theorem noLegs_pos (TxType : Type) : ∀ e ∈ ([] : List (Leg TxType)), 0 < e.amount := by simp

theorem noTransfers_pos :
    ∀ t ∈ ([] : List CoinTradingTransfer), 0 < t.tradingCoinsDebited := by simp

/-- `allIds` of the house accounts. -/
abbrev HouseAccounts := List UserId

/-- A flow to a house account is internal, whatever was stored for it. -/
def effectiveClassification (recipientUserId : UserId)
    (stored : Option TreasuryFlowClassificationType) (house : HouseAccounts) :
    TreasuryFlowClassificationType :=
  if house.contains recipientUserId then .internal else stored.getD .sale

/-- A period `[start, stop)`, open at an end that is not given. -/
structure Window where
  start : Option Time := none
  stop : Option Time := none

def Window.contains (w : Window) (t : Time) : Bool :=
  w.start.all (· ≤ t) && w.stop.all (t < ·)

/-! ### Sums over the ledgers -/

/-- Which side of the house/customer split a sum covers. -/
inductive Owner where
  | customer | house | any
  deriving DecidableEq

inductive Reallocation where
  | exclude | only
  deriving DecidableEq

structure LedgerTotalsKey (TxType : Type) where
  txType : TxType
  direction : LedgerDirection
  currency : WalletCurrencyType
  isHouse : Bool
  promo : Bool
  realloc : Bool
  deriving DecidableEq

structure LedgerTotalsRow (TxType : Type) extends LedgerTotalsKey TxType where
  units : Int

variable {TxType : Type} [DecidableEq TxType]

def totalsKey (house : HouseAccounts) (e : Leg TxType) : LedgerTotalsKey TxType where
  txType := e.txType
  direction := e.direction
  currency := e.wallet.currencyType
  isHouse := house.contains e.wallet.userId
  promo := e.promotional
  realloc := e.reallocation

/-- The scan of one ledger. -/
def loadLedgerTotals (house : HouseAccounts) (w : Window) (legs : List (Leg TxType)) :
    List (LedgerTotalsRow TxType) :=
  (groups (totalsKey house) (legs.filter fun e => w.contains e.createdAt)).map fun g =>
    { g.1 with units := (g.2.map (·.amount)).sum }

structure PickParams (TxType : Type) where
  direction : LedgerDirection
  txTypes : List TxType
  currency : Option WalletCurrencyType := none
  promotionalOnly : Bool := false
  reallocation : Option Reallocation := none
  owner : Owner := .any

def PickParams.picks (params : PickParams TxType) (k : LedgerTotalsKey TxType) : Bool :=
  k.direction = params.direction && params.txTypes.contains k.txType &&
    params.currency.all (k.currency = ·) && (!params.promotionalOnly || k.promo) &&
    !(params.reallocation = some .exclude && k.realloc) &&
    !(params.reallocation = some .only && !k.realloc) &&
    !(params.owner = .house && !k.isHouse) && !(params.owner = .customer && k.isHouse)

def pickTotals (rows : List (LedgerTotalsRow TxType)) (params : PickParams TxType) : Int :=
  ((rows.filter fun r => params.picks r.toLedgerTotalsKey).map (·.units)).sum

/-- `sumCoin`, and `sumPoint` on the other ledger. -/
def sumLegs (house : HouseAccounts) (w : Window) (legs : List (Leg TxType))
    (params : PickParams TxType) : Int :=
  pickTotals (loadLedgerTotals house w legs) params

def sumCoin (db : LedgerDb) (house : HouseAccounts) (w : Window)
    (params : PickParams CoinTxType) : Int :=
  sumLegs house w db.coin params

def sumPoint (db : LedgerDb) (house : HouseAccounts) (w : Window)
    (params : PickParams PointTxType) : Int :=
  sumLegs house w db.point params

/-- Picking from the groups is summing over the rows. -/
theorem sumLegs_eq (house : HouseAccounts) (w : Window) (legs : List (Leg TxType))
    (params : PickParams TxType) :
    sumLegs house w legs params =
      sumWhere (fun e => w.contains e.createdAt && params.picks (totalsKey house e)) (·.amount)
        legs := by
  have grouped := sum_groups (totalsKey house) (fun k => if params.picks k then 1 else 0)
    (·.amount) (legs.filter fun e => w.contains e.createdAt)
  have picked : sumLegs house w legs params =
      ((loadLedgerTotals house w legs).map fun r =>
        (if params.picks r.toLedgerTotalsKey then 1 else 0) * r.units).sum :=
    sumWhere_eq_weighted _ _ _
  rw [picked, loadLedgerTotals, List.map_map]
  simp only [Function.comp_def]
  rw [grouped, ← sumWhere_eq_weighted, sumWhere_filter]

end OlNode.MasterLedger
