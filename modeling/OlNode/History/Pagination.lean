import OlNode.Paging
import OlNode.Withdrawal.Model
import OlNode.Membership.Operations
import Mathlib.Data.Prod.Lex

/-!
# Reading histories page by page

The ledger histories of a wallet, the disputed payrolls of the admins and the purchases of a VIP
member, as lists behind a cursor. The ledgers sort by `createdAt` and continue strictly before the
`createdAt` of the cursor row, so rows written at the same instant can be lost at the edge of a
page. The disputed payrolls sort by `requestedAt` and continue below the cursor's id, which is
another order. The VIP purchases sort by `createdAt` and id and continue in the same order.
-/
namespace OlNode.History

open Paging
open Memberships (VipMembershipPurchase)

structure Table (ρ : Type) (ident : ρ → Nat) where
  rows : List ρ
  unique : (rows.map ident).Nodup

variable {ρ : Type} {ident : ρ → Nat}

/-- `findUnique` by primary key. -/
def Table.findUnique (table : Table ρ ident) (id : Nat) : Option ρ :=
  table.rows.find? fun row => ident row = id

/-- `findMany`: the rows that satisfy `where`, as the database orders them, at most `take`. -/
def Table.findMany (table : Table ρ ident) (arrange : List ρ → List ρ) (cond : ρ → Bool)
    (take : Nat) : List ρ :=
  (arrange (table.rows.filter cond)).take take

/-! ### The ledger lists -/

structure LedgerRow (TxType : Type) extends LedgerEntry TxType where
  id : Nat
  createdAt : Time
  deriving DecidableEq

abbrev LedgerTable (TxType : Type) := Table (LedgerRow TxType) (·.id)

/-- The filter of the point ledger; that of the coin ledger has a direction as well. -/
structure LedgerFilter (TxType : Type) where
  wallet : Wallet
  types : Option (List TxType) := none
  fromDate : Option Time := none
  toDate : Option Time := none

structure CoinLedgerFilter extends LedgerFilter CoinTxType where
  direction : Option LedgerDirection := none

/-- The conditions that do not depend on the cursor. An empty list of types is no condition. -/
def LedgerFilter.accepts {TxType : Type} [DecidableEq TxType] (filter : LedgerFilter TxType) (row : LedgerRow TxType) : Bool :=
  row.wallet = filter.wallet && filter.fromDate.all (· ≤ row.createdAt) &&
    filter.toDate.all (row.createdAt ≤ ·) &&
    filter.types.all fun types => types.isEmpty || types.contains row.txType

def CoinLedgerFilter.accepts (filter : CoinLedgerFilter) (row : LedgerRow CoinTxType) : Bool :=
  filter.toLedgerFilter.accepts row && filter.direction.all (row.direction = ·)

variable {TxType : Type}

/-- `list` of the ledger repositories: `findUniqueOrThrow` fails on an unknown cursor. -/
def listEntries (table : LedgerTable TxType) (accepts : LedgerRow TxType → Bool)
    (arrange : Option Nat → List (LedgerRow TxType) → List (LedgerRow TxType)) (limit : Nat)
    (cursor : Option Nat) : Option (List (LedgerRow TxType)) :=
  match cursor with
  | none => some (table.findMany (arrange none) accepts (limit + 1))
  | some id => do
    let entry ← table.findUnique id
    let cond row := accepts row && decide (row.createdAt < entry.createdAt)
    some (table.findMany (arrange cursor) cond (limit + 1))

/-- `getHistory` of the coin wallets, and of the trading coins and diamonds, which live in the same
ledger. -/
def coinHistory (table : LedgerTable CoinTxType) (filter : CoinLedgerFilter)
    (arrange : Option Nat → List (LedgerRow CoinTxType) → List (LedgerRow CoinTxType))
    (limit : Nat) (cursor : Option Nat) : Option (Page Nat (LedgerRow CoinTxType)) :=
  (listEntries table filter.accepts arrange limit cursor).map (cut (·.id) limit)

def pointHistory (table : LedgerTable PointTxType) (filter : LedgerFilter PointTxType)
    (arrange : Option Nat → List (LedgerRow PointTxType) → List (LedgerRow PointTxType))
    (limit : Nat) (cursor : Option Nat) : Option (Page Nat (LedgerRow PointTxType)) :=
  (listEntries table filter.accepts arrange limit cursor).map (cut (·.id) limit)

/-! ### Disputed payrolls -/

/-- A withdrawal with its host's country and its assignments. -/
structure Payroll extends Withdrawal where
  requestedAt : Time
  country : Option Nat
  payrollAssignments : List PayrollAssignment
  deriving DecidableEq

abbrev PayrollTable := Table Payroll (·.id)

/-- The conditions of `getAdminDisputedPayrolls` that do not depend on the cursor. -/
def Payroll.isDisputed (countries : Option (List Nat)) (payroll : Payroll) : Bool :=
  payroll.status = .disputed &&
    countries.all (fun countries => payroll.country.any countries.contains) &&
    (payroll.payrollAssignments.any (·.status = .waiting) || payroll.payoutHandler = .platform ||
      payroll.methodType = .epay)

def getAdminDisputedPayrolls (table : PayrollTable) (countries : Option (List Nat))
    (arrange : Option Nat → List Payroll → List Payroll) (limit : Nat) (cursor : Option Nat) :
    Option (Page Nat Payroll) :=
  let cond payroll := Payroll.isDisputed countries payroll && cursor.all (payroll.id < ·)
  some (cut (·.id) limit (table.findMany (arrange cursor) cond (limit + 1)))

/-! ### VIP purchases -/

abbrev PurchaseTable := Table VipMembershipPurchase (·.id)

def getRecentPurchases (table : PurchaseTable) (userId : UserId)
    (arrange : Option Nat → List VipMembershipPurchase → List VipMembershipPurchase) (limit : Nat)
    (cursor : Option Nat) : Option (Page Nat VipMembershipPurchase) :=
  -- A cursor that is none of the user's purchases is ignored.
  let cursorRow := cursor.bind fun id =>
    table.rows.find? fun purchase => purchase.id = id && purchase.userId = userId
  let cond purchase := purchase.userId = userId && cursorRow.all fun row =>
    purchase.createdAt < row.createdAt || (purchase.createdAt = row.createdAt && purchase.id < row.id)
  some (cut (·.id) limit (table.findMany (arrange cursor) cond (limit + 1)))

/-! ### Losslessness -/

section Lossless

variable {κ : Type} [LinearOrder κ]

/-- Following the cursors from the first page yields the accepted rows, each once and in order,
for every page size and however the database orders ties. -/
def Lossless (key : ρ → κ) (table : Table ρ ident) (accepts : ρ → Bool)
    (read : (Option Nat → List ρ → List ρ) → Nat → Option Nat → Option (Page Nat ρ)) : Prop :=
  ∀ arrange, Arranges key arrange → ∀ limit ≥ 1,
    Complete key (table.rows.filter accepts) (read arrange limit)

theorem Table.nodup (table : Table ρ ident) : table.rows.Nodup :=
  List.Nodup.of_map ident table.unique

theorem Table.find_eq (table : Table ρ ident) {cond : ρ → Bool} {row : ρ} (member : row ∈ table.rows)
    (found : cond row) (keyed : ∀ other, cond other → ident other = ident row) :
    table.rows.find? cond = some row := by
  have inj := List.inj_on_of_nodup_map table.unique
  cases search : table.rows.find? cond with
  | none => exact absurd found (by simpa using List.find?_eq_none.mp search row member)
  | some other =>
    have same := keyed other (List.find?_some search)
    rw [inj (List.mem_of_find?_eq_some search) member same]

/-- A list is lossless exactly if its order and its cursor filter agree on the rows it shows. -/
theorem lossless_iff_agree [DecidableEq ρ] {key : ρ → κ} {beyond : ρ → ρ → Bool}
    {table : Table ρ ident} {accepts : ρ → Bool}
    {read : (Option Nat → List ρ → List ρ) → Nat → Option Nat → Option (Page Nat ρ)}
    (strict : Strict beyond)
    (serves : ∀ arrange limit,
      Serves ident beyond (table.rows.filter accepts) limit arrange (read arrange limit)) :
    Lossless key table accepts read ↔
      ∀ a ∈ table.rows, accepts a → ∀ b ∈ table.rows, accepts b → a ≠ b →
        Agree key beyond a b := by
  refine (lossless_iff key strict (table.nodup.filter accepts) serves).trans ?_
  simp only [List.mem_filter, and_imp]

end Lossless

/-! ### The ledgers -/

private def earlier (a b : LedgerRow TxType) : Bool := decide (b.createdAt < a.createdAt)

private theorem earlier_strict :
    Strict (earlier : LedgerRow TxType → LedgerRow TxType → Bool) where
  irrefl := by simp [earlier]
  trans := by
    intro a b c
    simp only [earlier, decide_eq_true_eq]
    exact fun first second => lt_trans second first

private theorem history_serves (table : LedgerTable TxType) (accepts : LedgerRow TxType → Bool)
    (arrange : Option Nat → List (LedgerRow TxType) → List (LedgerRow TxType)) (limit : Nat) :
    Serves (·.id) earlier (table.rows.filter accepts) limit arrange
      fun cursor => (listEntries table accepts arrange limit cursor).map (cut (·.id) limit) := by
  intro cursor inside
  cases cursor with
  | none => rfl
  | some row =>
    have member : row ∈ table.rows := List.mem_of_mem_filter (inside row rfl)
    have found : table.findUnique row.id = some row :=
      table.find_eq member (by simp) (by simp)
    simp [listEntries, found, Table.findMany, select, List.filter_filter, earlier, Bool.and_comm]

/-- No two rows of the history were written at the same instant. -/
def DistinctInstants (table : LedgerTable TxType) (accepts : LedgerRow TxType → Bool) : Prop :=
  ∀ a ∈ table.rows, accepts a → ∀ b ∈ table.rows, accepts b → a ≠ b → a.createdAt ≠ b.createdAt

private theorem history_lossless_iff [DecidableEq TxType] (table : LedgerTable TxType)
    (accepts : LedgerRow TxType → Bool) :
    Lossless (·.createdAt) table accepts (fun arrange limit cursor =>
        (listEntries table accepts arrange limit cursor).map (cut (·.id) limit)) ↔
      DistinctInstants table accepts := by
  rw [lossless_iff_agree earlier_strict (history_serves table accepts)]
  simp only [Agree, earlier, decide_eq_true_eq, and_self, DistinctInstants, ne_iff_lt_or_gt, or_comm]

/-! ### Disputed payrolls -/

private def lowerId (a b : Payroll) : Bool := decide (b.id < a.id)

private theorem lowerId_strict : Strict lowerId where
  irrefl := by simp [lowerId]
  trans := by
    intro a b c
    simp only [lowerId, decide_eq_true_eq]
    exact fun first second => lt_trans second first

private theorem payrolls_serves (table : PayrollTable) (countries : Option (List Nat))
    (arrange : Option Nat → List Payroll → List Payroll) (limit : Nat) :
    Serves (·.id) lowerId (table.rows.filter (Payroll.isDisputed countries)) limit arrange
      (getAdminDisputedPayrolls table countries arrange limit) := by
  intro cursor _
  cases cursor with
  | none => simp [getAdminDisputedPayrolls, Table.findMany, select]
  | some row =>
    simp [getAdminDisputedPayrolls, Table.findMany, select, List.filter_filter, lowerId,
      Bool.and_comm]

/-- The later of two requests has the larger id. -/
def SameOrder (a b : Payroll) : Prop :=
  (a.requestedAt < b.requestedAt ∧ a.id < b.id) ∨ (b.requestedAt < a.requestedAt ∧ b.id < a.id)

/-- The ids of the disputed payrolls are in the order of their requests. -/
def IdsOrdered (table : PayrollTable) (countries : Option (List Nat)) : Prop :=
  ∀ a ∈ table.rows, a.isDisputed countries → ∀ b ∈ table.rows, b.isDisputed countries → a ≠ b →
    SameOrder a b

private theorem payrolls_lossless_iff (table : PayrollTable) (countries : Option (List Nat)) :
    Lossless (·.requestedAt) table (Payroll.isDisputed countries)
        (getAdminDisputedPayrolls table countries) ↔
      IdsOrdered table countries := by
  rw [lossless_iff_agree lowerId_strict (payrolls_serves table countries)]
  simp only [Agree, lowerId, decide_eq_true_eq, IdsOrdered, SameOrder, or_comm]

/-! ### VIP purchases -/

/-- The order of `createdAt`, then id. -/
def purchaseKey (purchase : VipMembershipPurchase) : Time ×ₗ Nat :=
  toLex (purchase.createdAt, purchase.id)

private def lowerKey (a b : VipMembershipPurchase) : Bool :=
  b.createdAt < a.createdAt || (b.createdAt = a.createdAt && b.id < a.id)

private theorem lowerKey_iff (a b : VipMembershipPurchase) :
    lowerKey a b ↔ purchaseKey b < purchaseKey a := by
  simp [lowerKey, purchaseKey, Prod.Lex.toLex_lt_toLex]

private theorem lowerKey_strict : Strict lowerKey where
  irrefl := by simp [lowerKey]
  trans := by
    intro a b c
    simp only [lowerKey_iff]
    exact fun first second => lt_trans second first

private theorem purchases_serves (table : PurchaseTable) (userId : UserId)
    (arrange : Option Nat → List VipMembershipPurchase → List VipMembershipPurchase)
    (limit : Nat) :
    Serves (·.id) lowerKey (table.rows.filter (·.userId = userId)) limit arrange
      (getRecentPurchases table userId arrange limit) := by
  intro cursor inside
  cases cursor with
  | none => simp [getRecentPurchases, Table.findMany, select]
  | some row =>
    obtain ⟨member, owned⟩ := List.mem_filter.mp (inside row rfl)
    have found : table.rows.find?
        (fun purchase => purchase.id = row.id && purchase.userId = userId) = some row :=
      table.find_eq member (by simpa using owned) (by simp +contextual)
    simp [getRecentPurchases, found, Table.findMany, select, List.filter_filter, lowerKey,
      Bool.and_comm]

private theorem purchases_lossless (table : PurchaseTable) (userId : UserId) :
    Lossless purchaseKey table (·.userId = userId) (getRecentPurchases table userId) := by
  rw [lossless_iff_agree lowerKey_strict (purchases_serves table userId)]
  intro a inA _ b inB _ differ
  simp only [Agree, lowerKey_iff, and_self]
  have keys : purchaseKey a ≠ purchaseKey b := by
    intro same
    have ids : a.id = b.id := congrArg (fun key => (ofLex key).2) same
    exact differ (List.inj_on_of_nodup_map table.unique inA inB ids)
  exact (lt_or_gt_of_ne keys).symm

/-! ### The histories -/

/-- The ledger histories are lossless exactly if no two of their rows share an instant, the list of
disputed payrolls exactly if ids and requests are in the same order, and the VIP purchases always. -/
theorem histories_lossless_iff (coins : LedgerTable CoinTxType) (coinFilter : CoinLedgerFilter)
    (points : LedgerTable PointTxType) (pointFilter : LedgerFilter PointTxType)
    (payrolls : PayrollTable) (countries : Option (List Nat)) (purchases : PurchaseTable)
    (userId : UserId) :
    (Lossless (·.createdAt) coins coinFilter.accepts (coinHistory coins coinFilter) ↔
      DistinctInstants coins coinFilter.accepts) ∧
    (Lossless (·.createdAt) points pointFilter.accepts (pointHistory points pointFilter) ↔
      DistinctInstants points pointFilter.accepts) ∧
    (Lossless (·.requestedAt) payrolls (Payroll.isDisputed countries)
        (getAdminDisputedPayrolls payrolls countries) ↔ IdsOrdered payrolls countries) ∧
    Lossless purchaseKey purchases (·.userId = userId) (getRecentPurchases purchases userId) :=
  ⟨history_lossless_iff coins _, history_lossless_iff points _,
    payrolls_lossless_iff payrolls countries, purchases_lossless purchases userId⟩

/-- What a lucky gift that wins writes in one transaction: the price and the reward. -/
def luckyGiftLedger : LedgerTable CoinTxType where
  rows := [
    { wallet := ⟨1, .coin⟩, direction := .debit, txType := .giftSend, amount := 100,
      balanceAfter := 900, idempotencyKey := .luckyDebit (.plain 1), id := 1, createdAt := 5 },
    { wallet := ⟨1, .coin⟩, direction := .credit, txType := .platformReward, amount := 50,
      balanceAfter := 950, idempotencyKey := .luckyReward (.plain 1), id := 2, createdAt := 5 }]
  unique := by decide

/-- Two disputed payouts; the later request drew the smaller id. -/
def disputedPayouts : PayrollTable where
  rows := [
    { id := 2, userId := 1, amountPoints := 1000, status := .disputed, platformFeePoints := none,
      agentRewardPoints := none, serviceFeePoints := none, methodType := .epay,
      payoutHandler := .platform, withdrawalVersion := 2, requestedAt := 5, country := none,
      payrollAssignments := [] },
    { id := 1, userId := 2, amountPoints := 1000, status := .disputed, platformFeePoints := none,
      agentRewardPoints := none, serviceFeePoints := none, methodType := .epay,
      payoutHandler := .platform, withdrawalVersion := 2, requestedAt := 6, country := none,
      payrollAssignments := [] }]
  unique := by decide

theorem not_histories_lossless :
    ¬Lossless (·.createdAt) luckyGiftLedger
        (CoinLedgerFilter.accepts { wallet := ⟨1, .coin⟩ })
        (coinHistory luckyGiftLedger { wallet := ⟨1, .coin⟩ }) ∧
      ¬Lossless (·.requestedAt) disputedPayouts (Payroll.isDisputed none)
        (getAdminDisputedPayrolls disputedPayouts none) := by
  constructor
  · intro lossless
    have distinct := (history_lossless_iff luckyGiftLedger _).mp lossless
    exact distinct _ List.mem_cons_self (by decide) _ (List.mem_cons_of_mem _ List.mem_cons_self)
      (by decide) (by decide) rfl
  · intro lossless
    have ordered := (payrolls_lossless_iff disputedPayouts none).mp lossless
    have pair := ordered _ List.mem_cons_self (by decide) _
      (List.mem_cons_of_mem _ List.mem_cons_self) (by decide) (by decide)
    simp [SameOrder] at pair

end OlNode.History
