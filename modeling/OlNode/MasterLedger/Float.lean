import OlNode.MasterLedger.Model
import Mathlib.Data.List.MinMax

/-!
# The float and its identity check

`computeFloatAt` reads the last balance of every wallet and compares their sum with the credits
less the debits of the ledgers. A row that carries the balance forward, as WITHDRAWAL_ESCROW does,
moves no balance, but it counts in the net: on a ledger whose chain is intact the check is off by
exactly the escrow rows.
-/
namespace OlNode.MasterLedger

open History Totals

/-! ### The balance chain -/

def pointLedgerBalanceCarriesForward (txType : PointTxType) : Bool := txType = .withdrawalEscrow

def expectedBalanceAfter (balanceBefore : Int) (direction : LedgerDirection) (amount : Int)
    (balanceCarriesForward : Bool) : Int :=
  if balanceCarriesForward then balanceBefore
  else match direction with
    | .credit => balanceBefore + amount
    | .debit => balanceBefore - amount

structure BalanceChainCheck where
  ok : Bool
  balanceBefore : Int
  expectedBalanceAfter : Int
  actualBalanceAfter : Int
  balanceCarriesForward : Bool

def checkLedgerBalanceChain (balanceBefore : Int) (direction : LedgerDirection) (amount : Int)
    (balanceAfter : Int) (balanceCarriesForward : Bool) : BalanceChainCheck :=
  let expected := expectedBalanceAfter balanceBefore direction amount balanceCarriesForward
  { ok := expected = balanceAfter, balanceBefore, expectedBalanceAfter := expected,
    actualBalanceAfter := balanceAfter, balanceCarriesForward }

section Chain

variable {TxType : Type} [DecidableEq TxType]

/-- Every row of the history, oldest first, passes the check against the one before. -/
def chainOk (carries : TxType → Bool) (balanceBefore : Int) : List (Leg TxType) → Bool
  | [] => true
  | e :: history =>
    (checkLedgerBalanceChain balanceBefore e.direction e.amount e.balanceAfter (carries e.txType)).ok
      && chainOk carries e.balanceAfter history

/-- The order of `ORDER BY created_at, id`. -/
def sortKey (e : Leg TxType) : Time ×ₗ Nat := toLex (e.createdAt, e.id)

/-- The rows of the wallet pass the check in the order the queries read them in. -/
def WalletChained (carries : TxType → Bool) (legs : List (Leg TxType)) (wallet : Wallet) : Prop :=
  ∃ history, history.Perm (legs.filter (·.wallet = wallet)) ∧
    history.Pairwise (fun e next => sortKey e < sortKey next) ∧ chainOk carries 0 history

end Chain

structure LedgerDb.Chained (db : LedgerDb) : Prop where
  coin : ∀ wallet, WalletChained (fun _ => false) db.coin wallet
  point : ∀ wallet, WalletChained pointLedgerBalanceCarriesForward db.point wallet

/-! ### The float -/

structure WalletBalRow where
  currency : WalletCurrencyType
  isAgent : Bool
  userId : UserId
  balance : Int

section Tails

variable {TxType : Type}

/-- `ORDER BY created_at DESC, id DESC LIMIT 1`. -/
def latest (legs : List (Leg TxType)) : Option (Leg TxType) :=
  legs.argmax sortKey

/-- The lateral join: the tail balance of a wallet before an instant. -/
def balanceAt (legs : List (Leg TxType)) (instant : Time) (wallet : Wallet) : Int :=
  ((latest (legs.filter fun e => e.wallet = wallet && decide (e.createdAt < instant))).map
    (·.balanceAfter)).getD 0

end Tails

def loadWalletBalancesAt (db : LedgerDb) (instant : Time) : List WalletBalRow :=
  let row (balance : Wallet → Int) (wallet : Wallet) : WalletBalRow :=
    { currency := wallet.currencyType, isAgent := db.isAgent wallet.userId,
      userId := wallet.userId, balance := balance wallet }
  (db.wallets.filter (·.currencyType ≠ .point)).map (row (balanceAt db.coin instant)) ++
    (db.wallets.filter (·.currencyType = .point)).map (row (balanceAt db.point instant))

/-- Credits less debits of the groups of one ledger. -/
def netOf {TxType : Type} (rows : List (LedgerTotalsRow TxType)) : Int :=
  (rows.map fun r => if r.direction = .credit then r.units else -r.units).sum

/-- All-time credits less debits of both ledgers before an instant. -/
def ledgerNetAt (db : LedgerDb) (instant : Time) (house : HouseAccounts) : Int :=
  netOf (loadLedgerTotals house { stop := some instant } db.coin) +
    netOf (loadLedgerTotals house { stop := some instant } db.point)

structure FloatBuckets where
  customerCoins : Int := 0
  customerTradingCoins : Int := 0
  customerHostPoints : Int := 0
  customerAgencyPoints : Int := 0
  customerDiamonds : Int := 0
  customerTotal : Int := 0
  houseCoins : Int := 0
  houseTradingCoins : Int := 0
  housePoints : Int := 0
  houseDiamonds : Int := 0
  houseTotal : Int := 0
  ledgerNet : Int := 0
  identityDelta : Int := 0

/-- One turn of the loop over the wallets. -/
def FloatBuckets.add (house : HouseAccounts) (b : FloatBuckets) (r : WalletBalRow) : FloatBuckets :=
  let isHouse := house.contains r.userId
  match r.currency with
  | .coin =>
    if isHouse then { b with houseCoins := b.houseCoins + r.balance }
    else { b with customerCoins := b.customerCoins + r.balance }
  | .tradingCoin =>
    if isHouse then { b with houseTradingCoins := b.houseTradingCoins + r.balance }
    else { b with customerTradingCoins := b.customerTradingCoins + r.balance }
  | .diamond =>
    if isHouse then { b with houseDiamonds := b.houseDiamonds + r.balance }
    else { b with customerDiamonds := b.customerDiamonds + r.balance }
  | .point =>
    if isHouse then { b with housePoints := b.housePoints + r.balance }
    else if r.isAgent then { b with customerAgencyPoints := b.customerAgencyPoints + r.balance }
    else { b with customerHostPoints := b.customerHostPoints + r.balance }

def computeFloatAt (db : LedgerDb) (instant : Time) (house : HouseAccounts) : FloatBuckets :=
  let ledgerNet := ledgerNetAt db instant house
  let b := (loadWalletBalancesAt db instant).foldl (FloatBuckets.add house) { ledgerNet }
  let customerTotal := b.customerCoins + b.customerTradingCoins + b.customerHostPoints +
    b.customerAgencyPoints + b.customerDiamonds
  let houseTotal := b.houseCoins + b.houseTradingCoins + b.housePoints + b.houseDiamonds
  { b with customerTotal, houseTotal, identityDelta := customerTotal + houseTotal - b.ledgerNet }

/-! ### What the tails add up to -/

section Tails

variable {TxType : Type} {carries : TxType → Bool}

/-- What a row adds to the running balance. -/
def moved (carries : TxType → Bool) (e : Leg TxType) : Int :=
  if carries e.txType then 0 else e.signed

theorem expectedBalanceAfter_eq (balance : Int) (e : Leg TxType) :
    expectedBalanceAfter balance e.direction e.amount (carries e.txType) =
      balance + moved carries e := by
  unfold expectedBalanceAfter moved Leg.signed
  split
  · omega
  · cases e.direction
    · rfl
    · exact sub_eq_add_neg _ _

private theorem createdAt_le {e next : Leg TxType} (before : sortKey e < sortKey next) :
    e.createdAt ≤ next.createdAt := by
  rcases Prod.Lex.toLex_lt_toLex.mp before with earlier | ⟨same, -⟩
  · exact le_of_lt earlier
  · exact le_of_eq same

theorem latest_eq_getLast? {history legs : List (Leg TxType)} (same : history.Perm legs)
    (ordered : history.Pairwise fun e next => sortKey e < sortKey next) :
    latest legs = history.getLast? := by
  rcases List.eq_nil_or_concat history with rfl | ⟨before, last, rfl⟩
  · rw [List.nil_perm.mp same]
    rfl
  · rw [List.concat_eq_append] at *
    have member : last ∈ legs := same.mem_iff.mp (by simp)
    have order := List.pairwise_append.mp ordered
    rw [List.getLast?_concat]
    cases found : latest legs with
    | none =>
      rw [latest, List.argmax_eq_none] at found
      simp [found] at member
    | some e =>
      have greatest := List.le_of_mem_argmax member found
      rcases List.mem_append.mp (same.mem_iff.mpr (List.argmax_mem found)) with early | own
      · have later : sortKey e < sortKey last := order.2.2 e early last (by simp)
        exact absurd greatest (not_le.mpr later)
      · rw [List.mem_singleton.mp own]

private theorem chain_tail (instant : Time) (history : List (Leg TxType))
    (ordered : history.Pairwise fun e next => sortKey e < sortKey next) (balance : Int)
    (chained : chainOk carries balance history) :
    (((history.filter fun e => decide (e.createdAt < instant)).getLast?).map
      (·.balanceAfter)).getD balance =
      balance + sumWhere (fun e => decide (e.createdAt < instant)) (moved carries) history := by
  induction history generalizing balance with
  | nil => simp
  | cons e history ih =>
    obtain ⟨later, ordered⟩ := List.pairwise_cons.mp ordered
    rw [chainOk, Bool.and_eq_true] at chained
    have after : e.balanceAfter = balance + moved carries e := by
      rw [← expectedBalanceAfter_eq]
      exact (of_decide_eq_true chained.1).symm
    by_cases early : e.createdAt < instant
    · have rest := ih ordered e.balanceAfter chained.2
      rw [List.filter_cons_of_pos (by simpa using early), sumWhere_cons, if_pos (by simpa using early),
        ← add_assoc, ← after, ← rest, List.getLast?_cons]
      cases (history.filter fun e => decide (e.createdAt < instant)).getLast? <;> rfl
    · -- From the first row that is too late on, none is taken.
      have none : ∀ row ∈ e :: history, ¬row.createdAt < instant := by
        intro row member
        rcases List.mem_cons.mp member with rfl | member
        · exact early
        · exact not_lt.mpr (le_trans (not_lt.mp early) (createdAt_le (later row member)))
      have empty : (e :: history).filter (fun e => decide (e.createdAt < instant)) = [] := by
        simpa [List.filter_eq_nil_iff] using none
      simp only [sumWhere, empty]
      simp

private theorem balanceAt_eq [DecidableEq TxType] {legs : List (Leg TxType)} {wallet : Wallet}
    (chained : WalletChained carries legs wallet) (instant : Time) :
    balanceAt legs instant wallet = sumWhere (fun e => decide (e.wallet = wallet)) (moved carries)
      (legs.filter fun e => decide (e.createdAt < instant)) := by
  obtain ⟨history, same, ordered, ok⟩ := chained
  have early : (history.filter fun e => decide (e.createdAt < instant)).Perm
      (legs.filter fun e => e.wallet = wallet && decide (e.createdAt < instant)) := by
    have filtered := same.filter fun e => decide (e.createdAt < instant)
    rw [List.filter_filter] at filtered
    simpa only [Bool.and_comm] using filtered
  have tail := chain_tail instant history ordered 0 ok
  rw [← latest_eq_getLast? early (ordered.filter _)] at tail
  rw [balanceAt, tail, zero_add, sumWhere_perm same, sumWhere_filter, sumWhere_filter]
  simp only [Bool.and_comm]

/-- The tails of all wallets that hold the rows, weighted by the wallet, add up to what the rows
moved. -/
private theorem sum_balanceAt [DecidableEq TxType] {legs : List (Leg TxType)} {wallets : List Wallet}
    (distinct : wallets.Nodup) (covers : ∀ e ∈ legs, e.wallet ∈ wallets)
    (chained : ∀ wallet, WalletChained carries legs wallet) (weight : Wallet → Int)
    (instant : Time) :
    (wallets.map fun wallet => weight wallet * balanceAt legs instant wallet).sum =
      sumWhere (fun e => decide (e.createdAt < instant))
        (fun e => weight e.wallet * moved carries e) legs := by
  have keyed := sum_keys (fun e : Leg TxType => e.wallet) weight (moved carries) wallets
    distinct (legs.filter fun e => decide (e.createdAt < instant))
    fun e member => covers e (List.mem_of_mem_filter member)
  have each : (wallets.map fun wallet => weight wallet * balanceAt legs instant wallet) =
      wallets.map fun wallet => weight wallet *
        sumWhere (fun e => decide (e.wallet = wallet)) (moved carries)
          (legs.filter fun e => decide (e.createdAt < instant)) :=
    List.map_congr_left fun wallet _ => by rw [balanceAt_eq (chained wallet) instant]
  rw [each, keyed, sumWhere]

private theorem netOf_eq [DecidableEq TxType] (house : HouseAccounts) (instant : Time)
    (legs : List (Leg TxType)) :
    netOf (loadLedgerTotals house { stop := some instant } legs) =
      sumWhere (fun e => decide (e.createdAt < instant)) Leg.signed legs := by
  have grouped := sum_groups (totalsKey house)
    (fun k => if k.direction = .credit then 1 else -1) (·.amount)
    (legs.filter fun e => decide (e.createdAt < instant))
  have signs : netOf (loadLedgerTotals house { stop := some instant } legs) =
      ((loadLedgerTotals house { stop := some instant } legs).map fun r =>
        (if r.direction = .credit then 1 else -1) * r.units).sum := by
    unfold netOf
    congr 1
    refine List.map_congr_left fun r _ => ?_
    cases r.direction <;> simp
  have rows : ∀ e : Leg TxType, e.signed = (if e.direction = .credit then 1 else -1) * e.amount := by
    intro e
    unfold Leg.signed
    cases e.direction <;> simp
  rw [signs, loadLedgerTotals, List.map_map]
  simp only [Function.comp_def, Window.contains, Option.all_none, Option.all_some, Bool.true_and]
  rw [grouped, sumWhere]
  exact congrArg List.sum (List.map_congr_left fun e _ => (rows e).symm)

end Tails

/-! ### The identity -/

/-- The sum of all buckets the loop adds to. -/
private def FloatBuckets.sum (b : FloatBuckets) : Int :=
  b.customerCoins + b.customerTradingCoins + b.customerHostPoints + b.customerAgencyPoints +
    b.customerDiamonds + (b.houseCoins + b.houseTradingCoins + b.housePoints + b.houseDiamonds)

private theorem sum_add (house : HouseAccounts) (b : FloatBuckets) (r : WalletBalRow) :
    (b.add house r).sum = b.sum + r.balance ∧ (b.add house r).ledgerNet = b.ledgerNet := by
  unfold FloatBuckets.add FloatBuckets.sum
  cases r.currency <;> dsimp only <;> split_ifs <;> constructor <;> first | rfl | (dsimp only; omega)

private theorem sum_foldl (house : HouseAccounts) (rows : List WalletBalRow) (b : FloatBuckets) :
    (rows.foldl (FloatBuckets.add house) b).sum = b.sum + (rows.map (·.balance)).sum ∧
      (rows.foldl (FloatBuckets.add house) b).ledgerNet = b.ledgerNet := by
  induction rows generalizing b with
  | nil => simp
  | cons r rows ih =>
    obtain ⟨sums, nets⟩ := ih (b.add house r)
    obtain ⟨own, kept⟩ := sum_add house b r
    constructor
    · rw [List.foldl_cons, sums, own, List.map_cons, List.sum_cons, add_assoc]
    · rw [List.foldl_cons, nets, kept]

/-- The signed escrow rows before an instant. -/
def escrowNetAt (db : LedgerDb) (instant : Time) : Int :=
  sumWhere (fun e => decide (e.createdAt < instant) && pointLedgerBalanceCarriesForward e.txType)
    Leg.signed db.point

private theorem sumWhere_moved {TxType : Type} (carries : TxType → Bool)
    (early : Leg TxType → Bool) (legs : List (Leg TxType)) :
    sumWhere early (moved carries) legs = sumWhere early Leg.signed legs -
      sumWhere (fun e => early e && carries e.txType) Leg.signed legs := by
  induction legs with
  | nil => simp
  | cons e legs ih =>
    simp only [sumWhere_cons, ih, moved]
    by_cases taken : early e <;> by_cases carried : carries e.txType
    all_goals simp [taken, carried]
    all_goals omega

private theorem balances_eq {db : LedgerDb} (chained : db.Chained) (weight : UserId → Int)
    (instant : Time) :
    ((loadWalletBalancesAt db instant).map fun r => weight r.userId * r.balance).sum =
      sumWhere (fun e => decide (e.createdAt < instant))
          (fun e => weight e.wallet.userId * moved (fun _ => false) e) db.coin +
        sumWhere (fun e => decide (e.createdAt < instant))
          (fun e => weight e.wallet.userId * moved pointLedgerBalanceCarriesForward e)
          db.point := by
  have coins := sum_balanceAt (db.wallets_nodup.filter (·.currencyType ≠ .point))
    (fun e member => List.mem_filter.mpr ⟨(db.coin_wallet e member).1,
      by simpa using (db.coin_wallet e member).2⟩) chained.coin (fun w => weight w.userId) instant
  have points := sum_balanceAt (db.wallets_nodup.filter (·.currencyType = .point))
    (fun e member => List.mem_filter.mpr ⟨(db.point_wallet e member).1,
      by simpa using (db.point_wallet e member).2⟩) chained.point (fun w => weight w.userId) instant
  rw [← coins, ← points, loadWalletBalancesAt, List.map_append, List.sum_append, List.map_map,
    List.map_map]
  rfl

private theorem customers_foldl (house : HouseAccounts) (rows : List WalletBalRow)
    (b : FloatBuckets) :
    let after := rows.foldl (FloatBuckets.add house) b
    after.customerCoins + after.customerTradingCoins + after.customerHostPoints +
        after.customerAgencyPoints + after.customerDiamonds =
      b.customerCoins + b.customerTradingCoins + b.customerHostPoints + b.customerAgencyPoints +
        b.customerDiamonds +
        (rows.map fun r => (if house.contains r.userId then 0 else 1) * r.balance).sum := by
  induction rows generalizing b with
  | nil => simp
  | cons r rows ih =>
    have rest := ih (b.add house r)
    have own : (b.add house r).customerCoins + (b.add house r).customerTradingCoins +
        (b.add house r).customerHostPoints + (b.add house r).customerAgencyPoints +
        (b.add house r).customerDiamonds =
      b.customerCoins + b.customerTradingCoins + b.customerHostPoints + b.customerAgencyPoints +
        b.customerDiamonds + (if house.contains r.userId then 0 else 1) * r.balance := by
      unfold FloatBuckets.add
      cases r.currency <;> dsimp only <;> split_ifs <;> dsimp only <;> omega
    dsimp only at rest ⊢
    rw [List.foldl_cons, rest, own, List.map_cons, List.sum_cons]
    omega

/-- On an intact ledger the customers' float is what the rows of customer wallets moved. -/
theorem customerTotal_eq {db : LedgerDb} (chained : db.Chained) (instant : Time)
    (house : HouseAccounts) :
    (computeFloatAt db instant house).customerTotal =
      sumWhere (fun e => decide (e.createdAt < instant)) (fun e =>
          (if house.contains e.wallet.userId then 0 else 1) * moved (fun _ => false) e) db.coin +
        sumWhere (fun e => decide (e.createdAt < instant)) (fun e =>
          (if house.contains e.wallet.userId then 0 else 1) *
            moved pointLedgerBalanceCarriesForward e) db.point := by
  have loop := customers_foldl house (loadWalletBalancesAt db instant)
    { ledgerNet := ledgerNetAt db instant house }
  have balances := balances_eq chained (fun u => if house.contains u then 0 else 1) instant
  dsimp only at loop
  unfold computeFloatAt
  dsimp only
  rw [loop, ← balances]
  omega

theorem identityDelta_eq {db : LedgerDb} (chained : db.Chained) (instant : Time)
    (house : HouseAccounts) :
    (computeFloatAt db instant house).identityDelta = -escrowNetAt db instant := by
  have loop := sum_foldl house (loadWalletBalancesAt db instant)
    { ledgerNet := ledgerNetAt db instant house }
  have balances : ((loadWalletBalancesAt db instant).map (·.balance)).sum =
      sumWhere (fun e => decide (e.createdAt < instant)) (moved fun _ => false) db.coin +
        sumWhere (fun e => decide (e.createdAt < instant))
          (moved pointLedgerBalanceCarriesForward) db.point := by
    simpa only [one_mul] using balances_eq chained (fun _ => 1) instant
  have net : ledgerNetAt db instant house =
      sumWhere (fun e => decide (e.createdAt < instant)) Leg.signed db.coin +
        sumWhere (fun e => decide (e.createdAt < instant)) Leg.signed db.point := by
    rw [ledgerNetAt, netOf_eq, netOf_eq]
  have delta : (computeFloatAt db instant house).identityDelta =
      ((loadWalletBalancesAt db instant).map (·.balance)).sum - ledgerNetAt db instant house := by
    have total := loop.1
    have kept := loop.2
    unfold computeFloatAt
    simp only [FloatBuckets.sum] at total
    dsimp only at kept ⊢
    omega
  have coinMoved := sumWhere_moved (fun _ => false) (fun e => decide (e.createdAt < instant)) db.coin
  have pointMoved := sumWhere_moved pointLedgerBalanceCarriesForward
    (fun e => decide (e.createdAt < instant)) db.point
  have noCarry : sumWhere (fun e : Leg CoinTxType => decide (e.createdAt < instant) && false)
      Leg.signed db.coin = 0 := by
    simp [sumWhere]
  unfold escrowNetAt
  omega

/-- On an intact ledger the identity check passes exactly if the escrow rows before the instant
net to nothing. -/
theorem identityDelta_eq_zero_iff {db : LedgerDb} (chained : db.Chained) (instant : Time)
    (house : HouseAccounts) :
    (computeFloatAt db instant house).identityDelta = 0 ↔ escrowNetAt db instant = 0 := by
  rw [identityDelta_eq chained]
  omega

/-- A host who earned 100 points and then asked for 50 of them. -/
def escrowedLedger : LedgerDb where
  isAgent := fun _ => false
  wallets := [⟨1, .point⟩]
  coin := []
  point := [
    { wallet := ⟨1, .point⟩, direction := .credit, txType := .giftReceive, amount := 100,
      balanceAfter := 100, idempotencyKey := .giftPoint 1, id := 1, createdAt := 1 },
    { wallet := ⟨1, .point⟩, direction := .debit, txType := .withdrawalEscrow, amount := 50,
      balanceAfter := 100, idempotencyKey := .withdrawalEscrow 1, id := 2, createdAt := 2 }]
  wallets_nodup := by decide
  coin_wallet := by decide
  point_wallet := by decide
  coin_pos := noLegs_pos _
  point_pos := by decide
  transfer_pos := noTransfers_pos

theorem escrowedLedger_chained : escrowedLedger.Chained := by
  constructor
  · intro wallet
    exact ⟨[], .refl _, .nil, rfl⟩
  · intro wallet
    by_cases own : wallet = ⟨1, .point⟩
    · subst own
      exact ⟨escrowedLedger.point, .refl _, by decide, by decide⟩
    · have none : escrowedLedger.point.filter (·.wallet = wallet) = [] := by
        simp [escrowedLedger, Ne.symm own]
      exact ⟨[], by rw [none], .nil, rfl⟩

theorem identityDelta_before_escrow :
    (computeFloatAt escrowedLedger 2 []).identityDelta = 0 :=
  (identityDelta_eq_zero_iff escrowedLedger_chained 2 []).mpr (by decide)

theorem identityDelta_after_escrow :
    escrowedLedger.Chained ∧ (computeFloatAt escrowedLedger 3 []).identityDelta = 50 :=
  ⟨escrowedLedger_chained, by decide⟩

end OlNode.MasterLedger
