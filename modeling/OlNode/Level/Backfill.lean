import OlNode.Ledger.Postings
import OlNode.Totals

/-!
# The backfill of levels

`runWalletLevelBackfillForUser` sets a level from the credits in the user's ledgers: coins for
WEALTH, points for LIVESTREAM. The wallet services count something else while they run: coins that
are debited with `applyWealthXp`, and points that are credited with `applyLivestreamLevel`. The two
agree exactly if the coins that were credited without being counted amount to the coins that were
debited and counted, and all points that were credited were counted and none taken back.

Which rows were counted is not in the tables; `Books` keeps it beside them.
-/
namespace OlNode.LevelBackfill

open ReadCommitted Totals

/-- Total and level as `getOrCreate` gives them. -/
def standing (db : MoneyDb) (userId : UserId) (levelType : LevelType) : WalletUserLevel :=
  (db.userLevel userId levelType).getD ⟨1, 0⟩

/-- `walletLevelService.applyDebit`. -/
def applyDebit (userId : UserId) (levelType : LevelType) (decrement : Int) : LedgerTx Unit := do
  Tx.lockRow (.userLevel userId levelType)
  let current ← Tx.select fun db => standing db userId levelType
  let thresholds ← Tx.select fun db => db.levelThresholds levelType
  Tx.when (0 < decrement) do
    let newCumulative := if decrement < current.cumulativeTotal
      then current.cumulativeTotal - decrement else 0
    Tx.update (.userLevel userId levelType) fun db =>
      db.setLevel userId levelType ⟨computeLevel newCumulative thresholds, newCumulative⟩

/-- The transaction of `pointWalletService.creditPoints`: it counts every row. -/
def creditPoints (now : Time) (userId : UserId) (amount : Int) (txType : PointTxType)
    (options : PointOptions) : LedgerTx Unit := do
  assertPositiveAmount amount
  let wallet : Wallet := ⟨userId, .point⟩
  lockForUpdate wallet
  let last ← latestPointBalance wallet
  let entry ← PointLedgerRepository.insert
    { wallet, direction := .credit, txType, amount, balanceAfter := last + amount,
      refId := options.refId, counterpartyId := options.counterpartyId,
      idempotencyKey := options.idempotencyKey }
  let _ ← applyCommission now userId entry.idempotencyKey amount txType
  let _ ← applyCredit userId .livestream amount

/-! ### The job -/

/-- `_sum: { amount: true }` over the CREDIT rows of a wallet. -/
def creditTotal {T : Type} (rows : List (LedgerEntry T)) (wallet : Wallet) : Int :=
  sumWhere (fun entry => entry.wallet = wallet && entry.direction = .credit) (·.amount) rows

/-- One half of the job; it does nothing for a user without the wallet. -/
def backfill (userId : UserId) (levelType : LevelType) (walletExists : Bool)
    (total : MoneyDb → Int) : Prog MoneyDb Lock LedgerError Unit :=
  if walletExists then do
    let cumulativeTotal ← Prog.select total
    let thresholds ← Prog.select (·.levelThresholds levelType)
    Prog.autocommit (.userLevel userId levelType) fun db =>
      db.setLevel userId levelType (standing db userId levelType)
    Prog.autocommit (.userLevel userId levelType) fun db =>
      db.setLevel userId levelType ⟨computeLevel cumulativeTotal thresholds, cumulativeTotal⟩
  else pure ()

def runWalletLevelBackfillForUser (walletExists : Wallet → Bool) (userId : UserId) :
    Prog MoneyDb Lock LedgerError Unit := do
  backfill userId .wealth (walletExists ⟨userId, .coin⟩) fun db =>
    creditTotal db.coinLedger ⟨userId, .coin⟩
  backfill userId .livestream (walletExists ⟨userId, .point⟩) fun db =>
    creditTotal db.pointLedger ⟨userId, .point⟩

/-! ### What the wallet services write -/

inductive Call where
  | coinDebit (userId : UserId) (amount : Int) (txType : CoinTxType) (options : CoinOptions)
  | coinCredit (userId : UserId) (amount : Int) (txType : CoinTxType) (options : CoinOptions)
  | pointCredit (now : Time) (userId : UserId) (amount : Int) (txType : PointTxType)
      (options : PointOptions)
  | creditPoints (now : Time) (userId : UserId) (amount : Int) (txType : PointTxType)
      (options : PointOptions)
  | pointDebit (userId : UserId) (amount : Int) (txType : PointTxType) (options : PointOptions)
  /-- A reversal takes back what a point credit has counted for. -/
  | revert (userId : UserId) (amount : Int)
  /-- A wallet may exist without rows. -/
  | openWallet (wallet : Wallet)
  /-- Agencies, freeze flags and the other tables become those of `other`. -/
  | configure (other : MoneyDb)

def Call.run : Call → LedgerTx Unit
  | .coinDebit userId amount txType options => do
    let _ ← CoinWallet.debit userId amount txType options
  | .coinCredit userId amount txType options => do
    let _ ← CoinWallet.credit userId amount txType options
  | .pointCredit now userId amount txType options => do
    let _ ← PointWallet.creditInTransaction now userId amount txType options
  | .creditPoints now userId amount txType options =>
    LevelBackfill.creditPoints now userId amount txType options
  | .pointDebit userId amount txType options => do
    let _ ← PointWallet.debit userId amount txType options
  | .revert userId amount => applyDebit userId .livestream amount
  | .openWallet _ => pure ()
  | .configure other => Tx.update .settings fun db =>
    { other with coinLedger := db.coinLedger, pointLedger := db.pointLedger,
                 userLevel := db.userLevel, levelThresholds := db.levelThresholds }

/-- Whether the row of the call itself is counted; the row of a commission never is. -/
def Call.counts : Call → Bool
  | .coinDebit _ _ _ options => options.applyWealth && options.currencyType = .coin
  | .coinCredit _ _ _ options => options.applyWealth && options.currencyType = .coin
  | .pointCredit _ _ _ txType options => options.applyLivestreamLevel &&
    txType ≠ .agentCommission && txType ≠ .agentPointTransfer
  | .creditPoints .. => true
  | _ => false

/-- The tables, with the rows that were counted and what was taken back. -/
structure Books where
  money : MoneyDb
  opened : List Wallet := []
  coins : List (CoinLedgerEntry × Bool) := []
  points : List (PointLedgerEntry × Bool) := []
  taken : UserId → Int := fun _ => 0

/-- The first of the new rows is that of the call. -/
def mark {ρ : Type} (counts : Bool) : List ρ → List (ρ × Bool)
  | [] => []
  | row :: rest => (row, counts) :: rest.map fun other => (other, false)

namespace Books

def walletExists (books : Books) (wallet : Wallet) : Bool :=
  wallet ∈ books.opened || books.money.coinLedger.any (·.wallet = wallet) ||
    books.money.pointLedger.any (·.wallet = wallet)

def opens (books : Books) : Call → List Wallet
  | .openWallet wallet => books.opened ++ [wallet]
  | _ => books.opened

def takes (books : Books) (money : MoneyDb) : Call → UserId → Int
  | .revert userId _ => Function.update books.taken userId (books.taken userId +
      ((standing books.money userId .livestream).cumulativeTotal -
        (standing money userId .livestream).cumulativeTotal))
  | _ => books.taken

def book (books : Books) (call : Call) (money : MoneyDb) : Books where
  money
  opened := books.opens call
  coins := books.coins ++
    mark call.counts (money.coinLedger.drop books.money.coinLedger.length)
  points := books.points ++
    mark call.counts (money.pointLedger.drop books.money.pointLedger.length)
  taken := books.takes money call

def step (books : Books) (call : Call) : Books :=
  match call.run.eval books.money with
  | .error _ => books
  | .ok (_, money) => books.book call money

def run (books : Books) (calls : List Call) : Books := calls.foldl step books

def start (db : MoneyDb) : Books where
  money := { db with coinLedger := [], pointLedger := [], userLevel := fun _ _ => none }

end Books

/-- The job leaves what the calls have accumulated. -/
def Agrees (books : Books) (userId : UserId) : Prop :=
  ∀ levelType, standing ((runWalletLevelBackfillForUser books.walletExists userId).call
    books.money).2 userId levelType = standing books.money userId levelType

/-! ### What a call has booked -/

section Calls

variable {s t u : MoneyDb} {userId : UserId} {levelType : LevelType}

def total (db : MoneyDb) (userId : UserId) (levelType : LevelType) : Int :=
  (standing db userId levelType).cumulativeTotal

/-- The row of a level after its total has changed by `xp`. -/
def levelled (db : MoneyDb) (userId : UserId) (levelType : LevelType) (xp : Int) :
    WalletUserLevel :=
  ⟨computeLevel (total db userId levelType + xp) (db.levelThresholds levelType),
    total db userId levelType + xp⟩

/-- The rows from `s` to `t`, and what was counted for each level. -/
structure Booked (s t : MoneyDb) (coins : List CoinLedgerEntry) (points : List PointLedgerEntry)
    (xp : UserId → LevelType → Int) : Prop where
  coinLedger : t.coinLedger = s.coinLedger ++ coins
  pointLedger : t.pointLedger = s.pointLedger ++ points
  positiveCoins : ∀ entry ∈ coins, 0 < entry.amount
  positivePoints : ∀ entry ∈ points, 0 < entry.amount
  thresholds : t.levelThresholds = s.levelThresholds
  levels : ∀ userId levelType,
    (t.userLevel userId levelType = s.userLevel userId levelType ∧ xp userId levelType = 0) ∨
      t.userLevel userId levelType = some (levelled s userId levelType (xp userId levelType))

theorem Booked.same (coins : t.coinLedger = s.coinLedger) (points : t.pointLedger = s.pointLedger)
    (levels : t.userLevel = s.userLevel) (thresholds : t.levelThresholds = s.levelThresholds) :
    Booked s t [] [] fun _ _ => 0 where
  coinLedger := by rw [coins, List.append_nil]
  pointLedger := by rw [points, List.append_nil]
  positiveCoins := by simp
  positivePoints := by simp
  thresholds := thresholds
  levels _ _ := .inl ⟨by rw [levels], rfl⟩

theorem Booked.addCoin {entry : CoinLedgerEntry} (positive : 0 < entry.amount) :
    Booked s (s.addCoin entry) [entry] [] fun _ _ => 0 where
  coinLedger := rfl
  pointLedger := (List.append_nil _).symm
  positiveCoins := by simpa using positive
  positivePoints := by simp
  thresholds := rfl
  levels _ _ := .inl ⟨rfl, rfl⟩

theorem Booked.addPoint {entry : PointLedgerEntry} (positive : 0 < entry.amount) :
    Booked s (s.addPoint entry) [] [entry] fun _ _ => 0 where
  coinLedger := (List.append_nil _).symm
  pointLedger := rfl
  positiveCoins := by simp
  positivePoints := by simpa using positive
  thresholds := rfl
  levels _ _ := .inl ⟨rfl, rfl⟩

/-- `amount` for one level and nothing for the others. -/
def only (userId : UserId) (levelType : LevelType) (amount : Int) : UserId → LevelType → Int :=
  fun user type => if user = userId ∧ type = levelType then amount else 0

theorem Booked.setLevel (s : MoneyDb) (userId : UserId) (levelType : LevelType) (amount : Int) :
    Booked s (s.setLevel userId levelType (levelled s userId levelType amount)) [] []
      (only userId levelType amount) where
  coinLedger := (List.append_nil _).symm
  pointLedger := (List.append_nil _).symm
  positiveCoins := by simp
  positivePoints := by simp
  thresholds := rfl
  levels user type := by
    unfold MoneyDb.setLevel only
    dsimp only
    by_cases own : user = userId ∧ type = levelType
    · right
      rw [if_pos own, if_pos own, own.1, own.2]
    · left
      rw [if_neg own, if_neg own]
      exact ⟨rfl, rfl⟩

theorem Booked.total {coins : List CoinLedgerEntry} {points : List PointLedgerEntry}
    {xp : UserId → LevelType → Int} (booked : Booked s t coins points xp) (userId : UserId)
    (levelType : LevelType) :
    total t userId levelType = LevelBackfill.total s userId levelType + xp userId levelType := by
  unfold LevelBackfill.total standing
  rcases booked.levels userId levelType with ⟨same, zero⟩ | changed
  · rw [same, zero, add_zero]
  · rw [changed]
    rfl

theorem Booked.trans {coins coins' : List CoinLedgerEntry} {points points' : List PointLedgerEntry}
    {xp xp' : UserId → LevelType → Int} (first : Booked s t coins points xp)
    (second : Booked t u coins' points' xp') :
    Booked s u (coins ++ coins') (points ++ points')
      (fun userId levelType => xp userId levelType + xp' userId levelType) where
  coinLedger := by rw [second.coinLedger, first.coinLedger, List.append_assoc]
  pointLedger := by rw [second.pointLedger, first.pointLedger, List.append_assoc]
  positiveCoins := by
    intro entry member
    rcases List.mem_append.mp member with before | after
    · exact first.positiveCoins entry before
    · exact second.positiveCoins entry after
  positivePoints := by
    intro entry member
    rcases List.mem_append.mp member with before | after
    · exact first.positivePoints entry before
    · exact second.positivePoints entry after
  thresholds := second.thresholds.trans first.thresholds
  levels userId levelType := by
    rcases second.levels userId levelType with ⟨same, zero⟩ | changed
    · rw [same, zero, add_zero]
      exact first.levels userId levelType
    · right
      rw [changed, levelled, first.total, first.thresholds, add_assoc]
      rfl

private theorem eval_applyCredit (s : MoneyDb) (userId : UserId) (levelType : LevelType)
    (amount : Int) :
    ∃ result, (applyCredit userId levelType amount).eval s =
      .ok (result, s.setLevel userId levelType (levelled s userId levelType amount)) :=
  ⟨_, rfl⟩

variable {amount : Int}

private theorem applyCredit_booked {counts : Prop} [Decidable counts] {t : MoneyDb}
    (returned : (Tx.when counts do
      let _ ← applyCredit userId levelType amount
      pure ()).eval s = .ok ((), t)) :
    Booked s t [] [] (if counts then only userId levelType amount else fun _ _ => 0) := by
  rw [Tx.eval_when] at returned
  split at returned
  next holds =>
    obtain ⟨result, credited⟩ := eval_applyCredit s userId levelType amount
    rw [Tx.eval_bind_of_ok _ credited] at returned
    cases returned
    rw [if_pos holds]
    exact .setLevel s userId levelType amount
  next fails =>
    cases returned
    rw [if_neg fails]
    exact .same rfl rfl rfl rfl

/-- A coin call books its row once, together with what it counts for; a retry books nothing. -/
def CoinBooked (s t : MoneyDb) (userId : UserId) (amount : Int) (options : CoinOptions) : Prop :=
  Booked s t [] [] (fun _ _ => 0) ∨
    ∃ entry : CoinLedgerEntry, entry.wallet = ⟨userId, options.currencyType⟩ ∧
      entry.amount = amount ∧ Booked s t [entry] []
        (if options.applyWealth ∧ options.currencyType = .coin then only userId .wealth amount
          else fun _ _ => 0)

private theorem freeze_same {options : CoinOptions}
    (returned : (Tx.when options.freezeCheck
      (assertCoinDebitAllowedInTx userId options.currencyType)).eval s = .ok ((), t)) : t = s := by
  have nothing : (assertCoinDebitAllowedInTx userId options.currencyType).eval s = .ok ((), t) →
      t = s := by
    intro allowed
    obtain ⟨flags, u, read, checked⟩ := Tx.eval_bind_ok.mp allowed
    have same : u = s := by
      rw [getUserWalletFreezeFlags, Tx.eval_select_bind] at read
      cases found : s.freezeFlags userId with
      | none =>
        rw [found] at read
        cases read
      | some flags =>
        rw [found] at read
        cases read
        rfl
    unfold throwIfCoinFrozen at checked
    split at checked
    · cases checked
    · split at checked
      · cases checked
      · cases checked
        exact same
  rw [Tx.eval_when] at returned
  split at returned
  · exact nothing returned
  · cases returned
    rfl

variable {receipt : LedgerReceipt}

private theorem debit_booked {txType : CoinTxType} {options : CoinOptions}
    (returned : (CoinWallet.debit userId amount txType options).eval s = .ok (receipt, t)) :
    CoinBooked s t userId amount options := by
  obtain ⟨-, returned⟩ := Tx.eval_ensure_bind_ok.mp returned
  rw [CoinLedgerRepository.findByIdempotencyKey, Tx.eval_select_bind] at returned
  cases found : findByKey s.coinLedger options.idempotencyKey with
  | some row =>
    rw [found] at returned
    cases returned
    exact .inl (.same rfl rfl rfl rfl)
  | none =>
    rw [found] at returned
    simp only [lockForUpdate, Tx.eval_lockRow_bind] at returned
    obtain ⟨_, s1, checked, returned⟩ := Tx.eval_bind_ok.mp returned
    cases freeze_same checked
    rw [latestCoinBalance, Tx.eval_select_bind] at returned
    obtain ⟨-, returned⟩ := Tx.eval_ensure_bind_ok.mp returned
    obtain ⟨entry, s2, inserted, returned⟩ := Tx.eval_bind_ok.mp returned
    obtain ⟨positive, -, rfl, rfl⟩ := CoinLedgerRepository.insert_ok inserted
    obtain ⟨_, s3, levelled, returned⟩ := Tx.eval_bind_ok.mp returned
    cases returned
    have both := (Booked.addCoin positive).trans (applyCredit_booked levelled)
    simp only [zero_add, List.append_nil] at both
    exact .inr ⟨_, rfl, rfl, both⟩

private theorem credit_booked {txType : CoinTxType} {options : CoinOptions}
    (returned : (CoinWallet.credit userId amount txType options).eval s = .ok (receipt, t)) :
    CoinBooked s t userId amount options := by
  obtain ⟨-, returned⟩ := Tx.eval_ensure_bind_ok.mp returned
  rw [CoinLedgerRepository.findByIdempotencyKey, Tx.eval_select_bind] at returned
  cases found : findByKey s.coinLedger options.idempotencyKey with
  | some row =>
    rw [found] at returned
    cases returned
    exact .inl (.same rfl rfl rfl rfl)
  | none =>
    rw [found] at returned
    simp only [lockForUpdate, latestCoinBalance, Tx.eval_lockRow_bind,
      Tx.eval_select_bind] at returned
    obtain ⟨_, s1, levelled, returned⟩ := Tx.eval_bind_ok.mp returned
    obtain ⟨entry, s2, inserted, returned⟩ := Tx.eval_bind_ok.mp returned
    obtain ⟨positive, -, rfl, rfl⟩ := CoinLedgerRepository.insert_ok inserted
    cases returned
    have both := (applyCredit_booked levelled).trans (Booked.addCoin positive)
    simp only [add_zero, List.nil_append, List.append_nil] at both
    exact .inr ⟨_, rfl, rfl, both⟩

variable {txType : PointTxType} {options : PointOptions}

private theorem mark_same {hostEntry : LedgerKey} {fresh : Bool}
    (returned : (markCommissionProcessed hostEntry).eval s = .ok (fresh, t)) :
    Booked s t [] [] fun _ _ => 0 := by
  simp only [markCommissionProcessed, Tx.eval_lockRow_bind, Tx.eval_select_bind] at returned
  split at returned
  · cases returned
    exact .same rfl rfl rfl rfl
  · cases returned
    exact .same rfl rfl rfl rfl

private theorem applyCommission_booked {now : Time} {hostEntry : LedgerKey}
    {agencyUserId : Option UserId}
    (returned : (applyCommission now userId hostEntry amount txType).eval s =
      .ok (agencyUserId, t)) :
    ∃ points, Booked s t [] points fun _ _ => 0 := by
  have nothing : Booked s s [] [] fun _ _ => 0 := .same rfl rfl rfl rfl
  rw [applyCommission, resolveCommissionAgency, Tx.eval_select_bind] at returned
  split at returned
  · cases returned
    exact ⟨[], nothing⟩
  next agency resolved =>
    rw [Tx.eval_ite] at returned
    split at returned
    · rw [Tx.eval_select_bind, Tx.eval_ite] at returned
      split at returned
      · obtain ⟨fresh, s1, marked, returned⟩ := Tx.eval_bind_ok.mp returned
        cases returned
        exact ⟨[], mark_same marked⟩
      · rw [Tx.eval_select_bind] at returned
        split at returned
        · cases returned
        next cfg _ =>
          obtain ⟨fresh, s1, marked, returned⟩ := Tx.eval_bind_ok.mp returned
          rw [Tx.eval_ite] at returned
          split at returned
          · obtain ⟨_, s2, paid, returned⟩ := Tx.eval_bind_ok.mp returned
            cases returned
            generalize (amount * (if txType ∈ LIVE_COMMISSION_TX_TYPES then cfg.liveRateBp
              else cfg.matchChatRateBp)).tdiv 10000 = points at paid
            rw [Tx.eval_when] at paid
            split at paid
            · rw [PointLedgerRepository.findByIdempotencyKey, Tx.eval_select_bind] at paid
              obtain ⟨row, s3, credited, paid⟩ := Tx.eval_bind_ok.mp paid
              cases paid
              rcases PointWallet.creditRow_ok credited with
                ⟨-, -, rfl⟩ | ⟨-, positive, _, -, rfl⟩
              · exact ⟨[], mark_same marked⟩
              · exact ⟨_, (mark_same marked).trans (.addPoint positive)⟩
            · cases paid
              exact ⟨[], mark_same marked⟩
          · cases returned
            exact ⟨[], mark_same marked⟩
    · cases returned
      exact ⟨[], nothing⟩

/-- A point credit books its row first, and what it counts for. -/
def PointBooked (s t : MoneyDb) (userId : UserId) (amount : Int) (counts : Bool) : Prop :=
  Booked s t [] [] (fun _ _ => 0) ∨
    ∃ (entry : PointLedgerEntry) (rest : List PointLedgerEntry),
      entry.wallet = ⟨userId, .point⟩ ∧ entry.direction = .credit ∧ entry.amount = amount ∧
      Booked s t [] (entry :: rest)
        (if counts then only userId .livestream amount else fun _ _ => 0)

private theorem creditInTransaction_booked {now : Time}
    (returned : (PointWallet.creditInTransaction now userId amount txType options).eval s =
      .ok (receipt, t)) :
    PointBooked s t userId amount (options.applyLivestreamLevel &&
      txType ≠ .agentCommission && txType ≠ .agentPointTransfer) := by
  obtain ⟨⟨entry, inserted⟩, s1, credited, returned⟩ := Tx.eval_bind_ok.mp returned
  obtain ⟨_, s2, commission, returned⟩ := Tx.eval_bind_ok.mp returned
  obtain ⟨_, s3, levelled, returned⟩ := Tx.eval_bind_ok.mp returned
  cases returned
  rcases PointWallet.creditRow_ok credited with ⟨-, old, rfl⟩ | ⟨-, positive, balance, new, rfl⟩
  · left
    dsimp only at old
    rw [old] at commission levelled
    cases commission
    cases levelled
    exact .same rfl rfl rfl rfl
  · right
    cases new
    have paid : ∃ points, Booked (s.addPoint (pointRow .credit userId amount txType options
        balance)) s2 [] points fun _ _ => 0 := by
      rw [Tx.eval_when] at commission
      split at commission
      · obtain ⟨agency, s4, applied, done⟩ := Tx.eval_bind_ok.mp commission
        cases done
        exact applyCommission_booked applied
      · cases commission
        exact ⟨[], .same rfl rfl rfl rfl⟩
    obtain ⟨points, paid⟩ := paid
    have all := ((Booked.addPoint positive).trans paid).trans (applyCredit_booked levelled)
    simp only [true_and, zero_add, List.append_nil, List.singleton_append] at all
    refine ⟨pointRow .credit userId amount txType options balance, points, rfl, rfl, rfl, ?_⟩
    simpa only [Bool.and_eq_true, decide_eq_true_eq, and_assoc] using all

private theorem creditPoints_booked {now : Time}
    (returned : (creditPoints now userId amount txType options).eval s = .ok ((), t)) :
    PointBooked s t userId amount true := by
  obtain ⟨-, returned⟩ := Tx.eval_ensure_bind_ok.mp returned
  simp only [lockForUpdate, latestPointBalance, Tx.eval_lockRow_bind,
    Tx.eval_select_bind] at returned
  obtain ⟨entry, s1, inserted, returned⟩ := Tx.eval_bind_ok.mp returned
  obtain ⟨positive, -, rfl, rfl⟩ := PointLedgerRepository.insert_ok inserted
  obtain ⟨agency, s2, commission, returned⟩ := Tx.eval_bind_ok.mp returned
  obtain ⟨points, paid⟩ := applyCommission_booked commission
  cases returned
  have all := ((Booked.addPoint positive).trans paid).trans
    (Booked.setLevel _ userId .livestream amount)
  simp only [zero_add, List.append_nil, List.singleton_append] at all
  exact .inr ⟨_, points, rfl, rfl, rfl, all⟩

private theorem pointDebit_booked
    (returned : (PointWallet.debit userId amount txType options).eval s = .ok (receipt, t)) :
    ∃ points, Booked s t [] points fun _ _ => 0 := by
  rcases PointWallet.debit_ok returned with ⟨-, rfl⟩ | ⟨-, positive, _, rfl⟩
  · exact ⟨[], .same rfl rfl rfl rfl⟩
  · exact ⟨_, .addPoint positive⟩

private theorem applyDebit_booked
    (returned : (applyDebit userId .livestream amount).eval s = .ok ((), t)) :
    ∃ taken, Booked s t [] [] (only userId .livestream (-taken)) ∧
      (0 ≤ total s userId .livestream →
        0 ≤ taken ∧ taken ≤ total s userId .livestream) := by
  simp only [applyDebit, Tx.eval_lockRow_bind, Tx.eval_select_bind] at returned
  rw [Tx.eval_when] at returned
  split at returned
  next positive =>
    change Except.ok ((), s.setLevel userId .livestream
      ⟨computeLevel (if amount < total s userId .livestream then total s userId .livestream - amount
          else 0) (s.levelThresholds .livestream),
        if amount < total s userId .livestream then total s userId .livestream - amount
          else 0⟩) = _ at returned
    cases returned
    refine ⟨if amount < total s userId .livestream then amount else total s userId .livestream,
      ?_, fun nonneg => ?_⟩
    · have row := Booked.setLevel s userId .livestream
        (-(if amount < total s userId .livestream then amount else total s userId .livestream))
      have after : total s userId .livestream +
          -(if amount < total s userId .livestream then amount else total s userId .livestream) =
          if amount < total s userId .livestream then total s userId .livestream - amount
            else 0 := by
        split <;> omega
      rw [levelled, after] at row
      exact row
    · split <;> omega
  next =>
    cases returned
    refine ⟨0, ?_, fun nonneg => ⟨Int.le_refl 0, nonneg⟩⟩
    have none : only userId .livestream (-0) = fun _ _ => 0 := by
      funext user type
      simp [only]
    rw [none]
    exact .same rfl rfl rfl rfl

end Calls

/-! ### What was counted -/

def countedCoins (userId : UserId) (rows : List (CoinLedgerEntry × Bool)) : Int :=
  sumWhere (fun row => row.1.wallet = ⟨userId, .coin⟩ && row.2) (·.1.amount) rows

def countedPoints (userId : UserId) (rows : List (PointLedgerEntry × Bool)) : Int :=
  sumWhere (fun row => row.1.wallet = ⟨userId, .point⟩ && row.1.direction = .credit && row.2)
    (·.1.amount) rows

/-- The totals are what was counted and not taken back. -/
structure Kept (books : Books) : Prop where
  coins : books.coins.map Prod.fst = books.money.coinLedger
  points : books.points.map Prod.fst = books.money.pointLedger
  positiveCoins : ∀ row ∈ books.coins, 0 < row.1.amount
  positivePoints : ∀ row ∈ books.points, 0 < row.1.amount
  wealth : ∀ userId, total books.money userId .wealth = countedCoins userId books.coins
  livestream : ∀ userId, total books.money userId .livestream + books.taken userId =
    countedPoints userId books.points
  taken : ∀ userId, 0 ≤ books.taken userId
  nonneg : ∀ userId, 0 ≤ total books.money userId .livestream
  levels : ∀ userId levelType row, books.money.userLevel userId levelType = some row →
    row.currentLevel = computeLevel row.cumulativeTotal (books.money.levelThresholds levelType)

section Run

variable {books : Books} {call : Call} {money : MoneyDb} {coins : List CoinLedgerEntry}
  {points : List PointLedgerEntry} {xp : UserId → LevelType → Int}

private theorem mark_fst {ρ : Type} (counts : Bool) (rows : List ρ) :
    (mark counts rows).map Prod.fst = rows := by
  cases rows with
  | nil => rfl
  | cons row rest => simp [mark, Function.comp_def]

private theorem mark_positive {T : Type} {counts : Bool} {rows : List (LedgerEntry T)}
    (positive : ∀ entry ∈ rows, 0 < entry.amount) :
    ∀ row ∈ mark counts rows, 0 < row.1.amount := by
  intro row member
  have stored : row.1 ∈ (mark counts rows).map Prod.fst := List.mem_map_of_mem member
  rw [mark_fst] at stored
  exact positive row.1 stored

private theorem Kept.book (kept : Kept books) (booked : Booked books.money money coins points xp)
    (wealth : ∀ userId, xp userId .wealth = countedCoins userId (mark call.counts coins))
    (livestream : ∀ userId, xp userId .livestream + books.takes money call userId =
      countedPoints userId (mark call.counts points) + books.taken userId)
    (taken : ∀ userId, 0 ≤ books.takes money call userId)
    (nonneg : ∀ userId, 0 ≤ total money userId .livestream) : Kept (books.book call money) := by
  have newCoins : money.coinLedger.drop books.money.coinLedger.length = coins := by
    rw [booked.coinLedger, List.drop_left]
  have newPoints : money.pointLedger.drop books.money.pointLedger.length = points := by
    rw [booked.pointLedger, List.drop_left]
  unfold Books.book
  rw [newCoins, newPoints]
  refine ⟨?_, ?_, ?_, ?_, fun userId => ?_, fun userId => ?_, taken, nonneg, ?_⟩
  · dsimp only
    rw [List.map_append, mark_fst, kept.coins, booked.coinLedger]
  · dsimp only
    rw [List.map_append, mark_fst, kept.points, booked.pointLedger]
  · intro row member
    rcases List.mem_append.mp member with old | new
    · exact kept.positiveCoins row old
    · exact mark_positive booked.positiveCoins row new
  · intro row member
    rcases List.mem_append.mp member with old | new
    · exact kept.positivePoints row old
    · exact mark_positive booked.positivePoints row new
  · dsimp only
    rw [booked.total, kept.wealth, wealth, countedCoins, countedCoins, countedCoins,
      sumWhere_append]
  · have before := kept.livestream userId
    have change := livestream userId
    dsimp only
    rw [booked.total, countedPoints, sumWhere_append]
    unfold countedPoints at before change
    omega
  · intro userId levelType row found
    dsimp only at found ⊢
    rw [booked.thresholds]
    rcases booked.levels userId levelType with ⟨same, -⟩ | changed
    · exact kept.levels userId levelType row (same ▸ found)
    · rw [changed] at found
      cases found
      rfl

private theorem Kept.book_quiet (kept : Kept books)
    (booked : Booked books.money money coins points xp)
    (quiet : books.takes money call = books.taken)
    (wealth : ∀ userId, xp userId .wealth = countedCoins userId (mark call.counts coins))
    (livestream : ∀ userId, xp userId .livestream =
      countedPoints userId (mark call.counts points)) : Kept (books.book call money) := by
  refine kept.book booked wealth (fun userId => ?_) (fun userId => ?_) fun userId => ?_
  · rw [quiet, livestream]
  · rw [quiet]
    exact kept.taken userId
  · have gained : 0 ≤ countedPoints userId (mark call.counts points) :=
      sumWhere_nonneg fun row member => Int.le_of_lt (mark_positive booked.positivePoints row member)
    have before := kept.nonneg userId
    rw [booked.total, livestream]
    omega

private theorem countedCoins_own (userId other : UserId) {entry : CoinLedgerEntry}
    {options : CoinOptions} (wallet : entry.wallet = ⟨userId, options.currencyType⟩) :
    (if options.applyWealth ∧ options.currencyType = .coin then only userId .wealth entry.amount
      else fun _ _ => 0) other .wealth = countedCoins other
        (mark (options.applyWealth && options.currencyType = .coin) [entry]) := by
  by_cases counts : options.applyWealth ∧ options.currencyType = .coin
  · by_cases own : other = userId
    · simp [counts, own, only, countedCoins, mark, wallet]
    · simp [counts, own, Ne.symm own, only, countedCoins, mark, wallet]
  · have uncounted : (options.applyWealth && options.currencyType = .coin) = false := by
      simpa using counts
    rw [if_neg counts, uncounted]
    simp [countedCoins, mark]

private theorem Kept.coin (kept : Kept books) {userId : UserId} {amount : Int}
    {options : CoinOptions} (booked : CoinBooked books.money money userId amount options)
    (quiet : books.takes money call = books.taken)
    (counts : call.counts = (options.applyWealth && options.currencyType = .coin)) :
    Kept (books.book call money) := by
  rcases booked with nothing | ⟨entry, wallet, rfl, booked⟩
  · exact kept.book_quiet nothing quiet (fun _ => rfl) fun _ => rfl
  · refine kept.book_quiet booked quiet (fun other => ?_) fun other => ?_
    · rw [counts]
      exact countedCoins_own userId other wallet
    · split <;> simp [only, countedPoints, mark]

private theorem countedPoints_rest (userId : UserId) (rest : List PointLedgerEntry) :
    countedPoints userId (rest.map fun other => (other, false)) = 0 := by
  induction rest with
  | nil => rfl
  | cons entry rest ih =>
    rw [countedPoints] at ih
    simp [countedPoints, ih]

private theorem Kept.point (kept : Kept books) {userId : UserId} {amount : Int}
    (booked : PointBooked books.money money userId amount call.counts)
    (quiet : books.takes money call = books.taken) : Kept (books.book call money) := by
  rcases booked with nothing | ⟨entry, rest, wallet, direction, rfl, booked⟩
  · exact kept.book_quiet nothing quiet (fun _ => rfl) fun _ => rfl
  · refine kept.book_quiet booked quiet (fun other => ?_) fun other => ?_
    · split <;> simp [only, countedCoins, mark]
    · have others := countedPoints_rest other rest
      rw [countedPoints] at others
      rw [countedPoints, mark, sumWhere_cons, others, add_zero]
      by_cases counts : call.counts = true
      · by_cases own : other = userId
        · simp [counts, own, only, wallet, direction]
        · simp [counts, own, Ne.symm own, only, wallet, direction]
      · simp [counts]

private theorem Kept.step (kept : Kept books) (call : Call) : Kept (books.step call) := by
  unfold Books.step
  split
  · exact kept
  next result money returned =>
    cases call with
    | coinDebit userId amount txType options =>
      obtain ⟨receipt, t, debited, done⟩ := Tx.eval_bind_ok.mp returned
      cases done
      exact kept.coin (debit_booked debited) rfl rfl
    | coinCredit userId amount txType options =>
      obtain ⟨receipt, t, credited, done⟩ := Tx.eval_bind_ok.mp returned
      cases done
      exact kept.coin (credit_booked credited) rfl rfl
    | pointCredit now userId amount txType options =>
      obtain ⟨receipt, t, credited, done⟩ := Tx.eval_bind_ok.mp returned
      cases done
      exact kept.point (creditInTransaction_booked credited) rfl
    | creditPoints now userId amount txType options =>
      exact kept.point (creditPoints_booked returned) rfl
    | pointDebit userId amount txType options =>
      obtain ⟨receipt, t, debited, done⟩ := Tx.eval_bind_ok.mp returned
      cases done
      obtain ⟨points, booked⟩ := pointDebit_booked debited
      refine kept.book_quiet booked rfl (fun _ => rfl) fun other => ?_
      have uncounted : mark false points = points.map fun entry => (entry, false) := by
        cases points <;> rfl
      exact (uncounted ▸ countedPoints_rest other points).symm
    | revert userId amount =>
      obtain ⟨taken, booked, bounds⟩ := applyDebit_booked returned
      obtain ⟨taken_nonneg, taken_le⟩ := bounds (kept.nonneg userId)
      have after := booked.total userId .livestream
      simp only [only, and_self, if_true] at after
      have now : books.takes money (.revert userId amount) =
          Function.update books.taken userId (books.taken userId + taken) := by
        have difference : (standing books.money userId .livestream).cumulativeTotal -
            (standing money userId .livestream).cumulativeTotal = taken := by
          unfold total at after
          omega
        rw [Books.takes, difference]
      refine kept.book booked (fun other => ?_) (fun other => ?_) (fun other => ?_) fun other => ?_
      · simp [only, countedCoins, mark]
      · rw [now]
        by_cases own : other = userId
        · simp [own, only, countedPoints, mark]
        · simp [own, only, countedPoints, mark]
      · rw [now]
        by_cases own : other = userId
        · have before := kept.taken userId
          rw [own, Function.update_self]
          omega
        · rw [Function.update_of_ne own]
          exact kept.taken other
      · by_cases own : other = userId
        · rw [own, after]
          omega
        · rw [booked.total]
          simpa [only, own] using kept.nonneg other
    | openWallet wallet =>
      cases returned
      exact kept.book_quiet (.same rfl rfl rfl rfl) rfl (fun _ => rfl) fun _ => rfl
    | configure other =>
      cases returned
      exact kept.book_quiet (.same rfl rfl rfl rfl) rfl (fun _ => rfl) fun _ => rfl

private theorem kept_start (db : MoneyDb) : Kept (Books.start db) where
  coins := rfl
  points := rfl
  positiveCoins := by simp [Books.start]
  positivePoints := by simp [Books.start]
  wealth _ := rfl
  livestream _ := rfl
  taken _ := Int.le_refl 0
  nonneg _ := Int.le_refl 0
  levels := by simp [Books.start]

private theorem Kept.run (kept : Kept books) (calls : List Call) : Kept (books.run calls) := by
  induction calls generalizing books with
  | nil => exact kept
  | cons call calls ih => exact ih (kept.step call)

end Run

/-! ### Agreement -/

/-- The condition. The last part is about a user who never had anything counted. -/
structure Accounted (books : Books) (userId : UserId) : Prop where
  coins : sumWhere (fun row => row.1.wallet = ⟨userId, .coin⟩ && row.1.direction = .credit && !row.2)
      (·.1.amount) books.coins =
    sumWhere (fun row => row.1.wallet = ⟨userId, .coin⟩ && row.1.direction = .debit && row.2)
      (·.1.amount) books.coins
  points : ∀ row ∈ books.points, row.1.wallet = ⟨userId, .point⟩ → row.1.direction = .credit →
    row.2 = true
  taken : books.taken userId = 0
  coinStart : books.walletExists ⟨userId, .coin⟩ = true →
    books.money.userLevel userId .wealth = none →
    computeLevel 0 (books.money.levelThresholds .wealth) = 1
  pointStart : books.walletExists ⟨userId, .point⟩ = true →
    books.money.userLevel userId .livestream = none →
    computeLevel 0 (books.money.levelThresholds .livestream) = 1

def backfilled (db : MoneyDb) (userId : UserId) (levelType : LevelType) (walletExists : Bool)
    (cumulativeTotal : Int) : MoneyDb :=
  if walletExists then db.setLevel userId levelType
    ⟨computeLevel cumulativeTotal (db.levelThresholds levelType), cumulativeTotal⟩
  else db

section

variable (db : MoneyDb) (userId : UserId)
include db userId

private theorem setLevel_setLevel (levelType : LevelType) (row row' : WalletUserLevel) :
    (db.setLevel userId levelType row).setLevel userId levelType row' =
      db.setLevel userId levelType row' := by
  unfold MoneyDb.setLevel
  congr 1
  funext user type
  dsimp only
  split <;> rfl

private theorem call_backfill (levelType : LevelType) (walletExists : Bool) (total : MoneyDb → Int) :
    (backfill userId levelType walletExists total).call db =
      (.ok (), backfilled db userId levelType walletExists (total db)) := by
  cases walletExists with
  | false => rfl
  | true =>
    change (Except.ok (), (db.setLevel userId levelType _).setLevel userId levelType _) = _
    rw [setLevel_setLevel]
    rfl

private theorem call_backfill_bind (levelType : LevelType) (walletExists : Bool)
    (total : MoneyDb → Int) (k : Prog MoneyDb Lock LedgerError Unit) :
    (backfill userId levelType walletExists total >>= fun _ => k).call db =
      k.call (backfilled db userId levelType walletExists (total db)) := by
  cases walletExists with
  | false => rfl
  | true =>
    change k.call ((db.setLevel userId levelType _).setLevel userId levelType _) = _
    rw [setLevel_setLevel]
    rfl

private theorem standing_backfilled (levelType other : LevelType) (walletExists : Bool)
    (cumulativeTotal : Int) :
    standing (backfilled db userId levelType walletExists cumulativeTotal) userId other =
      if other = levelType ∧ walletExists = true then
        ⟨computeLevel cumulativeTotal (db.levelThresholds levelType), cumulativeTotal⟩
      else standing db userId other := by
  cases walletExists with
  | false => simp [backfilled]
  | true =>
    by_cases own : other = levelType
    · simp [backfilled, standing, MoneyDb.setLevel, own]
    · simp [backfilled, standing, MoneyDb.setLevel, own]

private theorem backfilled_pointLedger (levelType : LevelType) (walletExists : Bool)
    (cumulativeTotal : Int) :
    (backfilled db userId levelType walletExists cumulativeTotal).pointLedger = db.pointLedger ∧
      (backfilled db userId levelType walletExists cumulativeTotal).levelThresholds =
        db.levelThresholds := by
  cases walletExists with
  | false => exact ⟨rfl, rfl⟩
  | true => exact ⟨rfl, rfl⟩

end

private theorem agrees_iff (books : Books) (userId : UserId) :
    Agrees books userId ↔
      (books.walletExists ⟨userId, .coin⟩ = true →
        (⟨computeLevel (creditTotal books.money.coinLedger ⟨userId, .coin⟩)
            (books.money.levelThresholds .wealth),
          creditTotal books.money.coinLedger ⟨userId, .coin⟩⟩ : WalletUserLevel) =
          standing books.money userId .wealth) ∧
      (books.walletExists ⟨userId, .point⟩ = true →
        (⟨computeLevel (creditTotal books.money.pointLedger ⟨userId, .point⟩)
            (books.money.levelThresholds .livestream),
          creditTotal books.money.pointLedger ⟨userId, .point⟩⟩ : WalletUserLevel) =
          standing books.money userId .livestream) := by
  have after : ∀ levelType, standing ((runWalletLevelBackfillForUser books.walletExists userId).call
      books.money).2 userId levelType = standing (backfilled (backfilled books.money userId .wealth
        (books.walletExists ⟨userId, .coin⟩) (creditTotal books.money.coinLedger ⟨userId, .coin⟩))
        userId .livestream (books.walletExists ⟨userId, .point⟩)
        (creditTotal books.money.pointLedger ⟨userId, .point⟩)) userId levelType := by
    intro levelType
    unfold runWalletLevelBackfillForUser
    rw [call_backfill_bind, call_backfill, (backfilled_pointLedger ..).1]
  unfold Agrees
  simp only [after, standing_backfilled, (backfilled_pointLedger ..).2]
  constructor
  · intro agrees
    refine ⟨fun coin => ?_, fun point => ?_⟩
    · simpa [coin] using agrees .wealth
    · simpa [point] using agrees .livestream
  · rintro ⟨wealth, livestream⟩ levelType
    cases levelType with
    | wealth =>
      simp only [reduceCtorEq, false_and, if_false, true_and]
      split
      next coin => exact wealth coin
      next => rfl
    | livestream =>
      simp only [reduceCtorEq, false_and, if_false, true_and]
      split
      next point => exact livestream point
      next => rfl

private theorem levelled_eq_iff {books : Books} (kept : Kept books) (userId : UserId)
    (levelType : LevelType) (cumulativeTotal : Int) :
    (⟨computeLevel cumulativeTotal (books.money.levelThresholds levelType), cumulativeTotal⟩ :
        WalletUserLevel) = standing books.money userId levelType ↔
      total books.money userId levelType = cumulativeTotal ∧
        (books.money.userLevel userId levelType = none →
          computeLevel 0 (books.money.levelThresholds levelType) = 1) := by
  cases found : books.money.userLevel userId levelType with
  | none =>
    simp only [standing, total, found, Option.getD_none, WalletUserLevel.mk.injEq, true_imp_iff]
    constructor
    · rintro ⟨level, rfl⟩
      exact ⟨rfl, level⟩
    · rintro ⟨rfl, level⟩
      exact ⟨level, rfl⟩
  | some row =>
    have level := kept.levels userId levelType row found
    simp only [standing, total, found, Option.getD_some, reduceCtorEq, false_imp_iff, and_true]
    constructor
    · intro same
      rw [← same]
    · rintro rfl
      rw [← level]

private theorem coins_balance (userId : UserId) (rows : List (CoinLedgerEntry × Bool)) :
    creditTotal (rows.map Prod.fst) ⟨userId, .coin⟩ +
        sumWhere (fun row => row.1.wallet = ⟨userId, .coin⟩ && row.1.direction = .debit && row.2)
          (·.1.amount) rows =
      countedCoins userId rows +
        sumWhere (fun row => row.1.wallet = ⟨userId, .coin⟩ && row.1.direction = .credit && !row.2)
          (·.1.amount) rows := by
  induction rows with
  | nil => rfl
  | cons row rows ih =>
    obtain ⟨entry, counted⟩ := row
    simp only [creditTotal, countedCoins, List.map_cons, sumWhere_cons] at ih ⊢
    by_cases own : entry.wallet = ⟨userId, .coin⟩
    · cases direction : entry.direction <;> cases counted <;> simp [own] <;> omega
    · simp [own]
      omega

private theorem points_balance (userId : UserId) (rows : List (PointLedgerEntry × Bool)) :
    creditTotal (rows.map Prod.fst) ⟨userId, .point⟩ = countedPoints userId rows +
      sumWhere (fun row => row.1.wallet = ⟨userId, .point⟩ && row.1.direction = .credit && !row.2)
        (·.1.amount) rows := by
  induction rows with
  | nil => rfl
  | cons row rows ih =>
    obtain ⟨entry, counted⟩ := row
    simp only [creditTotal, countedPoints, List.map_cons, sumWhere_cons] at ih ⊢
    by_cases own : entry.wallet = ⟨userId, .point⟩
    · cases direction : entry.direction <;> cases counted <;> simp [own] <;> omega
    · simp [own]
      omega

private theorem wealth_iff {books : Books} (kept : Kept books) (userId : UserId) :
    total books.money userId .wealth = creditTotal books.money.coinLedger ⟨userId, .coin⟩ ↔
      sumWhere (fun row => row.1.wallet = ⟨userId, .coin⟩ && row.1.direction = .credit && !row.2)
          (·.1.amount) books.coins =
        sumWhere (fun row => row.1.wallet = ⟨userId, .coin⟩ && row.1.direction = .debit && row.2)
          (·.1.amount) books.coins := by
  have balance := coins_balance userId books.coins
  rw [kept.coins, ← kept.wealth] at balance
  constructor
  · intro same
    omega
  · intro same
    omega

private theorem livestream_iff {books : Books} (kept : Kept books) (userId : UserId) :
    total books.money userId .livestream = creditTotal books.money.pointLedger ⟨userId, .point⟩ ↔
      (∀ row ∈ books.points, row.1.wallet = ⟨userId, .point⟩ → row.1.direction = .credit →
        row.2 = true) ∧ books.taken userId = 0 := by
  have balance := points_balance userId books.points
  have taken := kept.taken userId
  have nonneg : 0 ≤ sumWhere (fun row : PointLedgerEntry × Bool =>
      row.1.wallet = ⟨userId, .point⟩ && row.1.direction = .credit && !row.2) (·.1.amount)
      books.points :=
    sumWhere_nonneg fun row member => Int.le_of_lt (kept.positivePoints row member)
  rw [kept.points, ← kept.livestream] at balance
  have all : (∀ row ∈ books.points, row.1.wallet = ⟨userId, .point⟩ → row.1.direction = .credit →
      row.2 = true) ↔ sumWhere (fun row : PointLedgerEntry × Bool =>
        row.1.wallet = ⟨userId, .point⟩ && row.1.direction = .credit && !row.2) (·.1.amount)
        books.points = 0 := by
    rw [sumWhere_eq_zero_iff kept.positivePoints]
    simp
  rw [all]
  constructor
  · intro same
    exact ⟨by omega, by omega⟩
  · rintro ⟨none, kept⟩
    omega

private theorem absent_rows {books : Books} (kept : Kept books) {wallet : Wallet}
    (absent : books.walletExists wallet = false) :
    (∀ row ∈ books.coins, row.1.wallet ≠ wallet) ∧ ∀ row ∈ books.points, row.1.wallet ≠ wallet := by
  simp only [Books.walletExists, Bool.or_eq_false_iff, List.any_eq_false, decide_eq_true_eq] at absent
  obtain ⟨⟨-, coins⟩, points⟩ := absent
  constructor
  · intro row member
    exact coins row.1 (kept.coins ▸ List.mem_map_of_mem member)
  · intro row member
    exact points row.1 (kept.points ▸ List.mem_map_of_mem member)

private theorem wealth_of_absent {books : Books} (kept : Kept books) {userId : UserId}
    (absent : books.walletExists ⟨userId, .coin⟩ = false) :
    total books.money userId .wealth = creditTotal books.money.coinLedger ⟨userId, .coin⟩ := by
  have none := (absent_rows kept absent).1
  rw [wealth_iff kept, (sumWhere_eq_zero_iff kept.positiveCoins).mpr,
    (sumWhere_eq_zero_iff kept.positiveCoins).mpr]
  · intro row member
    simp [none row member]
  · intro row member
    simp [none row member]

private theorem livestream_of_absent {books : Books} (kept : Kept books) {userId : UserId}
    (absent : books.walletExists ⟨userId, .point⟩ = false) :
    total books.money userId .livestream = creditTotal books.money.pointLedger ⟨userId, .point⟩ := by
  have none := (absent_rows kept absent).2
  have counted : countedPoints userId books.points = 0 := by
    refine (sumWhere_eq_zero_iff kept.positivePoints).mpr fun row member => ?_
    simp [none row member]
  have balance := kept.livestream userId
  have nonneg := kept.nonneg userId
  have taken := kept.taken userId
  refine (livestream_iff kept userId).mpr ⟨fun row member own => ?_, by omega⟩
  exact absurd own (none row member)

private theorem agrees_iff_accounted {books : Books} (kept : Kept books) (userId : UserId) :
    Agrees books userId ↔ Accounted books userId := by
  rw [agrees_iff, levelled_eq_iff kept, levelled_eq_iff kept]
  constructor
  · rintro ⟨wealth, livestream⟩
    have coins : total books.money userId .wealth =
        creditTotal books.money.coinLedger ⟨userId, .coin⟩ := by
      cases isOpen : books.walletExists ⟨userId, .coin⟩ with
      | true => exact (wealth isOpen).1
      | false => exact wealth_of_absent kept isOpen
    have points : total books.money userId .livestream =
        creditTotal books.money.pointLedger ⟨userId, .point⟩ := by
      cases isOpen : books.walletExists ⟨userId, .point⟩ with
      | true => exact (livestream isOpen).1
      | false => exact livestream_of_absent kept isOpen
    obtain ⟨counted, taken⟩ := (livestream_iff kept userId).mp points
    exact ⟨(wealth_iff kept userId).mp coins, counted, taken, fun isOpen => (wealth isOpen).2,
      fun isOpen => (livestream isOpen).2⟩
  · intro accounted
    refine ⟨fun isOpen => ⟨?_, accounted.coinStart isOpen⟩,
      fun isOpen => ⟨?_, accounted.pointStart isOpen⟩⟩
    · exact (wealth_iff kept userId).mpr accounted.coins
    · exact (livestream_iff kept userId).mpr ⟨accounted.points, accounted.taken⟩

theorem backfill_agrees_iff (db : MoneyDb) (calls : List Call) (userId : UserId) :
    Agrees ((Books.start db).run calls) userId ↔ Accounted ((Books.start db).run calls) userId :=
  agrees_iff_accounted ((kept_start db).run calls) userId

/-- A top-up of 1000 coins, and a refund of 500 points. -/
def topupAndRefund : List Call :=
  [.coinCredit 1 1000 .topup { idempotencyKey := .epayPersonalTopup 7 },
    .pointCredit 0 1 500 .withdrawalRefund { idempotencyKey := .withdrawalRefund 3 }]

/-- Nothing was spent and nothing earned, but the job counts 1000 coins and 500 points. -/
theorem backfill_not_agrees :
    let books := (Books.start MoneyDb.empty).run topupAndRefund
    let rebuilt := ((runWalletLevelBackfillForUser books.walletExists 1).call books.money).2
    (total books.money 1 .wealth, total books.money 1 .livestream) = (0, 0) ∧
      (total rebuilt 1 .wealth, total rebuilt 1 .livestream) = (1000, 500) ∧ ¬Agrees books 1 := by
  refine ⟨by decide, by decide, fun agrees => ?_⟩
  exact absurd (agrees .wealth) (by decide)

end OlNode.LevelBackfill
