import OlNode.InternalLedger.Frame
import OlNode.Ledger.Postings

/-!
# The ledger chain

The newest row of a wallet is its only balance. Every writer reads it and appends a row that
carries it on; the wallet's row lock makes the two one step. The parts are the wallets: the coin
rows, the point rows and the unconfirmed points of each.
-/
namespace OlNode.InternalLedger

open ReadCommitted

def coinSigned (e : CoinLedgerEntry) : Int :=
  match e.direction with
  | .credit => e.amount
  | .debit => -e.amount

def tailBalance {T : Type} (rows : List (LedgerEntry T)) : Int :=
  (rows.getLast?.map (·.balanceAfter)).getD 0

@[simp] theorem tailBalance_append {T : Type} (rows : List (LedgerEntry T)) (e : LedgerEntry T) :
    tailBalance (rows ++ [e]) = e.balanceAfter := by simp [tailBalance]

/-- The rows of one wallet, oldest first, and its unconfirmed points. -/
structure WalletRows where
  coin : List CoinLedgerEntry
  point : List PointLedgerEntry
  unconfirmed : Int

namespace WalletRows

def addCoin (v : WalletRows) (e : CoinLedgerEntry) : WalletRows := { v with coin := v.coin ++ [e] }

def addPoint (v : WalletRows) (e : PointLedgerEntry) : WalletRows :=
  { v with point := v.point ++ [e] }

/-- Every balance is the sum of what was booked, and coins are never overdrawn. -/
structure Chained (v : WalletRows) : Prop where
  coin : tailBalance v.coin = (v.coin.map coinSigned).sum
  covered : ∀ e ∈ v.coin, 0 ≤ e.balanceAfter
  point : tailBalance v.point = (v.point.map pointSigned).sum

theorem Chained.tail_nonneg {v : WalletRows} (chained : v.Chained) : 0 ≤ tailBalance v.coin := by
  unfold tailBalance
  cases last : v.coin.getLast? with
  | none => simp
  | some e => exact chained.covered e (List.mem_of_getLast? last)

theorem Chained.addCoin {v : WalletRows} {e : CoinLedgerEntry} (chained : v.Chained)
    (next : e.balanceAfter = tailBalance v.coin + coinSigned e) (covered : 0 ≤ e.balanceAfter) :
    (v.addCoin e).Chained := by
  refine ⟨?_, ?_, chained.point⟩
  · simp [WalletRows.addCoin, next, chained.coin]
  · intro row member
    rcases List.mem_append.mp member with old | new
    · exact chained.covered row old
    · rw [List.mem_singleton] at new
      exact new ▸ covered

theorem Chained.addPoint {v : WalletRows} {e : PointLedgerEntry} (chained : v.Chained)
    (next : e.balanceAfter = tailBalance v.point + pointSigned e) : (v.addPoint e).Chained := by
  refine ⟨chained.coin, chained.covered, ?_⟩
  simp [WalletRows.addPoint, next, chained.point]

end WalletRows

open WalletRows (Chained)

def walletRows (db : MoneyDb) (w : Wallet) : WalletRows where
  coin := db.coinLedger.filter fun e => e.wallet = w
  point := db.pointLedger.filter fun e => e.wallet = w
  unconfirmed := db.unconfirmedPoints w.userId

theorem walletRows_addCoin (db : MoneyDb) (e : CoinLedgerEntry) (w : Wallet) :
    walletRows (db.addCoin e) w =
      if w = e.wallet then (walletRows db w).addCoin e else walletRows db w := by
  split
  next same => simp [walletRows, MoneyDb.addCoin, WalletRows.addCoin, same]
  next other => simp [walletRows, MoneyDb.addCoin, Ne.symm other]

theorem walletRows_addPoint (db : MoneyDb) (e : PointLedgerEntry) (w : Wallet) :
    walletRows (db.addPoint e) w =
      if w = e.wallet then (walletRows db w).addPoint e else walletRows db w := by
  split
  next same => simp [walletRows, MoneyDb.addPoint, WalletRows.addPoint, same]
  next other => simp [walletRows, MoneyDb.addPoint, Ne.symm other]

/-- The rows of wallet `w` are chained. None of the operations below writes `unconfirmed_points`;
the settlement of a withdrawal, which is not one of them, lowers it when an old escrow marker is
settled. -/
def Sound (unconfirmed : UserId → Int) (w : Wallet) (v : WalletRows) : Prop :=
  v.Chained ∧ v.unconfirmed = unconfirmed w.userId

/-- The wallets as parts; `saw` is what is known of every state a statement looks at. -/
def walletParts (saw : MoneyDb → Prop) (unconfirmed : UserId → Int) :
    Parts MoneyDb Lock LedgerError Wallet WalletRows where
  part := walletRows
  lockOf := .wallet
  inv := Sound unconfirmed
  shown := saw

section Knowledge

variable {unconfirmed : UserId → Int} {K K' : Knowledge Wallet WalletRows} {w : Wallet}

/-- What a transaction knows between two wallet operations: each wallet it has locked was and is
chained, the others are untouched. -/
def Knows (unconfirmed : UserId → Int) (K : Knowledge Wallet WalletRows) : Prop :=
  ∀ w, K w = .initial ∨ ∃ before now, K w = .held before now ∧
    Sound unconfirmed w before ∧ Sound unconfirmed w now

/-- The rows before and now of a wallet that gets locked, or was locked before. -/
def Locks (K : Knowledge Wallet WalletRows) (w : Wallet) (before now : WalletRows) : Prop :=
  K w = .held before now ∨ (K w = .initial ∧ before = now)

/-- The transaction has only locked wallets and appended rows since. -/
structure Later (unconfirmed : UserId → Int) (K K' : Knowledge Wallet WalletRows) : Prop where
  knows : Knows unconfirmed K'
  coins : ∀ w before now, K w = .held before now →
    ∃ later, K' w = .held before later ∧ now.coin <+: later.coin

theorem Later.refl (knows : Knows unconfirmed K) : Later unconfirmed K K :=
  ⟨knows, fun _ _ now held => ⟨now, held, List.prefix_refl _⟩⟩

theorem Later.trans {K'' : Knowledge Wallet WalletRows} (first : Later unconfirmed K K')
    (second : Later unconfirmed K' K'') : Later unconfirmed K K'' := by
  refine ⟨second.knows, fun w before now held => ?_⟩
  obtain ⟨mid, heldMid, longer⟩ := first.coins w before now held
  obtain ⟨later, heldLater, longer'⟩ := second.coins w before mid heldMid
  exact ⟨later, heldLater, longer.trans longer'⟩

section

variable (knows : Knows unconfirmed K)
include knows

private theorem knows_update {before now : WalletRows} (was : Sound unconfirmed w before)
    (is : Sound unconfirmed w now) :
    Knows unconfirmed (Function.update K w (.held before now)) := by
  intro other
  by_cases same : other = w
  · subst same
    exact .inr ⟨before, now, Function.update_self .., was, is⟩
  · rw [Function.update_of_ne same]
    exact knows other

theorem Locks.inv {before now : WalletRows} (held : K w = .held before now) :
    Sound unconfirmed w before ∧ Sound unconfirmed w now := by
  rcases knows w with untouched | ⟨before', now', locked, was, is⟩
  · rw [held] at untouched
    cases untouched
  · rw [held] at locked
    cases locked
    exact ⟨was, is⟩

theorem later_lockAppend {before now next : WalletRows} (locks : Locks K w before now)
    (was : Sound unconfirmed w before) (is : Sound unconfirmed w next)
    (longer : now.coin <+: next.coin) :
    Later unconfirmed K (Function.update K w (.held before next)) := by
  refine ⟨knows_update knows was is, fun other before' now' held => ?_⟩
  by_cases same : other = w
  · subst same
    rcases locks with already | ⟨untouched, -⟩
    · rw [held] at already
      cases already
      exact ⟨next, Function.update_self .., longer⟩
    · rw [held] at untouched
      cases untouched
  · exact ⟨now', by rw [Function.update_of_ne same, held], List.prefix_refl _⟩

theorem later_append {before now next : WalletRows} (held : K w = .held before now)
    (is : Sound unconfirmed w next) (longer : now.coin <+: next.coin) :
    Later unconfirmed K (Function.update K w (.held before next)) :=
  later_lockAppend knows (.inl held) (Locks.inv knows held).1 is longer

end

/-- The rows a transaction will leave behind, given the committed ones. -/
def rowsOf (K : Knowledge Wallet WalletRows) (committed : Wallet → WalletRows) :
    Wallet → WalletRows := fun w => (K w).after (committed w)

theorem Later.agrees (later : Later unconfirmed K K') {committed : Wallet → WalletRows}
    (agrees : ∀ w, (K' w).Agrees (committed w)) (w : Wallet) : (K w).Agrees (committed w) := by
  cases held : K w with
  | free act => trivial
  | held before now =>
    obtain ⟨_, held', -⟩ := later.coins w before now held
    have same := agrees w
    rw [held'] at same
    exact same

/-- The transaction has only locked wallets and changed the rows as `posts` says. -/
structure Books (unconfirmed : UserId → Int)
    (posts : (Wallet → WalletRows) → (Wallet → WalletRows) → Prop)
    (K K' : Knowledge Wallet WalletRows) : Prop extends Later unconfirmed K K' where
  posted : ∀ committed, (∀ w, (K' w).Agrees (committed w)) →
    posts (rowsOf K committed) (rowsOf K' committed)

variable {posts posts' : (Wallet → WalletRows) → (Wallet → WalletRows) → Prop}

theorem Books.refl (knows : Knows unconfirmed K) (same : ∀ rows, posts rows rows) :
    Books unconfirmed posts K K :=
  ⟨.refl knows, fun _ _ => same _⟩

theorem Books.mono (books : Books unconfirmed posts K K')
    (weaker : ∀ rows rows', posts rows rows' → posts' rows rows') :
    Books unconfirmed posts' K K' :=
  ⟨books.toLater, fun committed agrees => weaker _ _ (books.posted committed agrees)⟩

theorem Books.trans {K'' : Knowledge Wallet WalletRows} (first : Books unconfirmed posts K K')
    (second : Books unconfirmed posts' K' K'') :
    Books unconfirmed (Relation.Comp posts posts') K K'' := by
  refine ⟨first.toLater.trans second.toLater, fun committed agrees => ?_⟩
  exact ⟨_, first.posted committed (second.agrees agrees), second.posted committed agrees⟩

theorem books_append {before now next : WalletRows} (knows : Knows unconfirmed K)
    (locks : Locks K w before now) (was : Sound unconfirmed w before)
    (is : Sound unconfirmed w next) (longer : now.coin <+: next.coin)
    (posted : ∀ rows, rows w = now → posts rows (Function.update rows w next)) :
    Books unconfirmed posts K (Function.update K w (.held before next)) := by
  refine ⟨later_lockAppend knows locks was is longer, fun committed agrees => ?_⟩
  have found : rowsOf K committed w = now := by
    rcases locks with held | ⟨untouched, rfl⟩
    · simp [rowsOf, held, Hold.after]
    · have same := agrees w
      rw [Function.update_self] at same
      simpa [rowsOf, untouched, Hold.initial, Hold.after, Hold.Agrees] using same
  have after : rowsOf (Function.update K w (.held before next)) committed =
      Function.update (rowsOf K committed) w next := by
    funext other
    by_cases same : other = w
    · subst same
      simp [rowsOf, Hold.after]
    · simp [rowsOf, same]
  rw [after]
  exact posted _ found

end Knowledge

/-! ### Statements -/

section Statements

variable {saw : MoneyDb → Prop} {unconfirmed : UserId → Int} {K : Knowledge Wallet WalletRows} {α β : Type}

theorem lock_bind {w : Wallet} {k : Unit → LedgerTx β} {Q : β → Knowledge Wallet WalletRows → Prop}
    (knows : Knows unconfirmed K)
    (next : ∀ before now, Locks K w before now → Sound unconfirmed w before →
      Sound unconfirmed w now →
      (k ()).Safe (walletParts saw unconfirmed) (Function.update K w (.held before now)) Q) :
    (lockForUpdate w >>= k).Safe (walletParts saw unconfirmed) K Q := by
  refine (Tx.safe_lockRow_bind _ _).mpr fun committed valid => ?_
  have lockedIs : ∀ hold, (K w).learn (committed w) = hold →
      K.lock (walletParts saw unconfirmed) (.wallet w) committed = Function.update K w hold := by
    intro hold learned
    funext other
    by_cases same : other = w
    · subst same
      simpa [Knowledge.lock, walletParts] using learned
    · simp [Knowledge.lock, walletParts, same]
  rcases knows w with untouched | ⟨before, now, held, was, is⟩
  · rw [lockedIs (.held (committed w) (committed w)) (by rw [untouched]; rfl)]
    exact next _ _ (.inr ⟨untouched, rfl⟩) (valid w) (valid w)
  · rw [lockedIs (.held before now) (by rw [held]; rfl)]
    exact next _ _ (.inl held) was is

variable {before now : WalletRows}

theorem sees_coin {db : MoneyDb} {w : Wallet} (seen : K.Sees (walletParts saw unconfirmed) db)
    (held : K w = .held before now) :
    latestBalance db.coinLedger w = tailBalance now.coin := by
  have rows := seen.part w
  rw [held] at rows
  exact congrArg (fun v : WalletRows => tailBalance v.coin) rows

theorem sees_point {db : MoneyDb} {w : Wallet} (seen : K.Sees (walletParts saw unconfirmed) db)
    (held : K w = .held before now) :
    latestBalance db.pointLedger w = tailBalance now.point := by
  have rows := seen.part w
  rw [held] at rows
  exact congrArg (fun v : WalletRows => tailBalance v.point) rows

theorem sees_unconfirmed {db : MoneyDb} (knows : Knows unconfirmed K)
    (seen : K.Sees (walletParts saw unconfirmed) db) (userId : UserId) :
    db.unconfirmedPoints userId = unconfirmed userId := by
  have rows := seen.part ⟨userId, .point⟩
  rcases knows ⟨userId, .point⟩ with untouched | ⟨before, now, held, -, is⟩
  · rw [untouched] at rows
    obtain ⟨committed, inv, same⟩ := rows
    exact (congrArg WalletRows.unconfirmed same).trans inv.2
  · rw [held] at rows
    exact (congrArg WalletRows.unconfirmed rows).trans is.2

theorem insertCoin_safe {entry : CoinLedgerEntry}
    {Q : CoinLedgerEntry → Knowledge Wallet WalletRows → Prop}
    (held : K entry.wallet = .held before now)
    (after : Q entry (Function.update K entry.wallet (.held before (now.addCoin entry)))) :
    (CoinLedgerRepository.insert entry).Safe (walletParts saw unconfirmed) K Q := by
  refine Tx.safe_check trivial fun _ => ?_
  refine (Tx.safe_lockRow_bind _ _).mpr fun committed _ => ?_
  rw [Knowledge.lock_other (by simp [walletParts])]
  refine (Tx.safe_select_bind _ _).mpr fun db _ => Tx.safe_check trivial fun _ => ?_
  refine .bind (Tx.safe_update (fun w v => if w = entry.wallet then v.addCoin entry else v)
    (fun db w => walletRows_addCoin db entry w) (by simp [walletParts]) ?_)
  rw [Knowledge.push_own, held]
  exact after

theorem insertPoint_safe {entry : PointLedgerEntry}
    {Q : PointLedgerEntry → Knowledge Wallet WalletRows → Prop}
    (held : K entry.wallet = .held before now)
    (after : Q entry (Function.update K entry.wallet (.held before (now.addPoint entry)))) :
    (PointLedgerRepository.insert entry).Safe (walletParts saw unconfirmed) K Q := by
  refine Tx.safe_check trivial fun _ => ?_
  refine (Tx.safe_lockRow_bind _ _).mpr fun committed _ => ?_
  rw [Knowledge.lock_other (by simp [walletParts])]
  refine (Tx.safe_select_bind _ _).mpr fun db _ => Tx.safe_check trivial fun _ => ?_
  refine .bind (Tx.safe_update (fun w v => if w = entry.wallet then v.addPoint entry else v)
    (fun db w => walletRows_addPoint db entry w) (by simp [walletParts]) ?_)
  rw [Knowledge.push_own, held]
  exact after

end Statements

/-! ### What an operation posts -/

/-- `e` carries the coin balance of the rows on. -/
structure NextCoin (w : Wallet) (direction : LedgerDirection) (amount : Int) (v : WalletRows)
    (e : CoinLedgerEntry) : Prop where
  wallet : e.wallet = w
  direction : e.direction = direction
  amount : e.amount = amount
  balance : e.balanceAfter = tailBalance v.coin + coinSigned e

/-- `e` carries the point balance of the rows on. -/
structure NextPoint (w : Wallet) (direction : LedgerDirection) (txType : PointTxType)
    (amount : Int) (v : WalletRows) (e : PointLedgerEntry) : Prop where
  wallet : e.wallet = w
  direction : e.direction = direction
  txType : e.txType = txType
  amount : e.amount = amount
  balance : e.balanceAfter = tailBalance v.point + pointSigned e

/-- One coin row is appended, to wallet `w`. -/
def PostsCoin (w : Wallet) (direction : LedgerDirection) (amount : Int)
    (rows rows' : Wallet → WalletRows) : Prop :=
  ∃ e, NextCoin w direction amount (rows w) e ∧ rows' = Function.update rows w ((rows w).addCoin e)

/-- One point row is appended, to the point wallet of the user. -/
def PostsPoint (userId : UserId) (direction : LedgerDirection) (txType : PointTxType)
    (amount : Int) (rows rows' : Wallet → WalletRows) : Prop :=
  ∃ e, NextPoint ⟨userId, .point⟩ direction txType amount (rows ⟨userId, .point⟩) e ∧
    rows' = Function.update rows ⟨userId, .point⟩ ((rows ⟨userId, .point⟩).addPoint e)

/-- At most one commission is credited, to an agency. -/
def PaysCommission (rows rows' : Wallet → WalletRows) : Prop :=
  rows' = rows ∨ ∃ agencyUserId points,
    PostsPoint agencyUserId .credit .agentCommission points rows rows'

namespace WalletOp

/-- The key of the operation has a row. -/
def taken (op : WalletOp) (s : MoneyDb) : Bool :=
  match op with
  | coinCredit .. | coinDebit .. => (findByKey s.coinLedger op.key).isSome
  | pointCredit .. | pointDebit .. | escrow .. => (findByKey s.pointLedger op.key).isSome

/-- The rows an operation appends. A debit fits the spendable balance it finds: the coins, or the
points that are not unconfirmed. -/
def Appends (op : WalletOp) (rows rows' : Wallet → WalletRows) : Prop :=
  match op with
  | coinCredit userId amount _ options =>
    PostsCoin ⟨userId, options.currencyType⟩ .credit amount rows rows'
  | coinDebit userId amount _ options =>
    amount ≤ tailBalance (rows ⟨userId, options.currencyType⟩).coin ∧
      PostsCoin ⟨userId, options.currencyType⟩ .debit amount rows rows'
  | pointCredit userId amount txType _ _ =>
    Relation.Comp (PostsPoint userId .credit txType amount) PaysCommission rows rows'
  | pointDebit userId amount txType options _ =>
    amount ≤ (if options.availabilityCheck
      then tailBalance (rows ⟨userId, .point⟩).point - (rows ⟨userId, .point⟩).unconfirmed
      else tailBalance (rows ⟨userId, .point⟩).point) ∧
      PostsPoint userId .debit txType amount rows rows'
  | escrow userId amount _ => PostsPoint userId .debit .withdrawalEscrow amount rows rows'

/-- What an operation does to the rows it finds: nothing under a key it saw taken, otherwise it
appends. -/
def Posts (saw : MoneyDb → Prop) (op : WalletOp) (rows rows' : Wallet → WalletRows) : Prop :=
  ((∃ s, saw s ∧ op.taken s) ∧ rows' = rows) ∨ op.Appends rows rows'

end WalletOp

/-- What a transaction does to the rows: each operation works on what the ones before it left. -/
def Posted (saw : MoneyDb → Prop) :
    List WalletOp → (Wallet → WalletRows) → (Wallet → WalletRows) → Prop
  | [], rows, rows' => rows' = rows
  | op :: ops, rows, rows' => Relation.Comp (op.Posts saw) (Posted saw ops) rows rows'

/-! ### Wallet operations -/

section Operations

variable {saw : MoneyDb → Prop} {unconfirmed : UserId → Int} {K : Knowledge Wallet WalletRows}
  {posts posts' : (Wallet → WalletRows) → (Wallet → WalletRows) → Prop} {α β : Type}

/-- The body locks wallets and appends rows as `posts` says. -/
def Runs (saw : MoneyDb → Prop) (unconfirmed : UserId → Int)
    (posts : (Wallet → WalletRows) → (Wallet → WalletRows) → Prop) (x : LedgerTx α) : Prop :=
  ∀ K, Knows unconfirmed K → x.Safe (walletParts saw unconfirmed) K fun _ K' =>
    Books unconfirmed posts K K'

theorem Books.replay {op : WalletOp} {s : MoneyDb} (knows : Knows unconfirmed K) (shown : saw s)
    (taken : op.taken s) : Books unconfirmed (op.Posts saw) K K :=
  .refl knows fun _ => .inl ⟨⟨s, shown, taken⟩, rfl⟩

variable {x : LedgerTx α} {k : α → LedgerTx β}

theorem Runs.bind (first : Runs saw unconfirmed posts x)
    (rest : ∀ a, Runs saw unconfirmed posts' (k a)) :
    Runs saw unconfirmed (Relation.Comp posts posts') (x >>= k) := by
  intro K knows
  refine .bind ((first K knows).mono fun a K' books => ?_)
  exact (rest a K' books.knows).mono fun _ _ books' => books.trans books'

theorem runs_outside (outside : x.Touches (walletParts saw unconfirmed).outside)
    (same : ∀ rows, posts rows rows) : Runs saw unconfirmed posts x :=
  fun _ knows => outside.safe fun _ => .refl knows same

theorem Runs.after (outside : x.Touches (walletParts saw unconfirmed).outside)
    (rest : ∀ a, Runs saw unconfirmed posts (k a)) : Runs saw unconfirmed posts (x >>= k) :=
  fun K knows => .bind (outside.safe fun a => rest a K knows)

theorem Runs.before (first : Runs saw unconfirmed posts x)
    (outside : ∀ a, (k a).Touches (walletParts saw unconfirmed).outside) :
    Runs saw unconfirmed posts (x >>= k) :=
  fun K knows => .bind ((first K knows).mono fun a _ books => (outside a).safe fun _ => books)

theorem Runs.when {condition : Prop} [Decidable condition] {x : LedgerTx Unit}
    (runs : Runs saw unconfirmed posts x) (same : ∀ rows, posts rows rows) :
    Runs saw unconfirmed posts (Tx.when condition x) := by
  unfold Tx.when
  split
  · exact runs
  · exact runs_outside trivial same

/-- Levels, markers and gift transactions lie outside the wallets. -/
theorem sideFrame (saw : MoneyDb → Prop) (unconfirmed : UserId → Int) :
    SideFrame (walletParts saw unconfirmed).outside where
  toPlainFrame := plainFrame_outside fun _ _ => trivial
  level := by simp [Parts.outside, walletParts]
  setLevel := fun _ _ _ _ _ => rfl
  commission := by simp [Parts.outside, walletParts]
  mark := fun _ _ _ => rfl
  gift := by simp [Parts.outside, walletParts]
  addGift := fun _ _ _ => rfl

theorem poolFrame (saw : MoneyDb → Prop) (unconfirmed : UserId → Int) :
    PoolFrame (walletParts saw unconfirmed).outside (fun _ => True) where
  toPlainFrame := plainFrame_outside fun _ _ => trivial
  stored := fun _ _ _ _ => trivial
  pool := by simp [Parts.outside, walletParts]
  ensurePool := fun _ _ _ _ => rfl
  setPool := fun _ _ _ _ => rfl
  audit := by simp [Parts.outside, walletParts]
  addAudit := fun _ _ _ _ _ => rfl
  sent := fun _ => Parts.outside_blind _ _
  floor := trivial

theorem shadowFrame (saw : MoneyDb → Prop) (unconfirmed : UserId → Int) :
    ShadowFrame (walletParts saw unconfirmed).outside where
  toPlainFrame := plainFrame_outside fun _ _ => trivial
  same_eq := fun _ _ same => same.symm
  pool := by simp [Parts.outside, walletParts]
  ensurePool := fun _ _ _ => rfl
  setPool := fun _ _ _ _ => rfl
  audit := by simp [Parts.outside, walletParts]
  addAudit := fun _ _ _ _ _ => rfl
  cursor := by simp [Parts.outside, walletParts]
  setCursor := fun _ _ _ => rfl

variable {userId : UserId} {amount : Int}

theorem coinDebit_runs (txType : CoinTxType) (options : CoinOptions) :
    Runs saw unconfirmed ((WalletOp.coinDebit userId amount txType options).Posts saw)
      (CoinWallet.debit userId amount txType options) := by
  intro K knows
  have side := sideFrame saw unconfirmed
  refine Tx.safe_check trivial fun _ => ?_
  refine (Tx.safe_select_bind _ _).mpr fun db looked => ?_
  split
  next found =>
    exact .replay knows looked.shown (by simp [WalletOp.taken, WalletOp.key, found])
  next =>
    refine lock_bind knows fun before now locks was is => ?_
    refine .bind (Tx.safe_when_outside (assertCoinDebitAllowedInTx_touches side _ _) ?_)
    refine (Tx.safe_select_bind _ _).mpr fun db' seen => ?_
    rw [sees_coin seen (Function.update_self ..)]
    refine Tx.safe_check trivial fun enough => ?_
    have covered : amount ≤ tailBalance now.coin := by simpa using enough
    refine .bind (insertCoin_safe (Function.update_self ..) ?_)
    rw [Function.update_idem]
    refine .bind (Tx.safe_when_outside (.bind (applyCredit_touches side _ _ _) fun _ => trivial) ?_)
    refine books_append knows locks was ⟨is.1.addCoin ?_ ?_, is.2⟩ (List.prefix_append _ _) ?_
    · simp [coinSigned, sub_eq_add_neg]
    · simpa using covered
    · rintro rows rfl
      exact .inr ⟨covered, _, ⟨rfl, rfl, rfl, by simp [coinSigned, sub_eq_add_neg]⟩, rfl⟩

theorem coinCredit_runs (txType : CoinTxType) (options : CoinOptions) :
    Runs saw unconfirmed ((WalletOp.coinCredit userId amount txType options).Posts saw)
      (CoinWallet.credit userId amount txType options) := by
  intro K knows
  have side := sideFrame saw unconfirmed
  refine Tx.safe_check trivial fun positive => ?_
  refine (Tx.safe_select_bind _ _).mpr fun db looked => ?_
  split
  next found =>
    exact .replay knows looked.shown (by simp [WalletOp.taken, WalletOp.key, found])
  next =>
    refine lock_bind knows fun before now locks was is => ?_
    refine (Tx.safe_select_bind _ _).mpr fun db' seen => ?_
    rw [sees_coin seen (Function.update_self ..)]
    refine .bind (Tx.safe_when_outside (.bind (applyCredit_touches side _ _ _) fun _ => trivial) ?_)
    refine .bind (insertCoin_safe (Function.update_self ..) ?_)
    rw [Function.update_idem]
    refine books_append knows locks was ⟨is.1.addCoin (by simp [coinSigned]) ?_, is.2⟩
      (List.prefix_append _ _) ?_
    · -- a balance is a row's `balanceAfter` or 0, and neither is negative
      have covered := is.1.tail_nonneg
      have positive : 0 < amount := by simpa using positive
      dsimp only
      omega
    · rintro rows rfl
      exact .inr ⟨_, ⟨rfl, rfl, rfl, by simp [coinSigned]⟩, rfl⟩

theorem creditRow_safe {txType : PointTxType} {options : PointOptions}
    {Q : PointLedgerEntry × Bool → Knowledge Wallet WalletRows → Prop}
    (real : txType ≠ .withdrawalEscrow) (knows : Knows unconfirmed K)
    (existing : ∀ row s, saw s → findByKey s.pointLedger options.idempotencyKey = some row →
      Q (row, false) K)
    (appended : ∀ row K', Books unconfirmed (PostsPoint userId .credit txType amount) K K' →
      Q (row, true) K') :
    (PointWallet.creditRow userId amount txType options).Safe (walletParts saw unconfirmed) K Q := by
  refine Tx.safe_check trivial fun _ => ?_
  refine (Tx.safe_select_bind _ _).mpr fun db looked => ?_
  split
  next row found => exact existing row db looked.shown found
  next =>
    refine lock_bind knows fun before now locks was is => ?_
    refine (Tx.safe_select_bind _ _).mpr fun db' seen => ?_
    rw [sees_point seen (Function.update_self ..)]
    refine .bind (insertPoint_safe (Function.update_self ..) (appended _ _ ?_))
    rw [Function.update_idem]
    refine books_append knows locks was ⟨is.1.addPoint (by simp [pointSigned, real]), is.2⟩
      (List.prefix_refl _) ?_
    rintro rows rfl
    exact ⟨_, ⟨rfl, rfl, rfl, rfl, by simp [pointSigned, real]⟩, rfl⟩

theorem pointDebit_runs {txType : PointTxType} (options : PointOptions)
    (real : txType ≠ .withdrawalEscrow) :
    Runs saw unconfirmed ((WalletOp.pointDebit userId amount txType options real).Posts saw)
      (PointWallet.debit userId amount txType options) := by
  intro K knows
  have side := sideFrame saw unconfirmed
  refine Tx.safe_check trivial fun _ => ?_
  refine (Tx.safe_select_bind _ _).mpr fun db looked => ?_
  split
  next found =>
    exact .replay knows looked.shown (by simp [WalletOp.taken, WalletOp.key, found])
  next =>
    refine (Tx.safe_select_bind _ _).mpr fun db' seenFirst => ?_
    rw [sees_unconfirmed knows seenFirst]
    refine lock_bind knows fun before now locks was is => ?_
    refine .bind (Tx.safe_when_outside (assertPointsDebitAllowedInTx_touches side _) ?_)
    refine (Tx.safe_select_bind _ _).mpr fun db'' seen => ?_
    rw [sees_point seen (Function.update_self ..)]
    refine Tx.safe_check trivial fun enough => ?_
    refine .bind (insertPoint_safe (Function.update_self ..) ?_)
    rw [Function.update_idem]
    have next : tailBalance now.point - amount = tailBalance now.point + -amount :=
      sub_eq_add_neg ..
    refine books_append knows locks was
      ⟨is.1.addPoint (by simp [pointSigned, real, next]), is.2⟩ (List.prefix_refl _) ?_
    rintro rows rfl
    refine .inr ⟨?_, _, ⟨rfl, rfl, rfl, rfl, by simp [pointSigned, real, next]⟩, rfl⟩
    have unlocked : (rows ⟨userId, .point⟩).unconfirmed = unconfirmed userId := is.2
    rw [unlocked]
    simpa using enough

theorem escrow_runs (options : PointOptions) :
    Runs saw unconfirmed ((WalletOp.escrow userId amount options).Posts saw)
      (PointWallet.escrow userId amount .withdrawalEscrow options) := by
  intro K knows
  have side := sideFrame saw unconfirmed
  refine Tx.safe_check trivial fun _ => ?_
  refine (Tx.safe_select_bind _ _).mpr fun db looked => ?_
  split
  next found =>
    exact .replay knows looked.shown (by simp [WalletOp.taken, WalletOp.key, found])
  next =>
    refine .bind (Tx.Touches.safe (assertPointsDebitAllowedInTx_touches side _) fun _ => ?_)
    refine lock_bind knows fun before now locks was is => ?_
    refine (Tx.safe_select_bind _ _).mpr fun db' seen => ?_
    rw [sees_point seen (Function.update_self ..)]
    refine .bind (insertPoint_safe (Function.update_self ..) ?_)
    rw [Function.update_idem]
    -- the marker carries the running balance on and counts as nothing
    refine books_append knows locks was ⟨is.1.addPoint (by simp [pointSigned]), is.2⟩
      (List.prefix_refl _) ?_
    rintro rows rfl
    exact .inr ⟨_, ⟨rfl, rfl, rfl, rfl, by simp [pointSigned]⟩, rfl⟩

theorem applyCommission_runs (now : Time) (hostUserId : UserId) (hostEntry : LedgerKey)
    (points : Int) (txType : PointTxType) :
    Runs saw unconfirmed PaysCommission
      (applyCommission now hostUserId hostEntry points txType) := by
  have side := sideFrame saw unconfirmed
  have none : ∀ {x : LedgerTx (Option UserId)}, x.Touches (walletParts saw unconfirmed).outside →
      Runs saw unconfirmed PaysCommission x := fun outside => runs_outside outside fun _ => .inl rfl
  refine .after (Tx.touches_select (Parts.outside_blind _ _)) fun resolved => ?_
  cases resolved with
  | none => exact none trivial
  | some agencyUserId =>
    dsimp only
    split
    · refine .after (Tx.touches_select (Parts.outside_blind _ _)) fun agencyRow => ?_
      split
      · exact none (.bind (markCommissionProcessed_touches side _) fun _ => trivial)
      · refine .after (Tx.touches_select (Parts.outside_blind _ _)) fun levelCfg => ?_
        cases levelCfg with
        | none => exact none trivial
        | some cfg =>
          refine .after (markCommissionProcessed_touches side _) fun fresh => ?_
          split
          · refine .before (.when ?_ fun _ => .inl rfl) fun _ => trivial
            refine .after (Tx.touches_select (Parts.outside_blind _ _)) fun host => ?_
            refine .before (fun K knows => creditRow_safe (by simp) knows ?_ ?_) fun _ => trivial
            · exact fun _ _ _ _ => .refl knows fun _ => .inl rfl
            · exact fun _ _ books => books.mono fun _ _ posted => .inr ⟨_, _, posted⟩
          · exact none trivial
    · exact none trivial

theorem pointCredit_runs (now : Time) {txType : PointTxType} (options : PointOptions)
    (real : txType ≠ .withdrawalEscrow) :
    Runs saw unconfirmed ((WalletOp.pointCredit userId amount txType options real).Posts saw)
      (PointWallet.creditInTransaction now userId amount txType options) := by
  intro K knows
  have side := sideFrame saw unconfirmed
  refine .bind (creditRow_safe real knows (fun row s shown found => ?_) fun row K' books => ?_)
  · simp only [Bool.false_eq_true, false_and, Tx.when, if_false]
    exact .replay knows shown (by simp [WalletOp.taken, WalletOp.key, found])
  · have rest : Runs saw unconfirmed PaysCommission (do
        Tx.when (true ∧ txType ∈ PointWallet.creditsWithCommission) do
          let _ ← applyCommission now userId row.idempotencyKey amount txType
          pure ()
        Tx.when (true ∧ options.applyLivestreamLevel ∧ txType ≠ .agentCommission ∧
            txType ≠ .agentPointTransfer) do
          let _ ← applyCredit userId .livestream amount
          pure ()
        pure (⟨row.idempotencyKey, row.balanceAfter⟩ : LedgerReceipt)) := by
      refine .before (.when (.before (applyCommission_runs _ _ _ _ _) fun _ => trivial) ?_) fun _ =>
        .bind (Tx.touches_when (.bind (applyCredit_touches side _ _ _) fun _ => trivial)) fun _ => trivial
      exact fun _ => .inl rfl
    exact (rest K' books.knows).mono fun _ _ books' =>
      (books.trans books').mono fun _ _ posted => .inr posted

theorem walletOp_runs (now : Time) (op : WalletOp) :
    Runs saw unconfirmed (op.Posts saw) (op.tx now) := by
  cases op with
  | coinCredit userId amount txType options => exact coinCredit_runs txType options
  | coinDebit userId amount txType options => exact coinDebit_runs txType options
  | pointCredit userId amount txType options real => exact pointCredit_runs now options real
  | pointDebit userId amount txType options real => exact pointDebit_runs options real
  | escrow userId amount options => exact escrow_runs options

theorem walletTx_runs (now : Time) (ops : List WalletOp) :
    Runs saw unconfirmed (Posted saw ops) (walletTx now ops) := by
  induction ops with
  | nil => exact runs_outside trivial fun _ => rfl
  | cons op ops ih => exact .bind (walletOp_runs now op) fun _ => ih

end Operations

end OlNode.InternalLedger
