import OlNode.Game.Operations
import OlNode.Ledger.Legs

/-!
# What a settled game round is

A settlement commits two ledger rows and a link, all appended. The link of an order exists exactly
when its two rows do; this is what makes a unique violation on a ledger key mean that the order is
settled. The callbacks agree on what the locks of a settlement protect, and a settlement that is
ready to be committed keeps to it.
-/
namespace OlNode.Games

open ReadCommitted InternalLedger

/-! ### The ledger of an order -/

def Linked (db : GameDb) (providerId orderId : Nat) : Prop :=
  ∃ link ∈ db.links, link.providerId = providerId ∧ link.orderId = orderId

/-- The link of an order with the keys of its two rows. -/
structure GameRoundLedgerLink.For (link : GameRoundLedgerLink) (providerId orderId : Nat) :
    Prop where
  provider : link.providerId = providerId
  order : link.orderId = orderId
  user : link.userLedgerEntryId = .gameRoundUser providerId orderId
  house : link.houseLedgerEntryId = .gameRoundHouse providerId orderId

def movements (db : GameDb) (providerId orderId : Nat) : List CoinLedgerEntry :=
  db.money.coinLedger.filter fun row =>
    row.idempotencyKey = .gameRoundUser providerId orderId ∨
      row.idempotencyKey = .gameRoundHouse providerId orderId

def linksOf (db : GameDb) (providerId orderId : Nat) : List GameRoundLedgerLink :=
  db.links.filter fun link => link.providerId = providerId ∧ link.orderId = orderId

/-- The same amount out of one DIAMOND wallet and into the other. -/
structure Legs (providerId orderId : Nat) (userRow houseRow : CoinLedgerEntry) : Prop where
  user : userRow.idempotencyKey = .gameRoundUser providerId orderId
  house : houseRow.idempotencyKey = .gameRoundHouse providerId orderId
  userDiamonds : userRow.wallet.currencyType = .diamond
  houseDiamonds : houseRow.wallet.currencyType = .diamond
  positive : 0 < userRow.amount
  amount : houseRow.amount = userRow.amount
  directions : userRow.direction = .debit ∧ houseRow.direction = .credit ∨
    userRow.direction = .credit ∧ houseRow.direction = .debit

/-- An order has moved nothing, or it has moved its amount once. -/
inductive OrderState (db : GameDb) (providerId orderId : Nat) : Prop where
  | unsettled (links : linksOf db providerId orderId = [])
      (rows : movements db providerId orderId = []) : OrderState db providerId orderId
  | settled (link : GameRoundLedgerLink) (userRow houseRow : CoinLedgerEntry)
      (links : linksOf db providerId orderId = [link]) (fits : link.For providerId orderId)
      (rows : movements db providerId orderId = [userRow, houseRow])
      (legs : Legs providerId orderId userRow houseRow) : OrderState db providerId orderId

def OrderLinked (db : GameDb) (params : ChangeBalanceParams) : Prop :=
  ∃ session, db.session params.ssToken = some session ∧
    Linked db session.providerId params.orderId

/-- What holds between the callbacks, also when some of them are under way. -/
structure Sound (db : GameDb) : Prop where
  orders : ∀ providerId orderId, OrderState db providerId orderId
  noDebt : ∀ userId, 0 ≤ latestBalance db.money.coinLedger (diamonds userId)
  answers : ∀ answer ∈ db.answered, OrderLinked db answer.1

/-- A commit that settles an order: it was not settled before, and what one wallet loses the other
one gains. -/
structure Settles (s t : GameDb) (link : GameRoundLedgerLink) (source target : Wallet)
    (amount : Int) : Prop where
  fresh : ¬ Linked s link.providerId link.orderId
  links : t.links = s.links ++ [link]
  rows : ∃ userRow houseRow, t.money.coinLedger = s.money.coinLedger ++ [userRow, houseRow] ∧
    Legs link.providerId link.orderId userRow houseRow
  player : diamonds link.userId = source ∨ diamonds link.userId = target
  diamonds : source.currencyType = .diamond ∧ target.currencyType = .diamond
  moved : ∀ wallet, latestBalance t.money.coinLedger wallet =
    latestBalance s.money.coinLedger wallet - (if wallet = source then amount else 0) +
      (if wallet = target then amount else 0)

def SettlesOrKeeps (s t : GameDb) : Prop :=
  (t.money.coinLedger = s.money.coinLedger ∧ t.links = s.links) ∨
    ∃ link source target amount, Settles s t link source target amount

section Orders

variable {db : GameDb} {providerId orderId : Nat}

theorem linked_iff : Linked db providerId orderId ↔ linksOf db providerId orderId ≠ [] := by
  simp [Linked, linksOf]

theorem findLink_eq_none : findLink db providerId orderId = none ↔ ¬ Linked db providerId orderId := by
  simp [findLink, Linked]

/-- The key of either leg is taken exactly when the order is linked. -/
theorem findByKey_leg (state : OrderState db providerId orderId) {key : LedgerKey}
    (own : key = .gameRoundUser providerId orderId ∨ key = .gameRoundHouse providerId orderId) :
    findByKey db.money.coinLedger key = none ↔ ¬ Linked db providerId orderId := by
  rw [linked_iff, not_not, findByKey_eq_none]
  cases state with
  | unsettled links rows =>
    refine ⟨fun _ => links, fun _ row member same => ?_⟩
    have : row ∈ movements db providerId orderId := by simp [movements, member, same, own]
    simp [rows] at this
  | settled link userRow houseRow links fits rows legs =>
    have inLedger : ∀ row ∈ [userRow, houseRow], row ∈ db.money.coinLedger := by
      intro row member
      rw [← rows] at member
      exact List.mem_of_mem_filter member
    simp only [links, reduceCtorEq, iff_false]
    intro absent
    rcases own with rfl | rfl
    · exact absent userRow (inLedger userRow (by simp)) legs.user
    · exact absent houseRow (inLedger houseRow (by simp)) legs.house

/-- A link that is in the way of another one is the link of the same order. -/
theorem linked_of_clash (sound : Sound db) {link other : GameRoundLedgerLink}
    (fits : link.For providerId orderId) (member : other ∈ db.links)
    (clash : link.clashes other = true) : Linked db providerId orderId := by
  have own : other.For other.providerId other.orderId := by
    cases sound.orders other.providerId other.orderId with
    | unsettled links rows =>
      have : other ∈ linksOf db other.providerId other.orderId := by simp [linksOf, member]
      simp [links] at this
    | settled link userRow houseRow links fits rows legs =>
      have : other ∈ linksOf db other.providerId other.orderId := by simp [linksOf, member]
      rw [links, List.mem_singleton] at this
      rw [this] at fits ⊢
      exact fits
  simp only [GameRoundLedgerLink.clashes, decide_eq_true_eq, fits.provider, fits.order,
    fits.user, fits.house, own.user, own.house, LedgerKey.gameRoundUser.injEq,
    LedgerKey.gameRoundHouse.injEq] at clash
  refine ⟨other, member, ?_⟩
  rcases clash with ⟨p, o⟩ | ⟨p, o⟩ | ⟨p, o⟩ <;> exact ⟨p.symm, o.symm⟩

end Orders

/-! ### The writes of a settlement -/

structure Draft where
  rows : List CoinLedgerEntry := []
  wallets : List Wallet := []
  links : List GameRoundLedgerLink := []

def Draft.apply (draft : Draft) (db : GameDb) : GameDb :=
  { db with
      money := { db.money with coinLedger := db.money.coinLedger ++ draft.rows }
      wallets := db.wallets ++ draft.wallets
      links := db.links ++ draft.links }

theorem Draft.apply_empty : Draft.apply {} = id := by
  funext db
  simp [Draft.apply]

theorem Draft.apply_wallet (draft : Draft) (wallet : Wallet) :
    (fun db => db.addWallet wallet) ∘ draft.apply =
      Draft.apply { draft with wallets := draft.wallets ++ [wallet] } := by
  funext db
  simp [Draft.apply, GameDb.addWallet]

theorem Draft.apply_row (draft : Draft) (row : CoinLedgerEntry) :
    (fun db => db.setMoney (db.money.addCoin row)) ∘ draft.apply =
      Draft.apply { draft with rows := draft.rows ++ [row] } := by
  funext db
  simp [Draft.apply, GameDb.setMoney, MoneyDb.addCoin]

theorem Draft.apply_link (draft : Draft) (link : GameRoundLedgerLink) :
    (fun db => db.addLink link) ∘ draft.apply =
      Draft.apply { draft with links := draft.links ++ [link] } := by
  funext db
  simp [Draft.apply, GameDb.addLink]

/-! ### The agreement of the callbacks -/

def Protected : Lock → GameDb → GameDb → Prop
  | .wallet wallet, s, t =>
    latestBalance s.money.coinLedger wallet = latestBalance t.money.coinLedger wallet
  | .coinKey key, s, t =>
    findByKey s.money.coinLedger key = none ↔ findByKey t.money.coinLedger key = none
  | .walletRow wallet, s, t => wallet ∈ s.wallets ↔ wallet ∈ t.wallets
  | .gameLink providerId orderId, s, t =>
    Linked s providerId orderId ↔ Linked t providerId orderId
  | _, _, _ => True

/-- Nothing that is settled is taken back, and the sessions stay. -/
structure Grows (s t : GameDb) : Prop where
  session : t.session = s.session
  linked : ∀ providerId orderId, Linked s providerId orderId → Linked t providerId orderId

/-- The INSERT of a wallet row finds the row missing, unless the order is settled anyway. -/
def WalletFree (params : ChangeBalanceParams) (statement : Statement GameDb Lock) (db : GameDb) :
    Prop :=
  ∀ wallet, statement = .lock (.walletRow wallet) →
    wallet ∉ db.wallets ∨ OrderLinked db params

def settling : Agreement Request GameDb Lock where
  inv := Sound
  grows := Grows
  same := Protected
  step _ := SettlesOrKeeps
  allows request := WalletFree request.params
  grows_refl _ := ⟨rfl, fun _ _ linked => linked⟩
  grows_trans _ _ _ first second :=
    ⟨second.session.trans first.session, fun p o linked => second.linked p o (first.linked p o linked)⟩
  same_refl row s := by cases row <;> simp [Protected]
  same_trans row s t u first second := by
    cases row <;> simp only [Protected] at first second ⊢
    case wallet => exact first.trans second
    case coinKey => exact first.trans second
    case walletRow => exact first.trans second
    case gameLink => exact first.trans second

theorem orderLinked_grows {s t : GameDb} (grows : Grows s t) {params : ChangeBalanceParams}
    (linked : OrderLinked s params) : OrderLinked t params := by
  obtain ⟨session, found, linked⟩ := linked
  exact ⟨session, grows.session ▸ found, grows.linked _ _ linked⟩

/-! ### The commit of a settlement -/

/-- The row of one leg, for the balance it was computed from. -/
structure LegRow (row : CoinLedgerEntry) (isDebit : Bool) (userId : UserId) (amount : Int)
    (key : LedgerKey) (balance : Int) : Prop where
  positive : 0 < amount
  wallet : row.wallet = diamonds userId
  key : row.idempotencyKey = key
  direction : row.direction = if isDebit then .debit else .credit
  balanceAfter : row.balanceAfter = if isDebit then balance - amount else balance + amount
  covered : isDebit = true → amount ≤ balance
  amount : row.amount = amount

/-- The players, the direction and the amount of one settlement. -/
structure Round where
  providerId : Nat
  orderId : Nat
  userId : UserId
  houseUserId : UserId
  userIsDebit : Bool
  amount : Int

/-- All writes of a settlement, ready to be committed in state `db` under the locks `held`. -/
structure Ready (round : Round) (held : Set Lock) (wallets : List Wallet)
    (userRow houseRow : CoinLedgerEntry) (link : GameRoundLedgerLink) (db : GameDb) : Prop where
  unlinked : ¬ Linked db round.providerId round.orderId
  fits : link.For round.providerId round.orderId
  player : link.userId = round.userId
  user : LegRow userRow round.userIsDebit round.userId round.amount
    (.gameRoundUser round.providerId round.orderId)
    (latestBalance db.money.coinLedger (diamonds round.userId))
  house : LegRow houseRow (!round.userIsDebit) round.houseUserId round.amount
    (.gameRoundHouse round.providerId round.orderId)
    (latestBalance (db.money.coinLedger ++ [userRow]) (diamonds round.houseUserId))
  userWallet : .wallet (diamonds round.userId) ∈ held
  houseWallet : .wallet (diamonds round.houseUserId) ∈ held
  userKey : .coinKey (.gameRoundUser round.providerId round.orderId) ∈ held
  houseKey : .coinKey (.gameRoundHouse round.providerId round.orderId) ∈ held
  order : .gameLink round.providerId round.orderId ∈ held
  created : ∀ wallet ∈ wallets, .walletRow wallet ∈ held

section Commit

variable {round : Round} {held : Set Lock} {wallets : List Wallet}
  {userRow houseRow : CoinLedgerEntry} {link : GameRoundLedgerLink} {s t : GameDb}

theorem Ready.rely (ready : Ready round held wallets userRow houseRow link s)
    (rely : settling.Rely held s t) : Ready round held wallets userRow houseRow link t := by
  have userBalance : latestBalance s.money.coinLedger (diamonds round.userId) =
      latestBalance t.money.coinLedger (diamonds round.userId) := rely.same _ ready.userWallet
  have houseBalance : latestBalance s.money.coinLedger (diamonds round.houseUserId) =
      latestBalance t.money.coinLedger (diamonds round.houseUserId) :=
    rely.same _ ready.houseWallet
  have link : Linked s round.providerId round.orderId ↔
      Linked t round.providerId round.orderId := rely.same _ ready.order
  exact { ready with
    unlinked := fun linked => ready.unlinked (link.mpr linked)
    user := userBalance ▸ ready.user
    house := latestBalance_append_congr houseBalance ▸ ready.house }

theorem LegRow.balance {row : CoinLedgerEntry} {isDebit : Bool} {userId : UserId} {amount : Int}
    {key : LedgerKey} {ledger : List CoinLedgerEntry}
    (fits : LegRow row isDebit userId amount key (latestBalance ledger (diamonds userId)))
    (wallet : Wallet) :
    latestBalance (ledger ++ [row]) wallet = latestBalance ledger wallet +
      (if wallet = diamonds userId then (if isDebit then -amount else amount) else 0) := by
  by_cases own : wallet = diamonds userId
  · subst own
    rw [latestBalance_append_same fits.wallet, fits.balanceAfter]
    cases isDebit <;> simp [Int.sub_eq_add_neg]
  · have other : row.wallet ≠ wallet := fun same => own (same.symm.trans fits.wallet)
    simp [latestBalance_append_other other, own]

theorem LegRow.noDebt {row : CoinLedgerEntry} {isDebit : Bool} {userId : UserId} {amount : Int}
    {key : LedgerKey} {ledger : List CoinLedgerEntry}
    (fits : LegRow row isDebit userId amount key (latestBalance ledger (diamonds userId)))
    (before : ∀ user, 0 ≤ latestBalance ledger (diamonds user)) (user : UserId) :
    0 ≤ latestBalance (ledger ++ [row]) (diamonds user) := by
  have balance := fits.balance (diamonds user)
  have positive := fits.positive
  have had := before user
  by_cases own : diamonds user = diamonds userId
  · rw [if_pos own] at balance
    cases isDebit with
    | true =>
      have covered := fits.covered rfl
      rw [← own] at covered
      simp only [if_true] at balance
      omega
    | false =>
      simp only [Bool.false_eq_true, if_false] at balance
      omega
  · rw [if_neg own] at balance
    omega

def commitRound (wallets : List Wallet) (userRow houseRow : CoinLedgerEntry)
    (link : GameRoundLedgerLink) : GameDb → GameDb :=
  Draft.apply { rows := [userRow, houseRow], wallets, links := [link] }

theorem Ready.legs (ready : Ready round held wallets userRow houseRow link s) :
    Legs round.providerId round.orderId userRow houseRow where
  user := ready.user.key
  house := ready.house.key
  userDiamonds := by rw [ready.user.wallet]; rfl
  houseDiamonds := by rw [ready.house.wallet]; rfl
  positive := ready.user.amount ▸ ready.user.positive
  amount := ready.house.amount.trans ready.user.amount.symm
  directions := by
    rw [ready.user.direction, ready.house.direction]
    cases round.userIsDebit <;> simp

theorem Ready.orders (ready : Ready round held wallets userRow houseRow link s) (sound : Sound s)
    (providerId orderId : Nat) :
    OrderState (commitRound wallets userRow houseRow link s) providerId orderId := by
  have links : linksOf (commitRound wallets userRow houseRow link s) providerId orderId =
      linksOf s providerId orderId ++
        if round.providerId = providerId ∧ round.orderId = orderId then [link] else [] := by
    simp only [linksOf, commitRound, Draft.apply, List.filter_append, List.filter_cons,
      List.filter_nil, ready.fits.provider, ready.fits.order, decide_eq_true_eq]
  have rows : movements (commitRound wallets userRow houseRow link s) providerId orderId =
      movements s providerId orderId ++
        if round.providerId = providerId ∧ round.orderId = orderId then [userRow, houseRow]
        else [] := by
    simp only [movements, commitRound, Draft.apply, List.filter_append, List.filter_cons,
      List.filter_nil, ready.user.key, ready.house.key, LedgerKey.gameRoundUser.injEq,
      LedgerKey.gameRoundHouse.injEq, reduceCtorEq, or_false, false_or, decide_eq_true_eq]
    split <;> rfl
  by_cases same : round.providerId = providerId ∧ round.orderId = orderId
  · obtain ⟨rfl, rfl⟩ := same
    have unlinked := ready.unlinked
    rw [linked_iff, not_not] at unlinked
    cases sound.orders round.providerId round.orderId with
    | unsettled noLinks noRows =>
      refine .settled link userRow houseRow ?_ ready.fits ?_ ready.legs
      · simp [links, noLinks]
      · simp [rows, noRows]
    | settled other _ _ present => simp [unlinked] at present
  · rw [if_neg same, List.append_nil] at links rows
    cases sound.orders providerId orderId with
    | unsettled noLinks noRows => exact .unsettled (links.trans noLinks) (rows.trans noRows)
    | settled other otherUser otherHouse present fits posted legs =>
      exact .settled other otherUser otherHouse (links.trans present) fits (rows.trans posted) legs

theorem commitRound_ledger : (commitRound wallets userRow houseRow link s).money.coinLedger =
    s.money.coinLedger ++ [userRow] ++ [houseRow] := by
  simp [commitRound, Draft.apply]

theorem commitRound_grows : Grows s (commitRound wallets userRow houseRow link s) := by
  refine ⟨rfl, fun providerId orderId linked => ?_⟩
  obtain ⟨other, member, fits⟩ := linked
  exact ⟨other, List.mem_append_left _ member, fits⟩

variable (ready : Ready round held wallets userRow houseRow link s)
include ready

theorem Ready.sound (sound : Sound s) : Sound (commitRound wallets userRow houseRow link s) where
  orders := ready.orders sound
  noDebt user := by
    rw [commitRound_ledger]
    exact ready.house.noDebt (ready.user.noDebt sound.noDebt) user
  answers answer member := orderLinked_grows commitRound_grows (sound.answers answer member)

theorem Ready.settles :
    Settles s (commitRound wallets userRow houseRow link s) link
      (if round.userIsDebit then diamonds round.userId else diamonds round.houseUserId)
      (if round.userIsDebit then diamonds round.houseUserId else diamonds round.userId)
      round.amount where
  fresh := by
    rw [ready.fits.provider, ready.fits.order]
    exact ready.unlinked
  links := rfl
  rows := by
    rw [ready.fits.provider, ready.fits.order]
    exact ⟨userRow, houseRow, rfl, ready.legs⟩
  player := by
    rw [ready.player]
    cases round.userIsDebit <;> simp
  diamonds := by cases round.userIsDebit <;> exact ⟨rfl, rfl⟩
  moved wallet := by
    rw [commitRound_ledger, ready.house.balance, ready.user.balance]
    cases round.userIsDebit with
    | true =>
      simp only [Bool.not_true, Bool.false_eq_true, if_true, if_false]
      split_ifs <;> omega
    | false =>
      simp only [Bool.not_false, Bool.false_eq_true, if_true, if_false]
      split_ifs <;> omega

/-- Everything the commit changes is locked. -/
theorem Ready.protected (row : Lock) (free : row ∉ held) :
    Protected row s (commitRound wallets userRow houseRow link s) := by
  cases row with
  | wallet wallet =>
    have notUser : wallet ≠ diamonds round.userId := by
      rintro rfl
      exact free ready.userWallet
    have notHouse : wallet ≠ diamonds round.houseUserId := by
      rintro rfl
      exact free ready.houseWallet
    change _ = latestBalance (commitRound wallets userRow houseRow link s).money.coinLedger wallet
    rw [commitRound_ledger, ready.house.balance, ready.user.balance, if_neg notUser,
      if_neg notHouse]
    simp
  | coinKey key =>
    have notUser : userRow.idempotencyKey ≠ key := by
      rintro rfl
      exact free (ready.user.key ▸ ready.userKey)
    have notHouse : houseRow.idempotencyKey ≠ key := by
      rintro rfl
      exact free (ready.house.key ▸ ready.houseKey)
    change _ ↔
      findByKey (commitRound wallets userRow houseRow link s).money.coinLedger key = none
    rw [commitRound_ledger, findByKey_append_eq_none, findByKey_append_eq_none]
    simp [notUser, notHouse]
  | walletRow wallet =>
    have notCreated : wallet ∉ wallets := fun member => free (ready.created wallet member)
    simp [Protected, commitRound, Draft.apply, notCreated]
  | gameLink providerId orderId =>
    have notOrder : ¬ (link.providerId = providerId ∧ link.orderId = orderId) := by
      rintro ⟨rfl, rfl⟩
      rw [ready.fits.provider, ready.fits.order] at free
      exact free ready.order
    simp only [Protected, Linked, commitRound, Draft.apply, List.mem_append, List.mem_singleton,
      or_and_right, exists_or, exists_eq_left, notOrder, or_false]
  | _ => trivial

theorem Ready.keeps (sound : Sound s) (request : Request) :
    settling.Keeps request held s (commitRound wallets userRow houseRow link s) where
  inv := ready.sound sound
  grows := commitRound_grows
  same := ready.protected
  step := .inr ⟨link, _, _, _, ready.settles⟩

end Commit

end OlNode.Games
