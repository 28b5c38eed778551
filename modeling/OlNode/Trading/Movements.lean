import OlNode.Trading.Operations
import OlNode.Ledger.Legs

/-!
# Recorded movements

A transfer, a reversal and a conversion are each recorded in a table of their own and booked as two
rows of the coin ledger. A movement is recorded exactly when it is booked, and its two rows carry
the recorded amounts. What the locks of a movement protect is enough for a movement that is ready
to be committed to keep this.
-/
namespace OlNode.Trading

open ReadCommitted InternalLedger

/-! ### Records and their rows -/

structure Movement where
  source : Wallet
  target : Wallet
  debited : Int
  credited : Int

def CoinTradingTransfer.movement (transfer : CoinTradingTransfer) : Movement where
  source := ⟨transfer.id.senderAgentUserId, .tradingCoin⟩
  target := ⟨transfer.recipientUserId, walletTypeFromTransferRecord transfer.recipientWalletType⟩
  debited := transfer.tradingCoinsDebited
  credited := transfer.coinsCredited

def AdminTransactionReversal.movement (reversal : AdminTransactionReversal) : Movement where
  source := ⟨reversal.receiverUserId, reversal.currency⟩
  target := ⟨reversal.senderUserId, .tradingCoin⟩
  debited := reversal.recoveredAmount
  credited := reversal.recoveredAmount

def DiamondConversion.movement (conversion : DiamondConversion) : Movement where
  source := (conversionSource conversion.direction conversion.userId).wallet
  target := (conversionTarget conversion.direction conversion.userId).wallet
  debited := match conversion.direction with
    | .buy => conversion.coinAmount
    | .redeem => conversion.diamondAmount
  credited := match conversion.direction with
    | .buy => conversion.diamondAmount
    | .redeem => conversion.coinAmount

def movementOf (db : TradingDb) : MovementKey → Option Movement
  | .tradingTransfer id => (findTransfer db id).map CoinTradingTransfer.movement
  | .tradingReversal id => (findReversal db id).map AdminTransactionReversal.movement
  | .diamondBuy userId key =>
    (findExistingConversion db (.diamondBuy userId key)).map DiamondConversion.movement
  | .diamondRedeem userId key =>
    (findExistingConversion db (.diamondRedeem userId key)).map DiamondConversion.movement

def rowsOf (db : TradingDb) (key : MovementKey) : List CoinLedgerEntry :=
  db.money.coinLedger.filter fun row =>
    row.idempotencyKey = .movementDebit key ∨ row.idempotencyKey = .movementCredit key

/-- The recorded amount out of the source, and the same amount into the target. -/
structure Legs (key : MovementKey) (movement : Movement) (debit credit : CoinLedgerEntry) :
    Prop where
  debitKey : debit.idempotencyKey = .movementDebit key
  creditKey : credit.idempotencyKey = .movementCredit key
  directions : debit.direction = .debit ∧ credit.direction = .credit
  wallets : debit.wallet = movement.source ∧ credit.wallet = movement.target
  amounts : debit.amount = movement.debited ∧ credit.amount = movement.credited
  conserved : movement.credited = movement.debited
  positive : 0 < movement.debited

/-- A movement is neither recorded nor booked, or it is recorded and booked once. -/
inductive MovementState (db : TradingDb) (key : MovementKey) : Prop where
  | unmoved (record : movementOf db key = none) (rows : rowsOf db key = []) : MovementState db key
  | moved (movement : Movement) (debit credit : CoinLedgerEntry)
      (record : movementOf db key = some movement) (rows : rowsOf db key = [debit, credit])
      (legs : Legs key movement debit credit) : MovementState db key

/-- A reversal takes back what it could of the transfer. -/
structure AdminTransactionReversal.Reverses (reversal : AdminTransactionReversal)
    (movement : Movement) : Prop where
  source : reversal.movement.source = movement.target
  target : reversal.movement.target = movement.source
  original : reversal.originalAmount = movement.credited
  accounted : reversal.recoveredAmount + reversal.shortfallAmount = movement.credited
  recovered : 0 < reversal.recoveredAmount
  shortfall : 0 ≤ reversal.shortfallAmount

/-- Every key has one row, and a transfer is marked as reversed exactly when it has a reversal. -/
structure Tables (db : TradingDb) : Prop where
  oneTransfer : (db.transfers.map CoinTradingTransfer.id).Nodup
  oneReversal : (db.reversals.map AdminTransactionReversal.sourceId).Nodup
  oneConversion : (db.conversions.map DiamondConversion.key).Nodup
  reversed : ∀ reversal ∈ db.reversals, ∃ transfer, findTransfer db reversal.sourceId = some transfer ∧
    transfer.reversedAt.isSome ∧ reversal.Reverses transfer.movement
  marked : ∀ transfer ∈ db.transfers, transfer.reversedAt.isSome →
    (findReversal db transfer.id).isSome

/-- What holds between the calls, also when some of them are under way. -/
structure Sound (db : TradingDb) : Prop where
  movements : ∀ key, MovementState db key
  noDebt : ∀ wallet, 0 ≤ latestBalance db.money.coinLedger wallet
  tables : Tables db

/-- A commit that makes one movement: its record is new, and the balances change by the recorded
amounts. -/
structure Moves (s t : TradingDb) (key : MovementKey) (movement : Movement) : Prop where
  fresh : movementOf s key = none
  recorded : movementOf t key = some movement
  others : ∀ other, other ≠ key → movementOf t other = movementOf s other
  balances : ∀ wallet, latestBalance t.money.coinLedger wallet =
    latestBalance s.money.coinLedger wallet -
      (if wallet = movement.source then movement.debited else 0) +
      (if wallet = movement.target then movement.credited else 0)

/-- The key of either leg is taken exactly when the movement is recorded. -/
theorem findByKey_leg {db : TradingDb} {key : MovementKey} (state : MovementState db key)
    {legKey : LedgerKey} (own : legKey = .movementDebit key ∨ legKey = .movementCredit key) :
    findByKey db.money.coinLedger legKey = none ↔ movementOf db key = none := by
  rw [findByKey_eq_none]
  cases state with
  | unmoved record rows =>
    constructor
    · exact fun _ => record
    · intro _ row member same
      have : row ∈ rowsOf db key := by simp [rowsOf, member, same, own]
      simp [rows] at this
  | moved movement debit credit record rows legs =>
    have inLedger : ∀ row ∈ [debit, credit], row ∈ db.money.coinLedger := by
      intro row member
      rw [← rows] at member
      exact List.mem_of_mem_filter member
    simp only [record, reduceCtorEq, iff_false]
    intro absent
    rcases own with rfl | rfl
    · exact absent debit (inLedger debit (by simp)) legs.debitKey
    · exact absent credit (inLedger credit (by simp)) legs.creditKey

/-! ### The writes of a transaction -/

/-- The rows of the ledger and the wallets a transaction has inserted. -/
structure Draft where
  rows : List CoinLedgerEntry := []
  wallets : List Wallet := []

def Draft.apply (draft : Draft) (db : TradingDb) : TradingDb :=
  { db with
      money := { db.money with coinLedger := db.money.coinLedger ++ draft.rows }
      wallets := db.wallets ++ draft.wallets }

theorem Draft.apply_empty : Draft.apply {} = id := by
  funext db
  simp [Draft.apply]

variable (draft : Draft)

theorem Draft.apply_wallet (wallet : Wallet) :
    (fun db => db.addWallet wallet) ∘ draft.apply =
      Draft.apply { draft with wallets := draft.wallets ++ [wallet] } := by
  funext db
  simp [Draft.apply, TradingDb.addWallet]

theorem Draft.apply_row (row : CoinLedgerEntry) :
    postRow TradingDb.money (fun money db => db.setMoney money) row ∘ draft.apply =
      Draft.apply { draft with rows := draft.rows ++ [row] } := by
  funext db
  simp [Draft.apply, postRow, TradingDb.setMoney, MoneyDb.addCoin]

theorem Draft.appends : Appends TradingDb.money draft.apply draft.rows :=
  fun _ => rfl

@[simp] theorem movementOf_draft (db : TradingDb) (key : MovementKey) :
    movementOf (draft.apply db) key = movementOf db key := by
  cases key <;> rfl

inductive Record where
  | ofTransfer (transfer : CoinTradingTransfer)
  | ofReversal (reversal : AdminTransactionReversal) (now : Time) (adminUserId : UserId)
      (reason : Nat)
  | ofConversion (conversion : DiamondConversion)

namespace Record

def key : Record → MovementKey
  | .ofTransfer transfer => .tradingTransfer transfer.id
  | .ofReversal reversal _ _ _ => .tradingReversal reversal.sourceId
  | .ofConversion conversion => conversion.key

def movement : Record → Movement
  | .ofTransfer transfer => transfer.movement
  | .ofReversal reversal _ _ _ => reversal.movement
  | .ofConversion conversion => conversion.movement

def apply : Record → TradingDb → TradingDb
  | .ofTransfer transfer, db => db.addTransfer transfer
  | .ofReversal reversal now adminUserId reason, db =>
    (db.markReversed reversal.sourceId now adminUserId reason).addReversal reversal
  | .ofConversion conversion, db => db.addConversion conversion

/-- What the tables have to say before the record is written. -/
def Fits (db : TradingDb) : Record → Prop
  | .ofTransfer transfer => transfer.reversedAt = none
  | .ofReversal reversal _ _ _ => ∃ transfer,
    findTransfer db reversal.sourceId = some transfer ∧ reversal.Reverses transfer.movement
  | .ofConversion _ => True

@[simp] theorem apply_money (record : Record) (db : TradingDb) :
    (record.apply db).money = db.money := by
  cases record <;> rfl

end Record

section Tables

variable {db : TradingDb}

theorem findTransfer_addTransfer (transfer : CoinTradingTransfer) (id : TransferId) :
    findTransfer (db.addTransfer transfer) id =
      (findTransfer db id).or (if transfer.id = id then some transfer else none) := by
  simp [findTransfer, TradingDb.addTransfer, List.find?_append, List.find?_singleton]

theorem findReversal_addReversal (reversal : AdminTransactionReversal) (id : TransferId) :
    findReversal (db.addReversal reversal) id =
      (findReversal db id).or (if reversal.sourceId = id then some reversal else none) := by
  simp [findReversal, TradingDb.addReversal, List.find?_append, List.find?_singleton]

theorem findConversion_addConversion (conversion : DiamondConversion) (key : MovementKey) :
    findExistingConversion (db.addConversion conversion) key =
      (findExistingConversion db key).or
        (if conversion.key = key then some conversion else none) := by
  simp [findExistingConversion, TradingDb.addConversion, List.find?_append, List.find?_singleton]

/-- The mark changes neither which transfers there are nor what they moved. -/
theorem findTransfer_markReversed (marked : TransferId) (now : Time) (adminUserId : UserId)
    (reason : Nat) (id : TransferId) :
    findTransfer (db.markReversed marked now adminUserId reason) id =
      (findTransfer db id).map fun transfer =>
        if transfer.id = marked then transfer.reversed now adminUserId reason else transfer := by
  simp only [findTransfer, TradingDb.markReversed, List.find?_map]
  congr 2
  funext transfer
  simp only [Function.comp]
  split <;> rfl

theorem movementOf_markReversed (marked : TransferId) (now : Time) (adminUserId : UserId)
    (reason : Nat) (key : MovementKey) :
    movementOf (db.markReversed marked now adminUserId reason) key = movementOf db key := by
  cases key with
  | tradingTransfer id =>
    simp only [movementOf, findTransfer_markReversed, Option.map_map]
    congr 1
    funext transfer
    simp only [Function.comp]
    split <;> rfl
  | tradingReversal id => rfl
  | diamondBuy userId key => rfl
  | diamondRedeem userId key => rfl

private theorem movementOf_addTransfer (transfer : CoinTradingTransfer)
    (free : movementOf db (.tradingTransfer transfer.id) = none) (key : MovementKey) :
    movementOf (db.addTransfer transfer) key =
      if key = .tradingTransfer transfer.id then some transfer.movement else movementOf db key := by
  cases key with
  | tradingTransfer id =>
    simp only [movementOf, findTransfer_addTransfer, MovementKey.tradingTransfer.injEq]
    by_cases own : id = transfer.id
    · subst own
      simp only [movementOf, Option.map_eq_none_iff] at free
      simp [free]
    · simp [own, Ne.symm own]
  | tradingReversal id => simp [movementOf, findReversal, TradingDb.addTransfer]
  | diamondBuy userId key => simp [movementOf, findExistingConversion, TradingDb.addTransfer]
  | diamondRedeem userId key => simp [movementOf, findExistingConversion, TradingDb.addTransfer]

private theorem movementOf_addReversal (reversal : AdminTransactionReversal)
    (free : movementOf db (.tradingReversal reversal.sourceId) = none) (key : MovementKey) :
    movementOf (db.addReversal reversal) key =
      if key = .tradingReversal reversal.sourceId then some reversal.movement
      else movementOf db key := by
  cases key with
  | tradingReversal id =>
    simp only [movementOf, findReversal_addReversal, MovementKey.tradingReversal.injEq]
    by_cases own : id = reversal.sourceId
    · subst own
      simp only [movementOf, Option.map_eq_none_iff] at free
      simp [free]
    · simp [own, Ne.symm own]
  | tradingTransfer id => simp [movementOf, findTransfer, TradingDb.addReversal]
  | diamondBuy userId key => simp [movementOf, findExistingConversion, TradingDb.addReversal]
  | diamondRedeem userId key => simp [movementOf, findExistingConversion, TradingDb.addReversal]

theorem movementOf_conversionKey (direction : DiamondConversionDirection) (userId : UserId)
    (key : Nat) : movementOf db (conversionKey direction userId key) =
      (findExistingConversion db (conversionKey direction userId key)).map
        DiamondConversion.movement := by
  cases direction <;> rfl

private theorem movementOf_addConversion (conversion : DiamondConversion)
    (free : movementOf db conversion.key = none) (key : MovementKey) :
    movementOf (db.addConversion conversion) key =
      if key = conversion.key then some conversion.movement else movementOf db key := by
  have ofKey : ∀ direction userId number,
      movementOf (db.addConversion conversion) (conversionKey direction userId number) =
        if conversionKey direction userId number = conversion.key then some conversion.movement
        else movementOf db (conversionKey direction userId number) := by
    intro direction userId number
    rw [movementOf_conversionKey, movementOf_conversionKey, findConversion_addConversion]
    by_cases own : conversionKey direction userId number = conversion.key
    · rw [← own, movementOf_conversionKey, Option.map_eq_none_iff] at free
      simp [← own, free]
    · simp [own, Ne.symm own]
  cases key with
  | diamondBuy userId key => exact ofKey .buy userId key
  | diamondRedeem userId key => exact ofKey .redeem userId key
  | tradingTransfer id =>
    have other : .tradingTransfer id ≠ conversion.key := by
      unfold DiamondConversion.key conversionKey
      split <;> nofun
    rw [if_neg other]
    rfl
  | tradingReversal id =>
    have other : .tradingReversal id ≠ conversion.key := by
      unfold DiamondConversion.key conversionKey
      split <;> nofun
    rw [if_neg other]
    rfl

/-- A new record is found under its key, and the other keys keep theirs. -/
theorem Record.movementOf_apply (record : Record) (free : movementOf db record.key = none)
    (key : MovementKey) :
    movementOf (record.apply db) key =
      if key = record.key then some record.movement else movementOf db key := by
  cases record with
  | ofTransfer transfer => exact movementOf_addTransfer transfer free key
  | ofReversal reversal now adminUserId reason =>
    have marked : ∀ other, movementOf (db.markReversed reversal.sourceId now adminUserId reason)
        other = movementOf db other := movementOf_markReversed reversal.sourceId now adminUserId reason
    change movementOf (TradingDb.addReversal _ reversal) key = _
    rw [movementOf_addReversal reversal ((marked _).trans free), marked]
    rfl
  | ofConversion conversion => exact movementOf_addConversion conversion free key

private theorem nodup_append_key {R K : Type} [DecidableEq K] {table : List R} {keyOf : R → K}
    {row : R} (nodup : (table.map keyOf).Nodup)
    (absent : (table.find? fun other => keyOf other = keyOf row) = none) :
    ((table ++ [row]).map keyOf).Nodup := by
  rw [List.map_append, List.map_cons, List.map_nil]
  refine List.nodup_append.mpr ⟨nodup, List.nodup_singleton _, ?_⟩
  intro key member other last same
  rw [List.mem_singleton] at last
  obtain ⟨found, inTable, rfl⟩ := List.mem_map.mp member
  have differs := List.find?_eq_none.mp absent found inTable
  simp [same, last] at differs

private theorem tables_addTransfer {transfer : CoinTradingTransfer} (tables : Tables db)
    (free : findTransfer db transfer.id = none) (fresh : transfer.reversedAt = none) :
    Tables (db.addTransfer transfer) where
  oneTransfer := nodup_append_key tables.oneTransfer free
  oneReversal := tables.oneReversal
  oneConversion := tables.oneConversion
  reversed reversal member := by
    obtain ⟨found, present, marked, reverses⟩ := tables.reversed reversal member
    exact ⟨found, by rw [findTransfer_addTransfer, present, Option.some_or], marked, reverses⟩
  marked other member isMarked := by
    rcases List.mem_append.mp member with old | new
    · exact tables.marked other old isMarked
    · rw [List.mem_singleton] at new
      subst new
      simp [fresh] at isMarked

private theorem tables_addReversal {reversal : AdminTransactionReversal} (now : Time)
    (adminUserId : UserId) (reason : Nat) (tables : Tables db)
    (free : findReversal db reversal.sourceId = none) {transfer : CoinTradingTransfer}
    (source : findTransfer db reversal.sourceId = some transfer)
    (reverses : reversal.Reverses transfer.movement) :
    Tables ((db.markReversed reversal.sourceId now adminUserId reason).addReversal reversal) where
  oneTransfer := by
    have sameIds : (db.markReversed reversal.sourceId now adminUserId reason).transfers.map
        CoinTradingTransfer.id = db.transfers.map CoinTradingTransfer.id := by
      simp only [TradingDb.markReversed, List.map_map]
      congr 1
      funext other
      simp only [Function.comp]
      split <;> rfl
    change (List.map _ (db.markReversed reversal.sourceId now adminUserId reason).transfers).Nodup
    rw [sameIds]
    exact tables.oneTransfer
  oneReversal := nodup_append_key tables.oneReversal free
  oneConversion := tables.oneConversion
  reversed other member := by
    change ∃ found, findTransfer (db.markReversed _ _ _ _) _ = some found ∧ _
    simp only [findTransfer_markReversed]
    rcases List.mem_append.mp member with old | new
    · obtain ⟨found, present, marked, reversesOld⟩ := tables.reversed other old
      rw [present, Option.map_some]
      refine ⟨_, rfl, ?_, ?_⟩
      · split
        · rfl
        · exact marked
      · split <;> exact reversesOld
    · rw [List.mem_singleton] at new
      subst new
      have own : transfer.id = other.sourceId := by simpa using List.find?_some source
      rw [source, Option.map_some]
      refine ⟨_, rfl, ?_, ?_⟩
      · simp [own, CoinTradingTransfer.reversed]
      · split <;> exact reverses
  marked other member isMarked := by
    rw [findReversal_addReversal]
    obtain ⟨before, inTable, rfl⟩ := List.mem_map.mp member
    by_cases own : before.id = reversal.sourceId
    · simp [own, CoinTradingTransfer.reversed]
    · rw [if_neg own] at isMarked ⊢
      have found := tables.marked before inTable isMarked
      obtain ⟨old, present⟩ := Option.isSome_iff_exists.mp found
      change (Option.or (findReversal db before.id) _).isSome = true
      rw [present]
      rfl

theorem Record.tables_apply (record : Record) (tables : Tables db)
    (free : movementOf db record.key = none) (fits : record.Fits db) :
    Tables (record.apply db) := by
  cases record with
  | ofTransfer transfer => exact tables_addTransfer tables (Option.map_eq_none_iff.mp free) fits
  | ofReversal reversal now adminUserId reason =>
    obtain ⟨transfer, source, reverses⟩ := fits
    exact tables_addReversal now adminUserId reason tables (Option.map_eq_none_iff.mp free) source
      reverses
  | ofConversion conversion =>
    change movementOf db (conversionKey _ _ _) = none at free
    rw [movementOf_conversionKey, Option.map_eq_none_iff] at free
    exact { tables with oneConversion := nodup_append_key tables.oneConversion free }

end Tables

/-! ### The agreement of the calls -/

def Protected : Lock → TradingDb → TradingDb → Prop
  | .wallet wallet, s, t =>
    latestBalance s.money.coinLedger wallet = latestBalance t.money.coinLedger wallet
  | .coinKey key, s, t =>
    findByKey s.money.coinLedger key = none ↔ findByKey t.money.coinLedger key = none
  | .movement key, s, t => movementOf s key = none ↔ movementOf t key = none
  | _, _, _ => True

def Grows (s t : TradingDb) : Prop :=
  ∀ key movement, movementOf s key = some movement → movementOf t key = some movement

def MovesOrKeeps (s t : TradingDb) : Prop :=
  t = s ∨ ∃ key movement, Moves s t key movement

def moving : Agreement Request TradingDb Lock where
  inv := Sound
  grows := Grows
  same := Protected
  step _ := MovesOrKeeps
  allows _ _ _ := True
  grows_refl _ _ _ recorded := recorded
  grows_trans _ _ _ first second key movement recorded :=
    second key movement (first key movement recorded)
  same_refl row s := by cases row <;> simp [Protected]
  same_trans row s t u first second := by
    cases row <;> simp only [Protected] at first second ⊢
    case wallet => exact first.trans second
    case coinKey => exact first.trans second
    case movement => exact first.trans second

theorem books : Books moving TradingDb.money fun money db => db.setMoney money where
  get_set _ _ := rfl
  wallet _ _ _ same := same
  coinKey _ _ _ same := same

theorem keeps_refl {request : Request} {held : Set Lock} {db : TradingDb} (sound : Sound db) :
    moving.Keeps request held db db where
  inv := sound
  grows := moving.grows_refl db
  same row _ := moving.same_refl row db
  step := .inl rfl

/-! ### The commit of a movement -/

/-- The two rows of a movement, computed from balances that the locks `held` keep. -/
structure Booked (key : MovementKey) (source target : Wallet) (amount : Int) (held : Set Lock)
    (debit credit : CoinLedgerEntry) (db : TradingDb) : Prop where
  out : LegRow debit .debit source amount (.movementDebit key)
    (latestBalance db.money.coinLedger source)
  into : LegRow credit .credit target amount (.movementCredit key)
    (latestBalance (db.money.coinLedger ++ [debit]) target)
  sourceWallet : .wallet source ∈ held
  targetWallet : .wallet target ∈ held
  debitKey : .coinKey (.movementDebit key) ∈ held
  creditKey : .coinKey (.movementCredit key) ∈ held

/-- All writes of a movement, ready to be committed in state `db` under the locks `held`. -/
structure Ready (record : Record) (held : Set Lock) (debit credit : CoinLedgerEntry)
    (db : TradingDb) : Prop where
  booked : Booked record.key record.movement.source record.movement.target
    record.movement.debited held debit credit db
  conserved : record.movement.credited = record.movement.debited
  free : movementOf db record.key = none
  fits : record.Fits db
  key : .movement record.key ∈ held

def commitMovement (record : Record) (debit credit : CoinLedgerEntry) (wallets : List Wallet)
    (db : TradingDb) : TradingDb :=
  record.apply (Draft.apply { rows := [debit, credit], wallets } db)

section Commit

variable {record : Record} {held : Set Lock} {debit credit : CoinLedgerEntry}
  {wallets : List Wallet} {s t : TradingDb}

theorem Record.Fits.grows (fits : record.Fits s) (grows : Grows s t) : record.Fits t := by
  cases record with
  | ofTransfer transfer => exact fits
  | ofReversal reversal now adminUserId reason =>
    obtain ⟨transfer, source, reverses⟩ := fits
    have before : movementOf s (.tradingTransfer reversal.sourceId) = some transfer.movement := by
      simp [movementOf, source]
    have after := grows _ _ before
    simp only [movementOf, Option.map_eq_some_iff] at after
    obtain ⟨same, found, moved⟩ := after
    exact ⟨same, found, moved ▸ reverses⟩
  | ofConversion conversion => exact fits

theorem Booked.rely {key : MovementKey} {source target : Wallet} {amount : Int} {more : Set Lock}
    (booked : Booked key source target amount held debit credit s) (sub : held ⊆ more)
    (rely : moving.Rely held s t) : Booked key source target amount more debit credit t where
  out := books.wallet _ _ _ (rely.same _ booked.sourceWallet) ▸ booked.out
  into := latestBalance_append_congr (books.wallet _ _ _ (rely.same _ booked.targetWallet)) ▸
    booked.into
  sourceWallet := sub booked.sourceWallet
  targetWallet := sub booked.targetWallet
  debitKey := sub booked.debitKey
  creditKey := sub booked.creditKey

theorem Ready.rely (ready : Ready record held debit credit s) (rely : moving.Rely held s t) :
    Ready record held debit credit t := by
  have absent : movementOf s record.key = none ↔ movementOf t record.key = none :=
    rely.same _ ready.key
  exact { ready with
    booked := ready.booked.rely subset_rfl rely
    free := absent.mp ready.free
    fits := ready.fits.grows rely.grows }

theorem commitMovement_ledger : (commitMovement record debit credit wallets s).money.coinLedger =
    s.money.coinLedger ++ [debit] ++ [credit] := by
  simp [commitMovement, Draft.apply]

variable (ready : Ready record held debit credit s)
include ready

theorem Ready.movementOf_commit (wallets : List Wallet) (key : MovementKey) :
    movementOf (commitMovement record debit credit wallets s) key =
      if key = record.key then some record.movement else movementOf s key := by
  unfold commitMovement
  rw [record.movementOf_apply (by rw [movementOf_draft]; exact ready.free), movementOf_draft]

theorem Ready.rowsOf_commit (wallets : List Wallet) (key : MovementKey) :
    rowsOf (commitMovement record debit credit wallets s) key =
      rowsOf s key ++ if key = record.key then [debit, credit] else [] := by
  simp only [rowsOf, commitMovement_ledger, List.filter_append, List.append_assoc]
  congr 1
  by_cases own : key = record.key
  · simp [own, ready.booked.out.key, ready.booked.into.key]
  · simp [own, Ne.symm own, ready.booked.out.key, ready.booked.into.key]

theorem Ready.legs : Legs record.key record.movement debit credit where
  debitKey := ready.booked.out.key
  creditKey := ready.booked.into.key
  directions := ⟨ready.booked.out.direction, ready.booked.into.direction⟩
  wallets := ⟨ready.booked.out.wallet, ready.booked.into.wallet⟩
  amounts := ⟨ready.booked.out.amount, ready.booked.into.amount.trans ready.conserved.symm⟩
  conserved := ready.conserved
  positive := ready.booked.out.positive

theorem Ready.sound (sound : Sound s) : Sound (commitMovement record debit credit wallets s) where
  movements key := by
    have recorded := ready.movementOf_commit wallets key
    have booked := ready.rowsOf_commit wallets key
    by_cases own : key = record.key
    · subst own
      rw [if_pos rfl] at recorded booked
      cases sound.movements record.key with
      | unmoved _ none =>
        rw [none, List.nil_append] at booked
        exact .moved _ debit credit recorded booked ready.legs
      | moved _ _ _ present => simp [ready.free] at present
    · rw [if_neg own] at recorded booked
      rw [List.append_nil] at booked
      cases sound.movements key with
      | unmoved none noRows => exact .unmoved (recorded.trans none) (booked.trans noRows)
      | moved movement d c present rows legs =>
        exact .moved movement d c (recorded.trans present) (booked.trans rows) legs
  noDebt wallet := by
    rw [commitMovement_ledger]
    exact ready.booked.into.noDebt (ready.booked.out.noDebt sound.noDebt) wallet
  tables := by
    refine record.tables_apply ?_ ?_ ?_
    · exact { sound.tables with }
    · rw [movementOf_draft]
      exact ready.free
    · have fits := ready.fits
      cases record <;> exact fits

theorem Ready.moves :
    Moves s (commitMovement record debit credit wallets s) record.key record.movement where
  fresh := ready.free
  recorded := by rw [ready.movementOf_commit, if_pos rfl]
  others other different := by rw [ready.movementOf_commit, if_neg different]
  balances wallet := by
    rw [commitMovement_ledger, ready.booked.into.balance, ready.booked.out.balance]
    simp only [LedgerDirection.signed, ready.conserved]
    split_ifs <;> omega

/-- Everything the commit changes is locked. -/
theorem Ready.protected (row : Lock) (outside : row ∉ held) :
    Protected row s (commitMovement record debit credit wallets s) := by
  cases row with
  | wallet wallet =>
    have notSource : wallet ≠ record.movement.source := by
      rintro rfl
      exact outside ready.booked.sourceWallet
    have notTarget : wallet ≠ record.movement.target := by
      rintro rfl
      exact outside ready.booked.targetWallet
    change _ = latestBalance (commitMovement record debit credit wallets s).money.coinLedger wallet
    rw [commitMovement_ledger, ready.booked.into.balance, ready.booked.out.balance, if_neg notSource,
      if_neg notTarget]
    simp
  | coinKey key =>
    have notDebit : debit.idempotencyKey ≠ key := by
      rintro rfl
      exact outside (ready.booked.out.key ▸ ready.booked.debitKey)
    have notCredit : credit.idempotencyKey ≠ key := by
      rintro rfl
      exact outside (ready.booked.into.key ▸ ready.booked.creditKey)
    change _ ↔
      findByKey (commitMovement record debit credit wallets s).money.coinLedger key = none
    rw [commitMovement_ledger, findByKey_append_eq_none, findByKey_append_eq_none]
    simp [notDebit, notCredit]
  | movement key =>
    have different : key ≠ record.key := by
      rintro rfl
      exact outside ready.key
    change _ ↔ movementOf (commitMovement record debit credit wallets s) key = none
    rw [ready.movementOf_commit, if_neg different]
  | _ => trivial

theorem Ready.keeps (sound : Sound s) (request : Request) :
    moving.Keeps request held s (commitMovement record debit credit wallets s) where
  inv := ready.sound sound
  grows key movement recorded := by
    rw [ready.movementOf_commit]
    split
    next own => simp [own, ready.free] at recorded
    next => exact recorded
  same := ready.protected
  step := .inr ⟨_, _, ready.moves⟩

end Commit

end OlNode.Trading
