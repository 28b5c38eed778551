import OlNode.Ledger.Wallets
import OlNode.Ledger.Retry
import OlNode.Ledger.Envelope

/-!
# Store items and the slots they are worn in

`storeService` and `storeRepository`, as far as they buy, equip, unequip and expire store items. A
user wears at most one item of each category: the item's `isApplied` flag and the slot's row in
`user_active_store_items` say so independently. The advisory lock of a slot is taken by every
transaction that changes either.
-/
namespace OlNode.Stores

open ReadCommitted

structure StoreItem where
  category : StoreItemCategory
  coinCost : Int
  validityDays : Nat
  isActive : Bool

/-- A row of `user_store_items`, with the category of its store item, which no request changes. -/
structure UserStoreItem where
  userId : UserId
  storeItemId : Nat
  category : StoreItemCategory
  purchasedById : UserId
  coinsPaid : Int
  isActive : Bool
  isApplied : Bool
  expiresAt : Time
  activatedAt : Option Time
  expiredAt : Option Time
  revokedAt : Option Time
  deriving DecidableEq

structure PurchaseItemResult where
  userStoreItemId : Nat
  item : UserStoreItem
  isGift : Bool

structure StoreDb where
  now : Time
  money : MoneyDb
  storeItem : Nat → Option StoreItem
  existsFollow : UserId → UserId → Bool
  item : Nat → Option UserStoreItem
  /-- The unique index on the idempotency keys of the items. -/
  itemKeys : List Nat
  /-- `user_active_store_items`: no row, or a row with or without an item. -/
  active : UserId → StoreItemCategory → Option (Option Nat)
  idem : UserId × Nat → Option (Option PurchaseItemResult)

abbrev StoreTx := Tx StoreDb Lock LedgerError
abbrev StoreProg := Prog StoreDb Lock LedgerError

def StoreDb.setMoney (db : StoreDb) (money : MoneyDb) : StoreDb := { db with money }

def onMoney {α : Type} (x : LedgerTx α) : StoreTx α :=
  x.zoom StoreDb.money fun money db => db.setMoney money

/-- The item a slot points to. -/
def StoreDb.pointer (db : StoreDb) (userId : UserId) (category : StoreItemCategory) : Option Nat :=
  (db.active userId category).join

/-! ### Updates -/

/-- `update` of one item; rows are never deleted, so the one that was looked up is there. -/
def StoreDb.modifyItem (db : StoreDb) (id : Nat) (f : UserStoreItem → UserStoreItem) : StoreDb :=
  { db with item := Function.update db.item id ((db.item id).map f) }

/-- `upsert` of a slot. -/
def StoreDb.setActive (db : StoreDb) (userId : UserId) (category : StoreItemCategory)
    (userStoreItemId : Option Nat) : StoreDb :=
  { db with active := fun u c =>
      if u = userId ∧ c = category then some userStoreItemId else db.active u c }

def lockActiveStoreCategory (userId : UserId) (category : StoreItemCategory) : StoreTx Unit :=
  Tx.lockRow (.storeActive userId category)

/-- `updateMany({ id, userId }, { isApplied: false })`. -/
def unapply (userId : UserId) (row : UserStoreItem) : UserStoreItem :=
  if row.userId = userId then { row with isApplied := false } else row

def unapplyActive (userId : UserId) : Option Nat → StoreTx Unit
  | none => pure ()
  | some id => Tx.update (.userStoreItem id) fun db => db.modifyItem id (unapply userId)

/-! ### The repository -/

/-- The switch of `activateItem`, which a purchase makes too. -/
def activateItem (userId : UserId) (userStoreItemId : Nat) (category : StoreItemCategory) :
    StoreTx Unit := do
  lockActiveStoreCategory userId category
  let activeRow ← Tx.select fun db => db.pointer userId category
  unapplyActive userId activeRow
  let now ← Tx.select fun db => db.now
  Tx.update (.userStoreItem userStoreItemId) fun db =>
    db.modifyItem userStoreItemId fun row => { row with isApplied := true, activatedAt := some now }
  Tx.update (.storeActive userId category) fun db =>
    db.setActive userId category (some userStoreItemId)

def deactivateItem (userId : UserId) (userStoreItemId : Nat) (category : StoreItemCategory) :
    StoreTx Unit := do
  lockActiveStoreCategory userId category
  Tx.update (.userStoreItem userStoreItemId) fun db =>
    db.modifyItem userStoreItemId fun row => { row with isApplied := false }
  Tx.update (.storeActive userId category) fun db => db.setActive userId category none

def clearActiveCategory (userId : UserId) (category : StoreItemCategory) : StoreTx Unit := do
  lockActiveStoreCategory userId category
  let activeRow ← Tx.select fun db => db.pointer userId category
  unapplyActive userId activeRow
  Tx.update (.storeActive userId category) fun db => db.setActive userId category none

/-- The part of `expireItem` under the lock, on the row read again. -/
def expireRow (userStoreItemId : Nat) (row : UserStoreItem) : StoreTx Unit := do
  let now ← Tx.select fun db => db.now
  if now < row.expiresAt then pure ()
  else
    let expiredAt ← Tx.select fun db => db.now
    Tx.update (.userStoreItem userStoreItemId) fun db => db.modifyItem userStoreItemId fun row =>
      { row with isActive := false, isApplied := false, expiredAt := some expiredAt }
    Tx.when row.isApplied
      (Tx.update (.storeActive row.userId row.category) fun db =>
        db.setActive row.userId row.category none)

def expireItem (userStoreItemId : Nat) : StoreTx Unit := do
  let target ← Tx.select fun db => db.item userStoreItemId
  match target with
  | none => pure ()
  | some found =>
    lockActiveStoreCategory found.userId found.category
    let again ← Tx.select fun db => db.item userStoreItemId
    match again with
    | none => pure ()
    | some row => if row.isActive then expireRow userStoreItemId row else pure ()

/-! ### The service -/

def storeItemNotOwned : LedgerError :=
  .app { status := 404, message := "Store item ownership not found", code := .storeItemNotOwned }

def storeItemInactive : LedgerError :=
  .app { status := 400, message := "Store item is inactive", code := .storeItemInactive }

def storeItemExpired : LedgerError :=
  .app { status := 400, message := "Store item has expired", code := .storeItemExpired }

def ownedBy (userId : UserId) (owned : Option UserStoreItem) : Option UserStoreItem :=
  owned.filter fun row => row.userId = userId

def UserStoreItem.usable (row : UserStoreItem) : Bool := row.isActive && row.revokedAt.isNone

def activateOwnedItem (userId : UserId) (userStoreItemId : Nat) : StoreProg Unit := do
  let owned ← Prog.select fun db => ownedBy userId (db.item userStoreItemId)
  match owned with
  | none => Prog.fail storeItemNotOwned
  | some row =>
    Prog.ensure row.usable storeItemInactive
    let now ← Prog.select fun db => db.now
    Prog.ensure (now < row.expiresAt) storeItemExpired
    Prog.transaction (activateItem userId userStoreItemId row.category)

def deactivateOwnedItem (userId : UserId) (userStoreItemId : Nat) : StoreProg Unit := do
  let owned ← Prog.select fun db => ownedBy userId (db.item userStoreItemId)
  match owned with
  | none => Prog.fail storeItemNotOwned
  | some row =>
    Prog.ensure row.usable storeItemInactive
    if row.isApplied then Prog.transaction (deactivateItem userId userStoreItemId row.category)
    else pure ()

def StoreItemCategory.text : StoreItemCategory → String
  | .ride => "RIDE"
  | .avatarFrame => "AVATAR_FRAME"
  | .chatBubble => "CHAT_BUBBLE"
  | .profileCard => "PROFILE_CARD"

def storeItemCategoryMismatch (actual slot : StoreItemCategory) : LedgerError :=
  .app { status := 400,
         message := "Owned item is " ++ StoreItemCategory.text actual ++ ", not " ++
           StoreItemCategory.text slot,
         code := .storeItemCategoryMismatch }

/-- One slot of the input of `setActiveItems`: `null` clears it. -/
structure CosmeticAction where
  category : StoreItemCategory
  userStoreItemId : Option Nat

/-- The checks of one slot, made for all slots before any of them changes. -/
def checkCosmetic (userId : UserId) (action : CosmeticAction) : StoreProg Unit :=
  match action.userStoreItemId with
  | none => pure ()
  | some id => do
    let owned ← Prog.select fun db => ownedBy userId (db.item id)
    match owned with
    | none => Prog.fail storeItemNotOwned
    | some row =>
      Prog.ensure (row.category = action.category)
        (storeItemCategoryMismatch row.category action.category)
      Prog.ensure row.usable storeItemInactive
      let now ← Prog.select fun db => db.now
      Prog.ensure (now < row.expiresAt) storeItemExpired

def applyCosmetic (userId : UserId) (action : CosmeticAction) : StoreProg Unit :=
  Prog.transaction <|
    match action.userStoreItemId with
    | none => clearActiveCategory userId action.category
    | some id => activateItem userId id action.category

def forEach (f : CosmeticAction → StoreProg Unit) : List CosmeticAction → StoreProg Unit
  | [] => pure ()
  | action :: rest => do
    f action
    forEach f rest

/-- `setActiveItems`; the slots come in the order of `cosmeticSlots`, those left out are missing.
The rare id is checked between the two loops and may stop the request there. -/
def setActiveItems (userId : UserId) (actions : List CosmeticAction)
    (rareId : Except LedgerError Unit) : StoreProg Unit := do
  forEach (checkCosmetic userId) actions
  match rareId with
  | .error error => Prog.fail error
  | .ok _ => forEach (applyCosmetic userId) actions

structure PurchaseItemParams where
  buyerId : UserId
  storeItemId : Nat
  recipientId : UserId
  idempotencyKey : Nat

/-- What a purchase runs in: the UUID of the new row and the aborts of its first attempts. -/
structure PurchaseEnvironment where
  userStoreItemId : Nat
  aborts : List Nat

def debitForStoreItemPurchase (userId : UserId) (amount : Int) (recipientId : UserId)
    (idempotencyKey : LedgerKey) : LedgerTx Unit := do
  assertCoinDebitAllowedInTx userId .coin
  let wallet : Wallet := ⟨userId, .coin⟩
  lockForUpdate wallet
  let balance ← latestCoinBalance wallet
  Tx.ensure (amount ≤ balance) insufficientCoins
  let _ ← CoinLedgerRepository.insert
    { wallet, direction := .debit, txType := .storeItemPurchase, amount,
      balanceAfter := balance - amount, counterpartyId := some recipientId, idempotencyKey }
  let _ ← applyCredit userId .wealth amount
  pure ()

def createItem (id key : Nat) (row : UserStoreItem) : StoreTx Unit := do
  Tx.lockRow (.userStoreItem id)
  let taken ← Tx.select fun db => (db.item id).isSome || db.itemKeys.contains key
  Tx.ensure (!taken) .uniqueViolation
  Tx.update (.userStoreItem id) fun db =>
    { db with item := Function.update db.item id (some row), itemKeys := db.itemKeys ++ [key] }

def purchaseTx (env : PurchaseEnvironment) (params : PurchaseItemParams) (item : StoreItem)
    (expiresAt : Time) : StoreTx UserStoreItem := do
  onMoney (debitForStoreItemPurchase params.buyerId item.coinCost params.recipientId
    (.storePurchase params.idempotencyKey))
  let row : UserStoreItem :=
    { userId := params.recipientId, storeItemId := params.storeItemId, category := item.category,
      purchasedById := params.buyerId, coinsPaid := item.coinCost, isActive := true,
      isApplied := false, expiresAt, activatedAt := none, expiredAt := none, revokedAt := none }
  createItem env.userStoreItemId params.idempotencyKey row
  Tx.when (params.recipientId = params.buyerId)
    (activateItem params.recipientId env.userStoreItemId item.category)
  pure row

def storeItemNotFound : LedgerError :=
  .app { status := 404, message := "Store item not found", code := .storeItemNotFound }

def giftNotAllowed : LedgerError :=
  .app { status := 403, message := "Gifting requires follower/following relation",
         code := .giftNotAllowed }

def executePurchaseItem (env : PurchaseEnvironment) (params : PurchaseItemParams) :
    StoreProg PurchaseItemResult := do
  let item ← Prog.select fun db => (db.storeItem params.storeItemId).filter (·.isActive)
  match item with
  | none => Prog.fail storeItemNotFound
  | some item =>
    let related ← Prog.select fun db => db.existsFollow params.buyerId params.recipientId ||
      db.existsFollow params.recipientId params.buyerId
    Prog.ensure (params.recipientId = params.buyerId || related) giftNotAllowed
    let now ← Prog.select fun db => db.now
    let row ← withSerializationRetry
      (purchaseTx env params item (now + item.validityDays * 86400000)) 3 env.aborts
    pure ⟨env.userStoreItemId, row, params.recipientId ≠ params.buyerId⟩

def storeMarkers : IdemMarkers StoreDb (UserId × Nat) PurchaseItemResult where
  get db key := db.idem key
  set key marker db := { db with idem := Function.update db.idem key marker }
  lock key := .requestIdem key.1 key.2

def duplicatePurchase : LedgerError :=
  .app { status := 409, message := "Duplicate purchase (already processed)", code := .idemConflict }

def purchaseItem (env : PurchaseEnvironment) (params : PurchaseItemParams) :
    StoreProg PurchaseItemResult :=
  storeMarkers.around (params.buyerId, params.idempotencyKey) duplicatePurchase
    (executePurchaseItem env params)

/-! ### Requests -/

inductive Request where
  | tick (milliseconds : Nat)
  | purchase (env : PurchaseEnvironment) (params : PurchaseItemParams)
  | activate (userId : UserId) (userStoreItemId : Nat)
  | deactivate (userId : UserId) (userStoreItemId : Nat)
  | setActive (userId : UserId) (actions : List CosmeticAction) (rareId : Except LedgerError Unit)
  | expire (userStoreItemId : Nat)
  | forgetIdem (buyerId : UserId) (key : Nat)

def handler : Request → StoreProg Unit
  | .tick milliseconds => Prog.autocommit .clock fun db => { db with now := db.now + milliseconds }
  | .purchase env params => (purchaseItem env params).forget
  | .activate userId userStoreItemId => activateOwnedItem userId userStoreItemId
  | .deactivate userId userStoreItemId => deactivateOwnedItem userId userStoreItemId
  | .setActive userId actions rareId => setActiveItems userId actions rareId
  | .expire userStoreItemId => Prog.transaction (expireItem userStoreItemId)
  | .forgetIdem buyerId key => storeMarkers.forgetIdemKey (buyerId, key)

end OlNode.Stores
