import Mathlib.Data.List.Sort
import OlNode.LuckyWater.Engine

/-!
# Tiers, pools and the shadow worker

`resolveTier.ts`, the pool statements of `luckyGiftSend`, `luckyTierAdmin.service.ts` and
`shadowWorker.service.ts`. `resolveTier` keeps two process-local caches; what they hold when a
request is served is part of the request's environment, and may be anything.
-/
namespace OlNode

open ReadCommitted

abbrev LedgerProg := Prog MoneyDb Lock LedgerError

def MoneyDb.setLucky (db : MoneyDb) (lucky : LuckyDb) : MoneyDb := { db with lucky }

/-! ### Newest first -/

section Newest

variable {α : Type} (key : α → Nat)

end Newest

/-! ### Tier and engine resolution -/

/-- What `resolveTier.ts` has cached; `none` is a miss or an entry older than its TTL. -/
structure LuckyCaches where
  latestConfigs : Option (List LuckyTierConfig)
  seedExists : LuckyTierId → Option Bool

/-- `ORDER BY tier_id, version DESC`. -/
def newerInTier (a b : LuckyTierConfig) : Prop :=
  a.tierId.order < b.tierId.order ∨ (a.tierId = b.tierId ∧ b.version ≤ a.version)

instance : DecidableRel newerInTier := fun a b =>
  inferInstanceAs (Decidable (a.tierId.order < b.tierId.order ∨ _))

def firstOfTiers (rows : List LuckyTierConfig) : List LuckyTierConfig :=
  rows.foldl (fun byTier row =>
    if byTier.any fun seen => seen.tierId = row.tierId then byTier else byTier ++ [row]) []

def latestConfigIndex (configs : List LuckyTierConfig) : List LuckyTierConfig :=
  firstOfTiers (configs.insertionSort newerInTier)

def LuckyTierConfig.covers (config : LuckyTierConfig) (unitPrice : Int) : Bool :=
  config.priceMin ≤ unitPrice && match config.priceMax with
    | none => true
    | some priceMax => unitPrice ≤ priceMax

/-- The row with the highest version, the first of them if there are several. -/
def highestVersion (configs : List LuckyTierConfig) : Option LuckyTierConfig :=
  (configs.insertionSort fun a b => b.version ≤ a.version).head?

def readTierModeInTx (tierId : LuckyTierId) : LedgerTx LuckyTierMode :=
  Tx.select fun db => (db.lucky.mode tierId).getD .off

def refreshLatestConfigIndex (caches : LuckyCaches) : LedgerTx (List LuckyTierConfig) :=
  match caches.latestConfigs with
  | some cached => pure cached
  | none => Tx.select fun db => latestConfigIndex db.lucky.configs

/-- `pickTierMetaForPrice`, with the query `resolveTierConfig` falls back to. -/
def pickTierForPrice (byTier : List LuckyTierConfig) (unitPrice : Int) :
    LedgerTx (Option LuckyTierConfig) :=
  match byTier.find? (·.covers unitPrice) with
  | some config => pure (some config)
  | none => Tx.select fun db => highestVersion (db.lucky.configs.filter (·.covers unitPrice))

def resolveTierConfig (caches : LuckyCaches) (unitPrice : Int) :
    LedgerTx (Option (LuckyTierConfig × LuckyTierMode)) := do
  let byTier ← refreshLatestConfigIndex caches
  let config ← pickTierForPrice byTier unitPrice
  match config with
  | none => pure none
  | some config =>
    let mode ← readTierModeInTx config.tierId
    pure (some (config, mode))

def tierHasSeed (caches : LuckyCaches) (tierId : LuckyTierId) : LedgerTx Bool :=
  match caches.seedExists tierId with
  | some cached => pure cached
  | none => Tx.select fun db => db.lucky.seedLog.any fun row => row.tierId = tierId

/-- The engine of a send; water_v1 comes with the config it draws by. -/
inductive LuckyEngine where
  | legacy
  | waterV1 (config : LuckyTierConfig)

def resolveEngine (caches : LuckyCaches) (unitPrice : Int) (supportsServerDraw : Bool) :
    LedgerTx LuckyEngine :=
  if supportsServerDraw then do
    let resolved ← resolveTierConfig caches unitPrice
    match resolved with
    | some (config, .enforce) =>
      let seedExists ← tierHasSeed caches config.tierId
      pure (if seedExists then .waterV1 config else .legacy)
    | _ => pure .legacy
  else pure .legacy

/-! ### User caps -/

structure UserCaps where
  priorDailyWon : Int
  coolDownActive : Bool

def utcDayStart (now : Time) : Time := now - now % 86400000

/-- The two cap queries over the audit rows that satisfy `counts`. -/
def userCaps (counts : LuckyDrawAudit → Bool) (now : Time) (senderId : UserId)
    (dailyWinCapCoins : Int) (coolDownSeconds : Nat) (audits : List LuckyDrawAudit) : UserCaps where
  priorDailyWon :=
    if 0 < dailyWinCapCoins then
      ((audits.filter fun a => a.senderUserId = senderId && counts a &&
        utcDayStart now ≤ a.createdAt).map (·.paidReward)).sum
    else 0
  coolDownActive :=
    if 0 < coolDownSeconds then
      audits.any fun a => a.senderUserId = senderId && counts a &&
        now ≤ a.createdAt + coolDownSeconds * 1000 && a.bigWin
    else false

/-- The query asks for `engine = 'water_v1'` only, which every audit row has. -/
def readWaterUserCaps (now : Time) (senderId : UserId) (dailyWinCapCoins : Int)
    (coolDownSeconds : Nat) : LedgerTx UserCaps :=
  Tx.select fun db =>
    userCaps (fun _ => true) now senderId dailyWinCapCoins coolDownSeconds db.lucky.audits

def readShadowUserCaps (now : Time) (senderId : UserId) (dailyWinCapCoins : Int)
    (coolDownSeconds : Nat) : LedgerTx UserCaps :=
  Tx.select fun db =>
    userCaps (fun a => a.mode = .shadow) now senderId dailyWinCapCoins coolDownSeconds
      db.lucky.audits

/-! ### Pools -/

def luckyPoolFloor : LedgerError :=
  .app { status := 500, message := "Lucky pool floor violation", code := .luckyPoolFloor }

def LuckyDb.setPool (db : LuckyDb) (tierId : LuckyTierId) (row : LuckyTierPool) : LuckyDb :=
  { db with pool := fun t => if t = tierId then some row else db.pool t }

def LuckyDb.setShadowPool (db : LuckyDb) (tierId : LuckyTierId) (row : LuckyTierPool) : LuckyDb :=
  { db with shadowPool := fun t => if t = tierId then some row else db.shadowPool t }

/-- INSERT ... ON CONFLICT DO NOTHING of an empty pool. -/
def LuckyDb.ensurePool (db : LuckyDb) (tierId : LuckyTierId) (version : Nat) : LuckyDb :=
  if (db.pool tierId).isSome then db else db.setPool tierId ⟨0, version⟩

/-- Make sure the pool row exists, lock it and read its balance. -/
def lockPool (config : LuckyTierConfig) : LedgerTx Int := do
  Tx.update (.luckyPool config.tierId) fun db =>
    db.setLucky (db.lucky.ensurePool config.tierId config.version)
  Tx.lockRow (.luckyPool config.tierId)
  Tx.select fun db => ((db.lucky.pool config.tierId).map (·.balance)).getD 0

/-- UPDATE ... WHERE (totalPaid = 0 OR finalWater >= floor): the number of rows it affects. -/
def settlePool (config : LuckyTierConfig) (totalPaid finalWater : Int) : LedgerTx Nat := do
  Tx.lockRow (.luckyPool config.tierId)
  let row ← Tx.select fun db => db.lucky.pool config.tierId
  if row.isSome ∧ (totalPaid = 0 ∨ config.floor ≤ finalWater) then
    Tx.update (.luckyPool config.tierId) fun db =>
      db.setLucky (db.lucky.setPool config.tierId ⟨finalWater, config.version⟩)
    pure 1
  else pure 0

/-- INSERT of an audit row; its key is unique. -/
def createDrawAudit (row : LuckyDrawAudit) : LedgerTx Unit := do
  Tx.lockRow (.luckyAudit row.idempotencyKey)
  let taken ← Tx.select fun db =>
    db.lucky.audits.any fun a => a.idempotencyKey = row.idempotencyKey
  Tx.ensure (!taken) .uniqueViolation
  Tx.update (.luckyAudit row.idempotencyKey) fun db =>
    db.setLucky { db.lucky with audits := db.lucky.audits ++ [row] }

/-! ### Administration -/

def luckyTierNotFound : LedgerError :=
  .app { status := 404, message := "Tier config not found", code := .luckyTierNotFound }

def getLatestConfig (tierId : LuckyTierId) : LedgerProg (Option LuckyTierConfig) :=
  Prog.select fun db => highestVersion (db.lucky.configs.filter (·.tierId = tierId))

/-- The fields of a config version that `createConfigVersion` can change. -/
structure LuckyTierPatch where
  rBp : Option Int := none
  jBp : Option Int := none
  l0 : Option Int := none
  floor : Option Int := none
  lambdaCriticalMaxBp : Option Nat := none
  lambdaLowMaxBp : Option Nat := none
  lambdaNormalMaxBp : Option Nat := none
  bandWeights : Option BandWeightsByBand := none
  mMax : Option Int := none
  dailyWinCapCoins : Option Int := none
  coolDownAfterBigWinSeconds : Option Nat := none

/-- The next version of a config; `none` when a CHECK constraint of the table refuses the row. -/
def LuckyTierConfig.next (latest : LuckyTierConfig) (patch : LuckyTierPatch) :
    Option LuckyTierConfig :=
  let rBp := patch.rBp.getD latest.rBp
  let l0 := patch.l0.getD latest.l0
  let floor := patch.floor.getD latest.floor
  let mMax := patch.mMax.getD latest.mMax
  if checks : 0 < rBp ∧ 0 < l0 ∧ 0 ≤ floor ∧ floor ≤ l0 ∧ 0 < mMax then
    some
      { tierId := latest.tierId, version := latest.version + 1, priceMin := latest.priceMin,
        priceMax := latest.priceMax, rBp, jBp := patch.jBp.getD latest.jBp, l0, floor,
        thresholds :=
          { criticalMaxBp := patch.lambdaCriticalMaxBp.getD latest.thresholds.criticalMaxBp
            lowMaxBp := patch.lambdaLowMaxBp.getD latest.thresholds.lowMaxBp
            normalMaxBp := patch.lambdaNormalMaxBp.getD latest.thresholds.normalMaxBp },
        bandWeights := patch.bandWeights.getD latest.bandWeights, mMax,
        dailyWinCapCoins := patch.dailyWinCapCoins.getD latest.dailyWinCapCoins,
        coolDownAfterBigWinSeconds :=
          patch.coolDownAfterBigWinSeconds.getD latest.coolDownAfterBigWinSeconds,
        rBp_pos := checks.1, l0_pos := checks.2.1, floor_nonneg := checks.2.2.1,
        floor_le_l0 := checks.2.2.2.1, mMax_pos := checks.2.2.2.2 }
  else none

def LambdaThresholds.increasing (t : LambdaThresholds) : Bool :=
  t.criticalMaxBp < t.lowMaxBp && t.lowMaxBp < t.normalMaxBp

def luckyTierEconInvalid : LedgerError :=
  .app { status := 422, message := "Invalid tier economics", code := .luckyTierEconInvalid }

/-- `createConfigVersion`. `econValid` is the answer of `validateWeightsForTier`. -/
def createConfigVersion (tierId : LuckyTierId) (patch : LuckyTierPatch) (econValid : Bool) :
    LedgerProg LuckyTierConfig := do
  let latest ← getLatestConfig tierId
  match latest with
  | none => Prog.fail luckyTierNotFound
  | some latest =>
    match latest.next patch with
    | none => Prog.fail luckyTierEconInvalid
    | some next =>
      Prog.ensure next.thresholds.increasing luckyTierEconInvalid
      Prog.ensure econValid luckyTierEconInvalid
      Prog.autocommit (.luckyTier tierId) fun db =>
        db.setLucky { db.lucky with configs := db.lucky.configs ++ [next] }
      pure next

/-- `setMode`. `allowed` is the answer of its guards, which only read. -/
def setMode (tierId : LuckyTierId) (mode : LuckyTierMode) (allowed : Bool) : LedgerProg Unit := do
  let latest ← getLatestConfig tierId
  match latest with
  | none => Prog.fail luckyTierNotFound
  | some _ =>
    let prevMode ← Prog.select fun db => (db.lucky.mode tierId).getD .off
    if prevMode = mode then pure ()
    else
      Prog.ensure allowed luckyTierEconInvalid
      Prog.autocommit (.luckyTier tierId) fun db =>
        db.setLucky { db.lucky with
          mode := fun t => if t = tierId then some mode else db.lucky.mode t }

def luckyTierSeedInvalid (message : String) : LedgerError :=
  .app { status := 422, message, code := .luckyTierSeedInvalid }

/-- The top-up is one statement, relative to the balance in the row. -/
def LuckyDb.topUp (db : LuckyDb) (tierId : LuckyTierId) (version : Nat) (amount : Int) : LuckyDb :=
  match db.pool tierId with
  | none => db.setPool tierId ⟨amount, version⟩
  | some row => db.setPool tierId { row with balance := row.balance + amount }

def recordSeedTx (tierId : LuckyTierId) (version : Nat) (choice : SeedChoice) (amount : Int) :
    LedgerTx (Option Int) := do
  Tx.update (.luckyTier tierId) fun db =>
    db.setLucky { db.lucky with seedLog := db.lucky.seedLog ++ [⟨tierId, amount, choice⟩] }
  if choice = .seed then
    Tx.update (.luckyPool tierId) fun db => db.setLucky (db.lucky.topUp tierId version amount)
    Tx.select fun db => (db.lucky.pool tierId).map (·.balance)
  else pure none

def recordSeedDecision (tierId : LuckyTierId) (choice : SeedChoice) (amount : Int) :
    LedgerProg (Option Int) := do
  Prog.ensure (!(choice = .seed && amount ≤ 0))
    (luckyTierSeedInvalid "Seed amount must be positive when choice=seed")
  Prog.ensure (!(choice ≠ .seed && amount ≠ 0))
    (luckyTierSeedInvalid "amount must be 0 unless choice=seed")
  Prog.ensure (choice ≠ .cappedLadder) (.app
    { status := 422, message := "capped_ladder is not implemented; use seed or start_empty",
      code := .luckyTierSeedNotImplemented })
  let latest ← getLatestConfig tierId
  match latest with
  | none => Prog.fail luckyTierNotFound
  | some latest => Prog.transaction (recordSeedTx tierId latest.version choice amount)

/-! ### The shadow worker -/

def SHADOW_SETTLE_LAG_MS : Nat := 15000 + 10000 + 30000

def SHADOW_WORKER_BATCH_SIZE : Nat := 50

/-- A settled lucky gift with the gift's current price. -/
structure ShadowGiftRow where
  id : Nat
  senderUserId : UserId
  quantity : Nat
  createdAt : Time
  unitPrice : Int

def LuckyDb.ensureShadowPool (db : LuckyDb) (config : LuckyTierConfig) : LuckyDb :=
  if (db.shadowPool config.tierId).isSome then db
  else db.setShadowPool config.tierId ⟨config.l0, config.version⟩

def ensureShadowPoolAtL0 (config : LuckyTierConfig) : LedgerTx Int := do
  Tx.update (.luckyShadowPool config.tierId) fun db =>
    db.setLucky (db.lucky.ensureShadowPool config)
  Tx.lockRow (.luckyShadowPool config.tierId)
  Tx.select fun db => ((db.lucky.shadowPool config.tierId).map (·.balance)).getD config.l0

def setCursor (cursor : LuckyShadowCursor) : LedgerTx Unit :=
  Tx.update .luckyCursor fun db => db.setLucky { db.lucky with shadowCursor := some cursor }

def advanceCursor (createdAt : Time) (id : Nat) : LedgerTx Unit := setCursor ⟨createdAt, some id⟩

/-- The parameters of a draw that come from the tier's config. -/
def LuckyTierConfig.drawParams (config : LuckyTierConfig) (unitPrice : Int) (count : Nat)
    (startingWater : Int) (caps : UserCaps) (rolls : Nat → Nat) : DrawUnitsParams :=
  { unitPrice, count, weights := config.bandWeights, thresholds := config.thresholds,
    l0 := config.l0, floor := config.floor, mMax := config.mMax, startingWater,
    dailyWinCapCoins := config.dailyWinCapCoins, priorDailyWon := caps.priorDailyWon,
    coolDownActive := caps.coolDownActive, randomInt := rolls }

def shadowPoolFloor : LedgerError :=
  .app { status := 500, message := "Shadow pool floor violation", code := .internalError }

/-- `processShadowDraw`. Its catch of a unique violation writes the cursor in a transaction that
the violation has already aborted, so the row fails there as well. -/
def processShadowDraw (now : Time) (rolls : Nat → Nat) (row : ShadowGiftRow)
    (config : LuckyTierConfig) : LedgerTx Unit := do
  let totalCost := row.unitPrice * row.quantity
  let existing ← Tx.select fun db =>
    db.lucky.audits.any fun a => a.idempotencyKey = .shadow row.id
  if existing then advanceCursor row.createdAt row.id
  else
    let poolBalance ← ensureShadowPoolAtL0 config
    let inflow := computeInflow totalCost config.rBp
    let caps ← readShadowUserCaps now row.senderUserId config.dailyWinCapCoins
      config.coolDownAfterBigWinSeconds
    let draw := drawUnits
      (config.drawParams row.unitPrice row.quantity (poolBalance + inflow) caps rolls)
    Tx.ensure (draw.totalPaid = 0 ∨ config.floor ≤ draw.finalWater) shadowPoolFloor
    Tx.update (.luckyShadowPool config.tierId) fun db =>
      db.setLucky (db.lucky.setShadowPool config.tierId ⟨draw.finalWater, config.version⟩)
    createDrawAudit
      { idempotencyKey := .shadow row.id, payloadFingerprint := none, mode := .shadow,
        tierId := config.tierId, senderUserId := row.senderUserId, giftTransactionId := row.id,
        inflow, bigWin := draw.bigWin, breakdownArray := collapseBreakdown draw.rewards,
        category := resolveCategory row.quantity row.unitPrice draw.totalPaid,
        paidReward := draw.totalPaid, senderBalanceAfter := none,
        configVersion := config.version, createdAt := now }
    advanceCursor row.createdAt row.id

def processShadowGiftRow (now : Time) (caches : LuckyCaches) (rolls : Nat → Nat)
    (row : ShadowGiftRow) : LedgerTx Unit := do
  let resolved ← resolveTierConfig caches row.unitPrice
  match resolved with
  | some (config, .shadow) =>
    let existing ← Tx.select fun db =>
      db.lucky.audits.any fun a => a.idempotencyKey = .shadow row.id
    if existing then advanceCursor row.createdAt row.id
    else processShadowDraw now rolls row config
  | _ => advanceCursor row.createdAt row.id

def parkShadowCursor (now : Time) : LedgerProg Unit := do
  let parkAt := now - SHADOW_SETTLE_LAG_MS
  let cursor ← Prog.select fun db => db.lucky.shadowCursor
  if (cursor.map (·.lastCreatedAt)).any (parkAt ≤ ·) then pure ()
  else Prog.transaction (setCursor ⟨parkAt, none⟩)

/-- The gifts after the cursor, oldest first, at most one batch. -/
def shadowGiftBatch (now : Time) (cursor : LuckyShadowCursor) (db : MoneyDb) :
    List ShadowGiftRow :=
  let after (g : GiftTransaction) : Bool :=
    cursor.lastCreatedAt < g.createdAt ||
      (cursor.lastCreatedAt = g.createdAt && cursor.lastId.any (· < g.id))
  let rows := db.giftTransactions.filter fun g =>
    (g.context = .luckySingle || g.context = .luckyCombo) &&
      g.createdAt + SHADOW_SETTLE_LAG_MS < now && after g
  let sorted := rows.insertionSort fun a b =>
    a.createdAt < b.createdAt ∨ (a.createdAt = b.createdAt ∧ a.id ≤ b.id)
  (sorted.filterMap fun g => (db.gift g.giftId).map fun gift =>
    ⟨g.id, g.senderUserId, g.quantity, g.createdAt, gift.coinCost⟩).take SHADOW_WORKER_BATCH_SIZE

def fetchShadowGiftBatch (now : Time) : LedgerProg (List ShadowGiftRow) := do
  let cursor ← Prog.select fun db => db.lucky.shadowCursor
  match cursor with
  | none =>
    parkShadowCursor now
    pure []
  | some cursor => Prog.select fun db => shadowGiftBatch now cursor db

/-- The loop over a batch; the first row that throws ends it. -/
def processShadowRows (now : Time) (caches : LuckyCaches) (rolls : Nat → Nat → Nat) :
    List ShadowGiftRow → LedgerProg Unit
  | [] => pure ()
  | row :: rows =>
    (processShadowGiftRow now caches (rolls row.id) row).run
      (fun _ => processShadowRows now caches rolls rows) (fun _ => pure ())

def LUCKY_TIER_IDS : List LuckyTierId := [.t100, .t500, .t2k, .t10k, .t50k]

/-- `runShadowWorkerTick`; `rolls` are the random numbers for each gift. -/
def runShadowWorkerTick (now : Time) (caches : LuckyCaches) (rolls : Nat → Nat → Nat) :
    LedgerProg Unit := do
  let anyShadow ← Prog.select fun db =>
    LUCKY_TIER_IDS.any fun t => db.lucky.mode t = some .shadow
  if anyShadow then
    let batch ← fetchShadowGiftBatch now
    processShadowRows now caches rolls batch
  else parkShadowCursor now

end OlNode
