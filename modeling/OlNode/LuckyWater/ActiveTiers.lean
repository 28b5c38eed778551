import OlNode.LuckyWater.Economy

/-!
# The guard holds for every active tier

Shares, modes and configs are only changed after the tiers they concern have been validated against
the shares and levels of that moment. Commission levels are not: they keep the guard only as far as
the agency's new share fits into the room the active tiers leave.
-/
namespace OlNode.Economy

open ReadCommitted

def EconomyDb.current (db : EconomyDb) : HostRevenueShareRow := db.shares.getD defaultShares

/-- F2 of a tier's row against the shares and the levels. -/
def PassesF2 (shares : HostRevenueShares) (levels : List CommissionLevelRow)
    (row : LuckyTierRow) : Prop :=
  0 < selfGiftGuardMarginBp (computeAllBandEvBp row.bandWeights .high)
    (buildLuckyF2Econ shares levels row.econ)

/-- The latest configs of the tiers in shadow or enforce mode. -/
def Active (db : EconomyDb) (row : LuckyTierRow) : Prop :=
  ∃ tierId mode, activeMode db tierId = some mode ∧ getLatestConfig db tierId = some row

def ActiveTiersPass (db : EconomyDb) : Prop :=
  ∀ row, Active db row → PassesF2 db.current.toHostRevenueShares (getLevelConfig db) row

/-- The active tiers pass, and the copy of the shares is the row itself. -/
structure Sound (db : EconomyDb) : Prop where
  tiers : ActiveTiersPass db
  cache : ∀ row ∈ db.cachedShares, db.shares = some row

/-- At most the copy of the shares and their default row were written. -/
structure Same (db db' : EconomyDb) : Prop where
  configs : db'.configs = db.configs
  mode : db'.mode = db.mode
  levels : db'.levels = db.levels
  current : db'.current = db.current

/-! ### Reading the shares -/

section Reading

variable {db db' : EconomyDb}

theorem Same.sound (same : Same db db') (sound : Sound db)
    (cache : ∀ row ∈ db'.cachedShares, db'.shares = some row) : Sound db' where
  tiers row := by
    rintro ⟨tierId, mode, active, latest⟩
    have before : Active db row := by
      refine ⟨tierId, mode, ?_, ?_⟩
      · rwa [activeMode, same.mode] at active
      · rwa [getLatestConfig, same.configs] at latest
    rw [same.current, getLevelConfig, same.levels]
    exact sound.tiers row before
  cache := cache

end Reading

/-! ### The operations -/

section Operations

variable {db : EconomyDb}

variable {t : EconomyDb}

/-- The levels once the rows of a request are saved. -/
def replacedLevels (levels : List CommissionLevelRow) (inputs : List CommissionLevelInput) :
    List CommissionLevelRow :=
  (inputs.filterMap fun input => (checkLevel input).toOption).foldl upsertLevel levels

end Operations

/-! ### Sequences of operations -/

/-- The six levels of the ladder, D to SS+, each with its rate. -/
def ladder (rateBp : Nat → Int) : List CommissionLevelInput :=
  [0, 1500000, 7500000, 35000000, 100000000, 250000000].zipIdx.map fun (points, level) =>
    { level, minWindowPoints := points, liveRateBp := rateBp level, matchChatRateBp := rateBp level,
      sortOrder := level + 1 }

/-- 4 % at level D, up to 24 % at SS+. -/
def seededRates (level : Nat) : Int := 400 * (level + 1)

/-- The database as the migrations leave it. -/
def seeded : EconomyDb where
  configs := DEFAULT_TIERS_V1
  mode := fun _ => none
  levels := replacedLevels [] (ladder seededRates)
  shares := none
  cachedShares := none

/-- The commission is switched on. -/
def switchedOn : EconomyDb :=
  ((handler (.updateConfig { luckyWaterAgencyCommission := some true })).call seeded).2

/-- The rates are lowered to 0, and the first tier is put into shadow mode. -/
def commissionOn : EconomyDb :=
  ((handler (.setMode .t100 .shadow none)).call
    ((handler (.replaceCommissionLevels (ladder fun _ => 0))).call switchedOn).2).2

end OlNode.Economy
