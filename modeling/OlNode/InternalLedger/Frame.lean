import OlNode.InternalLedger.Requests
import OlNode.ReadCommitted.Locked

/-!
# What the money operations touch

For each operation the rows it locks or writes, the kinds of writes it makes and the errors it
throws, stated once for any class of rows, writes and errors that contains them. Each invariant
below looks at a few tables only and takes from here that the other operations leave them alone.
-/
namespace OlNode.InternalLedger

open ReadCommitted

abbrev LedgerFootprint := Footprint MoneyDb Lock LedgerError

/-- The database as it would be if the shadow worker had never run. -/
def MoneyDb.withoutShadow (db : MoneyDb) : MoneyDb :=
  db.setLucky { db.lucky with
    audits := db.lucky.audits.filter fun a => a.mode = .enforce
    shadowPool := fun _ => none, shadowCursor := none }

/-- States that have to look the same differ at most in what the shadow worker has written; all
errors may be thrown but the pool's floor violation. -/
structure PlainFrame (F : LedgerFootprint) : Prop where
  same : ∀ s s', F.same s s' → s' = s ∨ s' = MoneyDb.withoutShadow s
  errors : ∀ error, error ≠ luckyPoolFloor → F.error error

theorem plainFrame_outside {W V : Type} {S : Parts MoneyDb Lock LedgerError W V}
    (errors : ∀ error, error ≠ luckyPoolFloor → S.throws error) : PlainFrame S.outside :=
  ⟨fun _ _ same => .inl same.symm, errors⟩

/-- A query that does not look at the shadow worker's rows. -/
theorem PlainFrame.blind {F : LedgerFootprint} (frame : PlainFrame F) {α : Type} {q : MoneyDb → α}
    (plain : q ∘ MoneyDb.withoutShadow = q) : F.Blind q := by
  intro s s' same
  rcases frame.same s s' same with rfl | rfl
  · rfl
  · exact congrFun plain s

theorem PlainFrame.read {F : LedgerFootprint} (frame : PlainFrame F) {α β : Type}
    {q : MoneyDb → α} {k : α → LedgerTx β} (plain : q ∘ MoneyDb.withoutShadow = q)
    (rest : ∀ a, (k a).Touches F) : (Tx.select q >>= k).Touches F :=
  Tx.touches_select_bind (frame.blind plain) fun _ _ => rest _

theorem PlainFrame.fails {F : LedgerFootprint} (frame : PlainFrame F) {error : LedgerError}
    (other : (error == luckyPoolFloor) = false) : F.error error :=
  frame.errors _ (beq_eq_false_iff_ne.mp other)

theorem PlainFrame.check {F : LedgerFootprint} (frame : PlainFrame F) {β : Type}
    {condition : Bool} {error : LedgerError} {k : Unit → LedgerTx β}
    (other : (error == luckyPoolFloor) = false) (rest : condition = true → (k ()).Touches F) :
    (Tx.ensure condition error >>= k).Touches F :=
  Tx.touches_ensure_bind (frame.fails other) rest

/-- Levels, commission markers and gift transactions. -/
structure SideFrame (F : LedgerFootprint) : Prop extends PlainFrame F where
  level : ∀ userId levelType, F.row (.userLevel userId levelType)
  setLevel : ∀ userId levelType row, F.write fun db => db.setLevel userId levelType row
  commission : ∀ hostEntry, F.row (.commissionProcessed hostEntry)
  mark : ∀ hostEntry : LedgerKey,
    F.write fun db => { db with commissionProcessed := db.commissionProcessed ++ [hostEntry] }
  gift : ∀ id, F.row (.giftTransaction id)
  addGift : ∀ row, F.write fun db => { db with giftTransactions := db.giftTransactions ++ [row] }

/-- The wallets, and ledger rows under the keys in `keys`. -/
structure WalletFrame (F : LedgerFootprint) (keys : LedgerKey → Prop) : Prop extends SideFrame F where
  wallet : ∀ w, F.row (.wallet w)
  coinKey : ∀ key, keys key → F.row (.coinKey key)
  pointKey : ∀ key, keys key → F.row (.pointKey key)
  addCoin : ∀ entry : CoinLedgerEntry, keys entry.idempotencyKey → F.write fun db => db.addCoin entry
  addPoint : ∀ entry : PointLedgerEntry, keys entry.idempotencyKey → F.write fun db => db.addPoint entry
  commissionKey : ∀ hostEntry, keys (.agencyCommission hostEntry)

section Side

variable {F : LedgerFootprint}
  (frame : SideFrame F)

include frame

theorem applyCredit_touches (userId : UserId) (levelType : LevelType) (increment : Int) :
    (applyCredit userId levelType increment).Touches F := by
  refine .bind ((Tx.touches_lockRow _).mpr (frame.level ..)) fun _ => ?_
  refine frame.read rfl fun _ => frame.read rfl fun _ => ?_
  exact .bind ((Tx.touches_update _ _).mpr ⟨frame.level .., frame.setLevel ..⟩) fun _ => trivial

theorem markCommissionProcessed_touches (hostEntry : LedgerKey) :
    (markCommissionProcessed hostEntry).Touches F := by
  refine .bind ((Tx.touches_lockRow _).mpr (frame.commission _)) fun _ => ?_
  refine frame.read rfl fun db => ?_
  split
  · trivial
  · exact .bind ((Tx.touches_update _ _).mpr ⟨frame.commission _, frame.mark _⟩) fun _ => trivial

theorem createGiftTransaction_touches (row : GiftTransaction) :
    (createGiftTransaction row).Touches F := by
  refine .bind ((Tx.touches_lockRow _).mpr (frame.gift _)) fun _ => ?_
  refine frame.read rfl fun db => ?_
  refine frame.check rfl fun _ => ?_
  exact (Tx.touches_update _ _).mpr ⟨frame.gift _, frame.addGift _⟩

theorem assertCoinDebitAllowedInTx_touches (userId : UserId) (currencyType : WalletCurrencyType) :
    (assertCoinDebitAllowedInTx userId currencyType).Touches F := by
  refine .bind ?_ fun flags => ?_
  · refine frame.read rfl fun db => ?_
    split
    · exact frame.fails rfl
    · trivial
  · unfold throwIfCoinFrozen
    split
    · exact frame.fails rfl
    · split
      · exact frame.fails rfl
      · trivial

theorem assertPointsDebitAllowedInTx_touches (userId : UserId) :
    (assertPointsDebitAllowedInTx userId).Touches F := by
  refine .bind ?_ fun flags => Tx.touches_ensure (frame.fails rfl)
  refine frame.read rfl fun db => ?_
  split
  · exact frame.fails rfl
  · trivial

end Side

section Plain

variable {F : LedgerFootprint} (frame : PlainFrame F)

include frame

theorem commissionAgency_touches (hostUserId : Option UserId) (withCommission : Bool) :
    (commissionAgency hostUserId withCommission).Touches F := by
  unfold commissionAgency
  split
  · split
    · exact Tx.touches_select (frame.blind rfl)
    · trivial
  · trivial

theorem resolveTierConfig_touches (caches : LuckyCaches) (unitPrice : Int) :
    (resolveTierConfig caches unitPrice).Touches F := by
  refine .bind ?_ fun byTier => .bind ?_ fun config => ?_
  · unfold refreshLatestConfigIndex
    split
    · trivial
    · exact Tx.touches_select (frame.blind rfl)
  · unfold pickTierForPrice
    split
    · trivial
    · exact Tx.touches_select (frame.blind rfl)
  · split
    · trivial
    · exact frame.read rfl fun _ => trivial

theorem resolveEngine_touches (caches : LuckyCaches) (unitPrice : Int) (supportsServerDraw : Bool) :
    (resolveEngine caches unitPrice supportsServerDraw).Touches F := by
  unfold resolveEngine
  split
  · refine .bind (resolveTierConfig_touches frame caches unitPrice) fun resolved => ?_
    split
    · refine .bind ?_ fun _ => trivial
      unfold tierHasSeed
      split
      · trivial
      · exact Tx.touches_select (frame.blind rfl)
    · trivial
  · trivial

end Plain

section Wallets

variable {F : LedgerFootprint}
  {keys : LedgerKey → Prop} (frame : WalletFrame F keys)

include frame

theorem insertCoin_touches {entry : CoinLedgerEntry} (own : keys entry.idempotencyKey) :
    (CoinLedgerRepository.insert entry).Touches F := by
  refine frame.check rfl fun _ => ?_
  refine .bind ((Tx.touches_lockRow _).mpr (frame.coinKey _ own)) fun _ => ?_
  refine frame.read rfl fun db => ?_
  refine frame.check rfl fun _ => ?_
  exact .bind ((Tx.touches_update _ _).mpr ⟨frame.coinKey _ own, frame.addCoin _ own⟩)
    fun _ => trivial

theorem insertPoint_touches {entry : PointLedgerEntry} (own : keys entry.idempotencyKey) :
    (PointLedgerRepository.insert entry).Touches F := by
  refine frame.check rfl fun _ => ?_
  refine .bind ((Tx.touches_lockRow _).mpr (frame.pointKey _ own)) fun _ => ?_
  refine frame.read rfl fun db => ?_
  refine frame.check rfl fun _ => ?_
  exact .bind ((Tx.touches_update _ _).mpr ⟨frame.pointKey _ own, frame.addPoint _ own⟩)
    fun _ => trivial

theorem creditRow_touches (userId : UserId) (amount : Int) (txType : PointTxType)
    {options : PointOptions} (own : keys options.idempotencyKey) :
    (PointWallet.creditRow userId amount txType options).Touches F := by
  refine frame.check rfl fun _ => ?_
  refine frame.read rfl fun db => ?_
  split
  · trivial
  · refine .bind ((Tx.touches_lockRow _).mpr (frame.wallet _)) fun _ => ?_
    refine frame.read rfl fun _ => ?_
    exact .bind (insertPoint_touches frame own) fun _ => trivial

variable (now : Time)

theorem applyCommission_touches (hostUserId : UserId) (hostEntry : LedgerKey)
    (hostPointsCredited : Int) (hostTxType : PointTxType) :
    (applyCommission now hostUserId hostEntry hostPointsCredited hostTxType).Touches F := by
  refine frame.read rfl fun resolved => ?_
  cases resolved with
  | none => trivial
  | some agencyUserId =>
    dsimp only
    split
    · refine frame.read rfl fun agencyRow => ?_
      split
      · exact .bind (markCommissionProcessed_touches frame.toSideFrame _) fun _ => trivial
      · refine frame.read rfl fun levelCfg => ?_
        cases levelCfg with
        | none => exact frame.fails rfl
        | some cfg =>
          refine .bind (markCommissionProcessed_touches frame.toSideFrame _) fun fresh => ?_
          split
          · refine .bind (Tx.touches_when ?_) fun _ => trivial
            refine frame.read rfl fun host => ?_
            exact .bind (creditRow_touches frame _ _ _ (frame.commissionKey _)) fun _ => trivial
          · trivial
    · trivial

theorem lockWalletsInOrder_touches (wallets : List Wallet) :
    (lockWalletsInOrder wallets).Touches F := by
  induction wallets with
  | nil => trivial
  | cons wallet wallets ih =>
    exact .bind ((Tx.touches_lockRow _).mpr (frame.wallet _)) fun _ => ih

theorem lockForOperation_touches (payerUserId : UserId) (hostUserId : Option UserId)
    (withCommission : Bool) :
    (lockForOperation payerUserId hostUserId withCommission).Touches F := by
  refine .bind (commissionAgency_touches frame.toPlainFrame _ _) fun agencyUserId => ?_
  refine .bind (lockWalletsInOrder_touches frame _) fun _ => ?_
  exact assertCoinDebitAllowedInTx_touches frame.toSideFrame _ _

theorem settleHostCredit_touches (hostUserId : UserId) (hostEntry : LedgerKey) (points : Int)
    (txType : PointTxType) (withCommission : Bool) :
    (settleHostCredit now hostUserId hostEntry points txType withCommission).Touches F := by
  unfold settleHostCredit
  split
  · exact applyCommission_touches frame _ _ _ _ _
  · trivial

theorem walletOp_touches {op : WalletOp} (own : keys op.key) :
    (op.tx now).Touches F := by
  have side := frame.toSideFrame
  cases op with
  | coinCredit userId amount txType options =>
    refine frame.check rfl fun _ => ?_
    refine frame.read rfl fun db => ?_
    split
    · trivial
    · refine .bind ((Tx.touches_lockRow _).mpr (frame.wallet _)) fun _ => ?_
      refine frame.read rfl fun _ => ?_
      refine .bind (Tx.touches_when ?_) fun _ => ?_
      · exact .bind (applyCredit_touches side _ _ _) fun _ => trivial
      · exact .bind (insertCoin_touches frame own) fun _ => trivial
  | coinDebit userId amount txType options =>
    refine frame.check rfl fun _ => ?_
    refine frame.read rfl fun db => ?_
    split
    · trivial
    · refine .bind ((Tx.touches_lockRow _).mpr (frame.wallet _)) fun _ => ?_
      refine .bind (Tx.touches_when (assertCoinDebitAllowedInTx_touches side _ _)) fun _ => ?_
      refine frame.read rfl fun _ => ?_
      refine frame.check rfl fun _ => ?_
      refine .bind (insertCoin_touches frame own) fun _ => .bind (Tx.touches_when ?_) fun _ => trivial
      exact .bind (applyCredit_touches side _ _ _) fun _ => trivial
  | pointCredit userId amount txType options real =>
    refine .bind (creditRow_touches frame _ _ _ own) fun row => ?_
    refine .bind (Tx.touches_when ?_) fun _ => .bind (Tx.touches_when ?_) fun _ => trivial
    · exact .bind (applyCommission_touches frame _ _ _ _ _) fun _ => trivial
    · exact .bind (applyCredit_touches side _ _ _) fun _ => trivial
  | pointDebit userId amount txType options real =>
    refine frame.check rfl fun _ => ?_
    refine frame.read rfl fun db => ?_
    split
    · trivial
    · refine frame.read rfl fun _ => ?_
      refine .bind ((Tx.touches_lockRow _).mpr (frame.wallet _)) fun _ => ?_
      refine .bind (Tx.touches_when (assertPointsDebitAllowedInTx_touches side _)) fun _ => ?_
      refine frame.read rfl fun _ => ?_
      refine frame.check rfl fun _ => ?_
      exact .bind (insertPoint_touches frame own) fun _ => trivial
  | escrow userId amount options =>
    refine frame.check rfl fun _ => ?_
    refine frame.read rfl fun db => ?_
    split
    · trivial
    · refine .bind (assertPointsDebitAllowedInTx_touches side _) fun _ => ?_
      refine .bind ((Tx.touches_lockRow _).mpr (frame.wallet _)) fun _ => ?_
      refine frame.read rfl fun _ => ?_
      exact .bind (insertPoint_touches frame own) fun _ => trivial

theorem walletTx_touches {ops : List WalletOp} (own : ∀ op ∈ ops, keys op.key) :
    (walletTx now ops).Touches F := by
  induction ops with
  | nil => trivial
  | cons op ops ih =>
    refine .bind (walletOp_touches frame now (own op (by simp))) fun _ => ih fun other member => ?_
    exact own other (by simp [member])

variable (env : Environment)

theorem giftSendTx_touches (input : GiftSendInput) (gift : Gift) (coinCost points : Int)
    (coin : keys (.giftCoin input.idemBase)) (point : keys (.giftPoint input.idemBase)) :
    (giftSendTx env input gift coinCost points).Touches F := by
  have side := frame.toSideFrame
  refine .bind (lockForOperation_touches frame _ _ _) fun _ => ?_
  refine frame.read rfl fun coins => ?_
  refine frame.check rfl fun _ => ?_
  refine frame.read rfl fun pointsBefore => ?_
  refine .bind (insertCoin_touches frame coin) fun _ => .bind ?_ fun credited => ?_
  · unfold creditGiftHost
    split
    · exact .bind (insertPoint_touches frame point) fun _ => trivial
    · trivial
  · refine .bind (createGiftTransaction_touches side _) fun _ => ?_
    refine .bind (applyCredit_touches side _ _ _) fun wealth => ?_
    split
    · refine .bind (applyCredit_touches side _ _ _) fun _ => ?_
      exact .bind (settleHostCredit_touches frame _ _ _ _ _ _) fun _ => trivial
    · trivial

theorem creditLuckyHost_touches (input : LuckyGiftInput) (hostPoints : Int)
    (withCommission : Bool) (host : keys (.luckyHostCut input.txKeyBase)) :
    (creditLuckyHost env input hostPoints withCommission).Touches F := by
  unfold creditLuckyHost
  split
  · refine frame.read rfl fun before => ?_
    refine .bind (insertPoint_touches frame host) fun _ => ?_
    refine .bind (applyCredit_touches frame.toSideFrame _ _ _) fun _ => ?_
    exact .bind (settleHostCredit_touches frame _ _ _ _ _ _) fun _ => trivial
  · trivial

theorem payReward_touches (input : LuckyGiftInput) (coinsAfterDebit reward : Int)
    (own : keys (.luckyReward input.txKeyBase)) :
    (payReward input coinsAfterDebit reward).Touches F := by
  unfold payReward
  split
  · exact .bind (insertCoin_touches frame own) fun _ => trivial
  · trivial

theorem legacyPayout_touches (input : LuckyGiftInput) (gift : Gift)
    (totalCost hostPoints coinsAfterDebit : Int) (withCommission : Bool) (wealth : LevelResult)
    (host : keys (.luckyHostCut input.txKeyBase)) (reward : keys (.luckyReward input.txKeyBase)) :
    (legacyPayout env input gift totalCost hostPoints coinsAfterDebit withCommission
      wealth).Touches F := by
  refine .bind (payReward_touches frame input _ _ reward) fun _ => ?_
  refine .bind (creditLuckyHost_touches frame env input _ _ host) fun _ => ?_
  exact .bind (createGiftTransaction_touches frame.toSideFrame _) fun _ => trivial

theorem checkEngine_touches (input : LuckyGiftInput) (unitPrice totalCost : Int)
    (engine : LuckyEngine) : (checkEngine input unitPrice totalCost engine).Touches F := by
  cases engine <;> exact Tx.touches_ensure (frame.fails rfl)

theorem billMinute_touches (session : VideoCallSession) (minute requestId : Nat)
    (coin : keys (.callMinuteCoins session.id minute))
    (point : keys (.callMinutePoints session.id minute)) :
    (billMinute env session minute requestId).Touches F := by
  have side := frame.toSideFrame
  refine .bind (lockForOperation_touches frame _ _ _) fun _ => ?_
  refine frame.read rfl fun coins => ?_
  refine frame.check rfl fun _ => ?_
  refine .bind (insertCoin_touches frame coin) fun _ => ?_
  refine frame.read rfl fun pointsBefore => ?_
  refine .bind (insertPoint_touches frame point) fun _ => ?_
  refine .bind (applyCredit_touches side _ _ _) fun _ => ?_
  refine .bind (applyCredit_touches side _ _ _) fun _ => ?_
  exact .bind (settleHostCredit_touches frame _ _ _ _ _ _) fun _ => trivial

theorem globalMessageTx_touches (input : GlobalMessageInput)
    (own : keys (.globalMessage input.idemKey)) : (globalMessageTx input).Touches F := by
  refine .bind (lockForOperation_touches frame _ _ _) fun _ => ?_
  refine frame.read rfl fun coins => ?_
  refine frame.check rfl fun _ => ?_
  refine .bind (insertCoin_touches frame own) fun _ => ?_
  exact .bind (applyCredit_touches frame.toSideFrame _ _ _) fun _ => trivial

end Wallets

/-! ### Call sessions -/

structure SessionFrame (F : LedgerFootprint) : Prop extends PlainFrame F where
  session : ∀ sessionId, F.row (.session sessionId)
  setSession : ∀ row, F.write fun db => MoneyDb.setSession db row

section Sessions

variable {F : LedgerFootprint} {keys : LedgerKey → Prop} (sessions : SessionFrame F)

include sessions

theorem lockSession_touches (sessionId : Nat) : (lockSession sessionId).Touches F :=
  .bind ((Tx.touches_lockRow _).mpr (sessions.session _)) fun _ =>
    Tx.touches_select (sessions.blind rfl)

theorem updateSession_touches (row : VideoCallSession) : (updateSession row).Touches F :=
  .bind ((Tx.touches_update _ _).mpr ⟨sessions.session _, sessions.setSession _⟩) fun _ => trivial

theorem createSession_touches (row : VideoCallSession) :
    (Prog.transaction (createSession row)).Touches F := by
  refine Prog.touches_transaction ?_
  refine .bind ((Tx.touches_lockRow _).mpr (sessions.session _)) fun _ => ?_
  refine .bind (Tx.touches_select (sessions.blind rfl)) fun _ => ?_
  refine sessions.check rfl fun _ => ?_
  exact (Tx.touches_update _ _).mpr ⟨sessions.session _, sessions.setSession _⟩

variable (frame : WalletFrame F keys) (coin : ∀ id minute, keys (.callMinuteCoins id minute))
  (point : ∀ id minute, keys (.callMinutePoints id minute))

include frame coin point

theorem callAcceptTx_touches (env : Environment) (input : CallAcceptInput) :
    (callAcceptTx env input).Touches F := by
  refine .bind (lockSession_touches sessions _) fun session => ?_
  cases session with
  | none => exact frame.fails rfl
  | some session =>
    refine frame.check rfl fun _ => ?_
    refine frame.check rfl fun _ => ?_
    refine .bind (billMinute_touches frame _ _ _ _ (coin _ _) (point _ _)) fun _ => ?_
    exact .bind (updateSession_touches sessions _) fun _ => trivial

theorem callMinuteTx_touches (env : Environment) (input : CallMinuteInput) :
    (callMinuteTx env input).Touches F := by
  refine .bind (lockSession_touches sessions _) fun session => ?_
  cases session with
  | none => exact frame.fails rfl
  | some session =>
    dsimp only
    split
    · trivial
    · refine frame.check rfl fun _ => ?_
      refine frame.check rfl fun _ => ?_
      refine .bind (billMinute_touches frame _ _ _ _ (coin _ _) (point _ _)) fun _ => ?_
      exact .bind (updateSession_touches sessions _) fun _ => trivial

end Sessions

/-! ### Tiers and pools

The configs in use in a run are those that satisfy `tiers`. -/

/-- The live pools and the audit rows of sends. -/
structure PoolFrame (F : LedgerFootprint) (tiers : LuckyTierConfig → Prop) : Prop
    extends PlainFrame F where
  stored : ∀ s, F.same s s → ∀ config ∈ s.lucky.configs, tiers config
  pool : ∀ tierId, F.row (.luckyPool tierId)
  ensurePool : ∀ tierId version, F.write fun db => db.setLucky (db.lucky.ensurePool tierId version)
  setPool : ∀ tierId row, F.write fun db => db.setLucky (db.lucky.setPool tierId row)
  audit : ∀ base, F.row (.luckyAudit (.send base))
  addAudit : ∀ row : LuckyDrawAudit, row.mode = .enforce → (∃ base, row.idempotencyKey = .send base) →
    F.write fun db => db.setLucky { db.lucky with audits := db.lucky.audits ++ [row] }
  sent : ∀ base, F.Blind fun db =>
    db.lucky.audits.find? fun a => a.idempotencyKey = .send base
  floor : F.error luckyPoolFloor

/-- What the shadow worker writes; it may tell all states apart. -/
structure ShadowFrame (F : LedgerFootprint) : Prop extends PlainFrame F where
  same_eq : ∀ s s', F.same s s' → s' = s
  pool : ∀ tierId, F.row (.luckyShadowPool tierId)
  ensurePool : ∀ config, F.write fun db => db.setLucky (db.lucky.ensureShadowPool config)
  setPool : ∀ tierId row, F.write fun db => db.setLucky (db.lucky.setShadowPool tierId row)
  audit : ∀ id, F.row (.luckyAudit (.shadow id))
  addAudit : ∀ row : LuckyDrawAudit, row.mode = .shadow → (∃ id, row.idempotencyKey = .shadow id) →
    F.write fun db => db.setLucky { db.lucky with audits := db.lucky.audits ++ [row] }
  cursor : F.row .luckyCursor
  setCursor : ∀ cursor, F.write fun db => db.setLucky { db.lucky with shadowCursor := some cursor }

/-- The configs and modes of the lucky tiers. -/
structure TierFrame (F : LedgerFootprint) (tiers : LuckyTierConfig → Prop) : Prop
    extends PlainFrame F where
  stored : ∀ s, F.same s s → ∀ config ∈ s.lucky.configs, tiers config
  tier : ∀ tierId, F.row (.luckyTier tierId)
  addConfig : ∀ config, tiers config →
    F.write fun db => db.setLucky { db.lucky with configs := db.lucky.configs ++ [config] }
  setMode : ∀ tierId mode, F.write fun db => db.setLucky { db.lucky with
    mode := fun t => if t = tierId then some mode else db.lucky.mode t }

variable {config : LuckyTierConfig}

theorem mem_of_highestVersion {configs : List LuckyTierConfig}
    (found : highestVersion configs = some config) : config ∈ configs :=
  (List.mem_insertionSort _).mp (List.mem_of_head? found)

theorem mem_of_firstOfTiers {rows : List LuckyTierConfig} (member : config ∈ firstOfTiers rows) :
    config ∈ rows := by
  have kept : ∀ (rest byTier : List LuckyTierConfig), config ∈ rest.foldl (fun byTier row =>
      if byTier.any fun seen => seen.tierId = row.tierId then byTier else byTier ++ [row]) byTier →
      config ∈ byTier ∨ config ∈ rest := by
    intro rest
    induction rest with
    | nil => exact fun byTier found => .inl found
    | cons row rest ih =>
      intro byTier found
      rcases ih _ found with old | new
      · dsimp only at old
        split at old
        · exact .inl old
        · rcases List.mem_append.mp old with old | isRow
          · exact .inl old
          · exact .inr (by simp [List.mem_singleton.mp isRow])
      · exact .inr (by simp [new])
  rcases kept rows [] member with impossible | found
  · simp at impossible
  · exact found

theorem mem_of_latestConfigIndex {configs : List LuckyTierConfig}
    (member : config ∈ latestConfigIndex configs) : config ∈ configs :=
  (List.mem_insertionSort _).mp (mem_of_firstOfTiers member)

section Pools

variable {F : LedgerFootprint} {tiers : LuckyTierConfig → Prop}

def LuckyEngine.Of (tiers : LuckyTierConfig → Prop) : LuckyEngine → Prop
  | .legacy => True
  | .waterV1 config => tiers config

theorem resolveTierConfig_returns (stored : ∀ s, F.same s s → ∀ config ∈ s.lucky.configs, tiers config)
    {caches : LuckyCaches} (cached : ∀ config ∈ caches.latestConfigs.getD [], tiers config)
    (unitPrice : Int) :
    (resolveTierConfig caches unitPrice).Returns F fun resolved =>
      ∀ config mode, resolved = some (config, mode) → tiers config := by
  have index : (refreshLatestConfigIndex caches).Returns F fun byTier =>
      ∀ config ∈ byTier, tiers config := by
    unfold refreshLatestConfigIndex
    split
    next configs isCached => exact fun config member => cached config (by simpa [isCached])
    next => exact fun s seen config member => stored s seen config (mem_of_latestConfigIndex member)
  have pick : ∀ byTier : List LuckyTierConfig, (∀ config ∈ byTier, tiers config) →
      (pickTierForPrice byTier unitPrice).Returns F fun picked =>
        ∀ config, picked = some config → tiers config := by
    intro byTier inUse
    unfold pickTierForPrice
    split
    next config found =>
      rintro _ ⟨⟩
      exact inUse config (List.mem_of_find?_eq_some found)
    next =>
      intro s seen config found
      exact stored s seen config (List.mem_of_mem_filter (mem_of_highestVersion found))
  refine index.bind fun byTier inUse => (pick byTier inUse).bind fun picked isTier => ?_
  cases picked with
  | none => exact fun _ _ none => by cases none
  | some config =>
    rintro s seen _ mode ⟨⟩
    exact isTier config rfl

theorem resolveEngine_returns (stored : ∀ s, F.same s s → ∀ config ∈ s.lucky.configs, tiers config)
    {caches : LuckyCaches} (cached : ∀ config ∈ caches.latestConfigs.getD [], tiers config)
    (unitPrice : Int) (supportsServerDraw : Bool) :
    (resolveEngine caches unitPrice supportsServerDraw).Returns F (LuckyEngine.Of tiers) := by
  unfold resolveEngine
  split
  · refine (resolveTierConfig_returns stored cached unitPrice).bind fun resolved isTier => ?_
    split
    next config =>
      refine Tx.Returns.bind (R := fun _ => True) (Tx.returns_true _) fun seedExists _ => ?_
      change LuckyEngine.Of tiers (if seedExists then _ else _)
      split
      · exact isTier config _ rfl
      · trivial
    next => trivial
  · trivial

theorem PoolFrame.taken (frame : PoolFrame F tiers) (base : LuckyKeyBase) :
    F.Blind fun db => db.lucky.audits.any fun a => a.idempotencyKey = .send base := by
  have asFind : ∀ audits : List LuckyDrawAudit, (audits.any fun a => a.idempotencyKey = .send base) =
      (audits.find? fun a => a.idempotencyKey = .send base).isSome := by
    intro audits
    induction audits with
    | nil => rfl
    | cons a audits ih => by_cases own : a.idempotencyKey = .send base <;> simp [own, ih]
  intro s s' same
  have found := frame.sent base s s' same
  dsimp only at found ⊢
  rw [asFind, asFind, found]

/-- The caps query of a send by `senderId` at `now` cannot tell the states apart. -/
def CapsBlind (F : LedgerFootprint) (tiers : LuckyTierConfig → Prop) (now : Time)
    (senderId : UserId) : Prop :=
  ∀ config, tiers config → F.Blind fun db => userCaps (fun _ => true) now senderId
    config.dailyWinCapCoins config.coolDownAfterBigWinSeconds db.lucky.audits

theorem drawFromPool_touches (frame : PoolFrame F tiers) {env : Environment}
    {input : LuckyGiftInput} (caps : CapsBlind F tiers env.now input.senderId)
    (unitPrice totalCost : Int) {config : LuckyTierConfig} (inUse : tiers config) :
    (drawFromPool env input unitPrice totalCost config).Touches F := by
  refine .bind (Tx.touches_select (caps config inUse)) fun caps => .bind ?_ fun poolBalance => ?_
  · refine .bind ((Tx.touches_update _ _).mpr ⟨frame.pool _, frame.ensurePool _ _⟩) fun _ => ?_
    refine .bind ((Tx.touches_lockRow _).mpr (frame.pool _)) fun _ => ?_
    exact Tx.touches_select (frame.blind rfl)
  · refine .bind ?_ fun affected => Tx.touches_ensure_bind frame.floor fun _ => trivial
    refine .bind ((Tx.touches_lockRow _).mpr (frame.pool _)) fun _ => ?_
    refine frame.read rfl fun row => ?_
    split
    · exact .bind ((Tx.touches_update _ _).mpr ⟨frame.pool _, frame.setPool _ _⟩) fun _ => trivial
    · trivial

theorem createDrawAudit_touches {row : LuckyDrawAudit} (key : F.row (.luckyAudit row.idempotencyKey))
    (query : F.Blind fun db => db.lucky.audits.any fun a => a.idempotencyKey = row.idempotencyKey)
    (write : F.write fun db => db.setLucky { db.lucky with audits := db.lucky.audits ++ [row] })
    (taken : F.error .uniqueViolation) : (createDrawAudit row).Touches F := by
  refine .bind ((Tx.touches_lockRow _).mpr key) fun _ => ?_
  refine Tx.touches_select_bind query fun db _ => ?_
  exact Tx.touches_ensure_bind taken fun _ => (Tx.touches_update _ _).mpr ⟨key, write⟩

theorem auditSend_touches (frame : PoolFrame F tiers) {row : LuckyDrawAudit} {base : LuckyKeyBase}
    (enforce : row.mode = .enforce) (own : row.idempotencyKey = .send base) :
    (createDrawAudit row).Touches F := by
  refine createDrawAudit_touches ?_ ?_ (frame.addAudit _ enforce ⟨base, own⟩)
    (frame.fails rfl)
  · rw [own]
    exact frame.audit base
  · rw [own]
    exact frame.taken base

theorem waterPayout_touches {keys : LedgerKey → Prop} (wallets : WalletFrame F keys)
    (pools : PoolFrame F tiers) {env : Environment} {input : LuckyGiftInput}
    (caps : CapsBlind F tiers env.now input.senderId) (gift : Gift)
    (totalCost hostPoints coinsAfterDebit : Int) (withCommission : Bool) (wealth : LevelResult)
    {config : LuckyTierConfig} (inUse : tiers config) (host : keys (.luckyHostCut input.txKeyBase))
    (reward : keys (.luckyReward input.txKeyBase)) :
    (waterPayout env input gift totalCost hostPoints coinsAfterDebit withCommission wealth
      config).Touches F := by
  refine .bind (creditLuckyHost_touches wallets env input _ _ host) fun _ => ?_
  refine .bind (createGiftTransaction_touches wallets.toSideFrame _) fun _ => ?_
  refine .bind (drawFromPool_touches pools caps _ _ inUse) fun _ => ?_
  refine .bind (payReward_touches wallets input _ _ reward) fun _ => ?_
  exact .bind (auditSend_touches pools rfl rfl) fun _ => trivial

theorem luckyGiftTx_touches {keys : LedgerKey → Prop} (wallets : WalletFrame F keys)
    (pools : PoolFrame F tiers) {env : Environment} {input : LuckyGiftInput}
    (caps : CapsBlind F tiers env.now input.senderId)
    (cached : ∀ config ∈ env.caches.latestConfigs.getD [], tiers config) (gift : Gift)
    (totalCost hostPoints : Int) (debit : keys (.luckyDebit input.txKeyBase))
    (host : keys (.luckyHostCut input.txKeyBase)) (reward : keys (.luckyReward input.txKeyBase)) :
    (luckyGiftTx env input gift totalCost hostPoints).Touches F := by
  refine Tx.Touches.bind_returns (resolveEngine_touches wallets.toPlainFrame _ _ _)
    (resolveEngine_returns pools.stored cached _ _) fun engine isTier => ?_
  refine .bind (lockForOperation_touches wallets _ _ _) fun _ => ?_
  refine .bind (checkEngine_touches wallets input _ _ engine) fun _ => ?_
  refine .bind (Tx.touches_select (wallets.blind rfl)) fun coins => ?_
  refine wallets.check rfl fun _ => ?_
  refine .bind (insertCoin_touches wallets debit) fun _ => ?_
  refine .bind (applyCredit_touches wallets.toSideFrame _ _ _) fun wealth => ?_
  cases engine with
  | waterV1 config =>
    exact waterPayout_touches wallets pools caps gift _ _ _ _ _ isTier host reward
  | legacy => exact legacyPayout_touches wallets env input gift _ _ _ _ _ host reward

theorem ShadowFrame.any (frame : ShadowFrame F) {α : Type} (q : MoneyDb → α) : F.Blind q := by
  intro s s' same
  rw [frame.same_eq s s' same]

theorem processShadowGiftRow_touches (frame : ShadowFrame F) (now : Time)
    (caches : LuckyCaches) (rolls : Nat → Nat) (row : ShadowGiftRow) :
    (processShadowGiftRow now caches rolls row).Touches F := by
  have cursor : (advanceCursor row.createdAt row.id).Touches F :=
    (Tx.touches_update _ _).mpr ⟨frame.cursor, frame.setCursor _⟩
  refine .bind (resolveTierConfig_touches frame.toPlainFrame _ _) fun resolved => ?_
  split
  · refine Tx.touches_select_bind (frame.any _) fun db _ => ?_
    split
    · exact cursor
    · refine Tx.touches_select_bind (frame.any _) fun db' _ => ?_
      split
      · exact cursor
      · refine .bind ?_ fun poolBalance => ?_
        · refine .bind ((Tx.touches_update _ _).mpr ⟨frame.pool _, frame.ensurePool _⟩) fun _ => ?_
          refine .bind ((Tx.touches_lockRow _).mpr (frame.pool _)) fun _ => ?_
          exact Tx.touches_select (frame.any _)
        · refine .bind (Tx.touches_select (frame.any _)) fun caps => ?_
          refine frame.check rfl fun _ => ?_
          refine .bind ((Tx.touches_update _ _).mpr ⟨frame.pool _, frame.setPool _ _⟩) fun _ => ?_
          refine .bind ?_ fun _ => cursor
          exact createDrawAudit_touches (frame.audit _) (frame.any _) (frame.addAudit _ rfl ⟨_, rfl⟩)
            (frame.fails rfl)
  · exact cursor

end Pools

/-! ### Parts of handlers that only read -/

section Reads

variable {F : LedgerFootprint} (frame : PlainFrame F)

include frame

theorem checkCallGift_reads (input : GiftSendInput) : (checkCallGift input).ReadOnly F := by
  unfold checkCallGift
  split
  · trivial
  · refine .bind (Prog.readOnly_ensure (frame.fails rfl)) fun _ => ?_
    split
    · exact frame.fails rfl
    · refine .bind (Prog.readOnly_select (frame.blind rfl)) fun session => ?_
      split
      · exact frame.fails rfl
      · refine .bind (Prog.readOnly_ensure (frame.fails rfl)) fun _ => ?_
        exact Prog.readOnly_ensure (frame.fails rfl)

theorem loadSendableGift_reads (giftId : Nat) (lucky : Bool) :
    (loadSendableGift giftId lucky).ReadOnly F := by
  refine .bind (Prog.readOnly_select (frame.blind rfl)) fun row => ?_
  split
  · exact frame.fails rfl
  · refine .bind (Prog.readOnly_ensure (frame.fails rfl)) fun _ => ?_
    refine .bind (Prog.readOnly_ensure (frame.errors _ ?_)) fun _ => trivial
    cases lucky <;> decide

theorem replayOrDuplicate_reads {α : Type} (primaryKey : LedgerKey) (requestId : Nat)
    {rebuild : CoinLedgerEntry → LedgerProg α} (reads : ∀ row, (rebuild row).ReadOnly F) :
    (replayOrDuplicate primaryKey requestId rebuild).ReadOnly F := by
  refine .bind (Prog.readOnly_select (frame.blind rfl)) fun row => ?_
  split
  · exact frame.fails rfl
  · exact .bind (Prog.readOnly_ensure (frame.fails rfl)) fun _ => reads _

theorem currentLevel_reads (userId : UserId) (levelType : LevelType) :
    (currentLevel userId levelType).ReadOnly F :=
  Prog.readOnly_select (frame.blind rfl)

theorem pointBalanceAfterKey_reads (key : LedgerKey) : (pointBalanceAfterKey key).ReadOnly F :=
  Prog.readOnly_select (frame.blind rfl)

theorem replayGiftSend_reads (input : GiftSendInput) (coinCost points : Int) :
    (replayGiftSend input coinCost points).ReadOnly F := by
  refine replayOrDuplicate_reads frame _ _ fun row => ?_
  refine .bind (pointBalanceAfterKey_reads frame _) fun _ => ?_
  exact .bind (currentLevel_reads frame _ _) fun _ => trivial

theorem replayLucky_reads {input : LuckyGiftInput} (sent : F.Blind fun db =>
      db.lucky.audits.find? fun a => a.idempotencyKey = .send input.txKeyBase)
    (totalCost hostPoints : Int) (debit : Option CoinLedgerEntry) :
    (replayLucky input totalCost hostPoints debit).ReadOnly F := by
  refine .bind (Prog.readOnly_select sent) fun audit => ?_
  split
  · refine .bind ?_ fun _ => ?_
    · unfold checkWaterReplay
      split
      · refine .bind (Prog.readOnly_ensure (frame.fails rfl)) fun _ => ?_
        exact Prog.readOnly_ensure (frame.fails rfl)
      · exact Prog.readOnly_ensure (frame.fails rfl)
    · refine .bind (pointBalanceAfterKey_reads frame _) fun _ => ?_
      exact .bind (currentLevel_reads frame _ _) fun _ => trivial
  · refine replayOrDuplicate_reads frame _ _ fun row => ?_
    refine .bind (Prog.readOnly_select (frame.blind rfl)) fun _ => ?_
    refine .bind (Prog.readOnly_select (frame.blind rfl)) fun _ => ?_
    refine .bind (pointBalanceAfterKey_reads frame _) fun _ => ?_
    exact .bind (currentLevel_reads frame _ _) fun _ => trivial

theorem replayCallAccept_reads (env : Environment) (input : CallAcceptInput) :
    (replayCallAccept env input).ReadOnly F := by
  refine .bind (Prog.readOnly_select (frame.blind rfl)) fun row => ?_
  split
  · refine .bind (Prog.readOnly_select (frame.blind rfl)) fun session => ?_
    split
    · exact frame.fails rfl
    · trivial
  · exact frame.fails rfl

end Reads

/-! ### Handlers -/

section Handlers

variable {F : LedgerFootprint} {keys : LedgerKey → Prop} {tiers : LuckyTierConfig → Prop}

theorem giftSend_touches (frame : WalletFrame F keys) (env : Environment) (input : GiftSendInput)
    (coin : keys (.giftCoin input.idemBase)) (point : keys (.giftPoint input.idemBase)) :
    (giftSend env input).Touches F := by
  have plain := frame.toPlainFrame
  refine .bind (checkCallGift_reads plain input).touches fun _ => ?_
  refine .bind (loadSendableGift_reads plain _ _).touches fun gift => ?_
  refine Prog.touches_run (giftSendTx_touches frame env input gift _ _ coin point)
    (fun _ => trivial) fun error throws => ?_
  split
  · exact (replayGiftSend_reads plain input _ _).touches
  · exact throws

theorem luckyGiftSend_touches (frame : WalletFrame F keys) (pools : PoolFrame F tiers)
    {env : Environment} {input : LuckyGiftInput} (caps : CapsBlind F tiers env.now input.senderId)
    (cached : ∀ config ∈ env.caches.latestConfigs.getD [], tiers config)
    (debit : keys (.luckyDebit input.txKeyBase)) (host : keys (.luckyHostCut input.txKeyBase))
    (reward : keys (.luckyReward input.txKeyBase)) : (luckyGiftSend env input).Touches F := by
  have plain := frame.toPlainFrame
  have replays : ∀ totalCost hostPoints found,
      (replayLucky input totalCost hostPoints found).Touches F := fun _ _ _ =>
    (replayLucky_reads plain (pools.sent _) _ _ _).touches
  refine .bind (loadSendableGift_reads plain _ _).touches fun gift => ?_
  refine Prog.touches_select_bind (plain.blind rfl) fun db _ => ?_
  split
  · exact replays _ _ _
  · refine Prog.touches_run (luckyGiftTx_touches frame pools caps cached gift _ _ debit host reward)
      (fun _ => trivial) fun error throws => ?_
    split
    · exact Prog.touches_select_bind (plain.blind rfl) fun db _ => replays _ _ _
    · exact throws

theorem callAccept_touches (sessions : SessionFrame F) (frame : WalletFrame F keys)
    (coin : ∀ id minute, keys (.callMinuteCoins id minute))
    (point : ∀ id minute, keys (.callMinutePoints id minute)) (env : Environment)
    (input : CallAcceptInput) : (callAccept env input).Touches F := by
  refine Prog.touches_run (callAcceptTx_touches sessions frame coin point env input)
    (fun _ => trivial) fun error throws => ?_
  split
  · exact (replayCallAccept_reads frame.toPlainFrame env input).touches
  · exact throws

theorem globalMessage_touches (frame : WalletFrame F keys) (input : GlobalMessageInput)
    (own : keys (.globalMessage input.idemKey)) : (globalMessage input).Touches F := by
  have plain := frame.toPlainFrame
  refine Prog.touches_run (globalMessageTx_touches frame input own) (fun _ => trivial)
    fun error throws => ?_
  split
  · refine (replayOrDuplicate_reads plain _ _ fun row => ?_).touches
    exact .bind (currentLevel_reads plain _ _) fun _ => trivial
  · exact throws

section

variable (frame : TierFrame F tiers) (tierId : LuckyTierId)
include frame tierId

theorem getLatestConfig_bind_touches {α : Type} {k : Option LuckyTierConfig → LedgerProg α}
    (rest : ∀ latest, (∀ config, latest = some config → tiers config) → (k latest).Touches F) :
    (getLatestConfig tierId >>= k).Touches F := by
  refine Prog.touches_select_bind (frame.blind rfl) fun db seen => rest _ ?_
  intro config found
  exact frame.stored db seen config (List.mem_of_mem_filter (mem_of_highestVersion found))

theorem createConfigVersion_touches {patch : LuckyTierPatch} (econValid : Bool)
    (keeps : ∀ latest next, tiers latest → latest.next patch = some next → tiers next) :
    (createConfigVersion tierId patch econValid).Touches F := by
  refine getLatestConfig_bind_touches frame tierId fun latest inUse => ?_
  cases latest with
  | none => exact frame.fails rfl
  | some latest =>
    dsimp only
    split
    · exact frame.fails rfl
    next next isNext =>
      refine Prog.touches_ensure_bind (frame.fails rfl) fun _ => ?_
      refine Prog.touches_ensure_bind (frame.fails rfl) fun _ => ?_
      refine .bind (Prog.touches_autocommit (frame.tier _) (frame.addConfig _ ?_)) fun _ => trivial
      exact keeps latest next (inUse latest rfl) isNext

theorem setMode_touches (mode : LuckyTierMode) (allowed : Bool) :
    (setMode tierId mode allowed).Touches F := by
  refine getLatestConfig_bind_touches frame tierId fun latest _ => ?_
  cases latest with
  | none => exact frame.fails rfl
  | some latest =>
    refine Prog.touches_select_bind (frame.blind rfl) fun db _ => ?_
    split
    · trivial
    · refine Prog.touches_ensure_bind (frame.fails rfl) fun _ => ?_
      exact Prog.touches_autocommit (frame.tier _) (frame.setMode _ _)

theorem recordSeedDecision_touches (choice : SeedChoice) (amount : Int)
    (pool : F.row (.luckyPool tierId))
    (addSeed : F.write fun db =>
      db.setLucky { db.lucky with seedLog := db.lucky.seedLog ++ [⟨tierId, amount, choice⟩] })
    (topUp : ∀ version, F.write fun db => db.setLucky (db.lucky.topUp tierId version amount)) :
    (recordSeedDecision tierId choice amount).Touches F := by
  refine Prog.touches_ensure_bind (frame.fails rfl) fun _ => ?_
  refine Prog.touches_ensure_bind (frame.fails rfl) fun _ => ?_
  refine Prog.touches_ensure_bind (frame.fails rfl) fun _ => ?_
  refine getLatestConfig_bind_touches frame tierId fun latest _ => ?_
  cases latest with
  | none => exact frame.fails rfl
  | some latest =>
    refine Prog.touches_transaction ?_
    refine .bind ((Tx.touches_update _ _).mpr ⟨frame.tier _, addSeed⟩) fun _ => ?_
    split
    · refine .bind ((Tx.touches_update _ _).mpr ⟨pool, topUp _⟩) fun _ => ?_
      exact Tx.touches_select (frame.blind rfl)
    · trivial

end

private theorem setCursor_touches (frame : ShadowFrame F) (cursor : LuckyShadowCursor) :
    (Prog.transaction (setCursor cursor) : LedgerProg Unit).Touches F :=
  Prog.touches_transaction ((Tx.touches_update _ _).mpr ⟨frame.cursor, frame.setCursor _⟩)

private theorem parkShadowCursor_touches (frame : ShadowFrame F) (now : Time) :
    (parkShadowCursor now).Touches F := by
  refine Prog.touches_select_bind (frame.any _) fun db _ => ?_
  split
  · trivial
  · exact setCursor_touches frame _

private theorem processShadowRows_touches (frame : ShadowFrame F) (now : Time)
    (caches : LuckyCaches) (rolls : Nat → Nat → Nat) (rows : List ShadowGiftRow) :
    (processShadowRows now caches rolls rows).Touches F := by
  induction rows with
  | nil => trivial
  | cons row rows ih =>
    exact Prog.touches_run (processShadowGiftRow_touches frame now caches _ row) (fun _ => ih)
      fun _ _ => trivial

theorem runShadowWorkerTick_touches (frame : ShadowFrame F) (now : Time) (caches : LuckyCaches)
    (rolls : Nat → Nat → Nat) : (runShadowWorkerTick now caches rolls).Touches F := by
  refine Prog.touches_select_bind (frame.any _) fun db _ => ?_
  split
  · refine .bind ?_ fun batch => processShadowRows_touches frame _ _ _ _
    refine Prog.touches_select_bind (frame.any _) fun db' _ => ?_
    split
    · exact .bind (parkShadowCursor_touches frame now) fun _ => trivial
    · exact Prog.touches_select (frame.any _)
  · exact parkShadowCursor_touches frame now

end Handlers

end OlNode.InternalLedger
