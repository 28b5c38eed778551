import OlNode.InternalLedger.Frame

/-!
# Solvency of the lucky pools

The parts are the tiers: the pool row with what the seed log and the audit rows of real sends say
has gone into it and out of it. A send draws under the lock on the pool row, so the draw starts
from the balance it settles; a seed tops the row up in one statement.
-/
namespace OlNode.InternalLedger

open ReadCommitted

structure TierRows where
  pool : Option LuckyTierPool
  seeds : Int
  inflow : Int
  paid : Int

def LuckyDb.seedsOf (db : LuckyDb) (tierId : LuckyTierId) : Int :=
  ((db.seedLog.filter fun row => row.tierId = tierId).map (·.amount)).sum

/-- The audit rows of sends that were drawn from the tier's pool. -/
def LuckyDb.drawsOf (db : LuckyDb) (tierId : LuckyTierId) : List LuckyDrawAudit :=
  db.audits.filter fun a => a.mode = .enforce && a.tierId = tierId

def tierRows (db : MoneyDb) (tierId : LuckyTierId) : TierRows where
  pool := db.lucky.pool tierId
  seeds := LuckyDb.seedsOf db.lucky tierId
  inflow := ((LuckyDb.drawsOf db.lucky tierId).map (·.inflow)).sum
  paid := ((LuckyDb.drawsOf db.lucky tierId).map (·.paidReward)).sum

namespace TierRows

/-- A tier whose row does not exist yet has an empty pool. -/
def balance (v : TierRows) : Int := (v.pool.map (·.balance)).getD 0

/-- Nothing is lost, nothing is owed. -/
def Solvent (v : TierRows) : Prop :=
  v.balance = v.seeds + v.inflow - v.paid ∧ 0 ≤ v.balance

def ensurePool (v : TierRows) (version : Nat) : TierRows :=
  if v.pool.isSome then v else { v with pool := some ⟨0, version⟩ }

def topUp (v : TierRows) (version : Nat) (amount : Int) : TierRows :=
  match v.pool with
  | none => { v with pool := some ⟨amount, version⟩ }
  | some row => { v with pool := some { row with balance := row.balance + amount } }

def addDraw (v : TierRows) (inflow paidReward : Int) : TierRows :=
  { v with inflow := v.inflow + inflow, paid := v.paid + paidReward }

variable (v : TierRows) (version : Nat)
include v version

@[simp] theorem balance_ensurePool : (v.ensurePool version).balance = v.balance := by
  unfold ensurePool
  split
  · rfl
  next absent => simp_all [balance]

@[simp] theorem balance_topUp (amount : Int) :
    (v.topUp version amount).balance = v.balance + amount := by
  unfold topUp
  split
  next absent => simp [balance, absent]
  next row found => simp [balance, found]

theorem ensurePool_isSome : (v.ensurePool version).pool.isSome = true := by
  unfold ensurePool
  split
  next found => exact found
  next => rfl

theorem ensurePool_settled (row : LuckyTierPool) : { v.ensurePool version with pool :=some row } = { v with pool := some row } := by
  unfold ensurePool
  split <;> rfl

end TierRows

/-- The errors exclude the pool's floor violation: no send may throw it. -/
def poolParts : Parts MoneyDb Lock LedgerError LuckyTierId TierRows where
  part := tierRows
  lockOf := .luckyPool
  inv _ := TierRows.Solvent
  throws error := error ≠ luckyPoolFloor

theorem poolParts_separate (tierId other : LuckyTierId)
    (same : poolParts.lockOf other = poolParts.lockOf tierId) : other = tierId := by
  simpa [poolParts] using same

/-! ### What each write does to a tier -/

variable (db : MoneyDb)

theorem tierRows_setPool (tierId : LuckyTierId) (row : LuckyTierPool) (t : LuckyTierId) :
    tierRows (db.setLucky (db.lucky.setPool tierId row)) t =
      if t = tierId then { tierRows db t with pool := some row } else tierRows db t := by
  split
  next same =>
    simp [tierRows, MoneyDb.setLucky, LuckyDb.setPool, LuckyDb.seedsOf, LuckyDb.drawsOf, same]
  next other =>
    simp [tierRows, MoneyDb.setLucky, LuckyDb.setPool, LuckyDb.seedsOf, LuckyDb.drawsOf, other]

theorem tierRows_ensurePool (tierId : LuckyTierId) (version : Nat) (t : LuckyTierId) :
    tierRows (db.setLucky (db.lucky.ensurePool tierId version)) t =
      if t = tierId then (tierRows db t).ensurePool version else tierRows db t := by
  unfold LuckyDb.ensurePool
  split
  next found =>
    change tierRows db t = _
    split
    next same =>
      subst same
      exact (if_pos found).symm
    next => rfl
  next absent =>
    rw [tierRows_setPool]
    split
    next same =>
      subst same
      exact (if_neg absent).symm
    next => rfl

theorem tierRows_topUp (tierId : LuckyTierId) (version : Nat) (amount : Int) (t : LuckyTierId) :
    tierRows (db.setLucky (db.lucky.topUp tierId version amount)) t =
      if t = tierId then (tierRows db t).topUp version amount else tierRows db t := by
  unfold LuckyDb.topUp
  split
  next absent =>
    rw [tierRows_setPool]
    split
    next same =>
      subst same
      have none : (tierRows db t).pool = none := absent
      simp [TierRows.topUp, none]
    next => rfl
  next row found =>
    rw [tierRows_setPool]
    split
    next same =>
      subst same
      have some : (tierRows db t).pool = some row := found
      simp [TierRows.topUp, some]
    next => rfl

theorem tierRows_addSeed (row : LuckyTierSeedLog) (t : LuckyTierId) :
    tierRows (db.setLucky { db.lucky with seedLog := db.lucky.seedLog ++ [row] }) t =
      if t = row.tierId then { tierRows db t with seeds := (tierRows db t).seeds + row.amount }
      else tierRows db t := by
  split
  next same =>
    subst same
    simp [tierRows, MoneyDb.setLucky, LuckyDb.seedsOf, LuckyDb.drawsOf]
  next other =>
    simp [tierRows, MoneyDb.setLucky, LuckyDb.seedsOf, LuckyDb.drawsOf, Ne.symm other]

theorem tierRows_addDraw (row : LuckyDrawAudit) (enforce : row.mode = .enforce) (t : LuckyTierId) :
    tierRows (db.setLucky { db.lucky with audits := db.lucky.audits ++ [row] }) t =
      if t = row.tierId then (tierRows db t).addDraw row.inflow row.paidReward
      else tierRows db t := by
  split
  next same =>
    subst same
    simp [tierRows, MoneyDb.setLucky, LuckyDb.seedsOf, LuckyDb.drawsOf, enforce, TierRows.addDraw]
  next other =>
    simp [tierRows, MoneyDb.setLucky, LuckyDb.seedsOf, LuckyDb.drawsOf, enforce, Ne.symm other]

theorem tierRows_addShadow (row : LuckyDrawAudit) (shadow : row.mode = .shadow) (t : LuckyTierId) :
    tierRows (db.setLucky { db.lucky with audits := db.lucky.audits ++ [row] }) t =
      tierRows db t := by
  simp [tierRows, MoneyDb.setLucky, LuckyDb.seedsOf, LuckyDb.drawsOf, shadow]

theorem poolPlainFrame : PlainFrame poolParts.outside := plainFrame_outside fun _ other => other

theorem poolWalletFrame : WalletFrame poolParts.outside (fun _ => True) where
  toPlainFrame := poolPlainFrame
  level := by simp [Parts.outside, poolParts]
  setLevel := fun _ _ _ _ _ => rfl
  commission := by simp [Parts.outside, poolParts]
  mark := fun _ _ _ => rfl
  gift := by simp [Parts.outside, poolParts]
  addGift := fun _ _ _ => rfl
  wallet := by simp [Parts.outside, poolParts]
  coinKey := by simp [Parts.outside, poolParts]
  pointKey := by simp [Parts.outside, poolParts]
  addCoin := fun _ _ _ _ => rfl
  addPoint := fun _ _ _ _ => rfl
  commissionKey := fun _ => trivial

theorem poolShadowFrame : ShadowFrame poolParts.outside where
  toPlainFrame := poolPlainFrame
  same_eq := fun _ _ same => same.symm
  pool := by simp [Parts.outside, poolParts]
  ensurePool := fun config db t => by
    dsimp only [LuckyDb.ensureShadowPool]
    split <;> rfl
  setPool := fun _ _ _ _ => rfl
  audit := by simp [Parts.outside, poolParts]
  addAudit := fun row shadow _ db t => tierRows_addShadow db row shadow t
  cursor := by simp [Parts.outside, poolParts]
  setCursor := fun _ _ _ => rfl

/-! ### A send -/

section Send

variable {tierId : LuckyTierId} {before now : TierRows} {K : Knowledge LuckyTierId TierRows}
  {config : LuckyTierConfig}

theorem lockPool_safe {Q : Int → Knowledge LuckyTierId TierRows → Prop}
    (after : ∀ v : TierRows, v.Solvent → Q v.balance
      (Function.update Knowledge.initial config.tierId (.held v (v.ensurePool config.version)))) :
    (lockPool config).Safe poolParts .initial Q := by
  refine .bind ⟨fun t v => if t = config.tierId then v.ensurePool config.version else v,
    fun db t => tierRows_ensurePool db config.tierId config.version t, fun committed valid => ?_⟩
  have own : Lock.luckyPool config.tierId = poolParts.lockOf config.tierId := rfl
  rw [own, Knowledge.lock_own poolParts_separate, Knowledge.push_own, Function.update_self,
    Function.update_idem]
  refine (Tx.safe_lockRow_bind _ _).mpr fun _ _ => ?_
  rw [Knowledge.lock_own poolParts_separate, Function.update_self, Function.update_idem]
  refine (Tx.safe_select _).mpr fun db seen => ?_
  have rows : tierRows db config.tierId = (committed config.tierId).ensurePool config.version := by
    have sees := seen.part config.tierId
    rwa [Function.update_self] at sees
  have balance : ((db.lucky.pool config.tierId).map (·.balance)).getD 0 =
      (committed config.tierId).balance := by
    rw [← TierRows.balance_ensurePool (committed config.tierId) config.version, ← rows]
    rfl
  rw [balance]
  exact after _ (valid config.tierId)

theorem settlePool_safe {totalPaid finalWater : Int}
    {Q : Nat → Knowledge LuckyTierId TierRows → Prop} (held : K config.tierId = .held before now)
    (found : now.pool.isSome = true) (accepted : totalPaid = 0 ∨ config.floor ≤ finalWater)
    (after : Q 1 (Function.update K config.tierId
      (.held before { now with pool := some ⟨finalWater, config.version⟩ }))) :
    (settlePool config totalPaid finalWater).Safe poolParts K Q := by
  have own : Lock.luckyPool config.tierId = poolParts.lockOf config.tierId := rfl
  have known : Function.update K config.tierId (.held before now) = K := by
    rw [← held, Function.update_eq_self]
  unfold settlePool
  rw [own]
  refine (Tx.safe_lockRow_bind _ _).mpr fun committed _ => ?_
  rw [Knowledge.lock_own poolParts_separate, held, Hold.learn_held, known]
  refine (Tx.safe_select_bind _ _).mpr fun db seen => ?_
  have rows : tierRows db config.tierId = now := by
    have sees := seen.part config.tierId
    rwa [held] at sees
  have exists_ : (db.lucky.pool config.tierId).isSome = true := by
    rw [show db.lucky.pool config.tierId = now.pool from congrArg TierRows.pool rows]
    exact found
  rw [if_pos ⟨exists_, accepted⟩]
  refine .bind ⟨fun t v => if t = config.tierId then
      { v with pool := some ⟨finalWater, config.version⟩ } else v,
    fun db t => tierRows_setPool db config.tierId _ t, fun committed _ => ?_⟩
  rw [Knowledge.lock_own poolParts_separate, held, Hold.learn_held, known, Knowledge.push_own, held]
  exact after

/-- What the settlement checks of a draw, and what it leaves in the pool. -/
theorem drawUnits_settles (p : DrawUnitsParams) (priced : 0 ≤ p.unitPrice) (capped : 0 ≤ p.mMax)
    (floor : 0 ≤ p.floor) (covered : 0 ≤ p.startingWater) :
    ((drawUnits p).totalPaid = 0 ∨ p.floor ≤ (drawUnits p).finalWater) ∧
      0 ≤ (drawUnits p).finalWater := by
  obtain ⟨water, paid, aboveFloor, -⟩ := drawUnits_solvent p priced capped
  by_cases none : (drawUnits p).totalPaid = 0
  · exact ⟨.inl none, by omega⟩
  · have above := aboveFloor (by omega)
    exact ⟨.inr above, by omega⟩

/-- The guard of the settlement accepts every result of the draw. -/
theorem drawFromPool_safe {env : Environment} {input : LuckyGiftInput} {unitPrice totalCost : Int}
    {Q : DrawUnitsResult × Int → Knowledge LuckyTierId TierRows → Prop} (priced : 0 ≤ unitPrice)
    (cost : 0 ≤ totalCost)
    (after : ∀ (draw : DrawUnitsResult) (inflow : Int) (v : TierRows) (row : LuckyTierPool),
      v.Solvent → row.balance = v.balance + inflow - draw.totalPaid → 0 ≤ row.balance →
      Q (draw, inflow) (Function.update Knowledge.initial config.tierId
        (.held v { v with pool := some row }))) :
    (drawFromPool env input unitPrice totalCost config).Safe poolParts .initial Q := by
  refine (Tx.safe_select_bind _ _).mpr fun db _ => ?_
  refine .bind (lockPool_safe fun v solvent => ?_)
  let inflow := (totalCost * config.rBp).tdiv 10000
  have inflow_nonneg : 0 ≤ inflow :=
    Int.tdiv_nonneg (Int.mul_nonneg cost config.rBp_pos.le) (by decide)
  let p := config.drawParams unitPrice input.count (v.balance + inflow)
    (userCaps (fun _ => true) env.now input.senderId config.dailyWinCapCoins
      config.coolDownAfterBigWinSeconds db.lucky.audits) env.rolls
  have covered : 0 ≤ p.startingWater := Int.add_nonneg solvent.2 inflow_nonneg
  obtain ⟨accepted, left⟩ :=
    drawUnits_settles p priced config.mMax_pos.le config.floor_nonneg covered
  have water : (drawUnits p).finalWater = v.balance + inflow - (drawUnits p).totalPaid :=
    (drawUnits_solvent p priced config.mMax_pos.le).1
  refine .bind (settlePool_safe (Function.update_self ..) (v.ensurePool_isSome _) accepted ?_)
  rw [Function.update_idem, TierRows.ensurePool_settled]
  exact after (drawUnits p) inflow v _ solvent water left

theorem addDraw_safe {row : LuckyDrawAudit} {Q : Unit → Knowledge LuckyTierId TierRows → Prop}
    (enforce : row.mode = .enforce) (held : K row.tierId = .held before now)
    (after : Q () (Function.update K row.tierId
      (.held before (now.addDraw row.inflow row.paidReward)))) :
    (createDrawAudit row).Safe poolParts K Q := by
  have other : ∀ t, poolParts.lockOf t ≠ .luckyAudit row.idempotencyKey := by simp [poolParts]
  refine (Tx.safe_lockRow_bind _ _).mpr fun committed _ => ?_
  rw [Knowledge.lock_other other]
  refine (Tx.safe_select_bind _ _).mpr fun db _ => ?_
  refine Tx.safe_ensure_bind (fun _ => by simp [poolParts, luckyPoolFloor]) fun _ => ?_
  refine Tx.safe_update (fun t v => if t = row.tierId then v.addDraw row.inflow row.paidReward else v)
    (fun db t => tierRows_addDraw db row enforce t) other ?_
  rw [Knowledge.push_own, held]
  exact after

variable {may : (LuckyTierId → TierRows) → (LuckyTierId → TierRows) → Prop}

theorem waterPayout_solvent {env : Environment} {input : LuckyGiftInput} {gift : Gift}
    {totalCost hostPoints coinsAfterDebit : Int} {withCommission : Bool} {wealth : LevelResult}
    (priced : 0 ≤ gift.coinCost) (cost : 0 ≤ totalCost) (any : ∀ a b, may a b) :
    (waterPayout env input gift totalCost hostPoints coinsAfterDebit withCommission wealth
      config).Safe poolParts .initial fun _ K' => K'.Settles poolParts may := by
  have frame := poolWalletFrame
  refine .bind (Tx.Touches.safe (creditLuckyHost_touches frame env input _ _ trivial) fun _ => ?_)
  refine .bind (Tx.Touches.safe (createGiftTransaction_touches frame.toSideFrame _) fun _ => ?_)
  refine .bind (drawFromPool_safe priced cost fun draw inflow v row solvent water left => ?_)
  refine .bind (Tx.Touches.safe (payReward_touches frame input _ _ trivial) fun _ => ?_)
  refine .bind (addDraw_safe rfl (Function.update_self ..) ?_)
  rw [Function.update_idem]
  refine Knowledge.settles_own _ ?_ fun _ _ _ => any _ _
  have balance := solvent.1
  constructor
  · simp only [TierRows.balance, TierRows.addDraw, Option.map_some, Option.getD_some] at *
    omega
  · exact left

theorem luckyGiftTx_solvent {env : Environment} {input : LuckyGiftInput} {gift : Gift}
    {hostPoints : Int} (any : ∀ a b, may a b) :
    (luckyGiftTx env input gift (gift.coinCost * input.count) hostPoints).Safe poolParts .initial
      fun _ K' => K'.Settles poolParts may := by
  have frame := poolWalletFrame
  have side := frame.toSideFrame
  refine .bind (Tx.Touches.safe (resolveEngine_touches side.toPlainFrame _ _ _) fun engine => ?_)
  refine .bind (Tx.Touches.safe (lockForOperation_touches frame _ _ _) fun _ => ?_)
  cases engine with
  | waterV1 config =>
    refine Tx.safe_ensure_bind (fun _ => side.fails rfl) fun price => ?_
    -- the price guard: a unit brings the pool at least one coin, so it has a positive price
    have priced : 0 ≤ gift.coinCost := by
      have enough : 10000 ≤ gift.coinCost * config.rBp := by simpa using price
      exact (Int.pos_of_mul_pos_left (by omega) config.rBp_pos).le
    refine (Tx.safe_select_bind _ _).mpr fun db _ => ?_
    refine Tx.safe_ensure_bind (fun _ => side.fails rfl) fun _ => ?_
    refine .bind (Tx.Touches.safe (insertCoin_touches frame trivial) fun _ => ?_)
    refine .bind (Tx.Touches.safe (applyCredit_touches side _ _ _) fun wealth => ?_)
    exact waterPayout_solvent priced (Int.mul_nonneg priced (Int.natCast_nonneg _)) any
  | legacy =>
    refine Tx.Touches.safe ?_ fun _ => Prog.settles_initial fun _ => any _ _
    refine .bind (checkEngine_touches frame input _ _ _) fun _ => ?_
    refine .bind (Tx.touches_select (Parts.outside_blind _ _)) fun coins => ?_
    refine side.check rfl fun _ => ?_
    refine .bind (insertCoin_touches frame trivial) fun _ => ?_
    refine .bind (applyCredit_touches side _ _ _) fun wealth => ?_
    exact legacyPayout_touches frame env input gift _ _ _ _ _ trivial trivial

/-! ### A seed -/

theorem recordSeedTx_solvent {tierId : LuckyTierId} {version : Nat} {choice : SeedChoice}
    {amount : Int} (seeds : choice = .seed → 0 < amount) (empty : choice ≠ .seed → amount = 0)
    (any : ∀ a b, may a b) :
    (recordSeedTx tierId version choice amount).Safe poolParts .initial
      fun _ K' => K'.Settles poolParts may := by
  refine .bind (Tx.safe_update
    (fun t v => if t = tierId then { v with seeds := v.seeds + amount } else v)
    (fun db t => tierRows_addSeed db ⟨tierId, amount, choice⟩ t) (by simp [poolParts]) ?_)
  rw [Knowledge.push_own]
  split
  next isSeed =>
    refine .bind ⟨fun t v => if t = tierId then v.topUp version amount else v,
      fun db t => tierRows_topUp db tierId version amount t, fun committed valid => ?_⟩
    rw [show Lock.luckyPool tierId = poolParts.lockOf tierId from rfl,
      Knowledge.lock_own poolParts_separate, Knowledge.push_own, Function.update_self,
      Function.update_self, Function.update_idem, Function.update_idem]
    refine (Tx.safe_select _).mpr fun db _ => ?_
    refine Knowledge.settles_own _ ?_ fun _ _ _ => any _ _
    have positive := seeds isSeed
    obtain ⟨balance, covered⟩ := valid tierId
    have seeded (v : TierRows) : ({ v with seeds := v.seeds + amount } : TierRows).balance =
      v.balance := rfl
    have kept (v : TierRows) : (v.topUp version amount).seeds = v.seeds ∧
        (v.topUp version amount).inflow = v.inflow ∧ (v.topUp version amount).paid = v.paid := by
      unfold TierRows.topUp
      split <;> exact ⟨rfl, rfl, rfl⟩
    change TierRows.Solvent (({ committed tierId with
      seeds := (committed tierId).seeds + amount } : TierRows).topUp version amount)
    rw [TierRows.Solvent, TierRows.balance_topUp, seeded, (kept _).1, (kept _).2.1, (kept _).2.2]
    dsimp only
    omega
  next other =>
    have zero := empty other
    refine ⟨fun t => ?_, fun _ _ _ => any _ _⟩
    by_cases same : t = tierId
    · subst same
      rw [Function.update_self]
      exact fun v _ => by simp [zero]
    · rw [Function.update_of_ne same]
      exact Hold.settles_initial _

end Send

/-! ### Every interleaving -/

private theorem recordSeedDecision_solvent (tierId : LuckyTierId) (choice : SeedChoice)
    (amount : Int) :
    (recordSeedDecision tierId choice amount).Safe poolParts (fun _ _ => True) .initial := by
  have errors := poolPlainFrame.errors
  refine Prog.safe_ensure_bind (fun _ => errors _ (by decide)) fun positive => ?_
  refine Prog.safe_ensure_bind (fun _ => errors _ (by decide)) fun zero => ?_
  refine Prog.safe_ensure_bind (fun _ => errors _ (by decide)) fun _ => ?_
  refine Prog.safe_select_bind.mpr fun db _ => ?_
  split
  · exact errors _ (by decide)
  next latest _ =>
    refine .run ((recordSeedTx_solvent ?_ ?_ fun _ _ => trivial).mono fun _ _ settles =>
      ⟨settles, trivial⟩) fun _ thrown => thrown
    · intro isSeed
      simpa [isSeed] using positive
    · intro other
      simpa [other] using zero

theorem handler_solvent (call : Call) :
    (handler call).Safe poolParts (fun _ _ => True) .initial := by
  obtain ⟨env, request⟩ := call
  have refl : ∀ parts : LuckyTierId → TierRows, (fun _ _ => True) parts parts := fun _ => trivial
  have frame := poolWalletFrame
  have plain := poolPlainFrame
  have tiers : TierFrame poolParts.outside fun _ => True :=
    ⟨plain, fun _ _ _ _ => trivial, by simp [Parts.outside, poolParts], fun _ _ _ _ => rfl,
      fun _ _ _ _ => rfl⟩
  have sessions : SessionFrame poolParts.outside :=
    ⟨plain, by simp [Parts.outside, poolParts], fun _ _ _ => rfl⟩
  have replays : ∀ (input : LuckyGiftInput) totalCost hostPoints debit,
      (replayLucky input totalCost hostPoints debit).ReadOnly poolParts.outside :=
    fun _ => replayLucky_reads plain (Parts.outside_blind _ _)
  cases request with
  | wallet ops =>
    exact (Prog.touches_transaction (walletTx_touches frame _ fun _ _ => trivial)).safe refl
  | giftSend input => exact (giftSend_touches frame env input trivial trivial).forget.safe refl
  | luckyGiftSend input =>
    refine .forget (.after_reads (loadSendableGift_reads plain _ _) fun gift => ?_)
    refine Prog.safe_select_bind.mpr fun db _ => ?_
    split
    · exact (replays input _ _ _).safe
    · refine .run ((luckyGiftTx_solvent fun _ _ => trivial).mono fun _ _ settles =>
        ⟨settles, trivial⟩) fun error thrown => ?_
      split
      · exact Prog.safe_select_bind.mpr fun _ _ => (replays input _ _ _).safe
      · exact thrown
  | callAccept input =>
    exact (callAccept_touches sessions frame (fun _ _ => trivial) (fun _ _ => trivial) env
      input).forget.safe refl
  | callMinute input =>
    exact (Prog.touches_transaction (callMinuteTx_touches sessions frame (fun _ _ => trivial)
      (fun _ _ => trivial) env input)).forget.safe refl
  | globalMessage input => exact (globalMessage_touches frame input trivial).forget.safe refl
  | createSession session => exact (createSession_touches sessions session).safe refl
  | closeSession sessionId status =>
    exact (Prog.touches_autocommit (by simp [Parts.outside, poolParts]) fun _ _ => rfl).safe refl
  | recordSeedDecision tierId choice amount =>
    exact .forget (recordSeedDecision_solvent tierId choice amount)
  | createConfigVersion tierId patch econValid =>
    exact (createConfigVersion_touches tiers tierId econValid fun _ _ _ _ => trivial).forget.safe refl
  | setMode tierId mode isAllowed => exact (setMode_touches tiers tierId mode isAllowed).safe refl
  | shadowWorkerTick rolls => exact (runShadowWorkerTick_touches poolShadowFrame _ _ _).safe refl
  | changeSettings settings =>
    exact (Prog.touches_autocommit (by simp [Parts.outside, poolParts]) fun _ _ => rfl).safe refl

/-- In every interleaving of money requests each pool holds what was seeded and what flowed in less
the rewards paid from it, and is never negative; no send ends with the floor violation its
settlement would throw. -/
theorem pools_solvent (db : MoneyDb) (start : ∀ tierId, (tierRows db tierId).Solvent)
    (c : LedgerConfig) (run : Reaches handler (fun _ _ => True) (.idle db) c) :
    (∀ tierId, (tierRows c.db tierId).Solvent) ∧
      ∀ thread ∈ c.threads, thread.prog ≠ .fail luckyPoolFloor := by
  have guarded : Guarded poolParts (fun _ _ _ => True) c :=
    run.guarded (fun _ call _ => handler_solvent call) start fun _ _ _ _ _ _ => trivial
  refine ⟨guarded.valid, fun thread member ended => ?_⟩
  obtain ⟨i, found⟩ := List.getElem?_of_mem member
  exact guarded.throws found ended rfl

theorem solvent_luckyDb (tierId : LuckyTierId) : (tierRows luckyDb tierId).Solvent := by
  simp [TierRows.Solvent, TierRows.balance, tierRows, luckyDb, MoneyDb.empty, LuckyDb.seedsOf,
    LuckyDb.drawsOf]

/-- A seed of 5000, then a gift for 100 coins wins 1000. -/
theorem pools_solvent_jackpot :
    ∃ c : LedgerConfig, Reaches handler (fun _ _ => True) (.idle luckyDb) c ∧
      (c.db.lucky.pool .t100).map (·.balance) = some (5000 + 90 - 1000) ∧
      (∀ tierId, (tierRows c.db tierId).Solvent) ∧
      ∀ thread ∈ c.threads, thread.prog ≠ .fail luckyPoolFloor := by
  obtain ⟨c, run, balance⟩ : ∃ c, Reaches handler (fun _ _ => True) (.idle luckyDb) c ∧
      (c.db.lucky.pool .t100).map (·.balance) = some (5000 + 90 - 1000) :=
    exists_reaches [serve (topUp 1 1000 1) 0 7,
      serve ⟨noon, .recordSeedDecision .t100 .seed 5000⟩ 1 5,
      serve ⟨luckyNoon, .luckyGiftSend (luckySend 9)⟩ 2 41] (by decide +kernel)
  exact ⟨c, run, balance, pools_solvent _ solvent_luckyDb c run⟩

end OlNode.InternalLedger
