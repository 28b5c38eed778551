import Mathlib.Data.Prod.Lex
import Mathlib.Order.WithBot
import OlNode.InternalLedger.Frame
import OlNode.ReadCommitted.Effects
import OlNode.ReadCommitted.Sequential

/-!
# The scan of the shadow worker

Ticks of the worker run one after the other (its queue has concurrency 1), with the other requests
of the ledger between them. A tick fetches the rows after the cursor, oldest first, and processes
each in a transaction that also moves the cursor to the row; the first row that fails ends it.

Positions are ordered by time and then id, and a parked cursor is after all ids of its time. The
rows of a batch are sorted by position, so the cursor only moves forward and always stands before
the rows that are left. The draw of a row is recorded under the row's own key, which is looked up
first, so no row is drawn twice.
-/
namespace OlNode.ShadowScan

open ReadCommitted InternalLedger

/-- What a tick finds outside the database, and which of its rows fail after how many statements. -/
structure TickEnvironment where
  now : Time
  caches : LuckyCaches
  rolls : Nat → Nat → Nat
  fails : Nat → Option Nat

/-- The transaction of a row, which the database may abort. -/
def tryRow (env : TickEnvironment) (row : ShadowGiftRow) : LedgerTx Unit :=
  match env.fails row.id with
  | none => processShadowGiftRow env.now env.caches (env.rolls row.id) row
  | some statements =>
    (processShadowGiftRow env.now env.caches (env.rolls row.id) row).abortAfter
      .serializationAbort statements

def tryRows (env : TickEnvironment) : List ShadowGiftRow → LedgerProg Unit
  | [] => pure ()
  | row :: rows => (tryRow env row).run (fun _ => tryRows env rows) (fun _ => pure ())

/-- `runShadowWorkerTick` with the failures of its environment. -/
def tick (env : TickEnvironment) : LedgerProg Unit := do
  let anyShadow ← Prog.select fun db =>
    LUCKY_TIER_IDS.any fun t => db.lucky.mode t = some .shadow
  if anyShadow then
    let batch ← fetchShadowGiftBatch env.now
    tryRows env batch
  else parkShadowCursor env.now

/-- Without failures it is the tick of the ledger. -/
theorem tick_unfailing (now : Time) (caches : LuckyCaches) (rolls : Nat → Nat → Nat) :
    tick ⟨now, caches, rolls, fun _ => none⟩ = runShadowWorkerTick now caches rolls := by
  have rows : ∀ batch, tryRows ⟨now, caches, rolls, fun _ => none⟩ batch =
      processShadowRows now caches rolls batch := by
    intro batch
    induction batch with
    | nil => rfl
    | cons row batch ih => rw [tryRows, processShadowRows, ih, tryRow]
  unfold tick runShadowWorkerTick
  simp only [rows]

inductive Request where
  | tick (env : TickEnvironment)
  | park (now : Time)
  /-- Any request to the ledger: gifts, tier modes and configs, price changes. -/
  | call (call : Call)

def handler : Request → LedgerProg Unit
  | .tick env => tick env
  | .park now => parkShadowCursor now
  | .call call => InternalLedger.handler call

/-! ### Positions -/

/-- Time and id; the top id is that of a parked cursor. -/
abbrev Position := Nat ×ₗ WithTop Nat

def cursorPosition (cursor : LuckyShadowCursor) : Position :=
  toLex (cursor.lastCreatedAt, cursor.lastId.elim ⊤ WithTop.some)

def rowPosition (row : ShadowGiftRow) : Position := toLex (row.createdAt, WithTop.some row.id)

/-- Where the scan stands; before everything when there is no cursor yet. -/
def scanned (db : MoneyDb) : WithBot Position :=
  db.lucky.shadowCursor.elim ⊥ fun cursor => WithBot.some (cursorPosition cursor)

theorem rowPosition_le_iff {a b : ShadowGiftRow} :
    rowPosition a ≤ rowPosition b ↔
      a.createdAt < b.createdAt ∨ (a.createdAt = b.createdAt ∧ a.id ≤ b.id) := by
  simp [rowPosition, Prod.Lex.toLex_le_toLex]

theorem id_of_rowPosition {a b : ShadowGiftRow} (same : rowPosition a = rowPosition b) :
    a.id = b.id := by
  simp only [rowPosition, EmbeddingLike.apply_eq_iff_eq, Prod.mk.injEq] at same
  exact WithTop.coe_injective same.2

/-- The test of the query: the row comes after the cursor. -/
theorem after_iff (cursor : LuckyShadowCursor) (createdAt : Time) (id : Nat) :
    (cursor.lastCreatedAt < createdAt ∨
      (cursor.lastCreatedAt = createdAt ∧ cursor.lastId.any (· < id) = true)) ↔
      cursorPosition cursor < toLex (createdAt, WithTop.some id) := by
  rw [cursorPosition, Prod.Lex.toLex_lt_toLex]
  cases cursor.lastId with
  | none => simp
  | some lastId => simp

/-! ### Batches -/

/-- The row a gift is fetched as, if its gift is in the catalogue. -/
def rowOf (db : MoneyDb) (g : GiftTransaction) : Option ShadowGiftRow :=
  (db.gift g.giftId).map fun gift =>
    ⟨g.id, g.senderUserId, g.quantity, g.createdAt, gift.coinCost⟩

def giftLe (a b : GiftTransaction) : Prop :=
  a.createdAt < b.createdAt ∨ (a.createdAt = b.createdAt ∧ a.id ≤ b.id)

instance : DecidableRel giftLe := fun _ _ => inferInstanceAs (Decidable (_ ∨ _))

theorem giftLe_iff {a b : GiftTransaction} :
    giftLe a b ↔ toLex (a.createdAt, a.id) ≤ toLex (b.createdAt, b.id) := by
  rw [Prod.Lex.toLex_le_toLex]
  rfl

def isSettled (now : Time) (g : GiftTransaction) : Bool :=
  (g.context = .luckySingle || g.context = .luckyCombo) &&
    g.createdAt + SHADOW_SETTLE_LAG_MS < now

def isAfter (cursor : LuckyShadowCursor) (g : GiftTransaction) : Bool :=
  cursor.lastCreatedAt < g.createdAt ||
    (cursor.lastCreatedAt = g.createdAt && cursor.lastId.any (· < g.id))

/-- The answer of the query before its limit. -/
def selected (now : Time) (cursor : LuckyShadowCursor) (db : MoneyDb) : List ShadowGiftRow :=
  ((db.giftTransactions.filter fun g => isSettled now g && isAfter cursor g).insertionSort
    giftLe).filterMap (rowOf db)

theorem shadowGiftBatch_eq (now : Time) (cursor : LuckyShadowCursor) (db : MoneyDb) :
    shadowGiftBatch now cursor db = (selected now cursor db).take SHADOW_WORKER_BATCH_SIZE := rfl

theorem mem_selected {now : Time} {cursor : LuckyShadowCursor} {db : MoneyDb}
    {row : ShadowGiftRow} : row ∈ selected now cursor db ↔
      ∃ g ∈ db.giftTransactions, rowOf db g = some row ∧ isSettled now g = true ∧
        cursorPosition cursor < rowPosition row := by
  have positions : ∀ g, rowOf db g = some row →
      (isAfter cursor g = true ↔ cursorPosition cursor < rowPosition row) := by
    intro g fetched
    obtain ⟨gift, -, rfl⟩ := Option.map_eq_some_iff.mp fetched
    rw [rowPosition, ← after_iff]
    simp [isAfter]
  simp only [selected, List.mem_filterMap, List.mem_insertionSort, List.mem_filter,
    Bool.and_eq_true]
  constructor
  · rintro ⟨g, ⟨member, settled, later⟩, fetched⟩
    exact ⟨g, member, fetched, settled, (positions g fetched).mp later⟩
  · rintro ⟨g, member, fetched, settled, later⟩
    exact ⟨g, ⟨member, settled, (positions g fetched).mpr later⟩, fetched⟩

/-- The rows come in the order of their positions. -/
theorem selected_sorted (now : Time) (cursor : LuckyShadowCursor) (db : MoneyDb) :
    (selected now cursor db).Pairwise fun a b => rowPosition a ≤ rowPosition b := by
  have total : Std.Total giftLe := ⟨fun a b => by simpa only [giftLe_iff] using le_total _ _⟩
  have trans : IsTrans GiftTransaction giftLe :=
    ⟨fun a b c => by simpa only [giftLe_iff] using le_trans⟩
  have sorted := List.pairwise_insertionSort giftLe
    (db.giftTransactions.filter fun g => isSettled now g && isAfter cursor g)
  refine List.pairwise_filterMap.mpr (sorted.imp ?_)
  intro a b le rowA fetchedA rowB fetchedB
  obtain ⟨giftA, -, rfl⟩ := Option.map_eq_some_iff.mp fetchedA
  obtain ⟨giftB, -, rfl⟩ := Option.map_eq_some_iff.mp fetchedB
  exact rowPosition_le_iff.mpr le

/-! ### One row -/

def DrawnOnce (db : MoneyDb) : Prop :=
  ∀ id, (db.lucky.audits.filter fun a => a.idempotencyKey = .shadow id).length ≤ 1

/-- A draw for the row: its record is the first under the row's key, and the shadow pool of the
row's tier is not left below its floor by a reward. -/
structure Draws (caches : LuckyCaches) (row : ShadowGiftRow) (s t : MoneyDb)
    (config : LuckyTierConfig) (audit : LuckyDrawAudit) (after : LuckyTierPool) : Prop where
  shadow : (resolveTierConfig caches row.unitPrice).eval s = .ok (some (config, .shadow), s)
  undrawn : ∀ a ∈ s.lucky.audits, a.idempotencyKey ≠ .shadow row.id
  audits : t.lucky.audits = s.lucky.audits ++ [audit]
  key : audit.idempotencyKey = .shadow row.id
  tier : audit.tierId = config.tierId
  pool : t.lucky.shadowPool config.tierId = some after
  floor : audit.paidReward ≠ 0 → config.floor ≤ after.balance

/-- The row is drawn or left undrawn, and the cursor moves to it. -/
structure Processed (caches : LuckyCaches) (row : ShadowGiftRow) (s t : MoneyDb) : Prop where
  cursor : t.lucky.shadowCursor = some ⟨row.createdAt, some row.id⟩
  gifts : t.giftTransactions = s.giftTransactions
  catalogue : t.gift = s.gift
  draws : (t.lucky.audits = s.lucky.audits ∧ t.lucky.shadowPool = s.lucky.shadowPool) ∨
    ∃ config audit pool, Draws caches row s t config audit pool

theorem resolveTierConfig_unchanged {caches : LuckyCaches} {unitPrice : Int} {s t : MoneyDb}
    {resolved : Option (LuckyTierConfig × LuckyTierMode)}
    (ran : (resolveTierConfig caches unitPrice).eval s = .ok (resolved, t)) : t = s := by
  let nowhere : LedgerFootprint := { write := fun _ => False }
  have plain : PlainFrame nowhere := ⟨fun _ _ same => .inl same.symm, fun _ _ => trivial⟩
  have nothing := (resolveTierConfig_touches plain caches unitPrice).writes fun _ => rfl
  have effects : (resolveTierConfig caches unitPrice).Effects (fun _ w => w = id) id :=
    nothing.effects_after (fun _ _ impossible => impossible.elim) rfl
  obtain ⟨w, rfl, same⟩ := effects.eval ran
  exact same

theorem processed_skip {caches : LuckyCaches} {row : ShadowGiftRow} {s t : MoneyDb} {u : Unit}
    (ran : (advanceCursor row.createdAt row.id).eval s = .ok (u, t)) :
    Processed caches row s t := by
  simp only [advanceCursor, setCursor, Tx.eval_update, Except.ok.injEq, Prod.mk.injEq] at ran
  obtain ⟨-, rfl⟩ := ran
  exact ⟨rfl, rfl, rfl, .inl ⟨rfl, rfl⟩⟩

theorem audits_ensureShadowPool (db : LuckyDb) (config : LuckyTierConfig) :
    (db.ensureShadowPool config).audits = db.audits := by
  unfold LuckyDb.ensureShadowPool
  split <;> rfl

theorem processed_draw {env : TickEnvironment} {row : ShadowGiftRow} {config : LuckyTierConfig}
    {s t : MoneyDb} {u : Unit}
    (shadow : (resolveTierConfig env.caches row.unitPrice).eval s = .ok (some (config, .shadow), s))
    (ran : (processShadowDraw env.now (env.rolls row.id) row config).eval s = .ok (u, t)) :
    Processed env.caches row s t := by
  rw [processShadowDraw, Tx.eval_select_bind] at ran
  split at ran
  next existing => exact processed_skip ran
  next undrawn =>
    simp only [Bool.not_eq_true, List.any_eq_false, decide_eq_true_eq] at undrawn
    obtain ⟨poolBalance, pooled, ensured, ran⟩ := Tx.eval_bind_ok.mp ran
    obtain ⟨caps, capped, limits, ran⟩ := Tx.eval_bind_ok.mp ran
    obtain ⟨floor, ran⟩ := Tx.eval_ensure_bind_ok.mp ran
    rw [Tx.eval_update_bind] at ran
    obtain ⟨_, drawn, audited, ran⟩ := Tx.eval_bind_ok.mp ran
    simp only [ensureShadowPoolAtL0, Tx.eval_update_bind, Tx.eval_lockRow_bind, Tx.eval_select,
      Except.ok.injEq, Prod.mk.injEq] at ensured
    obtain ⟨-, rfl⟩ := ensured
    simp only [readShadowUserCaps, Tx.eval_select, Except.ok.injEq, Prod.mk.injEq] at limits
    obtain ⟨-, rfl⟩ := limits
    simp only [createDrawAudit, Tx.eval_lockRow_bind, Tx.eval_select_bind, Tx.eval_ensure_bind_ok,
      Tx.eval_update, Except.ok.injEq, Prod.mk.injEq] at audited
    obtain ⟨-, -, rfl⟩ := audited
    simp only [advanceCursor, setCursor, Tx.eval_update, Except.ok.injEq, Prod.mk.injEq] at ran
    obtain ⟨-, rfl⟩ := ran
    have paid := of_decide_eq_true floor
    have audits := audits_ensureShadowPool s.lucky config
    constructor
    · rfl
    · simp only [MoneyDb.setLucky]
    · simp only [MoneyDb.setLucky]
    · exact .inr ⟨config, _, _, shadow, undrawn, congrArg (· ++ [_]) audits, rfl, rfl, if_pos rfl,
        fun reward => paid.resolve_left reward⟩

theorem processed_row {env : TickEnvironment} {row : ShadowGiftRow} {s t : MoneyDb} {u : Unit}
    (ran : (processShadowGiftRow env.now env.caches (env.rolls row.id) row).eval s = .ok (u, t)) :
    Processed env.caches row s t := by
  obtain ⟨resolved, mid, found, rest⟩ := Tx.eval_bind_ok.mp ran
  obtain rfl := resolveTierConfig_unchanged found
  split at rest
  next config =>
    rw [Tx.eval_select_bind] at rest
    split at rest
    next existing => exact processed_skip rest
    next => exact processed_draw found rest
  next => exact processed_skip rest

theorem processed_of_tryRow {env : TickEnvironment} {row : ShadowGiftRow} {s t : MoneyDb} {u : Unit}
    (ran : (tryRow env row).eval s = .ok (u, t)) : Processed env.caches row s t := by
  unfold tryRow at ran
  split at ran
  next => exact processed_row ran
  next statements _ => exact processed_row (Tx.eval_of_abortAfter ran)

/-! ### One tick -/

section Rows

variable {caches : LuckyCaches} {row : ShadowGiftRow} {s t : MoneyDb}

theorem Processed.scanned (processed : Processed caches row s t) :
    scanned t = WithBot.some (rowPosition row) := by
  rw [ShadowScan.scanned, processed.cursor]
  rfl

theorem Processed.drawnOnce (processed : Processed caches row s t) (once : DrawnOnce s) :
    DrawnOnce t := by
  rcases processed.draws with ⟨audits, -⟩ | ⟨config, audit, after, draws⟩
  · intro id
    rw [audits]
    exact once id
  · intro id
    rw [draws.audits, List.filter_append]
    by_cases same : id = row.id
    · subst same
      have undrawn : s.lucky.audits.filter (fun a => a.idempotencyKey = .shadow row.id) = [] := by
        rw [List.filter_eq_nil_iff]
        intro a member
        simpa using draws.undrawn a member
      rw [undrawn, List.nil_append]
      exact List.length_filter_le _ [audit]
    · have other : ¬ audit.idempotencyKey = .shadow id := by
        rw [draws.key, AuditKey.shadow.injEq]
        exact fun equal => same equal.symm
      simpa [other] using once id

end Rows

/-- The rows are processed one after the other. -/
inductive Advances (caches : LuckyCaches) : MoneyDb → List ShadowGiftRow → MoneyDb → Prop where
  | nil {s : MoneyDb} : Advances caches s [] s
  | cons {s t u : MoneyDb} {row : ShadowGiftRow} {rows : List ShadowGiftRow}
      (first : Processed caches row s t) (rest : Advances caches t rows u) :
      Advances caches s (row :: rows) u

section Batch

variable {caches : LuckyCaches} {rows : List ShadowGiftRow} {s t : MoneyDb}

theorem Advances.drawnOnce (advances : Advances caches s rows t) (once : DrawnOnce s) :
    DrawnOnce t := by
  induction advances with
  | nil => exact once
  | cons first _ ih => exact ih (first.drawnOnce once)

theorem Advances.tables (advances : Advances caches s rows t) :
    t.giftTransactions = s.giftTransactions ∧ t.gift = s.gift := by
  induction advances with
  | nil => exact ⟨rfl, rfl⟩
  | cons first _ ih => exact ⟨ih.1.trans first.gifts, ih.2.trans first.catalogue⟩

/-- The scan stands at the last row that was processed. -/
theorem Advances.scanned (advances : Advances caches s rows t) :
    (rows = [] ∧ t = s) ∨
      ∃ before last, rows = before ++ [last] ∧ scanned t = WithBot.some (rowPosition last) := by
  induction advances with
  | nil => exact .inl ⟨rfl, rfl⟩
  | @cons s t u row rows first _ ih =>
    rcases ih with ⟨rfl, rfl⟩ | ⟨before, last, rfl, stands⟩
    · exact .inr ⟨[], row, rfl, first.scanned⟩
    · exact .inr ⟨row :: before, last, rfl, stands⟩

/-- The loop processes the rows up to the first one that fails, and that one fails where it
stands. -/
theorem tryRows_advances (env : TickEnvironment) (rows : List ShadowGiftRow) (s : MoneyDb) :
    ∃ processed left, rows = processed ++ left ∧
      Advances env.caches s processed ((tryRows env rows).call s).2 ∧
      ∀ row more, left = row :: more →
        ∃ error, (tryRow env row).eval ((tryRows env rows).call s).2 = .error error := by
  induction rows generalizing s with
  | nil => exact ⟨[], [], rfl, .nil, nofun⟩
  | cons row rows ih =>
    rw [tryRows, Prog.call_run]
    cases ran : (tryRow env row).eval s with
    | error error =>
      refine ⟨[], row :: rows, rfl, .nil, fun failed more same => ?_⟩
      obtain ⟨rfl, -⟩ := List.cons.inj same
      exact ⟨error, ran⟩
    | ok result =>
      obtain ⟨_, t⟩ := result
      obtain ⟨processed, left, rfl, advances, fails⟩ := ih t
      exact ⟨row :: processed, left, rfl, .cons (processed_of_tryRow ran) advances, fails⟩

end Batch

/-- A tick that fetched a batch: the rows before the first failure are processed in order, and the
rest is left. -/
structure ScansBatch (env : TickEnvironment) (s t : MoneyDb) (cursor : LuckyShadowCursor)
    (processed left : List ShadowGiftRow) : Prop where
  stood : s.lucky.shadowCursor = some cursor
  batch : shadowGiftBatch env.now cursor s = processed ++ left
  advances : Advances env.caches s processed t
  fails : ∀ row more, left = row :: more → ∃ error, (tryRow env row).eval t = .error error

namespace ScansBatch

variable {env : TickEnvironment} {s t : MoneyDb} {cursor : LuckyShadowCursor}
  {processed left : List ShadowGiftRow} (scans : ScansBatch env s t cursor processed left)

include scans

theorem position : scanned s = WithBot.some (cursorPosition cursor) := by
  rw [scanned, scans.stood]
  rfl

variable {row : ShadowGiftRow}

theorem ahead (member : row ∈ processed ++ left) :
    cursorPosition cursor < rowPosition row := by
  rw [← scans.batch, shadowGiftBatch_eq] at member
  obtain ⟨_, _, _, _, later⟩ := mem_selected.mp (List.mem_of_mem_take member)
  exact later

theorem sorted : (processed ++ left).Pairwise fun a b => rowPosition a ≤ rowPosition b := by
  rw [← scans.batch, shadowGiftBatch_eq]
  exact (selected_sorted env.now cursor s).sublist (List.take_sublist _ _)

theorem settled (member : row ∈ processed ++ left) :
    row.createdAt + SHADOW_SETTLE_LAG_MS < env.now := by
  rw [← scans.batch, shadowGiftBatch_eq] at member
  obtain ⟨g, _, isRow, settled, _⟩ := mem_selected.mp (List.mem_of_mem_take member)
  obtain ⟨gift, -, rfl⟩ := Option.map_eq_some_iff.mp isRow
  simp only [isSettled, Bool.and_eq_true, decide_eq_true_eq] at settled
  exact settled.2

theorem forward : scanned s ≤ scanned t := by
  rcases scans.advances.scanned with ⟨-, same⟩ | ⟨before, last, rows, stands⟩
  · rw [same]
  · have member : last ∈ processed ++ left := by simp [rows]
    rw [stands, scans.position, WithBot.coe_le_coe]
    exact (scans.ahead member).le

/-- The rows that are processed are behind the cursor. -/
theorem behind (member : row ∈ processed) :
    WithBot.some (rowPosition row) ≤ scanned t := by
  rcases scans.advances.scanned with ⟨rows, -⟩ | ⟨before, last, rows, stands⟩
  · rw [rows] at member
    cases member
  · have sorted := (List.pairwise_append.mp scans.sorted).1
    rw [rows, List.pairwise_append] at sorted
    rw [rows, List.mem_append, List.mem_singleton] at member
    rw [stands, WithBot.coe_le_coe]
    rcases member with earlier | rfl
    · exact sorted.2.2 row earlier last (List.mem_singleton_self last)
    · exact le_refl _

/-- The rows that are left are ahead of the cursor, unless their gift has been processed. -/
theorem waiting (member : row ∈ left) :
    scanned t < WithBot.some (rowPosition row) ∨ ∃ done ∈ processed, done.id = row.id := by
  rcases scans.advances.scanned with ⟨-, same⟩ | ⟨before, last, rows, stands⟩
  · left
    rw [same, scans.position, WithBot.coe_lt_coe]
    exact scans.ahead (List.mem_append_right _ member)
  · have isLast : last ∈ processed := by simp [rows]
    have le := (List.pairwise_append.mp scans.sorted).2.2 last isLast row member
    rw [stands, WithBot.coe_lt_coe]
    rcases le.lt_or_eq with earlier | same
    · exact .inl earlier
    · exact .inr ⟨last, isLast, id_of_rowPosition same⟩

/-- The row that failed is the first one of the next batch, whenever that is fetched from here. -/
theorem retried {more : List ShadowGiftRow} (first : left = row :: more)
    (unprocessed : ∀ done ∈ processed, done.id ≠ row.id) {now : Time} (later : env.now ≤ now)
    {next : LuckyShadowCursor} (stands : t.lucky.shadowCursor = some next) :
    (shadowGiftBatch now next t).head?.map (·.id) = some row.id := by
  have position : scanned t = WithBot.some (cursorPosition next) := by
    rw [scanned, stands]
    rfl
  have fetched : row ∈ processed ++ left := by simp [first]
  have ahead : cursorPosition next < rowPosition row := by
    have member : row ∈ left := by simp [first]
    rcases scans.waiting member with ahead | ⟨done, member, same⟩
    · rwa [position, WithBot.coe_lt_coe] at ahead
    · exact absurd same (unprocessed done member)
  obtain ⟨gifts, catalogue⟩ := scans.advances.tables
  have sameRow : ∀ g, rowOf t g = rowOf s g := fun g => by rw [rowOf, rowOf, catalogue]
  -- The row is selected again: nothing of it has changed, and time has only passed.
  have again : row ∈ selected now next t := by
    have before := fetched
    rw [← scans.batch, shadowGiftBatch_eq] at before
    obtain ⟨g, member, isRow, settled, -⟩ := mem_selected.mp (List.mem_of_mem_take before)
    refine mem_selected.mpr ⟨g, gifts ▸ member, (sameRow g).trans isRow, ?_, ahead⟩
    simp only [isSettled, Bool.and_eq_true, decide_eq_true_eq] at settled ⊢
    exact ⟨settled.1, Nat.lt_of_lt_of_le settled.2 later⟩
  -- Whatever else is selected was selected before, behind the row, or is younger than it.
  have least : ∀ other ∈ selected now next t, rowPosition row ≤ rowPosition other := by
    intro other selectedNow
    obtain ⟨g, member, isOther, settled, otherAhead⟩ := mem_selected.mp selectedNow
    cases settledBefore : isSettled env.now g with
    | false =>
      have young : row.createdAt < other.createdAt := by
        obtain ⟨gift, -, rfl⟩ := Option.map_eq_some_iff.mp isOther
        have old := scans.settled fetched
        simp only [isSettled, Bool.and_eq_true] at settled
        have notBefore : env.now ≤ g.createdAt + SHADOW_SETTLE_LAG_MS := by
          simpa [isSettled, settled.1] using settledBefore
        exact Nat.lt_of_add_lt_add_right (Nat.lt_of_lt_of_le old notBefore)
      exact rowPosition_le_iff.mpr (.inl young)
    | true =>
      have forward := scans.forward
      rw [position, scans.position, WithBot.coe_le_coe] at forward
      have listed : other ∈ selected env.now cursor s := mem_selected.mpr
        ⟨g, gifts ▸ member, (sameRow g).symm.trans isOther, settledBefore,
          forward.trans_lt otherAhead⟩
      have sorted := selected_sorted env.now cursor s
      rw [← List.take_append_drop SHADOW_WORKER_BATCH_SIZE (selected env.now cursor s),
        ← shadowGiftBatch_eq, scans.batch, first, List.append_assoc] at listed sorted
      rcases List.mem_append.mp listed with behind | behind
      · have passed := scans.behind behind
        rw [position, WithBot.coe_le_coe] at passed
        exact absurd otherAhead (not_lt.mpr passed)
      · rw [List.cons_append] at behind sorted
        rcases List.mem_cons.mp behind with rfl | behind
        · exact le_refl _
        · have tail := (List.pairwise_append.mp sorted).2.1
          exact (List.pairwise_cons.mp tail).1 other behind
  have sorted := selected_sorted now next t
  rw [shadowGiftBatch_eq]
  cases rows : selected now next t with
  | nil =>
    rw [rows] at again
    cases again
  | cons head tail =>
    rw [rows] at again sorted
    have headFirst : rowPosition head ≤ rowPosition row := by
      rcases List.mem_cons.mp again with rfl | behind
      · exact le_refl _
      · exact (List.pairwise_cons.mp sorted).1 row behind
    have same := le_antisymm headFirst (least head (by simp [rows]))
    rw [SHADOW_WORKER_BATCH_SIZE, List.take_succ_cons, List.head?_cons, Option.map_some,
      id_of_rowPosition same]

end ScansBatch

theorem parkShadowCursor_call (now : Time) (s : MoneyDb) :
    ((parkShadowCursor now).call s).2 = s ∨
      scanned s ≤ scanned ((parkShadowCursor now).call s).2 ∧
        ((parkShadowCursor now).call s).2 =
          s.setLucky { s.lucky with shadowCursor := some ⟨now - SHADOW_SETTLE_LAG_MS, none⟩ } := by
  rw [parkShadowCursor, Prog.call_select_bind]
  split
  next => exact .inl rfl
  next behind =>
    refine .inr ⟨?_, rfl⟩
    cases cursor : s.lucky.shadowCursor with
    | none =>
      rw [scanned, cursor]
      exact bot_le
    | some old =>
      rw [cursor, Option.map_some, Option.any_some, decide_eq_true_eq, Nat.not_le] at behind
      rw [scanned, cursor]
      refine WithBot.coe_le_coe.mpr (le_of_lt ?_)
      exact Prod.Lex.toLex_lt_toLex.mpr (.inl behind)

/-- Nothing is to be scanned: no tier is in shadow mode, or there is no cursor yet. -/
def Idle (s : MoneyDb) : Prop :=
  (∀ tier, s.lucky.mode tier ≠ some .shadow) ∨ s.lucky.shadowCursor = none

/-- What a tick does. With nothing to scan it moves the cursor without drawing anything. Otherwise
it scans a batch: then every row it leaves is still ahead of the cursor (or is of a gift it has
processed), and the row that failed comes first in the next batch. -/
inductive TickDone (env : TickEnvironment) (s t : MoneyDb) : Prop where
  | parked (idle : Idle s) (forward : scanned s ≤ scanned t)
      (audits : t.lucky.audits = s.lucky.audits)
      (pools : t.lucky.shadowPool = s.lucky.shadowPool)
  | scanned {cursor : LuckyShadowCursor} {processed left : List ShadowGiftRow}
      (scans : ScansBatch env s t cursor processed left)
      (waiting : ∀ row ∈ left, ShadowScan.scanned t < WithBot.some (rowPosition row) ∨
        ∃ done ∈ processed, done.id = row.id)
      (retried : ∀ row more, left = row :: more → (∀ done ∈ processed, done.id ≠ row.id) →
        ∀ now, env.now ≤ now → ∀ next, t.lucky.shadowCursor = some next →
          (shadowGiftBatch now next t).head?.map (·.id) = some row.id)

theorem parked_of_park (env : TickEnvironment) (now : Time) {s : MoneyDb} (idle : Idle s) :
    TickDone env s ((parkShadowCursor now).call s).2 := by
  rcases parkShadowCursor_call now s with same | ⟨forward, parked⟩
  · rw [same]
    exact .parked idle (le_refl _) rfl rfl
  · exact .parked idle forward (by rw [parked]; rfl) (by rw [parked]; rfl)

theorem tick_done (env : TickEnvironment) (s : MoneyDb) : TickDone env s ((tick env).call s).2 := by
  rw [tick, Prog.call_select_bind]
  split
  next =>
    rw [fetchShadowGiftBatch, Prog.bind_assoc, Prog.call_select_bind]
    cases stood : s.lucky.shadowCursor with
    | none =>
      have parks := parked_of_park env env.now (.inr stood)
      rw [Prog.bind_assoc]
      change TickDone env s ((parkShadowCursor env.now >>= fun _ => pure ()).call s).2
      rw [Prog.call_bind_pure]
      exact parks
    | some cursor =>
      obtain ⟨processed, left, batch, advances, fails⟩ :=
        tryRows_advances env (shadowGiftBatch env.now cursor s) s
      have scans : ScansBatch env s _ cursor processed left := ⟨stood, batch, advances, fails⟩
      exact .scanned scans (fun _ => scans.waiting)
        fun _ _ first unprocessed _ later _ => scans.retried first unprocessed later
  next none =>
    refine parked_of_park env env.now (.inl fun tier inShadow => none ?_)
    exact List.any_eq_true.mpr ⟨tier, by cases tier <;> decide, by simpa using inShadow⟩

theorem TickDone.forward {env : TickEnvironment} {s t : MoneyDb} (done : TickDone env s t) :
    ShadowScan.scanned s ≤ ShadowScan.scanned t := by
  cases done with
  | parked _ forward => exact forward
  | scanned scans => exact scans.forward

theorem TickDone.drawnOnce {env : TickEnvironment} {s t : MoneyDb} (done : TickDone env s t)
    (once : DrawnOnce s) : DrawnOnce t := by
  cases done with
  | parked _ _ audits =>
    intro id
    rw [audits]
    exact once id
  | scanned scans => exact scans.advances.drawnOnce once

/-! ### Sequences -/

/-- A write that leaves the cursor and the records of the shadow draws alone. -/
def KeepsScan (f : MoneyDb → MoneyDb) : Prop :=
  ∀ db, (f db).lucky.shadowCursor = db.lucky.shadowCursor ∧
    ∀ id, (f db).lucky.audits.filter (fun a => a.idempotencyKey = .shadow id) =
      db.lucky.audits.filter fun a => a.idempotencyKey = .shadow id

def besideScan : LedgerFootprint := { write := KeepsScan }

theorem besideScan_plain : PlainFrame besideScan :=
  ⟨fun _ _ same => .inl same.symm, fun _ _ => trivial⟩

theorem besideScan_wallet : WalletFrame besideScan fun _ => True where
  toPlainFrame := besideScan_plain
  level := fun _ _ => trivial
  setLevel := fun _ _ _ _ => ⟨rfl, fun _ => rfl⟩
  commission := fun _ => trivial
  mark := fun _ _ => ⟨rfl, fun _ => rfl⟩
  gift := fun _ => trivial
  addGift := fun _ _ => ⟨rfl, fun _ => rfl⟩
  wallet := fun _ => trivial
  coinKey := fun _ _ => trivial
  pointKey := fun _ _ => trivial
  addCoin := fun _ _ _ => ⟨rfl, fun _ => rfl⟩
  addPoint := fun _ _ _ => ⟨rfl, fun _ => rfl⟩
  commissionKey := fun _ => trivial

theorem besideScan_pool : PoolFrame besideScan fun _ => True where
  toPlainFrame := besideScan_plain
  stored := fun _ _ _ _ => trivial
  pool := fun _ => trivial
  ensurePool := fun tierId version db => by
    dsimp only [LuckyDb.ensurePool]
    split <;> exact ⟨rfl, fun _ => rfl⟩
  setPool := fun _ _ _ => ⟨rfl, fun _ => rfl⟩
  audit := fun _ => trivial
  addAudit := by
    rintro row _ ⟨base, key⟩ db
    refine ⟨rfl, fun id => ?_⟩
    simp [MoneyDb.setLucky, key]
  sent := fun _ _ _ same => by rw [same]
  floor := trivial

theorem besideScan_tiers : TierFrame besideScan fun _ => True :=
  ⟨besideScan_plain, fun _ _ _ _ => trivial, fun _ => trivial, fun _ _ _ => ⟨rfl, fun _ => rfl⟩,
    fun _ _ _ => ⟨rfl, fun _ => rfl⟩⟩

theorem besideScan_sessions : SessionFrame besideScan :=
  ⟨besideScan_plain, fun _ => trivial, fun _ _ => ⟨rfl, fun _ => rfl⟩⟩

/-- The other requests of the ledger have nothing to do with the scan. -/
theorem call_keepsScan (call : Call) (other : ∀ rolls, call.request ≠ .shadowWorkerTick rolls) :
    (InternalLedger.handler call).Writes KeepsScan := by
  suffices touches : (InternalLedger.handler call).Touches besideScan from
    touches.writes fun _ => rfl
  obtain ⟨env, request⟩ := call
  have frame := besideScan_wallet
  have tiers := besideScan_tiers
  have sessions := besideScan_sessions
  cases request with
  | wallet ops => exact Prog.touches_transaction (walletTx_touches frame _ fun _ _ => trivial)
  | giftSend input => exact (giftSend_touches frame env input trivial trivial).forget
  | luckyGiftSend input =>
    exact (luckyGiftSend_touches frame besideScan_pool (fun _ _ _ _ same => by rw [same])
      (fun _ _ => trivial) trivial trivial trivial).forget
  | callAccept input =>
    exact (callAccept_touches sessions frame (fun _ _ => trivial) (fun _ _ => trivial) env
      input).forget
  | callMinute input =>
    exact (Prog.touches_transaction (callMinuteTx_touches sessions frame (fun _ _ => trivial)
      (fun _ _ => trivial) env input)).forget
  | globalMessage input => exact (globalMessage_touches frame input trivial).forget
  | createSession session => exact createSession_touches sessions session
  | closeSession sessionId status => exact Prog.touches_autocommit trivial fun _ => ⟨rfl, fun _ => rfl⟩
  | recordSeedDecision tierId choice amount =>
    refine Prog.Touches.forget (recordSeedDecision_touches tiers tierId choice amount trivial ?_ ?_)
    · exact fun _ => ⟨rfl, fun _ => rfl⟩
    · intro version db
      dsimp only [LuckyDb.topUp]
      split <;> exact ⟨rfl, fun _ => rfl⟩
  | createConfigVersion tierId patch econValid =>
    exact (createConfigVersion_touches tiers tierId econValid fun _ _ _ _ => trivial).forget
  | setMode tierId mode isAllowed => exact setMode_touches tiers tierId mode isAllowed
  | shadowWorkerTick rolls => exact absurd rfl (other rolls)
  | changeSettings settings => exact Prog.touches_autocommit trivial fun _ => ⟨rfl, fun _ => rfl⟩

/-- One request: the scan does not go back, and nothing is drawn again. -/
theorem request_scans (request : Request) {s : MoneyDb} (once : DrawnOnce s) :
    scanned s ≤ scanned ((handler request).call s).2 ∧ DrawnOnce ((handler request).call s).2 := by
  have ticks : ∀ env t, TickDone env s t → scanned s ≤ scanned t ∧ DrawnOnce t :=
    fun env t done => ⟨done.forward, done.drawnOnce once⟩
  cases request with
  | tick env => exact ticks env _ (tick_done env s)
  | park now =>
    change scanned s ≤ scanned ((parkShadowCursor now).call s).2 ∧
      DrawnOnce ((parkShadowCursor now).call s).2
    rcases parkShadowCursor_call now s with same | ⟨forward, parked⟩
    · rw [same]
      exact ⟨le_refl _, once⟩
    · refine ⟨forward, ?_⟩
      rw [parked]
      exact once
  | call call =>
    by_cases worker : ∃ rolls, call.request = .shadowWorkerTick rolls
    · obtain ⟨rolls, isTick⟩ := worker
      have same : handler (.call call) = tick ⟨call.env.now, call.env.caches, rolls, fun _ => none⟩ := by
        rw [tick_unfailing, handler, InternalLedger.handler, isTick]
      rw [same]
      exact ticks _ _ (tick_done _ s)
    · have keeps := call_keepsScan call fun rolls isTick => worker ⟨rolls, isTick⟩
      let Same (t : MoneyDb) : Prop := t.lucky.shadowCursor = s.lucky.shadowCursor ∧
        ∀ id, t.lucky.audits.filter (fun a => a.idempotencyKey = .shadow id) =
          s.lucky.audits.filter fun a => a.idempotencyKey = .shadow id
      have after : Same ((handler (.call call)).call s).2 := by
        refine Prog.Writes.call (keeps.mono fun f keeps t same => ?_) ⟨rfl, fun _ => rfl⟩
        exact ⟨(keeps t).1.trans same.1, fun id => ((keeps t).2 id).trans (same.2 id)⟩
      refine ⟨?_, fun id => ?_⟩
      · rw [scanned, scanned, after.1]
      · rw [after.2 id]
        exact once id

/-- In every sequence of ticks, whichever rows fail, of parkings and of other requests, mode flips
among them: the cursor never moves backward, no gift is drawn twice, and every next tick does what
`TickDone` says. -/
theorem scan_exactly_once {s t : MoneyDb} (once : DrawnOnce s)
    (run : InTurn handler (fun _ _ => True) s t) :
    scanned s ≤ scanned t ∧ DrawnOnce t ∧
      ∀ env, TickDone env t ((handler (.tick env)).call t).2 := by
  have sofar : scanned s ≤ scanned t ∧ DrawnOnce t := by
    induction run with
    | refl => exact ⟨le_refl _, once⟩
    | @step t request _ _ ih =>
      obtain ⟨forward, drawn⟩ := request_scans request ih.2
      exact ⟨ih.1.trans forward, drawn⟩
  exact ⟨sofar.1, sofar.2, fun env => tick_done env t⟩

def luckyGift (id : Nat) : GiftTransaction where
  id := id
  senderUserId := 1
  receiverUserId := 2
  giftId := 1
  coinCost := 100
  quantity := 1
  pointsAwarded := 50
  context := .luckySingle
  createdAt := 1000

/-- Two gifts of the same time wait after the cursor, and their tier is in shadow mode. -/
def twoGifts : MoneyDb :=
  MoneyDb.setLucky { luckyDb with giftTransactions := [luckyGift 8, luckyGift 7] }
    { luckyDb.lucky with mode := fun _ => some .shadow, shadowCursor := some ⟨1000, some 3⟩ }

def jackpots (fails : Nat → Option Nat) : TickEnvironment where
  now := 100000
  caches := ⟨none, fun _ => none⟩
  rolls _ _ := 9999
  fails := fails

/-- The second gift fails in the first tick and is drawn in the next one. -/
theorem scan_exactly_once_retried :
    let first := ((handler (.tick (jackpots fun id => if id = 8 then some 4 else none))).call
      twoGifts).2
    let second := ((handler (.tick (jackpots fun _ => none))).call first).2
    first.lucky.audits.map (·.giftTransactionId) = [7] ∧
      second.lucky.audits.map (·.giftTransactionId) = [7, 8] ∧
      scanned twoGifts ≤ scanned second ∧ DrawnOnce second ∧
      ∀ env, TickDone env second ((handler (.tick env)).call second).2 := by
  intro first second
  have once : DrawnOnce twoGifts := fun _ => Nat.zero_le 1
  have run : InTurn handler (fun _ _ => True) twoGifts second :=
    .step (.step .refl trivial) trivial
  exact ⟨by decide, by decide, scan_exactly_once once run⟩

end OlNode.ShadowScan
