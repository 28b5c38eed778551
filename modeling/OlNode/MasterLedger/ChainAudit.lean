import OlNode.Keyed
import OlNode.MasterLedger.Float
import OlNode.Predecessor
import OlNode.Slices

/-!
# The audit of the balance chains

A run of the audit reads the rows of its window wallet by wallet, checks each against the row before
it, and goes on from the balance the row has, right or wrong. The row before the first one is read
from outside of the window, so it makes no difference where the windows begin and end: over all runs
the flagged rows are those that do not continue the row before them. Flags have a unique fingerprint,
and a row that is flagged again is skipped.
-/
namespace OlNode.LedgerAudit

open History Keyed MasterLedger Predecessor Slices Totals

inductive LedgerAuditCategory where
  | coin | tradingCoin | point | vip
  deriving DecidableEq

def LedgerAuditCategory.text : LedgerAuditCategory → String
  | .coin => "COIN"
  | .tradingCoin => "TRADING_COIN"
  | .point => "POINT"
  | .vip => "VIP"

inductive LedgerAuditSeverity where
  | info | warning | critical
  deriving DecidableEq

inductive LedgerAuditCode where
  | vipExpiryMismatch | vipActiveWithoutPurchase | vipPurchaseWithoutLedger
  | vipLedgerWithoutPurchase | nonAppAdminLedger | nonAppUnknownLedger | ledgerBalanceChainBreak
  deriving DecidableEq

/-- The text `code:id`, or `code:id:dayKey`. -/
structure Fingerprint where
  code : LedgerAuditCode
  id : Nat
  dayKey : Option String := none
  deriving DecidableEq

/-- The evidence of a chain break, without the snapshot of the user and the texts of the row. -/
structure ChainEvidence where
  currencyType : WalletCurrencyType
  priorLedgerEntryId : Option Nat
  direction : LedgerDirection
  amount : Int
  balanceBefore : Int
  expectedBalanceAfter : Int
  actualBalanceAfter : Int
  balanceCarriesForward : Bool
  idempotencyKey : LedgerKey
  createdAt : Time

structure LedgerAuditFlagDraft where
  userId : UserId
  category : LedgerAuditCategory
  code : LedgerAuditCode
  severity : LedgerAuditSeverity
  fingerprint : Fingerprint
  summary : String
  evidence : Option ChainEvidence
  ledgerEntryId : Option Nat := none
  pointLedgerEntryId : Option Nat := none
  vipPurchaseId : Option Nat := none
  windowStart : Time
  windowEnd : Time

/-- The wallets and their two ledgers. The ids of the rows are UUIDs: none is in both ledgers. -/
structure AuditDb where
  wallets : List Wallet
  coin : List (Leg CoinTxType)
  point : List (Leg PointTxType)
  ids_nodup : (coin.map (·.id) ++ point.map (·.id)).Nodup
  coin_wallet : ∀ e ∈ coin, e.wallet ∈ wallets
  point_wallet : ∀ e ∈ point, e.wallet ∈ wallets

def PAGE : Nat := 500

def BATCH : Nat := 200

/-! ### The scans -/

section Scan

variable {TxType : Type} (carries : TxType → Bool)

/-- `orderBy: [{ createdAt: 'asc' }, { id: 'asc' }]`. -/
def readBefore (a b : Leg TxType) : Prop := sortKey a ≤ sortKey b

instance : DecidableRel (@readBefore TxType) := fun a b =>
  inferInstanceAs (Decidable (sortKey a ≤ sortKey b))

def inWindow (windowStart windowEnd : Time) (e : Leg TxType) : Bool :=
  windowStart ≤ e.createdAt && e.createdAt ≤ windowEnd

/-- What the loop over the entries of a wallet carries along. -/
structure ChainState where
  balanceBefore : Int
  priorEntryId : Option Nat
  checked : Nat := 0
  drafts : List LedgerAuditFlagDraft := []

variable (draftOf : Wallet → Option Nat → Leg TxType → BalanceChainCheck → LedgerAuditFlagDraft)
  (legs : List (Leg TxType))

/-- One turn of the loop. The next link uses the recorded `balanceAfter`. -/
def checkEntry (wallet : Wallet) (state : ChainState) (entry : Leg TxType) : ChainState :=
  let check := checkLedgerBalanceChain state.balanceBefore entry.direction entry.amount
    entry.balanceAfter (carries entry.txType)
  { balanceBefore := entry.balanceAfter
    priorEntryId := some entry.id
    checked := state.checked + 1
    drafts := if check.ok then state.drafts
      else state.drafts ++ [draftOf wallet state.priorEntryId entry check] }

def entriesOf (windowStart windowEnd : Time) (wallet : Wallet) : List (Leg TxType) :=
  (legs.filter fun e => e.wallet = wallet && inWindow windowStart windowEnd e).insertionSort
    readBefore

/-- The last entry of the wallet before `first`, in or out of the window. -/
def priorOf (wallet : Wallet) (first : Leg TxType) : Option (Leg TxType) :=
  latest (legs.filter fun e => e.wallet = wallet &&
    (decide (e.createdAt < first.createdAt) || (e.createdAt = first.createdAt && e.id < first.id)))

structure ScanResult where
  checked : Nat
  drafts : List LedgerAuditFlagDraft

def scanWallet (windowStart windowEnd : Time) (wallet : Wallet) : ScanResult :=
  let entries := entriesOf legs windowStart windowEnd wallet
  match entries with
  | [] => { checked := 0, drafts := [] }
  | first :: _ =>
    let prior := priorOf legs wallet first
    let state := entries.foldl (checkEntry carries draftOf wallet)
      { balanceBefore := (prior.map (·.balanceAfter)).getD 0, priorEntryId := prior.map (·.id) }
    { checked := state.checked, drafts := state.drafts }

/-- What the two scans have in common. -/
def scanBalanceChains (wallets : List Wallet) (windowStart windowEnd : Time) : ScanResult :=
  let walletGroups := ((legs.filter (inWindow windowStart windowEnd)).map (·.wallet)).dedup
  let results := (slices PAGE walletGroups).flatMap fun walletIds =>
    let walletMap := wallets.filter (· ∈ walletIds)
    walletIds.flatMap fun walletId =>
      match walletMap.find? (· = walletId) with
      | none => []
      | some wallet => [scanWallet carries draftOf legs windowStart windowEnd wallet]
  { checked := (results.map (·.checked)).sum
    drafts := results.flatMap (·.drafts) }

end Scan

def evidenceOf {TxType : Type} (currencyType : WalletCurrencyType) (priorEntryId : Option Nat)
    (entry : Leg TxType) (check : BalanceChainCheck) : ChainEvidence where
  currencyType := currencyType
  priorLedgerEntryId := priorEntryId
  direction := entry.direction
  amount := entry.amount
  balanceBefore := check.balanceBefore
  expectedBalanceAfter := check.expectedBalanceAfter
  actualBalanceAfter := check.actualBalanceAfter
  balanceCarriesForward := check.balanceCarriesForward
  idempotencyKey := entry.idempotencyKey
  createdAt := entry.createdAt

def coinDraft (windowStart windowEnd : Time) (wallet : Wallet) (priorEntryId : Option Nat)
    (entry : Leg CoinTxType) (check : BalanceChainCheck) : LedgerAuditFlagDraft :=
  let category : LedgerAuditCategory :=
    if wallet.currencyType = .tradingCoin then .tradingCoin else .coin
  { userId := wallet.userId, category, code := .ledgerBalanceChainBreak, severity := .critical
    fingerprint := { code := .ledgerBalanceChainBreak, id := entry.id }
    summary := category.text ++ " ledger balanceAfter does not match prior balance ± amount"
    evidence := some (evidenceOf wallet.currencyType priorEntryId entry check)
    ledgerEntryId := some entry.id, windowStart, windowEnd }

def pointDraft (windowStart windowEnd : Time) (wallet : Wallet) (priorEntryId : Option Nat)
    (entry : Leg PointTxType) (check : BalanceChainCheck) : LedgerAuditFlagDraft :=
  { userId := wallet.userId, category := .point, code := .ledgerBalanceChainBreak
    severity := .critical
    fingerprint := { code := .ledgerBalanceChainBreak, id := entry.id }
    summary := "Points ledger balanceAfter does not match prior balance ± amount"
    evidence := some (evidenceOf .point priorEntryId entry check)
    pointLedgerEntryId := some entry.id, windowStart, windowEnd }

/-- No coin entry carries the balance forward. -/
def scanCoinBalanceChains (db : AuditDb) (windowStart windowEnd : Time) : ScanResult :=
  scanBalanceChains (fun _ => false) (coinDraft windowStart windowEnd) db.coin db.wallets windowStart
    windowEnd

def scanPointBalanceChains (db : AuditDb) (windowStart windowEnd : Time) : ScanResult :=
  scanBalanceChains pointLedgerBalanceCarriesForward (pointDraft windowStart windowEnd) db.point
    db.wallets windowStart windowEnd

/-! ### Flags and runs -/

/-- `createMany` with `skipDuplicates`: the flags, and how many are new. -/
def createMany (flags data : List LedgerAuditFlagDraft) : List LedgerAuditFlagDraft × Nat :=
  let created := data.foldl (insertNew (·.fingerprint)) flags
  (created, created.length - flags.length)

def createFlagsSkipDuplicates (flags drafts : List LedgerAuditFlagDraft) :
    List LedgerAuditFlagDraft × Nat :=
  if drafts.isEmpty then (flags, 0)
  else (slices BATCH drafts).foldl
    (fun (flags, created) chunk =>
      let result := createMany flags chunk
      (result.1, created + result.2))
    (flags, 0)

/-- A draft of another scan; each has a code of its own. -/
abbrev OtherDraft := { draft : LedgerAuditFlagDraft //
  draft.code ≠ .ledgerBalanceChainBreak ∧ draft.fingerprint.code = draft.code }

/-- A run, with what the other scans report in it. -/
structure AuditRun where
  windowStart : Time
  windowEnd : Time
  ledgerDrafts : List OtherDraft := []
  vipDrafts : List OtherDraft := []

structure LedgerAuditRunResult where
  windowStart : Time
  windowEnd : Time
  flagsCreated : Nat
  draftsConsidered : Nat
  coinBalanceLinksChecked : Nat
  pointBalanceLinksChecked : Nat

def runOvernightAudit (db : AuditDb) (flags : List LedgerAuditFlagDraft) (run : AuditRun) :
    List LedgerAuditFlagDraft × LedgerAuditRunResult :=
  let coin := scanCoinBalanceChains db run.windowStart run.windowEnd
  let point := scanPointBalanceChains db run.windowStart run.windowEnd
  let drafts := run.ledgerDrafts.map (·.val) ++ coin.drafts ++ point.drafts ++
    run.vipDrafts.map (·.val)
  let (flags, flagsCreated) := createFlagsSkipDuplicates flags drafts
  (flags,
    { windowStart := run.windowStart
      windowEnd := run.windowEnd
      flagsCreated
      draftsConsidered := drafts.length
      coinBalanceLinksChecked := coin.checked
      pointBalanceLinksChecked := point.checked })

def flagsAfter (db : AuditDb) (runs : List AuditRun) : List LedgerAuditFlagDraft :=
  runs.foldl (fun flags run => (runOvernightAudit db flags run).1) []

def chainFlags (db : AuditDb) (runs : List AuditRun) : List LedgerAuditFlagDraft :=
  (flagsAfter db runs).filter fun flag => flag.code = .ledgerBalanceChainBreak

/-! ### One wallet -/

section Wallet

variable {TxType : Type} {legs : List (Leg TxType)}

instance : Std.Total (@readBefore TxType) where
  total a b := le_total (sortKey a) (sortKey b)

instance : IsTrans (Leg TxType) readBefore where
  trans _ _ _ first second := le_trans first second

def rowsOf (legs : List (Leg TxType)) (wallet : Wallet) : List (Leg TxType) :=
  legs.filter (·.wallet = wallet)

/-- The row of the same wallet before this one. Rows of one instant are in the order of their ids. -/
def previous (legs : List (Leg TxType)) (e : Leg TxType) : Option (Leg TxType) :=
  prev sortKey (rowsOf legs e.wallet) e

def balanceBefore (legs : List (Leg TxType)) (e : Leg TxType) : Int :=
  ((previous legs e).map (·.balanceAfter)).getD 0

/-- The row does not continue the row before it. -/
def Breaks (carries : TxType → Bool) (legs : List (Leg TxType)) (e : Leg TxType) : Prop :=
  e.balanceAfter ≠ balanceBefore legs e + moved carries e

instance (carries : TxType → Bool) : DecidablePred (Breaks carries legs) := fun _ =>
  inferInstanceAs (Decidable (_ ≠ _))

/-- What the rows of the wallet have moved up to this one. -/
def signedSum (carries : TxType → Bool) (legs : List (Leg TxType)) (e : Leg TxType) : Int :=
  totalUpTo sortKey (moved carries) (rowsOf legs e.wallet) e

theorem rowsOf_apart (unique : (legs.map (·.id)).Nodup) (wallet : Wallet) :
    ∀ a ∈ rowsOf legs wallet, ∀ b ∈ rowsOf legs wallet, sortKey a = sortKey b → a = b := by
  intro a inA b inB same
  have ids : a.id = b.id := congrArg (fun key => (ofLex key).2) same
  exact List.inj_on_of_nodup_map unique (List.mem_of_mem_filter inA) (List.mem_of_mem_filter inB) ids

theorem mem_entriesOf {windowStart windowEnd : Time} {wallet : Wallet} {e : Leg TxType} :
    e ∈ entriesOf legs windowStart windowEnd wallet ↔
      e ∈ legs ∧ e.wallet = wallet ∧ inWindow windowStart windowEnd e = true := by
  rw [entriesOf, (List.perm_insertionSort _ _).mem_iff]
  simp

/-- The prior query of the scan finds the row before. -/
theorem priorOf_eq {wallet : Wallet} {first : Leg TxType} (own : first.wallet = wallet) :
    priorOf legs wallet first = previous legs first := by
  rw [priorOf, previous, rowsOf, prev, List.filter_filter, latest, own]
  congr 2
  funext e
  simp only [sortKey, Prod.Lex.toLex_lt_toLex, Bool.decide_or, Bool.decide_and]
  rw [Bool.and_comm]

/-- In the window, every entry has the entry before it in the ledger before it in the window. -/
theorem entriesOf_isChain (unique : (legs.map (·.id)).Nodup) (windowStart windowEnd : Time)
    (wallet : Wallet) :
    (entriesOf legs windowStart windowEnd wallet).IsChain fun a b => previous legs b = some a := by
  have inside : ∀ e ∈ entriesOf legs windowStart windowEnd wallet, e ∈ rowsOf legs wallet := by
    intro e member
    obtain ⟨inLegs, own, -⟩ := mem_entriesOf.mp member
    exact List.mem_filter.mpr ⟨inLegs, by simpa using own⟩
  have distinct : (entriesOf legs windowStart windowEnd wallet).Nodup :=
    (List.perm_insertionSort _ _).nodup_iff.mpr ((List.Nodup.of_map _ unique).filter _)
  have sorted : (entriesOf legs windowStart windowEnd wallet).Pairwise
      fun a b => sortKey a < sortKey b := by
    refine ((List.pairwise_insertionSort readBefore _).and distinct).imp_of_mem ?_
    rintro a b inA inB ⟨upTo, differ⟩
    exact lt_of_le_of_ne upTo fun same =>
      differ (rowsOf_apart unique wallet a (inside a inA) b (inside b inB) same)
  have chain := isChain_prev (rowsOf_apart unique wallet) inside sorted (by
    -- The keys begin with the instants, so a window has no gaps.
    intro a inA b inB row inRow above below
    obtain ⟨inLegs, own⟩ := List.mem_filter.mp inRow
    have lower := (mem_entriesOf.mp inA).2.2
    have upper := (mem_entriesOf.mp inB).2.2
    have after : a.createdAt ≤ row.createdAt := by
      rcases Prod.Lex.toLex_lt_toLex.mp above with earlier | ⟨same, -⟩
      · exact le_of_lt earlier
      · exact le_of_eq same
    have before : row.createdAt ≤ b.createdAt := by
      rcases Prod.Lex.toLex_lt_toLex.mp below with earlier | ⟨same, -⟩
      · exact le_of_lt earlier
      · exact le_of_eq same
    simp only [inWindow, Bool.and_eq_true, decide_eq_true_eq] at lower upper
    refine mem_entriesOf.mpr ⟨inLegs, by simpa using own, ?_⟩
    simp only [inWindow, Bool.and_eq_true, decide_eq_true_eq]
    exact ⟨le_trans lower.1 after, le_trans before upper.2⟩)
  refine chain.imp_of_mem_imp fun a b _ inB link => ?_
  rw [previous, (mem_entriesOf.mp inB).2.1]
  exact link

variable {carries : TxType → Bool}
  {draftOf : Wallet → Option Nat → Leg TxType → BalanceChainCheck → LedgerAuditFlagDraft}

/-- The draft about a row that breaks the chain. -/
def breakDraft (carries : TxType → Bool)
    (draftOf : Wallet → Option Nat → Leg TxType → BalanceChainCheck → LedgerAuditFlagDraft)
    (legs : List (Leg TxType)) (e : Leg TxType) : LedgerAuditFlagDraft :=
  draftOf e.wallet ((previous legs e).map (·.id)) e
    (checkLedgerBalanceChain (balanceBefore legs e) e.direction e.amount e.balanceAfter
      (carries e.txType))

theorem check_ok (carries : TxType → Bool) (legs : List (Leg TxType)) (e : Leg TxType) :
    (checkLedgerBalanceChain (balanceBefore legs e) e.direction e.amount e.balanceAfter
      (carries e.txType)).ok = true ↔ ¬Breaks carries legs e := by
  simp only [checkLedgerBalanceChain, expectedBalanceAfter_eq, Breaks, decide_eq_true_eq, ne_eq,
    not_not]
  exact eq_comm

/-- The loop reports the rows that break the chain, each against the row before it. -/
theorem foldl_checkEntry {wallet : Wallet} {entries : List (Leg TxType)}
    (own : ∀ e ∈ entries, e.wallet = wallet)
    (chain : entries.IsChain fun a b => previous legs b = some a) (state : ChainState)
    (begins : ∀ first ∈ entries.head?, state.balanceBefore = balanceBefore legs first ∧
      state.priorEntryId = (previous legs first).map (·.id)) :
    (entries.foldl (checkEntry carries draftOf wallet) state).drafts =
      state.drafts ++
        (entries.filter (Breaks carries legs)).map (breakDraft carries draftOf legs) := by
  induction entries generalizing state with
  | nil => simp
  | cons e entries ih =>
    obtain ⟨balance, prior⟩ := begins e rfl
    obtain rfl := own e List.mem_cons_self
    have links : ∀ next ∈ entries.head?, previous legs next = some e := fun next isNext =>
      chain.rel_head? isNext
    rw [List.foldl_cons, ih (fun other member => own other (List.mem_cons_of_mem e member))
      chain.tail]
    · have ok := check_ok carries legs e
      by_cases breaks : Breaks carries legs e
      · rw [List.filter_cons_of_pos (by simpa using breaks)]
        simp [checkEntry, balance, prior, ok, breaks, breakDraft]
      · rw [List.filter_cons_of_neg (by simpa using breaks)]
        simp [checkEntry, balance, ok, breaks]
    · intro next isNext
      simp [checkEntry, balanceBefore, links next isNext]

theorem scanWallet_drafts (unique : (legs.map (·.id)).Nodup) (windowStart windowEnd : Time)
    (wallet : Wallet) :
    (scanWallet carries draftOf legs windowStart windowEnd wallet).drafts =
      ((entriesOf legs windowStart windowEnd wallet).filter (Breaks carries legs)).map
        (breakDraft carries draftOf legs) := by
  have chain := entriesOf_isChain unique windowStart windowEnd wallet
  have own : ∀ e ∈ entriesOf legs windowStart windowEnd wallet, e.wallet = wallet :=
    fun e member => (mem_entriesOf.mp member).2.1
  unfold scanWallet
  generalize entriesOf legs windowStart windowEnd wallet = entries at *
  cases entries with
  | nil => simp
  | cons first entries =>
    have prior : priorOf legs wallet first = previous legs first :=
      priorOf_eq (own first List.mem_cons_self)
    dsimp only
    rw [foldl_checkEntry own chain, List.nil_append]
    rintro e ⟨rfl⟩
    simp [balanceBefore, prior]

/-- A scan reports the rows of its window that break the chain. -/
theorem mem_scanBalanceChains (unique : (legs.map (·.id)).Nodup) {wallets : List Wallet}
    (wallet : ∀ e ∈ legs, e.wallet ∈ wallets) {windowStart windowEnd : Time}
    {draft : LedgerAuditFlagDraft} :
    draft ∈ (scanBalanceChains carries draftOf legs wallets windowStart windowEnd).drafts ↔
      ∃ e ∈ legs, inWindow windowStart windowEnd e = true ∧ Breaks carries legs e ∧
        breakDraft carries draftOf legs e = draft := by
  simp only [scanBalanceChains, List.mem_flatMap]
  constructor
  · rintro ⟨result, ⟨batch, -, walletId, inBatch, found⟩, reported⟩
    split at found
    next => simp at found
    next w _ =>
      rw [List.mem_singleton.mp found, scanWallet_drafts unique] at reported
      obtain ⟨e, member, rfl⟩ := List.mem_map.mp reported
      obtain ⟨inEntries, breaks⟩ := List.mem_filter.mp member
      obtain ⟨inLegs, -, within⟩ := mem_entriesOf.mp inEntries
      exact ⟨e, inLegs, within, by simpa using breaks, rfl⟩
  · rintro ⟨e, inLegs, within, breaks, rfl⟩
    have inGroups : e.wallet ∈
        ((legs.filter (inWindow windowStart windowEnd)).map (·.wallet)).dedup :=
      List.mem_dedup.mpr (List.mem_map_of_mem (List.mem_filter.mpr ⟨inLegs, within⟩))
    obtain ⟨batch, inSlices, inBatch⟩ := (mem_slices (by decide : 0 < PAGE)).mpr inGroups
    have found : (wallets.filter (· ∈ batch)).find? (· = e.wallet) = some e.wallet := by
      cases search : (wallets.filter (· ∈ batch)).find? (· = e.wallet) with
      | none =>
        have absent := List.find?_eq_none.mp search e.wallet
          (List.mem_filter.mpr ⟨wallet e inLegs, by simpa using inBatch⟩)
        simp at absent
      | some w => rw [show w = e.wallet by simpa using List.find?_some search]
    refine ⟨scanWallet carries draftOf legs windowStart windowEnd e.wallet,
      ⟨batch, inSlices, e.wallet, inBatch, by simp [found]⟩, ?_⟩
    rw [scanWallet_drafts unique]
    refine List.mem_map_of_mem (List.mem_filter.mpr ⟨?_, by simpa using breaks⟩)
    exact mem_entriesOf.mpr ⟨inLegs, rfl, within⟩

/-- No row breaks the chain exactly if every balance is the sum of what its wallet moved. -/
theorem none_breaks_iff (unique : (legs.map (·.id)).Nodup) :
    (∀ e ∈ legs, ¬Breaks carries legs e) ↔
      ∀ e ∈ legs, e.balanceAfter = signedSum carries legs e := by
  have each : ∀ wallet, (∀ e ∈ rowsOf legs wallet, ¬Breaks carries legs e) ↔
      ∀ e ∈ rowsOf legs wallet, e.balanceAfter = signedSum carries legs e := by
    intro wallet
    have distinct : (rowsOf legs wallet).Nodup := (List.Nodup.of_map _ unique).filter _
    have same : ∀ e ∈ rowsOf legs wallet, rowsOf legs e.wallet = rowsOf legs wallet := by
      intro e member
      rw [show e.wallet = wallet by simpa using (List.mem_filter.mp member).2]
    have continues : (∀ e ∈ rowsOf legs wallet, e.balanceAfter =
        ((prev sortKey (rowsOf legs wallet) e).map (·.balanceAfter)).getD 0 + moved carries e) ↔
          ∀ e ∈ rowsOf legs wallet, e.balanceAfter =
            totalUpTo sortKey (moved carries) (rowsOf legs wallet) e :=
      continues_iff distinct (rowsOf_apart unique wallet)
    rw [forall₂_congr fun e member => ?_, continues, forall₂_congr fun e member => ?_]
    · rw [signedSum, same e member]
    · rw [Breaks, not_not, balanceBefore, previous, same e member]
  constructor
  · intro none e member
    have own : e ∈ rowsOf legs e.wallet := List.mem_filter.mpr ⟨member, by simp⟩
    exact (each e.wallet).mp (fun row inRows => none row (List.mem_of_mem_filter inRows)) e own
  · intro sums e member
    have own : e ∈ rowsOf legs e.wallet := List.mem_filter.mpr ⟨member, by simp⟩
    exact (each e.wallet).mpr (fun row inRows => sums row (List.mem_of_mem_filter inRows)) e own

private theorem chainOk_of_isChain {history : List (Leg TxType)} {balance : Int}
    (chain : history.IsChain fun a b => previous legs b = some a)
    (continues : ∀ e ∈ history, ¬Breaks carries legs e)
    (begins : ∀ first ∈ history.head?, balance = balanceBefore legs first) :
    chainOk carries balance history = true := by
  induction history generalizing balance with
  | nil => rfl
  | cons e history ih =>
    rw [chainOk, begins e rfl, (check_ok carries legs e).mpr (continues e List.mem_cons_self),
      Bool.true_and]
    refine ih chain.tail (fun row member => continues row (List.mem_cons_of_mem e member)) ?_
    intro next isNext
    simp [balanceBefore, show previous legs next = some e from chain.rel_head? isNext]

theorem walletChained_of_none_breaks (unique : (legs.map (·.id)).Nodup)
    (continues : ∀ e ∈ legs, ¬Breaks carries legs e) (wallet : Wallet) :
    WalletChained carries legs wallet := by
  have same := List.perm_insertionSort readBefore (rowsOf legs wallet)
  have sorted : ((rowsOf legs wallet).insertionSort readBefore).Pairwise
      fun a b => sortKey a < sortKey b := by
    have distinct := same.nodup_iff.mpr ((List.Nodup.of_map _ unique).filter _)
    refine ((List.pairwise_insertionSort readBefore _).and distinct).imp_of_mem ?_
    rintro a b inA inB ⟨upTo, differ⟩
    exact lt_of_le_of_ne upTo fun level =>
      differ (rowsOf_apart unique wallet a (same.mem_iff.mp inA) b (same.mem_iff.mp inB) level)
  have own : ∀ e ∈ (rowsOf legs wallet).insertionSort readBefore,
      e ∈ legs ∧ previous legs e = prev sortKey (rowsOf legs wallet) e := by
    intro e member
    obtain ⟨inLegs, is⟩ := List.mem_filter.mp (same.mem_iff.mp member)
    rw [previous, show e.wallet = wallet by simpa using is]
    exact ⟨inLegs, rfl⟩
  have chain := isChain_prev (rowsOf_apart unique wallet) (fun _ => same.mem_iff.mp) sorted
    fun _ _ _ _ row inRows _ _ => same.mem_iff.mpr inRows
  -- All rows of the wallet are there, so the chain has no gaps.
  refine ⟨_, same, sorted, chainOk_of_isChain ?_ (fun e member => continues e (own e member).1) ?_⟩
  · exact chain.imp_of_mem_imp fun a b _ inB link => (own b inB).2.trans link
  · -- Nothing comes before the first row.
    intro first isFirst
    have before : prev sortKey (rowsOf legs wallet) first = none := by
      refine prev_eq_none_iff.mpr fun row inRows => ?_
      obtain ⟨rest, listed⟩ := List.head?_eq_some_iff.mp isFirst
      rw [listed] at sorted
      rcases List.mem_cons.mp (listed ▸ same.mem_iff.mpr inRows) with rfl | later
      · exact le_refl _
      · exact le_of_lt ((List.pairwise_cons.mp sorted).1 row later)
    rw [balanceBefore, (own first (List.mem_of_mem_head? isFirst)).2, before]
    rfl

end Wallet

/-! ### All runs -/

section Runs

variable (db : AuditDb)

def coinBreaks : List (Leg CoinTxType) := db.coin.filter (Breaks (fun _ => false) db.coin)

def pointBreaks : List (Leg PointTxType) :=
  db.point.filter (Breaks pointLedgerBalanceCarriesForward db.point)

def entryOf (flag : LedgerAuditFlagDraft) : Option Nat × Option Nat :=
  (flag.ledgerEntryId, flag.pointLedgerEntryId)

/-- The entries of both ledgers that break a chain. -/
def brokenEntries : List (Option Nat × Option Nat) :=
  (coinBreaks db).map (fun e => (some e.id, none)) ++ (pointBreaks db).map fun e => (none, some e.id)

def fingerprintOf (entry : Option Nat × Option Nat) : Fingerprint :=
  { code := .ledgerBalanceChainBreak, id := (entry.1.or entry.2).getD 0 }

def draftsOf (run : AuditRun) : List LedgerAuditFlagDraft :=
  run.ledgerDrafts.map (·.val) ++ (scanCoinBalanceChains db run.windowStart run.windowEnd).drafts ++
    (scanPointBalanceChains db run.windowStart run.windowEnd).drafts ++ run.vipDrafts.map (·.val)

theorem createFlagsSkipDuplicates_fst (flags drafts : List LedgerAuditFlagDraft) :
    (createFlagsSkipDuplicates flags drafts).1 = drafts.foldl (insertNew (·.fingerprint)) flags := by
  have batches : ∀ (chunks : List (List LedgerAuditFlagDraft)) (start : _ × Nat),
      (chunks.foldl (fun (flags, created) chunk =>
        let result := createMany flags chunk
        (result.1, created + result.2)) start).1 =
          chunks.flatten.foldl (insertNew (·.fingerprint)) start.1 := by
    intro chunks
    induction chunks with
    | nil => simp
    | cons chunk chunks ih =>
      intro start
      rw [List.foldl_cons, ih, List.flatten_cons, List.foldl_append]
      rfl
  unfold createFlagsSkipDuplicates
  split
  next empty => rw [List.isEmpty_iff.mp empty, List.foldl_nil]
  next => rw [batches, flatten_slices (by decide)]

theorem flagsAfter_eq (runs : List AuditRun) :
    flagsAfter db runs = (runs.flatMap (draftsOf db)).foldl (insertNew (·.fingerprint)) [] := by
  rw [List.foldl_flatMap, flagsAfter]
  congr 1
  funext flags run
  exact createFlagsSkipDuplicates_fst flags (draftsOf db run)

variable {db} {draft : LedgerAuditFlagDraft} {run : AuditRun} {runs : List AuditRun}

/-- A draft is about a row of the window that breaks a chain, or of another scan. -/
theorem mem_draftsOf : draft ∈ draftsOf db run ↔
    (∃ other ∈ run.ledgerDrafts ++ run.vipDrafts, other.val = draft) ∨
    (∃ e ∈ coinBreaks db, inWindow run.windowStart run.windowEnd e = true ∧
      breakDraft (fun _ => false) (coinDraft run.windowStart run.windowEnd) db.coin e = draft) ∨
    ∃ e ∈ pointBreaks db, inWindow run.windowStart run.windowEnd e = true ∧
      breakDraft pointLedgerBalanceCarriesForward (pointDraft run.windowStart run.windowEnd) db.point
        e = draft := by
  obtain ⟨coins, points, -⟩ := List.nodup_append.mp db.ids_nodup
  simp only [draftsOf, scanCoinBalanceChains, scanPointBalanceChains, List.mem_append,
    mem_scanBalanceChains coins db.coin_wallet, mem_scanBalanceChains points db.point_wallet,
    coinBreaks, pointBreaks, List.mem_map, List.mem_filter, decide_eq_true_eq, or_and_right,
    exists_or, and_assoc]
  constructor
  · rintro (((found | ⟨e, inLegs, within, breaks, same⟩) |
      ⟨e, inLegs, within, breaks, same⟩) | found)
    · exact .inl (.inl found)
    · exact .inr (.inl ⟨e, inLegs, breaks, within, same⟩)
    · exact .inr (.inr ⟨e, inLegs, breaks, within, same⟩)
    · exact .inl (.inr found)
  · rintro ((found | found) | ⟨e, inLegs, breaks, within, same⟩ | ⟨e, inLegs, breaks, within, same⟩)
    · exact .inl (.inl (.inl found))
    · exact .inr found
    · exact .inl (.inl (.inr ⟨e, inLegs, within, breaks, same⟩))
    · exact .inl (.inr ⟨e, inLegs, within, breaks, same⟩)

theorem draft_code (member : draft ∈ draftsOf db run) : draft.fingerprint.code = draft.code := by
  rcases mem_draftsOf.mp member with ⟨other, -, rfl⟩ | ⟨e, -, -, rfl⟩ | ⟨e, -, -, rfl⟩
  · exact other.property.2
  · rfl
  · rfl

/-- A chain flag is about an entry that breaks a chain, and its fingerprint is that of the entry. -/
theorem mem_chainFlags {flag : LedgerAuditFlagDraft} (member : flag ∈ chainFlags db runs) :
    entryOf flag ∈ brokenEntries db ∧ fingerprintOf (entryOf flag) = flag.fingerprint := by
  obtain ⟨stored, code⟩ := List.mem_filter.mp member
  rw [flagsAfter_eq] at stored
  obtain ⟨run, -, drafted⟩ := List.mem_flatMap.mp
    ((mem_of_mem_foldl_insertNew stored).resolve_left List.not_mem_nil)
  rcases mem_draftsOf.mp drafted with ⟨other, -, rfl⟩ | ⟨e, breaks, -, rfl⟩ | ⟨e, breaks, -, rfl⟩
  · exact absurd (of_decide_eq_true code) other.property.1
  · exact ⟨List.mem_append_left _ (List.mem_map_of_mem breaks), rfl⟩
  · exact ⟨List.mem_append_right _ (List.mem_map_of_mem breaks), rfl⟩

/-- A draft about a chain has its flag after the runs. -/
theorem exists_chainFlag (inRuns : run ∈ runs) (drafted : draft ∈ draftsOf db run)
    (code : draft.code = .ledgerBalanceChainBreak) :
    ∃ flag ∈ chainFlags db runs, flag.fingerprint = draft.fingerprint := by
  have stored : draft.fingerprint ∈ (flagsAfter db runs).map (·.fingerprint) := by
    rw [flagsAfter_eq, mem_keys_foldl_insertNew]
    exact .inr (List.mem_map_of_mem (List.mem_flatMap.mpr ⟨run, inRuns, drafted⟩))
  obtain ⟨flag, member, same⟩ := List.mem_map.mp stored
  refine ⟨flag, List.mem_filter.mpr ⟨member, decide_eq_true ?_⟩, same⟩
  rw [flagsAfter_eq] at member
  obtain ⟨other, -, flagged⟩ := List.mem_flatMap.mp
    ((mem_of_mem_foldl_insertNew member).resolve_left List.not_mem_nil)
  rw [← draft_code flagged, same, draft_code drafted, code]

theorem nodup_fingerprints : ((brokenEntries db).map fingerprintOf).Nodup := by
  have ids : ((coinBreaks db).map (·.id) ++ (pointBreaks db).map (·.id)).Nodup :=
    db.ids_nodup.sublist
      ((List.filter_sublist.map _).append (List.filter_sublist.map _))
  have images := ids.map (f := fun id => Fingerprint.mk .ledgerBalanceChainBreak id none)
    fun a b same => by simpa using same
  simpa [brokenEntries, fingerprintOf, Function.comp_def] using images

/-- The windows of the runs cover the rows of a ledger. -/
def Covered {TxType : Type} (runs : List AuditRun) (legs : List (Leg TxType)) : Prop :=
  ∀ e ∈ legs, ∃ run ∈ runs, inWindow run.windowStart run.windowEnd e = true

/-- The flags of the chains are those of the broken entries, each once. -/
theorem chainFlags_perm (coins : Covered runs db.coin) (points : Covered runs db.point) :
    ((chainFlags db runs).map entryOf).Perm (brokenEntries db) := by
  have unique : ((chainFlags db runs).map (·.fingerprint)).Nodup := by
    refine List.Nodup.sublist (List.filter_sublist.map _) ?_
    rw [flagsAfter_eq]
    exact nodup_foldl_insertNew List.nodup_nil
  have prints : ((chainFlags db runs).map entryOf).map fingerprintOf =
      (chainFlags db runs).map (·.fingerprint) := by
    rw [List.map_map]
    exact List.map_congr_left fun flag member => (mem_chainFlags member).2
  have stored : ∀ entry ∈ brokenEntries db,
      ∃ flag ∈ chainFlags db runs, flag.fingerprint = fingerprintOf entry := by
    intro entry broken
    rcases List.mem_append.mp broken with coin | point
    · obtain ⟨e, breaks, rfl⟩ := List.mem_map.mp coin
      obtain ⟨run, inRuns, within⟩ := coins e (List.mem_of_mem_filter breaks)
      exact exists_chainFlag inRuns (mem_draftsOf.mpr (.inr (.inl ⟨e, breaks, within, rfl⟩))) rfl
    · obtain ⟨e, breaks, rfl⟩ := List.mem_map.mp point
      obtain ⟨run, inRuns, within⟩ := points e (List.mem_of_mem_filter breaks)
      exact exists_chainFlag inRuns (mem_draftsOf.mpr (.inr (.inr ⟨e, breaks, within, rfl⟩))) rfl
  have once : ((chainFlags db runs).map entryOf).Nodup := by
    apply List.Nodup.of_map fingerprintOf
    rw [prints]
    exact unique
  rw [List.perm_ext_iff_of_nodup once (List.Nodup.of_map fingerprintOf nodup_fingerprints)]
  intro entry
  constructor
  · intro member
    obtain ⟨flag, inFlags, rfl⟩ := List.mem_map.mp member
    exact (mem_chainFlags inFlags).1
  · intro broken
    obtain ⟨flag, inFlags, same⟩ := stored entry broken
    obtain ⟨own, print⟩ := mem_chainFlags inFlags
    have entries : entryOf flag = entry :=
      List.inj_on_of_nodup_map nodup_fingerprints own broken (print.trans same)
    exact entries ▸ List.mem_map_of_mem inFlags

/-- Where the audits have covered both ledgers and flagged no chain, the float differs from the net
of the ledgers by the escrow rows, at every instant. -/
theorem identityDelta_of_clean {ledger : LedgerDb} (coin : db.coin = ledger.coin)
    (point : db.point = ledger.point) (coins : Covered runs db.coin)
    (points : Covered runs db.point) (clean : chainFlags db runs = []) (instant : Time)
    (house : HouseAccounts) :
    (computeFloatAt ledger instant house).identityDelta = -escrowNetAt ledger instant := by
  have none := (chainFlags_perm coins points).symm
  rw [clean] at none
  obtain ⟨coinBreaks, pointBreaks⟩ := List.append_eq_nil_iff.mp (List.perm_nil.mp none)
  obtain ⟨coinIds, pointIds, -⟩ := List.nodup_append.mp db.ids_nodup
  refine identityDelta_eq ⟨?_, ?_⟩ instant house
  · refine coin ▸ walletChained_of_none_breaks coinIds fun e member => ?_
    simpa using List.filter_eq_nil_iff.mp (List.map_eq_nil_iff.mp coinBreaks) e member
  · refine point ▸ walletChained_of_none_breaks pointIds fun e member => ?_
    simpa using List.filter_eq_nil_iff.mp (List.map_eq_nil_iff.mp pointBreaks) e member

/-- Whatever the windows are, the rows that do not continue the row before them are flagged, each
once, and no others; and there are none exactly if every balance is the sum of what its wallet has
moved. -/
theorem audit_exact (db : AuditDb) (runs : List AuditRun) (coins : Covered runs db.coin)
    (points : Covered runs db.point) :
    ((chainFlags db runs).map entryOf).Perm (brokenEntries db) ∧
      (chainFlags db runs = [] ↔
        (∀ e ∈ db.coin, e.balanceAfter = signedSum (fun _ => false) db.coin e) ∧
        ∀ e ∈ db.point,
          e.balanceAfter = signedSum pointLedgerBalanceCarriesForward db.point e) := by
  have flagged := chainFlags_perm coins points
  refine ⟨flagged, ?_⟩
  obtain ⟨coinIds, pointIds, -⟩ := List.nodup_append.mp db.ids_nodup
  rw [← none_breaks_iff coinIds, ← none_breaks_iff pointIds]
  have empty : chainFlags db runs = [] ↔ brokenEntries db = [] := by
    constructor
    · intro none
      rw [none] at flagged
      exact List.nil_perm.mp flagged
    · intro none
      rw [none] at flagged
      exact List.map_eq_nil_iff.mp (List.perm_nil.mp flagged)
  simp [empty, brokenEntries, coinBreaks, pointBreaks, List.filter_eq_nil_iff]

end Runs

/-- The second row of the wallet lost a coin; the row after it continues from there. -/
def brokenChain : AuditDb where
  wallets := [⟨1, .coin⟩]
  coin := [
    { wallet := ⟨1, .coin⟩, direction := .credit, txType := .topup, amount := 10, balanceAfter := 10
      idempotencyKey := .other 0, id := 1, createdAt := 5 },
    { wallet := ⟨1, .coin⟩, direction := .credit, txType := .topup, amount := 10, balanceAfter := 19
      idempotencyKey := .other 1, id := 2, createdAt := 6 },
    { wallet := ⟨1, .coin⟩, direction := .debit, txType := .giftSend, amount := 9, balanceAfter := 10
      idempotencyKey := .other 2, id := 3, createdAt := 7 }]
  point := []
  ids_nodup := by decide
  coin_wallet := by decide
  point_wallet := by decide

/-- The windows overlap at the broken row. -/
def overlapping : List AuditRun := [⟨6, 9, [], []⟩, ⟨0, 6, [], []⟩]

def escrowedAudit : AuditDb where
  wallets := [⟨1, .point⟩]
  coin := []
  point := escrowedLedger.point
  ids_nodup := by decide
  coin_wallet := by decide
  point_wallet := by decide

theorem identityDelta_of_clean_escrowed : escrowNetAt escrowedLedger 3 = -50 ∧
    (computeFloatAt escrowedLedger 3 []).identityDelta = -escrowNetAt escrowedLedger 3 :=
  ⟨by decide, @identityDelta_of_clean escrowedAudit [⟨0, 9, [], []⟩] escrowedLedger rfl rfl
    (by simp [Covered, escrowedAudit]) (by simp [Covered, escrowedAudit, escrowedLedger, inWindow])
    (by decide) 3 []⟩

theorem audit_exact_overlapping :
    Covered overlapping brokenChain.coin ∧ Covered overlapping brokenChain.point ∧
    ((chainFlags brokenChain overlapping).map entryOf).Perm (brokenEntries brokenChain) ∧
      (chainFlags brokenChain overlapping = [] ↔
        (∀ e ∈ brokenChain.coin,
          e.balanceAfter = signedSum (fun _ => false) brokenChain.coin e) ∧
        ∀ e ∈ brokenChain.point,
          e.balanceAfter = signedSum pointLedgerBalanceCarriesForward brokenChain.point e) :=
  have coins : Covered overlapping brokenChain.coin := by
    unfold Covered
    decide
  have points : Covered overlapping brokenChain.point := by
    unfold Covered
    decide
  ⟨coins, points, audit_exact brokenChain overlapping coins points⟩

end OlNode.LedgerAudit
