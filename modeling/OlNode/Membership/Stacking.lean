import Mathlib.Data.List.Chain
import OlNode.Ledger.Coins
import OlNode.Membership.Operations

/-!
# Replays and stacking of VIP purchases

The debit locks the buyer's wallet and every purchase of a user debits that wallet, so between the
read of the membership and the commit nobody else stacks on it: each period is added to the expiry
the purchase before it has left. A retry finds the ledger row of its key and answers with the
purchase of that row, unless the duration cap, which is tested first, refuses it.
-/
namespace OlNode.Memberships

open ReadCommitted

/-! ### What holds of the tables -/

def purchasesOf (db : MembershipDb) (userId : UserId) : List VipMembershipPurchase :=
  db.purchases.filter fun p => p.userId = userId

/-- The debits of VIP purchases: wallet, key and amount. -/
def vipDebits (db : MembershipDb) : List (Wallet × LedgerKey × Int) :=
  (db.money.coinLedger.filter fun e => isVipKey e.idempotencyKey).map fun e =>
    (e.wallet, e.idempotencyKey, e.amount)

def VipMembershipPurchase.debit (p : VipMembershipPurchase) : Wallet × LedgerKey × Int :=
  (⟨p.userId, .coin⟩, p.ledgerEntryId, p.coinCost)

/-- The period of `q` was added to the expiry that `p` has left. -/
def StacksOn (p q : VipMembershipPurchase) : Prop := q.expiresAtBefore = some p.expiresAtAfter

/-- What a purchase row says about itself: its key is its user's, its expiry is computed from the
one it found at an instant before its creation, and is within the cap of that. -/
structure WellStacked (p : VipMembershipPurchase) : Prop where
  own : ∃ clientKey, p.ledgerEntryId = vipKey p.userId clientKey
  computed : ∃ now ≤ p.createdAt,
    p.expiresAtAfter = computeProposedExpiresAt now p.expiresAtBefore p.periodDays
  capped : p.expiresAtAfter ≤ addUtcDays p.createdAt VIP_DURATION_CAP_DAYS

/-- An answer that says what the key has bought; a retry of a purchase always gets one. -/
structure Truthful (purchases : List VipMembershipPurchase) (a : VipAnswer) : Prop where
  replayed : ∀ p, a.bought = some p → a.outcome = .inr p.expiresAtAfter
  bought : ∀ expiresAt, a.outcome = .inr expiresAt →
    ∃ p ∈ purchases, p.ledgerEntryId = a.key ∧ p.expiresAtAfter = expiresAt

/-- Every VIP debit is the debit of exactly one purchase and of no second one of its key; the
purchases of a user stack on each other in the order of the table, which is the order of
`sortPurchases`; the user's expiry is that of the last one. -/
structure Stacked (db : MembershipDb) : Prop where
  debited : vipDebits db = db.purchases.map (·.debit)
  once : (db.purchases.map (·.ledgerEntryId)).Nodup
  rows : ∀ p ∈ db.purchases, WellStacked p
  past : ∀ p ∈ db.purchases, p.createdAt ≤ db.now
  ordered : ∀ userId, (purchasesOf db userId).Pairwise purchasedBefore
  chain : ∀ userId, (purchasesOf db userId).IsChain StacksOn
  expiry : ∀ userId p, (purchasesOf db userId).getLast? = some p →
    (db.vip userId).map (·.expiresAt) = some (some p.expiresAtAfter)
  answers : ∀ a ∈ db.answers, Truthful db.purchases a

def Unstacked : Lock → MembershipDb → MembershipDb → Prop
  | .wallet wallet, s, t => wallet.currencyType = .coin →
    purchasesOf t wallet.userId = purchasesOf s wallet.userId ∧
      (t.vip wallet.userId).map (·.expiresAt) = (s.vip wallet.userId).map (·.expiresAt)
  | .coinKey key, s, t => isVipKey key = true →
    findByKey s.money.coinLedger key = none → findByKey t.money.coinLedger key = none
  | _, _, _ => True

/-- Purchases are only ever added, and time passes. -/
structure Accrues (s t : MembershipDb) : Prop where
  purchases : s.purchases <+: t.purchases
  now : s.now ≤ t.now

/-- Whenever the retry of a committed key reads, the period of its tier still fits under the cap,
and the database does not abort all of its attempts; a purchase has an id that sorts after those of
the same user and millisecond. -/
def Fits (request : Request) (statement : Statement MembershipDb Lock) (db : MembershipDb) : Prop :=
  statement = .read →
    match request with
    | .vip purchaseId userId tier clientKey aborts =>
      (∀ p ∈ db.purchases, p.ledgerEntryId = vipKey userId clientKey →
        aborts.length < 3 ∧ ∀ v, db.vip userId = some v →
          withinCap (computeProposedExpiresAt db.now v.expiresAt (tierConfig tier).periodDays) db.now
            VIP_DURATION_CAP_DAYS = true) ∧
      ∀ p ∈ purchasesOf db userId, p.createdAt = db.now → p.id ≤ purchaseId
    | _ => True

def stacking : Agreement Request MembershipDb Lock where
  inv := Stacked
  grows := Accrues
  same := Unstacked
  step _ _ _ := True
  allows := Fits
  grows_refl s := ⟨List.prefix_rfl, Nat.le_refl _⟩
  grows_trans s t u first second :=
    ⟨first.purchases.trans second.purchases, Nat.le_trans first.now second.now⟩
  same_refl row s := by
    cases row <;> simp [Unstacked]
  same_trans row s t u first second := by
    cases row with
    | wallet wallet =>
      intro coin
      exact ⟨(second coin).1.trans (first coin).1, (second coin).2.trans (first coin).2⟩
    | coinKey key => exact fun vip absent => second vip (first vip absent)
    | _ => trivial

/-! ### Keys and purchases -/

section Keys

variable {s t : MembershipDb} {key : LedgerKey}

theorem findByKey_none_iff (stacked : Stacked s) (vip : isVipKey key = true) :
    findByKey s.money.coinLedger key = none ↔
      findPurchaseByLedgerEntryId s.purchases key = none := by
  have keys : (vipDebits s).map (·.2.1) = s.purchases.map (·.ledgerEntryId) := by
    rw [stacked.debited, List.map_map]
    rfl
  have member : key ∈ (vipDebits s).map (·.2.1) ↔
      ∃ e ∈ s.money.coinLedger, e.idempotencyKey = key := by
    simp only [vipDebits, List.map_map, List.mem_map, List.mem_filter, Function.comp]
    constructor
    · rintro ⟨e, ⟨stored, -⟩, same⟩
      exact ⟨e, stored, same⟩
    · rintro ⟨e, stored, rfl⟩
      exact ⟨e, ⟨stored, vip⟩, rfl⟩
  rw [keys, List.mem_map] at member
  rw [findByKey_eq_none, findPurchaseByLedgerEntryId, List.find?_eq_none]
  simp only [decide_eq_true_eq]
  constructor
  · intro absent p stored same
    obtain ⟨e, inLedger, keyIs⟩ := member.mp ⟨p, stored, same⟩
    exact absent e inLedger keyIs
  · intro absent e inLedger keyIs
    obtain ⟨p, stored, same⟩ := member.mpr ⟨e, inLedger, keyIs⟩
    exact absent p stored same

theorem Accrues.purchase (accrues : Accrues s t) {p : VipMembershipPurchase}
    (found : findPurchaseByLedgerEntryId s.purchases key = some p) :
    findPurchaseByLedgerEntryId t.purchases key = some p := by
  obtain ⟨added, grown⟩ := accrues.purchases
  unfold findPurchaseByLedgerEntryId at found ⊢
  rw [← grown, List.find?_append, found, Option.some_or]

theorem Truthful.mono {purchases more : List VipMembershipPurchase} {a : VipAnswer}
    (truthful : Truthful purchases a) (sub : purchases ⊆ more) : Truthful more a where
  replayed := truthful.replayed
  bought expiresAt answered := by
    obtain ⟨p, stored, facts⟩ := truthful.bought expiresAt answered
    exact ⟨p, sub stored, facts⟩

end Keys

/-! ### A commit that adds a purchase -/

/-- What a purchase changes, apart from the balances and levels. -/
structure Adds (entry : CoinLedgerEntry) (p : VipMembershipPurchase) (t u : MembershipDb) : Prop where
  ledger : u.money.coinLedger = t.money.coinLedger ++ [entry]
  purchases : u.purchases = t.purchases ++ [p]
  extended : (u.vip p.userId).map (·.expiresAt) =
    (t.vip p.userId).map fun _ => some p.expiresAtAfter
  others : ∀ userId, userId ≠ p.userId → u.vip userId = t.vip userId
  now : u.now = t.now
  answers : u.answers = t.answers

/-- The row goes on top of what it has found, for a debit of a new key. -/
structure OnTop (entry : CoinLedgerEntry) (p : VipMembershipPurchase) (t : MembershipDb) : Prop where
  debit : (entry.wallet, entry.idempotencyKey, entry.amount) = p.debit
  fresh : findByKey t.money.coinLedger p.ledgerEntryId = none
  row : WellStacked p
  past : p.createdAt ≤ t.now
  last : ∀ q ∈ purchasesOf t p.userId, purchasedBefore q p
  found : (t.vip p.userId).map (·.expiresAt) = some p.expiresAtBefore

section Adding

variable {entry : CoinLedgerEntry} {p : VipMembershipPurchase} {t u : MembershipDb}

theorem OnTop.key (onTop : OnTop entry p t) : entry.idempotencyKey = p.ledgerEntryId :=
  congrArg (·.2.1) onTop.debit

theorem OnTop.isVip (onTop : OnTop entry p t) : isVipKey p.ledgerEntryId = true := by
  obtain ⟨clientKey, key⟩ := onTop.row.own
  rw [key]
  rfl

theorem Adds.purchasesOf (adds : Adds entry p t u) (userId : UserId) :
    purchasesOf u userId =
      if userId = p.userId then purchasesOf t userId ++ [p] else purchasesOf t userId := by
  simp only [Memberships.purchasesOf, adds.purchases, List.filter_append]
  by_cases same : userId = p.userId
  · simp [same]
  · simp [same, Ne.symm same]

theorem Adds.vipDebits (adds : Adds entry p t u) (onTop : OnTop entry p t) :
    vipDebits u = vipDebits t ++ [p.debit] := by
  have vip : isVipKey entry.idempotencyKey = true := onTop.key ▸ onTop.isVip
  simp only [Memberships.vipDebits, adds.ledger, List.filter_append, List.map_append]
  simp [vip, onTop.debit]

theorem Adds.stacked (adds : Adds entry p t u) (onTop : OnTop entry p t) (stacked : Stacked t) :
    Stacked u where
  debited := by
    rw [adds.vipDebits onTop, stacked.debited, adds.purchases, List.map_append]
    rfl
  once := by
    have absent := (findByKey_none_iff stacked onTop.isVip).mp onTop.fresh
    rw [findPurchaseByLedgerEntryId, List.find?_eq_none] at absent
    rw [adds.purchases, List.map_append, List.nodup_append]
    refine ⟨stacked.once, by simp, ?_⟩
    intro key old other new
    obtain ⟨q, stored, rfl⟩ := List.mem_map.mp old
    simp only [List.map_cons, List.map_nil, List.mem_singleton] at new
    rw [new]
    simpa using absent q stored
  rows := by
    rw [adds.purchases]
    exact List.forall_mem_append.mpr ⟨stacked.rows, by simpa using onTop.row⟩
  past := by
    rw [adds.purchases, adds.now]
    exact List.forall_mem_append.mpr ⟨stacked.past, by simpa using onTop.past⟩
  ordered userId := by
    rw [adds.purchasesOf]
    split
    next same =>
      rw [List.pairwise_append]
      refine ⟨stacked.ordered userId, List.pairwise_singleton _ _, fun q member other new => ?_⟩
      rw [List.mem_singleton.mp new]
      exact onTop.last q (same ▸ member)
    next => exact stacked.ordered userId
  chain userId := by
    rw [adds.purchasesOf]
    split
    next same =>
      subst same
      refine (stacked.chain p.userId).append (List.isChain_singleton p) fun q last other new => ?_
      have stored := stacked.expiry p.userId q last
      rw [onTop.found] at stored
      rw [← Option.some.inj new]
      exact Option.some.inj stored
    next => exact stacked.chain userId
  expiry userId q last := by
    rw [adds.purchasesOf] at last
    split at last
    next same =>
      subst same
      rw [List.getLast?_append, List.getLast?_singleton, Option.some_or] at last
      obtain rfl := Option.some.inj last
      have present : (t.vip p.userId).isSome = true := by
        have found := congrArg Option.isSome onTop.found
        simpa using found
      obtain ⟨v, vip⟩ := Option.isSome_iff_exists.mp present
      rw [adds.extended, vip]
      rfl
    next other =>
      rw [adds.others userId other]
      exact stacked.expiry userId q last
  answers a member := by
    rw [adds.answers] at member
    rw [adds.purchases]
    exact (stacked.answers a member).mono (List.subset_append_left _ _)

/-- The commit answers for its own wallet and its own key only. -/
theorem Adds.keeps {request : Request} {held : Set Lock} (adds : Adds entry p t u)
    (onTop : OnTop entry p t) (stacked : Stacked t) (wallet : .wallet ⟨p.userId, .coin⟩ ∈ held)
    (key : .coinKey p.ledgerEntryId ∈ held) : stacking.Keeps request held t u where
  inv := adds.stacked onTop stacked
  grows := ⟨adds.purchases ▸ List.prefix_append _ _, Nat.le_of_eq adds.now.symm⟩
  same row free := by
    cases row with
    | wallet other =>
      intro coin
      have different : other.userId ≠ p.userId := by
        intro same
        refine free ?_
        obtain ⟨userId, currencyType⟩ := other
        obtain rfl : userId = p.userId := same
        obtain rfl : currencyType = .coin := coin
        exact wallet
      rw [adds.purchasesOf, if_neg different, adds.others _ different]
      exact ⟨rfl, rfl⟩
    | coinKey other =>
      intro _ absent
      rw [adds.ledger, findByKey_append_eq_none]
      refine ⟨absent, fun same => free ?_⟩
      rw [← same, onTop.key]
      exact key
    | _ => trivial
  step := trivial

end Adding

/-! ### The debit -/

/-- The writes of a debit: one coin row, and nothing outside the wallet tables. -/
def Debits (entry : CoinLedgerEntry) (w : MembershipDb → MembershipDb) : Prop :=
  ∀ db, ∃ money, w db = db.setMoney money ∧ money.coinLedger = db.money.coinLedger ++ [entry]

/-- A write to the wallet tables that is no coin row. -/
def KeepsRows (w : MembershipDb → MembershipDb) : Prop :=
  ∀ db, ∃ money, w db = db.setMoney money ∧ money.coinLedger = db.money.coinLedger

theorem Debits.comp {entry : CoinLedgerEntry} {f w : MembershipDb → MembershipDb}
    (last : KeepsRows f) (first : Debits entry w) : Debits entry (f ∘ w) := by
  intro db
  obtain ⟨money, written, ledger⟩ := first db
  obtain ⟨money', written', ledger'⟩ := last (w db)
  refine ⟨money', ?_, ?_⟩
  · rw [Function.comp, written', written]
    rfl
  · rw [ledger', written]
    exact ledger

theorem onMoney_bind {α β : Type} (x : LedgerTx α) (k : α → LedgerTx β) :
    onMoney (x >>= k) = onMoney x >>= fun a => onMoney (k a) := Tx.zoom_bind _ _ x k

theorem onMoney_ensure (condition : Bool) (error : LedgerError) :
    onMoney (Tx.ensure condition error) = Tx.ensure condition error := Tx.zoom_ensure _ _ _ _

section Transaction

variable {request : Request} {held : Set Lock} {s : MembershipDb}
  {err : LedgerError → MembershipDb → Prop} {w : MembershipDb → MembershipDb}

theorem freezeCheck_relies (stacked : Stacked s)
    {ok : Unit → Set Lock → (MembershipDb → MembershipDb) → MembershipDb → Prop} (userId : UserId)
    (returns : ∀ held' t, held ⊆ held' → stacking.Rely held s t → ok () held' w t)
    (throws : ∀ e t, stacking.Rely held s t → err e t) :
    (onMoney (Tx.when True (assertCoinDebitAllowedInTx userId .coin))).Relies stacking request
      ok err held w s := by
  have nothing : (onMoney (Tx.when True (assertCoinDebitAllowedInTx userId .coin))).Writes
      fun _ => False :=
    (Tx.writes_when (assertCoinDebitAllowedInTx_writes (P := fun _ => False) userId .coin)).zoom_of
      fun _ impossible => impossible
  refine nothing.relies (Q := fun w' => w' = w) (fun _ _ impossible => impossible.elim) rfl stacked
    ?_ throws
  intro _ held' w' t sub same rely
  rw [same]
  exact returns held' t sub rely

variable {entry : CoinLedgerEntry}

/-- The key of a row that is inserted stays free until the transaction ends. -/
theorem insert_relies
    {ok : CoinLedgerEntry → Set Lock → (MembershipDb → MembershipDb) → MembershipDb → Prop}
    (positive : 0 < entry.amount) (vip : isVipKey entry.idempotencyKey = true)
    (posted : ∀ t held', held ⊆ held' → .coinKey entry.idempotencyKey ∈ held' →
      stacking.Rely held s t → findByKey t.money.coinLedger entry.idempotencyKey = none →
      ok entry held' (fun db => db.setMoney (db.money.addCoin entry)) t)
    (throws : ∀ t, stacking.Rely held s t → err .uniqueViolation t) :
    (onMoney (CoinLedgerRepository.insert entry)).Relies stacking request ok err held id s := by
  simp only [CoinLedgerRepository.insert, assertPositiveAmount, onMoney_bind, onMoney_ensure]
  refine Tx.relies_ensure_bind (fun refused => ?_) fun _ => ?_
  · simp [positive] at refused
  have more := Set.subset_insert (.coinKey entry.idempotencyKey) held
  refine Tx.relies_lockRow fun t toLock _ => ?_
  refine Tx.relies_select fun u reading => ?_
  have checked := toLock.trans (reading.mono more)
  refine Tx.relies_ensure_bind (fun _ => throws u checked) fun free => ?_
  rw [Option.isNone_iff_eq_none] at free
  refine Tx.relies_update fun v writing _ => ?_
  have locked : .coinKey entry.idempotencyKey ∈ insert (.coinKey entry.idempotencyKey) held :=
    Set.mem_insert _ _
  refine posted v _ (more.trans (Set.subset_insert _ _)) (Set.mem_insert _ _)
    (checked.trans (writing.mono more)) ?_
  exact writing.same _ locked vip free

/-- A debit: the row of its key if there is one, else a new row on the locked wallet. -/
theorem debit_relies {userId : UserId} {amount : Int} {key : LedgerKey}
    {ok : LedgerReceipt → Set Lock → (MembershipDb → MembershipDb) → MembershipDb → Prop}
    (positive : 0 < amount) (vip : isVipKey key = true)
    (replayed : ∀ t row, stacking.Rely ∅ s t → findByKey t.money.coinLedger key = some row →
      ok ⟨key, row.balanceAfter⟩ ∅ id t)
    (posted : ∀ t held w entry, stacking.Rely ∅ s t →
      (∃ before, stacking.Rely ∅ s before ∧ findByKey before.money.coinLedger key = none) →
      .wallet ⟨userId, .coin⟩ ∈ held → .coinKey key ∈ held →
      findByKey t.money.coinLedger key = none → entry.wallet = ⟨userId, .coin⟩ →
      entry.idempotencyKey = key → entry.amount = amount → Debits entry w →
      ok ⟨key, entry.balanceAfter⟩ held w t)
    (throws : ∀ e t,
      (∃ before, stacking.Rely ∅ s before ∧ findByKey before.money.coinLedger key = none) →
      err e t) :
    (onMoney (CoinWallet.debit userId amount .vipMembershipPurchase
      { idempotencyKey := key, applyWealth := true })).Relies stacking request ok err ∅ id s := by
  simp only [CoinWallet.debit, assertPositiveAmount, onMoney_bind, onMoney_ensure]
  refine Tx.relies_ensure_bind (fun refused => ?_) fun _ => ?_
  · simp [positive] at refused
  refine Tx.relies_select fun t rely => ?_
  dsimp only [id]
  cases present : findByKey t.money.coinLedger key with
  | some row =>
    have keyIs : row.idempotencyKey = key := by simpa using List.find?_some present
    exact keyIs ▸ replayed t row rely present
  | none =>
    have absent : ∃ before, stacking.Rely ∅ s before ∧
        findByKey before.money.coinLedger key = none := ⟨t, rely, present⟩
    simp only [onMoney_bind, onMoney_ensure]
    refine Tx.relies_lockRow fun u toLock _ => ?_
    have walletHeld : .wallet ⟨userId, .coin⟩ ∈ insert (.wallet ⟨userId, .coin⟩) (∅ : Set Lock) :=
      Set.mem_insert _ _
    refine Tx.Relies.bind (freezeCheck_relies toLock.inv userId (fun held v more checking => ?_) ?_)
    · refine Tx.relies_select fun x reading => ?_
      refine Tx.relies_ensure_bind (fun _ => throws _ x absent) fun _ => ?_
      let entry : CoinLedgerEntry :=
        { wallet := ⟨userId, .coin⟩, direction := .debit, txType := .vipMembershipPurchase, amount,
          balanceAfter := latestBalance x.money.coinLedger ⟨userId, .coin⟩ - amount,
          idempotencyKey := key }
      refine Tx.Relies.bind (insert_relies positive vip ?_ fun y _ => throws _ y absent)
      intro y held' evenMore keyHeld inserting free
      have sofar : stacking.Rely ∅ s y := (rely.trans toLock).trans
        ((checking.mono (Set.empty_subset _)).trans
          ((reading.trans inserting).mono (Set.empty_subset _)))
      have levels : (onMoney (Tx.when (True ∧ True) do
          let _ ← applyCredit userId .wealth amount
          pure ())).Writes KeepsRows := by
        refine Tx.Writes.zoom_of (P := KeepsCoins) (Tx.writes_when ?_) ?_
        · exact .bind (applyCredit_keepsCoins userId .wealth amount) fun _ => Tx.writes_pure ()
        · exact fun f keeps db => ⟨f db.money, rfl, keeps db.money⟩
      refine Tx.Relies.bind (levels.relies (Q := Debits entry) (fun f g => Debits.comp) ?_
        inserting.inv ?_ ?_)
      · exact fun db => ⟨db.money.addCoin _, rfl, rfl⟩
      · intro _ held'' w z most debits levelling
        refine posted z held'' w _ (sofar.trans (levelling.mono (Set.empty_subset _))) absent
          (most (evenMore (more walletHeld))) (most keyHeld) ?_ rfl rfl rfl debits
        exact levelling.same _ keyHeld vip free
      · exact fun e z _ => throws e z absent
    · exact fun e v _ => throws e v absent

/-! ### The stacking -/

theorem addUtcDays_le {date later : Time} (days : Nat) (passed : date ≤ later) :
    addUtcDays date days ≤ addUtcDays later days := Nat.add_le_add_right passed _

variable {purchaseId clientKey : Nat} {userId : UserId} {tier : VipMembershipTier}
  {aborts : List Nat}

/-- The purchase a retry was made for is still that of its key. -/
def Known (bought : Option VipMembershipPurchase) (key : LedgerKey) (db : MembershipDb) : Prop :=
  ∀ p, bought = some p → findPurchaseByLedgerEntryId db.purchases key = some p

variable {bought : Option VipMembershipPurchase}

theorem Known.rely {key : LedgerKey} {t : MembershipDb} (known : Known bought key s)
    (rely : stacking.Rely held s t) : Known bought key t :=
  fun p retried => rely.grows.purchase (known p retried)

theorem keeps_refl (stacked : Stacked s) : stacking.Keeps request held s s :=
  ⟨stacked, stacking.grows_refl s, fun row _ => stacking.same_refl row s, trivial⟩

/-- The state and the answer after a purchase. -/
def Settles (bought : Option VipMembershipPurchase) (key : LedgerKey)
    (outcome : Except LedgerError Time) (db : MembershipDb) : Prop :=
  Stacked db ∧ Truthful db.purchases ⟨key, bought, toAnswer outcome⟩

theorem answer_keeps {t : MembershipDb} {a : VipAnswer} (stacked : Stacked t)
    (truthful : Truthful t.purchases a) :
    stacking.Keeps request held t { t with answers := t.answers ++ [a] } where
  inv :=
    { debited := stacked.debited, once := stacked.once, rows := stacked.rows,
      past := stacked.past, ordered := stacked.ordered, chain := stacked.chain,
      expiry := stacked.expiry,
      answers := List.forall_mem_append.mpr ⟨stacked.answers, by simpa using truthful⟩ }
  grows := ⟨List.prefix_rfl, Nat.le_refl _⟩
  same row _ := by
    cases row with
    | wallet wallet => exact fun _ => ⟨rfl, rfl⟩
    | coinKey key => exact fun _ absent => absent
    | _ => trivial
  step := trivial

end Transaction

/-! ### The other requests -/

/-- The write has nothing to do with VIP purchases. -/
structure Beside (t u : MembershipDb) : Prop where
  rows : (u.money.coinLedger.filter fun e => isVipKey e.idempotencyKey) =
    t.money.coinLedger.filter fun e => isVipKey e.idempotencyKey
  purchases : u.purchases = t.purchases
  expiry : ∀ userId, (u.vip userId).map (·.expiresAt) = (t.vip userId).map (·.expiresAt)
  now : t.now ≤ u.now
  answers : u.answers = t.answers

theorem Beside.trans {s t u : MembershipDb} (first : Beside s t) (second : Beside t u) :
    Beside s u where
  rows := second.rows.trans first.rows
  purchases := second.purchases.trans first.purchases
  expiry userId := (second.expiry userId).trans (first.expiry userId)
  now := Nat.le_trans first.now second.now
  answers := second.answers.trans first.answers

theorem findByKey_none_iff_filter {ledger : List CoinLedgerEntry} {key : LedgerKey}
    (vip : isVipKey key = true) : findByKey ledger key = none ↔
      ∀ e ∈ ledger.filter fun e => isVipKey e.idempotencyKey, e.idempotencyKey ≠ key := by
  rw [findByKey_eq_none]
  constructor
  · exact fun absent e member => absent e (List.mem_of_mem_filter member)
  · intro absent e member same
    exact absent e (List.mem_filter.mpr ⟨member, same ▸ vip⟩) same

theorem Beside.keeps {request : Request} {held : Set Lock} {t u : MembershipDb}
    (beside : Beside t u) (stacked : Stacked t) : stacking.Keeps request held t u where
  inv := by
    have ofUser : ∀ userId, purchasesOf u userId = purchasesOf t userId := by
      intro userId
      rw [purchasesOf, beside.purchases, purchasesOf]
    constructor
    · rw [vipDebits, beside.rows, beside.purchases]
      exact stacked.debited
    · rw [beside.purchases]
      exact stacked.once
    · rw [beside.purchases]
      exact stacked.rows
    · rw [beside.purchases]
      exact fun p stored => Nat.le_trans (stacked.past p stored) beside.now
    · exact fun userId => ofUser userId ▸ stacked.ordered userId
    · exact fun userId => ofUser userId ▸ stacked.chain userId
    · intro userId p last
      rw [ofUser] at last
      rw [beside.expiry]
      exact stacked.expiry userId p last
    · rw [beside.answers, beside.purchases]
      exact stacked.answers
  grows := ⟨beside.purchases ▸ List.prefix_rfl, beside.now⟩
  same row _ := by
    cases row with
    | wallet wallet =>
      intro _
      rw [purchasesOf, beside.purchases]
      exact ⟨rfl, beside.expiry wallet.userId⟩
    | coinKey key =>
      intro vip absent
      rw [findByKey_none_iff_filter vip] at absent ⊢
      rw [beside.rows]
      exact absent
    | _ => trivial
  step := trivial

abbrev VipConfig := Config Request MembershipDb Lock LedgerError

/-- Everybody is a user and user 1 has coins. -/
def member : MembershipDb where
  now := 0
  money := MoneyDb.empty.addCoin
    { wallet := ⟨1, .coin⟩, direction := .credit, txType := .topup, amount := 30000000,
      balanceAfter := 30000000, idempotencyKey := .other 0 }
  guardians _ := none
  vip _ := some ⟨none, none, false⟩
  purchases := []
  idem _ := none
  answers := []

private def fits (c : VipConfig) : Event Request → Bool
  | .advance i =>
    match c.threads[i]? with
    | none => true
    | some t =>
      match t.request, t.statement with
      | .vip purchaseId userId tier clientKey aborts, some .read =>
        (c.db.purchases.all fun p => p.ledgerEntryId ≠ vipKey userId clientKey ||
          decide (aborts.length < 3) && (c.db.vip userId).all fun v => withinCap
            (computeProposedExpiresAt c.db.now v.expiresAt (tierConfig tier).periodDays) c.db.now
            VIP_DURATION_CAP_DAYS) &&
        (purchasesOf c.db userId).all fun p => p.createdAt ≠ c.db.now || decide (p.id ≤ purchaseId)
      | _, _ => true
  | _ => true

end OlNode.Memberships
