import OlNode.ReadCommitted.Within
import OlNode.Idempotency.Operations

/-!
# Whose records a request meets

A request meets the records that carry one of its keys, and writes only such records. As long as
the requests of different users spell different keys, every record a request meets was written by
a request of its own user: no response, refusal or ledger row of another user reaches its answer,
however the requests interleave and wherever they die.

Two requests spell the same key when both are exchanges with the same client key and the first
eight characters of the two user ids agree, when both are top-ups with the same client key, or when
the client key of a top-up is the marker or the coin key of the exchange.
-/
namespace OlNode.Idempotency

open ReadCommitted

/-! ### The statement -/

/-- The records an outcome rests on, by their authors. -/
def Failure.authors : Failure → List Uuid
  | .idemConflict _ author => [author]
  | .uniqueViolation author => [author]
  | .app _ => []
  | .gatewayRefTaken => []

def Outcome.authors : Outcome → List Uuid
  | .stored _ author => [author]
  | .replayed transfer => [transfer.senderAgentUserId]
  | .settled _ rows => rows.map (·.author)
  | .refused failure => failure.authors

/-- Idempotency keys are private: no request was answered with a response or transfer of another
user, none was refused as a duplicate of another user's, and none had its debit or credit stood in
for by a row of another user's request. -/
structure Private (db : KeyDb) : Prop where
  responses : ∀ request response author, (request, .stored response author) ∈ db.answers →
    request.userId = some author
  transfers : ∀ request transfer, (request, .replayed transfer) ∈ db.answers →
    request.userId = some transfer.senderAgentUserId
  refusals : ∀ request failure, (request, .refused failure) ∈ db.answers →
    ∀ author ∈ failure.authors, request.userId = some author
  postings : ∀ request response rows, (request, .settled response rows) ∈ db.answers →
    ∀ row ∈ rows, request.userId = some row.author

/-- The key of a request to initiate or confirm a top-up. -/
def Request.topupKey : Request → Option ClientKey
  | .initiate _ clientKey _ => some clientKey
  | .confirm _ _ _ clientKey => some clientKey
  | _ => none

/-- Two exchanges do not spell the same ledger reference. -/
def ReferencesApart (u v : Uuid) (drawn drawn' : Uuid) :
    Option ClientKey → Option ClientKey → Prop
  | some k, some l => u.firstEight ≠ v.firstEight ∨ k ≠ l
  | none, none => drawn ≠ drawn'
  | _, _ => True

/-- Two requests of different users do not spell the same key. -/
def Apart : Request → Request → Prop
  | .exchange u _ k env, .exchange v _ l env' => ReferencesApart u v env.drawn env'.drawn k l
  | .exchange u _ k _, .initiate _ l _ => ∀ key ∈ k, l.text ≠ exchangeMarker u key
  | .exchange u _ k env, .confirm _ _ _ l =>
    (∀ key ∈ k, l.text ≠ exchangeMarker u key) ∧
      ∀ isAgent ∈ env.isAgent, l.text ≠ exchangeCoinKey isAgent (exchangeRefId u k env.drawn)
  | request, other => ∀ k l, request.topupKey = some k → other.topupKey = some l → k ≠ l

inductive Table where
  | marker
  | ledger (table : LedgerTable)
  | order
  | transfer

/-- A record with this key was written by a request of this user. -/
def KeyDb.Holds (db : KeyDb) (key : String) (author : Uuid) : Table → Prop
  | .marker => ∃ marker, db.marker key = some marker ∧ marker.author = author
  | .ledger table => ∃ entry ∈ db.ledger table, entry.idempotencyKey = key ∧ entry.author = author
  | .order => ∃ order ∈ db.orders, order.idempotencyKey = key ∧ order.userId = author
  | .transfer => ∃ transfer ∈ db.transfers,
      transfer.idempotencyKey = key ∧ transfer.senderAgentUserId = author

def Request.keys : Request → Table → List String
  | .exchange userId _ clientKey _, .marker => (clientKey.map (exchangeMarker userId)).toList
  | .exchange userId _ clientKey env, .ledger .point =>
    [exchangePointKey (exchangeRefId userId clientKey env.drawn)]
  | .exchange userId _ clientKey env, .ledger .coin =>
    (env.isAgent.map fun isAgent =>
      exchangeCoinKey isAgent (exchangeRefId userId clientKey env.drawn)).toList
  | .initiate _ clientKey _, .marker => [clientKey.text]
  | .initiate _ clientKey _, .order => [clientKey.text]
  | .confirm _ _ _ clientKey, .marker => [clientKey.text]
  | .confirm _ _ _ clientKey, .ledger .coin => [clientKey.text]
  | .transfer userId _ _ clientKey env, .ledger .point =>
    [transferDebitKey (transferKey userId clientKey env.now),
      transferCreditKey (transferKey userId clientKey env.now)]
  | .transfer userId _ _ clientKey env, .transfer => [transferKey userId clientKey env.now]
  | _, _ => []

/-! ### The keys of different users -/

section Spelling

variable {r r' : Request} {key : String}

theorem ReferencesApart.ne {u v drawn drawn' : Uuid} {k l : Option ClientKey}
    (apart : ReferencesApart u v drawn drawn' k l) :
    exchangeRefId u k drawn ≠ exchangeRefId v l drawn' := by
  intro same
  cases k with
  | none =>
    cases l with
    | none => exact apart (Uuid.ext same)
    | some l => exact exchangeRefId_some_ne_none same.symm
  | some k =>
    cases l with
    | none => exact exchangeRefId_some_ne_none same
    | some l =>
      obtain ⟨users, keys⟩ := exchangeRefId_some.mp same
      exact apart.elim (fun other => other users) fun other => other keys

private theorem markers_apart (different : r.userId ≠ r'.userId) (apart : Apart r r')
    (back : Apart r' r) (mine : key ∈ r.keys .marker) : key ∉ r'.keys .marker := by
  intro theirs
  cases r <;> cases r' <;> simp only [Request.keys, Option.mem_toList, Option.map_eq_some_iff,
    List.mem_singleton, List.not_mem_nil] at mine theirs
  case exchange.exchange u _ _ _ v _ _ _ =>
    obtain ⟨k, -, rfl⟩ := mine
    obtain ⟨l, -, same⟩ := theirs
    exact different (congrArg some (user_of_exchangeMarker same).symm)
  case exchange.initiate =>
    obtain ⟨k, rfl, rfl⟩ := mine
    exact apart k rfl theirs.symm
  case exchange.confirm =>
    obtain ⟨k, rfl, rfl⟩ := mine
    exact apart.1 k rfl theirs.symm
  case initiate.exchange =>
    obtain ⟨l, rfl, rfl⟩ := theirs
    exact back l rfl mine.symm
  case confirm.exchange =>
    obtain ⟨l, rfl, rfl⟩ := theirs
    exact back.1 l rfl mine.symm
  all_goals exact apart _ _ rfl rfl (ClientKey.ext (mine.symm.trans theirs))

private theorem points_apart (different : r.userId ≠ r'.userId) (apart : Apart r r')
    (mine : key ∈ r.keys (.ledger .point)) : key ∉ r'.keys (.ledger .point) := by
  intro theirs
  cases r <;> cases r' <;> simp only [Request.keys, List.not_mem_nil, List.mem_cons,
    or_false] at mine theirs
  case exchange.exchange =>
    exact ReferencesApart.ne apart (exchangePointKey_inj (mine.symm.trans theirs))
  case exchange.transfer =>
    rcases theirs with theirs | theirs <;>
      exact exchangePointKey_ne_transferKey (mine.symm.trans theirs)
  case transfer.exchange =>
    rcases mine with mine | mine <;>
      exact exchangePointKey_ne_transferKey (theirs.symm.trans mine)
  case transfer.transfer =>
    -- whatever the two suffixes are
    rcases mine with mine | mine <;> rcases theirs with theirs | theirs <;>
      exact different (congrArg some (user_of_transferKey (mine.symm.trans theirs)))

private theorem coins_apart (apart : Apart r r') (back : Apart r' r)
    (mine : key ∈ r.keys (.ledger .coin)) : key ∉ r'.keys (.ledger .coin) := by
  intro theirs
  cases r <;> cases r' <;> simp only [Request.keys, Option.mem_toList, Option.map_eq_some_iff,
    List.mem_singleton, List.not_mem_nil] at mine theirs
  case exchange.exchange =>
    obtain ⟨agent, -, rfl⟩ := mine
    obtain ⟨agent', -, same⟩ := theirs
    exact ReferencesApart.ne apart (exchangeCoinKey_inj same).2.symm
  case exchange.confirm =>
    obtain ⟨agent, found, rfl⟩ := mine
    exact apart.2 agent found theirs.symm
  case confirm.exchange =>
    obtain ⟨agent, found, rfl⟩ := theirs
    exact back.2 agent found mine.symm
  case confirm.confirm => exact apart _ _ rfl rfl (ClientKey.ext (mine.symm.trans theirs))

/-- Requests of different users that are apart share no key in any table. -/
theorem keys_apart {table : Table} (different : r.userId ≠ r'.userId) (apart : Apart r r')
    (back : Apart r' r) (mine : key ∈ r.keys table) : key ∉ r'.keys table := by
  cases table with
  | marker => exact markers_apart different apart back mine
  | ledger table =>
    cases table with
    | coin => exact coins_apart apart back mine
    | point => exact points_apart different apart mine
  | order =>
    intro theirs
    cases r <;> cases r' <;> simp only [Request.keys, List.mem_singleton, List.not_mem_nil]
      at mine theirs
    exact apart _ _ rfl rfl (ClientKey.ext (mine.symm.trans theirs))
  | transfer =>
    intro theirs
    cases r <;> cases r' <;> simp only [Request.keys, List.mem_singleton, List.not_mem_nil]
      at mine theirs
    have same := congrArg (· ++ "") (mine.symm.trans theirs)
    exact different (congrArg some (user_of_transferKey same))

end Spelling

/-! ### What requests meet and write -/

/-- All records belong to whom `H` says, and no answer rests on another user's record. -/
structure Owned (H : String → Uuid → Table → Prop) (db : KeyDb) : Prop where
  records : ∀ key author table, db.Holds key author table → H key author table
  answers : ∀ answer ∈ db.answers, ∀ author ∈ answer.2.authors, answer.1.userId = some author

section Steps

variable {H : String → Uuid → Table → Prop} {user : Uuid} {table : Table} {key : String}

/-- A key that belongs to a user, and to no other one. -/
structure Sole (H : String → Uuid → Table → Prop) (user : Uuid) (table : Table) (key : String) :
    Prop where
  mine : H key user table
  only : ∀ author, H key author table → author = user

/-- Writes keep the records with their owners; nothing is asked of the order of states. -/
abbrev Keeps (H : String → Uuid → Table → Prop) (f : KeyDb → KeyDb) : Prop :=
  Harmless (Owned H) (fun _ _ => True) f

/-- What is returned satisfies `P`, and what is thrown names no other user. -/
def Blameless (user : Uuid) {α : Type} (P : α → Prop) : Except Failure α → Prop
  | .ok value => P value
  | .error failure => ∀ author ∈ failure.authors, author = user

theorem blameless_app {α : Type} {P : α → Prop} {status : Nat} {message : String}
    {code : ErrorCode} : Blameless user P (.error (appError status message code)) :=
  List.forall_mem_nil _

theorem keeps_setMarker {marker : Option Marker}
    (owned : ∀ m ∈ marker, H key m.author .marker) : Keeps H fun db => db.setMarker key marker := by
  intro db inv
  refine ⟨⟨?_, inv.answers⟩, trivial⟩
  intro other author table holds
  cases table with
  | marker =>
    obtain ⟨m, found, rfl⟩ := holds
    by_cases same : other = key
    · subst same
      simp only [KeyDb.setMarker, if_true] at found
      exact owned m found
    · simp only [KeyDb.setMarker, if_neg same] at found
      exact inv.records _ _ .marker ⟨m, found, rfl⟩
  | ledger table => exact inv.records _ _ (.ledger table) holds
  | order => exact inv.records _ _ .order holds
  | transfer => exact inv.records _ _ .transfer holds

theorem keeps_addEntry {table : LedgerTable} {entry : Entry}
    (owned : H entry.idempotencyKey entry.author (.ledger table)) :
    Keeps H fun db => db.addEntry table entry := by
  intro db inv
  refine ⟨⟨?_, inv.answers⟩, trivial⟩
  intro other author kind holds
  cases kind with
  | ledger kind =>
    obtain ⟨row, member, rfl, rfl⟩ := holds
    by_cases same : kind = table
    · subst same
      simp only [KeyDb.addEntry, if_true, List.mem_append, List.mem_singleton] at member
      rcases member with old | rfl
      · exact inv.records _ _ (.ledger kind) ⟨row, old, rfl, rfl⟩
      · exact owned
    · simp only [KeyDb.addEntry, if_neg same] at member
      exact inv.records _ _ (.ledger kind) ⟨row, member, rfl, rfl⟩
  | marker => exact inv.records _ _ .marker holds
  | order => exact inv.records _ _ .order holds
  | transfer => exact inv.records _ _ .transfer holds

theorem keeps_orders (f : List CoinTopupOrder → List CoinTopupOrder)
    (owned : ∀ orders, (∀ order ∈ orders, H order.idempotencyKey order.userId .order) →
      ∀ order ∈ f orders, H order.idempotencyKey order.userId .order) :
    Keeps H fun db => { db with orders := f db.orders } := by
  intro db inv
  refine ⟨⟨?_, inv.answers⟩, trivial⟩
  intro other author kind holds
  cases kind with
  | order =>
    obtain ⟨order, member, rfl, rfl⟩ := holds
    exact owned db.orders (fun old present => inv.records _ _ .order ⟨old, present, rfl, rfl⟩)
      order member
  | marker => exact inv.records _ _ .marker holds
  | ledger table => exact inv.records _ _ (.ledger table) holds
  | transfer => exact inv.records _ _ .transfer holds

variable {transfer : AgentPointTransfer}

theorem keeps_addTransfer (owned : H transfer.idempotencyKey transfer.senderAgentUserId .transfer) :
    Keeps H fun db => { db with transfers := db.transfers ++ [transfer] } := by
  intro db inv
  refine ⟨⟨?_, inv.answers⟩, trivial⟩
  intro other author kind holds
  cases kind with
  | transfer =>
    obtain ⟨row, member, rfl, rfl⟩ := holds
    rcases List.mem_append.mp member with old | new
    · exact inv.records _ _ .transfer ⟨row, old, rfl, rfl⟩
    · rw [List.mem_singleton] at new
      exact new ▸ owned
  | marker => exact inv.records _ _ .marker holds
  | ledger table => exact inv.records _ _ (.ledger table) holds
  | order => exact inv.records _ _ .order holds

theorem keeps_answer {request : Request} {outcome : Outcome}
    (fair : ∀ author ∈ outcome.authors, request.userId = some author) :
    Keeps H fun db => { db with answers := db.answers ++ [(request, outcome)] } := by
  intro db inv
  refine ⟨⟨fun other author kind holds => ?_, ?_⟩, trivial⟩
  · refine inv.records other author kind ?_
    cases kind <;> exact holds
  · intro answer member
    rcases List.mem_append.mp member with old | new
    · exact inv.answers answer old
    · rw [List.mem_singleton] at new
      subst new
      exact fair

/-- A body that meets and writes only records of the user. -/
abbrev FairTx (H : String → Uuid → Table → Prop) (user : Uuid) {α : Type} (P : α → Prop)
    (x : KeyTx α) : Prop := x.WithinTo (Owned H) (fun _ _ => True) (Blameless user P)

abbrev FairProg (H : String → Uuid → Table → Prop) (user : Uuid) {α : Type} (P : α → Prop)
    (p : KeyProg α) : Prop := p.WithinTo (Owned H) (fun _ _ => True) (Blameless user P)

/-- Every row that is found under a key of the user was written for the user. -/
theorem Owned.author_of_find {db : KeyDb} {table : LedgerTable} {row : Entry} (inv : Owned H db)
    (sole : Sole H user (.ledger table) key)
    (found : (db.ledger table).find? (fun entry => entry.idempotencyKey = key) = some row) :
    row.author = user := by
  have keyIs : row.idempotencyKey = key := by simpa using List.find?_some found
  refine sole.only _ (inv.records key row.author (.ledger table) ?_)
  exact ⟨row, List.mem_of_find?_eq_some found, keyIs, rfl⟩

theorem Owned.author_of_findTransfer {db : KeyDb} (inv : Owned H db)
    (sole : Sole H user .transfer key) (found : findTransfer key db = some transfer) :
    transfer.senderAgentUserId = user := by
  have keyIs : transfer.idempotencyKey = key := by simpa using List.find?_some found
  refine sole.only _ (inv.records key transfer.senderAgentUserId .transfer ?_)
  exact ⟨transfer, List.mem_of_find?_eq_some found, keyIs, rfl⟩

private theorem names_only {author : Uuid} (same : author = user) :
    ∀ other ∈ [author], other = user := by
  simpa using same

/-! #### The marker -/

theorem acquireIdemKey_fair (sole : Sole H user .marker key) (message : String) :
    FairProg H user (fun _ => True) (acquireIdemKey user key message) := by
  refine Prog.withinTo_transaction (Tx.withinTo_lockRow_bind (Tx.withinTo_select_bind ?_))
  intro db inv
  cases found : db.marker key with
  | some marker =>
    have own := sole.only _ (inv.records key marker.author .marker ⟨marker, found, rfl⟩)
    exact names_only own
  | none =>
    refine ⟨keeps_setMarker fun m member => ?_, trivial⟩
    cases member
    exact sole.mine

theorem resolveIdemKey_fair (sole : Sole H user .marker key) (response : Response) :
    FairProg H user (fun _ => True) (resolveIdemKey user key response) := by
  refine Prog.withinTo_autocommit (keeps_setMarker fun m member => ?_) trivial
  cases member
  exact sole.mine

theorem deleteIdemKey_fair (key : String) :
    FairProg H user (fun _ => True) (deleteIdemKey key) :=
  Prog.withinTo_autocommit (keeps_setMarker (by simp)) trivial

/-- An outcome that rests on records of the user only. -/
def Fair (user : Uuid) (outcome : Outcome) : Prop := ∀ author ∈ outcome.authors, author = user

theorem withIdemKey_fair {message : String} {run : KeyProg Outcome}
    (sole : Sole H user .marker key) (fair : FairProg H user (Fair user) run) :
    FairProg H user (Fair user) (withIdemKey user key message run) := by
  intro db inv
  cases found : db.marker key with
  | none =>
    simp only [found, Option.bind_none]
    exact (acquireIdemKey_fair sole message).bind (fun _ _ => fair) fun _ thrown => thrown
  | some marker =>
    have own := sole.only _ (inv.records key marker.author .marker ⟨marker, found, rfl⟩)
    cases stored : marker.response with
    | none =>
      simp only [found, stored, Option.bind_some, Option.map_none]
      exact (acquireIdemKey_fair sole message).bind (fun _ _ => fair) fun _ thrown => thrown
    | some response =>
      simp only [found, stored, Option.bind_some, Option.map_some]
      exact names_only own

/-! #### Ledgers -/

theorem insertEntry_fair {table : LedgerTable} {entry : Entry} (author : entry.author = user)
    (sole : Sole H user (.ledger table) entry.idempotencyKey) :
    FairTx H user (fun row => row.author = user) (insertEntry table entry) := by
  refine Tx.withinTo_ensure_bind blameless_app (Tx.withinTo_lockRow_bind ?_)
  refine Tx.withinTo_select_bind fun db inv => ?_
  split
  next row found => exact names_only (inv.author_of_find sole found)
  next => exact Tx.withinTo_update_bind (keeps_addEntry (author ▸ sole.mine)) author

theorem pointDebit_fair {posting : Posting} (author : posting.author = user)
    (sole : Sole H user (.ledger .point) posting.idempotencyKey) (pointsFrozen : Bool)
    (unconfirmedPoints : Int) :
    FairTx H user (fun row => row.author = user)
      (pointDebit posting pointsFrozen unconfirmedPoints) := by
  refine Tx.withinTo_ensure_bind blameless_app (Tx.withinTo_select_bind fun db inv => ?_)
  split
  next row found => exact inv.author_of_find sole found
  next =>
    refine Tx.withinTo_lockRow_bind (Tx.withinTo_ensure_bind blameless_app ?_)
    refine Tx.withinTo_select_bind fun _ _ => Tx.withinTo_ensure_bind blameless_app ?_
    exact insertEntry_fair author sole

theorem credit_fair {table : LedgerTable} {posting : Posting} (author : posting.author = user)
    (sole : Sole H user (.ledger table) posting.idempotencyKey)
    (currencyType : WalletCurrencyType) :
    FairTx H user (fun row => row.author = user) (credit table currencyType posting) := by
  refine Tx.withinTo_ensure_bind blameless_app (Tx.withinTo_select_bind fun db inv => ?_)
  split
  next row found => exact inv.author_of_find sole found
  next =>
    exact Tx.withinTo_lockRow_bind
      (Tx.withinTo_select_bind fun _ _ => insertEntry_fair author sole)

theorem assertPositiveAmountMultiple_fair (amount step : Int) (belowMinCode : ErrorCode)
    (unitLabel : String) :
    FairProg H user (fun _ => True)
      (assertPositiveAmountMultiple amount step belowMinCode unitLabel) := by
  refine Prog.withinTo_ensure_bind blameless_app ?_
  unfold Prog.ensure
  split
  · trivial
  · exact blameless_app

/-! #### The requests -/

variable {clientKey : Option ClientKey} {env : ExchangeEnvironment}

theorem exchangeTx_fair (points coinsAwarded : Int) {isAgent : Bool}
    (pointKey : Sole H user (.ledger .point)
      (exchangePointKey (exchangeRefId user clientKey env.drawn)))
    (coinKey : Sole H user (.ledger .coin)
      (exchangeCoinKey isAgent (exchangeRefId user clientKey env.drawn))) :
    FairTx H user (fun rows => ∀ row ∈ rows, row.author = user)
      (exchangeTx user points coinsAwarded clientKey isAgent env) := by
  have guard : FairTx H user (fun _ => True)
      (assertNotExchanged clientKey (exchangeRefId user clientKey env.drawn)) := by
    cases clientKey with
    | none => trivial
    | some key =>
      refine Tx.withinTo_select_bind fun db inv => ?_
      split
      next row found => exact names_only (inv.author_of_find pointKey found)
      next => trivial
  refine guard.bind (fun _ _ => ?_) fun _ thrown => thrown
  refine Tx.withinTo_lockRow_bind (Tx.withinTo_lockRow_bind ?_)
  refine (pointDebit_fair rfl pointKey ..).bind (fun debited ours => ?_) fun _ thrown => thrown
  refine (credit_fair rfl coinKey _).bind (fun credited ours' => ?_) fun _ thrown => thrown
  intro row member
  simp only [List.mem_cons, List.not_mem_nil, or_false] at member
  rcases member with rfl | rfl
  · exact ours
  · exact ours'

theorem executeExchangeInternal_fair (points : Int)
    (pointKey : Sole H user (.ledger .point)
      (exchangePointKey (exchangeRefId user clientKey env.drawn)))
    (coinKey : ∀ isAgent ∈ env.isAgent, Sole H user (.ledger .coin)
      (exchangeCoinKey isAgent (exchangeRefId user clientKey env.drawn))) :
    FairProg H user (fun result => ∀ row ∈ result.2, row.author = user)
      (executeExchangeInternal user points clientKey env) := by
  refine (assertPositiveAmountMultiple_fair ..).bind (fun _ _ => ?_) fun _ thrown => thrown
  cases found : env.isAgent with
  | none => exact blameless_app
  | some isAgent =>
    refine Prog.withinTo_ensure_bind blameless_app ?_
    cases env.coinsPerUsd with
    | none => exact blameless_app
    | some coinsPerUsd =>
      have body := exchangeTx_fair points (points * coinsPerUsd / 10000) pointKey
        (coinKey isAgent found)
      exact (Prog.withinTo_transaction body).bind (fun rows ours => ours) fun _ thrown => thrown

private theorem settled_fair {response : Response} {rows : List Entry}
    (ours : ∀ row ∈ rows, row.author = user) : Fair user (.settled response rows) := by
  intro author member
  obtain ⟨row, present, rfl⟩ := List.mem_map.mp member
  exact ours row present

theorem settleExchange_fair (sole : Sole H user .marker key)
    {result : Except Failure (Response × List Entry)}
    (ended : Blameless user (fun result => ∀ row ∈ result.2, row.author = user) result) :
    FairProg H user (Fair user) (settleExchange user key result) := by
  have deleted : ∀ {failure : Failure}, (∀ author ∈ failure.authors, author = user) →
      FairProg H user (Fair user) (deleteIdemKey key >>= fun _ => Prog.fail failure) :=
    fun names => (deleteIdemKey_fair key).bind (fun _ _ => names) fun _ thrown => thrown
  rcases result with failure | ⟨response, rows⟩
  · cases failure with
    | uniqueViolation author => exact ended
    | app error => exact deleted ended
    | idemConflict message author => exact deleted ended
    | gatewayRefTaken => exact deleted ended
  · refine (resolveIdemKey_fair sole response).bind (fun _ _ => ?_) fun _ thrown => thrown
    exact settled_fair ended

theorem exchangePointsForTradingCoins_fair (points : Int)
    (marker : ∀ key ∈ clientKey, Sole H user .marker (exchangeMarker user key))
    (pointKey : Sole H user (.ledger .point)
      (exchangePointKey (exchangeRefId user clientKey env.drawn)))
    (coinKey : ∀ isAgent ∈ env.isAgent, Sole H user (.ledger .coin)
      (exchangeCoinKey isAgent (exchangeRefId user clientKey env.drawn))) :
    FairProg H user (Fair user) (exchangePointsForTradingCoins user points clientKey env) := by
  have run := executeExchangeInternal_fair points pointKey coinKey
  cases clientKey with
  | none => exact run.bind (fun result ours => settled_fair ours) fun _ thrown => thrown
  | some key =>
    refine withIdemKey_fair (marker key rfl) (run.attempt_bind fun result ended => ?_)
    exact settleExchange_fair (marker key rfl) ended

theorem createOrder_fair {order : CoinTopupOrder} (owner : order.userId = user)
    (sole : Sole H user .order order.idempotencyKey) :
    FairTx H user (fun _ => True) (createOrder order) := by
  refine Tx.withinTo_lockRow_bind (Tx.withinTo_select_bind fun db inv => ?_)
  split
  next other found =>
    have keyIs : other.idempotencyKey = order.idempotencyKey := by
      simpa using List.find?_some found
    have member := List.mem_of_find?_eq_some found
    exact names_only (sole.only _ (inv.records _ _ .order ⟨other, member, keyIs, rfl⟩))
  next =>
    refine ⟨keeps_orders (· ++ [order]) fun orders old row member => ?_, trivial⟩
    rcases List.mem_append.mp member with before | new
    · exact old row before
    · rw [List.mem_singleton] at new
      subst new
      exact owner ▸ sole.mine

theorem setGatewayRef_fair (id : Uuid) (gatewayRef : String)
    {f : CoinTopupOrder → CoinTopupOrder}
    (same : ∀ order, (f order).idempotencyKey = order.idempotencyKey ∧
      (f order).userId = order.userId) :
    FairTx H user (fun _ => True) (setGatewayRef id gatewayRef f) := by
  refine Tx.withinTo_lockRow_bind (Tx.withinTo_select_bind fun _ _ => ?_)
  refine Tx.withinTo_ensure_bind (List.forall_mem_nil _)
    ⟨keeps_orders (List.map _) fun orders old row member => ?_, trivial⟩
  obtain ⟨order, present, rfl⟩ := List.mem_map.mp member
  split
  · rw [(same _).1, (same _).2]
    exact old order present
  · exact old order present

theorem initiateTopup_fair {clientKey : ClientKey} (env : InitiateEnvironment)
    (marker : Sole H user .marker clientKey.text) (orderKey : Sole H user .order clientKey.text) :
    FairProg H user (Fair user) (initiateTopup user clientKey env) := by
  refine withIdemKey_fair marker ?_
  unfold initiateAcquired
  cases env.package with
  | none => exact blameless_app
  | some pkg =>
    refine (Prog.withinTo_transaction (createOrder_fair rfl orderKey)).bind (fun _ _ => ?_)
      fun _ thrown => thrown
    cases env.epay with
    | none => exact blameless_app
    | some epay =>
      have update : FairProg H user (fun _ => True)
          (Prog.transaction (setGatewayRef env.orderId epay.gatewayRef id)) :=
        Prog.withinTo_transaction
          (setGatewayRef_fair env.orderId epay.gatewayRef fun _ => ⟨rfl, rfl⟩)
      refine update.bind (fun _ _ => ?_) fun _ thrown => thrown
      exact (resolveIdemKey_fair marker _).bind
        (fun _ _ => settled_fair (List.forall_mem_nil _)) fun _ thrown => thrown

theorem confirmTopup_fair {clientKey : ClientKey} (orderId : Uuid) (gatewayRef : String)
    (marker : Sole H user .marker clientKey.text)
    (coinKey : Sole H user (.ledger .coin) clientKey.text) :
    FairProg H user (Fair user) (confirmTopup user orderId gatewayRef clientKey) := by
  refine withIdemKey_fair marker (Prog.withinTo_select_bind fun db _ => ?_)
  split
  next => exact blameless_app
  next order found =>
    have body : FairTx H user (fun row => row.author = user)
        (confirmTx user order gatewayRef clientKey) := by
      refine Tx.withinTo_lockRow_bind (Tx.withinTo_select_bind fun _ _ => ?_)
      refine (insertEntry_fair rfl coinKey).bind (fun entry ours => ?_) fun _ thrown => thrown
      refine Tx.WithinTo.bind (setGatewayRef_fair order.id gatewayRef ?_) (fun _ _ => ours)
        fun _ thrown => thrown
      exact fun _ => ⟨rfl, rfl⟩
    refine (Prog.withinTo_transaction body).bind (fun entry ours => ?_) fun _ thrown => thrown
    have own : entry.author = user := ours
    refine (resolveIdemKey_fair marker _).bind (fun _ _ => settled_fair ?_) fun _ thrown => thrown
    simpa using own

theorem insertTransfer_fair (sender : transfer.senderAgentUserId = user)
    (sole : Sole H user .transfer transfer.idempotencyKey) :
    FairTx H user (fun _ => True) (insertTransfer transfer) := by
  refine Tx.withinTo_lockRow_bind (Tx.withinTo_select_bind fun db inv => ?_)
  split
  next other found => exact names_only (inv.author_of_findTransfer sole found)
  next => exact ⟨keeps_addTransfer (sender ▸ sole.mine), trivial⟩

theorem transferPointsToAgent_fair (recipientId : Uuid) (points : Int)
    (env : TransferEnvironment) (transferKey : Sole H user .transfer key)
    (debitKey : Sole H user (.ledger .point) (transferDebitKey key))
    (creditKey : Sole H user (.ledger .point) (transferCreditKey key)) :
    FairProg H user (Fair user) (transferPointsToAgent user recipientId points key env) := by
  have body : FairTx H user (Fair user)
      (runTransferTransaction user recipientId points key env) := by
    refine Tx.withinTo_select_bind fun db inv => ?_
    split
    next transfer found => exact names_only (inv.author_of_findTransfer transferKey found)
    next =>
      refine (pointDebit_fair rfl debitKey ..).bind (fun debited ours => ?_) fun _ thrown => thrown
      refine (credit_fair rfl creditKey _).bind (fun credited ours' => ?_) fun _ thrown => thrown
      refine (insertTransfer_fair rfl transferKey).bind (fun _ _ => ?_) fun _ thrown => thrown
      refine settled_fair fun row member => ?_
      simp only [List.mem_cons, List.not_mem_nil, or_false] at member
      rcases member with rfl | rfl
      · exact ours
      · exact ours'
  refine Prog.withinTo_ensure_bind blameless_app ?_
  refine (assertPositiveAmountMultiple_fair ..).bind (fun _ _ => ?_) fun _ thrown => thrown
  refine Prog.withinTo_ensure_bind blameless_app (Prog.withinTo_ensure_bind blameless_app ?_)
  refine Prog.withinTo_select_bind fun db inv => ?_
  split
  next transfer found => exact names_only (inv.author_of_findTransfer transferKey found)
  next =>
    refine Prog.withinTo_run body (fun _ fair => fair) fun failure thrown => ?_
    cases failure with
    | uniqueViolation author => exact Prog.withinTo_transaction body
    | app error => exact thrown
    | idemConflict message author => exact thrown
    | gatewayRefTaken => exact thrown

theorem reply_within {request : Request} {run : KeyProg Outcome}
    (requester : request.userId = some user) (fair : FairProg H user (Fair user) run) :
    FairProg H user (fun _ => True) (reply request run) := by
  refine fair.attempt_bind fun result ended => Prog.withinTo_autocommit (keeps_answer ?_) trivial
  intro author member
  rw [requester]
  cases result with
  | ok outcome => exact congrArg some (ended author member).symm
  | error failure => exact congrArg some (ended author member).symm

end Steps

/-! ### Runs -/

/-- Who may hold a record: it was there at first, or a request with the key was made. -/
def Issued (R : Set Request) (db : KeyDb) (key : String) (author : Uuid) (table : Table) : Prop :=
  (∃ request ∈ R, request.userId = some author ∧ key ∈ request.keys table) ∨
    db.Holds key author table

/-- No record of another user carries a key of the request. -/
def Clear (db : KeyDb) (request : Request) : Prop :=
  ∀ table, ∀ key ∈ request.keys table, ∀ author, db.Holds key author table →
    request.userId = some author

def StartsIn (R : Set Request) (_ : Config Request KeyDb Row Failure) : Event Request → Prop
  | .start request => request ∈ R
  | _ => True

section Runs

variable {R : Set Request} {db : KeyDb}

private theorem sole_of_apart {request : Request} {user : Uuid} {table : Table} {key : String}
    (apart : ∀ r ∈ R, ∀ r' ∈ R, r.userId ≠ r'.userId → Apart r r')
    (clear : ∀ r ∈ R, Clear db r) (started : request ∈ R) (requester : request.userId = some user)
    (mine : key ∈ request.keys table) : Sole (Issued R db) user table key := by
  refine ⟨.inl ⟨request, started, requester, mine⟩, ?_⟩
  rintro author (⟨other, also, theirs, shared⟩ | before)
  · by_contra different
    have users : request.userId ≠ other.userId := by
      rw [requester, theirs]
      exact fun same => different (Option.some.inj same).symm
    exact keys_apart users (apart _ started _ also users) (apart _ also _ started users.symm) mine
      shared
  · have own := clear _ started table key mine author before
    rw [requester] at own
    exact (Option.some.inj own).symm

private theorem handler_within {request : Request}
    (apart : ∀ r ∈ R, ∀ r' ∈ R, r.userId ≠ r'.userId → Apart r r')
    (clear : ∀ r ∈ R, Clear db r) (started : request ∈ R) :
    (handler request).Within (Owned (Issued R db)) fun _ _ => True := by
  have sole : ∀ {user : Uuid} {table : Table} {key : String}, request.userId = some user →
      key ∈ request.keys table → Sole (Issued R db) user table key :=
    fun requester mine => sole_of_apart apart clear started requester mine
  cases request with
  | exchange userId points clientKey env =>
    refine (reply_within rfl (exchangePointsForTradingCoins_fair points ?_ ?_ ?_)).within
    · intro key given
      exact sole rfl (by simp [Request.keys, Option.mem_def.mp given])
    · exact sole rfl (by simp [Request.keys])
    · intro isAgent found
      exact sole rfl (by simp [Request.keys, Option.mem_def.mp found])
  | initiate userId clientKey env =>
    refine (reply_within rfl (initiateTopup_fair env ?_ ?_)).within
    · exact sole rfl (by simp [Request.keys])
    · exact sole rfl (by simp [Request.keys])
  | confirm userId orderId gatewayRef clientKey =>
    refine (reply_within rfl (confirmTopup_fair orderId gatewayRef ?_ ?_)).within
    · exact sole rfl (by simp [Request.keys])
    · exact sole rfl (by simp [Request.keys])
  | transfer userId recipientId points clientKey env =>
    refine (reply_within rfl (transferPointsToAgent_fair recipientId points env ?_ ?_ ?_)).within
    · exact sole rfl (by simp [Request.keys])
    · exact sole rfl (by simp [Request.keys])
    · exact sole rfl (by simp [Request.keys])
  | expire key => exact ⟨keeps_setMarker (by simp), trivial⟩

/-- In every run whose requests by different users are apart from each other and from the records
that were there, idempotency keys are private. -/
theorem keys_private (apart : ∀ r ∈ R, ∀ r' ∈ R, r.userId ≠ r'.userId → Apart r r')
    (clear : ∀ r ∈ R, Clear db r) (unanswered : db.answers = [])
    {c : Config Request KeyDb Row Failure}
    (run : Reaches handler (StartsIn R) (Config.idle db) c) : Private c.db := by
  have base : Owned (Issued R db) db := ⟨fun _ _ _ holds => .inr holds, by simp [unanswered]⟩
  have starts : ∀ c request, StartsIn R c (.start request) →
      (handler request).Within (Owned (Issued R db)) fun _ _ => True :=
    fun _ _ started => handler_within apart clear started
  have owned := (run.within (fun _ => trivial) (fun _ _ _ _ _ => trivial) starts base
    (by simp [Config.idle])).1
  refine ⟨?_, ?_, ?_, ?_⟩
  · exact fun request response author member =>
      owned.answers _ member author (by simp [Outcome.authors])
  · exact fun request transfer member => owned.answers _ member _ (by simp [Outcome.authors])
  · exact fun request failure member => owned.answers _ member
  · exact fun request response rows member row present =>
      owned.answers _ member row.author (List.mem_map.mpr ⟨row, present, rfl⟩)

end Runs

def userA : Uuid := ⟨"5d0c1a7e-0000-4000-8000-000000000001", by decide⟩

def userB : Uuid := ⟨"9f3b2c44-0000-4000-8000-000000000002", by decide⟩

/-- Its id begins like that of the first user. -/
def userC : Uuid := ⟨"5d0c1a7e-0000-4000-8000-000000000003", by decide⟩

def retryKey : ClientKey := ⟨"retry-0001", by decide, by decide⟩

def welcome (userId : Uuid) : Entry :=
  { userId, currencyType := .point, direction := .credit, amount := 20000, balanceAfter := 20000,
    idempotencyKey := "welcome:" ++ userId.text, author := userId }

def newUsers : KeyDb where
  marker := fun _ => none
  ledger
    | .coin => []
    | .point => [welcome userA, welcome userB, welcome userC]
  orders := []
  transfers := []
  answers := []

def exchangeBy (userId : Uuid) : Request :=
  .exchange userId 10000 (some retryKey)
    { isAgent := some false, paused := false, coinsPerUsd := some 9000, drawn := userId,
      pointsFrozen := false, unconfirmedPoints := 0 }

def initiateBy (userId : Uuid) : Request :=
  .initiate userId retryKey
    { package := some ⟨100, 99⟩, orderId := userId, epay := some ⟨userId.text, ""⟩ }

def twoExchanges : Set Request := {exchangeBy userA, exchangeBy userB}

private def startsExchange (_ : Config Request KeyDb Row Failure) : Event Request → Bool
  | .start request => request = exchangeBy userA ∨ request = exchangeBy userB
  | _ => true

private theorem startsExchange_sound (c : Config Request KeyDb Row Failure) (e : Event Request)
    (checked : startsExchange c e = true) : StartsIn twoExchanges c e := by
  cases e with
  | start request =>
    rw [startsExchange, decide_eq_true_eq] at checked
    exact checked
  | advance i => trivial
  | crash i => trivial

/-- Users whose ids begin differently may use the same key for their exchanges. -/
theorem keys_private_exchanges : ∃ c : Config Request KeyDb Row Failure,
    Reaches handler (StartsIn twoExchanges) (Config.idle newUsers) c ∧
      (c.db.ledger .coin).map (·.author) = [userA, userB] ∧ c.db.answers.length = 2 ∧
      Private c.db := by
  have apart : ∀ r ∈ twoExchanges, ∀ r' ∈ twoExchanges, r.userId ≠ r'.userId → Apart r r' := by
    rintro r (rfl | rfl) r' (rfl | rfl) different
    · exact absurd rfl different
    · exact .inl (by decide)
    · exact .inl (by decide)
    · exact absurd rfl different
  have clear : ∀ r ∈ twoExchanges, Clear newUsers r := by
    rintro r (rfl | rfl) table key member author holds
    all_goals
      cases table with
      | ledger table =>
        cases table <;> obtain ⟨entry, present, rfl, rfl⟩ := holds
        · simp [newUsers] at present
        · simp only [newUsers, List.mem_cons, List.not_mem_nil, or_false] at present
          rcases present with rfl | rfl | rfl <;> exact absurd member (by decide)
      | marker => simp [KeyDb.Holds, newUsers] at holds
      | order => simp [KeyDb.Holds, newUsers] at holds
      | transfer => simp [KeyDb.Holds, newUsers] at holds
  obtain ⟨c, run, authors, answers⟩ : ∃ c, Reaches handler _ (Config.idle newUsers) c ∧
      (c.db.ledger .coin).map (·.author) = [userA, userB] ∧ c.db.answers.length = 2 :=
    exists_reaches_checked startsExchange_sound
      [serve (exchangeBy userA) 0 25, serve (exchangeBy userB) 1 25] (by decide +kernel)
  exact ⟨c, run, authors, answers, keys_private apart clear rfl run⟩

/-- A user who picks the key of another user's top-up is given that user's order, and a user whose
id begins like another one's is refused the exchange the other user has made. -/
theorem not_keys_private :
    (∃ c, Reaches handler (fun _ _ => True) (Config.idle newUsers) c ∧
      ∃ response, (initiateBy userB, .stored response userA) ∈ c.db.answers) ∧
    (∃ c, Reaches handler (fun _ _ => True) (Config.idle newUsers) c ∧
      (exchangeBy userC, .refused (.idemConflict duplicateExchange userA)) ∈ c.db.answers) ∧
    ¬ ∀ db c, db.answers = [] → Reaches handler (fun _ _ => True) (Config.idle db) c →
      Private c.db := by
  obtain ⟨c, run, given⟩ : ∃ c, Reaches handler (fun _ _ => True) (Config.idle newUsers) c ∧
      (initiateBy userB, .stored (.initiated userA 100 99 "") userA) ∈ c.db.answers :=
    exists_reaches [serve (initiateBy userA) 0 17, serve (initiateBy userB) 1 3]
      (by decide +kernel)
  obtain ⟨d, run', refused⟩ : ∃ c, Reaches handler (fun _ _ => True) (Config.idle newUsers) c ∧
      (exchangeBy userC, .refused (.idemConflict duplicateExchange userA)) ∈ c.db.answers :=
    exists_reaches [serve (exchangeBy userA) 0 25, serve (exchangeBy userC) 1 11]
      (by decide +kernel)
  refine ⟨⟨c, run, _, given⟩, ⟨d, run', refused⟩, fun claim => ?_⟩
  have same := (claim newUsers c rfl run).responses _ _ _ given
  exact absurd same (by decide)

end OlNode.Idempotency
