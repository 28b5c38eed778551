import OlNode.CustomGift.Operations
import OlNode.Keyed
import OlNode.Ledger.Legs

/-!
# Debits, requests and refunds keep in step

A debit and its request are committed together, and so are a resolution and its refund. The lock on
a ledger key lasts until the commit, so a request is stored only for a debit of its own
transaction; the lock on a request lasts as well, so it is resolved from the pending state only.
What a call is answered follows from what its key had when the call began.
-/
namespace OlNode.CustomGift

open ReadCommitted

/-! ### The invariant -/

structure Debits (request : CustomGiftRequest) (row : CoinLedgerEntry) : Prop where
  key : row.idempotencyKey = request.ledgerEntryId
  wallet : row.wallet = ⟨request.userId, .coin⟩
  direction : row.direction = .debit
  amount : row.amount = request.coinCost

structure Refunds (request : CustomGiftRequest) (row : CoinLedgerEntry) : Prop where
  key : row.idempotencyKey = .customGiftRefund request.id
  wallet : row.wallet = ⟨request.userId, .coin⟩
  direction : row.direction = .credit
  amount : row.amount = request.coinCost

def CustomGiftDb.resolutionOf (db : CustomGiftDb) (requestId : Nat) : Option Resolution :=
  db.resolutions.find? (·.requestId = requestId)

/-- A request with its debit, its resolution and its refund. -/
structure Accounted (db : CustomGiftDb) (request : CustomGiftRequest) : Prop where
  key : ∃ k, request.ledgerEntryId = .customGift request.userId k
  debit : ∃ row ∈ db.money.coinLedger, Debits request row
  status : request.status = ((db.resolutionOf request.id).map (·.status)).getD .pending
  refunded : request.refunded = (db.resolutionOf request.id).any (·.refund)
  refund : request.refunded = true → ∃ row ∈ db.money.coinLedger, Refunds request row

/-- A call is answered with the request of its key, and with nothing else if there was one. -/
structure Answered (db : CustomGiftDb) (answer : CreateAnswer) : Prop where
  own : ∀ id, answer.outcome = .returned id →
    ∃ request ∈ db.requests, request.id = id ∧ request.ledgerEntryId = answer.key
  replayed : ∀ id, answer.before = some id → answer.fromClient = true → answer.enabled = true →
    answer.outcome = .returned id ∨ answer.outcome = .refused .serializationAbort

structure Lawful (db : CustomGiftDb) : Prop where
  keys : (db.money.coinLedger.map (·.idempotencyKey)).Nodup
  ids : (db.requests.map (·.id)).Nodup
  entries : (db.requests.map (·.ledgerEntryId)).Nodup
  accounted : ∀ request ∈ db.requests, Accounted db request
  debits : ∀ row ∈ db.money.coinLedger, ∀ userId key, row.idempotencyKey = .customGift userId key →
    ∃ request ∈ db.requests, request.ledgerEntryId = row.idempotencyKey
  refunds : ∀ row ∈ db.money.coinLedger, ∀ id, row.idempotencyKey = .customGiftRefund id →
    ∃ request ∈ db.requests, request.id = id ∧ request.refunded = true
  resolved : (db.resolutions.map (·.requestId)).Nodup
  known : ∀ resolution ∈ db.resolutions, ∃ request ∈ db.requests,
    request.id = resolution.requestId
  ended : ∀ resolution ∈ db.resolutions, resolution.status ≠ .pending ∧
    (resolution.refund = true → resolution.status = .failed)
  pending : ∀ request ∈ db.requests, ∀ other ∈ db.requests, request.status = .pending →
    other.status = .pending → request.userId = other.userId → request = other
  answered : ∀ answer ∈ db.answers, Answered db answer

structure SameRequest (request later : CustomGiftRequest) : Prop where
  id : later.id = request.id
  userId : later.userId = request.userId
  coinCost : later.coinCost = request.coinCost
  ledgerEntryId : later.ledgerEntryId = request.ledgerEntryId

def Grows (s t : CustomGiftDb) : Prop :=
  ∀ request ∈ s.requests, ∃ later ∈ t.requests, SameRequest request later

theorem Grows.refl (s : CustomGiftDb) : Grows s s :=
  fun request member => ⟨request, member, rfl, rfl, rfl, rfl⟩

theorem Grows.trans {s t u : CustomGiftDb} (first : Grows s t) (second : Grows t u) :
    Grows s u := by
  intro request member
  obtain ⟨later, inside, same⟩ := first request member
  obtain ⟨last, present, again⟩ := second later inside
  exact ⟨last, present, again.id.trans same.id, again.userId.trans same.userId,
    again.coinCost.trans same.coinCost, again.ledgerEntryId.trans same.ledgerEntryId⟩

/-! ### What the writes do -/

section Writes

variable {db db' : CustomGiftDb} {request : CustomGiftRequest}

private theorem Answered.later {answer : CreateAnswer} (answered : Answered db answer)
    (grows : Grows db db') : Answered db' answer := by
  refine ⟨fun id returned => ?_, answered.replayed⟩
  obtain ⟨request, member, own, key⟩ := answered.own id returned
  obtain ⟨later, inside, same⟩ := grows request member
  exact ⟨later, inside, same.id.trans own, same.ledgerEntryId.trans key⟩

private theorem mem_findById {id : Nat} (found : db.findById id = some request) :
    request ∈ db.requests ∧ request.id = id :=
  ⟨List.mem_of_find?_eq_some found, by simpa using List.find?_some found⟩

private theorem mem_findByLedgerEntryId {key : LedgerKey}
    (found : db.findByLedgerEntryId key = some request) :
    request ∈ db.requests ∧ request.ledgerEntryId = key :=
  ⟨List.mem_of_find?_eq_some found, by simpa using List.find?_some found⟩

private theorem findById_eq_none {id : Nat} :
    db.findById id = none ↔ ∀ request ∈ db.requests, request.id ≠ id := by
  simp [CustomGiftDb.findById]

private theorem findByLedgerEntryId_eq_none {key : LedgerKey} :
    db.findByLedgerEntryId key = none ↔ ∀ request ∈ db.requests, request.ledgerEntryId ≠ key := by
  simp [CustomGiftDb.findByLedgerEntryId]

private theorem findPendingByUserId_eq_none {userId : UserId} :
    db.findPendingByUserId userId = none ↔
      ∀ request ∈ db.requests, request.userId = userId → request.status ≠ .pending := by
  simp [CustomGiftDb.findPendingByUserId]

private theorem Lawful.findByLedgerEntryId_of_mem (lawful : Lawful db)
    (member : request ∈ db.requests) :
    db.findByLedgerEntryId request.ledgerEntryId = some request :=
  Keyed.find?_of_mem lawful.entries member

private theorem Lawful.requested (lawful : Lawful db) {userId : UserId} {k : Nat}
    (charged : findByKey db.money.coinLedger (.customGift userId k) ≠ none) :
    ∃ request ∈ db.requests, request.ledgerEntryId = .customGift userId k := by
  obtain ⟨row, found⟩ := Option.ne_none_iff_exists'.mp charged
  have keyIs : row.idempotencyKey = .customGift userId k := by simpa using List.find?_some found
  obtain ⟨request, member, own⟩ :=
    lawful.debits row (List.mem_of_find?_eq_some found) userId k keyIs
  exact ⟨request, member, own.trans keyIs⟩

private theorem Lawful.charged (lawful : Lawful db) (member : request ∈ db.requests) :
    findByKey db.money.coinLedger request.ledgerEntryId ≠ none := by
  obtain ⟨row, inside, debits⟩ := (lawful.accounted request member).debit
  intro absent
  exact (findByKey_eq_none _).mp absent row inside debits.key

private theorem Lawful.unresolved (lawful : Lawful db) (member : request ∈ db.requests)
    (isPending : request.status = .pending) :
    db.resolutionOf request.id = none ∧ request.refunded = false := by
  have accounted := lawful.accounted request member
  have none : db.resolutionOf request.id = none := by
    cases found : db.resolutionOf request.id with
    | none => rfl
    | some resolution =>
      have inside := List.mem_of_find?_eq_some found
      have status := accounted.status
      rw [found, isPending] at status
      exact absurd status.symm (lawful.ended resolution inside).1
  have refunded := accounted.refunded
  rw [none] at refunded
  exact ⟨none, refunded⟩

private theorem create_lawful (lawful : Lawful db) {row : CoinLedgerEntry}
    (ledger : db'.money.coinLedger = db.money.coinLedger ++ [row])
    (requests : db'.requests = db.requests ++ [request])
    (resolutions : db'.resolutions = db.resolutions) (answers : db'.answers = db.answers)
    (key : ∃ k, request.ledgerEntryId = .customGift request.userId k)
    (unused : findByKey db.money.coinLedger request.ledgerEntryId = none)
    (fresh : db.findById request.id = none)
    (alone : db.findPendingByUserId request.userId = none) (debits : Debits request row)
    (status : request.status = .pending) (refunded : request.refunded = false) :
    Lawful db' ∧ Grows db db' := by
  have newId := findById_eq_none.mp fresh
  have newEntry : ∀ other ∈ db.requests, other.ledgerEntryId ≠ request.ledgerEntryId :=
    fun other member same => lawful.charged member (same ▸ unused)
  have unresolved : db.resolutionOf request.id = none := by
    rw [CustomGiftDb.resolutionOf, List.find?_eq_none]
    intro resolution inside own
    obtain ⟨other, member, same⟩ := lawful.known resolution inside
    exact newId other member (same.trans (of_decide_eq_true own))
  have resolution : ∀ id, db'.resolutionOf id = db.resolutionOf id := by
    intro id
    rw [CustomGiftDb.resolutionOf, resolutions]
    rfl
  have grows : Grows db db' := by
    intro other member
    exact ⟨other, requests ▸ List.mem_append_left _ member, rfl, rfl, rfl, rfl⟩
  have stored : ∀ other ∈ db'.requests, other ∈ db.requests ∨ other = request := by
    intro other member
    rw [requests] at member
    exact (List.mem_append.mp member).imp_right List.mem_singleton.mp
  have posted : ∀ other ∈ db'.money.coinLedger, other ∈ db.money.coinLedger ∨ other = row := by
    intro other member
    rw [ledger] at member
    exact (List.mem_append.mp member).imp_right List.mem_singleton.mp
  refine ⟨⟨?_, ?_, ?_, ?_, ?_, ?_, resolutions ▸ lawful.resolved, ?_, resolutions ▸ lawful.ended,
    ?_, ?_⟩, grows⟩
  · rw [ledger]
    refine Keyed.nodup_append lawful.keys fun other inside same => ?_
    exact (findByKey_eq_none _).mp unused other inside (same.trans debits.key)
  · rw [requests]
    exact Keyed.nodup_append lawful.ids newId
  · rw [requests]
    exact Keyed.nodup_append lawful.entries newEntry
  · intro other member
    rcases stored other member with old | rfl
    · obtain ⟨own, ⟨entry, inside, debit⟩, status, refunded, refund⟩ := lawful.accounted other old
      refine ⟨own, ⟨entry, ledger ▸ List.mem_append_left _ inside, debit⟩, resolution _ ▸ status,
        resolution _ ▸ refunded, fun isRefunded => ?_⟩
      obtain ⟨credit, present, refunds⟩ := refund isRefunded
      exact ⟨credit, ledger ▸ List.mem_append_left _ present, refunds⟩
    · refine ⟨key, ⟨row, ledger ▸ List.mem_append_right _ (List.mem_singleton.mpr rfl), debits⟩,
        ?_, ?_, fun isRefunded => ?_⟩
      · rw [resolution, unresolved, status]
        rfl
      · rw [resolution, unresolved, refunded]
        rfl
      · rw [refunded] at isRefunded
        cases isRefunded
  · intro other member userId k keyIs
    rcases posted other member with old | rfl
    · obtain ⟨owner, inside, same⟩ := lawful.debits other old userId k keyIs
      exact ⟨owner, requests ▸ List.mem_append_left _ inside, same⟩
    · exact ⟨request, requests ▸ List.mem_append_right _ (List.mem_singleton.mpr rfl),
        debits.key.symm⟩
  · intro other member id keyIs
    rcases posted other member with old | rfl
    · obtain ⟨owner, inside, same⟩ := lawful.refunds other old id keyIs
      exact ⟨owner, requests ▸ List.mem_append_left _ inside, same⟩
    · -- a debit has another key than a refund
      obtain ⟨k, own⟩ := key
      rw [debits.key, own] at keyIs
      cases keyIs
  · intro other inside
    rw [resolutions] at inside
    obtain ⟨owner, member, same⟩ := lawful.known other inside
    exact ⟨owner, requests ▸ List.mem_append_left _ member, same⟩
  · have noOther := findPendingByUserId_eq_none.mp alone
    intro first member second also isPending isPendingToo same
    rcases stored first member with old | rfl
    · rcases stored second also with oldToo | rfl
      · exact lawful.pending first old second oldToo isPending isPendingToo same
      · exact absurd isPending (noOther first old same)
    · rcases stored second also with oldToo | rfl
      · exact absurd isPendingToo (noOther second oldToo same.symm)
      · rfl
  · intro answer member
    rw [answers] at member
    exact (lawful.answered answer member).later grows

/-- The write of a resolution, to the row of a request. -/
structure Resolves (request : CustomGiftRequest) (resolution : Resolution)
    (change : CustomGiftRequest → CustomGiftRequest) : Prop where
  own : resolution.requestId = request.id
  ended : resolution.status ≠ .pending ∧ (resolution.refund = true → resolution.status = .failed)
  same : ∀ other, SameRequest other (change other)
  status : (change request).status = resolution.status
  refunded : (change request).refunded = resolution.refund

private theorem resolutionOf_append {resolution : Resolution}
    (unresolved : db.resolutionOf resolution.requestId = none)
    (resolutions : db'.resolutions = db.resolutions ++ [resolution]) (id : Nat) :
    db'.resolutionOf id =
      if resolution.requestId = id then some resolution else db.resolutionOf id := by
  rw [CustomGiftDb.resolutionOf, resolutions, List.find?_append]
  by_cases own : resolution.requestId = id
  · subst own
    rw [CustomGiftDb.resolutionOf] at unresolved
    simp [unresolved]
  · simp [own, CustomGiftDb.resolutionOf]

private theorem resolve_lawful (lawful : Lawful db) (member : request ∈ db.requests)
    (isPending : request.status = .pending) {resolution : Resolution}
    {change : CustomGiftRequest → CustomGiftRequest} {rows : List CoinLedgerEntry}
    (resolves : Resolves request resolution change)
    (ledger : db'.money.coinLedger = db.money.coinLedger ++ rows)
    (requests : db'.requests =
      db.requests.map fun other => if other.id = request.id then change other else other)
    (resolutions : db'.resolutions = db.resolutions ++ [resolution])
    (answers : db'.answers = db.answers)
    (refund : (resolution.refund = false ∧ rows = []) ∨
      (resolution.refund = true ∧ ∃ row, rows = [row] ∧ Refunds request row)) :
    Lawful db' ∧ Grows db db' := by
  obtain ⟨own, ended, kept, status, refunded⟩ := resolves
  have same := kept request
  have was := lawful.accounted request member
  obtain ⟨unresolved, notRefunded⟩ := lawful.unresolved member isPending
  have resolution_eq := resolutionOf_append (own ▸ unresolved) resolutions
  have only : ∀ other ∈ db.requests, other.id = request.id → other = request :=
    fun other inside equal => List.inj_on_of_nodup_map lawful.ids inside member equal
  -- every row is an old one of another id, or the changed one
  have stored : ∀ later ∈ db'.requests,
      (later ∈ db.requests ∧ later.id ≠ request.id) ∨ later = change request := by
    intro later inside
    rw [requests] at inside
    obtain ⟨old, present, rfl⟩ := List.mem_map.mp inside
    split
    next equal => exact .inr (by rw [only old present equal])
    next different => exact .inl ⟨present, different⟩
  have changed : change request ∈ db'.requests := by
    rw [requests]
    exact List.mem_map.mpr ⟨request, member, if_pos rfl⟩
  have others : ∀ other ∈ db.requests, other.id ≠ request.id → other ∈ db'.requests := by
    intro other inside different
    rw [requests]
    exact List.mem_map.mpr ⟨other, inside, if_neg different⟩
  have grows : Grows db db' := by
    intro other inside
    by_cases equal : other.id = request.id
    · rw [only other inside equal]
      exact ⟨change request, changed, same⟩
    · exact ⟨other, others other inside equal, rfl, rfl, rfl, rfl⟩
  have posted : ∀ row ∈ db.money.coinLedger, row ∈ db'.money.coinLedger :=
    fun row inside => ledger ▸ List.mem_append_left _ inside
  have keys : ∀ {β : Type} (field : CustomGiftRequest → β), field (change request) = field request →
      db'.requests.map field = db.requests.map field := by
    intro β field kept
    rw [requests, List.map_map]
    refine List.map_congr_left fun other inside => ?_
    dsimp only [Function.comp]
    split
    next equal => rw [only other inside equal, kept]
    next => rfl
  refine ⟨⟨?_, ?_, ?_, ?_, ?_, ?_, ?_, ?_, ?_, ?_, ?_⟩, grows⟩
  · rw [ledger]
    rcases refund with ⟨_, rfl⟩ | ⟨_, row, rfl, refunds⟩
    · rw [List.append_nil]
      exact lawful.keys
    · refine Keyed.nodup_append lawful.keys fun other inside equal => ?_
      obtain ⟨owner, present, id, isRefunded⟩ :=
        lawful.refunds other inside request.id (equal.trans refunds.key)
      rw [only owner present id, notRefunded] at isRefunded
      cases isRefunded
  · rw [keys _ same.id]
    exact lawful.ids
  · rw [keys _ same.ledgerEntryId]
    exact lawful.entries
  · intro later inside
    rcases stored later inside with ⟨old, different⟩ | rfl
    · obtain ⟨key, ⟨row, charged, debits⟩, wasStatus, wasRefunded, credit⟩ :=
        lawful.accounted later old
      have untouched : db'.resolutionOf later.id = db.resolutionOf later.id := by
        rw [resolution_eq, if_neg (own ▸ different.symm)]
      refine ⟨key, ⟨row, posted row charged, debits⟩, untouched ▸ wasStatus,
        untouched ▸ wasRefunded, fun isRefunded => ?_⟩
      obtain ⟨row, present, refunds⟩ := credit isRefunded
      exact ⟨row, posted row present, refunds⟩
    · have resolved : db'.resolutionOf (change request).id = some resolution := by
        rw [resolution_eq, if_pos (own.trans same.id.symm)]
      obtain ⟨k, key⟩ := was.key
      obtain ⟨row, charged, debits⟩ := was.debit
      refine ⟨⟨k, by rw [same.ledgerEntryId, key, same.userId]⟩, ⟨row, posted row charged, ?_⟩, ?_,
        ?_, fun isRefunded => ?_⟩
      · exact ⟨debits.key.trans same.ledgerEntryId.symm, by rw [debits.wallet, same.userId],
          debits.direction, debits.amount.trans same.coinCost.symm⟩
      · rw [resolved, status]
        rfl
      · rw [resolved, refunded]
        rfl
      · rw [refunded] at isRefunded
        rcases refund with ⟨no, _⟩ | ⟨_, row, rfl, refunds⟩
        · rw [no] at isRefunded
          cases isRefunded
        · exact ⟨row, ledger ▸ List.mem_append_right _ (List.mem_singleton.mpr rfl),
            by rw [refunds.key, same.id], by rw [refunds.wallet, same.userId], refunds.direction,
            refunds.amount.trans same.coinCost.symm⟩
  · intro row inside userId k keyIs
    rw [ledger] at inside
    rcases List.mem_append.mp inside with old | isNew
    · obtain ⟨owner, present, entry⟩ := lawful.debits row old userId k keyIs
      obtain ⟨later, stays, kept⟩ := grows owner present
      exact ⟨later, stays, kept.ledgerEntryId.trans entry⟩
    · -- a refund has another key than a debit
      rcases refund with ⟨_, rfl⟩ | ⟨_, credit, rfl, refunds⟩
      · cases isNew
      · rw [List.mem_singleton.mp isNew, refunds.key] at keyIs
        cases keyIs
  · intro row inside id keyIs
    rw [ledger] at inside
    rcases List.mem_append.mp inside with old | isNew
    · obtain ⟨owner, present, ownId, isRefunded⟩ := lawful.refunds row old id keyIs
      have different : owner.id ≠ request.id := by
        intro equal
        rw [only owner present equal, notRefunded] at isRefunded
        cases isRefunded
      exact ⟨owner, others owner present different, ownId, isRefunded⟩
    · rcases refund with ⟨_, rfl⟩ | ⟨yes, credit, rfl, refunds⟩
      · cases isNew
      · rw [List.mem_singleton.mp isNew, refunds.key] at keyIs
        obtain rfl := LedgerKey.customGiftRefund.inj keyIs
        exact ⟨change request, changed, same.id, refunded.trans yes⟩
  · rw [resolutions]
    refine Keyed.nodup_append lawful.resolved fun other inside equal => ?_
    rw [CustomGiftDb.resolutionOf, List.find?_eq_none] at unresolved
    exact unresolved other inside (by simp [equal, own])
  · intro other inside
    rw [resolutions] at inside
    rcases List.mem_append.mp inside with old | isNew
    · obtain ⟨owner, present, equal⟩ := lawful.known other old
      obtain ⟨later, stays, kept⟩ := grows owner present
      exact ⟨later, stays, kept.id.trans equal⟩
    · rw [List.mem_singleton.mp isNew]
      exact ⟨change request, changed, same.id.trans own.symm⟩
  · intro other inside
    rw [resolutions] at inside
    rcases List.mem_append.mp inside with old | isNew
    · exact lawful.ended other old
    · rw [List.mem_singleton.mp isNew]
      exact ended
  · intro first inside second also firstPending secondPending user
    have noLonger : (change request).status ≠ .pending := status ▸ ended.1
    rcases stored first inside with ⟨old, _⟩ | rfl
    · rcases stored second also with ⟨oldToo, _⟩ | rfl
      · exact lawful.pending first old second oldToo firstPending secondPending user
      · exact absurd secondPending noLonger
    · exact absurd firstPending noLonger
  · intro answer inside
    rw [answers] at inside
    exact (lawful.answered answer inside).later grows

private theorem Lawful.of_eq (lawful : Lawful db) (money : db'.money = db.money)
    (requests : db'.requests = db.requests) (resolutions : db'.resolutions = db.resolutions)
    (answered : ∀ answer ∈ db'.answers, Answered db answer) : Lawful db' := by
  obtain ⟨money', config', requests', resolutions', answers'⟩ := db'
  obtain rfl : money' = db.money := money
  obtain rfl : requests' = db.requests := requests
  obtain rfl : resolutions' = db.resolutions := resolutions
  refine ⟨lawful.keys, lawful.ids, lawful.entries, fun request member => ?_, lawful.debits,
    lawful.refunds, lawful.resolved, lawful.known, lawful.ended, lawful.pending,
    fun answer member => (answered answer member).later (.refl db)⟩
  obtain ⟨key, debit, status, refunded, refund⟩ := lawful.accounted request member
  exact ⟨key, debit, status, refunded, refund⟩

private theorem answer_lawful (lawful : Lawful db) {answer : CreateAnswer}
    (answered : Answered db answer) : Lawful { db with answers := db.answers ++ [answer] } := by
  refine lawful.of_eq rfl rfl rfl fun other member => ?_
  rcases List.mem_append.mp member with old | isNew
  · exact lawful.answered other old
  · rw [List.mem_singleton.mp isNew]
    exact answered

end Writes

/-! ### Runs -/

/-- What the locks protect: the balance of a wallet, the absence of a ledger key, the row of a
request, and that an entry has no request and a user no pending one. -/
def customGiftAgreement : Agreement Request CustomGiftDb Lock where
  inv := Lawful
  grows := Grows
  same
    | .wallet wallet, s, t =>
      latestBalance s.money.coinLedger wallet = latestBalance t.money.coinLedger wallet
    | .coinKey key, s, t =>
      findByKey s.money.coinLedger key = none ↔ findByKey t.money.coinLedger key = none
    | .customGiftRequest id, s, t => s.findById id = t.findById id
    | .customGiftEntry key, s, t =>
      s.findByLedgerEntryId key = none → t.findByLedgerEntryId key = none
    | .customGiftPending userId, s, t =>
      s.findPendingByUserId userId = none → t.findPendingByUserId userId = none
    | _, _, _ => True
  step _ _ _ := True
  allows _ _ _ := True
  grows_refl := .refl
  grows_trans _ _ _ := .trans
  same_refl lock s := by
    cases lock with
    | wallet | customGiftRequest => rfl
    | coinKey => exact Iff.rfl
    | customGiftEntry | customGiftPending => exact fun absent => absent
    | _ => trivial
  same_trans lock s t u := by
    cases lock with
    | wallet | customGiftRequest => exact Eq.trans
    | coinKey => exact Iff.trans
    | customGiftEntry | customGiftPending => exact fun first second absent => second (first absent)
    | _ => exact fun _ _ => trivial

private theorem customGift_books :
    Books customGiftAgreement CustomGiftDb.money CustomGiftDb.setMoney where
  get_set _ _ := rfl
  wallet _ _ _ same := same
  coinKey _ _ _ same := same

section Runs

variable {request : Request} {s : CustomGiftDb}

private theorem autocommit_relies {lock : Lock} {f : CustomGiftDb → CustomGiftDb}
    (kept : ∀ u, Grows s u → Lawful u → Lawful (f u))
    (ledger : ∀ u, (f u).money = u.money) (requests : ∀ u, (f u).requests = u.requests) :
    (Prog.autocommit lock f : CustomGiftProg Unit).Abides customGiftAgreement request s := by
  refine Prog.relies_autocommit fun t rely _ u further _ => ?_
  refine ⟨⟨kept u (rely.grows.trans further.grows) further.inv, fun other member =>
    ⟨other, requests u ▸ member, rfl, rfl, rfl, rfl⟩, fun other _ => ?_, trivial⟩, trivial⟩
  cases other with
  | wallet | coinKey => simp [customGiftAgreement, ledger]
  | customGiftRequest => simp [customGiftAgreement, CustomGiftDb.findById, requests]
  | customGiftEntry => simp [customGiftAgreement, CustomGiftDb.findByLedgerEntryId, requests]
  | customGiftPending => simp [customGiftAgreement, CustomGiftDb.findPendingByUserId, requests]
  | _ => trivial

/-! ### A call of `createRequest` -/

/-- The request of the key, if there was one when the call began, is there now. -/
private def Known (before : Option CustomGiftRequest) (key : LedgerKey) (t : CustomGiftDb) :
    Prop :=
  ∀ prior, before = some prior →
    ∃ request ∈ t.requests, request.id = prior.id ∧ request.ledgerEntryId = key

private theorem Known.later {before : Option CustomGiftRequest} {key : LedgerKey}
    {t : CustomGiftDb} (known : Known before key s) (grows : Grows s t) : Known before key t := by
  intro prior isPrior
  obtain ⟨request, member, id, entry⟩ := known prior isPrior
  obtain ⟨later, inside, same⟩ := grows request member
  exact ⟨later, inside, same.id.trans id, same.ledgerEntryId.trans entry⟩

variable {params : CreateParams} {before : Option CustomGiftRequest}

private def Ends (params : CreateParams) (before : Option CustomGiftRequest) :
    Except LedgerError CustomGiftRequest → CustomGiftDb → Prop
  | .ok request, t =>
    ∃ stored ∈ t.requests, stored.id = request.id ∧ stored.ledgerEntryId = params.key
  | .error error, _ => before.isSome → params.idempotencyKey.isSome → error = .serializationAbort

/-- What an attempt has to answer for when it commits. -/
private abbrev Settles (request : Request) (params : CreateParams)
    (before : Option CustomGiftRequest) (returned : CustomGiftRequest) (held : Set Lock)
    (w : CustomGiftDb → CustomGiftDb) (s : CustomGiftDb) : Prop :=
  customGiftAgreement.Commits request (Ends params before (.ok returned)) held w s

private theorem settles_found {found : CustomGiftRequest} (member : found ∈ s.requests)
    (key : found.ledgerEntryId = params.key) (held : Set Lock) :
    Settles request params before found held id s := by
  intro t rely _
  obtain ⟨later, inside, same⟩ := rely.grows found member
  refine ⟨⟨rely.inv, .refl t, fun lock _ => customGiftAgreement.same_refl lock t, trivial⟩, ?_⟩
  exact ⟨later, inside, same.id, same.ledgerEntryId.trans key⟩

private theorem insertRequest_relies {new : CustomGiftRequest} {row : CoinLedgerEntry}
    {f : CustomGiftDb → CustomGiftDb} {held : Set Lock}
    (inserts : Inserts CustomGiftDb.money CustomGiftDb.setMoney row f)
    (wallet : .wallet ⟨new.userId, .coin⟩ ∈ held) (key : .coinKey new.ledgerEntryId ∈ held)
    (unused : findByKey s.money.coinLedger new.ledgerEntryId = none)
    (keyed : ∃ k, new.ledgerEntryId = .customGift new.userId k) (debits : Debits new row)
    (status : new.status = .pending) (refunded : new.refunded = false)
    (own : new.ledgerEntryId = params.key)
    (first : before.isSome → params.idempotencyKey.isSome → False) :
    (insertRequest new).Relies customGiftAgreement request (Settles request params before)
      (fun error t => Ends params before (.error error) t) held f s := by
  -- the debit is in the ledger only
  have requests : ∀ db, (f db).requests = db.requests ∧ (f db).resolutions = db.resolutions ∧
      (f db).answers = db.answers := by
    intro db
    obtain ⟨money, written, _⟩ := inserts db
    rw [written]
    exact ⟨rfl, rfl, rfl⟩
  have refused : ∀ error t, Ends params before (.error error) t :=
    fun error t was fromClient => (first was fromClient).elim
  refine Tx.relies_lockRow fun t₁ rely₁ _ => Tx.relies_select fun t₂ rely₂ =>
    Tx.relies_ensure_bind (fun _ => refused _ _) fun freshThen => ?_
  refine Tx.relies_lockRow fun t₃ rely₃ _ => Tx.relies_select fun t₄ rely₄ =>
    Tx.relies_ensure_bind (fun _ => refused _ _) fun _ => ?_
  refine Tx.relies_lockRow fun t₅ rely₅ _ => Tx.relies_select fun t₆ rely₆ =>
    Tx.relies_ensure_bind (fun _ => refused _ _) fun aloneThen => ?_
  refine Tx.relies_update fun t₇ rely₇ _ => Tx.relies_pure ?_
  intro t rely _
  -- what was found is in force at the commit, under the locks
  have tail₇ := rely₇.trans (rely.mono (Set.subset_insert _ _))
  have tail₅ := rely₅.trans ((rely₆.trans tail₇).mono (Set.subset_insert _ _))
  have tail₃ := rely₃.trans ((rely₄.trans tail₅).mono (Set.subset_insert _ _))
  have all := rely₁.trans ((rely₂.trans tail₃).mono (Set.subset_insert _ _))
  have fresh : t.findById new.id = none := by
    have same : t₂.findById new.id = t.findById new.id :=
      tail₃.same (.customGiftRequest new.id) (Set.mem_insert _ _)
    rw [← same]
    rw [Option.isNone_iff_eq_none, CustomGiftDb.findById, (requests t₂).1] at freshThen
    exact freshThen
  have alone : t.findPendingByUserId new.userId = none := by
    refine tail₇.same (.customGiftPending new.userId) (Set.mem_insert _ _) ?_
    rw [Option.isNone_iff_eq_none, CustomGiftDb.findPendingByUserId, (requests t₆).1] at aloneThen
    exact aloneThen
  have unusedNow : findByKey t.money.coinLedger new.ledgerEntryId = none :=
    (all.same (.coinKey new.ledgerEntryId) key).mp unused
  obtain ⟨money, written, ledger⟩ := inserts t
  have result : (f t).addRequest new =
      { t with money, requests := t.requests ++ [new] } := by
    rw [written]
    rfl
  have posted : ((f t).addRequest new).money.coinLedger = t.money.coinLedger ++ [row] :=
    result ▸ ledger
  obtain ⟨lawful, grows⟩ := create_lawful all.inv posted (result ▸ rfl) (result ▸ rfl)
    (result ▸ rfl) keyed unusedNow fresh alone debits status refunded
  refine ⟨⟨lawful, grows, fun lock apart => ?_, trivial⟩, new, ?_, rfl, own⟩
  · change customGiftAgreement.same lock t ((f t).addRequest new)
    rw [result]
    have outside : lock ∉ held := fun inside => apart (.inr (.inr (.inr (.inr inside))))
    cases lock with
    | wallet other =>
      have different : row.wallet ≠ other := by
        rintro rfl
        exact outside (debits.wallet ▸ wallet)
      change latestBalance t.money.coinLedger other = latestBalance money.coinLedger other
      rw [ledger, latestBalance_append_other different]
    | coinKey other =>
      have different : row.idempotencyKey ≠ other := by
        rintro rfl
        exact outside (debits.key ▸ key)
      change findByKey t.money.coinLedger other = none ↔ findByKey money.coinLedger other = none
      simp [ledger, findByKey_eq_none, or_imp, forall_and, different]
    | customGiftRequest other =>
      have different : new.id ≠ other := by
        rintro rfl
        exact apart (Set.mem_insert _ _)
      simp [customGiftAgreement, CustomGiftDb.findById, different]
    | customGiftEntry other =>
      have different : new.ledgerEntryId ≠ other := by
        rintro rfl
        exact apart (.inr (.inr (Set.mem_insert _ _)))
      intro absent
      rw [findByLedgerEntryId_eq_none] at absent ⊢
      simpa [or_imp, forall_and, different] using absent
    | customGiftPending other =>
      have different : new.userId ≠ other := by
        rintro rfl
        exact apart (.inr (Set.mem_insert _ _))
      intro absent
      rw [findPendingByUserId_eq_none] at absent ⊢
      simpa [or_imp, forall_and, different] using absent
    | _ => trivial
  · change new ∈ ((f t).addRequest new).requests
    rw [result]
    exact List.mem_append_right _ (List.mem_singleton.mpr rfl)

variable {coinCost : Int} {validityDays : Nat}

private theorem chargeRequest_relies
    (first : before.isSome → params.idempotencyKey.isSome → False) :
    (chargeRequest params coinCost validityDays).Relies customGiftAgreement request
      (Settles request params before) (fun error t => Ends params before (.error error) t) ∅ id
      s := by
  have refused : ∀ error t, Ends params before (.error error) t :=
    fun error t was fromClient => (first was fromClient).elim
  refine Tx.relies_select fun t rely =>
    Tx.relies_ensure_bind (fun _ => refused _ _) fun _ => ?_
  have nothing : Appends CustomGiftDb.money id [] := fun u => (List.append_nil _).symm
  refine Tx.Relies.bind (customGift_books.debitWealth_relies (fun _ _ _ => rfl) rely.inv nothing
    rfl ?_ ?_ fun error u _ _ => refused error u)
  · -- the key has been charged before, so there is its request
    intro u row charging found
    refine Tx.relies_select fun v reading => ?_
    obtain ⟨stored, member, entry⟩ := charging.inv.requested (found ▸ Option.some_ne_none row)
    obtain ⟨later, inside, same⟩ := reading.grows stored member
    have isKey : later.ledgerEntryId = params.key := same.ledgerEntryId.trans entry
    have lookup : v.findByLedgerEntryId params.key = some later :=
      isKey ▸ reading.inv.findByLedgerEntryId_of_mem inside
    dsimp only [id]
    rw [lookup]
    exact Tx.relies_pure (settles_found inside isKey _)
  · intro u held row _ wallet key charging unused fits f inserts
    refine Tx.relies_select fun v reading => ?_
    have unusedNow : findByKey v.money.coinLedger params.key = none :=
      (reading.same (.coinKey params.key) key).mp unused
    have lookup : ((f ∘ id) v).findByLedgerEntryId params.key = none := by
      obtain ⟨money, written, _⟩ := inserts v
      change (f v).findByLedgerEntryId params.key = none
      rw [written]
      refine findByLedgerEntryId_eq_none.mpr fun stored member same => ?_
      exact reading.inv.charged member (same ▸ unusedNow)
    dsimp only
    rw [lookup]
    exact insertRequest_relies inserts wallet key unusedNow ⟨_, rfl⟩
      ⟨fits.key, fits.wallet, fits.direction, fits.amount⟩ rfl rfl rfl first

private theorem runTransaction_relies (known : Known before params.key s) :
    (runTransaction params coinCost validityDays).Relies customGiftAgreement request
      (Settles request params before) (fun error t => Ends params before (.error error) t) ∅ id
      s := by
  refine Tx.Relies.bind ?_
  unfold findPrior
  split
  next noKey =>
    refine Tx.relies_pure (chargeRequest_relies fun _ fromClient => ?_)
    rw [noKey] at fromClient
    cases fromClient
  next =>
    refine Tx.relies_select fun t rely => ?_
    dsimp only [id]
    cases found : findByKey t.money.coinLedger params.key with
    | none =>
      -- no prior request: it would have been charged
      refine Tx.relies_pure (chargeRequest_relies fun was _ => ?_)
      obtain ⟨prior, isPrior⟩ := Option.isSome_iff_exists.mp was
      obtain ⟨stored, member, _, entry⟩ := known.later rely.grows prior isPrior
      exact rely.inv.charged member (entry ▸ found)
    | some row =>
      have keyIs : row.idempotencyKey = params.key := by simpa using List.find?_some found
      obtain ⟨stored, member, entry⟩ := rely.inv.requested (found ▸ Option.some_ne_none row)
      refine Tx.relies_select fun u reading => ?_
      obtain ⟨later, inside, same⟩ := reading.grows stored member
      have isKey : later.ledgerEntryId = params.key := same.ledgerEntryId.trans entry
      have lookup : u.findByLedgerEntryId row.idempotencyKey = some later := by
        rw [keyIs, ← isKey]
        exact reading.inv.findByLedgerEntryId_of_mem inside
      rw [id, lookup]
      exact Tx.relies_pure (Tx.relies_pure (settles_found inside isKey _))

private abbrev Ended (params : CreateParams) (before : Option CustomGiftRequest)
    (outcome : Except LedgerError CustomGiftRequest) (t : CustomGiftDb) : Prop :=
  Lawful t ∧ Ends params before outcome t

private theorem attempts_relies (inv : Lawful s) (known : Known before params.key s)
    (maxAttempts : Nat) (aborts : List Nat) :
    (withSerializationRetry (runTransaction params coinCost validityDays) maxAttempts
      aborts).Relies customGiftAgreement request (Ended params before) ∅ id s := by
  refine withSerializationRetry_relies (Known before params.key)
    (fun _ _ rely known => known.later rely.grows) (fun t inv known => ?_) inv known _ _
    fun _ t inv _ => ⟨inv, fun _ _ => rfl⟩
  refine ((runTransaction_relies known).since inv).imp (fun returned held w u settles v rely
    allowed => ?_) fun error u thrown => ⟨thrown.1.inv, thrown.2⟩
  obtain ⟨keeps, ends⟩ := settles v rely allowed
  exact ⟨keeps, keeps.inv, ends⟩

private theorem settleRequest_relies (inv : Lawful s) (known : Known before params.key s) :
    (settleRequest params coinCost validityDays).Relies customGiftAgreement request
      (Ended params before) ∅ id s := by
  refine (attempts_relies inv known 3 params.aborts).grown.attempt_bind fun outcome t ended => ?_
  obtain ⟨grows, lawful, ends⟩ := ended
  cases outcome with
  | ok returned => exact Prog.relies_pure ⟨lawful, ends⟩
  | error error =>
    dsimp only
    split
    · exact attempts_relies lawful (known.later grows) 1 _
    · exact Prog.relies_fail ⟨lawful, ends⟩

private theorem createRequest_relies :
    (createRequest params).Abides customGiftAgreement request s := by
  refine Prog.relies_select fun t rely => ?_
  dsimp only
  have known : Known (t.findByLedgerEntryId params.key) params.key t := by
    intro prior found
    obtain ⟨member, entry⟩ := mem_findByLedgerEntryId found
    exact ⟨prior, member, rfl, entry⟩
  have placed : (placeRequest params t.config).Relies customGiftAgreement request
      (fun outcome u => (t.config.enabled = true ∧
          Ends params (t.findByLedgerEntryId params.key) outcome u) ∨
        (t.config.enabled = false ∧ outcome = .error customGiftDisabled)) ∅ id t := by
    refine Prog.relies_ensure_bind (fun disabled => .inr ⟨disabled, rfl⟩) fun enabled => ?_
    exact (settleRequest_relies rely.inv known).imp fun _ _ ended => .inl ⟨enabled, ended.2⟩
  refine placed.grown.attempt_bind fun outcome u ended => ?_
  obtain ⟨begun, ended⟩ := ended
  refine autocommit_relies (fun v grows lawful => answer_lawful lawful ⟨fun id returned => ?_,
    fun id was fromClient enabled => ?_⟩) (fun _ => rfl) fun _ => rfl
  · cases outcome with
    | error error => cases returned
    | ok request =>
      obtain rfl : request.id = id := CreateOutcome.returned.inj returned
      obtain ⟨_, stored, member, own, entry⟩ | ⟨_, refused⟩ := ended
      · obtain ⟨later, inside, same⟩ := grows stored member
        exact ⟨later, inside, same.id.trans own, same.ledgerEntryId.trans entry⟩
      · cases refused
  · obtain ⟨prior, isPrior, rfl⟩ := Option.map_eq_some_iff.mp was
    obtain ⟨_, ends⟩ | ⟨disabled, _⟩ := ended
    · cases outcome with
      | error error =>
        right
        exact congrArg CreateOutcome.refused (ends (isPrior ▸ rfl) fromClient)
      | ok request =>
        -- both are the request of the key
        obtain ⟨stored, member, own, entry⟩ := ends
        obtain ⟨later, inside, same⟩ := grows stored member
        obtain ⟨known, present, id, key⟩ := (known.later begun).later grows prior isPrior
        obtain rfl : later = known := List.inj_on_of_nodup_map lawful.entries inside present
          ((same.ledgerEntryId.trans entry).trans key.symm)
        left
        exact congrArg CreateOutcome.returned ((own.symm.trans same.id.symm).trans id)
    · cases (show true = false from enabled.symm.trans disabled)

/-! ### Resolutions -/

section Resolving

variable {requestId : Nat} {status : CustomGiftRequestStatus} {data : ResolveData} {refund : Bool}

/-- What `resolvePending` writes if the row is pending. -/
private def resolving (requestId : Nat) (status : CustomGiftRequestStatus) (data : ResolveData)
    (refund : Bool) (db : CustomGiftDb) : CustomGiftDb :=
  { db.updateRequest requestId (·.resolve status data) with
    resolutions := db.resolutions ++ [⟨requestId, status, refund⟩] }

private theorem resolvePending_relies
    {ok : Bool → Set Lock → (CustomGiftDb → CustomGiftDb) → CustomGiftDb → Prop}
    {err : LedgerError → CustomGiftDb → Prop} (notPending : ∀ t held, ok false held id t)
    (isPending : ∀ t held found, .customGiftRequest requestId ∈ held →
      t.findById requestId = some found → found.status = .pending → Grows s t → Lawful t →
      ok true held (resolving requestId status data refund) t) :
    (resolvePending requestId status data refund).Relies customGiftAgreement request ok err
      ∅ id s := by
  refine Tx.relies_lockRow fun t rely _ => Tx.relies_select fun u reading => ?_
  dsimp only [id]
  cases pendingIs : (u.findById requestId).any (·.status = .pending) with
  | false =>
    rw [Tx.when, if_neg Bool.false_ne_true]
    exact Tx.relies_pure (notPending u _)
  | true =>
    obtain ⟨found, isFound, pending⟩ := (Option.any_eq_true _ _).mp pendingIs
    rw [Tx.when, if_pos rfl]
    refine Tx.relies_update fun v writing _ => Tx.relies_pure ?_
    have locked : .customGiftRequest requestId ∈
        insert (.customGiftRequest requestId) (∅ : Set Lock) := Set.mem_insert _ _
    have same : u.findById requestId = v.findById requestId :=
      writing.same (.customGiftRequest requestId) locked
    have all := rely.trans ((reading.trans writing).mono (Set.subset_insert _ _))
    exact isPending v _ found (Set.mem_insert _ _) (same ▸ isFound) (by simpa using pending)
      all.grows writing.inv

private theorem keeps_of_resolves {held : Set Lock} {t t' : CustomGiftDb}
    {found : CustomGiftRequest} (rows : List CoinLedgerEntry) {res : Resolution}
    (change : CustomGiftRequest → CustomGiftRequest) (lawful : Lawful t)
    (locked : .customGiftRequest found.id ∈ held) (member : found ∈ t.requests)
    (pending : found.status = .pending) (resolves : Resolves found res change)
    (ledger : t'.money.coinLedger = t.money.coinLedger ++ rows)
    (requests : t'.requests =
      t.requests.map fun other => if other.id = found.id then change other else other)
    (resolutions : t'.resolutions = t.resolutions ++ [res]) (answers : t'.answers = t.answers)
    (refund : (res.refund = false ∧ rows = []) ∨ (res.refund = true ∧ ∃ row, rows = [row] ∧
      Refunds found row ∧ .wallet row.wallet ∈ held ∧ .coinKey row.idempotencyKey ∈ held)) :
    customGiftAgreement.Keeps request held t t' := by
  obtain ⟨lawful', grows⟩ := resolve_lawful lawful member pending resolves ledger requests
    resolutions answers (refund.imp_right fun ⟨yes, row, rows, refunds, _⟩ =>
      ⟨yes, row, rows, refunds⟩)
  have keepsId : ∀ other, (if other.id = found.id then change other else other).id = other.id := by
    intro other
    split
    · exact (resolves.same other).id
    · rfl
  refine ⟨lawful', grows, fun lock apart => ?_, trivial⟩
  cases lock with
  | wallet other =>
    change latestBalance t.money.coinLedger other = latestBalance t'.money.coinLedger other
    rw [ledger]
    rcases refund with ⟨_, rfl⟩ | ⟨_, row, rfl, _, walletHeld, _⟩
    · rw [List.append_nil]
    · have different : row.wallet ≠ other := by
        rintro rfl
        exact apart walletHeld
      rw [latestBalance_append_other different]
  | coinKey other =>
    change findByKey t.money.coinLedger other = none ↔ findByKey t'.money.coinLedger other = none
    rw [ledger]
    rcases refund with ⟨_, rfl⟩ | ⟨_, row, rfl, _, _, keyHeld⟩
    · rw [List.append_nil]
    · have different : row.idempotencyKey ≠ other := fun same => apart (same ▸ keyHeld)
      simp [findByKey_eq_none, or_imp, forall_and, different]
  | customGiftRequest other =>
    change t.findById other = t'.findById other
    rw [CustomGiftDb.findById, CustomGiftDb.findById, requests, Keyed.find?_map keepsId]
    cases row : t.requests.find? (·.id = other) with
    | none => rfl
    | some stored =>
      have own : stored.id = other := by simpa using List.find?_some row
      have different : stored.id ≠ found.id := fun same => apart (own ▸ same ▸ locked)
      rw [Option.map_some, if_neg different]
  | customGiftEntry other =>
    intro absent
    rw [findByLedgerEntryId_eq_none] at absent ⊢
    intro later inside
    rw [requests] at inside
    obtain ⟨stored, old, rfl⟩ := List.mem_map.mp inside
    split
    · rw [(resolves.same stored).ledgerEntryId]
      exact absent stored old
    · exact absent stored old
  | customGiftPending other =>
    intro absent
    rw [findPendingByUserId_eq_none] at absent ⊢
    intro later inside own
    rw [requests] at inside
    obtain ⟨stored, old, rfl⟩ := List.mem_map.mp inside
    split at own
    next same =>
      have isFound : stored = found := List.inj_on_of_nodup_map lawful.ids old member same
      rw [if_pos same, isFound, resolves.status]
      exact resolves.ended.1
    next different =>
      rw [if_neg different]
      exact absent stored old own
  | _ => trivial

private theorem resolve_same (status : CustomGiftRequestStatus) (data : ResolveData)
    (other : CustomGiftRequest) : SameRequest other (other.resolve status data) :=
  ⟨rfl, rfl, rfl, rfl⟩

private theorem completeRequest_relies {body : CompleteBody} {adminId : UserId} :
    (completeRequest requestId body adminId).Abides customGiftAgreement request s := by
  refine Prog.relies_select fun t rely => ?_
  refine Prog.relies_check fun _ => ?_
  refine Prog.relies_check fun _ => ?_
  have resolved : (Prog.transaction (resolvePending requestId .completed
      { giftId := body.giftId, adminNote := body.adminNote, resolvedByAdminId := adminId }
      false)).Abides customGiftAgreement request t := by
    refine Prog.relies_transaction (resolvePending_relies (fun u held v further _ => ?_) ?_)
    · exact ⟨⟨further.inv, .refl v, fun lock _ => customGiftAgreement.same_refl lock v, trivial⟩,
        trivial⟩
    · intro u held found locked isFound pending _ _ v further _
      have same : u.findById requestId = v.findById requestId :=
        further.same (.customGiftRequest requestId) locked
      obtain ⟨member, rfl⟩ := mem_findById (same ▸ isFound)
      refine ⟨keeps_of_resolves [] _ further.inv locked member pending
        ⟨rfl, ?_, resolve_same _ _, rfl, ?_⟩ (List.append_nil _).symm rfl rfl rfl
        (.inl ⟨rfl, rfl⟩), trivial⟩
      · exact ⟨nofun, nofun⟩
      · exact (further.inv.unresolved member pending).2
  refine resolved.bind (fun updated u _ => ?_) fun _ _ _ => trivial
  cases updated with
  | false => exact Prog.relies_fail trivial
  | true => exact Prog.relies_pure trivial

private theorem refundRequest_relies {row found : CustomGiftRequest} {held : Set Lock}
    {data : ResolveData} (locked : .customGiftRequest row.id ∈ held)
    (isFound : s.findById row.id = some found) (pending : found.status = .pending)
    (same : SameRequest row found) (inv : Lawful s) :
    (refundRequest row).Relies customGiftAgreement request
      (fun _ held w s => ∀ t, customGiftAgreement.Rely held s t →
        customGiftAgreement.Keeps request held t (w t)) (fun _ _ => True) held
      (resolving row.id .failed data true) s := by
  -- the row stays as it is while it is locked
  have stays : ∀ t, customGiftAgreement.Rely held s t → found ∈ t.requests ∧ found.id = row.id := by
    intro t rely
    have equal : s.findById row.id = t.findById row.id :=
      rely.same (.customGiftRequest row.id) locked
    exact mem_findById (equal ▸ isFound)
  have nothing : Appends CustomGiftDb.money (resolving row.id .failed data true) [] :=
    fun u => (List.append_nil _).symm
  refine Tx.Relies.bind (customGift_books.credit_relies inv nothing rfl rfl ?_ ?_
    fun _ _ _ _ => trivial)
  · intro t refund rely present
    obtain ⟨member, own⟩ := stays t rely
    have keyIs : refund.idempotencyKey = .customGiftRefund row.id := by
      simpa using List.find?_some present
    obtain ⟨owner, inside, id, isRefunded⟩ :=
      rely.inv.refunds refund (List.mem_of_find?_eq_some present) row.id keyIs
    obtain rfl : owner = found :=
      List.inj_on_of_nodup_map rely.inv.ids inside member (id.trans own.symm)
    rw [(rely.inv.unresolved member pending).2] at isRefunded
    cases isRefunded
  · intro t held' refund sub wallet key rely _ fits u writing _ v committing
    have all := (rely.trans (writing.mono sub)).trans
      (committing.mono (sub.trans (Set.subset_insert _ _)))
    obtain ⟨member, own⟩ := stays v all
    let change : CustomGiftRequest → CustomGiftRequest := fun other =>
      { other.resolve .failed data with
        refunded := true, refundLedgerEntryId := some (.customGiftRefund row.id) }
    have twice : ∀ other : CustomGiftRequest,
        (if (if other.id = row.id then other.resolve .failed data else other).id = row.id then
          { (if other.id = row.id then other.resolve .failed data else other) with
            refunded := true, refundLedgerEntryId := some (.customGiftRefund row.id) }
        else (if other.id = row.id then other.resolve .failed data else other)) =
          if other.id = found.id then change other else other := by
      intro other
      rw [own]
      by_cases equal : other.id = row.id
      · simp [equal, CustomGiftRequest.resolve, change]
      · simp [equal]
    have stillLocked : .customGiftRequest found.id ∈ held' := by
      rw [own]
      exact sub locked
    refine keeps_of_resolves [refund] change committing.inv (.inr stillLocked) member pending ?_
      rfl ?_ rfl rfl (.inr ⟨rfl, refund, rfl, ?_, ?_, ?_⟩)
    · exact ⟨own.symm, ⟨nofun, fun _ => rfl⟩, fun other => ⟨rfl, rfl, rfl, rfl⟩, rfl, rfl⟩
    · refine (List.map_map ..).trans (List.map_congr_left fun other _ => ?_)
      exact twice other
    · exact ⟨fits.key.trans (by rw [own]), by rw [fits.wallet, same.userId], fits.direction,
        fits.amount.trans same.coinCost.symm⟩
    · exact fits.wallet ▸ .inr wallet
    · exact fits.key ▸ .inr key

private theorem failTransaction_relies {row : CustomGiftRequest} {body : FailBody}
    {adminId : UserId} (member : row ∈ s.requests) :
    (Prog.transaction (failTransaction row body adminId)).Abides customGiftAgreement request s := by
  refine Prog.relies_transaction (Tx.Relies.bind (resolvePending_relies (fun u held => ?_) ?_))
  · rw [Tx.when, if_neg fun both => Bool.false_ne_true both.1]
    refine Tx.relies_pure fun v further _ => ?_
    exact ⟨⟨further.inv, .refl v, fun lock _ => customGiftAgreement.same_refl lock v, trivial⟩,
      trivial⟩
  · intro u held found locked isFound pending grows lawful
    obtain ⟨foundMember, own⟩ := mem_findById isFound
    have same : SameRequest row found := by
      obtain ⟨later, inside, same⟩ := grows row member
      obtain rfl : later = found :=
        List.inj_on_of_nodup_map lawful.ids inside foundMember (same.id.trans own.symm)
      exact same
    cases refund : body.refund with
    | true =>
      rw [Tx.when, if_pos ⟨rfl, rfl⟩]
      refine Tx.Relies.bind ((refundRequest_relies locked isFound pending same lawful).imp
        (fun _ held w v keeps => Tx.relies_pure fun t further _ => ?_) fun _ _ _ => trivial)
      exact ⟨keeps t further, trivial⟩
    | false =>
      rw [Tx.when, if_neg fun both => Bool.false_ne_true both.2]
      refine Tx.relies_pure fun v further _ => ?_
      have equal : u.findById row.id = v.findById row.id :=
        further.same (.customGiftRequest row.id) locked
      obtain ⟨present, _⟩ := mem_findById (equal ▸ isFound)
      rw [← own] at locked ⊢
      refine ⟨keeps_of_resolves [] _ further.inv locked present pending
        ⟨rfl, ?_, resolve_same _ _, rfl, ?_⟩ (List.append_nil _).symm rfl rfl rfl
        (.inl ⟨rfl, rfl⟩), trivial⟩
      · exact ⟨fun charges => (by cases charges), fun _ => rfl⟩
      · exact (further.inv.unresolved present pending).2

private theorem failRequest_relies {body : FailBody} {adminId : UserId} :
    (failRequest requestId body adminId).Abides customGiftAgreement request s := by
  refine Prog.relies_select fun t rely => ?_
  cases found : t.findById requestId with
  | none => exact Prog.relies_fail trivial
  | some row =>
    refine (failTransaction_relies (mem_findById found).1).bind (fun updated u _ => ?_)
      fun _ _ _ => trivial
    cases updated with
    | false => exact Prog.relies_fail trivial
    | true => exact Prog.relies_pure trivial

end Resolving

theorem handler_relies (request : Request) (s : CustomGiftDb) :
    (handler request).Abides customGiftAgreement request s := by
  cases request with
  | createRequest params => exact createRequest_relies
  | completeRequest id body adminId => exact completeRequest_relies
  | failRequest id body adminId => exact failRequest_relies
  | updateConfig config =>
    exact autocommit_relies (fun _ _ lawful => lawful.of_eq rfl rfl rfl lawful.answered)
      (fun _ => rfl) fun _ => rfl

/-! ### The accounts -/

/-- The rows of the coin ledger with this key. -/
def CustomGiftDb.rowsOf (db : CustomGiftDb) (key : LedgerKey) : List CoinLedgerEntry :=
  db.money.coinLedger.filter (·.idempotencyKey = key)

private theorem Lawful.rowsOf_eq {db : CustomGiftDb} (lawful : Lawful db) {row : CoinLedgerEntry}
    (member : row ∈ db.money.coinLedger) : db.rowsOf row.idempotencyKey = [row] :=
  Keyed.filter_of_mem lawful.keys member

/-- What a request has come to: nothing yet, or its one resolution, with its refund if it is one
with refund. -/
structure Settled (db : CustomGiftDb) (request : CustomGiftRequest) : Prop where
  debit : ∃ row, db.rowsOf request.ledgerEntryId = [row] ∧ Debits request row
  status : request.status = ((db.resolutionOf request.id).map (·.status)).getD .pending
  refunded : ∀ resolution, db.resolutionOf request.id = some resolution →
    resolution.refund = true → request.status = .failed ∧
      ∃ row, db.rowsOf (.customGiftRefund request.id) = [row] ∧ Refunds request row
  notRefunded : (∀ resolution, db.resolutionOf request.id = some resolution →
    resolution.refund = false) → db.rowsOf (.customGiftRefund request.id) = []

private theorem Lawful.settled {db : CustomGiftDb} (lawful : Lawful db)
    {request : CustomGiftRequest} (member : request ∈ db.requests) : Settled db request := by
  obtain ⟨_, ⟨row, inside, debits⟩, status, refunded, refund⟩ := lawful.accounted request member
  refine ⟨⟨row, debits.key ▸ lawful.rowsOf_eq inside, debits⟩, status, ?_, ?_⟩
  · intro resolution found isRefund
    rw [found] at status refunded
    obtain ⟨credit, present, refunds⟩ := refund (refunded.trans isRefund)
    have failed := (lawful.ended resolution (List.mem_of_find?_eq_some found)).2 isRefund
    exact ⟨status.trans failed, credit, refunds.key ▸ lawful.rowsOf_eq present, refunds⟩
  · intro never
    rw [CustomGiftDb.rowsOf, List.filter_eq_nil_iff]
    intro credit present own
    obtain ⟨owner, ownerMember, id, isRefunded⟩ :=
      lawful.refunds credit present request.id (of_decide_eq_true own)
    obtain rfl : owner = request :=
      List.inj_on_of_nodup_map lawful.ids ownerMember member id
    rw [refunded] at isRefunded
    obtain ⟨resolution, found, isRefund⟩ := (Option.any_eq_true _ _).mp isRefunded
    rw [never resolution found] at isRefund
    cases isRefund

/-- In every run on a ledger without custom gifts, each request has exactly one debit of its price
and exactly one refund if it has failed with refund, and none otherwise; every debit has its
request; a request is resolved at most once; no two requests share a key; and a call is answered
with the request of its key, and with nothing else if there was one when it began and custom gifts
were enabled, unless the database aborts all attempts. -/
theorem customGift_accounting {money : MoneyDb} {config : CustomGiftConfig}
    (keys : (money.coinLedger.map (·.idempotencyKey)).Nodup)
    (unused : ∀ row ∈ money.coinLedger,
      (∀ userId key, row.idempotencyKey ≠ .customGift userId key) ∧
      ∀ id, row.idempotencyKey ≠ .customGiftRefund id)
    {c : Config Request CustomGiftDb Lock LedgerError}
    (run : Reaches handler (fun _ _ => True) (Config.idle { money, config }) c) :
    (∀ request ∈ c.db.requests, Settled c.db request) ∧
      (∀ row ∈ c.db.money.coinLedger, ∀ userId key, row.idempotencyKey = .customGift userId key →
        ∃ request ∈ c.db.requests, request.ledgerEntryId = row.idempotencyKey) ∧
      (c.db.resolutions.map (·.requestId)).Nodup ∧ (c.db.requests.map (·.ledgerEntryId)).Nodup ∧
      ∀ answer ∈ c.db.answers, Answered c.db answer := by
  have start : Lawful { money, config } :=
    ⟨keys, List.nodup_nil, List.nodup_nil, List.forall_mem_nil _,
      fun row member userId key keyIs => ((unused row member).1 userId key keyIs).elim,
      fun row member id keyIs => ((unused row member).2 id keyIs).elim,
      List.nodup_nil, List.forall_mem_nil _, List.forall_mem_nil _, List.forall_mem_nil _,
      List.forall_mem_nil _⟩
  have allowed : ∀ c e, True → customGiftAgreement.Allows (ε := LedgerError) c e := by
    intro c e _
    cases e with
    | advance i => exact fun _ _ _ _ => trivial
    | start _ | crash _ => trivial
  have observed := run.observed (fun request s _ => handler_relies request s) allowed start
  have lawful : Lawful c.db := observed.inv
  exact ⟨fun request member => lawful.settled member, lawful.debits, lawful.resolved,
    lawful.entries, lawful.answered⟩

end Runs

/-! ### Runs of one user -/

/-- The user has topped up, and nothing else has happened. -/
def fundedMoney : MoneyDb :=
  { MoneyDb.empty with
    coinLedger := [
      { wallet := ⟨9, .coin⟩, direction := .credit, txType := .topup, amount := 100
        balanceAfter := 100, idempotencyKey := .other 1 }] }

def funded : CustomGiftDb := { money := fundedMoney, config := ⟨10, 10, 30, true⟩ }

def sampleParams (idempotencyKey requestId : Nat) : CreateParams :=
  { userId := 9, whatsappNumber := "12345678", idempotencyKey := some idempotencyKey
    uuid := 0, requestId }

/-- A request fails with refund, a retry of its call gets it back, and a second one is completed. -/
theorem customGift_accounting_resolved :
    ∃ c : Config Request CustomGiftDb Lock LedgerError,
      (c.db.resolutions = [⟨1, .failed, true⟩, ⟨2, .completed, false⟩] ∧
        c.db.answers.map (·.outcome) = [.returned 1, .returned 1, .returned 2] ∧
        latestBalance c.db.money.coinLedger ⟨9, .coin⟩ = 90) ∧
      (∀ request ∈ c.db.requests, Settled c.db request) ∧
      (∀ row ∈ c.db.money.coinLedger, ∀ userId key, row.idempotencyKey = .customGift userId key →
        ∃ request ∈ c.db.requests, request.ledgerEntryId = row.idempotencyKey) ∧
      (c.db.resolutions.map (·.requestId)).Nodup ∧ (c.db.requests.map (·.ledgerEntryId)).Nodup ∧
      ∀ answer ∈ c.db.answers, Answered c.db answer := by
  obtain ⟨c, run, now⟩ : ∃ c, Reaches handler (fun _ _ => True) (Config.idle funded) c ∧
      c.db.resolutions = [⟨1, .failed, true⟩, ⟨2, .completed, false⟩] ∧
      c.db.answers.map (·.outcome) = [.returned 1, .returned 1, .returned 2] ∧
      latestBalance c.db.money.coinLedger ⟨9, .coin⟩ = 90 :=
    exists_reaches [serve (.createRequest (sampleParams 5 1)) 0 25,
      serve (.failRequest 1 { reason := "sold out", refund := true } 4) 1 12,
      serve (.createRequest (sampleParams 5 2)) 2 6,
      serve (.createRequest (sampleParams 6 2)) 3 25,
      serve (.completeRequest 2 {} 4) 4 5] (by decide +kernel)
  exact ⟨c, now, customGift_accounting (by decide) (by simp [fundedMoney]) run⟩

/-- A retry is refused once custom gifts are disabled. And a second call with the key, at once with
the first, may look its key up before the first one commits and meet its pending request after. -/
theorem customGift_not_replayed :
    (∃ c : Config Request CustomGiftDb Lock LedgerError,
      Reaches handler (fun _ _ => True) (Config.idle funded) c ∧
      c.db.answers = [⟨.customGift 9 5, true, true, none, .returned 1⟩,
        ⟨.customGift 9 5, true, false, some 1, .refused customGiftDisabled⟩]) ∧
    ∃ c : Config Request CustomGiftDb Lock LedgerError,
      Reaches handler (fun _ _ => True) (Config.idle funded) c ∧
      c.db.answers = [⟨.customGift 9 5, true, true, none, .returned 1⟩,
        ⟨.customGift 9 5, true, true, none, .refused customGiftRequestPending⟩] := by
  constructor
  · exact exists_reaches [serve (.createRequest (sampleParams 5 1)) 0 25,
      serve (.updateConfig ⟨10, 10, 30, false⟩) 1 2,
      serve (.createRequest (sampleParams 5 2)) 2 3] (by decide +kernel)
  · exact exists_reaches [serve (.createRequest (sampleParams 5 1)) 0 2,
      serve (.createRequest (sampleParams 5 2)) 1 2, List.replicate 23 (.advance 0),
      List.replicate 4 (.advance 1)] (by decide +kernel)

end OlNode.CustomGift
