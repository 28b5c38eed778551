import OlNode.IsoText
import OlNode.MasterLedger.Model
import OlNode.TopMerge

/-!
# The feed of treasury flows

Two tables are queried apart, each for one row more than the page holds, and the merge is cut to a
page. One cursor, the instant and the id of the last row, resumes both queries. Since the first rows
of the merge are the first rows of both tables together, following the cursors reads the two tables
as if they were one.
-/
namespace OlNode.MasterLedger.TreasuryFlow

open JsDate Paging

/-- The tables of the feed. No id is in both; instants are dates. Ids are UUIDs, ordered as their
texts are. -/
structure TreasuryDb where
  coinTradingTransfers : List CoinTradingTransfer
  agentPointTransfers : List AgentPointTransfer
  classification : TreasuryFlowKind → Nat → Option TreasuryFlowClassificationType := fun _ _ => none
  ids_nodup : (coinTradingTransfers.map (·.id) ++ agentPointTransfers.map (·.id)).Nodup
  dates : ∀ createdAt ∈ coinTradingTransfers.map (·.createdAt) ++
    agentPointTransfers.map (·.createdAt),
    timeClip (createdAt : Nat) = some ((createdAt : Nat) : Int)

structure FlowRow where
  flowKind : TreasuryFlowKind
  flowId : Nat
  senderUserId : UserId
  recipientUserId : UserId
  units : Int
  classification : Option TreasuryFlowClassificationType
  kind : TreasuryFlowClassificationType
  reversedAt : Option Nat
  createdAt : Nat

structure ListQuery where
  window : Window
  classification : Option TreasuryFlowClassificationType
  senderUserId : Option UserId
  limit : Nat

/-! ### Cursors -/

/-- What is in the JSON object of a cursor, behind its base64url text. -/
structure CursorPayload where
  t : Option String
  id : Option Nat

/-- A text that is not empty; `none` if it holds no JSON object. -/
abbrev Cursor := Option CursorPayload

def encodeCursor (createdAt id : Nat) : Cursor :=
  some { t := some (isoString createdAt), id := some id }

def decodeCursor (cursor : Cursor) : Option (Int × Nat) := do
  let raw ← cursor
  let text ← raw.t
  let id ← raw.id
  let t ← parse text
  some (t, id)

/-! ### The queries -/

/-- Truncated to two decimals. -/
def unitsToUsd (units : Int) : String :=
  let sign := if units < 0 then "-" else ""
  let whole := units.natAbs / 10000
  let frac := units.natAbs % 10000
  let fracStr := String.ofList ((padded 4 frac).toList.take 2)
  sign ++ toString whole ++ "." ++ fracStr

section List

variable (db : TreasuryDb) (house : HouseAccounts) (query : ListQuery)

def coinFlowRow (transfer : CoinTradingTransfer) : FlowRow :=
  let stored := db.classification .coinTradingTransfer transfer.id
  { flowKind := .coinTradingTransfer
    flowId := transfer.id
    senderUserId := transfer.senderAgentUserId
    recipientUserId := transfer.recipientUserId
    units := transfer.tradingCoinsDebited
    classification := stored
    kind := effectiveClassification transfer.recipientUserId stored house
    reversedAt := transfer.reversedAt
    createdAt := transfer.createdAt }

def pointFlowRow (transfer : AgentPointTransfer) : FlowRow :=
  let stored := db.classification .agentPointTransfer transfer.id
  { flowKind := .agentPointTransfer
    flowId := transfer.id
    senderUserId := transfer.senderAgentUserId
    recipientUserId := transfer.recipientAgentUserId
    units := transfer.points
    classification := stored
    kind := effectiveClassification transfer.recipientAgentUserId stored house
    reversedAt := none
    createdAt := transfer.createdAt }

/-- The WHERE clause without the cursor. -/
def matchesQuery (row : FlowRow) : Bool :=
  row.senderUserId ∈ house && query.senderUserId.all (row.senderUserId = ·) &&
    query.classification.all (row.kind = ·) && query.window.contains row.createdAt

def cursorFilter (decoded : Option (Int × Nat)) (row : FlowRow) : Bool :=
  decoded.all fun last => (row.createdAt : Int) < last.1 ||
    ((row.createdAt : Int) = last.1 && row.flowId < last.2)

/-- The order of both queries, and of the merge. -/
def newestFirst (a b : FlowRow) : Prop :=
  b.createdAt < a.createdAt ∨ a.createdAt = b.createdAt ∧ b.flowId ≤ a.flowId

instance : DecidableRel newestFirst := fun _ _ => inferInstanceAs (Decidable (_ ∨ _))

/-- One of the two queries, over the flows of its table. -/
def queryRows (flows : List FlowRow) (decoded : Option (Int × Nat)) : List FlowRow :=
  ((flows.filter fun row => matchesQuery house query row && cursorFilter decoded row).insertionSort
    newestFirst).take (query.limit + 1)

def merged (decoded : Option (Int × Nat)) : List FlowRow :=
  (queryRows house query (db.coinTradingTransfers.map (coinFlowRow db house)) decoded ++
    queryRows house query (db.agentPointTransfers.map (pointFlowRow db house)) decoded).insertionSort
      newestFirst

/-- An entry; the two users stand for what is shown of them. -/
structure FlowEntry where
  flowKind : TreasuryFlowKind
  flowId : Nat
  units : Int
  usd : String
  classification : TreasuryFlowClassificationType
  storedClassification : Option TreasuryFlowClassificationType
  locked : Bool
  reversedAt : Option String
  createdAt : String
  sender : UserId
  recipient : UserId

def entryOf (row : FlowRow) : FlowEntry where
  flowKind := row.flowKind
  flowId := row.flowId
  units := row.units
  usd := unitsToUsd row.units
  classification := row.kind
  storedClassification := row.classification
  locked := row.recipientUserId ∈ house
  reversedAt := row.reversedAt.map fun reversedAt => isoString reversedAt
  createdAt := isoString row.createdAt
  sender := row.senderUserId
  recipient := row.recipientUserId

structure Listing where
  entries : List FlowEntry
  nextCursor : Option Cursor
  hasMore : Bool
  houseAccountCount : Nat

inductive ListError where
  | invalidCursor
  deriving DecidableEq

def listingOf (rows : List FlowRow) : Listing :=
  let page := cut (fun row => encodeCursor row.createdAt row.flowId) query.limit rows
  { entries := page.items.map (entryOf house)
    nextCursor := page.nextCursor
    hasMore := query.limit < rows.length
    houseAccountCount := house.dedup.length }

def list (cursor : Option Cursor) : Except ListError Listing :=
  if house.isEmpty then
    .ok { entries := [], nextCursor := none, hasMore := false, houseAccountCount := 0 }
  else
    match cursor with
    | none => .ok (listingOf house query (merged db house query none))
    | some cursor =>
      match decodeCursor cursor with
      | none => .error .invalidCursor
      | some decoded => .ok (listingOf house query (merged db house query (some decoded)))

/-- Reads on until a listing has no next cursor; `none` if a call fails or the fuel is spent. -/
def followList : Nat → Option Cursor → Option (List FlowEntry)
  | 0, _ => none
  | fuel + 1, cursor =>
    match list db house query cursor with
    | .error _ => none
    | .ok listing =>
      match listing.nextCursor with
      | none => some listing.entries
      | some next => (followList fuel (some next)).map (listing.entries ++ ·)

/-- The flows of both tables that the query is about. -/
def matchingFlows : List FlowRow :=
  (db.coinTradingTransfers.map (coinFlowRow db house) ++
    db.agentPointTransfers.map (pointFlowRow db house)).filter (matchesQuery house query)

end List

/-! ### Cursors and positions -/

def position (row : FlowRow) : Nat ×ₗ Nat := toLex (row.createdAt, row.flowId)

theorem position_lt_iff {a b : FlowRow} : position a < position b ↔
    a.createdAt < b.createdAt ∨ a.createdAt = b.createdAt ∧ a.flowId < b.flowId :=
  Prod.Lex.toLex_lt_toLex

theorem newestFirst_iff {a b : FlowRow} : newestFirst a b ↔ position b ≤ position a := by
  rw [position, position, Prod.Lex.toLex_le_toLex, newestFirst]
  constructor
  · rintro (newer | ⟨same, above⟩)
    · exact .inl newer
    · exact .inr ⟨same.symm, above⟩
  · rintro (newer | ⟨same, above⟩)
    · exact .inl newer
    · exact .inr ⟨same.symm, above⟩

instance : Std.Total newestFirst where
  total a b := by
    rw [newestFirst_iff, newestFirst_iff]
    exact le_total _ _

instance : IsTrans FlowRow newestFirst where
  trans a b c first second := by
    rw [newestFirst_iff] at *
    exact second.trans first

def cursorOf (row : FlowRow) : Cursor := encodeCursor row.createdAt row.flowId

def beyond (last row : FlowRow) : Bool :=
  cursorFilter (some ((last.createdAt : Int), last.flowId)) row

theorem beyond_iff {last row : FlowRow} : beyond last row ↔ position row < position last := by
  rw [position_lt_iff]
  simp [beyond, cursorFilter]

theorem beyond_strict : Strict beyond where
  irrefl a := by
    rw [Bool.eq_false_iff, Ne, beyond_iff]
    exact lt_irrefl _
  trans first second := by
    rw [beyond_iff] at *
    exact second.trans first

theorem decodeCursor_cursorOf {row : FlowRow}
    (date : timeClip (row.createdAt : Nat) = some ((row.createdAt : Nat) : Int)) :
    decodeCursor (cursorOf row) = some ((row.createdAt : Int), row.flowId) := by
  simp [decodeCursor, cursorOf, encodeCursor, parse_isoString date]

/-! ### Both tables as one -/

section Feed

variable (db : TreasuryDb) (house : HouseAccounts) (query : ListQuery)

def allFlows : List FlowRow :=
  db.coinTradingTransfers.map (coinFlowRow db house) ++ db.agentPointTransfers.map (pointFlowRow db house)

def isCoin (row : FlowRow) : Bool := row.flowKind = .coinTradingTransfer

theorem isCoin_of_mem_coinFlows {row : FlowRow}
    (member : row ∈ db.coinTradingTransfers.map (coinFlowRow db house)) : isCoin row = true := by
  obtain ⟨transfer, -, rfl⟩ := List.mem_map.mp member
  simp [isCoin, coinFlowRow]

theorem isCoin_of_mem_pointFlows {row : FlowRow}
    (member : row ∈ db.agentPointTransfers.map (pointFlowRow db house)) : isCoin row = false := by
  obtain ⟨transfer, -, rfl⟩ := List.mem_map.mp member
  simp [isCoin, pointFlowRow]

theorem filter_isCoin (p : FlowRow → Bool) : ((allFlows db house).filter p).filter isCoin =
    (db.coinTradingTransfers.map (coinFlowRow db house)).filter p := by
  have none : ((db.agentPointTransfers.map (pointFlowRow db house)).filter p).filter isCoin = [] := by
    rw [List.filter_eq_nil_iff]
    intro row member
    simp [isCoin_of_mem_pointFlows db house (List.mem_of_mem_filter member)]
  rw [allFlows, List.filter_append, List.filter_append, none, List.append_nil,
    List.filter_eq_self]
  intro row member
  exact isCoin_of_mem_coinFlows db house (List.mem_of_mem_filter member)

theorem filter_not_isCoin (p : FlowRow → Bool) :
    ((allFlows db house).filter p).filter (fun row => !isCoin row) =
      (db.agentPointTransfers.map (pointFlowRow db house)).filter p := by
  have none : (((db.coinTradingTransfers.map (coinFlowRow db house)).filter p).filter
      fun row => !isCoin row) = [] := by
    rw [List.filter_eq_nil_iff]
    intro row member
    simp [isCoin_of_mem_coinFlows db house (List.mem_of_mem_filter member)]
  rw [allFlows, List.filter_append, List.filter_append, none, List.nil_append,
    List.filter_eq_self]
  intro row member
  simp [isCoin_of_mem_pointFlows db house (List.mem_of_mem_filter member)]

theorem nodup_flowIds : ((allFlows db house).map FlowRow.flowId).Nodup := by
  simpa [allFlows, coinFlowRow, pointFlowRow, Function.comp_def] using db.ids_nodup

theorem allFlows_apart {a b : FlowRow} (inA : a ∈ allFlows db house) (inB : b ∈ allFlows db house)
    (same : position a = position b) : a = b := by
  have ids : a.flowId = b.flowId := congrArg (fun p => (ofLex p).2) same
  exact List.inj_on_of_nodup_map (nodup_flowIds db house) inA inB ids

theorem allFlows_dates {row : FlowRow} (member : row ∈ allFlows db house) :
    timeClip (row.createdAt : Nat) = some ((row.createdAt : Nat) : Int) := by
  have instants : (allFlows db house).map FlowRow.createdAt =
      db.coinTradingTransfers.map (·.createdAt) ++ db.agentPointTransfers.map (·.createdAt) := by
    simp [allFlows, coinFlowRow, pointFlowRow, Function.comp_def]
  apply db.dates
  rw [← instants]
  exact List.mem_map_of_mem member

def selected (decoded : Option (Int × Nat)) : List FlowRow :=
  (allFlows db house).filter fun row => matchesQuery house query row && cursorFilter decoded row

/-- A page cut from the merge of the two limited queries is a page cut from all they select. -/
theorem cut_merged (decoded : Option (Int × Nat)) :
    cut cursorOf query.limit (merged db house query decoded) =
      cut cursorOf query.limit ((selected db house query decoded).insertionSort newestFirst) := by
  have apart : ∀ a ∈ selected db house query decoded, ∀ b ∈ selected db house query decoded,
      newestFirst a b → newestFirst b a → a = b := by
    intro a inA b inB before after
    rw [newestFirst_iff] at before after
    exact allFlows_apart db house (List.mem_of_mem_filter inA) (List.mem_of_mem_filter inB)
      (le_antisymm after before)
  have top := TopMerge.take_merge isCoin apart (query.limit + 1)
  rw [selected, filter_isCoin, filter_not_isCoin, ← selected] at top
  rw [← cut_take, merged, queryRows, queryRows, top, cut_take]

/-! ### Reading the feed to its end -/

/-- The rows of a page, before they are shown. -/
def readFlows : Option Cursor → Option (Page Cursor FlowRow)
  | none => some (cut cursorOf query.limit (merged db house query none))
  | some cursor => (decodeCursor cursor).map fun decoded =>
      cut cursorOf query.limit (merged db house query (some decoded))

theorem listingOf_entries (rows : List FlowRow) : (listingOf house query rows).entries =
    (cut cursorOf query.limit rows).items.map (entryOf house) := rfl

theorem listingOf_nextCursor (rows : List FlowRow) : (listingOf house query rows).nextCursor =
    (cut cursorOf query.limit rows).nextCursor := rfl

theorem followList_eq (some_house : house ≠ []) (fuel : Nat) (cursor : Option Cursor) :
    followList db house query fuel cursor =
      (follow (readFlows db house query) fuel cursor).map (List.map (entryOf house)) := by
  have notEmpty : house.isEmpty = false := by simpa using some_house
  induction fuel generalizing cursor with
  | zero => simp [followList, follow]
  | succ fuel ih =>
    -- The rows of a page decide whether there is another.
    have step : ∀ decoded, readFlows db house query cursor =
        some (cut cursorOf query.limit (merged db house query decoded)) →
        list db house query cursor = .ok (listingOf house query (merged db house query decoded)) →
        followList db house query (fuel + 1) cursor =
          (follow (readFlows db house query) (fuel + 1) cursor).map
            (List.map (entryOf house)) := by
      intro decoded reads lists
      rw [followList, follow, reads, lists]
      simp only [listingOf_entries, listingOf_nextCursor, Option.bind_eq_bind, Option.bind_some]
      cases (cut cursorOf query.limit (merged db house query decoded)).nextCursor with
      | none => simp
      | some next => simp [ih, Option.map_map, Function.comp_def]
    cases cursor with
    | none => exact step none rfl (by simp [list, notEmpty])
    | some cursor =>
      cases decodes : decodeCursor cursor with
      | none => simp [followList, follow, list, readFlows, notEmpty, decodes]
      | some decoded =>
        exact step (some decoded) (by simp [readFlows, decodes]) (by simp [list, notEmpty, decodes])

def arrange : Option Cursor → List FlowRow → List FlowRow :=
  fun _ rows => rows.insertionSort newestFirst

theorem arranges : Arranges position arrange := by
  intro cursor rows
  refine ⟨List.perm_insertionSort newestFirst rows, ?_⟩
  exact (List.pairwise_insertionSort newestFirst rows).imp fun first => newestFirst_iff.mp first

theorem matchingFlows_eq : matchingFlows db house query = selected db house query none := by
  simp [matchingFlows, selected, allFlows, cursorFilter]

theorem serves : Serves cursorOf beyond (matchingFlows db house query) query.limit arrange
    (readFlows db house query) := by
  intro cursor inside
  rw [cut_take]
  cases cursor with
  | none =>
    simp only [Option.map_none, readFlows, cut_merged, matchingFlows_eq, select, arrange]
  | some last =>
    have member := inside last rfl
    have date := allFlows_dates db house (List.mem_of_mem_filter member)
    have same : selected db house query (some ((last.createdAt : Int), last.flowId)) =
        select beyond (matchingFlows db house query) (some last) := by
      simp only [select, matchingFlows, selected, allFlows, List.filter_filter, beyond]
      congr 1
      funext row
      exact Bool.and_comm _ _
    simp only [Option.map_some, readFlows, decodeCursor_cursorOf date, cut_merged, same, arrange]

/-- Reading on from the first page shows every matching flow once, newest first. -/
theorem list_complete (limit : 1 ≤ query.limit) :
    ∃ fuel entries, followList db house query fuel none = some entries ∧
      ∃ flows : List FlowRow, flows.Perm (matchingFlows db house query) ∧
        flows.Pairwise (fun row next => position next < position row) ∧
        entries = flows.map (entryOf house) := by
  have distinct : (matchingFlows db house query).Nodup :=
    (List.Nodup.of_map _ (nodup_flowIds db house)).filter _
  cases empty : house with
  | nil =>
    have none : matchingFlows db [] query = [] := by
      rw [matchingFlows, List.filter_eq_nil_iff]
      simp [matchesQuery]
    exact ⟨1, [], by simp [followList, list], [], by rw [none], List.Pairwise.nil, by simp⟩
  | cons first others =>
    rw [← empty]
    have agree : ∀ a ∈ matchingFlows db house query, ∀ b ∈ matchingFlows db house query,
        a ≠ b → Agree position beyond a b := by
      intro a inA b inB differ
      simp only [Agree, beyond_iff, and_self]
      have apart : position a ≠ position b := fun same => differ
        (allFlows_apart db house (List.mem_of_mem_filter inA) (List.mem_of_mem_filter inB) same)
      exact (lt_or_gt_of_ne apart).symm
    obtain ⟨fuel, flows, reads, all, sorted⟩ :=
      complete_of_agree beyond_strict distinct agree limit arranges (serves db house query)
    refine ⟨fuel, flows.map (entryOf house), ?_, flows, all, ?_, rfl⟩
    · rw [followList_eq db house query (by simp [empty]), reads, Option.map_some]
    · -- Flows are apart, so each is strictly older than the one before.
      have unique : flows.Nodup := all.nodup_iff.mpr distinct
      refine (sorted.and unique).imp_of_mem ?_
      rintro row next inRow inNext ⟨below, differ⟩
      refine lt_of_le_of_ne below fun same => differ ?_
      exact allFlows_apart db house (List.mem_of_mem_filter (all.mem_iff.mp inRow))
        (List.mem_of_mem_filter (all.mem_iff.mp inNext)) same.symm

end Feed

/-- A flow of each table at the same instant. -/
def tiedTables : TreasuryDb where
  coinTradingTransfers :=
    [{ id := 1, senderAgentUserId := 7, recipientUserId := 8, tradingCoinsDebited := 50000,
       createdAt := 1000 }]
  agentPointTransfers :=
    [{ id := 2, senderAgentUserId := 7, recipientAgentUserId := 9, points := 20000,
       createdAt := 1000 }]
  ids_nodup := by decide
  dates := by decide

def oneByOne : ListQuery where
  window := {}
  classification := none
  senderUserId := none
  limit := 1

theorem list_complete_tied :
    1 ≤ oneByOne.limit ∧ ∃ fuel entries,
      followList tiedTables [7] oneByOne fuel none = some entries ∧
      ∃ flows : List FlowRow, flows.Perm (matchingFlows tiedTables [7] oneByOne) ∧
        flows.Pairwise (fun row next => position next < position row) ∧
        entries = flows.map (entryOf [7]) := by
  refine ⟨by decide, ?_⟩
  exact list_complete tiedTables [7] oneByOne (by decide)

end OlNode.MasterLedger.TreasuryFlow
