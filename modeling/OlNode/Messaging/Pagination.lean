import Mathlib.Data.Nat.Basic
import OlNode.Paging
import OlNode.Messaging.Model

/-!
# Reading messages page by page

`listMessages` reads a conversation and `searchMessages` the results of a query, latest first. The
cursor is the instant of the last message of a page, and the next page begins strictly before it.
Messages of one instant that do not all fit on one page are therefore lost: nothing is lost exactly
if no page ends between two messages of the same instant.
-/
namespace OlNode.Messaging

open Paging

/-- How the database orders the messages of each query. -/
abbrev Arrangement := Option Time → List Message → List Message

/-! ### The messages of a conversation -/

/-- The rows that `listMessages` selects for a member, whatever the cursor. -/
def isListed (conversationId : Nat) (member : ConversationMember) (m : Message) : Bool :=
  m.conversationId = conversationId && member.deletedAt.all (· < m.createdAt)

/-- The body of a deleted message is left out. -/
def withDetails (m : Message) : Message :=
  if m.isDeleted then { m with content := none, mediaItems := [] } else m

def listMessages (table : MessageTable) (members : List ConversationMember) (arrange : Arrangement)
    (conversationId : Nat) (userId : UserId) (limit : Nat) (cursor : Option Time) :
    Page Time Message :=
  match findMember members conversationId userId with
  | none => { items := [], nextCursor := none }
  | some member =>
    let cond m := isListed conversationId member m && cursor.all (m.createdAt < ·)
    let messages := (arrange cursor (table.rows.filter cond)).take (limit + 1)
    let hasMore := decide (limit < messages.length)
    let page := if hasMore then messages.take limit else messages
    { items := page.map withDetails,
      nextCursor := if hasMore then page.getLast?.map (·.createdAt) else none }

/-- The messages a user can see in a conversation. -/
def visibleMessages (table : MessageTable) (members : List ConversationMember)
    (conversationId : Nat) (userId : UserId) : List Message :=
  table.rows.filter fun m =>
    (findMember members conversationId userId).any fun member => isListed conversationId member m

/-! ### The results of a search -/

structure MessageSearchRow where
  id : Nat
  conversationId : Nat
  senderId : UserId
  type : MessageType
  content : Option String
  createdAt : Time

def Message.searchRow (m : Message) : MessageSearchRow :=
  { id := m.id, conversationId := m.conversationId, senderId := m.senderId, type := m.type,
    content := m.content, createdAt := m.createdAt }

/-- The rows that `searchMessages` selects, whatever the cursor; `ilike` is the operator of the
database applied to a content and the query between wildcards. -/
def isFound (ilike : String → String → Bool) (members : List ConversationMember)
    (userId : UserId) (query : String) (m : Message) : Bool :=
  (findMember members m.conversationId userId).any fun cm =>
    !cm.isDeleted && !m.isDeleted && m.content.any (ilike · query) &&
      cm.deletedAt.all (· < m.createdAt)

def searchMessages (ilike : String → String → Bool) (table : MessageTable)
    (members : List ConversationMember) (arrange : Arrangement) (userId : UserId) (query : String)
    (limit : Nat) (cursor : Option Time) : List MessageSearchRow :=
  let cond m := isFound ilike members userId query m && cursor.all (m.createdAt < ·)
  ((arrange cursor (table.rows.filter cond)).take (limit + 1)).map Message.searchRow

/-- What the messaging service makes of the rows: the first `limit` of them, and the instant of the
last one as the cursor. -/
def searchPage (ilike : String → String → Bool) (table : MessageTable)
    (members : List ConversationMember) (arrange : Arrangement) (userId : UserId) (query : String)
    (limit : Nat) (cursor : Option Time) : Page Time MessageSearchRow :=
  cut (·.createdAt) limit (searchMessages ilike table members arrange userId query limit cursor)

def foundMessages (ilike : String → String → Bool) (table : MessageTable)
    (members : List ConversationMember) (userId : UserId) (query : String) : List Message :=
  table.rows.filter (isFound ilike members userId query)

/-! ### When nothing is lost -/

theorem withDetails_id (m : Message) : (withDetails m).id = m.id := by
  unfold withDetails
  split <;> rfl

theorem withDetails_createdAt (m : Message) : (withDetails m).createdAt = m.createdAt := by
  unfold withDetails
  split <;> rfl

private theorem filter_below (rows : List Message) (cond : Message → Bool) (cursor : Option Time) :
    (rows.filter fun m => cond m && cursor.all (m.createdAt < ·)) =
      below (·.createdAt) (rows.filter cond) cursor := by
  cases cursor with
  | none => simp [below]
  | some cursor => simp [below, List.filter_filter, Bool.and_comm]

/-- The page of a query that selects by `cond`. -/
private def pageOf (table : MessageTable) (cond : Message → Bool) (arrange : Arrangement)
    (limit : Nat) (cursor : Option Time) : Page Time Message :=
  cut (·.createdAt) limit
    ((arrange cursor (table.rows.filter fun m => cond m && cursor.all (m.createdAt < ·))).take
      (limit + 1))

private theorem pageOf_serves (table : MessageTable) (cond : Message → Bool)
    (arrange : Arrangement) (limit : Nat) :
    ServesKeys (·.createdAt) (table.rows.filter cond) limit arrange
      (pageOf table cond arrange limit) := by
  intro cursor
  rw [pageOf, filter_below]

private theorem listMessages_eq (table : MessageTable) (members : List ConversationMember)
    (arrange : Arrangement) (arranges : Arranges (·.createdAt) arrange) (conversationId : Nat)
    (userId : UserId) (limit : Nat) (cursor : Option Time) :
    listMessages table members arrange conversationId userId limit cursor =
      mapItems withDetails (pageOf table
        (fun m => (findMember members conversationId userId).any fun member =>
          isListed conversationId member m) arrange limit cursor) := by
  unfold listMessages
  cases found : findMember members conversationId userId with
  | none =>
    have empty : arrange cursor [] = [] := List.Perm.eq_nil (arranges cursor []).1
    simp [pageOf, mapItems, cut, empty]
  | some member =>
    simp only [pageOf, mapItems, cut, Option.any_some, decide_eq_true_eq]
    split
    · rfl
    · rfl

private theorem searchPage_eq (ilike : String → String → Bool) (table : MessageTable)
    (members : List ConversationMember) (arrange : Arrangement) (userId : UserId) (query : String)
    (limit : Nat) (cursor : Option Time) :
    searchPage ilike table members arrange userId query limit cursor =
      mapItems Message.searchRow
        (pageOf table (isFound ilike members userId query) arrange limit cursor) := by
  have keys : (fun row : MessageSearchRow => row.createdAt) ∘ Message.searchRow =
      fun m => m.createdAt := rfl
  simp only [searchPage, searchMessages, pageOf, mapItems, cut, List.length_map]
  split
  · simp [← List.map_take, List.getLast?_map, keys]
  · rfl

section Exhaustive

variable (table : MessageTable) (members : List ConversationMember) {arrange : Arrangement}
  (arranges : Arranges (·.createdAt) arrange) (userId : UserId) {limit : Nat} (positive : 1 ≤ limit)
include arranges positive

private theorem listMessages_exhaustive_iff (conversationId : Nat) :
    Exhaustive (·.createdAt)
        ((visibleMessages table members conversationId userId).map withDetails)
        (listMessages table members arrange conversationId userId limit) ↔
      TiesTogether (·.createdAt) limit (visibleMessages table members conversationId userId) := by
  rw [funext (listMessages_eq table members arrange arranges conversationId userId limit)]
  refine exhaustive_map_iff (table.nodup.filter _) positive arranges (pageOf_serves table _ _ _)
    (fun a inA b inB same => ?_) withDetails_createdAt
  refine table.eq_of_id (List.mem_of_mem_filter inA) (List.mem_of_mem_filter inB) ?_
  rw [← withDetails_id a, ← withDetails_id b, same]

private theorem searchPage_exhaustive_iff (ilike : String → String → Bool) (query : String) :
    Exhaustive (·.createdAt)
        ((foundMessages ilike table members userId query).map Message.searchRow)
        (searchPage ilike table members arrange userId query limit) ↔
      TiesTogether (·.createdAt) limit (foundMessages ilike table members userId query) := by
  rw [funext (searchPage_eq ilike table members arrange userId query limit)]
  refine exhaustive_map_iff (table.nodup.filter _) positive arranges (pageOf_serves table _ _ _)
    (fun a inA b inB same => ?_) fun _ => rfl
  refine table.eq_of_id (List.mem_of_mem_filter inA) (List.mem_of_mem_filter inB) ?_
  exact congrArg MessageSearchRow.id same

end Exhaustive

/-- Reading on yields every visible message of a conversation, each once and in order, and tells
whether there are more, exactly if the messages of one instant always fall on one page; and so for
the results of a search. -/
theorem messages_exhaustive_iff (table : MessageTable) (members : List ConversationMember)
    (arrange : Arrangement) (arranges : Arranges (·.createdAt) arrange) (userId : UserId)
    (conversationId : Nat) (ilike : String → String → Bool) (query : String) (limit : Nat)
    (positive : 1 ≤ limit) :
    (Exhaustive (·.createdAt)
        ((visibleMessages table members conversationId userId).map withDetails)
        (listMessages table members arrange conversationId userId limit) ↔
      TiesTogether (·.createdAt) limit (visibleMessages table members conversationId userId)) ∧
    (Exhaustive (·.createdAt)
        ((foundMessages ilike table members userId query).map Message.searchRow)
        (searchPage ilike table members arrange userId query limit) ↔
      TiesTogether (·.createdAt) limit (foundMessages ilike table members userId query)) :=
  ⟨listMessages_exhaustive_iff table members arranges userId positive conversationId,
    searchPage_exhaustive_iff table members arranges userId positive ilike query⟩

/-- A database that breaks ties by the order of its rows. -/
def stableOrder : Arrangement := fun _ rows => rows.mergeSort fun a b => b.createdAt ≤ a.createdAt

theorem stableOrder_arranges : Arranges (·.createdAt) stableOrder := by
  intro cursor rows
  refine ⟨List.mergeSort_perm _ _, ?_⟩
  have sorted := @List.pairwise_mergeSort Message (fun a b => b.createdAt ≤ a.createdAt)
    (fun a b c first second => by
      simp only [decide_eq_true_eq] at *
      exact Nat.le_trans second first)
    (fun a b => by
      simp only [Bool.or_eq_true, decide_eq_true_eq]
      exact Nat.le_total _ _) rows
  exact sorted.imp fun before => by simpa using before

/-- Three messages of one conversation, the two later ones sent in the same millisecond. -/
def tiedMessages : MessageTable where
  rows := [
    { id := 1, conversationId := 1, senderId := 1, type := .text, content := some "hi",
      mediaItems := [], isDeleted := false, clientMessageId := some 1, isAutoReply := false,
      seq := 1, createdAt := 5 },
    { id := 2, conversationId := 1, senderId := 2, type := .text, content := some "hi",
      mediaItems := [], isDeleted := false, clientMessageId := some 2, isAutoReply := false,
      seq := 2, createdAt := 7 },
    { id := 3, conversationId := 1, senderId := 1, type := .text, content := some "hi",
      mediaItems := [], isDeleted := false, clientMessageId := some 3, isAutoReply := false,
      seq := 3, createdAt := 7 }]
  unique := by decide

def pair : List ConversationMember :=
  [⟨1, 1, none, none, false, none⟩, ⟨1, 2, none, none, false, none⟩]

/-- Two rows to a page keep the tie together. -/
theorem messages_exhaustive_pairs :
    Exhaustive (·.createdAt) ((visibleMessages tiedMessages pair 1 1).map withDetails)
        (listMessages tiedMessages pair stableOrder 1 1 2) ∧
      Exhaustive (·.createdAt)
        ((foundMessages (fun _ _ => true) tiedMessages pair 1 "hi").map Message.searchRow)
        (searchPage (fun _ _ => true) tiedMessages pair stableOrder 1 "hi" 2) := by
  have both := messages_exhaustive_iff tiedMessages pair stableOrder stableOrder_arranges 1 1
    (fun _ _ => true) "hi" 2 (by decide)
  exact ⟨both.1.mpr (by decide), both.2.mpr (by decide)⟩

/-- One row to a page loses one of the tied messages. -/
theorem messages_not_exhaustive :
    ¬Exhaustive (·.createdAt) ((visibleMessages tiedMessages pair 1 1).map withDetails)
        (listMessages tiedMessages pair stableOrder 1 1 1) ∧
      ¬Exhaustive (·.createdAt)
        ((foundMessages (fun _ _ => true) tiedMessages pair 1 "hi").map Message.searchRow)
        (searchPage (fun _ _ => true) tiedMessages pair stableOrder 1 "hi" 1) := by
  have positive : 1 ≤ 1 := Nat.le_refl 1
  constructor
  · rw [listMessages_exhaustive_iff tiedMessages pair stableOrder_arranges 1 positive]
    decide
  · rw [searchPage_exhaustive_iff tiedMessages pair stableOrder_arranges 1 positive]
    decide

end OlNode.Messaging
