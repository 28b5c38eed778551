import Mathlib.Data.List.Nodup
import OlNode.Schema

/-!
# Messages and members

The rows of the messaging tables that sending, reading and paging look at. Contents are strings,
media items are known by their ids; instants have the resolution of the column, a millisecond, so
that a cursor written as an ISO string is read back as the same instant.
-/
namespace OlNode.Messaging

inductive MessageType where
  | text | image | video | audio | gift | textCoins | system | notification | transactional
  deriving DecidableEq

/-- `messages`. The pairs `(conversationId, seq)` and `(conversationId, clientMessageId)` are
unique. -/
structure Message where
  id : Nat
  conversationId : Nat
  senderId : UserId
  type : MessageType
  content : Option String
  mediaItems : List Nat
  isDeleted : Bool
  clientMessageId : Option Nat
  isAutoReply : Bool
  seq : Nat
  createdAt : Time
  deriving DecidableEq

/-- `conversation_members`; a user has one row in a conversation. `deletedAt` is when the user last
cleared the history. -/
structure ConversationMember where
  conversationId : Nat
  userId : UserId
  lastReadAt : Option Time
  lastReadMessageId : Option Nat
  isDeleted : Bool
  deletedAt : Option Time

/-- The `messages` table with its primary key. -/
structure MessageTable where
  rows : List Message
  unique : (rows.map (·.id)).Nodup

/-- `findUnique` on `conversationId_userId`. -/
def findMember (members : List ConversationMember) (conversationId : Nat) (userId : UserId) :
    Option ConversationMember :=
  members.find? fun m => m.conversationId = conversationId && m.userId = userId

theorem MessageTable.nodup (table : MessageTable) : table.rows.Nodup :=
  List.Nodup.of_map (·.id) table.unique

/-- Rows of the table with the same id are the same row. -/
theorem MessageTable.eq_of_id (table : MessageTable) {a b : Message} (inA : a ∈ table.rows)
    (inB : b ∈ table.rows) (same : a.id = b.id) : a = b :=
  List.inj_on_of_nodup_map table.unique inA inB same

end OlNode.Messaging
