import Mathlib.Data.List.Pairwise
import OlNode.Keyed
import OlNode.Messaging.Model
import OlNode.ReadCommitted.Journal

/-!
# Read cursors

The last message a member has read. `updateReadCursor` reads the stored cursor in one statement,
compares, and stores the new one in a later statement, so an update to a later message may be stored
in between. `getUnreadCount` counts by instants, where the cursor is ordered by `seq`.

The history records the cursors as they are stored and the messages as they are sent. A cursor is
clear if no later message has been stored for the member since the update read the member row, a
message if it is later than those before it. In runs of clear entries the cursor never moves
backward and the unread count is the number of messages behind it.
-/
namespace OlNode.Messaging

open ReadCommitted

/-- A stored cursor. `seen` is the length of the history when the update read the member row. -/
structure CursorWrite where
  conversationId : Nat
  userId : UserId
  messageId : Nat
  seq : Nat
  seen : Nat
  deriving DecidableEq

inductive CursorEvent where
  | stored (write : CursorWrite)
  | sent (message : Message)
  deriving DecidableEq

/-- The messages in the order they were sent, the members, and `conversations.lastSeq`. -/
structure CursorDb where
  messages : List Message := []
  members : List ConversationMember := []
  lastSeq : Nat → Nat := fun _ => 0
  history : List CursorEvent := []

inductive CursorError where
  | notAMember
  | invalidMessage
  deriving DecidableEq

inductive CursorRow where
  | conversation (conversationId : Nat)
  | member (conversationId : Nat) (userId : UserId)
  | message (id : Nat)
  deriving DecidableEq

abbrev CursorProg := Prog CursorDb CursorRow CursorError

namespace CursorDb

variable (db : CursorDb)

def findMessage (id : Nat) : Option Message := db.messages.find? (·.id = id)

/-- The message as the request names it: it must be one of the conversation, and not deleted. -/
def findReadable (conversationId messageId : Nat) : Option Message :=
  db.messages.find? fun m =>
    m.id = messageId && m.conversationId = conversationId && !m.isDeleted

def storeCursor (conversationId : Nat) (userId : UserId) (msg : Message) (seen : Nat) : CursorDb :=
  { db with
    members := db.members.map fun member =>
      if member.conversationId = conversationId ∧ member.userId = userId then
        { member with lastReadAt := some msg.createdAt, lastReadMessageId := some msg.id }
      else member
    history := db.history ++ [.stored ⟨conversationId, userId, msg.id, msg.seq, seen⟩] }

/-- The row as `sendMessageWithOutbox` inserts it, under the lock of the conversation. The generated
id is the number of messages before it. -/
def insertMessage (draft : Message) : CursorDb :=
  let message := { draft with
    id := db.messages.length, seq := db.lastSeq draft.conversationId + 1, isDeleted := false }
  { db with
    messages := db.messages ++ [message]
    lastSeq := Function.update db.lastSeq draft.conversationId message.seq
    history := db.history ++ [.sent message] }

def softDelete (id : Nat) : CursorDb :=
  { db with messages := db.messages.map fun m =>
      if m.id = id then { m with isDeleted := true } else m }

end CursorDb

/-! ### The operations -/

def storeReadCursor (conversationId : Nat) (userId : UserId) (msg : Message) (seen : Nat) :
    CursorProg Bool := do
  Prog.autocommit (.member conversationId userId) (·.storeCursor conversationId userId msg seen)
  pure true

/-- Compare with the cursor that was read, and store the new one if it is ahead. -/
def advanceReadCursor (conversationId : Nat) (userId : UserId) (member : ConversationMember)
    (msg : Message) (seen : Nat) : CursorProg Bool :=
  match member.lastReadMessageId with
  | none => storeReadCursor conversationId userId msg seen
  | some lastReadMessageId => do
    let prev ← Prog.select (·.findMessage lastReadMessageId)
    if prev.any (msg.seq ≤ ·.seq) then pure false
    else storeReadCursor conversationId userId msg seen

def updateReadCursor (conversationId : Nat) (userId : UserId) (messageId : Nat) :
    CursorProg Bool := do
  let (member, seen) ← Prog.select fun s =>
    (findMember s.members conversationId userId, s.history.length)
  match member with
  | none => .fail .notAMember
  | some member =>
    let msg ← Prog.select (·.findReadable conversationId messageId)
    match msg with
    | none => .fail .invalidMessage
    | some msg =>
      if msg.isAutoReply && msg.senderId = userId then pure false
      else advanceReadCursor conversationId userId member msg seen

/-- `count` of the messages of others that are later than an instant. -/
def CursorDb.countSince (db : CursorDb) (conversationId : Nat) (userId : UserId) (since : Time) :
    Nat :=
  db.messages.countP fun m => m.conversationId = conversationId && m.senderId ≠ userId &&
    !m.isDeleted && since < m.createdAt

/-- The later of the stored instant and the instant of the cursor message. -/
def sinceOf (lastReadAt : Time) : Option Message → Time
  | none => lastReadAt
  | some cursorMsg => if lastReadAt < cursorMsg.createdAt then cursorMsg.createdAt else lastReadAt

def getUnreadCount (conversationId : Nat) (userId : UserId) : CursorProg Nat := do
  let member ← Prog.select fun s => findMember s.members conversationId userId
  match member with
  | none => pure 0
  | some member =>
    match member.lastReadMessageId with
    | none => Prog.select (·.countSince conversationId userId (member.lastReadAt.getD 0))
    | some lastReadMessageId => do
      let cursorMsg ← Prog.select (·.findMessage lastReadMessageId)
      Prog.select (·.countSince conversationId userId
        (sinceOf (member.lastReadAt.getD 0) cursorMsg))

inductive CursorRequest where
  | updateReadCursor (conversationId : Nat) (userId : UserId) (messageId : Nat)
  | sendMessage (draft : Message)
  | softDeleteMessage (id : Nat)

def cursorHandler : CursorRequest → CursorProg Unit
  | .updateReadCursor conversationId userId messageId =>
    updateReadCursor conversationId userId messageId >>= fun _ => pure ()
  | .sendMessage draft =>
    Prog.autocommit (.conversation draft.conversationId) (·.insertMessage draft)
  | .softDeleteMessage id => Prog.autocommit (.message id) (·.softDelete id)

/-! ### Clear runs -/

/-- The events that store a cursor of the member. -/
def storedSeq (conversationId : Nat) (userId : UserId) : CursorEvent → Option Nat
  | .stored write =>
    if write.conversationId = conversationId ∧ write.userId = userId then some write.seq else none
  | .sent _ => none

/-- The `seq` values of the cursors stored for a member, oldest first. -/
def storedSeqs (conversationId : Nat) (userId : UserId) (history : List CursorEvent) : List Nat :=
  history.filterMap (storedSeq conversationId userId)

def cursorJournal : Journal CursorDb CursorEvent where
  entries := CursorDb.history
  clear db
    | .stored write =>
      (storedSeqs write.conversationId write.userId (db.history.drop write.seen)).all
        (· ≤ write.seq)
    | .sent message => 0 < message.createdAt && db.messages.all fun earlier =>
      earlier.conversationId ≠ message.conversationId || earlier.createdAt < message.createdAt

/-- The `seq` of the message the stored cursor points to. -/
def CursorDb.lastReadSeq (db : CursorDb) (conversationId : Nat) (userId : UserId) : Option Nat := do
  let member ← findMember db.members conversationId userId
  let message ← member.lastReadMessageId.bind db.findMessage
  pure message.seq

/-- The messages of others that a member has not read, going by the order of the conversation. -/
def CursorDb.unread (db : CursorDb) (conversationId : Nat) (userId : UserId) : Nat :=
  db.messages.countP fun m => m.conversationId = conversationId && m.senderId ≠ userId &&
    !m.isDeleted && (db.lastReadSeq conversationId userId).all (· < m.seq)

/-! ### The invariant -/

/-- What the member row says of the cursor: it is the last one stored, and its instant is that of
the message. -/
structure PointsAt (db : CursorDb) (member : ConversationMember) : Prop where
  unset : member.lastReadMessageId = none → member.lastReadAt = none ∧
    storedSeqs member.conversationId member.userId db.history = []
  set : ∀ id, member.lastReadMessageId = some id → ∃ m, db.findMessage id = some m ∧
    m.conversationId = member.conversationId ∧ member.lastReadAt = some m.createdAt ∧
    (storedSeqs member.conversationId member.userId db.history).getLast? = some m.seq

/-- The later of two messages of a conversation has the higher `seq` and the later instant. -/
structure CursorLawful (db : CursorDb) : Prop where
  ids : db.messages.map (·.id) = List.range db.messages.length
  ordered : db.messages.Pairwise fun a b =>
    a.conversationId = b.conversationId → a.seq < b.seq ∧ a.createdAt < b.createdAt
  bounded : ∀ m ∈ db.messages, m.seq ≤ db.lastSeq m.conversationId ∧ 0 < m.createdAt
  keys : (db.members.map fun m => (m.conversationId, m.userId)).Nodup
  points : ∀ member ∈ db.members, PointsAt db member
  forward : ∀ conversationId userId,
    (storedSeqs conversationId userId db.history).Pairwise (· ≤ ·)

structure SameMessage (m m' : Message) : Prop where
  id : m'.id = m.id
  conversationId : m'.conversationId = m.conversationId
  seq : m'.seq = m.seq
  createdAt : m'.createdAt = m.createdAt

structure CursorGrows (s t : CursorDb) : Prop where
  history : s.history <+: t.history
  messages : ∀ id m, s.findMessage id = some m →
    ∃ m', t.findMessage id = some m' ∧ SameMessage m m'

section Lawful

variable {db : CursorDb} {conversationId : Nat} {userId : UserId}

@[simp] theorem storedSeqs_append (first second : List CursorEvent) :
    storedSeqs conversationId userId (first ++ second) =
      storedSeqs conversationId userId first ++ storedSeqs conversationId userId second :=
  List.filterMap_append

@[simp] theorem storedSeqs_sent (message : Message) :
    storedSeqs conversationId userId [.sent message] = [] := rfl

theorem storedSeqs_stored (write : CursorWrite) :
    storedSeqs conversationId userId [.stored write] =
      if write.conversationId = conversationId ∧ write.userId = userId then [write.seq] else [] := by
  simp only [storedSeqs, List.filterMap_cons, storedSeq, List.filterMap_nil]
  split <;> simp_all

private theorem sameMessage_refl (m : Message) : SameMessage m m := ⟨rfl, rfl, rfl, rfl⟩

private theorem sameMessage_trans {a b c : Message} (first : SameMessage a b)
    (second : SameMessage b c) : SameMessage a c :=
  ⟨second.id.trans first.id, second.conversationId.trans first.conversationId,
    second.seq.trans first.seq, second.createdAt.trans first.createdAt⟩

theorem CursorGrows.refl (s : CursorDb) : CursorGrows s s :=
  ⟨List.prefix_rfl, fun _ m found => ⟨m, found, sameMessage_refl m⟩⟩

theorem CursorGrows.trans {s t u : CursorDb} (first : CursorGrows s t) (second : CursorGrows t u) :
    CursorGrows s u := by
  refine ⟨first.history.trans second.history, fun id m found => ?_⟩
  obtain ⟨m', found', same⟩ := first.messages id m found
  obtain ⟨m'', found'', same'⟩ := second.messages id m' found'
  exact ⟨m'', found'', sameMessage_trans same same'⟩

private theorem stored_le_last (lawful : CursorLawful db) {last : Nat}
    (isLast : (storedSeqs conversationId userId db.history).getLast? = some last) :
    ∀ seq ∈ storedSeqs conversationId userId db.history, seq ≤ last := by
  obtain ⟨front, split⟩ := List.getLast?_eq_some_iff.mp isLast
  have sorted := lawful.forward conversationId userId
  rw [split] at sorted ⊢
  intro seq member
  rcases List.mem_append.mp member with early | same
  · exact (List.pairwise_append.mp sorted).2.2 seq early last (by simp)
  · exact Nat.le_of_eq (List.mem_singleton.mp same)

/-- Instants and `seq` put any two messages of a conversation in the same order. -/
theorem CursorLawful.later_iff (lawful : CursorLawful db) {a b : Message} (inA : a ∈ db.messages)
    (inB : b ∈ db.messages) (same : a.conversationId = b.conversationId) :
    a.createdAt < b.createdAt ↔ a.seq < b.seq := by
  let agree (a b : Message) : Prop := a.conversationId = b.conversationId →
    ((a.createdAt < b.createdAt ↔ a.seq < b.seq) ∧ (b.createdAt < a.createdAt ↔ b.seq < a.seq))
  have symmetric : Std.Symm agree := ⟨fun _ _ holds same => (holds same.symm).symm⟩
  have sorted : db.messages.Pairwise agree := by
    refine lawful.ordered.imp fun holds same => ?_
    obtain ⟨seqs, instants⟩ := holds same
    exact ⟨iff_of_true instants seqs,
      iff_of_false (Nat.lt_asymm instants) (Nat.lt_asymm seqs)⟩
  by_cases equal : a = b
  · simp [equal]
  · exact (sorted.forall inA inB equal same).1

theorem findMember_mem {members : List ConversationMember} {member : ConversationMember}
    (found : findMember members conversationId userId = some member) :
    member ∈ members ∧ member.conversationId = conversationId ∧ member.userId = userId := by
  have named := List.find?_some found
  simp only [Bool.and_eq_true, decide_eq_true_eq] at named
  exact ⟨List.mem_of_find?_eq_some found, named⟩

theorem CursorDb.findMessage_mem {id : Nat} {m : Message} (found : db.findMessage id = some m) :
    m ∈ db.messages ∧ m.id = id :=
  ⟨List.mem_of_find?_eq_some found, by simpa using List.find?_some found⟩

theorem CursorLawful.findMessage_of_mem (lawful : CursorLawful db) {m : Message}
    (member : m ∈ db.messages) : db.findMessage m.id = some m := by
  have unique : (db.messages.map (·.id)).Nodup := lawful.ids ▸ List.nodup_range
  exact Keyed.find?_of_mem unique member

/-! ### What the writes do -/

private theorem pointsAt_of_same {db' : CursorDb} {member : ConversationMember}
    (points : PointsAt db member)
    (same : storedSeqs member.conversationId member.userId db'.history =
      storedSeqs member.conversationId member.userId db.history)
    (grows : CursorGrows db db') : PointsAt db' member := by
  refine ⟨fun unset => same ▸ points.unset unset, fun id isSet => ?_⟩
  obtain ⟨m, found, conversation, instant, last⟩ := points.set id isSet
  obtain ⟨m', found', agrees⟩ := grows.messages id m found
  refine ⟨m', found', agrees.conversationId.trans conversation, ?_, ?_⟩
  · rw [agrees.createdAt, instant]
  · rw [same, agrees.seq, last]

private theorem storeCursor_grows (db : CursorDb) (conversationId : Nat) (userId : UserId)
    (msg : Message) (seen : Nat) :
    CursorGrows db (db.storeCursor conversationId userId msg seen) :=
  ⟨List.prefix_append _ _, fun _ m found => ⟨m, found, sameMessage_refl m⟩⟩

private theorem storeCursor_lawful (lawful : CursorLawful db) {msg msg' : Message} (seen : Nat)
    (found : db.findMessage msg.id = some msg') (agrees : SameMessage msg msg')
    (own : msg.conversationId = conversationId)
    (ahead : ∀ seq ∈ storedSeqs conversationId userId db.history, seq ≤ msg.seq) :
    CursorLawful (db.storeCursor conversationId userId msg seen) := by
  have grows := storeCursor_grows db conversationId userId msg seen
  have rekeyed : ∀ member : ConversationMember,
      (fun m : ConversationMember => (m.conversationId, m.userId))
        (if member.conversationId = conversationId ∧ member.userId = userId then
          { member with lastReadAt := some msg.createdAt, lastReadMessageId := some msg.id }
        else member) = (member.conversationId, member.userId) := by
    intro member
    dsimp only
    split <;> rfl
  refine ⟨lawful.ids, lawful.ordered, lawful.bounded, ?_, ?_, ?_⟩
  · have same : (db.storeCursor conversationId userId msg seen).members.map
        (fun m => (m.conversationId, m.userId)) =
          db.members.map fun m => (m.conversationId, m.userId) := by
      rw [CursorDb.storeCursor, List.map_map]
      exact List.map_congr_left fun member _ => rekeyed member
    rw [same]
    exact lawful.keys
  · intro member inside
    obtain ⟨old, inOld, rfl⟩ := List.mem_map.mp inside
    split
    next own' =>
      obtain ⟨rfl, rfl⟩ := own'
      refine ⟨fun unset => by simp at unset, fun id isSet => ?_⟩
      obtain rfl : msg.id = id := Option.some.inj isSet
      refine ⟨msg', found, agrees.conversationId.trans own, ?_, ?_⟩
      · rw [agrees.createdAt]
      · rw [agrees.seq]
        simp [CursorDb.storeCursor, storedSeqs_stored]
    next other =>
      refine pointsAt_of_same (lawful.points old inOld) ?_ grows
      have apart : ¬(conversationId = old.conversationId ∧ userId = old.userId) :=
        fun same => other ⟨same.1.symm, same.2.symm⟩
      simp [CursorDb.storeCursor, storedSeqs_stored, apart]
  · intro conversation user
    rw [CursorDb.storeCursor, storedSeqs_append, storedSeqs_stored]
    split
    next same =>
      obtain ⟨rfl, rfl⟩ := same
      refine List.pairwise_append.mpr ⟨lawful.forward _ _, List.pairwise_singleton _ _, ?_⟩
      intro seq early last isLast
      rw [List.mem_singleton.mp isLast]
      exact ahead seq early
    next => simpa using lawful.forward conversation user

private theorem insertMessage_grows (db : CursorDb) (draft : Message) :
    CursorGrows db (db.insertMessage draft) := by
  refine ⟨List.prefix_append _ _, fun id m found => ⟨m, ?_, sameMessage_refl m⟩⟩
  rw [CursorDb.findMessage, CursorDb.insertMessage, List.find?_append]
  rw [CursorDb.findMessage] at found
  rw [found, Option.some_or]

private theorem insertMessage_lawful (lawful : CursorLawful db) (draft : Message)
    (positive : 0 < draft.createdAt)
    (later : ∀ m ∈ db.messages, m.conversationId = draft.conversationId →
      m.createdAt < draft.createdAt) : CursorLawful (db.insertMessage draft) := by
  have grows := insertMessage_grows db draft
  refine ⟨?_, ?_, ?_, lawful.keys, ?_, ?_⟩
  · simp only [CursorDb.insertMessage, List.map_append, lawful.ids, List.map_cons, List.map_nil,
      List.length_append, List.length_singleton, List.range_succ]
  · refine List.pairwise_append.mpr ⟨lawful.ordered, List.pairwise_singleton _ _, ?_⟩
    intro a inA b isNew same
    rw [List.mem_singleton] at isNew
    subst isNew
    refine ⟨Nat.lt_succ_of_le ?_, later a inA same⟩
    have bound := (lawful.bounded a inA).1
    rwa [same] at bound
  · intro m inside
    rcases List.mem_append.mp inside with old | isNew
    · obtain ⟨bound, instant⟩ := lawful.bounded m old
      refine ⟨?_, instant⟩
      by_cases same : m.conversationId = draft.conversationId
      · rw [same] at bound ⊢
        simp only [CursorDb.insertMessage, Function.update_self]
        exact Nat.le_succ_of_le bound
      · simpa [CursorDb.insertMessage, Function.update_of_ne same] using bound
    · rw [List.mem_singleton] at isNew
      subst isNew
      exact ⟨by simp [CursorDb.insertMessage], positive⟩
  · intro member inside
    refine pointsAt_of_same (lawful.points member inside) ?_ grows
    simp [CursorDb.insertMessage]
  · intro conversation user
    simpa [CursorDb.insertMessage] using lawful.forward conversation user

private theorem softDelete_grows (db : CursorDb) (id : Nat) :
    CursorGrows db (db.softDelete id) := by
  refine ⟨List.prefix_rfl, fun other m found => ?_⟩
  have kept : ∀ row : Message, (if row.id = id then { row with isDeleted := true } else row).id =
      row.id := by
    intro row
    split <;> rfl
  refine ⟨if m.id = id then { m with isDeleted := true } else m, ?_, ?_⟩
  · rw [CursorDb.findMessage, CursorDb.softDelete, Keyed.find?_map kept]
    rw [CursorDb.findMessage] at found
    rw [found, Option.map_some]
  · split
    · exact ⟨rfl, rfl, rfl, rfl⟩
    · exact sameMessage_refl m

private theorem softDelete_lawful (lawful : CursorLawful db) (id : Nat) :
    CursorLawful (db.softDelete id) := by
  have grows := softDelete_grows db id
  have same : ∀ row : Message,
      SameMessage row (if row.id = id then { row with isDeleted := true } else row) := by
    intro row
    split
    · exact ⟨rfl, rfl, rfl, rfl⟩
    · exact sameMessage_refl row
  refine ⟨?_, ?_, ?_, lawful.keys, ?_, lawful.forward⟩
  · have ids : (db.softDelete id).messages.map (·.id) = db.messages.map (·.id) := by
      rw [CursorDb.softDelete, List.map_map]
      exact List.map_congr_left fun row _ => (same row).id
    rw [ids, lawful.ids]
    simp [CursorDb.softDelete]
  · refine List.pairwise_map.mpr (lawful.ordered.imp fun {a b} holds conversation => ?_)
    rw [(same a).conversationId, (same b).conversationId] at conversation
    rw [(same a).seq, (same b).seq, (same a).createdAt, (same b).createdAt]
    exact holds conversation
  · intro m inside
    obtain ⟨old, inOld, rfl⟩ := List.mem_map.mp inside
    rw [(same old).conversationId, (same old).seq, (same old).createdAt]
    exact lawful.bounded old inOld
  · exact fun member inside => pointsAt_of_same (lawful.points member inside) rfl grows

end Lawful

/-! ### Runs -/

def cursorAgreement : Agreement CursorRequest CursorDb CursorRow where
  inv := CursorLawful
  grows := CursorGrows
  same _ _ _ := True
  step _ _ _ := True
  allows _ := cursorJournal.Allowed
  grows_refl := CursorGrows.refl
  grows_trans _ _ _ := CursorGrows.trans
  same_refl _ _ := trivial
  same_trans _ _ _ _ _ _ := trivial

section Runs

variable {request : CursorRequest} {s : CursorDb}

private abbrev Served (request : CursorRequest) {α : Type} (p : CursorProg α) (s : CursorDb) :
    Prop :=
  p.Abides cursorAgreement request s

private theorem autocommit_served {row : CursorRow} {f : CursorDb → CursorDb}
    (kept : ∀ u, CursorGrows s u → CursorLawful u →
      cursorJournal.Allowed (κ := CursorRow) (.commit f) u →
      CursorLawful (f u) ∧ CursorGrows u (f u)) : Served request (Prog.autocommit row f) s := by
  refine Prog.relies_autocommit fun t first _ u second committing => ⟨?_, trivial⟩
  obtain ⟨lawful, grows⟩ := kept u (first.grows.trans second.grows) second.inv committing
  exact ⟨lawful, grows, fun _ _ => trivial, trivial⟩

/-- The cursor is ahead of all that was stored when the member row was read, and by the condition on
the run also of what was stored since. -/
private theorem storeReadCursor_served {conversationId : Nat} {userId : UserId}
    {msg msg' : Message} {seen : Nat} (own : msg.conversationId = conversationId)
    (found : s.findMessage msg.id = some msg') (agrees : SameMessage msg msg')
    (read : seen ≤ s.history.length)
    (ahead : ∀ seq ∈ storedSeqs conversationId userId (s.history.take seen), seq ≤ msg.seq) :
    Served request (storeReadCursor conversationId userId msg seen) s := by
  refine Prog.Relies.bind (autocommit_served fun u grows lawful clear => ?_)
    (fun _ _ _ => Prog.relies_pure trivial) fun _ _ _ => trivial
  obtain ⟨msg'', found', onward⟩ := grows.messages _ _ found
  refine ⟨storeCursor_lawful lawful seen found' (sameMessage_trans agrees onward) own
    fun seq member => ?_, storeCursor_grows u _ _ msg seen⟩
  have split := List.take_append_drop seen u.history
  rw [← split, storedSeqs_append, List.mem_append] at member
  rcases member with before | since
  · obtain ⟨rest, later⟩ := grows.history
    rw [← later, List.take_append_of_le_length read] at before
    exact ahead seq before
  · have all := clear (.stored ⟨conversationId, userId, msg.id, msg.seq, seen⟩) rfl
    simp only [cursorJournal, List.all_eq_true, decide_eq_true_eq] at all
    exact all seq since

private theorem updateReadCursor_served (conversationId : Nat) (userId : UserId) (messageId : Nat)
    (s : CursorDb) : Served request (updateReadCursor conversationId userId messageId) s := by
  refine Prog.relies_select fun t rely => ?_
  dsimp only
  cases isMember : findMember t.members conversationId userId with
  | none => exact Prog.relies_fail trivial
  | some member =>
    obtain ⟨inside, rfl, rfl⟩ := findMember_mem isMember
    have points := rely.inv.points member inside
    refine Prog.relies_select fun u later => ?_
    cases readable : u.findReadable member.conversationId messageId with
    | none => exact Prog.relies_fail trivial
    | some msg =>
      dsimp only
      split
      · exact Prog.relies_pure trivial
      · have named := List.find?_some readable
        simp only [Bool.and_eq_true, decide_eq_true_eq] at named
        have found := later.inv.findMessage_of_mem (List.mem_of_find?_eq_some readable)
        obtain ⟨rest, history⟩ := later.grows.history
        have seen : t.history.length ≤ u.history.length := by
          rw [← history, List.length_append]
          omega
        have before : u.history.take t.history.length = t.history := by
          rw [← history, List.take_left]
        unfold advanceReadCursor
        cases last : member.lastReadMessageId with
        | none =>
          refine storeReadCursor_served named.1.2 found (sameMessage_refl msg) seen ?_
          rw [before, (points.unset last).2]
          simp
        | some lastReadMessageId =>
          refine Prog.relies_select fun v onward => ?_
          obtain ⟨prev, foundPrev, -, -, isLast⟩ := points.set lastReadMessageId last
          obtain ⟨prev', foundPrev', agrees⟩ :=
            (later.grows.trans onward.grows).messages _ _ foundPrev
          obtain ⟨msg', foundMsg, same⟩ := onward.grows.messages _ _ found
          rw [foundPrev', Option.any_some]
          split
          · exact Prog.relies_pure trivial
          next behind =>
            have further : prev.seq < msg.seq := by
              rw [agrees.seq, decide_eq_true_eq] at behind
              omega
            obtain ⟨rest', history'⟩ := onward.grows.history
            have seen' : t.history.length ≤ v.history.length := by
              rw [← history', List.length_append]
              omega
            have before' : v.history.take t.history.length = t.history := by
              rw [← history', List.take_append_of_le_length seen, before]
            refine storeReadCursor_served named.1.2 foundMsg same seen' fun seq member => ?_
            rw [before'] at member
            have bound := stored_le_last rely.inv isLast seq member
            omega

private theorem cursorHandler_served (request : CursorRequest) (s : CursorDb) :
    Served request (cursorHandler request) s := by
  cases request with
  | updateReadCursor conversationId userId messageId =>
    exact Prog.Relies.bind (updateReadCursor_served conversationId userId messageId s)
      (fun _ _ _ => Prog.relies_pure trivial) fun _ _ _ => trivial
  | sendMessage draft =>
    refine autocommit_served fun u _ lawful clear => ?_
    have later := clear (.sent _) rfl
    simp only [cursorJournal, Bool.and_eq_true, decide_eq_true_eq, List.all_eq_true,
      Bool.or_eq_true, ne_eq, decide_not, Bool.not_eq_true', decide_eq_false_iff_not] at later
    refine ⟨insertMessage_lawful lawful draft later.1 fun m member same => ?_,
      insertMessage_grows u draft⟩
    exact (later.2 m member).resolve_left fun apart => apart same
  | softDeleteMessage id =>
    exact autocommit_served fun u _ lawful _ =>
      ⟨softDelete_lawful lawful id, softDelete_grows u id⟩

end Runs

/-! ### The unread count -/

section Unread

variable {db : CursorDb} {conversationId : Nat} {userId : UserId} {member : ConversationMember}

private theorem lastReadSeq_eq (lawful : CursorLawful db)
    (found : findMember db.members conversationId userId = some member) :
    db.lastReadSeq conversationId userId =
      (storedSeqs conversationId userId db.history).getLast? := by
  obtain ⟨inside, rfl, rfl⟩ := findMember_mem found
  have points := lawful.points member inside
  rw [CursorDb.lastReadSeq, found]
  cases last : member.lastReadMessageId with
  | none => simp [last, (points.unset last).2]
  | some lastReadMessageId =>
    obtain ⟨m, foundMessage, -, -, isLast⟩ := points.set lastReadMessageId last
    simp [last, foundMessage, isLast]

private theorem getUnreadCount_eq (lawful : CursorLawful db)
    (found : findMember db.members conversationId userId = some member) :
    (getUnreadCount conversationId userId).call db = (.ok (db.unread conversationId userId), db) := by
  obtain ⟨inside, rfl, rfl⟩ := findMember_mem found
  have points := lawful.points member inside
  have counts : ∀ since : Time, (∀ m ∈ db.messages, m.conversationId = member.conversationId →
      (since < m.createdAt ↔
        ∀ last ∈ db.lastReadSeq member.conversationId member.userId, last < m.seq)) →
      db.countSince member.conversationId member.userId since =
        db.unread member.conversationId member.userId := by
    intro since agrees
    refine List.countP_congr fun m inMessages => ?_
    simp only [Bool.and_eq_true, decide_eq_true_eq, Option.all_eq_true]
    constructor
    · rintro ⟨⟨⟨conversation, sender⟩, kept⟩, later⟩
      exact ⟨⟨⟨conversation, sender⟩, kept⟩, (agrees m inMessages conversation).mp later⟩
    · rintro ⟨⟨⟨conversation, sender⟩, kept⟩, later⟩
      exact ⟨⟨⟨conversation, sender⟩, kept⟩, (agrees m inMessages conversation).mpr later⟩
  unfold getUnreadCount
  rw [Prog.call_select_bind, found]
  dsimp only
  cases last : member.lastReadMessageId with
  | none =>
    obtain ⟨instant, empty⟩ := points.unset last
    have noCursor : db.lastReadSeq member.conversationId member.userId = none := by
      rw [lastReadSeq_eq lawful found, empty]
      rfl
    have all := counts (member.lastReadAt.getD 0) fun m inMessages _ => by
      rw [instant, noCursor]
      simpa using (lawful.bounded m inMessages).2
    exact congrArg (fun n => (Except.ok n, db)) all
  | some lastReadMessageId =>
    obtain ⟨m, foundMessage, own, instant, isLast⟩ := points.set lastReadMessageId last
    have cursor : db.lastReadSeq member.conversationId member.userId = some m.seq :=
      (lastReadSeq_eq lawful found).trans isLast
    have all := counts (sinceOf (member.lastReadAt.getD 0) (some m)) fun x inMessages conversation => by
      rw [instant, cursor]
      have later := lawful.later_iff (CursorDb.findMessage_mem foundMessage).1 inMessages
        (own.trans conversation.symm)
      simpa [sinceOf] using later
    dsimp only
    rw [Prog.call_select_bind, foundMessage]
    exact congrArg (fun n => (Except.ok n, db)) all

end Unread

/-- In a clear run the cursors of a member are stored in ascending order, the last of them is the one
in the member row, and the unread count is the number of messages of others behind it. -/
theorem readCursor_forward {db : CursorDb} (lawful : CursorLawful db)
    {c : Config CursorRequest CursorDb CursorRow CursorError}
    (run : Reaches cursorHandler cursorJournal.Orderly (Config.idle db) c) (conversationId : Nat)
    (userId : UserId) (isMember : (findMember c.db.members conversationId userId).isSome) :
    (storedSeqs conversationId userId c.db.history).Pairwise (· ≤ ·) ∧
      c.db.lastReadSeq conversationId userId =
        (storedSeqs conversationId userId c.db.history).getLast? ∧
      (getUnreadCount conversationId userId).call c.db =
        (.ok (c.db.unread conversationId userId), c.db) := by
  have observed := run.observed (fun request s _ => cursorHandler_served request s)
    (fun _ _ orderly => orderly) (lawful : cursorAgreement.inv db)
  have after : CursorLawful c.db := observed.inv
  obtain ⟨member, found⟩ := Option.isSome_iff_exists.mp isMember
  exact ⟨after.forward conversationId userId, lastReadSeq_eq after found,
    getUnreadCount_eq after found⟩

/-! ### Runs of a few calls -/

/-- A conversation of users 1 and 2 without messages. -/
def emptyConversation : CursorDb :=
  { members := [⟨1, 1, none, none, false, none⟩, ⟨1, 2, none, none, false, none⟩] }

def textAt (createdAt : Time) : Message :=
  { id := 0, conversationId := 1, senderId := 2, type := .text, content := some "hi",
    mediaItems := [], isDeleted := false, clientMessageId := none, isAutoReply := false, seq := 0,
    createdAt }

private theorem lawful_emptyConversation : CursorLawful emptyConversation := by
  refine ⟨rfl, List.Pairwise.nil, by simp [emptyConversation], by decide, fun member inside => ?_,
    fun _ _ => List.Pairwise.nil⟩
  simp only [emptyConversation, List.mem_cons, List.not_mem_nil, or_false] at inside
  rcases inside with rfl | rfl
  · exact ⟨fun _ => ⟨rfl, rfl⟩, by simp⟩
  · exact ⟨fun _ => ⟨rfl, rfl⟩, by simp⟩

/-- User 1 reads the first of three messages on one device and the second on another, and then the
first device reports the first one again; one is left to read. -/
theorem readCursor_forward_first :
    ∃ c : Config CursorRequest CursorDb CursorRow CursorError,
      storedSeqs 1 1 c.db.history = [1, 2] ∧ c.db.unread 1 1 = 1 ∧
      (storedSeqs 1 1 c.db.history).Pairwise (· ≤ ·) ∧
      c.db.lastReadSeq 1 1 = (storedSeqs 1 1 c.db.history).getLast? ∧
      (getUnreadCount 1 1).call c.db = (.ok (c.db.unread 1 1), c.db) := by
  obtain ⟨c, run, stored, unread, isMember⟩ : ∃ c, Reaches cursorHandler cursorJournal.Orderly
      (Config.idle emptyConversation) c ∧ storedSeqs 1 1 c.db.history = [1, 2] ∧
      c.db.unread 1 1 = 1 ∧ (findMember c.db.members 1 1).isSome = true :=
    exists_reaches_checked cursorJournal.orderly_of_checks [serve (.sendMessage (textAt 5)) 0 2,
      serve (.sendMessage (textAt 7)) 1 2, serve (.sendMessage (textAt 9)) 2 2,
      serve (.updateReadCursor 1 1 0) 3 4, serve (.updateReadCursor 1 1 1) 4 5,
      serve (.updateReadCursor 1 1 0) 5 3] (by decide +kernel)
  exact ⟨c, stored, unread, readCursor_forward lawful_emptyConversation run 1 1 isMember⟩

/-- Two devices of user 1 report different messages at once, and the report of the earlier one is
stored last. And of two messages of one millisecond the first is read; the second is not counted. -/
theorem readCursor_not_forward :
    (∃ c, Reaches cursorHandler (fun _ _ => True) (Config.idle emptyConversation) c ∧
      storedSeqs 1 1 c.db.history = [2, 1] ∧ c.db.lastReadSeq 1 1 = some 1) ∧
    ∃ c, Reaches cursorHandler (fun _ _ => True) (Config.idle emptyConversation) c ∧
      c.db.unread 1 1 = 1 ∧ ((getUnreadCount 1 1).call c.db).1.toOption = some 0 := by
  constructor
  · exact exists_reaches [serve (.sendMessage (textAt 5)) 0 2,
      serve (.sendMessage (textAt 7)) 1 2,
      serve (.updateReadCursor 1 1 0) 2 2,
      serve (.updateReadCursor 1 1 1) 3 4, List.replicate 2 (.advance 2)]
      (by decide +kernel)
  · exact exists_reaches [serve (.sendMessage (textAt 5)) 0 2,
      serve (.sendMessage (textAt 5)) 1 2,
      serve (.updateReadCursor 1 1 0) 2 4] (by decide +kernel)

end OlNode.Messaging
