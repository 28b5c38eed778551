import OlNode.Keyed
import OlNode.Messaging.Model
import OlNode.ReadCommitted.Rely

/-!
# Sending and publishing

The messages of one conversation with their outbox. `sendMessageWithOutbox` runs under the row lock
of the conversation: it allocates the next `seq`, inserts the message and its outbox row, or answers
with the message that is stored under the client message id. Publication follows the commit, inline
or by a queue job, and marks the row afterwards; a sweep queues the rows that stay unmarked.

A client message id is unique in its conversation, whoever sends it: `send_exactly_once` says what
every run keeps, `send_not_per_sender` that a second member who uses the id of another one is
answered with that member's message.
-/
namespace OlNode.Messaging

open ReadCommitted

/-- `message_outbox`; the payload is the frame of the message. The generated ids follow the order of
the inserts. -/
structure OutboxRow where
  id : Nat
  payload : Message
  createdAt : Time
  publishedAt : Option Time

structure SendAnswer where
  senderId : UserId
  clientMessageId : Nat
  message : Message
  created : Bool
  deriving DecidableEq

/-- The messages and outbox rows of the conversation in the order of their commits, what was
published on its channel, the queued jobs, and the answers given. -/
structure OutboxDb where
  lastSeq : Nat := 0
  messages : List Message := []
  outbox : List OutboxRow := []
  published : List (Nat × Message) := []
  jobs : List Nat := []
  answers : List SendAnswer := []

inductive OutboxError where
  | publishFailed
  | enqueueFailed
  deriving DecidableEq

inductive OutboxLock where
  | conversation
  | message
  | outbox
  | redis
  deriving DecidableEq

abbrev OutboxTx := Tx OutboxDb OutboxLock OutboxError
abbrev OutboxProg := Prog OutboxDb OutboxLock OutboxError

/-- Which commands Redis carries out while a request runs. -/
structure Redis where
  publish : Bool
  enqueue : Bool

structure SendInput where
  id : Nat
  senderId : UserId
  clientMessageId : Nat
  type : MessageType
  content : Option String
  mediaItems : List Nat
  isAutoReply : Bool

inductive SendResult where
  | created (message : Message) (outboxId : Nat)
  | duplicate (message : Message)

namespace OutboxDb

variable (db : OutboxDb)

/-- `findUnique` on `conversationId_clientMessageId`. -/
def findByClientId (clientMessageId : Nat) : Option Message :=
  db.messages.find? (·.clientMessageId = some clientMessageId)

def incrementSeq : OutboxDb := { db with lastSeq := db.lastSeq + 1 }

def insertMessage (message : Message) : OutboxDb :=
  { db with messages := db.messages ++ [message] }

def insertOutbox (outboxId : Nat) (message : Message) (now : Time) : OutboxDb :=
  { db with outbox := db.outbox ++ [⟨outboxId, message, now, none⟩] }

def publish (outboxId : Nat) (message : Message) : OutboxDb :=
  { db with published := db.published ++ [(outboxId, message)] }

def markPublished (outboxId : Nat) (now : Time) : OutboxDb :=
  { db with outbox := db.outbox.map fun row =>
      if row.id = outboxId then { row with publishedAt := some now } else row }

def enqueue (outboxId : Nat) : OutboxDb := { db with jobs := db.jobs ++ [outboxId] }

def answer (given : SendAnswer) : OutboxDb := { db with answers := db.answers ++ [given] }

end OutboxDb

/-- `STALE_MS` of the sweep. -/
def staleMs : Nat := 10000

/-- The condition of the sweep. -/
def OutboxRow.isStale (now : Time) (row : OutboxRow) : Bool :=
  row.publishedAt.isNone && row.createdAt + staleMs < now

/-! ### Sending -/

/-- The new row; a conversation is known by the number 1 here. -/
def SendInput.message (input : SendInput) (seq : Nat) (now : Time) : Message :=
  { id := input.id, conversationId := 1, senderId := input.senderId, type := input.type,
    content := input.content, mediaItems := input.mediaItems, isDeleted := false,
    clientMessageId := some input.clientMessageId, isAutoReply := input.isAutoReply, seq,
    createdAt := now }

/-- The part of the transaction for a client message id that is new. -/
def insertWithOutbox (input : SendInput) (now : Time) : OutboxTx SendResult := do
  Tx.update .conversation (·.incrementSeq)
  let seq ← Tx.select (·.lastSeq)
  Tx.update .message (·.insertMessage (input.message seq now))
  let outboxId ← Tx.select (·.outbox.length)
  Tx.update .outbox (·.insertOutbox outboxId (input.message seq now) now)
  pure (.created (input.message seq now) outboxId)

def sendMessageWithOutbox (input : SendInput) (now : Time) : OutboxTx SendResult := do
  Tx.lockRow .conversation
  let duplicate ← Tx.select (·.findByClientId input.clientMessageId)
  match duplicate with
  | some message => pure (.duplicate message)
  | none => insertWithOutbox input now

/-! ### Publishing -/

/-- The channel and the mark. Of the digests and push notifications between them nothing is read
back, and their failures are ignored: a pipeline answers each command for itself, and each push is
caught. -/
def publishOutboxPayload (redis : Redis) (now : Time) (outboxId : Nat) (payload : Message) :
    OutboxProg Unit := do
  Prog.ensure redis.publish .publishFailed
  Prog.autocommit .redis (·.publish outboxId payload)
  Prog.autocommit .outbox (·.markPublished outboxId now)

/-- The queue job: a row that is marked is left alone. -/
def publishMessageOutboxRow (redis : Redis) (now : Time) (outboxId : Nat) : OutboxProg Unit := do
  let found ← Prog.select fun s => s.outbox.find? (·.id = outboxId)
  match found with
  | none => pure ()
  | some row =>
    if row.publishedAt.isSome then pure ()
    else publishOutboxPayload redis now outboxId row.payload

def enqueueMessageOutboxPublish (redis : Redis) (outboxId : Nat) : OutboxProg Unit := do
  Prog.ensure redis.enqueue .enqueueFailed
  Prog.autocommit .redis (·.enqueue outboxId)

def enqueueAll (redis : Redis) : List Nat → OutboxProg Unit
  | [] => pure ()
  | outboxId :: rest => do
    enqueueMessageOutboxPublish redis outboxId
    enqueueAll redis rest

def sweepStaleMessageOutbox (redis : Redis) (now : Time) : OutboxProg Unit := do
  let stale ← Prog.select fun s => ((s.outbox.filter (·.isStale now)).take 200).map (·.id)
  enqueueAll redis stale

/-- The inline publication; if it fails, a job is queued. -/
def publishInline (redis : Redis) (now : Time) (outboxId : Nat) (payload : Message) :
    OutboxProg Unit := do
  let outcome ← (publishOutboxPayload redis now outboxId payload).attempt
  match outcome with
  | .ok _ => pure ()
  | .error _ => enqueueMessageOutboxPublish redis outboxId

/-- What follows the commit: only a new message is published. -/
def afterSend (input : SendInput) (redis : Redis) (now : Time) : SendResult → OutboxProg Unit
  | .created message outboxId => do
    publishInline redis now outboxId message
    Prog.autocommit .redis (·.answer ⟨input.senderId, input.clientMessageId, message, true⟩)
  | .duplicate message =>
    Prog.autocommit .redis (·.answer ⟨input.senderId, input.clientMessageId, message, false⟩)

def sendMessage (input : SendInput) (redis : Redis) (now : Time) : OutboxProg Unit := do
  let result ← Prog.transaction (sendMessageWithOutbox input now)
  afterSend input redis now result

inductive OutboxRequest where
  | sendMessage (input : SendInput) (redis : Redis) (now : Time)
  | publishMessageOutboxRow (outboxId : Nat) (redis : Redis) (now : Time)
  | sweepStaleMessageOutbox (redis : Redis) (now : Time)

def outboxHandler : OutboxRequest → OutboxProg Unit
  | .sendMessage input redis now => Messaging.sendMessage input redis now
  | .publishMessageOutboxRow outboxId redis now =>
    Messaging.publishMessageOutboxRow redis now outboxId
  | .sweepStaleMessageOutbox redis now => Messaging.sweepStaleMessageOutbox redis now

/-! ### The invariant -/

def OutboxRow.frame (row : OutboxRow) : Nat × Message := (row.id, row.payload)

structure OutboxLawful (db : OutboxDb) : Prop where
  seqs : db.messages.map (·.seq) = List.range' 1 db.lastSeq
  clients : (db.messages.map (·.clientMessageId)).Nodup
  payloads : db.outbox.map (·.payload) = db.messages
  ids : db.outbox.map (·.id) = List.range db.outbox.length
  marked : ∀ row ∈ db.outbox, row.publishedAt.isSome → row.frame ∈ db.published
  answered : ∀ a ∈ db.answers, a.message ∈ db.messages ∧
    a.message.clientMessageId = some a.clientMessageId ∧
    (a.created = true → a.message.senderId = a.senderId)

structure OutboxGrows (s t : OutboxDb) : Prop where
  messages : ∀ m ∈ s.messages, m ∈ t.messages
  frames : ∀ f ∈ s.outbox.map OutboxRow.frame, f ∈ t.outbox.map OutboxRow.frame
  published : ∀ f ∈ s.published, f ∈ t.published

/-- The message is the row of this request. -/
def IsRowOf (message : Message) : OutboxRequest → Prop
  | .sendMessage input _ now => message = input.message message.seq now
  | _ => False

/-- What the lock on a row protects. The conversation row stands for all that sending writes. -/
def OutboxSame : OutboxLock → OutboxDb → OutboxDb → Prop
  | .conversation, s, t =>
    t.messages = s.messages ∧ t.lastSeq = s.lastSeq ∧ t.outbox.length = s.outbox.length
  | _, _, _ => True

def outboxAgreement : Agreement OutboxRequest OutboxDb OutboxLock where
  inv := OutboxLawful
  grows := OutboxGrows
  same := OutboxSame
  step request s t := ∀ m ∈ t.messages, m ∈ s.messages ∨ IsRowOf m request
  allows _ _ _ := True
  grows_refl _ := ⟨fun _ h => h, fun _ h => h, fun _ h => h⟩
  grows_trans _ _ _ first second :=
    ⟨fun m h => second.messages m (first.messages m h),
      fun f h => second.frames f (first.frames f h),
      fun f h => second.published f (first.published f h)⟩
  same_refl row s := by
    cases row with
    | conversation => exact ⟨rfl, rfl, rfl⟩
    | _ => trivial
  same_trans row s t u first second := by
    cases row with
    | conversation =>
      exact ⟨second.1.trans first.1, second.2.1.trans first.2.1, second.2.2.trans first.2.2⟩
    | _ => trivial

section Writes

variable {db : OutboxDb} (lawful : OutboxLawful db)
include lawful

private theorem payload_of_id {row : OutboxRow} {payload : Message} (inside : row ∈ db.outbox)
    (framed : (row.id, payload) ∈ db.outbox.map OutboxRow.frame) : row.payload = payload := by
  obtain ⟨other, inOther, same⟩ := List.mem_map.mp framed
  have unique : (db.outbox.map (·.id)).Nodup := lawful.ids ▸ List.nodup_range
  obtain ⟨sameId, rfl⟩ := Prod.mk.inj same
  exact congrArg OutboxRow.payload (List.inj_on_of_nodup_map unique inside inOther sameId.symm)

private theorem publish_keeps (outboxId : Nat) (message : Message) :
    OutboxLawful (db.publish outboxId message) ∧ OutboxGrows db (db.publish outboxId message) := by
  constructor
  · refine ⟨lawful.seqs, lawful.clients, lawful.payloads, lawful.ids, fun row inside isMarked => ?_,
      lawful.answered⟩
    exact List.mem_append_left _ (lawful.marked row inside isMarked)
  · exact ⟨fun _ h => h, fun _ h => h, fun _ h => List.mem_append_left _ h⟩

private theorem markPublished_keeps {outboxId : Nat} {payload : Message} (now : Time)
    (framed : (outboxId, payload) ∈ db.outbox.map OutboxRow.frame)
    (out : (outboxId, payload) ∈ db.published) :
    OutboxLawful (db.markPublished outboxId now) ∧
      OutboxGrows db (db.markPublished outboxId now) := by
  have framesKept : (db.markPublished outboxId now).outbox.map OutboxRow.frame =
      db.outbox.map OutboxRow.frame := by
    rw [OutboxDb.markPublished, List.map_map]
    refine List.map_congr_left fun row _ => ?_
    simp only [Function.comp]
    split <;> rfl
  have kept : ∀ {β : Type} (g : OutboxRow → β), (∀ row, g { row with publishedAt := some now } =
      g row) → (db.markPublished outboxId now).outbox.map g = db.outbox.map g := by
    intro β g blind
    rw [OutboxDb.markPublished, List.map_map]
    refine List.map_congr_left fun row _ => ?_
    simp only [Function.comp]
    split
    · exact blind row
    · rfl
  constructor
  · refine ⟨lawful.seqs, lawful.clients, ?_, ?_, fun row inside isMarked => ?_, lawful.answered⟩
    · rw [kept _ fun _ => rfl]
      exact lawful.payloads
    · rw [kept _ fun _ => rfl, lawful.ids]
      simp [OutboxDb.markPublished]
    · obtain ⟨old, inOld, rfl⟩ := List.mem_map.mp inside
      split at isMarked
      next same =>
        subst same
        rw [if_pos rfl]
        have payloadIs := payload_of_id lawful inOld framed
        change (old.id, old.payload) ∈ db.published
        rw [payloadIs]
        exact out
      next other =>
        rw [if_neg other]
        exact lawful.marked old inOld isMarked
  · exact ⟨fun _ h => h, fun _ h => framesKept ▸ h, fun _ h => h⟩

private theorem enqueue_keeps (outboxId : Nat) :
    OutboxLawful (db.enqueue outboxId) ∧ OutboxGrows db (db.enqueue outboxId) :=
  ⟨⟨lawful.seqs, lawful.clients, lawful.payloads, lawful.ids, lawful.marked, lawful.answered⟩,
    fun _ h => h, fun _ h => h, fun _ h => h⟩

private theorem answer_keeps {given : SendAnswer} (stored : given.message ∈ db.messages)
    (named : given.message.clientMessageId = some given.clientMessageId)
    (own : given.created = true → given.message.senderId = given.senderId) :
    OutboxLawful (db.answer given) ∧ OutboxGrows db (db.answer given) := by
  refine ⟨⟨lawful.seqs, lawful.clients, lawful.payloads, lawful.ids, lawful.marked, ?_⟩,
    fun _ h => h, fun _ h => h, fun _ h => h⟩
  intro a inside
  rcases List.mem_append.mp inside with old | isNew
  · exact lawful.answered a old
  · obtain rfl : a = given := List.mem_singleton.mp isNew
    exact ⟨stored, named, own⟩

private theorem insert_keeps {message : Message} (now : Time) (next : message.seq = db.lastSeq + 1)
    (fresh : ∀ m ∈ db.messages, m.clientMessageId ≠ message.clientMessageId) :
    OutboxLawful (((db.incrementSeq).insertMessage message).insertOutbox db.outbox.length message
        now) ∧
      OutboxGrows db (((db.incrementSeq).insertMessage message).insertOutbox db.outbox.length
        message now) := by
  constructor
  · refine ⟨?_, ?_, ?_, ?_, fun row inside isMarked => ?_, fun a inside => ?_⟩
    · simp only [OutboxDb.insertOutbox, OutboxDb.insertMessage, OutboxDb.incrementSeq,
        List.map_append, lawful.seqs, List.map_cons, List.map_nil, next]
      rw [List.range'_concat, Nat.one_mul, Nat.add_comm 1]
    · simp only [OutboxDb.insertOutbox, OutboxDb.insertMessage, OutboxDb.incrementSeq,
        List.map_append, List.map_cons, List.map_nil]
      refine List.nodup_append.mpr ⟨lawful.clients, List.nodup_singleton _, ?_⟩
      intro client old other isNew
      obtain ⟨m, inMessages, rfl⟩ := List.mem_map.mp old
      rw [List.mem_singleton.mp isNew]
      exact fresh m inMessages
    · simp [OutboxDb.insertOutbox, OutboxDb.insertMessage, OutboxDb.incrementSeq, lawful.payloads]
    · simp [OutboxDb.insertOutbox, OutboxDb.insertMessage, OutboxDb.incrementSeq, lawful.ids,
        List.range_succ]
    · rcases List.mem_append.mp inside with old | isNew
      · exact lawful.marked row old isMarked
      · rw [List.mem_singleton] at isNew
        subst isNew
        simp at isMarked
    · obtain ⟨stored, rest⟩ := lawful.answered a inside
      exact ⟨List.mem_append_left _ stored, rest⟩
  · refine ⟨fun _ h => List.mem_append_left _ h, fun f h => ?_, fun _ h => h⟩
    simp only [OutboxDb.insertOutbox, OutboxDb.insertMessage, OutboxDb.incrementSeq,
      List.map_append, List.mem_append]
    exact .inl h

end Writes

/-! ### Runs -/

section Runs

variable {request : OutboxRequest} {s : OutboxDb} {α : Type}

private abbrev Posted (request : OutboxRequest) (p : OutboxProg α)
    (post : Except OutboxError α → OutboxDb → Prop) (s : OutboxDb) : Prop :=
  p.Relies outboxAgreement request post ∅ id s

private theorem autocommit_posted {row : OutboxLock} {f : OutboxDb → OutboxDb}
    {P : OutboxDb → Prop}
    (kept : ∀ u, OutboxGrows s u → OutboxLawful u → (OutboxLawful (f u) ∧ OutboxGrows u (f u)) ∧
      OutboxSame .conversation u (f u) ∧ P (f u)) :
    Posted request (Prog.autocommit row f) (fun _ => P) s := by
  refine Prog.relies_autocommit fun t first _ u second _ => ?_
  obtain ⟨⟨lawful, grows⟩, same, holds⟩ :=
    kept u (outboxAgreement.grows_trans _ _ _ first.grows second.grows) second.inv
  refine ⟨⟨lawful, grows, fun lock _ => ?_, fun m inside => .inl (same.1 ▸ inside)⟩, holds⟩
  cases lock with
  | conversation => exact same
  | _ => trivial

variable (redis : Redis)

private theorem enqueue_posted (outboxId : Nat) :
    Posted request (enqueueMessageOutboxPublish redis outboxId) (fun _ _ => True) s :=
  Prog.relies_check fun _ =>
    autocommit_posted fun _ _ lawful =>
      ⟨enqueue_keeps lawful outboxId, ⟨rfl, rfl, rfl⟩, trivial⟩

private theorem enqueueAll_posted (ids : List Nat) :
    Posted request (enqueueAll redis ids) (fun _ _ => True) s := by
  induction ids generalizing s with
  | nil => exact Prog.relies_pure trivial
  | cons outboxId rest ih =>
    exact Prog.Relies.bind (enqueue_posted redis outboxId) (fun _ _ _ => ih) fun _ _ _ => trivial

private theorem publishOutboxPayload_posted (now : Time) {outboxId : Nat} {payload : Message}
    (framed : (outboxId, payload) ∈ s.outbox.map OutboxRow.frame) :
    Posted request (publishOutboxPayload redis now outboxId payload) (fun _ _ => True) s := by
  refine Prog.relies_check fun _ => ?_
  have published : Posted request (Prog.autocommit .redis (·.publish outboxId payload))
      (fun _ t => (outboxId, payload) ∈ t.outbox.map OutboxRow.frame ∧
        (outboxId, payload) ∈ t.published) s := by
    refine autocommit_posted fun u grows lawful =>
      ⟨publish_keeps lawful outboxId payload, ⟨rfl, rfl, rfl⟩, grows.frames _ framed, ?_⟩
    exact List.mem_append_right _ (List.mem_singleton.mpr rfl)
  refine published.bind ?_ fun _ _ _ => trivial
  rintro _ t ⟨framedThen, out⟩
  refine autocommit_posted fun u grows lawful =>
    ⟨markPublished_keeps lawful now (grows.frames _ framedThen) (grows.published _ out), ?_,
      trivial⟩
  exact ⟨rfl, rfl, by simp [OutboxDb.markPublished]⟩

private theorem publishMessageOutboxRow_posted (now : Time) (outboxId : Nat) :
    Posted request (publishMessageOutboxRow redis now outboxId) (fun _ _ => True) s := by
  refine Prog.relies_select fun t _ => ?_
  cases found : t.outbox.find? (·.id = outboxId) with
  | none => exact Prog.relies_pure trivial
  | some row =>
    dsimp only
    split
    · exact Prog.relies_pure trivial
    · obtain rfl : row.id = outboxId := by simpa using List.find?_some found
      exact publishOutboxPayload_posted redis now
        (List.mem_map_of_mem (List.mem_of_find?_eq_some found))

/-- What the result of the transaction says of the state from then on. -/
private def Sent (input : SendInput) (t : OutboxDb) : SendResult → Prop
  | .created message outboxId => message ∈ t.messages ∧
      message.clientMessageId = some input.clientMessageId ∧ message.senderId = input.senderId ∧
      (outboxId, message) ∈ t.outbox.map OutboxRow.frame
  | .duplicate message => message ∈ t.messages ∧
      message.clientMessageId = some input.clientMessageId

private theorem insertWithOutbox_relies (input : SendInput) (now : Time) {held : Set OutboxLock}
    (mine : ∀ seq, IsRowOf (input.message seq now) request) (locked : OutboxLock.conversation ∈ held)
    (fresh : ∀ m ∈ s.messages, m.clientMessageId ≠ some input.clientMessageId) :
    (insertWithOutbox input now).Relies outboxAgreement request
      (fun result => outboxAgreement.Commits request (Sent input · result))
      (fun _ _ => True) held id s := by
  intro t0 first _ t1 second _ t2 third _ t3 fourth _ t4 fifth _ u sixth _
  have lock : ∀ {row : OutboxLock} {rows : Set OutboxLock}, OutboxLock.conversation ∈ rows →
      OutboxLock.conversation ∈ insert row rows := fun inside => Set.mem_insert_of_mem _ inside
  have same0 := first.same .conversation locked
  have same1 := second.same .conversation (lock locked)
  have same2 := third.same .conversation (lock locked)
  have same3 := fourth.same .conversation (lock (lock locked))
  have same4 := fifth.same .conversation (lock (lock locked))
  have same5 := sixth.same .conversation (lock (lock (lock locked)))
  have since1 := outboxAgreement.same_trans .conversation _ _ _ same2
    (outboxAgreement.same_trans .conversation _ _ _ same3
      (outboxAgreement.same_trans .conversation _ _ _ same4 same5))
  have since3 := outboxAgreement.same_trans .conversation _ _ _ same4 same5
  have sinceStart := outboxAgreement.same_trans .conversation _ _ _ same0
    (outboxAgreement.same_trans .conversation _ _ _ same1 since1)
  generalize messageIs : input.message (t1.lastSeq + 1) now = message
  have clientMessageId : message.clientMessageId = some input.clientMessageId := by
    rw [← messageIs]
    rfl
  -- Nobody else has written to the conversation, so the numbers read are those at the commit.
  have next : message.seq = u.lastSeq + 1 := by
    rw [← messageIs, since1.2.1]
    rfl
  have kept := insert_keeps sixth.inv now next
    (fun m inside => clientMessageId ▸ fresh m (sinceStart.1 ▸ inside))
  rw [since3.2.2] at kept
  have result : OutboxLawful ((u.incrementSeq.insertMessage message).insertOutbox t3.outbox.length
      message now) ∧ OutboxGrows u ((u.incrementSeq.insertMessage message).insertOutbox
        t3.outbox.length message now) := kept
  subst messageIs
  refine ⟨⟨result.1, result.2, fun row free => ?_, fun m inside => ?_⟩, ?_, rfl, rfl, ?_⟩
  · cases row with
    | conversation => exact absurd (lock (lock (lock locked))) free
    | _ => trivial
  · rcases List.mem_append.mp inside with old | isNew
    · exact .inl old
    · exact .inr (List.mem_singleton.mp isNew ▸ mine _)
  · exact List.mem_append_right _ (List.mem_singleton.mpr rfl)
  · change _ ∈ List.map OutboxRow.frame (u.outbox ++ [_])
    rw [List.map_append, List.mem_append]
    exact .inr (List.mem_singleton.mpr rfl)

private theorem sendMessageWithOutbox_relies (input : SendInput) (now : Time)
    (mine : ∀ seq, IsRowOf (input.message seq now) request) :
    (sendMessageWithOutbox input now).Relies outboxAgreement request
      (fun result => outboxAgreement.Commits request (Sent input · result))
      (fun _ _ => True) ∅ id s := by
  refine Tx.relies_lockRow fun t0 _ _ => Tx.relies_select fun t1 _ => ?_
  cases found : (id t1).findByClientId input.clientMessageId with
  | some message =>
    refine Tx.relies_pure fun u rely _ =>
      ⟨⟨rely.inv, ?_, fun row _ => ?_, fun m inside => .inl inside⟩, ?_, ?_⟩
    · exact outboxAgreement.grows_refl u
    · exact outboxAgreement.same_refl row u
    · exact rely.grows.messages message (List.mem_of_find?_eq_some found)
    · simpa using List.find?_some found
  | none =>
    refine insertWithOutbox_relies input now mine (Set.mem_insert _ _) fun m inside named => ?_
    have absent := List.find?_eq_none.mp found m inside
    simp [named] at absent

private theorem publishInline_posted (now : Time) {outboxId : Nat} {payload : Message}
    (framed : (outboxId, payload) ∈ s.outbox.map OutboxRow.frame) :
    Posted request (publishInline redis now outboxId payload) (fun _ _ => True) s := by
  refine Prog.Relies.attempt_bind (publishOutboxPayload_posted redis now framed) ?_
  intro outcome t _
  cases outcome with
  | ok _ => exact Prog.relies_pure trivial
  | error _ => exact enqueue_posted redis outboxId

private theorem sendMessage_posted (input : SendInput) (redis : Redis) (now : Time) :
    Posted (.sendMessage input redis now) (sendMessage input redis now) (fun _ _ => True) s := by
  have stored : Posted (.sendMessage input redis now) (Prog.transaction (sendMessageWithOutbox input now))
      (fun outcome t => ∀ result, outcome = .ok result → Sent input t result) s := by
    have mine : ∀ seq, IsRowOf (input.message seq now) (.sendMessage input redis now) :=
      fun _ => rfl
    refine Prog.relies_transaction ((sendMessageWithOutbox_relies input now mine).imp ?_ ?_)
    · intro result held w t commits u rely allowed
      obtain ⟨keeps, sent⟩ := commits u rely allowed
      exact ⟨keeps, fun other same => Except.ok.inj same ▸ sent⟩
    · exact fun _ _ _ _ impossible => nomatch impossible
  refine stored.bind (fun result t sent => ?_) fun _ _ _ => trivial
  · have holds := sent result rfl
    cases result with
    | duplicate message =>
      obtain ⟨stored, named⟩ := holds
      exact autocommit_posted fun u grows lawful =>
        ⟨answer_keeps lawful (grows.messages message stored) named
          (fun impossible => nomatch impossible), ⟨rfl, rfl, rfl⟩, trivial⟩
    | created message outboxId =>
      obtain ⟨stored, named, own, framed⟩ := holds
      refine (publishInline_posted redis now framed).grown.bind (fun _ u grown => ?_)
        fun _ _ _ => trivial
      have there := grown.1.messages message stored
      exact autocommit_posted fun v grows lawful =>
        ⟨answer_keeps lawful (grows.messages message there) named (fun _ => own),
          ⟨rfl, rfl, rfl⟩, trivial⟩

private theorem outboxHandler_posted (request : OutboxRequest) (s : OutboxDb) :
    Posted request (outboxHandler request) (fun _ _ => True) s := by
  cases request with
  | sendMessage input redis now => exact sendMessage_posted input redis now
  | publishMessageOutboxRow outboxId redis now => exact publishMessageOutboxRow_posted redis now _
  | sweepStaleMessageOutbox redis now =>
    exact Prog.relies_select fun _ _ => enqueueAll_posted redis _

end Runs

/-! ### What holds of every run -/

/-- A job on a pending row publishes and marks it, once Redis answers. -/
theorem publishMessageOutboxRow_pending {db : OutboxDb} (lawful : OutboxLawful db)
    {row : OutboxRow} (inside : row ∈ db.outbox) (pending : row.publishedAt = none) (now : Time) :
    ((publishMessageOutboxRow ⟨true, true⟩ now row.id).call db).2 =
      (db.publish row.id row.payload).markPublished row.id now := by
  have unique : (db.outbox.map (·.id)).Nodup := lawful.ids ▸ List.nodup_range
  have found := Keyed.find?_of_mem unique inside
  unfold publishMessageOutboxRow
  rw [Prog.call_select_bind, found]
  simp only [pending, Option.isSome_none, Bool.false_eq_true, if_false]
  rfl

abbrev OutboxConfig := Config OutboxRequest OutboxDb OutboxLock OutboxError

/-- What sending and publishing keep. -/
structure ExactlyOnce (c : OutboxConfig) : Prop where
  /-- The `seq` values are 1 to `lastSeq`, in the order of the commits. -/
  seqs : c.db.messages.map (·.seq) = List.range' 1 c.db.lastSeq
  /-- Every message has one outbox row. -/
  payloads : c.db.outbox.map (·.payload) = c.db.messages
  /-- A client message id yields one message, and every call with it returns this message. -/
  answers : ∀ a ∈ c.db.answers,
    c.db.messages.filter (·.clientMessageId = some a.clientMessageId) = [a.message]
  /-- Every message is the row of a call that its own sender has made, whether the call has answered
  or has died after its commit. -/
  rows : ∀ m ∈ c.db.messages, ∃ t ∈ c.threads, IsRowOf m t.request
  /-- A retry gets the message its sender has stored, unless another member has used the id. -/
  retried : ∀ a ∈ c.db.answers,
    (∀ t ∈ c.threads, ∀ input redis now, t.request = .sendMessage input redis now →
      input.clientMessageId = a.clientMessageId → input.senderId = a.senderId) →
    a.message.senderId = a.senderId
  /-- A message that a call has created is the caller's own. -/
  own : ∀ a ∈ c.db.answers, a.created = true → a.message.senderId = a.senderId
  /-- A row that is marked has been published. -/
  marked : ∀ row ∈ c.db.outbox, row.publishedAt.isSome → (row.id, row.payload) ∈ c.db.published
  /-- A row that is not marked waits for the sweep, and the job that the sweep queues publishes and
  marks it. -/
  pending : ∀ row ∈ c.db.outbox, row.publishedAt = none → ∀ now,
    (row.createdAt + staleMs < now → row.isStale now = true) ∧
      ((publishMessageOutboxRow ⟨true, true⟩ now row.id).call c.db).2 =
        (c.db.publish row.id row.payload).markPublished row.id now

/-- The tables stay lawful, and every message comes from a call. -/
private theorem traced_of_run {c : OutboxConfig}
    (run : Reaches outboxHandler (fun _ _ => True) (Config.idle {}) c) :
    OutboxLawful c.db ∧ ∀ m ∈ c.db.messages, ∃ t ∈ c.threads, IsRowOf m t.request := by
  have allows : ∀ (c : OutboxConfig) (e : Event OutboxRequest), outboxAgreement.Allows c e := by
    intro c e
    cases e <;> simp [Agreement.Allows, outboxAgreement]
  have handlers := fun request s (_ : outboxAgreement.inv s) => outboxHandler_posted request s
  have base : OutboxLawful {} := ⟨rfl, List.nodup_nil, rfl, rfl, by simp, by simp⟩
  have idle : Reaches outboxHandler (fun _ _ => True) (Config.idle {}) (Config.idle {}) := .refl
  have observed := idle.observed handlers (fun c e _ => allows c e) (base : outboxAgreement.inv {})
  have kept := run.invariant (fun c => outboxAgreement.Observed c ∧
      ∀ m ∈ c.db.messages, ∃ t ∈ c.threads, IsRowOf m t.request)
    ⟨observed, by simp [Config.idle]⟩ ?_
  · exact ⟨kept.1.inv, kept.2⟩
  · rintro c e c' ⟨observed, traced⟩ - applied
    obtain ⟨after, moved⟩ := observed.apply handlers (allows c e) applied
    have still : ∀ t ∈ c.threads, ∀ m, IsRowOf m t.request →
        ∃ t' ∈ c'.threads, IsRowOf m t'.request := by
      intro t member m row
      obtain ⟨t', member', same⟩ := Config.requests_kept applied member
      exact ⟨t', member', same ▸ row⟩
    refine ⟨after, fun m inside => ?_⟩
    rcases moved with same | ⟨i, t, -, found, keeps⟩
    · obtain ⟨t, member, row⟩ := traced m (same ▸ inside)
      exact still t member m row
    · rcases keeps.step m inside with old | new
      · obtain ⟨u, member, row⟩ := traced m old
        exact still u member m row
      · exact still t (List.mem_of_getElem? found) m new

/-- In every run `seq` has no gaps and follows the commits, a client message id yields one message
and one outbox row, which its sender has sent, and a row is either published or pending. -/
theorem send_exactly_once {c : OutboxConfig}
    (run : Reaches outboxHandler (fun _ _ => True) (Config.idle {}) c) : ExactlyOnce c := by
  obtain ⟨lawful, traced⟩ := traced_of_run run
  refine ⟨lawful.seqs, lawful.payloads, fun a inside => ?_, traced, fun a inside alone => ?_,
    fun a inside created => (lawful.answered a inside).2.2 created, lawful.marked,
    fun row inside pending now => ⟨?_, ?_⟩⟩
  · obtain ⟨stored, named, -⟩ := lawful.answered a inside
    have single := Keyed.filter_of_mem lawful.clients stored
    rwa [named] at single
  · obtain ⟨stored, named, -⟩ := lawful.answered a inside
    obtain ⟨t, member, row⟩ := traced a.message stored
    cases isSend : t.request with
    | sendMessage input redis now =>
      rw [isSend, IsRowOf] at row
      rw [row] at named ⊢
      exact alone t member input redis now isSend (Option.some.inj named)
    | _ => simp [isSend, IsRowOf] at row
  · intro old
    simp [OutboxRow.isStale, pending, old]
  · exact publishMessageOutboxRow_pending lawful inside pending now

/-! ### Runs of a few calls -/

/-- A text of a member with the client message id 7. -/
def textOf (senderId : UserId) : SendInput :=
  { id := senderId, senderId, clientMessageId := 7, type := .text, content := some "hi",
    mediaItems := [], isAutoReply := false }

/-- A call dies after its commit; the sweep queues its row, and the job publishes it. The retry of
the sender returns the message. -/
theorem send_exactly_once_retried :
    ∃ c : OutboxConfig, c.db.messages = [(textOf 1).message 1 0] ∧ c.db.jobs = [0] ∧
      c.db.published = [(0, (textOf 1).message 1 0)] ∧
      c.db.answers = [⟨1, 7, (textOf 1).message 1 0, false⟩] ∧ ExactlyOnce c := by
  obtain ⟨c, run, messages, jobs, published, answers⟩ : ∃ c, Reaches outboxHandler
      (fun _ _ => True) (Config.idle {}) c ∧ c.db.messages = [(textOf 1).message 1 0] ∧
      c.db.jobs = [0] ∧ c.db.published = [(0, (textOf 1).message 1 0)] ∧
      c.db.answers = [⟨1, 7, (textOf 1).message 1 0, false⟩] :=
    exists_reaches [serve (.sendMessage (textOf 1) ⟨true, true⟩ 0) 0 8, [.crash 0],
      serve (.sweepStaleMessageOutbox ⟨true, true⟩ 10001) 1 3,
      serve (.publishMessageOutboxRow 0 ⟨true, true⟩ 10002) 2 5,
      serve (.sendMessage (textOf 1) ⟨true, true⟩ 10003) 3 5] (by decide +kernel)
  exact ⟨c, messages, jobs, published, answers, send_exactly_once run⟩

/-- A second member uses the client message id of the first one: the call is accepted, returns the
message of the first member, and stores none of the second. -/
theorem send_not_per_sender :
    ∃ c, Reaches outboxHandler (fun _ _ => True) (Config.idle {}) c ∧
      c.db.answers = [⟨1, 7, (textOf 1).message 1 0, true⟩, ⟨2, 7, (textOf 1).message 1 0, false⟩] ∧
      c.db.messages = [(textOf 1).message 1 0] :=
  exists_reaches [serve (.sendMessage (textOf 1) ⟨true, true⟩ 0) 0 14,
    serve (.sendMessage (textOf 2) ⟨true, true⟩ 1) 1 5] (by decide +kernel)

end OlNode.Messaging
