import Mathlib.Data.List.Nodup
import OlNode.ReadCommitted.Journal
import OlNode.Schema

/-!
# The gift gallery of a month

A gift that a host receives is noted on one item of the template, the one `findFirst` comes upon,
and the call that has noted an item counts the visible items afterwards. The gallery is full when
every visible item is noted. Two calls that note the last two items at once both find it full, and
an item that shares its gift with another may never be noted.

The progress rows are in the order of their INSERTs. `answers` keeps what the call that inserted a
row has reported, `received` the gifts that came in, in the order of the commits.
-/
namespace OlNode.Gifting

open ReadCommitted

/-- Generated ids, by the places of the section and of the gift in the request. -/
structure ItemId where
  sectionId : Nat
  place : Nat
  deriving DecidableEq

structure GallerySectionItem where
  id : ItemId
  giftId : Nat

structure GallerySection where
  isActive : Bool := true
  enabledAt : Option Time := none
  gifts : List GallerySectionItem

structure GalleryProgress where
  hostUserId : UserId
  giftId : Nat
  giftGallerySectionItemId : ItemId
  firstGifterId : UserId

/-- A gift of the gallery that a host has received. -/
structure ReceivedGift where
  hostUserId : UserId
  giftId : Nat
  itemId : ItemId
  senderId : UserId

inductive GalleryEvent where
  /-- A new progress row. -/
  | noted (hostUserId : UserId) (itemId : ItemId)
  /-- What the call that inserted the row has reported. -/
  | answered (hostUserId : UserId) (itemId : ItemId) (galleryNowFull : Bool)
  deriving DecidableEq

/-- The template of the month, the active gifts, and what the hosts have received. -/
structure GalleryDb where
  gallery : Option (List GallerySection) := none
  isActiveGift : Nat → Bool := fun _ => true
  now : Time := 0
  progress : List GalleryProgress := []
  answers : UserId → ItemId → Option Bool := fun _ _ => none
  received : List ReceivedGift := []
  history : List GalleryEvent := []

inductive GalleryError where
  | invalidGiftIds
  | uniqueViolation
  deriving DecidableEq

inductive GalleryLock where
  | progress (hostUserId : UserId) (itemId : ItemId)
  deriving DecidableEq

abbrev GalleryTx := Tx GalleryDb GalleryLock GalleryError

abbrev GalleryProg := Prog GalleryDb GalleryLock GalleryError

/-! ### The template -/

def createSection (giftIds : List Nat) (sectionId : Nat) : GallerySection :=
  { gifts := giftIds.zipIdx.map fun gift => ⟨⟨sectionId, gift.2⟩, gift.1⟩ }

/-- The template of a request, by the gifts of its sections. A section cannot list a gift twice. -/
def upsertGallery (isActiveGift : Nat → Bool) (sections : List (List Nat)) :
    Except GalleryError (List GallerySection) :=
  if sections.flatten.all isActiveGift then
    if sections.all fun giftIds => giftIds.Nodup then
      .ok (sections.zipIdx.map fun entry => createSection entry.1 entry.2)
    else .error .uniqueViolation
  else .error .invalidGiftIds

def galleryItems (sections : List GallerySection) : List GallerySectionItem :=
  sections.flatMap (·.gifts)

/-- The items of active sections that are enabled, with active gifts. -/
def visibleItems (isActiveGift : Nat → Bool) (now : Time) (sections : List GallerySection) :
    List GallerySectionItem :=
  (sections.filter fun s => s.isActive && s.enabledAt.all (· ≤ now)).flatMap fun s =>
    s.gifts.filter fun item => isActiveGift item.giftId

/-- `findFirst` without an order: any row that matches, here the one the database comes upon. -/
def findSectionItemForGalleryGift (sections : List GallerySection) (giftId : Nat) (skip : Nat) :
    Option GallerySectionItem :=
  let rows := (galleryItems sections).filter (·.giftId = giftId)
  (rows.drop skip).head?.or rows.head?

/-! ### Progress and completion -/

structure CompletionSummary where
  totalItems : Nat
  receivedItems : Nat
  isFullGallery : Bool

def CompletionSummary.ofCounts (totalItems receivedItems : Nat) : CompletionSummary :=
  ⟨totalItems, receivedItems, decide (0 < totalItems) && decide (totalItems ≤ receivedItems)⟩

/-- Visible template slots only; what has been received is a set of item ids. -/
def tallyVisibleGalleryCompletion (visibleItemIds receivedItemIds : List ItemId) :
    CompletionSummary :=
  .ofCounts visibleItemIds.length (visibleItemIds.countP (· ∈ receivedItemIds))

namespace GalleryDb

variable (db : GalleryDb)

def visible : List GallerySectionItem :=
  (db.gallery.map (visibleItems db.isActiveGift db.now)).getD []

def findHostProgress (hostUserId : UserId) : List GalleryProgress :=
  db.progress.filter (·.hostUserId = hostUserId)

def findProgress (hostUserId : UserId) (itemId : ItemId) : Option GalleryProgress :=
  db.progress.find? fun row =>
    row.hostUserId = hostUserId && row.giftGallerySectionItemId = itemId

/-- The progress rows of a host on visible items. -/
def receivedItems (hostUserId : UserId) : Nat :=
  (db.findHostProgress hostUserId).countP fun row =>
    row.giftGallerySectionItemId ∈ db.visible.map (·.id)

def getHostCompletionSummary (hostUserId : UserId) : CompletionSummary :=
  .ofCounts db.visible.length (db.receivedItems hostUserId)

def createProgress (row : GalleryProgress) : GalleryDb :=
  { db with
    progress := db.progress ++ [row]
    received := db.received ++ [⟨row.hostUserId, row.giftId, row.giftGallerySectionItemId,
      row.firstGifterId⟩]
    history := db.history ++ [.noted row.hostUserId row.giftGallerySectionItemId] }

def receive (gift : ReceivedGift) : GalleryDb := { db with received := db.received ++ [gift] }

def answer (hostUserId : UserId) (itemId : ItemId) (galleryNowFull : Bool) : GalleryDb :=
  { db with
    answers := fun host item =>
      if host = hostUserId ∧ item = itemId then some galleryNowFull else db.answers host item
    history := db.history ++ [.answered hostUserId itemId galleryNowFull] }

end GalleryDb

/-! ### The operations -/

/-- INSERT of a row under the unique index on host and item. -/
def createProgress (row : GalleryProgress) : GalleryTx Unit := do
  let key := GalleryLock.progress row.hostUserId row.giftGallerySectionItemId
  Tx.lockRow key
  let existing ← Tx.select (·.findProgress row.hostUserId row.giftGallerySectionItemId)
  Tx.ensure existing.isNone .uniqueViolation
  Tx.update key (·.createProgress row)

/-- Insert progress if missing. First gifter wins; returns whether a new row was inserted. -/
def upsertProgress (row : GalleryProgress) : GalleryTx Bool := do
  let existing ← Tx.select (·.findProgress row.hostUserId row.giftGallerySectionItemId)
  if existing.isSome then pure false
  else do
    createProgress row
    pure true

/-- The end of a call: count if a row was inserted, and report. -/
def reportProgress (row : GalleryProgress) : Bool → GalleryProg (Bool × Bool)
  | false => do
    Prog.autocommit (.progress row.hostUserId row.giftGallerySectionItemId)
      (·.receive ⟨row.hostUserId, row.giftId, row.giftGallerySectionItemId, row.firstGifterId⟩)
    pure (false, false)
  | true => do
    let totalItems ← Prog.select (·.visible.length)
    let receivedItems ← Prog.select (·.receivedItems row.hostUserId)
    let s := CompletionSummary.ofCounts totalItems receivedItems
    Prog.autocommit (.progress row.hostUserId row.giftGallerySectionItemId)
      (·.answer row.hostUserId row.giftGallerySectionItemId s.isFullGallery)
    pure (true, s.isFullGallery)

/-- `(created, galleryNowFull)`. -/
def recordGiftProgress (hostUserId : UserId) (giftId : Nat) (senderId : UserId) (skip : Nat) :
    GalleryProg (Bool × Bool) := do
  let gallery ← Prog.select (·.gallery)
  match gallery with
  | none => pure (false, false)
  | some _ =>
    let item ← Prog.select fun s =>
      findSectionItemForGalleryGift (s.gallery.getD []) giftId skip
    match item with
    | none => pure (false, false)
    | some item =>
      let row : GalleryProgress := ⟨hostUserId, giftId, item.id, senderId⟩
      let created ← Prog.transaction (upsertProgress row)
      reportProgress row created

structure GalleryRequest where
  hostUserId : UserId
  giftId : Nat
  senderId : UserId
  /-- How many of the matching items the database passes over. -/
  skip : Nat := 0

def galleryHandler (request : GalleryRequest) : GalleryProg Unit :=
  (recordGiftProgress request.hostUserId request.giftId request.senderId request.skip).forget

/-! ### Clear runs -/

def fills (visible : List GallerySectionItem) (rows : List GalleryProgress) : Bool :=
  (CompletionSummary.ofCounts visible.length
    (rows.countP fun row => row.giftGallerySectionItemId ∈ visible.map (·.id))).isFullGallery

/-- No item is noted for a full gallery, and none between a note and the report of its call. -/
def galleryJournal : Journal GalleryDb GalleryEvent where
  entries := GalleryDb.history
  clear db
    | .noted hostUserId _ => !(db.getHostCompletionSummary hostUserId).isFullGallery
    | .answered hostUserId itemId _ => (db.findHostProgress hostUserId).getLast?.any
        (·.giftGallerySectionItemId = itemId)

/-- The call that noted the last item of a host has reported. -/
def GalleryDb.lastAnswered (db : GalleryDb) (hostUserId : UserId) : Bool :=
  (db.findHostProgress hostUserId).getLast?.any fun row =>
    (db.answers hostUserId row.giftGallerySectionItemId).isSome

/-- A template of which some item is visible, and no visible item shares its gift. -/
structure TemplateFits (sections : List GallerySection) (visible : List GallerySectionItem) :
    Prop where
  ids : ((galleryItems sections).map (·.id)).Nodup
  someVisible : visible ≠ []
  once : ∀ item ∈ visible, ∀ other ∈ galleryItems sections, other.giftId = item.giftId →
    other = item

def GalleryProgress.key (row : GalleryProgress) : UserId × ItemId :=
  (row.hostUserId, row.giftGallerySectionItemId)

/-- The gift as it came in that noted the row. -/
def GalleryProgress.asReceived (row : GalleryProgress) : ReceivedGift :=
  ⟨row.hostUserId, row.giftId, row.giftGallerySectionItemId, row.firstGifterId⟩

def firstReceived (received : List ReceivedGift) (hostUserId : UserId) (itemId : ItemId) :
    Option ReceivedGift :=
  received.find? fun gift => gift.hostUserId = hostUserId && gift.itemId = itemId

/-- What every run keeps, and `strict` runs as well: calls that do not overtake each other. -/
structure GalleryLawful (strict : Prop) (sections : List GallerySection) (isActiveGift : Nat → Bool)
    (now : Time) (db : GalleryDb) : Prop where
  template : db.gallery = some sections ∧ db.isActiveGift = isActiveGift ∧ db.now = now
  items : ∀ row ∈ db.progress, ∃ item ∈ galleryItems sections,
    item.id = row.giftGallerySectionItemId ∧ item.giftId = row.giftId
  keys : (db.progress.map (·.key)).Nodup
  firsts : ∀ row ∈ db.progress, firstReceived db.received row.hostUserId
    row.giftGallerySectionItemId = some row.asReceived
  noted : ∀ gift ∈ db.received, ∃ row ∈ db.progress,
    row.key = (gift.hostUserId, gift.itemId) ∧ row.giftId = gift.giftId
  answersNoted : ∀ hostUserId itemId, (db.answers hostUserId itemId).isSome →
    ∃ row ∈ db.progress, row.key = (hostUserId, itemId)
  answered : strict → ∀ hostUserId before row after answer,
    db.findHostProgress hostUserId = before ++ row :: after →
    db.answers hostUserId row.giftGallerySectionItemId = some answer →
    answer = fills (visibleItems isActiveGift now sections) (before ++ [row])
  notFull : strict → ∀ hostUserId before row after,
    db.findHostProgress hostUserId = before ++ row :: after →
    fills (visibleItems isActiveGift now sections) before = false

/-! ### Counting the visible items -/

section Counting

variable {sections : List GallerySection} {isActiveGift : Nat → Bool} {now : Time}

theorem visibleItems_sublist (sections : List GallerySection) :
    (visibleItems isActiveGift now sections).Sublist (galleryItems sections) := by
  induction sections with
  | nil => exact List.Sublist.slnil
  | cons s rest ih =>
    rw [galleryItems, List.flatMap_cons]
    unfold visibleItems at ih ⊢
    rw [List.filter_cons]
    split
    · rw [List.flatMap_cons]
      exact List.filter_sublist.append ih
    · exact ih.trans (List.sublist_append_right _ _)

variable {visible : List ItemId} {noted : List ItemId}

private theorem countP_comm (visibleNodup : visible.Nodup) (notedNodup : noted.Nodup) :
    visible.countP (· ∈ noted) = noted.countP (· ∈ visible) := by
  rw [List.countP_eq_length_filter, List.countP_eq_length_filter]
  refine List.Perm.length_eq ?_
  refine (List.perm_ext_iff_of_nodup (visibleNodup.filter _) (notedNodup.filter _)).mpr ?_
  intro id
  simp only [List.mem_filter, decide_eq_true_eq]
  exact And.comm

private theorem length_le_countP_iff (visible noted : List ItemId) :
    visible.length ≤ visible.countP (· ∈ noted) ↔ ∀ id ∈ visible, id ∈ noted := by
  have atMost : visible.countP (· ∈ noted) ≤ visible.length := List.countP_le_length
  have all : visible.countP (· ∈ noted) = visible.length ↔
      ∀ id ∈ visible, decide (id ∈ noted) = true := List.countP_eq_length
  constructor
  · intro enough id member
    simpa using all.mp (Nat.le_antisymm atMost enough) id member
  · intro each
    exact Nat.le_of_eq (all.mpr fun id member => by simpa using each id member).symm

/-- The cached tally and the counting query agree on rows of distinct items. -/
theorem tally_eq {items : List GallerySectionItem} {rows : List GalleryProgress}
    (ids : (items.map (·.id)).Nodup)
    (distinct : (rows.map (·.giftGallerySectionItemId)).Nodup) :
    tallyVisibleGalleryCompletion (items.map (·.id)) (rows.map (·.giftGallerySectionItemId)) =
      .ofCounts items.length
        (rows.countP fun row => row.giftGallerySectionItemId ∈ items.map (·.id)) := by
  rw [tallyVisibleGalleryCompletion, countP_comm ids distinct, List.countP_map, List.length_map]
  rfl

/-- A gallery with a visible item is full exactly if all its visible items are noted. -/
theorem fills_iff {items : List GallerySectionItem} {rows : List GalleryProgress}
    (ids : (items.map (·.id)).Nodup) (someVisible : items ≠ [])
    (distinct : (rows.map (·.giftGallerySectionItemId)).Nodup) :
    fills items rows = true ↔ ∀ item ∈ items, ∃ row ∈ rows,
      row.giftGallerySectionItemId = item.id := by
  have positive : 0 < items.length := List.length_pos_iff.mpr someVisible
  have counted := tally_eq ids distinct
  have all := length_le_countP_iff (items.map (·.id)) (rows.map (·.giftGallerySectionItemId))
  rw [List.length_map] at all
  rw [fills, ← counted, tallyVisibleGalleryCompletion]
  simp only [CompletionSummary.ofCounts, Bool.and_eq_true, decide_eq_true_eq, List.length_map, all,
    positive, true_and]
  constructor
  · intro each item member
    obtain ⟨row, inside, same⟩ := List.mem_map.mp (each item.id (List.mem_map_of_mem member))
    exact ⟨row, inside, same⟩
  · intro each id member
    obtain ⟨item, inside, rfl⟩ := List.mem_map.mp member
    obtain ⟨row, noted, same⟩ := each item inside
    exact List.mem_map.mpr ⟨row, noted, same⟩

end Counting

/-! ### Templates as they are stored -/

section Templates

variable {isActiveGift : Nat → Bool}

private theorem galleryItems_ids (sections : List (List Nat)) :
    ((galleryItems (sections.zipIdx.map fun entry => createSection entry.1 entry.2)).map
      (·.id)).Nodup := by
  rw [galleryItems, List.flatMap_map, List.map_flatMap, List.nodup_flatMap]
  constructor
  · intro entry _
    simp only [createSection, List.map_map]
    have places : (entry.1.zipIdx.map (·.2)).Nodup := by
      rw [List.zipIdx_map_snd]
      exact List.nodup_range'
    refine List.Nodup.map_on (fun gift member other inside same => ?_) places.of_map
    exact List.inj_on_of_nodup_map places member inside (congrArg ItemId.place same)
  · have numbers : (sections.zipIdx.map (·.2)).Nodup := by
      rw [List.zipIdx_map_snd]
      exact List.nodup_range'
    refine (List.pairwise_map.mp numbers).imp fun {entry other} different => ?_
    intro id member inside
    simp only [createSection, List.map_map, List.mem_map, Function.comp_apply] at member inside
    obtain ⟨_, _, rfl⟩ := member
    obtain ⟨_, _, same⟩ := inside
    exact different (congrArg ItemId.sectionId same).symm

private theorem galleryItems_gifts (sections : List (List Nat)) :
    (galleryItems (sections.zipIdx.map fun entry => createSection entry.1 entry.2)).map
      (·.giftId) = sections.flatten := by
  rw [galleryItems, List.flatMap_map, List.map_flatMap]
  have own : ∀ entry : List Nat × Nat,
      (createSection entry.1 entry.2).gifts.map (·.giftId) = entry.1 := by
    intro entry
    rw [createSection, List.map_map]
    exact List.zipIdx_map_fst 0 entry.1
  simp only [own]
  rw [List.flatMap_def, List.zipIdx_map_fst]

/-- A template as it is stored shows all its items. -/
theorem visibleItems_upsertGallery {request : List (List Nat)} {sections : List GallerySection}
    (accepted : upsertGallery isActiveGift request = .ok sections) (now : Time) :
    visibleItems isActiveGift now sections = galleryItems sections := by
  unfold upsertGallery at accepted
  split at accepted
  next active =>
    split at accepted
    next =>
      obtain rfl := Except.ok.inj accepted
      have allActive : ∀ item ∈ galleryItems
          (request.zipIdx.map fun entry => createSection entry.1 entry.2),
          isActiveGift item.giftId = true := by
        intro item member
        have listed := List.mem_map_of_mem (f := (·.giftId)) member
        rw [galleryItems_gifts] at listed
        exact List.all_eq_true.mp active _ listed
      rw [visibleItems, List.filter_eq_self.mpr, galleryItems]
      · refine List.flatMap_congr fun s member => List.filter_eq_self.mpr fun item inside => ?_
        exact allActive item (List.mem_flatMap.mpr ⟨s, member, inside⟩)
      · intro s member
        obtain ⟨entry, _, rfl⟩ := List.mem_map.mp member
        rfl
    next => cases accepted
  next => cases accepted

/-- A template as it is stored fits, if it lists a gift at all and none in two sections. -/
theorem upsertGallery_fits {request : List (List Nat)} {sections : List GallerySection}
    (accepted : upsertGallery isActiveGift request = .ok sections)
    (someGift : request.flatten ≠ []) (apart : request.flatten.Nodup) (now : Time) :
    TemplateFits sections (visibleItems isActiveGift now sections) := by
  rw [visibleItems_upsertGallery accepted now]
  unfold upsertGallery at accepted
  split at accepted
  next =>
    split at accepted
    next =>
      obtain rfl := Except.ok.inj accepted
      refine ⟨galleryItems_ids request, fun none => someGift ?_,
        fun item member other inside same => ?_⟩
      · rw [← galleryItems_gifts request, none]
        rfl
      · rw [← galleryItems_gifts request] at apart
        exact List.inj_on_of_nodup_map apart inside member same
    next => cases accepted
  next => cases accepted

end Templates

/-! ### Lawful galleries -/

section Lawful

variable {strict : Prop} {sections : List GallerySection} {isActiveGift : Nat → Bool} {now : Time}
  {db : GalleryDb} {hostUserId : UserId}

theorem GalleryLawful.visible_eq (lawful : GalleryLawful strict sections isActiveGift now db) :
    db.visible = visibleItems isActiveGift now sections := by
  obtain ⟨gallery, active, time⟩ := lawful.template
  rw [GalleryDb.visible, gallery, active, time]
  rfl

theorem GalleryLawful.summary_eq (lawful : GalleryLawful strict sections isActiveGift now db)
    (hostUserId : UserId) :
    (db.getHostCompletionSummary hostUserId).isFullGallery =
      fills (visibleItems isActiveGift now sections) (db.findHostProgress hostUserId) := by
  rw [GalleryDb.getHostCompletionSummary, GalleryDb.receivedItems, lawful.visible_eq]
  rfl

private theorem mem_findHostProgress {row : GalleryProgress} :
    row ∈ db.findHostProgress hostUserId ↔ row ∈ db.progress ∧ row.hostUserId = hostUserId := by
  simp [GalleryDb.findHostProgress]

private theorem GalleryLawful.distinct (lawful : GalleryLawful strict sections isActiveGift now db)
    (hostUserId : UserId) :
    ((db.findHostProgress hostUserId).map (·.giftGallerySectionItemId)).Nodup := by
  have sub : ((db.findHostProgress hostUserId).map (·.key)).Nodup :=
    lawful.keys.sublist (List.filter_sublist.map _)
  refine List.Nodup.map_on (fun row member other inside same => ?_) sub.of_map
  have own := (mem_findHostProgress.mp member).2
  have ownOther := (mem_findHostProgress.mp inside).2
  refine List.inj_on_of_nodup_map sub member inside ?_
  rw [GalleryProgress.key, GalleryProgress.key, own, ownOther, same]

private theorem GalleryLawful.last_eq (lawful : GalleryLawful strict sections isActiveGift now db)
    {before after : List GalleryProgress} {row : GalleryProgress}
    (split : db.findHostProgress hostUserId = before ++ row :: after)
    (last : (db.findHostProgress hostUserId).getLast?.any
      (·.giftGallerySectionItemId = row.giftGallerySectionItemId) = true) : after = [] := by
  have distinct := lawful.distinct hostUserId
  rcases List.eq_nil_or_concat' after with none | ⟨front, final, rfl⟩
  · exact none
  · rw [split] at last distinct
    simp only [List.getLast?_append, List.getLast?_cons, Option.getD_some, Option.some_or,
      Option.any_some, decide_eq_true_eq] at last
    have same : final.giftGallerySectionItemId = row.giftGallerySectionItemId := last
    simp [same, List.nodup_append] at distinct

theorem findProgress_eq_none {itemId : ItemId} :
    db.findProgress hostUserId itemId = none ↔
      ∀ row ∈ db.progress, row.key ≠ (hostUserId, itemId) := by
  simp [GalleryDb.findProgress, GalleryProgress.key, Prod.ext_iff]

private theorem GalleryLawful.gift_eq (lawful : GalleryLawful strict sections isActiveGift now db)
    (ids : ((galleryItems sections).map (·.id)).Nodup) {row : GalleryProgress}
    (member : row ∈ db.progress) {item : GallerySectionItem} (inside : item ∈ galleryItems sections)
    (same : item.id = row.giftGallerySectionItemId) : item.giftId = row.giftId := by
  obtain ⟨other, listed, id, gift⟩ := lawful.items row member
  have equal : item = other := List.inj_on_of_nodup_map ids inside listed (same.trans id.symm)
  exact equal ▸ gift

end Lawful

/-! ### What the writes do -/

section Writes

variable {strict : Prop} {sections : List GallerySection} {isActiveGift : Nat → Bool} {now : Time}
  {db : GalleryDb}

private theorem firstReceived_append {received : List ReceivedGift} {gift other : ReceivedGift}
    {hostUserId : UserId} {itemId : ItemId}
    (first : firstReceived received hostUserId itemId = some gift) :
    firstReceived (received ++ [other]) hostUserId itemId = some gift := by
  rw [firstReceived, List.find?_append]
  rw [firstReceived] at first
  rw [first, Option.some_or]

variable (lawful : GalleryLawful strict sections isActiveGift now db)
include lawful

private theorem receive_lawful {gift : ReceivedGift}
    (noted : ∃ row ∈ db.progress, row.key = (gift.hostUserId, gift.itemId) ∧
      row.giftId = gift.giftId) :
    GalleryLawful strict sections isActiveGift now (db.receive gift) := by
  refine ⟨lawful.template, lawful.items, lawful.keys, fun row member => ?_, fun other inside => ?_,
    lawful.answersNoted, lawful.answered, lawful.notFull⟩
  · exact firstReceived_append (lawful.firsts row member)
  · rcases List.mem_append.mp inside with old | isNew
    · exact lawful.noted other old
    · rw [List.mem_singleton.mp isNew]
      exact noted

private theorem answer_lawful {hostUserId : UserId} {itemId : ItemId} {galleryNowFull : Bool}
    (noted : ∃ row ∈ db.progress, row.key = (hostUserId, itemId))
    (counted : strict → (db.findHostProgress hostUserId).getLast?.any
        (·.giftGallerySectionItemId = itemId) = true ∧
      galleryNowFull =
        fills (visibleItems isActiveGift now sections) (db.findHostProgress hostUserId)) :
    GalleryLawful strict sections isActiveGift now
      (db.answer hostUserId itemId galleryNowFull) := by
  refine ⟨lawful.template, lawful.items, lawful.keys, lawful.firsts, lawful.noted,
    fun host item given => ?_, fun orderly host before row after answer split given => ?_,
    lawful.notFull⟩
  · simp only [GalleryDb.answer] at given
    split at given
    next own =>
      obtain ⟨rfl, rfl⟩ := own
      exact noted
    next => exact lawful.answersNoted host item given
  · simp only [GalleryDb.answer] at given
    split at given
    next own =>
      obtain ⟨rfl, rfl⟩ := own
      obtain ⟨last, full⟩ := counted orderly
      have none : after = [] := lawful.last_eq split last
      subst none
      rw [← Option.some.inj given, full]
      exact congrArg _ split
    next => exact lawful.answered orderly host before row after answer split given

private theorem createProgress_lawful {row : GalleryProgress}
    (listed : ∃ item ∈ galleryItems sections, item.id = row.giftGallerySectionItemId ∧
      item.giftId = row.giftId)
    (absent : db.findProgress row.hostUserId row.giftGallerySectionItemId = none)
    (notFull : strict → fills (visibleItems isActiveGift now sections)
      (db.findHostProgress row.hostUserId) = false) :
    GalleryLawful strict sections isActiveGift now (db.createProgress row) := by
  have fresh := findProgress_eq_none.mp absent
  have neverReceived : firstReceived db.received row.hostUserId row.giftGallerySectionItemId =
      none := by
    rw [firstReceived, List.find?_eq_none]
    intro gift inside same
    obtain ⟨stored, member, key, _⟩ := lawful.noted gift inside
    simp only [Bool.and_eq_true, decide_eq_true_eq] at same
    exact fresh stored member (by rw [key, same.1, same.2])
  have hostRows : ∀ host, (db.createProgress row).findHostProgress host =
      db.findHostProgress host ++ if row.hostUserId = host then [row] else [] := by
    intro host
    simp only [GalleryDb.findHostProgress, GalleryDb.createProgress, List.filter_append,
      List.filter_cons, List.filter_nil, decide_eq_true_eq]
  -- a row and those before it are old, or the row is the new one and those before it all the old
  have places : ∀ host before other after,
      (db.createProgress row).findHostProgress host = before ++ other :: after →
      (∃ rest, db.findHostProgress host = before ++ other :: rest) ∨
        (other = row ∧ row.hostUserId = host ∧ before = db.findHostProgress host) := by
    intro host before other after split
    rw [hostRows host] at split
    rcases List.eq_nil_or_concat' after with none | ⟨front, final, rfl⟩
    · by_cases own : row.hostUserId = host
      · rw [none, if_pos own] at split
        have parts := List.append_inj' split rfl
        exact .inr ⟨by simpa using parts.2.symm, own, parts.1.symm⟩
      · rw [if_neg own, List.append_nil] at split
        exact .inl ⟨after, split⟩
    · by_cases own : row.hostUserId = host
      · rw [if_pos own, ← List.cons_append, ← List.append_assoc] at split
        exact .inl ⟨front, (List.append_inj' split rfl).1⟩
      · rw [if_neg own, List.append_nil] at split
        exact .inl ⟨_, split⟩
  refine ⟨lawful.template, ?_, ?_, ?_, ?_, ?_, ?_, ?_⟩
  · intro other member
    rcases List.mem_append.mp member with old | isNew
    · exact lawful.items other old
    · rw [List.mem_singleton.mp isNew]
      exact listed
  · simp only [GalleryDb.createProgress, List.map_append, List.map_cons, List.map_nil]
    refine List.nodup_append.mpr ⟨lawful.keys, List.nodup_singleton _, ?_⟩
    intro key old other isNew
    obtain ⟨stored, member, rfl⟩ := List.mem_map.mp old
    rw [List.mem_singleton.mp isNew]
    exact fresh stored member
  · intro other member
    rcases List.mem_append.mp member with old | isNew
    · exact firstReceived_append (lawful.firsts other old)
    · rw [List.mem_singleton.mp isNew]
      simp only [GalleryDb.createProgress, firstReceived] at neverReceived ⊢
      rw [List.find?_append, neverReceived, Option.none_or]
      simp [GalleryProgress.asReceived]
  · intro gift inside
    rcases List.mem_append.mp inside with old | isNew
    · obtain ⟨stored, member, rest⟩ := lawful.noted gift old
      exact ⟨stored, List.mem_append_left _ member, rest⟩
    · rw [List.mem_singleton.mp isNew]
      exact ⟨row, List.mem_append_right _ (List.mem_singleton.mpr rfl), rfl, rfl⟩
  · intro host item given
    obtain ⟨stored, member, key⟩ := lawful.answersNoted host item given
    exact ⟨stored, List.mem_append_left _ member, key⟩
  · intro orderly host before other after answer split given
    rcases places host before other after split with ⟨rest, old⟩ | ⟨rfl, rfl, rfl⟩
    · exact lawful.answered orderly host before other rest answer old given
    · obtain ⟨stored, member, key⟩ :=
        lawful.answersNoted _ _ (Option.isSome_iff_exists.mpr ⟨answer, given⟩)
      exact absurd key (fresh stored member)
  · intro orderly host before other after split
    rcases places host before other after split with ⟨rest, old⟩ | ⟨rfl, rfl, rfl⟩
    · exact lawful.notFull orderly host before other rest old
    · exact notFull orderly

end Writes

/-! ### Runs -/

section Runs

variable (strict : Prop) (sections : List GallerySection) (isActiveGift : Nat → Bool) (now : Time)

/-- The agreement of all runs, or of those in which events are entered where they are clear. -/
def galleryAgreement : Agreement GalleryRequest GalleryDb GalleryLock where
  inv := GalleryLawful strict sections isActiveGift now
  grows s t := s.progress <+: t.progress
  same
    | .progress hostUserId itemId, s, t =>
      s.findProgress hostUserId itemId = none ↔ t.findProgress hostUserId itemId = none
  step _ _ _ := True
  allows _ statement db := strict → galleryJournal.Allowed statement db
  grows_refl _ := List.prefix_rfl
  grows_trans _ _ _ := List.IsPrefix.trans
  same_refl _ _ := Iff.rfl
  same_trans _ _ _ _ := Iff.trans

variable {strict sections isActiveGift now} {request : GalleryRequest} {s : GalleryDb}
  {row : GalleryProgress}

private theorem findHostProgress_prefix {u v : GalleryDb} (grows : u.progress <+: v.progress)
    (hostUserId : UserId) :
    u.findHostProgress hostUserId <+: v.findHostProgress hostUserId := by
  obtain ⟨rest, appended⟩ := grows
  refine ⟨rest.filter (·.hostUserId = hostUserId), ?_⟩
  rw [GalleryDb.findHostProgress, GalleryDb.findHostProgress, ← appended, List.filter_append]

private theorem findHostProgress_same {u v : GalleryDb}
    (lawful : GalleryLawful strict sections isActiveGift now v) (grows : u.progress <+: v.progress)
    (noted : row ∈ u.progress)
    (last : (v.findHostProgress row.hostUserId).getLast?.any
      (·.giftGallerySectionItemId = row.giftGallerySectionItemId) = true) :
    u.findHostProgress row.hostUserId = v.findHostProgress row.hostUserId := by
  obtain ⟨rest, appended⟩ := findHostProgress_prefix grows row.hostUserId
  obtain ⟨before, after, place⟩ :=
    List.append_of_mem (mem_findHostProgress.mpr ⟨noted, rfl⟩)
  have split : v.findHostProgress row.hostUserId = before ++ row :: (after ++ rest) := by
    rw [← appended, place, List.append_assoc, List.cons_append]
  have none := lawful.last_eq split last
  rw [← appended, (List.append_eq_nil_iff.mp none).2, List.append_nil]

private theorem upsertProgress_relies
    (ids : ((galleryItems sections).map (·.id)).Nodup)
    (listed : ∃ item ∈ galleryItems sections, item.id = row.giftGallerySectionItemId ∧
      item.giftId = row.giftId) :
    (Prog.transaction (upsertProgress row)).Relies
      (galleryAgreement strict sections isActiveGift now) request
      (fun outcome t => ∀ created, outcome = .ok created → if created then row ∈ t.progress
        else ∃ stored ∈ t.progress, stored.key = row.key ∧ stored.giftId = row.giftId) ∅ id s := by
  refine Prog.relies_transaction (Tx.relies_select fun t _ => ?_)
  dsimp only [id]
  cases found : t.findProgress row.hostUserId row.giftGallerySectionItemId with
  | some stored =>
    rw [Option.isSome_some, if_pos rfl]
    refine fun u further _ => ⟨⟨further.inv, List.prefix_rfl, fun lock _ => ?_, trivial⟩, ?_⟩
    · exact (galleryAgreement strict sections isActiveGift now).same_refl lock u
    · rintro _ ⟨⟩
      rw [if_neg Bool.false_ne_true]
      have named := List.find?_some found
      simp only [Bool.and_eq_true, decide_eq_true_eq] at named
      have member := further.grows.subset (List.mem_of_find?_eq_some found)
      obtain ⟨item, inside, id, gift⟩ := listed
      have same := further.inv.gift_eq ids member inside (id.trans named.2.symm)
      exact ⟨stored, member, by rw [GalleryProgress.key, named.1, named.2]; rfl,
        same.symm.trans gift⟩
  | none =>
    rw [Option.isSome_none, if_neg Bool.false_ne_true]
    refine Tx.Relies.bind (Tx.relies_lockRow fun u _ _ => Tx.relies_select fun v _ =>
      Tx.relies_ensure_bind (fun _ _ => nofun) fun free w third _ x fourth allowed => ?_)
    have absentThen : v.findProgress row.hostUserId row.giftGallerySectionItemId = none := by
      simpa using free
    have protected₁ := third.same (.progress row.hostUserId row.giftGallerySectionItemId)
      (Set.mem_insert _ _)
    have protected₂ := fourth.same (.progress row.hostUserId row.giftGallerySectionItemId)
      (Set.mem_insert _ _)
    have absent := protected₂.mp (protected₁.mp absentThen)
    have clear (orderly : strict) := allowed orderly (.noted row.hostUserId
      row.giftGallerySectionItemId) rfl
    simp only [galleryJournal, Bool.not_eq_true', fourth.inv.summary_eq] at clear
    refine ⟨⟨createProgress_lawful fourth.inv listed absent clear, List.prefix_append _ _,
      fun lock apart => ?_, trivial⟩, ?_⟩
    · -- the rows of other keys are as they were
      obtain ⟨hostUserId, itemId⟩ := lock
      have other : row.key ≠ (hostUserId, itemId) := by
        rintro ⟨rfl, rfl⟩
        exact apart (Set.mem_insert _ _)
      simp [galleryAgreement, findProgress_eq_none, GalleryDb.createProgress, or_imp, forall_and,
        other]
    · rintro _ ⟨⟩
      rw [if_pos rfl]
      exact List.mem_append_right _ (List.mem_singleton.mpr rfl)

private abbrev Reports (strict : Prop) (sections : List GallerySection)
    (isActiveGift : Nat → Bool) (now : Time) (request : GalleryRequest) {α : Type}
    (p : GalleryProg α) (s : GalleryDb) : Prop :=
  p.Abides (galleryAgreement strict sections isActiveGift now) request s

private theorem autocommit_reports {lock : GalleryLock} {f : GalleryDb → GalleryDb}
    (kept : ∀ u, s.progress <+: u.progress → GalleryLawful strict sections isActiveGift now u →
      (strict → ∀ event, (f u).history = u.history ++ [event] →
        galleryJournal.clear u event = true) →
      GalleryLawful strict sections isActiveGift now (f u) ∧ (f u).progress = u.progress) :
    Reports strict sections isActiveGift now request (Prog.autocommit lock f) s := by
  refine Prog.relies_autocommit fun t first _ u second allowed => ?_
  obtain ⟨lawful, same⟩ := kept u (first.grows.trans second.grows) second.inv allowed
  refine ⟨⟨lawful, ?_, fun lock _ => ?_, trivial⟩, trivial⟩
  · have kept : u.progress <+: (f u).progress := by simp only [same, List.prefix_rfl]
    exact kept
  · obtain ⟨hostUserId, itemId⟩ := lock
    simp only [galleryAgreement, GalleryDb.findProgress, same]

private theorem reportProgress_relies {created : Bool} (holds : if created then row ∈ s.progress
      else ∃ stored ∈ s.progress, stored.key = row.key ∧ stored.giftId = row.giftId) :
    Reports strict sections isActiveGift now request (reportProgress row created) s := by
  cases created with
  | false =>
    rw [if_neg Bool.false_ne_true] at holds
    obtain ⟨stored, member, key, gift⟩ := holds
    have received : Reports strict sections isActiveGift now request
        (Prog.autocommit (.progress row.hostUserId row.giftGallerySectionItemId)
          (·.receive row.asReceived)) s :=
      autocommit_reports fun u grows lawful _ =>
        ⟨receive_lawful lawful ⟨stored, grows.subset member, key, gift⟩, rfl⟩
    exact received.bind (fun _ _ _ => Prog.relies_pure trivial) fun _ _ _ => trivial
  | true =>
    rw [if_pos rfl] at holds
    refine Prog.relies_select fun t first => Prog.relies_select fun u second => ?_
    have noted : row ∈ u.progress := second.grows.subset (first.grows.subset holds)
    have answered : Reports strict sections isActiveGift now request
        (Prog.autocommit (.progress row.hostUserId row.giftGallerySectionItemId)
          (·.answer row.hostUserId row.giftGallerySectionItemId
            (CompletionSummary.ofCounts t.visible.length
              (u.receivedItems row.hostUserId)).isFullGallery)) u := by
      refine autocommit_reports fun v grows lawful clear => ⟨?_, rfl⟩
      refine answer_lawful lawful ⟨row, grows.subset noted, rfl⟩ fun orderly => ?_
      have last := clear orderly _ rfl
      have same := findHostProgress_same lawful grows noted last
      refine ⟨last, ?_⟩
      rw [GalleryDb.receivedItems, same, first.inv.visible_eq, second.inv.visible_eq]
      rfl
    exact answered.bind (fun _ _ _ => Prog.relies_pure trivial) fun _ _ _ => trivial

private theorem findSectionItem_mem {giftId skip : Nat} {item : GallerySectionItem}
    (found : findSectionItemForGalleryGift sections giftId skip = some item) :
    item ∈ galleryItems sections ∧ item.giftId = giftId := by
  have member : item ∈ (galleryItems sections).filter (·.giftId = giftId) := by
    rcases Option.or_eq_some_iff.mp found with later | ⟨_, first⟩
    · exact List.mem_of_mem_drop (List.mem_of_mem_head? later)
    · exact List.mem_of_mem_head? first
  simpa using List.mem_filter.mp member

private theorem galleryHandler_relies (ids : ((galleryItems sections).map (·.id)).Nodup)
    (request : GalleryRequest) (s : GalleryDb) :
    Reports strict sections isActiveGift now request (galleryHandler request) s := by
  refine Prog.Relies.forget ?_
  unfold recordGiftProgress
  refine Prog.relies_select fun t first => ?_
  rw [first.inv.template.1]
  refine Prog.relies_select fun u second => ?_
  rw [second.inv.template.1, Option.getD_some]
  cases found : findSectionItemForGalleryGift sections request.giftId request.skip with
  | none => exact Prog.relies_pure trivial
  | some item =>
    obtain ⟨inside, gift⟩ := findSectionItem_mem found
    refine Prog.Relies.bind (upsertProgress_relies ids ⟨item, inside, rfl, gift⟩)
      (fun created v noted => ?_) fun _ _ _ => trivial
    exact reportProgress_relies (noted created rfl)

end Runs

def newMonth (sections : List GallerySection) (isActiveGift : Nat → Bool) (now : Time) :
    GalleryDb :=
  { gallery := some sections, isActiveGift, now }

section Complete

variable {strict : Prop} {sections : List GallerySection} {isActiveGift : Nat → Bool} {now : Time}
  {db : GalleryDb}

private theorem lawful_newMonth :
    GalleryLawful strict sections isActiveGift now (newMonth sections isActiveGift now) := by
  have none : ∀ host, (newMonth sections isActiveGift now).findHostProgress host = [] :=
    fun _ => rfl
  refine ⟨⟨rfl, rfl, rfl⟩, by simp [newMonth], List.nodup_nil, by simp [newMonth],
    by simp [newMonth], by simp [newMonth], ?_, ?_⟩
  · intro _ host before row after answer split
    simp [none host] at split
  · intro _ host before row after split
    simp [none host] at split

private theorem GalleryLawful.full_iff (lawful : GalleryLawful strict sections isActiveGift now db)
    (fits : TemplateFits sections (visibleItems isActiveGift now sections)) (hostUserId : UserId) :
    (db.getHostCompletionSummary hostUserId).isFullGallery = true ↔
      ∀ item ∈ db.visible, ∃ gift ∈ db.received,
        gift.hostUserId = hostUserId ∧ gift.giftId = item.giftId := by
  have sub : (visibleItems isActiveGift now sections).Sublist (galleryItems sections) :=
    visibleItems_sublist sections
  rw [lawful.summary_eq, lawful.visible_eq,
    fills_iff (fits.ids.sublist (sub.map _)) fits.someVisible (lawful.distinct hostUserId)]
  refine forall_congr' fun item => imp_congr_right fun shown => ⟨?_, ?_⟩
  · rintro ⟨row, inside, same⟩
    obtain ⟨member, own⟩ := mem_findHostProgress.mp inside
    have gift := lawful.gift_eq fits.ids member (sub.subset shown) same.symm
    have first := List.mem_of_find?_eq_some (lawful.firsts row member)
    exact ⟨row.asReceived, first, own, gift.symm⟩
  · rintro ⟨gift, inside, own, same⟩
    obtain ⟨row, member, key, giftId⟩ := lawful.noted gift inside
    obtain ⟨other, listed, id, otherGift⟩ := lawful.items row member
    have equal : other = item :=
      fits.once item shown other listed (otherGift.trans (giftId.trans same))
    obtain ⟨host, _⟩ := Prod.mk.inj key
    exact ⟨row, mem_findHostProgress.mpr ⟨member, host.trans own⟩, (equal ▸ id).symm⟩

private theorem GalleryLawful.reported (lawful : GalleryLawful True sections isActiveGift now db)
    (fits : TemplateFits sections (visibleItems isActiveGift now sections)) (hostUserId : UserId) :
    (db.findHostProgress hostUserId).countP (fun row =>
        db.answers hostUserId row.giftGallerySectionItemId = some true) =
      if (db.getHostCompletionSummary hostUserId).isFullGallery && db.lastAnswered hostUserId
      then 1 else 0 := by
  rw [lawful.summary_eq]
  have answered := lawful.answered trivial hostUserId
  have notFull := lawful.notFull trivial hostUserId
  unfold GalleryDb.lastAnswered
  generalize db.findHostProgress hostUserId = rows at answered notFull ⊢
  rcases List.eq_nil_or_concat' rows with rfl | ⟨before, last, rfl⟩
  · have positive : visibleItems isActiveGift now sections ≠ [] := fits.someVisible
    simp [fills, CompletionSummary.ofCounts, positive]
  · have earlier : before.countP (fun row =>
        db.answers hostUserId row.giftGallerySectionItemId = some true) = 0 := by
      refine List.countP_eq_zero.mpr fun row member given => ?_
      obtain ⟨front, back, rfl⟩ := List.append_of_mem member
      -- another row came after it, so the gallery was not full when it was noted
      have none : fills (visibleItems isActiveGift now sections) (front ++ [row]) = false := by
        rcases back with _ | ⟨next, back⟩
        · exact notFull (front ++ [row]) last [] (by simp)
        · exact notFull (front ++ [row]) next (back ++ [last]) (by simp)
      have full := answered front row (back ++ [last]) true (by simp) (by simpa using given)
      rw [none] at full
      cases full
    rw [List.countP_append, earlier, Nat.zero_add, List.countP_singleton,
      List.getLast?_concat, Option.any_some]
    cases given : db.answers hostUserId last.giftGallerySectionItemId with
    | none => simp
    | some answer =>
      have own := answered before last [] answer rfl given
      rw [← own]
      cases answer <;> simp

/-- In every run on a template that fits, the gallery of a host is full exactly if the gift of every
visible item has been received, the first sender of an item stays, and both tallies agree. In a
clear run, once the call that noted the last item has reported, it alone has reported a full
gallery. -/
theorem giftGallery_complete
    (fits : TemplateFits sections (visibleItems isActiveGift now sections))
    {ok : Config GalleryRequest GalleryDb GalleryLock GalleryError → Event GalleryRequest → Prop}
    {c : Config GalleryRequest GalleryDb GalleryLock GalleryError}
    (run : Reaches galleryHandler ok (Config.idle (newMonth sections isActiveGift now)) c)
    (hostUserId : UserId) :
    ((c.db.getHostCompletionSummary hostUserId).isFullGallery = true ↔
        ∀ item ∈ c.db.visible, ∃ gift ∈ c.db.received,
          gift.hostUserId = hostUserId ∧ gift.giftId = item.giftId) ∧
      (∀ row ∈ c.db.progress, firstReceived c.db.received row.hostUserId
        row.giftGallerySectionItemId = some row.asReceived) ∧
      tallyVisibleGalleryCompletion (c.db.visible.map (·.id))
          ((c.db.findHostProgress hostUserId).map (·.giftGallerySectionItemId)) =
        c.db.getHostCompletionSummary hostUserId ∧
      ((∀ before e, ok before e → galleryJournal.Orderly before e) →
        (c.db.findHostProgress hostUserId).countP (fun row =>
            c.db.answers hostUserId row.giftGallerySectionItemId = some true) =
          if (c.db.getHostCompletionSummary hostUserId).isFullGallery &&
            c.db.lastAnswered hostUserId then 1 else 0) := by
  have always (strict : Prop)
      (allows : ∀ before e, ok before e → (galleryAgreement strict sections isActiveGift now).Allows
        before e) : GalleryLawful strict sections isActiveGift now c.db :=
    (run.observed (fun request s _ => galleryHandler_relies fits.ids request s) allows
      lawful_newMonth).inv
  have lawful := always False fun before e _ => by
    cases e with
    | advance i => exact fun _ _ _ _ strict => strict.elim
    | _ => trivial
  have ids : (c.db.visible.map (·.id)).Nodup := by
    rw [lawful.visible_eq]
    exact fits.ids.sublist ((visibleItems_sublist sections).map _)
  refine ⟨lawful.full_iff fits hostUserId, lawful.firsts, tally_eq ids (lawful.distinct hostUserId),
    fun clear => (always True fun before e allowed => ?_).reported fits hostUserId⟩
  cases e with
  | advance i =>
    exact fun t statement found isNext _ => clear before _ allowed t statement found isNext
  | _ => trivial

end Complete

/-! ### Runs of a few gifts -/

/-- The template of a request about active gifts. -/
def storedTemplate (request : List (List Nat)) : List GallerySection :=
  (upsertGallery (fun _ => true) request).toOption.getD []

/-- Three gifts in two sections, one of them received twice. -/
theorem giftGallery_complete_three :
    ∃ c : Config GalleryRequest GalleryDb GalleryLock GalleryError,
      ((c.db.getHostCompletionSummary 9).isFullGallery = true ∧ c.db.lastAnswered 9 = true) ∧
      ((c.db.getHostCompletionSummary 9).isFullGallery = true ↔
        ∀ item ∈ c.db.visible, ∃ gift ∈ c.db.received,
          gift.hostUserId = 9 ∧ gift.giftId = item.giftId) ∧
      (∀ row ∈ c.db.progress, firstReceived c.db.received row.hostUserId
        row.giftGallerySectionItemId = some row.asReceived) ∧
      tallyVisibleGalleryCompletion (c.db.visible.map (·.id))
          ((c.db.findHostProgress 9).map (·.giftGallerySectionItemId)) =
        c.db.getHostCompletionSummary 9 ∧
      (c.db.findHostProgress 9).countP (fun row =>
          c.db.answers 9 row.giftGallerySectionItemId = some true) =
        if (c.db.getHostCompletionSummary 9).isFullGallery && c.db.lastAnswered 9
        then 1 else 0 := by
  have accepted : upsertGallery (fun _ => true) [[1, 2], [3]] =
      .ok (storedTemplate [[1, 2], [3]]) := rfl
  have fits := upsertGallery_fits accepted (by decide) (by decide) 0
  obtain ⟨c, run, now⟩ : ∃ c, Reaches galleryHandler galleryJournal.Orderly
      (Config.idle (newMonth (storedTemplate [[1, 2], [3]]) (fun _ => true) 0)) c ∧
      (c.db.getHostCompletionSummary 9).isFullGallery = true ∧ c.db.lastAnswered 9 = true :=
    exists_reaches_checked galleryJournal.orderly_of_checks [serve ⟨9, 1, 5, 0⟩ 0 11,
      serve ⟨9, 1, 6, 0⟩ 1 6, serve ⟨9, 3, 6, 0⟩ 2 11, serve ⟨9, 2, 5, 0⟩ 3 11]
      (by decide +kernel)
  obtain ⟨full, firsts, tallies, reported⟩ := giftGallery_complete fits run 9
  exact ⟨c, now, full, firsts, tallies, reported fun _ _ orderly => orderly⟩

/-- A gift that is listed in two sections is noted on one of its items only. And two calls that note
the last two gifts at once both find the gallery full. -/
theorem giftGallery_not_complete :
    (∃ c, Reaches galleryHandler (fun _ _ => True)
      (Config.idle (newMonth (storedTemplate [[1], [1]]) (fun _ => true) 0)) c ∧
      (c.db.getHostCompletionSummary 9).isFullGallery = false ∧
      ∀ item ∈ c.db.visible, ∃ gift ∈ c.db.received,
        gift.hostUserId = 9 ∧ gift.giftId = item.giftId) ∧
    ∃ c, Reaches galleryHandler (fun _ _ => True)
      (Config.idle (newMonth (storedTemplate [[1, 2]]) (fun _ => true) 0)) c ∧
      (c.db.getHostCompletionSummary 9).isFullGallery = true ∧
      (c.db.findHostProgress 9).countP (fun row =>
        c.db.answers 9 row.giftGallerySectionItemId = some true) = 2 := by
  constructor
  · exact exists_reaches [serve ⟨9, 1, 5, 0⟩ 0 11] (by decide +kernel)
  · exact exists_reaches [serve ⟨9, 1, 5, 0⟩ 0 7, serve ⟨9, 2, 6, 0⟩ 1 11,
      List.replicate 4 (.advance 0)] (by decide +kernel)

end OlNode.Gifting
