import Mathlib.Data.List.MinMax
import OlNode.Keyed
import OlNode.ReadCommitted.Journal
import OlNode.Schema

/-!
# Restrictions of a user

The restrictions of one type on one user. A replacement clears the active rows and inserts its own
in two statements, and an extension plans its row from one it has read before. A Redis entry repeats
the active row: a check decides by it, and fills it from the row it has read if there is none.

Entries carry the id of their row here, which they do not in Redis. The history records what the
statements found: a statement is clear if an extension clears what it has read, a row is inserted
where none is active, and an entry is set for the row that is active. In clear runs a check decides
by the active row once it has been cached, and never by one whose clearing has been answered.
-/
namespace OlNode.Restrictions

open ReadCommitted

inductive UserRestrictionType where
  | liveChatMute | liveAudioMute | messagingDisable | liveStreamStartBan
  deriving DecidableEq

structure UserRestriction where
  id : Nat
  restrictedUntil : Time
  reason : Option String := none
  reportId : Option Nat := none
  clearedAt : Option Time := none
  targets : List UserId := []
  deriving DecidableEq

/-- `none` as targets stands for every recipient. -/
structure RestrictionCachePayload where
  id : Nat
  untilTime : Time
  targetUserIds : Option (List UserId)
  deriving DecidableEq

/-- What a check decided by, the active row as it answered, and the ids that were cached or
settled when it began. -/
structure CheckRecord where
  basis : Option RestrictionCachePayload
  active : Option UserRestriction
  cachedBefore : List Nat
  settledBefore : List Nat
  deriving DecidableEq

inductive RestrictionEvent where
  /-- The rows that an `apply` has cleared; an extension had read `existing`. -/
  | replaced (extend : Bool) (existing : Option UserRestriction) (cleared : List UserRestriction)
  | created (row : UserRestriction) (extend : Bool) (existing : Option UserRestriction)
  | cached (entry : RestrictionCachePayload)
  /-- A clear that has found its row cleared before. -/
  | alreadyCleared (id : Nat)
  | checked (check : CheckRecord)
  deriving DecidableEq

/-- `cachedIds` are the rows that have been cached, `settled` the rows that were cleared before a
clear was answered. -/
structure RestrictionDb where
  now : Time
  rows : List UserRestriction := []
  cache : Option RestrictionCachePayload := none
  cachedIds : List Nat := []
  settled : List Nat := []
  history : List RestrictionEvent := []

inductive RestrictionError where
  | invalidRequest
  /-- A check of the admin, the user, the report or the targets fails. -/
  | refused
  | cannotNarrowGlobalMessagingBan
  | restrictionNotFound
  | uniqueViolation
  | restricted (untilTime : Time) (targetUserIds : Option (List UserId))

inductive RestrictionLock where
  | clock
  | row (id : Nat)
  | active
  | cache
  | journal
  deriving DecidableEq

abbrev RestrictionTx := Tx RestrictionDb RestrictionLock RestrictionError
abbrev RestrictionProg := Prog RestrictionDb RestrictionLock RestrictionError

def MAX_MESSAGING_TARGETS : Nat := 100

/-! ### Rows and entries -/

/-- Not cleared, and not expired. -/
def UserRestriction.isActive (now : Time) (row : UserRestriction) : Bool :=
  row.clearedAt.isNone && now < row.restrictedUntil

section Entries

variable (type : UserRestrictionType)

/-- Empty target rows = global (all recipients). -/
def targetUserIdsFromRow (row : UserRestriction) : Option (List UserId) :=
  if type ≠ .messagingDisable then none
  else if row.targets = [] then none
  else some row.targets

/-- What is cached of a row. -/
def entryOf (row : UserRestriction) : RestrictionCachePayload :=
  ⟨row.id, row.restrictedUntil, targetUserIdsFromRow type row⟩

end Entries

namespace RestrictionDb

variable (db : RestrictionDb)

def activeRows : List UserRestriction := db.rows.filter (·.isActive db.now)

/-- `orderBy: { restrictedUntil: 'desc' }`. -/
def findActive : Option UserRestriction := db.activeRows.argmax (·.restrictedUntil)

def findById (id : Nat) : Option UserRestriction := db.rows.find? (·.id = id)

def clearedIds : List Nat := (db.rows.filter (·.clearedAt.isSome)).map (·.id)

def record (event : RestrictionEvent) : RestrictionDb :=
  { db with history := db.history ++ [event] }

def clearActiveOfType : RestrictionDb :=
  { db with rows := db.rows.map fun row =>
      if row.isActive db.now then { row with clearedAt := some db.now } else row }

def clear (id : Nat) : RestrictionDb :=
  { db with rows := db.rows.map fun row =>
      if row.id = id then { row with clearedAt := some db.now } else row }

def create (row : UserRestriction) : RestrictionDb := { db with rows := db.rows ++ [row] }

def setCache (entry : RestrictionCachePayload) : RestrictionDb :=
  { db with
    cache := some entry
    cachedIds := db.cachedIds ++ [entry.id]
    history := db.history ++ [.cached entry] }

/-- The rows that are cleared by now are settled. -/
def settle : RestrictionDb := { db with settled := db.settled ++ db.clearedIds }

end RestrictionDb

/-! ### Applying -/

structure ApplyParams where
  /-- The generated id of the new row. -/
  id : Nat
  restrictedUntil : Time
  reason : Option String := none
  reportId : Option Nat := none
  targetUserIds : List UserId := []
  extend : Bool := false
  /-- The user, the report and what the admin may do. -/
  admitted : Bool := true
  /-- The targets are known users other than the restricted one. -/
  knownTargets : Bool := true

/-- What is stored: until when, why, and for whom, where `none` is everyone. -/
structure RestrictionPlan where
  restrictedUntil : Time
  reason : Option String
  reportId : Option Nat
  targetUserIds : Option (List UserId)

/-- `[...new Set(ids)]` -/
def distinctIds (ids : List UserId) : List UserId := ids.eraseDups

/-- The targets of an extension of a row: those of the row and the new ones. -/
def extendTargets : Option (List UserId) → Option (List UserId) →
    Except RestrictionError (Option (List UserId))
  | none, some _ => .error .cannotNarrowGlobalMessagingBan
  | none, none => .ok none
  | some existingTargets, none => .ok (some existingTargets)
  | some existingTargets, some targetUserIds =>
    if (distinctIds (existingTargets ++ targetUserIds)).length > MAX_MESSAGING_TARGETS then
      .error .invalidRequest
    else .ok (some (distinctIds (existingTargets ++ targetUserIds)))

section Handlers

variable (type : UserRestrictionType)

def extendPlan (plan : RestrictionPlan) :
    Option UserRestriction → Except RestrictionError RestrictionPlan
  | none => .ok plan
  | some existing =>
    (extendTargets (targetUserIdsFromRow type existing) plan.targetUserIds).map fun targets =>
      { restrictedUntil := max plan.restrictedUntil existing.restrictedUntil
        reason := plan.reason.or existing.reason
        reportId := plan.reportId.or existing.reportId
        targetUserIds := targets }

def cacheActive (row : UserRestriction) : RestrictionProg Unit :=
  Prog.autocommit .cache (·.setCache (entryOf type row))

/-- INSERT under the primary key. -/
def createRestriction (row : UserRestriction) (extend : Bool) (existing : Option UserRestriction) :
    RestrictionTx Unit := do
  Tx.lockRow (.row row.id)
  let taken ← Tx.select (·.findById row.id)
  Tx.ensure taken.isNone .uniqueViolation
  Tx.update (.row row.id) fun db => (db.create row).record (.created row extend existing)

def replaceActive (id : Nat) (extend : Bool) (existing : Option UserRestriction)
    (plan : RestrictionPlan) : RestrictionProg Unit := do
  Prog.autocommit .active fun db =>
    db.clearActiveOfType.record (.replaced extend existing db.activeRows)
  let row : UserRestriction :=
    { id, restrictedUntil := plan.restrictedUntil, reason := plan.reason
      reportId := plan.reportId, targets := distinctIds (plan.targetUserIds.getD []) }
  Prog.transaction (createRestriction row extend existing)
  cacheActive type row

def applyPlan (id : Nat) (extend : Bool) (existing : Option UserRestriction) :
    Except RestrictionError RestrictionPlan → RestrictionProg Unit
  | .error error => Prog.fail error
  | .ok plan => replaceActive type id extend existing plan

def incomingTargets (params : ApplyParams) : Option (List UserId) :=
  if params.targetUserIds = [] then none else some (distinctIds params.targetUserIds)

def apply (params : ApplyParams) : RestrictionProg Unit := do
  let now ← Prog.select (·.now)
  Prog.ensure (now < params.restrictedUntil) .invalidRequest
  Prog.ensure (params.targetUserIds = [] || type = .messagingDisable) .invalidRequest
  Prog.ensure (!params.extend || type = .messagingDisable) .invalidRequest
  Prog.ensure params.admitted .refused
  Prog.ensure ((distinctIds params.targetUserIds).length ≤ MAX_MESSAGING_TARGETS) .invalidRequest
  Prog.ensure params.knownTargets .refused
  let plan : RestrictionPlan :=
    ⟨params.restrictedUntil, params.reason, params.reportId, incomingTargets params⟩
  if params.extend then do
    let existing ← Prog.select (·.findActive)
    applyPlan type params.id true existing (extendPlan type plan existing)
  else replaceActive type params.id false none plan

/-! ### Clearing -/

inductive CheckKind where
  | assertNotRestricted
  | assertMessagingAllowed (recipientId : UserId)
  | getActiveUntil
  deriving DecidableEq

def CheckKind.refuses (type : UserRestrictionType) (entry : RestrictionCachePayload) :
    CheckKind → Bool
  | .assertNotRestricted => !(type = .messagingDisable && entry.targetUserIds.isSome)
  | .assertMessagingAllowed recipientId => entry.targetUserIds.all (recipientId ∈ ·)
  | .getActiveUntil => false

end Handlers

/-! ### Clear runs -/

section Clear

variable (type : UserRestrictionType)

/-- Whether a restriction is in the way of a message to this recipient. -/
def blocks (row : UserRestriction) (recipientId : UserId) : Bool :=
  (targetUserIdsFromRow type row).all (recipientId ∈ ·)

/-- A row that lasts as long as another and blocks every recipient the other one blocks. -/
structure Covers (row existing : UserRestriction) : Prop where
  expiry : existing.restrictedUntil ≤ row.restrictedUntil
  targets : ∀ recipientId, blocks type existing recipientId = true →
    blocks type row recipientId = true

/-- A check that has answered by the active row, if that had been cached when it began, and by none
that had been settled. -/
structure CheckRecord.Right (check : CheckRecord) : Prop where
  enforced : ∀ row, check.active = some row → row.id ∈ check.cachedBefore →
    check.basis = some (entryOf type row)
  lifted : ∀ entry, check.basis = some entry → entry.id ∉ check.settledBefore

def Fine : RestrictionEvent → Prop
  | .replaced extend existing cleared => extend = true → ∀ row ∈ cleared, existing = some row
  | .created row extend existing => extend = true → ∀ old, existing = some old → Covers type row old
  | .checked check => check.Right type
  | .cached _ | .alreadyCleared _ => True

/-- The rows and the entry, between any two statements. -/
structure Sound (db : RestrictionDb) : Prop where
  ids : (db.rows.map (·.id)).Nodup
  single : ∀ row ∈ db.activeRows, ∀ other ∈ db.activeRows, row = other
  entry : ∀ row ∈ db.activeRows, row.id ∈ db.cachedIds → ∀ entry, db.cache = some entry →
    entry = entryOf type row
  cachedIds : ∀ id ∈ db.cachedIds, ∃ row ∈ db.rows, row.id = id
  settled : ∀ id ∈ db.settled, (∃ row ∈ db.rows, row.id = id ∧ row.clearedAt.isSome) ∧
    ∀ entry, db.cache = some entry → entry.id ≠ id

structure RestrictionLawful (db : RestrictionDb) : Prop where
  sound : Sound type db
  fine : ∀ event ∈ db.history, Fine type event

end Clear

/-! ### What the writes do -/

/-- A row as it is later: it may have been cleared. -/
structure SameRow (row later : UserRestriction) : Prop where
  id : later.id = row.id
  restrictedUntil : later.restrictedUntil = row.restrictedUntil
  targets : later.targets = row.targets
  cleared : row.clearedAt.isSome → later.clearedAt.isSome

structure RestrictionGrows (s t : RestrictionDb) : Prop where
  now : s.now ≤ t.now
  rows : ∀ row ∈ s.rows, ∃ later ∈ t.rows, SameRow row later

theorem SameRow.refl (row : UserRestriction) : SameRow row row := ⟨rfl, rfl, rfl, fun h => h⟩

theorem RestrictionGrows.refl (s : RestrictionDb) : RestrictionGrows s s :=
  ⟨Nat.le_refl _, fun row member => ⟨row, member, .refl row⟩⟩

theorem RestrictionGrows.trans {s t u : RestrictionDb} (first : RestrictionGrows s t)
    (second : RestrictionGrows t u) : RestrictionGrows s u := by
  refine ⟨Nat.le_trans first.now second.now, fun row member => ?_⟩
  obtain ⟨later, inside, same⟩ := first.rows row member
  obtain ⟨last, present, again⟩ := second.rows later inside
  exact ⟨last, present, again.id.trans same.id, again.restrictedUntil.trans same.restrictedUntil,
    again.targets.trans same.targets, fun cleared => again.cleared (same.cleared cleared)⟩

section Writes

variable {type : UserRestrictionType} {db db' : RestrictionDb} {row : UserRestriction}

variable (sound : Sound type db)
include sound

end Writes

/-! ### What an extension stores -/

section Extensions

variable {type : UserRestrictionType}

end Extensions

/-! ### Runs -/

section Runs

variable (type : UserRestrictionType)

variable {type} {request : RestrictionRequest} {s : RestrictionDb}

private theorem findById_eq_none {db : RestrictionDb} {id : Nat} :
    db.findById id = none ↔ id ∉ db.rows.map (·.id) := by
  simp [RestrictionDb.findById]

private theorem RestrictionLawful.record {db db' : RestrictionDb} {event : RestrictionEvent}
    (lawful : RestrictionLawful type db) (sound : Sound type db')
    (history : db'.history = db.history ++ [event]) (fine : Fine type event) :
    RestrictionLawful type db' := by
  refine ⟨sound, fun other recorded => ?_⟩
  rw [history] at recorded
  rcases List.mem_append.mp recorded with old | isNew
  · exact lawful.fine other old
  · rw [List.mem_singleton.mp isNew]
    exact fine

end Runs

/-! ### Runs on one user -/

end OlNode.Restrictions
