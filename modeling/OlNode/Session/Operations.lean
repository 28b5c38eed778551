import Mathlib.Data.List.Sort
import OlNode.ReadCommitted.Rely
import OlNode.Schema

/-!
# Sessions of a user

The session rows are in Postgres; a blob of each session and the lock of a refresh are in Redis.
Every statement is atomic on its own. A SELECT … FOR UPDATE reads, waits for the rows it has found
and drops those that no longer match; the unique indexes make an INSERT wait for whoever holds the
key. Ids of sessions come with the request, as the random ids of the service do.

A refresh token is determined by its session and the second in which it is signed, since its `jti`
is the id of the session; its hash is not told apart from it.
-/
namespace OlNode.Sessions

open ReadCommitted

structure RefreshToken where
  sessionId : Nat
  iat : Nat
  deriving DecidableEq

structure SessionRow where
  id : Nat
  deviceId : String
  refreshTokenHash : RefreshToken
  tokenVersion : Nat := 0
  isActive : Bool := true
  isRevoked : Bool := false
  createdAt : Time
  updatedAt : Time
  expiresAt : Time

structure SessionRedisBlob where
  sessionTokenVersion : Nat
  revoked : Bool := false

/-- What the calls do. `inserted` says which live sessions the login has counted and whether the
device had an open session when the row was committed, `exchanged` what was presented and what was
issued for it, `passed` whether the session was closed when the validation looked it up; `closed`
comes when a revocation has done all it does. -/
inductive SessionEvent where
  | inserted (id : Nat) (counted : List Nat) (taken : Bool)
  | reused (id : Nat)
  | exchanged (id : Nat) (presented issued : RefreshToken)
  | cached (id : Nat)
  | swept (listed revoked : List Nat)
  | closed (ids : List Nat)
  | passed (id : Nat) (wasClosed : Bool)
  deriving DecidableEq

structure SessionDb where
  now : Time
  sessions : List SessionRow := []
  blobs : Nat → Option SessionRedisBlob := fun _ => none
  refreshLocks : Nat → Option Time := fun _ => none
  userTokenVersion : Nat := 0
  history : List SessionEvent := []

inductive Lock where
  | clock | user
  | session (id : Nat)
  | device (deviceId : String)
  | blob (id : Nat)
  | refreshLock (id : Nat)
  | returning
  deriving DecidableEq

inductive SessionError where
  | uniqueViolation
  | sessionLoginFailed
  | invalidRefreshToken
  | refreshConflict
  | userMayNotAuthenticate
  | sessionInvalid
  | sessionTokenStale
  | sessionNotFound
  deriving DecidableEq

abbrev SessionTx := Tx SessionDb Lock SessionError
abbrev SessionProg := Prog SessionDb Lock SessionError

/-- REFRESH_SEC and JWT_REFRESH_EXPIRES_IN, in seconds. -/
structure Environment where
  refreshSec : Nat
  jwtRefreshSec : Nat

variable (env : Environment)

def maxSessionsPerUser : Nat := 3

def Environment.sessionExpiresAt (now : Time) : Time := now + env.refreshSec * 1000

def signRefresh (sessionId : Nat) (now : Time) : RefreshToken := ⟨sessionId, now / 1000⟩

def Environment.verifyRefresh (token : RefreshToken) (now : Time) : Bool :=
  now / 1000 < token.iat + env.jwtRefreshSec

/-! ### Queries -/

namespace SessionDb

variable (db : SessionDb)

def find (id : Nat) : Option SessionRow := db.sessions.find? (·.id = id)

/-- The sessions of a device that are not revoked. -/
def openOn (deviceId : String) : List SessionRow :=
  db.sessions.filter fun row => row.deviceId = deviceId && !row.isRevoked

end SessionDb

def SessionRow.isLive (row : SessionRow) (now : Time) : Bool :=
  row.isActive && !row.isRevoked && now < row.expiresAt

def SessionDb.liveAt (db : SessionDb) (now : Time) : List SessionRow :=
  db.sessions.filter (·.isLive now)

def SessionDb.findByRefreshTokenHash (db : SessionDb) (token : RefreshToken) : Option SessionRow :=
  db.sessions.find? fun row => row.refreshTokenHash = token && row.isActive && !row.isRevoked

/-! ### Statements -/

namespace SessionDb

variable (db : SessionDb)

def record (e : SessionEvent) : SessionDb := { db with history := db.history ++ [e] }

def modify (id : Nat) (f : SessionRow → SessionRow) : SessionDb :=
  { db with sessions := db.sessions.map fun row => if row.id = id then f row else row }

def revoke (ids : List Nat) (now : Time) : SessionDb :=
  { db with sessions := db.sessions.map fun row =>
      if row.id ∈ ids then { row with isActive := false, isRevoked := true, updatedAt := now }
      else row }

def setBlob (id : Nat) (blob : Option SessionRedisBlob) : SessionDb :=
  { db with blobs := Function.update db.blobs id blob }

def writeSessionRedis (id : Nat) (sessionTokenVersion : Nat) : SessionDb :=
  (db.setBlob id (some { sessionTokenVersion })).record (.cached id)

end SessionDb

def SessionRow.reuse (token : RefreshToken) (now expiresAt : Time) (row : SessionRow) :
    SessionRow :=
  { row with
    refreshTokenHash := token, tokenVersion := row.tokenVersion + 1, expiresAt
    isActive := true, isRevoked := false, updatedAt := now }

def SessionRow.rotate (token : RefreshToken) (now expiresAt : Time) (row : SessionRow) :
    SessionRow :=
  { row with
    refreshTokenHash := token, tokenVersion := row.tokenVersion + 1, expiresAt, updatedAt := now }

/-- The INSERT of `loginCreateOrReuseSession`. -/
def SessionDb.create (db : SessionDb) (row : SessionRow) (counted : List Nat) : SessionDb :=
  { db with
    sessions := db.sessions ++ [row]
    history := db.history ++ [.inserted row.id counted !(db.openOn row.deviceId).isEmpty] }

/-! ### Login -/

def lockAll : List Nat → SessionTx Unit
  | [] => pure ()
  | id :: ids => do
    Tx.lockRow (.session id)
    lockAll ids

def selectForUpdate (q : SessionDb → List SessionRow) : SessionTx (List SessionRow) := do
  let rows ← Tx.select q
  lockAll (rows.map (·.id))
  Tx.select fun db => (q db).filter fun row => row.id ∈ rows.map (·.id)

structure LoginOutcome where
  sessionId : Nat
  tokenVersion : Nat
  revokedSessionIds : List Nat
  reused : Bool

structure LoginParams where
  newSessionId : Nat
  deviceId : String
  expiresAt : Time

def reuseSession (data : LoginParams) (keep : SessionRow) (killIds : List Nat) :
    SessionTx LoginOutcome := do
  let now ← Tx.select (·.now)
  Tx.update (.session keep.id) fun db =>
    ((db.revoke killIds now).modify keep.id
      (·.reuse (signRefresh keep.id now) now data.expiresAt)).record (.reused keep.id)
  pure { sessionId := keep.id, tokenVersion := keep.tokenVersion + 1
         revokedSessionIds := killIds, reused := true }

/-- The primary key and the unique index on the open sessions of a device. -/
def claimKeys (newSessionId : Nat) (deviceId : String) : SessionTx Unit := do
  Tx.lockRow (.session newSessionId)
  Tx.lockRow (.device deviceId)
  let open' ← selectForUpdate (·.openOn deviceId)
  let taken ← Tx.select (·.find newSessionId)
  Tx.ensure (open'.isEmpty && taken.isNone) .uniqueViolation

def excessOf (counted : List Nat) : List Nat :=
  if maxSessionsPerUser ≤ counted.length
  then counted.take (counted.length - maxSessionsPerUser + 1) else []

def insertSession (data : LoginParams) (lockedRows : List SessionRow) : SessionTx LoginOutcome := do
  let now ← Tx.select (·.now)
  let toRevoke := excessOf (lockedRows.map (·.id))
  Tx.update (.session data.newSessionId) (·.revoke toRevoke now)
  claimKeys data.newSessionId data.deviceId
  Tx.update (.session data.newSessionId) fun db =>
    db.create { id := data.newSessionId, deviceId := data.deviceId
                refreshTokenHash := signRefresh data.newSessionId now
                createdAt := now, updatedAt := now, expiresAt := data.expiresAt }
      (lockedRows.map (·.id))
  pure { sessionId := data.newSessionId, tokenVersion := 0
         revokedSessionIds := toRevoke, reused := false }

def newestFirst (rows : List SessionRow) : List SessionRow :=
  rows.insertionSort fun a b => b.updatedAt ≤ a.updatedAt

def oldestFirst (rows : List SessionRow) : List SessionRow :=
  rows.insertionSort fun a b => a.createdAt ≤ b.createdAt

def loginOn (data : LoginParams) (started : Time) : List SessionRow → SessionTx LoginOutcome
  | keep :: older => reuseSession data keep (older.map (·.id))
  | [] => do
    let lockedRows ← selectForUpdate fun db => oldestFirst (db.liveAt started)
    insertSession data lockedRows

/-- NOW() is the instant the transaction began. -/
def loginCreateOrReuseSession (data : LoginParams) : SessionTx LoginOutcome := do
  let started ← Tx.select (·.now)
  let lockedPair ← selectForUpdate (·.openOn data.deviceId)
  loginOn data started (newestFirst lockedPair)

/-- One attempt for each id; only a unique violation is tried again. -/
def loginAttempts (deviceId : String) (expiresAt : Time) : List Nat → SessionProg LoginOutcome
  | [] => Prog.fail .sessionLoginFailed
  | newSessionId :: more =>
    Prog.transactionCatch (loginCreateOrReuseSession { newSessionId, deviceId, expiresAt })
      fun error =>
        if error = .uniqueViolation && !more.isEmpty then loginAttempts deviceId expiresAt more
        else Prog.fail error

def delBlobs : List Nat → SessionProg Unit
  | [] => pure ()
  | id :: ids => do
    Prog.autocommit (.blob id) (·.setBlob id none)
    delBlobs ids

def createSession (deviceId : String) (newSessionIds : List Nat) : SessionProg Unit := do
  let now ← Prog.select (·.now)
  let outcome ← loginAttempts deviceId (env.sessionExpiresAt now) (newSessionIds.take 3)
  delBlobs outcome.revokedSessionIds
  Prog.autocommit (.blob outcome.sessionId)
    (·.writeSessionRedis outcome.sessionId outcome.tokenVersion)

/-! ### Refresh -/

/-- SET key 1 EX 5 NX. -/
def setRefreshLock (sessionId : Nat) : SessionTx Bool := do
  Tx.lockRow (.refreshLock sessionId)
  let free ← Tx.select fun db => (db.refreshLocks sessionId).all (· ≤ db.now)
  Tx.when (free = true) (Tx.update (.refreshLock sessionId) fun db =>
    { db with refreshLocks := Function.update db.refreshLocks sessionId (some (db.now + 5000)) })
  pure free

def releaseRefreshLock (sessionId : Nat) : SessionProg Unit :=
  Prog.autocommit (.refreshLock sessionId) fun db =>
    { db with refreshLocks := Function.update db.refreshLocks sessionId none }

def acquireAgain (sessionId : Nat) : Bool → SessionProg Bool
  | true => pure true
  | false => Prog.transaction (setRefreshLock sessionId)

def acquireRefreshLock (sessionId : Nat) : SessionProg Unit := do
  let ok ← Prog.transaction (setRefreshLock sessionId)
  let ok2 ← acquireAgain sessionId ok
  Prog.ensure ok2 .refreshConflict

def updateRefreshTokenAndBumpVersion (sessionId : Nat) (presented token : RefreshToken)
    (expiresAt : Time) : SessionTx Nat := do
  let now ← Tx.select (·.now)
  Tx.update (.session sessionId) fun db =>
    (db.modify sessionId (·.rotate token now expiresAt)).record (.exchanged sessionId presented token)
  Tx.select fun db => ((db.find sessionId).map (·.tokenVersion)).getD 0

def exchange (refreshToken : RefreshToken) (mayAuthenticate : Bool) :
    Option SessionRow → SessionProg Unit
  | none => Prog.fail .sessionInvalid
  | some session => do
    Prog.ensure mayAuthenticate .userMayNotAuthenticate
    let now ← Prog.select (·.now)
    let version ← Prog.transaction (updateRefreshTokenAndBumpVersion session.id refreshToken
      (signRefresh session.id now) (env.sessionExpiresAt now))
    Prog.autocommit (.blob session.id) (·.writeSessionRedis session.id version)

/-- `mayAuthenticate`: what `ensureUserMayAuthenticate` says. -/
def rotateLocked (refreshToken : RefreshToken) (mayAuthenticate : Bool) : SessionProg Unit := do
  let session ← Prog.select (·.findByRefreshTokenHash refreshToken)
  exchange env refreshToken mayAuthenticate session

def finishRotation (sessionId : Nat) : Except SessionError Unit → SessionProg Unit
  | .ok () => releaseRefreshLock sessionId
  | .error error => do
    releaseRefreshLock sessionId
    Prog.fail error

def rotateRefresh (refreshToken : RefreshToken) (mayAuthenticate : Bool) : SessionProg Unit := do
  let now ← Prog.select (·.now)
  Prog.ensure (env.verifyRefresh refreshToken now) .invalidRefreshToken
  acquireRefreshLock refreshToken.sessionId
  let outcome ← (rotateLocked env refreshToken mayAuthenticate).attempt
  finishRotation refreshToken.sessionId outcome

/-! ### Access -/

def SessionDb.closedIds (db : SessionDb) : List Nat :=
  db.history.flatMap fun
    | .closed ids => ids
    | _ => []

def pass (sessionId : Nat) (wasClosed : Bool) : SessionProg Unit :=
  Prog.autocommit .returning (·.record (.passed sessionId wasClosed))

/-- `hydrateSessionBlob`, as far as it decides. -/
def hydrate : Option SessionRow → Option Nat
  | none => none
  | some row => if row.isRevoked || !row.isActive then none else some row.tokenVersion

def passHydrated (sessionId expectedVersion : Nat) (wasClosed : Bool) :
    Option Nat → SessionProg Unit
  | none => Prog.fail .sessionInvalid
  | some version =>
    if version ≠ expectedVersion then Prog.fail .sessionTokenStale
    else do
      Prog.autocommit (.blob sessionId) (·.writeSessionRedis sessionId version)
      pass sessionId wasClosed

def SessionDb.isClosed (db : SessionDb) (id : Nat) : Bool := decide (id ∈ db.closedIds)

def passBlob (sessionId expectedVersion : Nat) (wasClosed : Bool) :
    Option SessionRedisBlob → SessionProg Unit
  | some blob =>
    if blob.revoked then Prog.fail .sessionInvalid
    else if blob.sessionTokenVersion ≠ expectedVersion then Prog.fail .sessionTokenStale
    else pass sessionId wasClosed
  | none => do
    let (row, closed) ← Prog.select fun db => (db.find sessionId, db.isClosed sessionId)
    passHydrated sessionId expectedVersion closed (hydrate row)

def validateAccessSession (sessionId expectedVersion : Nat) : SessionProg Unit := do
  let (raw, closed) ← Prog.select fun db => (db.blobs sessionId, db.isClosed sessionId)
  passBlob sessionId expectedVersion closed raw

def bumpTokenVersionOnly (sessionId : Nat) : SessionTx Nat := do
  let now ← Tx.select (·.now)
  Tx.update (.session sessionId)
    (·.modify sessionId fun row =>
      { row with tokenVersion := row.tokenVersion + 1, updatedAt := now })
  Tx.select fun db => ((db.find sessionId).map (·.tokenVersion)).getD 0

def writeHydrated (sessionId version : Nat) : Option Nat → SessionProg Unit
  | none => pure ()
  | some _ => Prog.autocommit (.blob sessionId) (·.writeSessionRedis sessionId version)

def refreshBlob (sessionId version : Nat) : Option SessionRedisBlob → SessionProg Unit
  | some blob =>
    if blob.revoked then pure ()
    else Prog.autocommit (.blob sessionId) (·.writeSessionRedis sessionId version)
  | none => do
    let row ← Prog.select (·.find sessionId)
    writeHydrated sessionId version (hydrate row)

def bumpVersion (sessionId : Nat) : Option SessionRow → SessionProg Unit
  | none => Prog.fail .sessionNotFound
  | some session =>
    if session.isRevoked || !session.isActive then Prog.fail .sessionInvalid
    else do
      let version ← Prog.transaction (bumpTokenVersionOnly sessionId)
      let raw ← Prog.select (·.blobs sessionId)
      refreshBlob sessionId version raw

def invalidateAccessToken (sessionId : Nat) : SessionProg Unit := do
  let session ← Prog.select (·.find sessionId)
  bumpVersion sessionId session

/-! ### Revocation -/

def revokeById (sessionId : Nat) : SessionTx Unit := do
  let now ← Tx.select (·.now)
  Tx.update (.session sessionId) (·.revoke [sessionId] now)

def revokeFound (sessionId : Nat) : Option SessionRow → SessionProg Unit
  | none => Prog.fail .sessionNotFound
  | some _ => do
    Prog.transaction (revokeById sessionId)
    Prog.autocommit (.blob sessionId) fun db =>
      (db.setBlob sessionId none).record (.closed [sessionId])

def revokeSession (sessionId : Nat) : SessionProg Unit := do
  let session ← Prog.select (·.find sessionId)
  revokeFound sessionId session

/-- The UPDATE of `revokeAllByUserId` finds the rows, waits for them and writes. -/
def revokeRows (listed ids : List Nat) : SessionTx Unit := do
  let now ← Tx.select (·.now)
  lockAll ids
  Tx.update (.session (ids.headD 0)) fun db => (db.revoke ids now).record (.swept listed ids)

def revokeAllSessions : SessionProg Unit := do
  let sessions ← Prog.select fun db => (db.liveAt db.now).map (·.id)
  let ids ← Prog.select fun db => db.sessions.map (·.id)
  Prog.transaction (revokeRows sessions ids)
  delBlobs sessions
  Prog.autocommit .user fun db =>
    { db.record (.closed ids) with userTokenVersion := db.userTokenVersion + 1 }

inductive Request where
  | createSession (deviceId : String) (newSessionIds : List Nat)
  | rotateRefresh (refreshToken : RefreshToken) (mayAuthenticate : Bool)
  | validateAccessSession (sessionId expectedVersion : Nat)
  | invalidateAccessToken (sessionId : Nat)
  | revokeSession (sessionId : Nat)
  | revokeAllSessions
  | expireBlob (sessionId : Nat)
  | tick (elapsed : Time)

/-- Redis drops a blob when its time is over. -/
def expireBlob (sessionId : Nat) : SessionProg Unit :=
  Prog.autocommit (.blob sessionId) (·.setBlob sessionId none)

def handler : Request → SessionProg Unit
  | .createSession deviceId newSessionIds => createSession env deviceId newSessionIds
  | .rotateRefresh refreshToken mayAuthenticate => rotateRefresh env refreshToken mayAuthenticate
  | .validateAccessSession sessionId expectedVersion =>
    validateAccessSession sessionId expectedVersion
  | .invalidateAccessToken sessionId => invalidateAccessToken sessionId
  | .revokeSession sessionId => revokeSession sessionId
  | .revokeAllSessions => revokeAllSessions
  | .expireBlob sessionId => expireBlob sessionId
  | .tick elapsed => Prog.autocommit .clock fun db => { db with now := db.now + elapsed }

end OlNode.Sessions
