import NewApi.Library.Concurrent
import Mathlib.Algebra.Order.Ring.Int

/-!
# Login sessions

`model/user_session.go` as programs of database statements, Redis commands and clock readings
on one session: its row, and its hash in Redis with the millisecond after which the hash is
gone. Every statement and every script is one step and may fail; locks of rows are left out,
so that other clients may come between the statements of a transaction. Times of the clock are
in nanoseconds, those of rows in seconds, and those of Redis in milliseconds.
-/

namespace NewApi.Auth

open Concurrent (Program)

/-! ## Sessions -/

/-- The states of a session. -/
inductive SessionStatus where
  | active
  | revoking
  | revoked
deriving DecidableEq

/-- The errors of the session store. -/
inductive SessionError where
  | invalid
  | inactive
  | refreshInvalid
  | refreshReuse
  | observationStale
  | notFound
  | failed
deriving DecidableEq

/-- A row of `user_sessions`. -/
structure UserSession where
  sid : String
  (userID version userAuthVersion : ℤ)
  status : SessionStatus
  (refreshHash previousRefreshHash : String)
  (previousValidUntil lastActiveAt expiresAt revokedAt : ℤ)
  revokedReason : String
deriving DecidableEq

/-- The cached copy of a session. -/
structure UserSessionCacheEntry where
  sid : String
  (userID version userAuthVersion : ℤ)
  status : SessionStatus
  (lastActiveAt expiresAt revokedAt : ℤ)
  revokedReason : String
  cacheSchema : ℕ

def userSessionCacheSchema : ℕ := 1

namespace UserSession

def cacheEntry (sess : UserSession) : UserSessionCacheEntry where
  sid := sess.sid
  userID := sess.userID
  version := sess.version
  userAuthVersion := sess.userAuthVersion
  status := sess.status
  lastActiveAt := sess.lastActiveAt
  expiresAt := sess.expiresAt
  revokedAt := sess.revokedAt
  revokedReason := sess.revokedReason
  cacheSchema := userSessionCacheSchema

/-- `session.Status == active && session.RevokedAt == 0 && session.ExpiresAt > now`. -/
def Active (sess : UserSession) (now : ℤ) : Prop :=
  sess.status = .active ∧ sess.revokedAt = 0 ∧ now < sess.expiresAt
deriving Decidable

def revoke (sess : UserSession) (now : ℤ) (reason : String) : UserSession :=
  { sess with status := .revoked, revokedAt := now, revokedReason := reason }

def rotate (sess : UserSession) (nextHash : String) (now graceEnd : ℤ) :
    UserSession :=
  { sess with
    previousRefreshHash := sess.refreshHash
    previousValidUntil := graceEnd
    refreshHash := nextHash
    lastActiveAt := now }

/-- What a shown refresh hash is to a row. -/
inductive Presented where
  | inactive
  | current
  | unknown
  | previous (withinGrace : Bool)
deriving DecidableEq

def presented (sess : UserSession) (shown : String) (now : ℤ) : Presented :=
  if ¬sess.Active now then .inactive
  else if sess.refreshHash = shown then .current
  else if sess.previousRefreshHash = "" ∨ sess.previousRefreshHash ≠ shown then
    .unknown
  else .previous (decide (now ≤ sess.previousValidUntil))

end UserSession

def UserSessionCacheEntry.session (entry : UserSessionCacheEntry) : UserSession where
  sid := entry.sid
  userID := entry.userID
  version := entry.version
  userAuthVersion := entry.userAuthVersion
  status := entry.status
  refreshHash := ""
  previousRefreshHash := ""
  previousValidUntil := 0
  lastActiveAt := entry.lastActiveAt
  expiresAt := entry.expiresAt
  revokedAt := entry.revokedAt
  revokedReason := entry.revokedReason

/-! ## Times -/

def second : ℤ := 1000000000

def millisecond : ℤ := 1000000

def unix (time : ℤ) : ℤ :=
  time / second

def unixMilli (time : ℤ) : ℤ :=
  time / millisecond

def userCacheTTLSeconds (redisTTL : ℤ) : ℤ :=
  if redisTTL ≤ 0 then 60 else redisTTL

/-! ## Statements and commands -/

/-- The status and the version of a user. -/
structure UserBase where
  (status authVersion : ℤ)

/-- What a refresh hands out. -/
structure AuthBundle where
  session : UserSession
  refreshSecret : String
deriving DecidableEq

/-- The errors of a login session. -/
inductive LoginSessionError where
  | refreshTokenInvalid
  | mismatch
  | revoked
  | refreshRace
  | other (error : SessionError)
deriving DecidableEq

/-- The statements on the database and on Redis, one at a time. -/
inductive SessionCall where
  | begin
  | now
  /-- `common.RedisHGetObj`. -/
  | readCache
  /-- The script of `writeUserSessionCache`, and whether it writes the tombstone of a
  revocation. -/
  | writeCache (entry : UserSessionCacheEntry) (expiry : ℤ) (tombstone : Bool)
  | find (userID : Option ℤ) (limit : Option ℤ)
  | findForRotation (userID limit : ℤ) (shown : String) (now : ℤ)
  /-- The count of `confirmUserSessionActiveSnapshot`. -/
  | countActive (sess : UserSession) (now : ℤ)
  | rotate (userID : ℤ) (shown nextHash : String) (now graceEnd : ℤ)
  | revokeReused (userID now : ℤ)
  /-- `UPDATE ... WHERE sid = ? AND status = 'active'`. -/
  | revoke (now : ℤ) (reason : String)
  /-- The candidates of `revokeUserSessions`. -/
  | findCandidate (userID : ℤ) (excludedSID : String) (now : ℤ)
  /-- The rows that `revokeUserSessions` locks. -/
  | findActive
  | advance (sess : UserSession) (expectedSessionVersion expectedUserAuthVersion : ℤ)
  | getUserCache
  | getUserById
  | issueAccessToken
  | returnRevoked
  | returnActive
  /-- `RefreshLoginSession` returns. -/
  | returnRefreshed (secret : String) (result : Except LoginSessionError AuthBundle)

/-- A failed statement answers `none`. -/
abbrev SessionCall.Answer : SessionCall → Type
  | .begin => Unit
  | .now => ℤ
  | .readCache => Option UserSessionCacheEntry
  | .writeCache _ _ _ => Option Bool
  | .find _ _ => Option (Option UserSession)
  | .findForRotation _ _ _ _ => Option (Option UserSession)
  | .countActive _ _ => Option ℕ
  | .rotate _ _ _ _ _ => Option ℕ
  | .revokeReused _ _ => Option ℕ
  | .revoke _ _ => Option ℕ
  | .findCandidate _ _ _ => Option (Option UserSession)
  | .findActive => Option (Option UserSession)
  | .advance _ _ _ => Option ℕ
  | .getUserCache => Option UserBase
  | .getUserById => Option UserBase
  | .issueAccessToken => Bool
  | .returnRevoked => Unit
  | .returnActive => Unit
  | .returnRefreshed _ _ => Unit

/-! ## The system -/

/-- What clients have seen and done. -/
inductive SessionNoteKind where
  | began
  | unread
  | looked (presented : UserSession.Presented)
  | rotated (shown nextHash : String)
  | revoked
  | returnedRevoked
  | returnedActive
  | returnedRefreshed (secret : String) (result : Except LoginSessionError AuthBundle)
deriving DecidableEq

/-- A note with its client. -/
structure SessionNote where
  thread : ℕ
  kind : SessionNoteKind
deriving DecidableEq

/-- A cached copy with its expiry. -/
structure CachedSession where
  entry : UserSessionCacheEntry
  expires : ℤ

/-- The row and the hash of the session, the clock, and what happened. -/
structure SessionSystem where
  now : ℤ
  row : UserSession
  hash : Option CachedSession
  snapshots : List (ℕ × ℤ)
  notes : List SessionNote

namespace SessionSystem

/-- A row without a cached copy. -/
def start (now : ℤ) (row : UserSession) : SessionSystem where
  now := now
  row := row
  hash := none
  snapshots := []
  notes := []

def cached (s : SessionSystem) : Option CachedSession :=
  s.hash.filter fun cached => unixMilli s.now ≤ cached.expires

def noted (s : SessionSystem) (t : ℕ) (kind : SessionNoteKind) : SessionSystem :=
  { s with notes := ⟨t, kind⟩ :: s.notes }

def dropSnapshot (s : SessionSystem) (t : ℕ) : SessionSystem :=
  { s with snapshots := s.snapshots.filter (·.1 ≠ t) }

def hold (s : SessionSystem) (t : ℕ) (limit : ℤ) : SessionSystem :=
  if s.row.status = .active then
    { s with
      snapshots := (t, unixMilli (min limit (s.row.expiresAt * second))) ::
        s.snapshots.filter (·.1 ≠ t) }
  else s.dropSnapshot t

def Refuses (s : SessionSystem) (entry : UserSessionCacheEntry) : Prop :=
  (entry.status = .active ∧ ∃ cached ∈ s.cached, cached.entry.status ≠ .active) ∨
    entry.version < (s.cached.elim 0 (·.entry.version))
deriving Decidable

/-- The hash after the script wrote an entry: `PEXPIREAT` to a time that has come deletes it. -/
def written (s : SessionSystem) (entry : UserSessionCacheEntry) (expiry : ℤ) :
    Option CachedSession :=
  if entry.status = .active then
    if expiry ≤ unixMilli s.now then none else some ⟨entry, expiry⟩
  else some ⟨entry, unixMilli s.now + expiry⟩

/-- The script of `writeUserSessionCache`. -/
def writeCache (s : SessionSystem) (t : ℕ) (entry : UserSessionCacheEntry)
    (expiry : ℤ) : Bool × SessionSystem :=
  if s.Refuses entry then (false, s.dropSnapshot t)
  else
    (true, { s with hash := s.written entry expiry }.dropSnapshot t)

/-- `WHERE sid = ? AND user_id = ?`. -/
def found (s : SessionSystem) (userID : Option ℤ) : Option UserSession :=
  if userID.all (· = s.row.userID) then some s.row else none

def look (s : SessionSystem) (t : ℕ) (userID limit : ℤ)
    (shown : String) (now : ℤ) : Option UserSession × SessionSystem :=
  match s.found (some userID) with
  | some sess =>
    (some sess, (s.hold t limit).noted t (.looked (sess.presented shown now)))
  | none => (none, s.noted t .unread)

def rotate (s : SessionSystem) (t : ℕ) (userID : ℤ) (shown nextHash : String)
    (now graceEnd : ℤ) : ℕ × SessionSystem :=
  if userID = s.row.userID ∧ s.row.Active now ∧
      s.row.refreshHash = shown then
    (1, { s with row := s.row.rotate nextHash now graceEnd }.noted t (.rotated shown nextHash))
  else (0, s)

def revokeIf (s : SessionSystem) (t : ℕ) (condition : Bool) (now : ℤ)
    (reason : String) : ℕ × SessionSystem :=
  if condition then (1, { s with row := s.row.revoke now reason }.noted t .revoked)
  else (0, s)

def advance (s : SessionSystem) (sess : UserSession)
    (expectedSessionVersion expectedUserAuthVersion : ℤ) : ℕ × SessionSystem :=
  if s.row.status = .active ∧ s.row.version = expectedSessionVersion ∧
      s.row.userAuthVersion = expectedUserAuthVersion then
    (1, { s with
      row := { s.row with
        version := sess.version
        userAuthVersion := sess.userAuthVersion
        lastActiveAt := sess.lastActiveAt } })
  else (0, s)

/-- `confirmUserSessionActiveSnapshot` counts the row. -/
def Confirms (s : SessionSystem) (sess : UserSession) (now : ℤ) : Prop :=
  sess.userID = s.row.userID ∧ s.row.Active now ∧
    s.row.version = sess.version ∧ s.row.userAuthVersion = sess.userAuthVersion
deriving Decidable

end SessionSystem

/-- Whether a call succeeds, whether a failed write is nevertheless applied, and what the user
cache and the user table hold. -/
structure SessionChoice where
  (succeeds applied : Bool)
  user : UserBase

namespace SessionSystem

def query {Value : Type} (pick : SessionChoice) (out : Value × SessionSystem)
    (err : SessionSystem) : Option Value × SessionSystem :=
  if pick.succeeds then (some out.1, out.2) else (none, err)

/-- The answer and the state after a write that may fail, before or after it is applied. -/
def attempt {Value : Type} (pick : SessionChoice) (out : Value × SessionSystem)
    (err : SessionSystem) : Option Value × SessionSystem :=
  (if pick.succeeds then some out.1 else none,
    if pick.succeeds ∨ pick.applied then out.2 else err)

section

variable {Value : Type} {Holds : SessionSystem → Prop} {pick : SessionChoice}
  {out : Value × SessionSystem} {err s : SessionSystem} {t : ℕ}

theorem query_holds (answered : Holds out.2) (failed : Holds err) :
    Holds (query pick out err).2 := by
  simp only [query]
  split
  · exact answered
  · exact failed

theorem attempt_holds (applied : Holds out.2) (failed : Holds err) :
    Holds (attempt pick out err).2 := by
  simp only [attempt]
  split
  · exact applied
  · exact failed

@[simp] theorem hold_row (due : ℤ) : (s.hold t due).row = s.row := by
  simp only [hold]
  split <;> rfl

@[simp] theorem hold_notes (due : ℤ) : (s.hold t due).notes = s.notes := by
  simp only [hold]
  split <;> rfl

end

def perform (t : ℕ) (call : SessionCall) (pick : SessionChoice) (s : SessionSystem) :
    call.Answer × SessionSystem :=
  match call with
  | .begin => ((), s.noted t .began)
  | .now => (s.now, s)
  | .readCache => (if pick.succeeds then s.cached.map (·.entry) else none, s)
  | .writeCache entry expiry _ =>
    attempt pick (s.writeCache t entry expiry) (s.dropSnapshot t)
  | .find userID limit =>
    query pick (s.found userID,
        match limit with
        | some due => s.hold t due
        | none => s)
      (s.noted t .unread)
  | .findForRotation userID limit shown now =>
    query pick (s.look t userID limit shown now) (s.noted t .unread)
  | .countActive sess now =>
    query pick (if s.Confirms sess now then 1 else 0, s) (s.noted t .unread)
  | .rotate userID shown nextHash now graceEnd =>
    attempt pick (s.rotate t userID shown nextHash now graceEnd) s
  | .revokeReused userID now =>
    attempt pick (s.revokeIf t (userID = s.row.userID ∧ s.row.Active now) now "refresh_reuse") s
  | .revoke now reason =>
    attempt pick (s.revokeIf t (s.row.status = .active) now reason) s
  | .findCandidate userID excludedSID now =>
    query pick (if userID = s.row.userID ∧ s.row.status = .active ∧
          now < s.row.expiresAt ∧ ¬(excludedSID ≠ "" ∧ s.row.sid = excludedSID) then
        some s.row else none, s) s
  | .findActive =>
    query pick (if s.row.status = .active then some s.row else none, s) s
  | .advance sess expectedSessionVersion expectedUserAuthVersion =>
    attempt pick (s.advance sess expectedSessionVersion expectedUserAuthVersion) s
  | .getUserCache => query pick (pick.user, s) s
  | .getUserById => query pick (pick.user, s) s
  | .issueAccessToken => (pick.succeeds, s)
  | .returnRevoked => ((), s.noted t .returnedRevoked)
  | .returnActive => ((), s.noted t .returnedActive)
  | .returnRefreshed secret result => ((), s.noted t (.returnedRefreshed secret result))

def elapse (nanos : ℕ) (s : SessionSystem) : SessionSystem :=
  { s with now := s.now + nanos }

end SessionSystem

/-! ## The cache -/

abbrev SessionProgram := Program SessionCall SessionCall.Answer

def askSession (call : SessionCall) : SessionProgram call.Answer :=
  Program.ask call

/-- `time.Now().Unix()`. -/
def unixNow : SessionProgram ℤ := do
  return unix (← askSession .now)

section

variable (redisTTL : ℤ)

def userSessionCacheDeadline : SessionProgram ℤ := do
  return (← askSession .now) + userCacheTTLSeconds redisTTL * second

/-- The lifetime of a deny entry, for the time at which it is computed. -/
def denyExpiration (expiresAt now : ℤ) : ℤ :=
  let ttl := min (expiresAt * second - now) (userCacheTTLSeconds redisTTL * second)
  let ttl := if ttl ≤ 0 then second else ttl
  if ttl / millisecond ≤ 0 then 1 else ttl / millisecond

def cacheOutcome : Option Bool → Except SessionError Unit
  | none => .error .failed
  | some false => .error .inactive
  | some true => .ok ()

/-- `writeUserSessionCache` on an active entry. -/
def writeActiveSessionCache (entry : UserSessionCacheEntry) (limit : ℤ) :
    SessionProgram (Except SessionError Unit) := do
  let now ← askSession .now
  if limit - now ≤ 0 then return .error .observationStale
  else if entry.expiresAt * second - now ≤ 0 then return .error .inactive
  else if min limit (entry.expiresAt * second) - now < millisecond then
    return .error .observationStale
  else
    let expiry := unixMilli (min limit (entry.expiresAt * second))
    match cacheOutcome (← askSession (.writeCache entry expiry false)) with
    | .error err => return .error err
    | .ok () =>
      let completedAt ← askSession .now
      if limit ≤ completedAt then return .error .observationStale
      else if entry.expiresAt * second ≤ completedAt then return .error .inactive
      else return .ok ()

/-- `writeUserSessionCache` on a deny entry. -/
def writeDenySessionCache (entry : UserSessionCacheEntry) (tombstone : Bool) :
    SessionProgram (Except SessionError Unit) := do
  let now ← askSession .now
  let expiry := denyExpiration redisTTL entry.expiresAt now
  return cacheOutcome (← askSession (.writeCache entry expiry tombstone))

def writeUserSessionCache (entry : UserSessionCacheEntry) (limit : Option ℤ)
    (tombstone : Bool) : SessionProgram (Except SessionError Unit) :=
  if entry.status = .active then
    match limit with
    | none => return .error .invalid
    | some due => writeActiveSessionCache entry due
  else writeDenySessionCache redisTTL entry tombstone

def writeUserSessionDenyFence (sess : UserSession) (status : SessionStatus) (now : ℤ)
    (reason : String) : SessionProgram (Except SessionError Unit) :=
  writeUserSessionCache redisTTL
    { sess.cacheEntry with status := status, revokedAt := now, revokedReason := reason } none
    false

def confirmUserSessionActiveSnapshot (sess : UserSession) :
    SessionProgram (Except SessionError Unit) := do
  if sess.sid = "" ∨ sess.userID ≤ 0 ∨ sess.version ≤ 0 ∨ sess.userAuthVersion ≤ 0 then
    return .error .invalid
  else
    let now ← unixNow
    match ← askSession (.countActive sess now) with
    | none => return .error .failed
    | some count => if count ≠ 1 then return .error .inactive else return .ok ()

def getUserSessionCache (sid : String) :
    SessionProgram (Except SessionError UserSessionCacheEntry) := do
  match ← askSession .readCache with
  | none => return .error .failed
  | some entry =>
    if entry.cacheSchema ≠ userSessionCacheSchema ∨ entry.sid ≠ sid ∨ entry.userID ≤ 0 ∨
        entry.version ≤ 0 ∨ entry.userAuthVersion ≤ 0 then
      return .error .failed
    else
      let now ← unixNow
      if entry.status ≠ .active ∨ entry.revokedAt ≠ 0 ∨ entry.expiresAt ≤ now then
        return .error .inactive
      else return .ok entry

/-- An active snapshot of the row is cached, or confirmed when its deadline has passed. -/
def cacheActiveSnapshot (sess : UserSession) (limit : ℤ) :
    SessionProgram (Except SessionError UserSession) := do
  match ← writeUserSessionCache redisTTL sess.cacheEntry (some limit)
      false with
  | .error .observationStale =>
    match ← confirmUserSessionActiveSnapshot sess with
    | .error err => return .error err
    | .ok () => return .ok sess
  | .error .inactive => return .error .inactive
  | _ => return .ok sess

/-- The database part of `GetUserSessionCached`. -/
def fillUserSessionCache : SessionProgram (Except SessionError UserSession) := do
  let limit ← userSessionCacheDeadline redisTTL
  match ← askSession (.find none (some limit)) with
  | none => return .error .failed
  | some none => return .error .notFound
  | some (some sess) =>
    let now ← unixNow
    if sess.Active now then cacheActiveSnapshot redisTTL sess limit
    else
      let _ ← writeUserSessionCache redisTTL { sess.cacheEntry with status := .revoked } none false
      return .error .inactive

def getUserSessionCached (sid : String) : SessionProgram (Except SessionError UserSession) := do
  if sid = "" then return .error .invalid
  else
    match ← getUserSessionCache sid with
    | .ok entry => return .ok entry.session
    | .error .inactive => return .error .inactive
    | .error _ => fillUserSessionCache redisTTL

/-! ## Rotation -/

/-- The answers of a rotation. -/
inductive RotationResult where
  | rotated (sess : UserSession)
  | race (sess : UserSession)
  | failed (error : SessionError)

def finishRevocation (sess : UserSession) (now : ℤ) (reason : String) :
    SessionProgram Unit := do
  let _ ← writeUserSessionCache redisTTL (sess.revoke now reason).cacheEntry none true
  askSession .returnRevoked

/-- The branch of `RotateUserSessionRefresh` for a replayed token. -/
def revokeReusedSession (userID : ℤ) (sess : UserSession) (now : ℤ) :
    SessionProgram SessionError := do
  match ← writeUserSessionDenyFence redisTTL sess .revoking now
      "refresh_reuse" with
  | .error err => return err
  | .ok () =>
    match ← askSession (.revokeReused userID now) with
    | none => return .failed
    | some rows =>
      if rows = 0 then return .inactive
      else
        finishRevocation redisTTL sess now "refresh_reuse"
        return .refreshReuse

/-- The loop of `RotateUserSessionRefresh`. -/
def rotateTries (userID : ℤ) (shown nextHash : String) (now graceSeconds : ℤ) :
    ℕ → SessionProgram RotationResult
  | 0 => return .failed .refreshInvalid
  | tries + 1 => do
    let limit ← userSessionCacheDeadline redisTTL
    match ← askSession (.findForRotation userID limit shown now) with
    | none => return .failed .failed
    | some none => return .failed .notFound
    | some (some sess) =>
      if ¬sess.Active now then return .failed .inactive
      else if sess.refreshHash = shown then
        match ← askSession (.rotate userID shown nextHash now (now + graceSeconds)) with
        | none => return .failed .failed
        | some rows =>
          if rows = 0 then rotateTries userID shown nextHash now graceSeconds tries
          else
            match ← cacheActiveSnapshot redisTTL
                (sess.rotate nextHash now (now + graceSeconds)) limit with
            | .error err => return .failed err
            | .ok rotated => return .rotated rotated
      else if sess.previousRefreshHash = "" ∨
          sess.previousRefreshHash ≠ shown then
        return .failed .refreshInvalid
      else if now ≤ sess.previousValidUntil then return .race sess
      else return .failed (← revokeReusedSession redisTTL userID sess now)

def rotateUserSessionRefresh (userID : ℤ) (sid shown nextHash : String)
    (now graceSeconds : ℤ) : SessionProgram RotationResult := do
  if userID ≤ 0 ∨ sid = "" ∨ shown = "" ∨ nextHash = "" ∨ shown = nextHash then
    return .failed .invalid
  else
    let now ← if now ≤ 0 then unixNow else pure now
    if graceSeconds < 0 then return .failed .invalid
    else
      rotateTries redisTTL userID shown nextHash now graceSeconds 3

/-! ## Revocation -/

/-- The transaction of `RevokeUserSession`. -/
def revokeActiveSession (userID now : ℤ) (reason : String) :
    SessionProgram (Except SessionError Bool) := do
  match ← askSession (.find (some userID) none) with
  | none => return .error .failed
  | some none => return .error .notFound
  | some (some current) =>
    if ¬current.Active now then return .ok false
    else
      match ← askSession (.revoke now reason) with
      | none => return .error .failed
      | some rows => return .ok (decide (rows = 1))

def revokeUserSession (userID : ℤ) (sid reason : String) :
    SessionProgram (Except SessionError Bool) := do
  if userID ≤ 0 ∨ sid = "" then return .error .invalid
  else
    let now ← unixNow
    match ← askSession (.find (some userID) none) with
    | none => return .error .failed
    | some none => return .ok false
    | some (some cand) =>
      if ¬cand.Active now then return .ok false
      else
        match ← writeUserSessionDenyFence redisTTL cand .revoking now reason with
        | .error err => return .error err
        | .ok () =>
          match ← revokeActiveSession userID now reason with
          | .error err => return .error err
          | .ok false => return .ok false
          | .ok true =>
            finishRevocation redisTTL cand now reason
            return .ok true

def UserSession.AcceptsDigest (sess : UserSession) (shown : String) (now : ℤ) : Prop :=
  sess.refreshHash = shown ∨
    (sess.previousRefreshHash ≠ "" ∧ now ≤ sess.previousValidUntil ∧
      sess.previousRefreshHash = shown)
deriving Decidable

def revokeUserSessionByRefreshHash (sid shown reason : String) :
    SessionProgram (Except SessionError Bool) := do
  if sid = "" ∨ shown = "" then return .error .invalid
  else
    let now ← unixNow
    match ← askSession (.find none none) with
    | none => return .error .failed
    | some none => return .ok false
    | some (some sess) =>
      if ¬sess.Active now then return .ok false
      else if ¬sess.AcceptsDigest shown now then return .ok false
      else
        match ← writeUserSessionDenyFence redisTTL sess .revoking now reason with
        | .error err => return .error err
        | .ok () =>
          match ← askSession (.revoke now reason) with
          | none => return .error .failed
          | some rows =>
            if rows = 1 then
              finishRevocation redisTTL sess now reason
              return .ok true
            else return .ok false

/-- The rounds of `revokeUserSessions` that find the session among their candidates, up to a
number of rounds; whether an earlier one did. -/
def revokeRounds (userID : ℤ) (excludedSID reason : String) (now : ℤ) :
    ℕ → Bool → SessionProgram (Except SessionError Unit)
  | 0, _ => return .error .failed
  | rounds + 1, included => do
    match ← askSession (.findCandidate userID excludedSID now) with
    | none => return .error .failed
    | some none =>
      if included then askSession .returnRevoked
      return .ok ()
    | some (some cand) =>
      match ← writeUserSessionDenyFence redisTTL cand .revoking now reason with
      | .error err => return .error err
      | .ok () =>
        match ← askSession .findActive with
        | none => return .error .failed
        | some none => revokeRounds userID excludedSID reason now rounds true
        | some (some locked) =>
          match ← askSession (.revoke now reason) with
          | none => return .error .failed
          | some _ =>
            let _ ← writeUserSessionCache redisTTL (locked.revoke now reason).cacheEntry none true
            revokeRounds userID excludedSID reason now rounds true

def revokeUserSessions (userID : ℤ) (excludedSID reason : String) (rounds : ℕ) :
    SessionProgram (Except SessionError Unit) := do
  if userID ≤ 0 then return .error .invalid
  else
    let now ← unixNow
    revokeRounds redisTTL userID excludedSID reason now rounds false

/-! ## Versions -/

def advanceUserSessionAuthVersion (userID : ℤ) (sid : String)
    (expectedSessionVersion expectedUserAuthVersion nextUserAuthVersion : ℤ) :
    SessionProgram (Except SessionError UserSession) := do
  if userID ≤ 0 ∨ sid = "" ∨ expectedSessionVersion ≤ 0 ∨ expectedUserAuthVersion ≤ 0 ∨
      nextUserAuthVersion ≤ expectedUserAuthVersion then
    return .error .invalid
  else
    let limit ← userSessionCacheDeadline redisTTL
    let now ← unixNow
    match ← askSession (.find (some userID) (some limit)) with
    | none => return .error .failed
    | some none => return .error .notFound
    | some (some sess) =>
      if sess.status ≠ .active ∨ sess.expiresAt ≤ now ∨
          sess.version ≠ expectedSessionVersion ∨
          sess.userAuthVersion ≠ expectedUserAuthVersion then
        return .error .inactive
      else
        let advanced := { sess with
          version := sess.version + 1
          userAuthVersion := nextUserAuthVersion
          lastActiveAt := now }
        match ← askSession (.advance advanced expectedSessionVersion expectedUserAuthVersion) with
        | none => return .error .failed
        | some rows =>
          if rows ≠ 1 then return .error .inactive
          else
            match ← writeUserSessionCache redisTTL advanced.cacheEntry
                (some limit) false with
            | .ok () => return .ok advanced
            | .error .observationStale =>
              match ← confirmUserSessionActiveSnapshot advanced with
              | .error err => return .error err
              | .ok () => return .ok advanced
            | .error err => return .error err

end

end NewApi.Auth
