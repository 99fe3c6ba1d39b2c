import NewApi.Auth.UserSession

/-!
# Validating and refreshing login sessions

`ValidateLoginSession` and `RefreshLoginSession` of `service/auth_session.go` over the programs
of the session model, and the requests that any number of clients make of one session. The HMAC
under a key of a purpose is a parameter.
-/

namespace NewApi.Auth

open Concurrent (Action Pool Program)

section

variable (redisTTL : ℤ) (generateHMACWithKey : String → String → String)

def userStatusEnabled : ℤ := 1

def refreshReplayWindow : ℤ := 30

def hashRefreshSecret (secret : String) : String :=
  generateHMACWithKey "refresh" secret

def deriveNextRefreshSecret (sid currentSecret : String) : String :=
  generateHMACWithKey "refresh-rotate" (sid ++ "." ++ currentSecret)

/-- What an access token claims about its session. -/
structure AuthIdentity where
  userID : ℤ
  sessionID : String
  (userAuthVersion sessionVersion : ℤ)

def AuthIdentity.Fits (ident : AuthIdentity) (sess : UserSession) : Prop :=
  sess.userID = ident.userID ∧ sess.version = ident.sessionVersion ∧
    sess.userAuthVersion = ident.userAuthVersion
deriving Decidable

def validateLoginSession (ident : AuthIdentity) :
    SessionProgram (Except LoginSessionError (UserSession × UserBase)) := do
  match ← getUserSessionCached redisTTL ident.sessionID with
  | .error .inactive => return .error .revoked
  | .error err => return .error (.other err)
  | .ok sess =>
    let now ← unixNow
    if ¬(sess.Active now ∧ ident.Fits sess) then return .error .revoked
    else
      match ← askSession .getUserCache with
      | none => return .error (.other .failed)
      | some user =>
        if user.status ≠ userStatusEnabled ∨ user.authVersion ≠ ident.userAuthVersion then
          return .error .revoked
        else return .ok (sess, user)

def issueAuthBundle (sess : UserSession) (refreshSecret : String) :
    SessionProgram (Except LoginSessionError AuthBundle) := do
  if ← askSession .issueAccessToken then return .ok ⟨sess, refreshSecret⟩
  else return .error (.other .failed)

def UserBase.Fits (user : UserBase) (sess : UserSession) : Prop :=
  user.status = userStatusEnabled ∧ user.authVersion = sess.userAuthVersion

instance (user : UserBase) (sess : UserSession) : Decidable (user.Fits sess) :=
  inferInstanceAs (Decidable (_ ∧ _))

/-- The rotation of `RefreshLoginSession`, and what its result is for the client. -/
def rotateLoginSession (sess : UserSession) (sid secret : String) :
    SessionProgram (Except LoginSessionError AuthBundle) := do
  let nextSecret := deriveNextRefreshSecret generateHMACWithKey sid secret
  let now ← unixNow
  match ← rotateUserSessionRefresh redisTTL sess.userID sid
      (hashRefreshSecret generateHMACWithKey secret)
      (hashRefreshSecret generateHMACWithKey nextSecret) now refreshReplayWindow with
  | .rotated rotated => issueAuthBundle rotated nextSecret
  | .race rotated =>
    if hashRefreshSecret generateHMACWithKey nextSecret = rotated.refreshHash then
      issueAuthBundle rotated nextSecret
    else return .error .refreshRace
  | .failed .refreshReuse => return .error .revoked
  | .failed .refreshInvalid => return .error .refreshTokenInvalid
  | .failed err => return .error (.other err)

def refreshLoginSession (sid secret expectedSID : String) :
    SessionProgram (Except LoginSessionError AuthBundle) := do
  if expectedSID ≠ "" ∧ expectedSID ≠ sid then return .error .mismatch
  else
    match ← getUserSessionCached redisTTL sid with
    | .error .inactive => return .error .revoked
    | .error _ => return .error .refreshTokenInvalid
    | .ok sess =>
      let now ← unixNow
      if ¬sess.Active now then return .error .revoked
      else
        match ← askSession .getUserCache with
        | none => return .error (.other .failed)
        | some userCache =>
          match ← askSession .getUserById with
          | none => return .error (.other .failed)
          | some currentUser =>
            if ¬(userCache.Fits sess ∧ currentUser.Fits sess) then
              let _ ← revokeUserSession redisTTL sess.userID sess.sid "user_security_changed"
              return .error .revoked
            else rotateLoginSession redisTTL generateHMACWithKey sess sid secret

/-! ## Requests -/

/-- The calls of clients on a session. -/
inductive SessionRequest where
  | getCached
  | validate (ident : AuthIdentity)
  | refresh (secret expectedSID : String)
  | rotate (userID : ℤ) (shown nextHash : String) (now graceSeconds : ℤ)
  | revoke (userID : ℤ) (reason : String)
  | revokeByRefreshHash (shown reason : String)
  | revokeAll (userID : ℤ) (excludedSID reason : String) (rounds : ℕ)
  | advance (userID expectedSessionVersion expectedUserAuthVersion nextUserAuthVersion : ℤ)

/-- A client makes its request; what reads and refreshes return is noted. -/
def serveSession (sid : String) (req : SessionRequest) : SessionProgram Unit := do
  askSession .begin
  match req with
  | .getCached =>
    match ← getUserSessionCached redisTTL sid with
    | .ok _ => askSession .returnActive
    | .error _ => return ()
  | .validate ident =>
    match ← validateLoginSession redisTTL { ident with sessionID := sid } with
    | .ok _ => askSession .returnActive
    | .error _ => return ()
  | .refresh secret expectedSID =>
    let result ← refreshLoginSession redisTTL generateHMACWithKey sid secret expectedSID
    askSession (.returnRefreshed secret result)
  | .rotate userID shown nextHash now graceSeconds =>
    let _ ← rotateUserSessionRefresh redisTTL userID sid shown nextHash now graceSeconds
    return ()
  | .revoke userID reason =>
    let _ ← revokeUserSession redisTTL userID sid reason
    return ()
  | .revokeByRefreshHash shown reason =>
    let _ ← revokeUserSessionByRefreshHash redisTTL sid shown reason
    return ()
  | .revokeAll userID excludedSID reason rounds =>
    let _ ← revokeUserSessions redisTTL userID excludedSID reason rounds
    return ()
  | .advance userID expectedSessionVersion expectedUserAuthVersion nextUserAuthVersion =>
    let _ ← advanceUserSessionAuthVersion redisTTL userID sid expectedSessionVersion
      expectedUserAuthVersion nextUserAuthVersion
    return ()

end

/-! ## Runs -/

abbrev SessionPool := Pool SessionSystem SessionCall SessionCall.Answer Unit

namespace SessionPool

variable (redisTTL : ℤ) (generateHMACWithKey : String → String → String)

def start (now : ℤ) (row : UserSession) (reqs : ℕ → SessionRequest) : SessionPool where
  state := SessionSystem.start now row
  threads t :=
    serveSession redisTTL generateHMACWithKey row.sid (reqs t)

def next : SessionPool → Action SessionChoice ℕ → SessionPool :=
  Pool.step (fun t call pick s => s.perform t call pick) SessionSystem.elapse

end SessionPool

/-! ## A sample session -/

def sampleUserSession : UserSession where
  sid := "sid"
  userID := 7
  version := 1
  userAuthVersion := 1
  status := .active
  refreshHash := "refresh:0"
  previousRefreshHash := ""
  previousValidUntil := 0
  lastActiveAt := 0
  expiresAt := 1000000
  revokedAt := 0
  revokedReason := ""

def sampleHMAC (key message : String) : String :=
  key ++ ":" ++ message

end NewApi.Auth
