import NewApi.Auth.UserSession

/-!
# The user cache

`model/user_cache.go` and `model/user_auth_cache.go` as programs of database statements and
Redis scripts on one user: the row, the hash in Redis, the pending fence and the committed
floor. The times of Redis are in milliseconds; a key is gone after its last one.
-/

namespace NewApi.Auth.UserCache

open Concurrent (Action Pool Program)

/-! ## Users -/

/-- A row of `users`, as far as the cache holds it. -/
structure User where
  id : ℤ
  (group email : String)
  (quota status role : ℤ)
  (username setting : String)
  authVersion : ℤ
deriving DecidableEq

/-- The cached copy of a user. -/
structure UserBase where
  id : ℤ
  (group email : String)
  (quota status role : ℤ)
  (username setting : String)
  authVersion : ℤ
  cacheSchema : ℕ
deriving DecidableEq

def userCacheSchemaVersion : ℕ := 2

def User.toBaseUser (user : User) : UserBase where
  id := user.id
  group := user.group
  email := user.email
  quota := user.quota
  status := user.status
  role := user.role
  username := user.username
  setting := user.setting
  authVersion := user.authVersion
  cacheSchema := userCacheSchemaVersion

/-- The fields of a cached copy. -/
inductive CacheField where
  | id
  | group
  | email
  | status
  | role
  | username
  | setting
deriving DecidableEq

def CacheField.Same (field : CacheField) (one two : UserBase) : Prop :=
  match field with
  | .id => one.id = two.id
  | .group => one.group = two.group
  | .email => one.email = two.email
  | .status => one.status = two.status
  | .role => one.role = two.role
  | .username => one.username = two.username
  | .setting => one.setting = two.setting

instance (field : CacheField) (one two : UserBase) : Decidable (field.Same one two) := by
  cases field <;> exact inferInstanceAs (Decidable (_ = _))

/-- The field and the value of `updateUserCacheFieldAtVersion`. -/
inductive FieldUpdate where
  | group (val : String)
  | email (val : String)
  | status (val : ℤ)
  | username (val : String)
  | setting (val : String)

namespace FieldUpdate

def field : FieldUpdate → CacheField
  | .group _ => .group
  | .email _ => .email
  | .status _ => .status
  | .username _ => .username
  | .setting _ => .setting

def apply (update : FieldUpdate) (user : UserBase) : UserBase :=
  match update with
  | .group val => { user with group := val }
  | .email val => { user with email := val }
  | .status val => { user with status := val }
  | .username val => { user with username := val }
  | .setting val => { user with setting := val }

end FieldUpdate

/-! ## The system -/

/-- The errors of the user cache. -/
inductive UserCacheError where
  | pending
  | versionConflict
  /-- `invalid user auth version`, or an invalid fence or user id. -/
  | invalid
  | stale
  | changedRepeatedly
  | failed

/-- The hash of the user; its `Quota` is a field of its own. -/
structure CachedUser where
  user : UserBase
  quota : Option ℤ
  expires : ℤ
deriving DecidableEq

/-- A version fence with its expiry. -/
structure Fence where
  (version expires : ℤ)

/-- What clients have seen and done. -/
inductive NoteKind where
  /-- A call of `GetUserCache` starts. -/
  | began
  | fenced (ver expires : ℤ)
  | published (ver : ℤ)
  /-- `GetUserCache` returns a user, from the cache or not, at a time with a pending fence. -/
  | returned (user : UserBase) (fromCache : Bool) (now pending : ℤ)
deriving DecidableEq

/-- A note with its client. -/
structure Note where
  thread : ℕ
  kind : NoteKind
deriving DecidableEq

/-- The clock, the row and its past, the cache with its fence, and the notes. -/
structure UserSystem where
  now : ℤ
  row : User
  rows : List User
  hash : Option CachedUser
  fence : Option Fence
  committed : ℤ
  notes : List Note

/-- The statements on the database and on Redis, one at a time. -/
inductive UserCall where
  | begin
  /-- `common.RedisHGetObj`. -/
  | readHash
  /-- The `MGET` of `getUserAuthVersionFloor`. -/
  | readFloor
  | getUserById
  /-- The row's `auth_version`. -/
  | selectVersion
  /-- The row's `auth_version` and `group`. -/
  | selectGroup
  | writeUser (user : UserBase) (includeQuota : Bool)
  /-- The script of `updateUserCacheFieldAtVersion`. -/
  | writeField (update : FieldUpdate) (authVersion : ℤ)
  /-- The script of `SetUserAuthVersionFence`. -/
  | setFence (authVersion : ℤ)
  /-- `UPDATE ... SET auth_version = next WHERE auth_version = version`, and the rest of the
  transaction up to its end. -/
  | commit (ver next : ℤ) (change : User → User)
  /-- A transaction that leaves `auth_version` alone. -/
  | edit (change : User → User)
  | returnUser (user : UserBase) (fromCache : Bool)
  | returnPublished (ver : ℤ)

/-- The outcomes of a transaction. -/
inductive CommitResult where
  | committed
  | conflict
  | failed

/-- A failed statement answers `none`, and a script whether it wrote. -/
abbrev UserCall.Answer : UserCall → Type
  | .begin => Unit
  | .readHash => Option UserBase
  | .readFloor => Option ℤ
  | .getUserById => Option User
  | .selectVersion => Option ℤ
  | .selectGroup => Option (ℤ × String)
  | .writeUser _ _ => Option Bool
  | .writeField _ _ => Option Bool
  | .setFence _ => Bool
  | .commit _ _ _ => CommitResult
  | .edit _ => Unit
  | .returnUser _ _ => Unit
  | .returnPublished _ => Unit

/-- Whether a statement succeeds and, if not, whether it was applied all the same. -/
structure UserChoice where
  (succeeds applied : Bool)

namespace UserSystem

def start (now : ℤ) (row : User) : UserSystem where
  now := now
  row := row
  rows := [row]
  hash := none
  fence := none
  committed := 0
  notes := []

def noted (s : UserSystem) (t : ℕ) (kind : NoteKind) : UserSystem :=
  { s with notes := ⟨t, kind⟩ :: s.notes }

def cached (s : UserSystem) : Option CachedUser :=
  s.hash.filter fun cached => s.now ≤ cached.expires

def pending (s : UserSystem) : ℤ :=
  (s.fence.filter fun fence => s.now ≤ fence.expires).elim 0 (·.version)

def current (s : UserSystem) : ℤ :=
  s.cached.elim 0 (·.user.authVersion)

def Refuses (s : UserSystem) (incoming : ℤ) : Prop :=
  incoming < s.pending ∨ incoming < s.committed ∨ incoming < s.current
deriving Decidable

/-- How both write scripts go on: the floor is raised, and a fence that it covers is deleted. -/
def promote (s : UserSystem) (incoming : ℤ) : UserSystem :=
  { s with
    committed := if s.committed < incoming then incoming else s.committed
    fence := if 0 < s.pending ∧ s.pending ≤ incoming then none else s.fence }

/-- The user that `RedisHGetObj` reads. -/
def read (s : UserSystem) : Option UserBase :=
  s.cached.map fun cached => { cached.user with quota := cached.quota.getD 0 }

def floor (s : UserSystem) : ℤ :=
  [s.pending, s.committed].foldl max 0

variable (redisTTL : ℤ)

def userAuthFenceTTLSeconds : ℤ :=
  let cacheTTL := userCacheTTLSeconds redisTTL
  let extra := if cacheTTL < 60 then 60 else cacheTTL
  cacheTTL + extra

def writeUser (s : UserSystem) (user : UserBase) (includeQuota : Bool) :
    Bool × UserSystem :=
  if s.Refuses user.authVersion then (false, s)
  else
    let promoted := s.promote user.authVersion
    let expires := s.now + userCacheTTLSeconds redisTTL * 1000
    match s.cached with
    | none =>
      if includeQuota then (true, { promoted with hash := some ⟨user, some user.quota, expires⟩ })
      else (true, promoted)
    | some cached =>
      let quota := if includeQuota then some (cached.quota.getD user.quota) else cached.quota
      (true, { promoted with hash := some ⟨user, quota, expires⟩ })

def writeField (s : UserSystem) (update : FieldUpdate) (authVersion : ℤ) :
    Bool × UserSystem :=
  if s.Refuses authVersion then (false, s)
  else
    let promoted := s.promote authVersion
    match s.cached with
    | none => (true, promoted)
    | some cached =>
      if cached.user.authVersion ≠ authVersion then (true, promoted)
      else
        let user := { update.apply cached.user with cacheSchema := userCacheSchemaVersion }
        (true, { promoted with hash := some { cached with user := user } })

def setFence (s : UserSystem) (t : ℕ) (authVersion : ℤ) : UserSystem :=
  let expires := s.now + userAuthFenceTTLSeconds redisTTL * 1000
  if s.pending ≤ authVersion then
    { s with fence := some ⟨authVersion, expires⟩ }.noted t (.fenced authVersion expires)
  else s

def store (s : UserSystem) (row : User) : UserSystem :=
  { s with row := row, rows := row :: s.rows }

def commit (s : UserSystem) (ver next : ℤ) (change : User → User)
    (pick : UserChoice) : CommitResult × UserSystem :=
  if s.row.authVersion ≠ ver then (.conflict, s)
  else
    let row := { change s.row with id := s.row.id, authVersion := next }
    if pick.succeeds then (.committed, s.store row)
    else if pick.applied then (.failed, s.store row)
    else (.failed, s)

def edit (s : UserSystem) (change : User → User) : UserSystem :=
  s.store { change s.row with
    id := s.row.id, authVersion := s.row.authVersion }

def query {Value : Type} (pick : UserChoice) (val : Value) : Option Value :=
  if pick.succeeds then some val else none

/-- The answer and the state after a script that may fail, before or after it is applied. -/
def attempt {Value : Type} (s : UserSystem) (pick : UserChoice)
    (out : Value × UserSystem) : Option Value × UserSystem :=
  (query pick out.1, if pick.succeeds ∨ pick.applied then out.2 else s)

def perform (s : UserSystem) (t : ℕ) (call : UserCall) (pick : UserChoice) :
    call.Answer × UserSystem :=
  match call with
  | .begin => ((), s.noted t .began)
  | .readHash => ((query pick s.read).join, s)
  | .readFloor => (query pick s.floor, s)
  | .getUserById => (query pick s.row, s)
  | .selectVersion => (query pick s.row.authVersion, s)
  | .selectGroup => (query pick (s.row.authVersion, s.row.group), s)
  | .writeUser user includeQuota =>
    s.attempt pick (s.writeUser redisTTL user includeQuota)
  | .writeField update authVersion => s.attempt pick (s.writeField update authVersion)
  | .setFence authVersion =>
    let out := s.attempt pick ((), s.setFence redisTTL t authVersion)
    (out.1.isSome, out.2)
  | .commit ver next change => s.commit ver next change pick
  | .edit change => ((), if pick.succeeds then s.edit change else s)
  | .returnUser user fromCache =>
    ((), s.noted t (.returned user fromCache s.now s.pending))
  | .returnPublished ver => ((), s.noted t (.published ver))

def elapse (milliseconds : ℕ) (s : UserSystem) : UserSystem :=
  { s with now := s.now + milliseconds }

end UserSystem

/-! ## Programs -/

abbrev UserProgram := Program UserCall UserCall.Answer

def askUser (call : UserCall) : UserProgram call.Answer :=
  Program.ask call

def scriptOutcome : Option Bool → Except UserCacheError Unit
  | none => .error .failed
  | some false => .error .pending
  | some true => .ok ()

def writeUserCache (user : UserBase) (includeQuota : Bool) :
    UserProgram (Except UserCacheError Unit) :=
  if user.id ≤ 0 then return .ok ()
  else if user.authVersion ≤ 0 then return .error .invalid
  else do
    let reply ← askUser
      (.writeUser { user with cacheSchema := userCacheSchemaVersion } includeQuota)
    return scriptOutcome reply

def populateUserCache (user : User) : UserProgram (Except UserCacheError Unit) :=
  writeUserCache user.toBaseUser true

def updateUserCache (user : User) : UserProgram (Except UserCacheError Unit) :=
  writeUserCache user.toBaseUser false

def cacheGetUserBase (userID : ℤ) : UserProgram (Except UserCacheError UserBase) := do
  match ← askUser .readHash with
  | none => return .error .failed
  | some userCache =>
    if userCache.id ≠ userID ∨ userCache.cacheSchema ≠ userCacheSchemaVersion ∨
        userCache.authVersion ≤ 0 then
      return .error .stale
    else
      match ← askUser .readFloor with
      | none => return .error .failed
      | some floor =>
        if userCache.authVersion < floor then return .error .pending
        else return .ok userCache

def getUserCache (userID : ℤ) : UserProgram (Except UserCacheError UserBase) := do
  match ← cacheGetUserBase userID with
  | .ok userCache =>
    askUser (.returnUser userCache true)
    return .ok userCache
  | .error _ =>
    match ← askUser .getUserById with
    | none => return .error .failed
    | some user =>
      let floor ← askUser .readFloor
      if ∃ ver ∈ floor, user.authVersion < ver then return .error .pending
      else
        match ← populateUserCache user with
        | .error .pending => return .error .pending
        | _ =>
          askUser (.returnUser user.toBaseUser false)
          return .ok user.toBaseUser

def setUserAuthVersionFence (userID authVersion : ℤ) :
    UserProgram (Except UserCacheError Unit) :=
  if userID ≤ 0 ∨ authVersion ≤ 0 then return .error .invalid
  else do
    if ← askUser (.setFence authVersion) then return .ok () else return .error .failed

/-- The tries of `IncrementUserAuthVersionWithTx`, each with the rest of its transaction. -/
def incrementTries (userID : ℤ) (change : User → User) :
    ℕ → UserProgram (Except UserCacheError ℤ)
  | 0 => return .error .versionConflict
  | tries + 1 => do
      match ← askUser .selectVersion with
      | none => return .error .failed
      | some ver =>
        let current := if ver < 1 then 1 else ver
        let next := current + 1
        match ← setUserAuthVersionFence userID next with
        | .error err => return .error err
        | .ok () =>
          match ← askUser (.commit ver next change) with
          | .committed => return .ok next
          | .failed => return .error .failed
          | .conflict => incrementTries userID change tries

def incrementUserAuthVersionWithTx (userID : ℤ) (change : User → User) :
    UserProgram (Except UserCacheError ℤ) :=
  if userID ≤ 0 then return .error .invalid
  else incrementTries userID change 3

def publishUserAuthCache : UserProgram (Except UserCacheError Unit) := do
  match ← askUser .getUserById with
  | none => return .error .failed
  | some user => updateUserCache user

/-- `BumpUserAuthVersion`, and its like for the other security changes; the success of the
publish step is noted. -/
def bumpUserAuthVersion (userID : ℤ) (change : User → User) :
    UserProgram (Except UserCacheError ℤ) := do
  match ← incrementUserAuthVersionWithTx userID change with
  | .error err => return .error err
  | .ok next =>
    match ← publishUserAuthCache with
    | .error err => return .error err
    | .ok () =>
      askUser (.returnPublished next)
      return .ok next

def updateUserCacheFieldAtVersion (userID : ℤ) (update : FieldUpdate) (authVersion : ℤ) :
    UserProgram (Except UserCacheError Unit) :=
  if userID ≤ 0 ∨ authVersion ≤ 0 then return .error .invalid
  else do
    let reply ← askUser (.writeField update authVersion)
    return scriptOutcome reply

def updateUserCacheField (userID : ℤ) (update : FieldUpdate) :
    UserProgram (Except UserCacheError Unit) := do
  match ← askUser .selectVersion with
  | none => return .error .failed
  | some authVersion =>
    if authVersion ≤ 0 then return .error .invalid
    else updateUserCacheFieldAtVersion userID update authVersion

/-- The writes of `RefreshUserGroupCache`, the last of which is not checked. -/
def refreshGroupTries (userID : ℤ) :
    ℕ → ℤ × String → UserProgram (Except UserCacheError Unit)
  | 0, authoritative => do
      match ← updateUserCacheFieldAtVersion userID (.group authoritative.2) authoritative.1 with
      | .error err => return .error err
      | .ok () => return .error .changedRepeatedly
  | tries + 1, authoritative => do
      match ← updateUserCacheFieldAtVersion userID (.group authoritative.2) authoritative.1 with
      | .error err => return .error err
      | .ok () =>
        match ← askUser .selectGroup with
        | none => return .error .failed
        | some verified =>
          if verified = authoritative then return .ok ()
          else refreshGroupTries userID tries verified

def refreshUserGroupCache (userID : ℤ) : UserProgram (Except UserCacheError Unit) :=
  if userID ≤ 0 then return .error .invalid
  else do
    match ← askUser .selectGroup with
    | none => return .error .failed
    | some authoritative => refreshGroupTries userID 3 authoritative

/-! ## Runs -/

/-- The calls of clients on a user. -/
inductive UserRequest where
  | getUserCache
  | updateField (update : FieldUpdate)
  | refreshGroup
  | bump (change : User → User)
  | edit (change : User → User)

def serveUser (userID : ℤ) : UserRequest → UserProgram Unit
  | .getUserCache => do
      askUser .begin
      let _ ← getUserCache userID
      return ()
  | .updateField update => do
      let _ ← updateUserCacheField userID update
      return ()
  | .refreshGroup => do
      let _ ← refreshUserGroupCache userID
      return ()
  | .bump change => do
      let _ ← bumpUserAuthVersion userID change
      return ()
  | .edit change => askUser (.edit change)

abbrev UserPool := Pool UserSystem UserCall UserCall.Answer Unit

namespace UserPool

def start (now : ℤ) (row : User) (reqs : ℕ → UserRequest) : UserPool where
  state := UserSystem.start now row
  threads t := serveUser row.id (reqs t)

def next (redisTTL : ℤ) : UserPool → Action UserChoice ℕ → UserPool :=
  Pool.step (fun t call pick s =>
    s.perform redisTTL t call pick) UserSystem.elapse

def Any : UserPool → Action UserChoice ℕ → Prop :=
  Pool.Allowed (fun _ _ _ _ => True) fun _ _ => True

instance (pool : UserPool) (action : Action UserChoice ℕ) : Decidable (Any pool action) :=
  Pool.decidableAllowed _ _ pool action

end UserPool

end NewApi.Auth.UserCache
