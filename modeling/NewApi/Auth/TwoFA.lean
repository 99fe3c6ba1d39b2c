import NewApi.Library.Concurrent
import NewApi.Library.Table
import Mathlib.Algebra.Order.Ring.Int
import Mathlib.Data.List.Infix

/-!
# Second-factor validation

`ValidateTOTPAndUpdateUsage` and `ValidateBackupCodeAndUpdateUsage` of `model/twofa.go` as the
programs of the statements, clock readings and comparisons that they make, and what each of these
does to the row of the user and to the user's backup codes. Times are in nanoseconds.
-/

namespace NewApi.Auth

open Concurrent (Program)
open Relational

/-! ## Codes -/

namespace Common

def maxFailAttempts : ℕ := 5

def lockoutDuration : ℤ := 300

def nanosecondsPerSecond : ℤ := 1000000000

/-- `strings.ReplaceAll(code, " ", "")`. -/
def removeSpaces (code : String) : String :=
  String.ofList (code.toList.filter (· ≠ ' '))

section

-- `totp.Validate`: the time step for which it accepts a passcode of a secret.
variable (acceptedStep : String → String → ℤ → Option ℤ)

/-- The time step that `ValidateTOTPCode` accepts a code for. -/
def matchedStep (secret code : String) (now : ℤ) : Option ℤ :=
  if (removeSpaces code).utf8ByteSize = 6 then
    acceptedStep (removeSpaces code) secret now
  else none

end

/-- `strings.ToUpper` as far as its results are ASCII characters: the dotless i and the long s
are the only other characters with an ASCII capital. -/
def toUpper (char : Char) : Char :=
  if char.toNat = 0x0131 then 'I'
  else if char.toNat = 0x017F then 'S'
  else char.toUpper

def backupCodeLength : ℕ := 8

/-- `strings.ToUpper(strings.ReplaceAll(code, "-", ""))`. -/
def cleanBackupCode (code : String) : String :=
  String.ofList ((code.toList.filter (· ≠ '-')).map toUpper)

def validateBackupCode (code : String) : Bool :=
  (cleanBackupCode code).utf8ByteSize = backupCodeLength &&
    (cleanBackupCode code).toList.all fun char =>
      ('A' ≤ char && char ≤ 'Z') || ('0' ≤ char && char ≤ '9')

def normalizeBackupCode (code : String) : String :=
  let cleanCode := cleanBackupCode code
  if cleanCode.utf8ByteSize = backupCodeLength then
    String.ofList (cleanCode.toList.take 4) ++ "-" ++ String.ofList (cleanCode.toList.drop 4)
  else code

end Common

/-! ## The tables -/

/-- A stored row of `TwoFA`. -/
structure TwoFA where
  (id userId : ℤ)
  secret : String
  failedAttempts : ℕ
  (lockedUntil lastUsedAt : Option ℤ)
  stored : id ≠ 0

/-- A row of `TwoFABackupCode`. -/
structure TwoFABackupCode where
  id : ℤ
  codeHash : String
  isUsed : Bool

instance : Keyed TwoFABackupCode ℤ where
  key := TwoFABackupCode.id

/-- `is_used = true`. -/
def TwoFABackupCode.use : RowUpdate TwoFABackupCode where
  apply backupCode := { backupCode with isUsed := true }
  key_apply _ := rfl

def LockRuns (lockedUntil : Option ℤ) (now : ℤ) : Prop :=
  ∃ time ∈ lockedUntil, now < time
deriving Decidable

/-! ## What happened -/

/-- What is used up by an accepted code. -/
inductive Factor where
  | backupCode (id : ℤ)
  | timeStep (step : ℤ)
deriving DecidableEq

/-- What clients have seen and done. -/
inductive TwoFANoteKind where
  | observed
  | compared (locked : Bool)
  | rejected
  | counted
  | locked
  | accepted (factor : Factor)
  | succeeded
  | cleared
  | replied (uncounted : Bool)
deriving DecidableEq

/-- A note with its client. -/
structure TwoFANote where
  thread : ℕ
  kind : TwoFANoteKind
deriving DecidableEq

/-- The clock, the row and the backup codes, the notes, and the clients that are about to count.
-/
structure TwoFASystem where
  now : ℤ
  row : TwoFA
  backupCodes : Table TwoFABackupCode
  notes : List TwoFANote
  counting : List ℕ

namespace TwoFASystem

/-- A row that nobody has checked a code against. -/
def start (now : ℤ) (row : TwoFA) (backupCodes : Table TwoFABackupCode) : TwoFASystem where
  now := now
  row := row
  backupCodes := backupCodes
  notes := []
  counting := []

def locked (s : TwoFASystem) : Bool :=
  LockRuns s.row.lockedUntil s.now

def noted (s : TwoFASystem) (t : ℕ) (kinds : List TwoFANoteKind) : TwoFASystem :=
  { s with notes := kinds.map (TwoFANote.mk t) ++ s.notes }

def compare (s : TwoFASystem) (t : ℕ) : TwoFASystem :=
  s.noted t [.compared s.locked]

def reject (s : TwoFASystem) (t : ℕ) : TwoFASystem :=
  { s.noted t [.rejected] with counting := t :: s.counting }

end TwoFASystem

/-! ## Statements and comparisons -/

/-- The statements of a check, one at a time. -/
inductive TwoFACall where
  | getTwoFAByUserId
  | now
  | validateTOTPCode (secret code : String)
  | validateBackupCode (code : String)
  | findBackupCodes
  /-- The first backup code that `common.ValidatePasswordAndHash` accepts. -/
  | validatePasswordAndHash (normalizedCode : String) (backupCodes : List TwoFABackupCode)
  | useBackupCode (id : ℤ)
  | selectUsage
  | countFailure (failures : ℕ) (now : ℤ) (nextFailedAttempts : ℕ)
      (nextLockedUntil : Option ℤ) (tries : ℕ)
  | updateUsage (failures : ℕ) (lockedUntil lastUsedAt : Option ℤ)
  | reply (valid : Bool)

/-- A failed statement answers `none`. -/
abbrev TwoFACall.Answer : TwoFACall → Type
  | .getTwoFAByUserId => Option TwoFA
  | .now => ℤ
  | .validateTOTPCode _ _ => Bool
  | .validateBackupCode _ => Bool
  | .findBackupCodes => Option (List TwoFABackupCode)
  | .validatePasswordAndHash _ _ => Option TwoFABackupCode
  | .useBackupCode _ => Option ℕ
  | .selectUsage => Option (ℕ × Option ℤ)
  | .countFailure _ _ _ _ _ => Option ℕ
  | .updateUsage _ _ _ => Bool
  | .reply _ => Unit

section Perform

variable (acceptedStep : String → String → ℤ → Option ℤ)
    (validatePasswordAndHash : String → String → Bool)

namespace TwoFASystem

def judgeTOTP (s : TwoFASystem) (t : ℕ) (secret code : String) :
    Bool × TwoFASystem :=
  match Common.matchedStep acceptedStep secret code s.now with
  | some step => (true, (s.compare t).noted t [.accepted (.timeStep step)])
  | none => (false, (s.compare t).reject t)

/-- `UPDATE ... SET is_used = true WHERE id = ? AND is_used = false`. -/
def useBackupCode (s : TwoFASystem) (t : ℕ) (id : ℤ) : ℕ × TwoFASystem :=
  let updated := s.backupCodes.updateWhere id (!·.isUsed) TwoFABackupCode.use
  (updated.rowsAffected,
    if updated.rowsAffected = 1 then
      { s with backupCodes := updated.table }.noted t [.accepted (.backupCode id)]
    else s.reject t)

def Unmoved (s : TwoFASystem) (failures : ℕ) (now : ℤ) : Prop :=
  s.row.failedAttempts = failures ∧ ¬LockRuns s.row.lockedUntil now
deriving Decidable

/-- `UPDATE ... SET failed_attempts = ?, locked_until = ? WHERE id = ? AND failed_attempts = ?
AND (locked_until IS NULL OR locked_until <= ?)`. -/
def countFailure (s : TwoFASystem) (t failures : ℕ) (now : ℤ)
    (nextFailedAttempts : ℕ) (nextLockedUntil : Option ℤ) : ℕ × TwoFASystem :=
  if s.Unmoved failures now then
    (1, { s with
      row := { s.row with
        failedAttempts := nextFailedAttempts
        lockedUntil := nextLockedUntil }
      counting := s.counting.erase t }.noted t
        (.observed :: if LockRuns nextLockedUntil now then [.locked, .counted] else [.counted]))
  else (0, s)

/-- The update of `updateUsageState` after a success. -/
def updateUsage (s : TwoFASystem) (t failures : ℕ)
    (lockedUntil lastUsedAt : Option ℤ) : TwoFASystem :=
  { s with
    row := { s.row with
      failedAttempts := failures
      lockedUntil := lockedUntil
      lastUsedAt := lastUsedAt } }.noted t [.cleared, .succeeded]

def perform (t : ℕ) (call : TwoFACall) (done : Bool) (s : TwoFASystem) :
    call.Answer × TwoFASystem :=
  match call with
  | .getTwoFAByUserId =>
    if done then (some s.row, s.noted t [.observed]) else (none, s)
  | .now => (s.now, s)
  | .validateTOTPCode secret code => s.judgeTOTP acceptedStep t secret code
  | .validateBackupCode code =>
    (Common.validateBackupCode code,
      if Common.validateBackupCode code then s.compare t
      else (s.compare t).reject t)
  | .findBackupCodes =>
    if done then (some (s.backupCodes.rows.filter (!·.isUsed)), s)
    else (none, s)
  | .validatePasswordAndHash normalizedCode backupCodes =>
    let found := backupCodes.find? fun backupCode =>
      validatePasswordAndHash normalizedCode backupCode.codeHash
    (found,
      if found.isSome then s.compare t else (s.compare t).reject t)
  | .useBackupCode id =>
    if done then
      (some (s.useBackupCode t id).1, (s.useBackupCode t id).2)
    else (none, s)
  | .selectUsage =>
    if done then (some (s.row.failedAttempts, s.row.lockedUntil), s)
    else (none, s)
  | .countFailure failures now nextFailedAttempts nextLockedUntil _ =>
    if done then
      (some (s.countFailure t failures now nextFailedAttempts nextLockedUntil).1,
        (s.countFailure t failures now nextFailedAttempts nextLockedUntil).2)
    else (none, s)
  | .updateUsage failures lockedUntil lastUsedAt =>
    if done then
      (true, s.updateUsage t failures lockedUntil lastUsedAt)
    else (false, s.noted t [.succeeded])
  | .reply _ => ((), s.noted t [.replied (decide (t ∈ s.counting))])

def elapse (nanos : ℕ) (s : TwoFASystem) : TwoFASystem :=
  { s with now := s.now + nanos }

end TwoFASystem

end Perform

/-! ## The programs -/

abbrev TwoFAProgram := Program TwoFACall TwoFACall.Answer

def askTwoFA (call : TwoFACall) : TwoFAProgram call.Answer :=
  Program.ask call

/-- The errors of a check. -/
inductive TwoFAError where
  /-- `账户已被锁定，请在%v后重试`. -/
  | locked (lockedUntil : Option ℤ)
  /-- `验证码或备用码不正确`. -/
  | incorrectCode
  /-- `2FA记录ID不能为空`. -/
  | missingID
  /-- `更新2FA失败次数冲突，请重试`. -/
  | conflict
  | database

namespace TwoFA

def isLocked (twoFA : TwoFA) : TwoFAProgram Bool :=
  match twoFA.lockedUntil with
  | none => pure false
  | some lockedUntil => do
      let now ← askTwoFA .now
      pure (decide (now < lockedUntil))

def updateUsageState (twoFA : TwoFA) : TwoFAProgram (Option TwoFAError) :=
  if twoFA.id = 0 then pure (some .missingID)
  else do
    let updated ← askTwoFA (.updateUsage twoFA.failedAttempts twoFA.lockedUntil twoFA.lastUsedAt)
    pure (if updated then none else some .database)

def nextLockedUntil (nextFailedAttempts : ℕ) (lockedUntil : Option ℤ) (now : ℤ) : Option ℤ :=
  if Common.maxFailAttempts ≤ nextFailedAttempts then
    some (now + Common.lockoutDuration * Common.nanosecondsPerSecond)
  else lockedUntil

/-- The loop of `IncrementFailedAttempts` with its remaining tries. -/
def countFailedAttempt (twoFA : TwoFA) : ℕ → TwoFAProgram (TwoFA × Option TwoFAError)
  | 0 => pure (twoFA, some .conflict)
  | tries + 1 => do
      let current ← askTwoFA .selectUsage
      match current with
      | none => pure (twoFA, some .database)
      | some (failures, lockedUntil) =>
        let now ← askTwoFA .now
        if LockRuns lockedUntil now then
          pure ({ twoFA with failedAttempts := failures, lockedUntil := lockedUntil }, none)
        else
          let nextLock := nextLockedUntil (failures + 1) lockedUntil now
          let rowsAffected ← askTwoFA (.countFailure failures now (failures + 1) nextLock tries)
          match rowsAffected with
          | none => pure (twoFA, some .database)
          | some 0 => countFailedAttempt twoFA tries
          | some (_ + 1) =>
            pure ({ twoFA with
              failedAttempts := failures + 1
              lockedUntil := nextLock }, none)

def incrementFailedAttempts (twoFA : TwoFA) : TwoFAProgram (TwoFA × Option TwoFAError) :=
  if twoFA.id = 0 then pure (twoFA, some .missingID)
  else twoFA.countFailedAttempt 5

def recordFailure (twoFA : TwoFA) : TwoFAProgram (TwoFA × Except TwoFAError Bool) := do
  let counted ← twoFA.incrementFailedAttempts
  -- an error of the count is only logged
  pure (counted.1, .ok false)

def recordSuccess (twoFA : TwoFA) : TwoFAProgram (TwoFA × Except TwoFAError Bool) := do
  let now ← askTwoFA .now
  let used := { twoFA with failedAttempts := 0, lockedUntil := none, lastUsedAt := some now }
  let _ ← used.updateUsageState
  pure (used, .ok true)

def validateTOTPAndUpdateUsage (twoFA : TwoFA) (code : String) :
    TwoFAProgram (TwoFA × Except TwoFAError Bool) := do
  if ← twoFA.isLocked then
    pure (twoFA, .error (.locked twoFA.lockedUntil))
  else if ← askTwoFA (.validateTOTPCode twoFA.secret code) then
    twoFA.recordSuccess
  else twoFA.recordFailure

end TwoFA

def validateBackupCode (code : String) : TwoFAProgram (Except TwoFAError Bool) := do
  if ← askTwoFA (.validateBackupCode code) then
    let found ← askTwoFA .findBackupCodes
    match found with
    | none => pure (.error .database)
    | some backupCodes =>
      let matching ← askTwoFA
        (.validatePasswordAndHash (Common.normalizeBackupCode code) backupCodes)
      match matching with
      | none => pure (.ok false)
      | some backupCode =>
        let result ← askTwoFA (.useBackupCode backupCode.id)
        match result with
        | none => pure (.error .database)
        | some rowsAffected => pure (.ok (decide (rowsAffected = 1)))
  else pure (.error .incorrectCode)

def TwoFA.validateBackupCodeAndUpdateUsage (twoFA : TwoFA) (code : String) :
    TwoFAProgram (TwoFA × Except TwoFAError Bool) := do
  if ← twoFA.isLocked then
    pure (twoFA, .error (.locked twoFA.lockedUntil))
  else
    match ← validateBackupCode code with
    | .error err => pure (twoFA, .error err)
    | .ok false => twoFA.recordFailure
    | .ok true => twoFA.recordSuccess

/-- A code that a client shows. -/
inductive Attempt where
  | totp (code : String)
  | backupCode (code : String)

def TwoFA.validate (twoFA : TwoFA) :
    Attempt → TwoFAProgram (TwoFA × Except TwoFAError Bool)
  | .totp code => twoFA.validateTOTPAndUpdateUsage code
  | .backupCode code => twoFA.validateBackupCodeAndUpdateUsage code

def TwoFA.validateAll (twoFA : TwoFA) : List Attempt → TwoFAProgram Unit
  | [] => pure ()
  | attempt :: attempts => do
      let (after, result) ← twoFA.validate attempt
      let _ ← askTwoFA (.reply (match result with | .ok valid => valid | .error _ => false))
      after.validateAll attempts

def secondFactor (attempts : List Attempt) : TwoFAProgram Unit := do
  let loaded ← askTwoFA .getTwoFAByUserId
  match loaded with
  | none => pure ()
  | some twoFA => twoFA.validateAll attempts

end NewApi.Auth
