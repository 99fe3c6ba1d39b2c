import NewApi.Auth.TwoFA

/-!
# Bounded guessing of second factors

What the notes of a run say about guessing, and the steps that keep it: a code is compared and
accepted while no lock has come since the copy was loaded, a wrong code is compared while the
codes that are being counted leave room below the lock, and each count gets through.
-/

namespace NewApi.Auth

open Concurrent (Keeps Pool Program)
open Relational Transition

/-! ## Reading the notes -/

def freshIn (t : ℕ) : List TwoFANote → Bool
  | [] => false
  | note :: past =>
    if note = ⟨t, .observed⟩ then true
    else if note.kind = .locked then false
    else freshIn t past

/-- A code of the thread was accepted and its validation has not succeeded yet. -/
def winningIn (t : ℕ) : List TwoFANote → Bool
  | [] => false
  | note :: past =>
    if note.thread = t then
      match note.kind with
      | .accepted _ => true
      | .succeeded => false
      | _ => winningIn t past
    else winningIn t past

/-- How many wrong codes were compared since the last success or lock. -/
def wrongSince : List TwoFANote → ℕ
  | [] => 0
  | note :: past =>
    match note.kind with
    | .rejected => wrongSince past + 1
    | .succeeded => 0
    | .locked => 0
    | _ => wrongSince past

def TwoFANote.factor? (note : TwoFANote) : Option Factor :=
  match note.kind with
  | .accepted factor => some factor
  | _ => none

def acceptedFactors (notes : List TwoFANote) : List Factor :=
  notes.filterMap TwoFANote.factor?

namespace TwoFASystem

/-- Guesses are bounded between two locks, factors are used once, and no code is left uncounted.
-/
structure BruteForceBounded (s : TwoFASystem) : Prop where
  bounded : ∀ after window before, s.notes = after ++ window ++ before →
    (∀ note ∈ window, note.kind ≠ .succeeded ∧ note.kind ≠ .locked) →
      window.countP (·.kind = .rejected) ≤ Common.maxFailAttempts
  lockedOut : ∀ note ∈ s.notes, note.kind ≠ .compared true
  kept : ∀ t after window before,
    s.notes = after ++ ⟨t, .cleared⟩ :: (window ++ ⟨t, .observed⟩ :: before) →
      ⟨t, .observed⟩ ∉ window → ∀ note ∈ window, note.kind ≠ .locked
  counted : ∀ note ∈ s.notes, note.kind ≠ .replied true
  once : (acceptedFactors s.notes).Nodup

/-! ## Careful steps -/

/-- The codes that are being counted and one more leave the row unlocked before the last of
them, or none is being counted. -/
def HasRoom (s : TwoFASystem) : Prop :=
  s.counting = [] ∨
    s.row.failedAttempts + s.counting.length < Common.maxFailAttempts
deriving Decidable

def Unused (s : TwoFASystem) (id : ℤ) : Prop :=
  ∃ row ∈ s.backupCodes.find? id, row.isUsed = false
deriving Decidable

/-- No thread but this one has an accepted code whose validation has not succeeded yet. -/
def NoneWinning (s : TwoFASystem) (t : ℕ) : Prop :=
  ∀ note ∈ s.notes, note.thread ≠ t → winningIn note.thread s.notes = false
deriving Decidable

section

variable (acceptedStep : String → String → ℤ → Option ℤ) (verify : String → String → Bool)

/-- Codes are compared and taken while no lock has come since the copy was loaded; a wrong code
is compared while there is room and is not malformed; a time step is not presented again; and a
count gets through, and locks the row only while no other validation has yet to record its
success. -/
def Careful (t : ℕ) (call : TwoFACall) (done : Bool) (s : TwoFASystem) : Prop :=
  match call with
  | .validateTOTPCode secret code =>
    freshIn t s.notes = true ∧
      match Common.matchedStep acceptedStep secret code s.now with
      | some step => Factor.timeStep step ∉ acceptedFactors s.notes
      | none => s.HasRoom
  | .validateBackupCode code =>
    freshIn t s.notes = true ∧ Common.validateBackupCode code = true
  | .validatePasswordAndHash normalizedCode backupCodes =>
    freshIn t s.notes = true ∧
      ((∀ backupCode ∈ backupCodes, verify normalizedCode backupCode.codeHash = false) → s.HasRoom)
  | .useBackupCode id =>
    done = true → freshIn t s.notes = true ∧ (s.Unused id ∨ s.HasRoom)
  | .selectUsage => done = true
  | .countFailure failures now nextFailedAttempts _ tries =>
    done = true ∧ (tries = 0 → s.Unmoved failures now) ∧
      (Common.maxFailAttempts ≤ nextFailedAttempts → s.NoneWinning t)
  | .getTwoFAByUserId | .now | .findBackupCodes | .updateUsage _ _ _ | .reply _ => True

instance (t : ℕ) (call : TwoFACall) (done : Bool) (s : TwoFASystem) :
    Decidable (Careful acceptedStep verify t call done s) := by
  cases call with
  | validateTOTPCode secret code =>
    refine @instDecidableAnd _ _ _ ?_
    cases Common.matchedStep acceptedStep secret code s.now with
    | some step => exact inferInstanceAs (Decidable (_ ∉ _))
    | none => exact inferInstanceAs (Decidable s.HasRoom)
  | validateBackupCode code => exact inferInstanceAs (Decidable (_ ∧ _))
  | validatePasswordAndHash normalizedCode backupCodes =>
    exact inferInstanceAs (Decidable (_ ∧ (_ → _)))
  | useBackupCode id => exact inferInstanceAs (Decidable (_ → _))
  | selectUsage => exact inferInstanceAs (Decidable (_ = _))
  | countFailure failures now nextFailedAttempts nextLockedUntil tries =>
    exact inferInstanceAs (Decidable (_ ∧ (_ → _) ∧ (_ → _)))
  | getTwoFAByUserId => exact inferInstanceAs (Decidable True)
  | now => exact inferInstanceAs (Decidable True)
  | findBackupCodes => exact inferInstanceAs (Decidable True)
  | updateUsage _ _ _ => exact inferInstanceAs (Decidable True)
  | reply _ => exact inferInstanceAs (Decidable True)

end

/-! ## Orderly notes -/

/-- A note that the notes before it allow. -/
def Follows (note : TwoFANote) (past : List TwoFANote) : Prop :=
  match note.kind with
  | .compared locked => locked = false
  | .rejected => wrongSince past < Common.maxFailAttempts
  | .accepted factor => factor ∉ acceptedFactors past
  | .cleared => freshIn note.thread past = true
  | .replied uncounted => uncounted = false
  | .observed | .counted | .locked | .succeeded => True

/-- Each note follows those before it. -/
def Orderly : List TwoFANote → Prop
  | [] => True
  | note :: past => Follows note past ∧ Orderly past

end TwoFASystem

section Notes

open TwoFASystem (Follows Orderly)

variable {notes : List TwoFANote} {t other : ℕ}

theorem TwoFASystem.Orderly.suffix {after before : List TwoFANote}
    (orderly : Orderly (after ++ before)) :
    Orderly before := by
  induction after with
  | nil => exact orderly
  | cons _ _ ih => exact ih orderly.2

theorem TwoFASystem.Orderly.follows {after before : List TwoFANote} {note : TwoFANote}
    (orderly : Orderly (after ++ note :: before)) : Follows note before :=
  orderly.suffix.1

theorem wrongSince_le (orderly : Orderly notes) : wrongSince notes ≤ Common.maxFailAttempts := by
  induction notes with
  | nil => exact Nat.zero_le _
  | cons note _ ih =>
    have before := ih orderly.2
    have follows := orderly.1
    rcases note with ⟨_, kind⟩
    cases kind with
    | rejected => exact follows
    | succeeded | locked => exact Nat.zero_le _
    | _ => exact before

theorem countP_le_wrongSince {window before : List TwoFANote}
    (plain : ∀ note ∈ window, note.kind ≠ .succeeded ∧ note.kind ≠ .locked) :
    window.countP (·.kind = .rejected) ≤ wrongSince (window ++ before) := by
  induction window with
  | nil => exact Nat.zero_le _
  | cons note _ ih =>
    have rest := ih fun other inWindow =>
      plain other (List.mem_cons_of_mem _ inWindow)
    have first := plain note List.mem_cons_self
    rcases note with ⟨_, kind⟩
    cases kind with
    | rejected =>
      simp only [List.countP_cons, decide_true, if_true, List.cons_append, wrongSince]
      omega
    | succeeded => exact absurd rfl first.1
    | locked => exact absurd rfl first.2
    | _ => simpa [List.countP_cons, wrongSince] using rest

theorem no_lock_of_fresh {window before : List TwoFANote}
    (fresh : freshIn t (window ++ ⟨t, .observed⟩ :: before) = true)
    (unobserved : ⟨t, .observed⟩ ∉ window) : ∀ note ∈ window, note.kind ≠ .locked := by
  induction window with
  | nil => simp
  | cons _ _ ih =>
    simp only [List.mem_cons, not_or] at unobserved
    simp only [List.cons_append, freshIn, if_neg (Ne.symm unobserved.1)] at fresh
    split at fresh
    · cases fresh
    next notLocked =>
      intro other inWindow
      rcases List.mem_cons.mp inWindow with rfl | isIn
      · exact notLocked
      · exact ih fresh unobserved.2 other isIn

theorem nodup_acceptedFactors (orderly : Orderly notes) : (acceptedFactors notes).Nodup := by
  induction notes with
  | nil => exact List.nodup_nil
  | cons note _ ih =>
    have nodup := ih orderly.2
    have follows := orderly.1
    rcases note with ⟨_, kind⟩
    cases kind with
    | accepted _ =>
      simp only [acceptedFactors, List.filterMap_cons, TwoFANote.factor?, List.nodup_cons]
      exact ⟨follows, nodup⟩
    | _ => exact nodup

theorem bruteForceBounded_of_orderly {s : TwoFASystem} (orderly : Orderly s.notes) :
    s.BruteForceBounded where
  bounded := by
    intro _ _ _ isNotes plain
    rw [isNotes, List.append_assoc] at orderly
    exact le_trans (countP_le_wrongSince plain) (wrongSince_le orderly.suffix)
  lockedOut := by
    rintro ⟨author, kind⟩ inLog rfl
    rcases List.append_of_mem inLog with ⟨after, before, isNotes⟩
    rw [isNotes] at orderly
    cases orderly.follows
  kept := by
    intro _ _ _ _ isNotes unobserved
    rw [isNotes] at orderly
    exact no_lock_of_fresh orderly.follows unobserved
  counted := by
    rintro ⟨_, _⟩ inLog rfl
    rcases List.append_of_mem inLog with ⟨_, _, isNotes⟩
    rw [isNotes] at orderly
    cases orderly.follows
  once := nodup_acceptedFactors orderly

end Notes

end NewApi.Auth
