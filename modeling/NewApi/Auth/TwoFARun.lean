import NewApi.Auth.TwoFABound

/-!
# Runs of the second factor

Any number of clients validate codes on copies of one row, between steps of the clock. In a run
of careful steps the failed attempts of the row and the codes that are being counted cover the
wrong codes since the last success or lock, so that guessing is bounded.
-/

namespace NewApi.Auth

open Concurrent (Action Keeps Pool Program)
open Relational Transition Table

namespace TwoFASystem

/-! ## The invariant -/

/-- What holds between the row, the notes and the clients that are about to count. -/
structure Sound (s : TwoFASystem) : Prop where
  orderly : Orderly s.notes
  distinct : s.counting.Nodup
  room : s.counting.length ≤ 1 ∨
    s.row.failedAttempts + s.counting.length ≤ Common.maxFailAttempts
  tally : wrongSince s.notes ≤ s.row.failedAttempts + s.counting.length
  tallyLocked : Common.maxFailAttempts ≤ s.row.failedAttempts →
    wrongSince s.notes ≤ s.counting.length
  unlocked : s.counting ≠ [] → ¬LockRuns s.row.lockedUntil s.now
  used : ∀ id, .backupCode id ∈ acceptedFactors s.notes → ¬s.Unused id
  winners : ∀ t, winningIn t s.notes = true → freshIn t s.notes = true

theorem sound_start (now : ℤ) (row : TwoFA) (backupCodes : Table TwoFABackupCode) :
    Sound (start now row backupCodes) where
  orderly := trivial
  distinct := List.nodup_nil
  room := .inl (Nat.zero_le _)
  tally := Nat.zero_le _
  tallyLocked _ := Nat.zero_le _
  unlocked filled := absurd rfl filled
  used id accepted := by cases accepted
  winners t winning := by cases winning

section

variable {s : TwoFASystem} {t other : ℕ}

variable {lockedUntil : Option ℤ} {now : ℤ} {kind : TwoFANoteKind} {notes : List TwoFANote}

theorem LockRuns.earlier {later : ℤ} (runs : LockRuns lockedUntil later)
    (ordered : now ≤ later) : LockRuns lockedUntil now := by
  rcases runs with ⟨time, isTime, before⟩
  exact ⟨time, isTime, lt_of_le_of_lt ordered before⟩

theorem Sound.elapse (sound : Sound s) (nanos : ℕ) :
    Sound (s.elapse nanos) where
  orderly := sound.orderly
  distinct := sound.distinct
  room := sound.room
  tally := sound.tally
  tallyLocked := sound.tallyLocked
  unlocked filled runs := sound.unlocked filled
    (LockRuns.earlier runs (Int.le_add_of_nonneg_right (Int.natCast_nonneg nanos)))
  used := sound.used
  winners := sound.winners

def Plain : TwoFANoteKind → Prop
  | .observed | .compared _ | .counted | .cleared | .replied _ => True
  | .rejected | .locked | .accepted _ | .succeeded => False

theorem wrongSince_plain (plain : Plain kind) (notes : List TwoFANote) :
    wrongSince (⟨t, kind⟩ :: notes) = wrongSince notes := by
  cases kind <;> first | rfl | cases plain

theorem acceptedFactors_plain (plain : Plain kind) (notes : List TwoFANote) :
    acceptedFactors (⟨t, kind⟩ :: notes) = acceptedFactors notes := by
  cases kind <;> first | rfl | cases plain

theorem winningIn_plain (plain : Plain kind) (notes : List TwoFANote) :
    winningIn other (⟨t, kind⟩ :: notes) = winningIn other notes := by
  simp only [winningIn]
  split
  · cases kind <;> first | rfl | cases plain
  · rfl

theorem freshIn_mono (notLocked : kind ≠ .locked) (fresh : freshIn other notes = true) :
    freshIn other (⟨t, kind⟩ :: notes) = true := by
  simp only [freshIn, if_neg notLocked, fresh, ite_self]

theorem Sound.plain (sound : Sound s) (plain : Plain kind) (follows : Follows ⟨t, kind⟩ s.notes) :
    Sound (s.noted t [kind]) where
  orderly := ⟨follows, sound.orderly⟩
  distinct := sound.distinct
  room := sound.room
  tally := by
    simp only [noted, List.map_cons, List.map_nil, List.cons_append, List.nil_append,
      wrongSince_plain plain]
    exact sound.tally
  tallyLocked := by
    simp only [noted, List.map_cons, List.map_nil, List.cons_append, List.nil_append,
      wrongSince_plain plain]
    exact sound.tallyLocked
  unlocked := sound.unlocked
  used := by
    simp only [noted, List.map_cons, List.map_nil, List.cons_append, List.nil_append,
      acceptedFactors_plain plain]
    exact sound.used
  winners := by
    simp only [noted, List.map_cons, List.map_nil, List.cons_append, List.nil_append,
      winningIn_plain plain]
    intro winner winning
    refine freshIn_mono ?_ (sound.winners winner winning)
    rintro rfl
    cases plain

theorem Sound.reject (sound : Sound s) (hasRoom : s.HasRoom)
    (new : t ∉ s.counting) (unlocked : s.locked = false) :
    Sound (s.reject t) := by
  have bound : wrongSince s.notes < Common.maxFailAttempts := by
    have tally := sound.tally
    have tallyLocked := sound.tallyLocked
    rcases hasRoom with none | room
    · simp only [none, List.length_nil] at tally tallyLocked
      have pos : 0 < Common.maxFailAttempts := by decide
      omega
    · omega
  refine
    { orderly := ⟨bound, sound.orderly⟩
      distinct := List.nodup_cons.mpr ⟨new, sound.distinct⟩
      room := ?_
      tally := ?_
      tallyLocked := ?_
      unlocked := fun _ => of_decide_eq_false unlocked
      used := sound.used
      winners := ?_ }
  · simp only [TwoFASystem.reject, noted, List.length_cons]
    rcases hasRoom with none | room
    · exact .inl (by simp [none])
    · exact .inr room
  · have tally := sound.tally
    simp only [TwoFASystem.reject, noted, List.map_cons, List.map_nil, List.cons_append,
      List.nil_append, wrongSince, List.length_cons]
    omega
  · intro atLimit
    have tallyLocked := sound.tallyLocked atLimit
    simp only [TwoFASystem.reject, noted, List.map_cons, List.map_nil, List.cons_append,
      List.nil_append, wrongSince, List.length_cons]
    omega
  · intro winner winning
    have sameWinning : winningIn winner s.notes = true := by
      simp only [TwoFASystem.reject, noted, List.map_cons, List.map_nil, List.cons_append,
        List.nil_append, winningIn] at winning
      split at winning
      · exact winning
      · exact winning
    exact freshIn_mono (by simp) (sound.winners winner sameWinning)

theorem Sound.accept (t : ℕ) (sound : Sound s) {factor : Factor} (fresh : freshIn t s.notes = true)
    (new : factor ∉ acceptedFactors s.notes) (used : ∀ id, factor = .backupCode id → ¬s.Unused id) :
    Sound (s.noted t [.accepted factor]) where
  orderly := ⟨new, sound.orderly⟩
  distinct := sound.distinct
  room := sound.room
  tally := sound.tally
  tallyLocked := sound.tallyLocked
  unlocked := sound.unlocked
  used := by
    intro id accepted
    rcases List.mem_cons.mp accepted with isFactor | earlier
    · exact used id isFactor.symm
    · exact sound.used id earlier
  winners := by
    intro winner winning
    refine freshIn_mono (by simp) ?_
    by_cases own : t = winner
    · rw [← own]
      exact fresh
    · simp only [noted, List.map_cons, List.map_nil, List.cons_append, List.nil_append,
        winningIn, if_neg own] at winning
      exact sound.winners winner winning

theorem winningIn_succeeded (winning : winningIn other (⟨t, .succeeded⟩ :: notes) = true) :
    winningIn other notes = true := by
  simp only [winningIn] at winning
  split at winning
  · cases winning
  · exact winning

theorem Sound.succeed (sound : Sound s) : Sound (s.noted t [.succeeded]) where
  orderly := ⟨trivial, sound.orderly⟩
  distinct := sound.distinct
  room := sound.room
  tally := Nat.zero_le _
  tallyLocked _ := Nat.zero_le _
  unlocked := sound.unlocked
  used := sound.used
  winners winner winning :=
    freshIn_mono (by simp) (sound.winners winner (winningIn_succeeded winning))

theorem not_lockRuns_none (now : ℤ) : ¬LockRuns none now := by
  rintro ⟨_, isTime, _⟩
  cases isTime

theorem Sound.updateUsage (sound : Sound s) (winning : winningIn t s.notes = true)
    (lastUsedAt : Option ℤ) : Sound (s.updateUsage t 0 none lastUsedAt) where
  orderly := ⟨freshIn_mono (by simp) (sound.winners t winning), trivial, sound.orderly⟩
  distinct := sound.distinct
  room := by
    rcases sound.room with single | _
    · exact .inl single
    · exact .inr (by simp only [TwoFASystem.updateUsage, noted]; omega)
  tally := Nat.zero_le _
  tallyLocked _ := Nat.zero_le _
  unlocked _ := not_lockRuns_none _
  used := sound.used
  winners winner isWinner := by
    rw [show (s.updateUsage t 0 none lastUsedAt).notes =
      ⟨t, .cleared⟩ :: ⟨t, .succeeded⟩ :: s.notes from rfl,
      winningIn_plain (show Plain .cleared from trivial)] at isWinner
    exact freshIn_mono (by simp)
      (freshIn_mono (by simp) (sound.winners winner (winningIn_succeeded isWinner)))

theorem exists_note_of_winning (winning : winningIn other notes = true) :
    ∃ note ∈ notes, note.thread = other := by
  induction notes with
  | nil => cases winning
  | cons note _ ih =>
    by_cases own : note.thread = other
    · exact ⟨note, List.mem_cons_self, own⟩
    · simp only [winningIn, if_neg own] at winning
      rcases ih winning with ⟨found, inEarlier, isOther⟩
      exact ⟨found, List.mem_cons_of_mem _ inEarlier, isOther⟩

theorem NoneWinning.not_winning {winner : ℕ} (noneWinning : s.NoneWinning t)
    (apart : winner ≠ t) : winningIn winner s.notes = false := by
  cases winning : winningIn winner s.notes with
  | false => rfl
  | true =>
    rcases exists_note_of_winning winning with ⟨note, inLog, rfl⟩
    rw [← winning]
    exact noneWinning note inLog apart

theorem lockRuns_nextLockedUntil (attempts : ℕ) (unlocked : ¬LockRuns lockedUntil now) :
    LockRuns (TwoFA.nextLockedUntil attempts lockedUntil now) now ↔
      Common.maxFailAttempts ≤ attempts := by
  simp only [TwoFA.nextLockedUntil]
  split
  next atLimit =>
    refine iff_of_true ⟨_, rfl, ?_⟩ atLimit
    simp only [Common.lockoutDuration, Common.nanosecondsPerSecond]
    omega
  next below => exact iff_of_false unlocked below

theorem Sound.countFailure (sound : Sound s) {failures : ℕ} (unmoved : s.Unmoved failures now)
    (counting : t ∈ s.counting) (losing : winningIn t s.notes = false)
    (past : now ≤ s.now) (unlocked : ¬LockRuns lockedUntil now)
    (noneWinning : Common.maxFailAttempts ≤ failures + 1 → s.NoneWinning t) :
    Sound (s.countFailure t failures now (failures + 1)
      (TwoFA.nextLockedUntil (failures + 1) lockedUntil now)).2 := by
  have isRow := unmoved.1
  have counted := List.length_erase_of_mem counting
  have pos := List.length_pos_of_mem counting
  have tally := sound.tally
  simp only [TwoFASystem.countFailure, if_pos unmoved]
  by_cases atLimit : Common.maxFailAttempts ≤ failures + 1
  · -- the last code that is being counted locks the row
    have single : s.counting.length = 1 := by
      rcases sound.room with single | room <;> omega
    have done : s.counting.erase t = [] := by
      apply List.eq_nil_of_length_eq_zero
      omega
    rw [if_pos ((lockRuns_nextLockedUntil _ unlocked).mpr atLimit)]
    refine
      { orderly := ⟨trivial, trivial, trivial, sound.orderly⟩
        distinct := by simp only [noted, done, List.nodup_nil]
        room := .inl (by simp [noted, done])
        tally := Nat.zero_le _
        tallyLocked := fun _ => Nat.zero_le _
        unlocked := fun filled => absurd done filled
        used := sound.used
        winners := ?_ }
    intro winner winning
    have won : winningIn winner s.notes = true := by
      simp only [noted, List.map_cons, List.map_nil, List.cons_append, List.nil_append,
        winningIn, ite_self] at winning
      exact winning
    by_cases own : winner = t
    · rw [own, losing] at won
      cases won
    · rw [(noneWinning atLimit).not_winning own] at won
      cases won
  · have below : ¬LockRuns (TwoFA.nextLockedUntil (failures + 1) lockedUntil now) now :=
      fun runs => atLimit ((lockRuns_nextLockedUntil _ unlocked).mp runs)
    rw [if_neg below]
    refine
      { orderly := ⟨trivial, trivial, sound.orderly⟩
        distinct := sound.distinct.erase t
        room := ?_
        tally := ?_
        tallyLocked := fun run => absurd run atLimit
        unlocked := fun _ runs => below (LockRuns.earlier runs past)
        used := sound.used
        winners := ?_ }
    · simp only [noted]
      rcases sound.room with _ | _
      · exact .inl (by omega)
      · exact .inr (by omega)
    · simp only [noted, List.map_cons, List.map_nil, List.cons_append, List.nil_append, wrongSince]
      omega
    · intro winner winning
      have won : winningIn winner s.notes = true := by
        simp only [noted, List.map_cons, List.map_nil, List.cons_append, List.nil_append,
          winningIn, ite_self] at winning
        exact winning
      exact freshIn_mono (by simp) (freshIn_mono (by simp) (sound.winners winner won))

end

/-! ## What the others do -/

/-- What the steps of other clients leave to a client. -/
structure Rely (t : ℕ) (s later : TwoFASystem) : Prop where
  clock : s.now ≤ later.now
  counted : later.counting.count t = s.counting.count t
  winning : winningIn t later.notes = winningIn t s.notes
  fresh : freshIn t later.notes = true → freshIn t s.notes = true ∧
    (LockRuns later.row.lockedUntil later.now →
      later.row.lockedUntil = s.row.lockedUntil)
  unlocked : t ∈ later.counting → LockRuns later.row.lockedUntil later.now →
    LockRuns s.row.lockedUntil s.now

section

variable {s later : TwoFASystem} {t other : ℕ}

theorem Rely.refl (t : ℕ) (s : TwoFASystem) : Rely t s s where
  clock := le_rfl
  counted := rfl
  winning := rfl
  fresh fresh := ⟨fresh, fun _ => rfl⟩
  unlocked _ runs := runs

theorem Rely.counting (rely : Rely t s later) :
    t ∈ later.counting ↔ t ∈ s.counting := by
  rw [← List.count_pos_iff, rely.counted, List.count_pos_iff]

theorem Rely.trans {final : TwoFASystem} (first : Rely t s later)
    (second : Rely t later final) : Rely t s final where
  clock := le_trans first.clock second.clock
  counted := second.counted.trans first.counted
  winning := second.winning.trans first.winning
  fresh fresh := by
    rcases second.fresh fresh with ⟨freshLater, sameFinal⟩
    rcases first.fresh freshLater with ⟨freshSystem, sameLater⟩
    refine ⟨freshSystem, ?_⟩
    intro runs
    have same := sameFinal runs
    rw [same] at runs
    exact same.trans (sameLater (LockRuns.earlier runs second.clock))
  unlocked counting runs :=
    first.unlocked (second.counting.mp counting) (second.unlocked counting runs)

theorem winningIn_others (apart : t ≠ other) (kinds : List TwoFANoteKind) (notes : List TwoFANote) :
    winningIn other (kinds.map (TwoFANote.mk t) ++ notes) = winningIn other notes := by
  induction kinds with
  | nil => rfl
  | cons _ _ ih =>
    simp only [List.map_cons, List.cons_append, winningIn, if_neg apart]
    exact ih

theorem freshIn_others (apart : t ≠ other) (kinds : List TwoFANoteKind) {notes : List TwoFANote}
    (fresh : freshIn other (kinds.map (TwoFANote.mk t) ++ notes) = true) :
    freshIn other notes = true ∧ .locked ∉ kinds := by
  induction kinds with
  | nil => exact ⟨fresh, List.not_mem_nil⟩
  | cons kind _ ih =>
    have foreign : TwoFANote.mk t kind ≠ ⟨other, .observed⟩ := by
      intro same
      exact apart (congrArg TwoFANote.thread same)
    simp only [List.map_cons, List.cons_append, freshIn, if_neg foreign] at fresh
    split at fresh
    · cases fresh
    next notLocked =>
      rcases ih fresh with ⟨freshBefore, noLock⟩
      refine ⟨freshBefore, ?_⟩
      simp only [List.mem_cons, not_or]
      exact ⟨Ne.symm notLocked, noLock⟩

theorem rely_of_notes {kinds : List TwoFANoteKind} (apart : other ≠ t)
    (sound : Sound later) (clock : later.now = s.now)
    (notes : later.notes = kinds.map (TwoFANote.mk t) ++ s.notes)
    (counted : later.counting.count other = s.counting.count other)
    (lock : .locked ∉ kinds → LockRuns later.row.lockedUntil s.now →
      later.row.lockedUntil = s.row.lockedUntil) :
    Rely other s later where
  clock := clock.ge
  counted := counted
  winning := by
    rw [notes]
    exact winningIn_others (Ne.symm apart) kinds s.notes
  fresh fresh := by
    rw [notes] at fresh
    rcases freshIn_others (Ne.symm apart) kinds fresh with ⟨freshBefore, noLock⟩
    rw [clock]
    exact ⟨freshBefore, lock noLock⟩
  unlocked counting runs := absurd runs (sound.unlocked (List.ne_nil_of_mem counting))

theorem rely_elapse (nanos : ℕ) : Rely t s (s.elapse nanos) where
  clock := Int.le_add_of_nonneg_right (Int.natCast_nonneg nanos)
  counted := rfl
  winning := rfl
  fresh fresh := ⟨fresh, fun _ => rfl⟩
  unlocked _ runs := LockRuns.earlier runs (Int.le_add_of_nonneg_right (Int.natCast_nonneg nanos))

end

/-! ## What the calls need -/

/-- The thread may compare a code: it counts none, it has not won, and if its copy is fresh the
row is unlocked. -/
structure Open (t : ℕ) (s : TwoFASystem) : Prop where
  uncounted : t ∉ s.counting
  losing : winningIn t s.notes = false
  unlocked : freshIn t s.notes = true → ¬LockRuns s.row.lockedUntil s.now

def Needs (t : ℕ) (call : TwoFACall) (s : TwoFASystem) : Prop :=
  match call with
  | .validateTOTPCode _ _ | .validateBackupCode _ | .validatePasswordAndHash _ _
  | .useBackupCode _ => Open t s
  | .countFailure failures now nextFailedAttempts nextLockedUntil _ =>
    t ∈ s.counting ∧ winningIn t s.notes = false ∧ now ≤ s.now ∧
      nextFailedAttempts = failures + 1 ∧
      ∃ lockedUntil, ¬LockRuns lockedUntil now ∧
        nextLockedUntil = TwoFA.nextLockedUntil (failures + 1) lockedUntil now
  | .updateUsage failures lockedUntil _ =>
    failures = 0 ∧ lockedUntil = none ∧ winningIn t s.notes = true
  | .reply _ => t ∉ s.counting
  | .getTwoFAByUserId | .now | .findBackupCodes | .selectUsage => True

section

variable {acceptedStep : String → String → ℤ → Option ℤ}
  {verify : String → String → Bool} {s later : TwoFASystem}
  {t other : ℕ}

theorem Open.not_locked (opened : Open t s) (fresh : freshIn t s.notes = true) : s.locked = false :=
  decide_eq_false (opened.unlocked fresh)

theorem Sound.compare (sound : Sound s) (unlocked : s.locked = false) :
    Sound (s.compare t) :=
  sound.plain trivial unlocked

theorem Sound.compareReject (sound : Sound s) (opened : Open t s)
    (fresh : freshIn t s.notes = true) (hasRoom : s.HasRoom) :
    Sound ((s.compare t).reject t) := by
  have unlocked := opened.not_locked fresh
  exact (sound.compare unlocked).reject hasRoom opened.uncounted unlocked

theorem count_reject (apart : other ≠ t) :
    (s.reject t).counting.count other = s.counting.count other :=
  List.count_cons_of_ne (Ne.symm apart)

/-- A step of a thread keeps the invariant and what the others rely on. -/
def Keeping (t : ℕ) (s later : TwoFASystem) : Prop :=
  Sound later ∧ ∀ other, other ≠ t → Rely other s later

theorem keeping_self (sound : Sound s) : Keeping t s s :=
  ⟨sound, fun other _ => Rely.refl other s⟩

theorem keeping_noted {kinds : List TwoFANoteKind} (sound : Sound (s.noted t kinds)) :
    Keeping t s (s.noted t kinds) :=
  ⟨sound, fun _ apart => rely_of_notes apart sound rfl rfl rfl fun _ _ => rfl⟩

theorem keeping_compare (sound : Sound s) (unlocked : s.locked = false) :
    Keeping t s (s.compare t) :=
  keeping_noted (sound.compare unlocked)

theorem keeping_compareReject (sound : Sound s) (opened : Open t s)
    (fresh : freshIn t s.notes = true) (hasRoom : s.HasRoom) :
    Keeping t s ((s.compare t).reject t) := by
  have after := sound.compareReject opened fresh hasRoom
  refine ⟨after, ?_⟩
  intro _ apart
  exact rely_of_notes apart after rfl
    (show _ = [.rejected, .compared s.locked].map _ ++ _ from rfl) (count_reject apart)
    fun _ _ => rfl

theorem keeping_judgeTOTP (sound : Sound s) {secret code : String} (opened : Open t s)
    (care : Careful acceptedStep verify t (.validateTOTPCode secret code) true s) :
    Keeping t s (s.judgeTOTP acceptedStep t secret code).2 := by
  rcases care with ⟨fresh, permitted⟩
  have unlocked := opened.not_locked fresh
  simp only [judgeTOTP]
  cases found : Common.matchedStep acceptedStep secret code s.now with
  | none =>
    rw [found] at permitted
    exact keeping_compareReject sound opened fresh permitted
  | some step =>
    rw [found] at permitted
    have after : Sound ((s.compare t).noted t [.accepted (.timeStep step)]) := by
      refine (sound.compare unlocked).accept t (freshIn_mono (by simp) fresh) permitted ?_
      rintro _ ⟨⟩
    refine ⟨after, ?_⟩
    intro _ apart
    exact rely_of_notes apart after rfl
      (show _ = [.accepted (.timeStep step), .compared s.locked].map _ ++ _ from rfl)
      rfl fun _ _ => rfl

theorem useBackupCode_cases (s : TwoFASystem) (t : ℕ) (id : ℤ) :
    (¬s.Unused id ∧ (s.useBackupCode t id).2 = s.reject t) ∨
      (s.Unused id ∧ (s.useBackupCode t id).2 =
        { s with backupCodes := s.backupCodes.modify id TwoFABackupCode.use }.noted
          t [.accepted (.backupCode id)]) := by
  simp only [useBackupCode, Unused]
  cases found : s.backupCodes.find? id with
  | none => exact .inl ⟨by simp, by simp [updateWhere, found]⟩
  | some row =>
    cases isUsed : row.isUsed with
    | true => exact .inl ⟨by simp [isUsed], by simp [updateWhere, found, isUsed]⟩
    | false =>
      exact .inr ⟨⟨row, rfl, isUsed⟩, by simp [updateWhere, found, isUsed]⟩

theorem not_unused_modify {used id : ℤ}
    (isUsed : ¬{ s with backupCodes := s.backupCodes }.Unused used ∨ used = id) :
    ¬{ s with
      backupCodes := s.backupCodes.modify id TwoFABackupCode.use }.Unused used := by
  rintro ⟨row, found, unused⟩
  simp only at found
  by_cases same : used = id
  · rw [same, find?_modify_self] at found
    rcases Option.map_eq_some_iff.mp found with ⟨_, _, rfl⟩
    cases unused
  · rw [find?_modify_ne _ same] at found
    rcases isUsed with notUnused | same'
    · exact notUnused ⟨row, found, unused⟩
    · exact same same'

theorem keeping_useBackupCode (sound : Sound s) {id : ℤ} (opened : Open t s)
    (fresh : freshIn t s.notes = true) (permitted : s.Unused id ∨ s.HasRoom) :
    Keeping t s (s.useBackupCode t id).2 := by
  rcases useBackupCode_cases s t id with
    ⟨taken, rejected⟩ | ⟨unused, accepted⟩
  · rw [rejected]
    rcases permitted with unused | hasRoom
    · exact absurd unused taken
    · have after := sound.reject hasRoom opened.uncounted (opened.not_locked fresh)
      refine ⟨after, ?_⟩
      intro _ apart
      exact rely_of_notes apart after rfl (show _ = [.rejected].map _ ++ _ from rfl)
        (count_reject apart) fun _ _ => rfl
  · rw [accepted]
    have updated : Sound { s with backupCodes := s.backupCodes.modify id TwoFABackupCode.use } :=
      { sound with
        used := fun other isAccepted => not_unused_modify (.inl (sound.used other isAccepted)) }
    have new : Factor.backupCode id ∉ acceptedFactors s.notes :=
      fun isAccepted => sound.used id isAccepted unused
    have after := updated.accept t fresh new (by
      rintro other ⟨⟩
      exact not_unused_modify (.inr rfl))
    refine ⟨after, ?_⟩
    intro _ apart
    exact rely_of_notes apart after rfl
      (show _ = [.accepted (.backupCode id)].map _ ++ _ from rfl) rfl fun _ _ => rfl

theorem keeping_countFailure (sound : Sound s) {failures : ℕ} {now : ℤ} {lockedUntil : Option ℤ}
    (counting : t ∈ s.counting) (losing : winningIn t s.notes = false) (past : now ≤ s.now)
    (unlocked : ¬LockRuns lockedUntil now)
    (noneWinning : Common.maxFailAttempts ≤ failures + 1 → s.NoneWinning t) :
    Keeping t s (s.countFailure t failures now (failures + 1)
      (TwoFA.nextLockedUntil (failures + 1) lockedUntil now)).2 := by
  by_cases unmoved : s.Unmoved failures now
  · have after := sound.countFailure unmoved counting losing past unlocked noneWinning
    refine ⟨after, ?_⟩
    intro _ apart
    have isNoted : (s.countFailure t failures now (failures + 1)
        (TwoFA.nextLockedUntil (failures + 1) lockedUntil now)).2.notes =
        (.observed :: if LockRuns (TwoFA.nextLockedUntil (failures + 1) lockedUntil now) now
          then [.locked, .counted] else [.counted]).map (TwoFANote.mk t) ++ s.notes := by
      simp only [TwoFASystem.countFailure, if_pos unmoved, noted]
    refine rely_of_notes apart after ?_ isNoted ?_ ?_
    · simp only [TwoFASystem.countFailure, if_pos unmoved, noted]
    · simp only [TwoFASystem.countFailure, if_pos unmoved, noted]
      exact List.count_erase_of_ne apart
    · simp only [TwoFASystem.countFailure, if_pos unmoved, noted]
      intro noLock runs
      have locks := LockRuns.earlier runs past
      simp [if_pos locks] at noLock
  · simp only [TwoFASystem.countFailure, if_neg unmoved]
    exact keeping_self sound

theorem keeping_updateUsage (sound : Sound s) (winning : winningIn t s.notes = true)
    (lastUsedAt : Option ℤ) :
    Keeping t s (s.updateUsage t 0 none lastUsedAt) := by
  have after := sound.updateUsage winning lastUsedAt
  refine ⟨after, ?_⟩
  intro _ apart
  exact rely_of_notes apart after rfl (show _ = [.cleared, .succeeded].map _ ++ _ from rfl) rfl
    fun _ runs => absurd runs (not_lockRuns_none _)

theorem keeping_perform (sound : Sound s) {call : TwoFACall} {isOk : Bool}
    (needs : Needs t call s) (care : Careful acceptedStep verify t call isOk s) :
    Keeping t s (s.perform acceptedStep verify t call isOk).2 := by
  cases call with
  | getTwoFAByUserId =>
    cases isOk with
    | false => exact keeping_self sound
    | true => exact keeping_noted (sound.plain trivial trivial)
  | now => exact keeping_self sound
  | validateTOTPCode _ _ =>
    exact keeping_judgeTOTP sound needs (show Careful acceptedStep verify t _ true s from care)
  | validateBackupCode _ =>
    have unlocked := needs.not_locked care.1
    simp only [perform, if_pos care.2]
    exact keeping_compare sound unlocked
  | findBackupCodes => cases isOk <;> exact keeping_self sound
  | validatePasswordAndHash _ _ =>
    rcases care with ⟨fresh, permitted⟩
    simp only [perform]
    split
    · exact keeping_compare sound (needs.not_locked fresh)
    next none =>
      refine keeping_compareReject sound needs fresh (permitted ?_)
      intro backupCode inCodes
      simp only [List.find?_isSome, not_exists, not_and, Bool.not_eq_true] at none
      exact none backupCode inCodes
  | useBackupCode _ =>
    cases isOk with
    | false => exact keeping_self sound
    | true =>
      rcases care rfl with ⟨fresh, permitted⟩
      exact keeping_useBackupCode sound needs fresh permitted
  | selectUsage => cases isOk <;> exact keeping_self sound
  | countFailure _ _ _ _ _ =>
    rcases needs with ⟨counting, losing, past, rfl, _, unlocked, rfl⟩
    rcases care with ⟨rfl, _, noneWinning⟩
    exact keeping_countFailure sound counting losing past unlocked noneWinning
  | updateUsage _ _ lastUsedAt =>
    rcases needs with ⟨rfl, rfl, winning⟩
    cases isOk with
    | false => exact keeping_noted sound.succeed
    | true => exact keeping_updateUsage sound winning lastUsedAt
  | reply _ => exact keeping_noted (sound.plain trivial (decide_eq_false needs))

end

/-! ## The programs -/

/-- The thread holds a copy: as long as it is fresh, a lock that runs is the copy's own. -/
structure Ready (t : ℕ) (twoFA : TwoFA) (s : TwoFASystem) : Prop where
  uncounted : t ∉ s.counting
  losing : winningIn t s.notes = false
  lock : freshIn t s.notes = true → LockRuns s.row.lockedUntil s.now →
    s.row.lockedUntil = twoFA.lockedUntil

/-- A client that counts its own wrong code. -/
structure Counting (t : ℕ) (s : TwoFASystem) : Prop where
  once : s.counting.count t = 1
  losing : winningIn t s.notes = false
  unlocked : ¬LockRuns s.row.lockedUntil s.now

/-- A client whose code is accepted and that has not cleared the counter. -/
structure Winning (t : ℕ) (s : TwoFASystem) : Prop where
  uncounted : t ∉ s.counting
  winning : winningIn t s.notes = true
  unlocked : freshIn t s.notes = true → ¬LockRuns s.row.lockedUntil s.now

section

variable {s later : TwoFASystem} {t : ℕ} {twoFA : TwoFA}

theorem Rely.not_lockRuns (rely : Rely t s later)
    (unlocked : freshIn t s.notes = true → ¬LockRuns s.row.lockedUntil s.now)
    (fresh : freshIn t later.notes = true) :
    ¬LockRuns later.row.lockedUntil later.now := by
  intro runs
  rcases rely.fresh fresh with ⟨freshBefore, same⟩
  have sameLock := same runs
  rw [sameLock] at runs
  exact unlocked freshBefore (LockRuns.earlier runs rely.clock)

theorem Open.stable (opened : Open t s) (rely : Rely t s later) :
    Open t later where
  uncounted counted := opened.uncounted (rely.counting.mp counted)
  losing := rely.winning.trans opened.losing
  unlocked := rely.not_lockRuns opened.unlocked

theorem Ready.stable (ready : Ready t twoFA s) (rely : Rely t s later) :
    Ready t twoFA later where
  uncounted counted := ready.uncounted (rely.counting.mp counted)
  losing := rely.winning.trans ready.losing
  lock fresh runs := by
    rcases rely.fresh fresh with ⟨freshBefore, same⟩
    have sameLock := same runs
    rw [sameLock] at runs
    exact sameLock.trans (ready.lock freshBefore (LockRuns.earlier runs rely.clock))

theorem Counting.mem (counting : Counting t s) : t ∈ s.counting := by
  rw [← List.count_pos_iff, counting.once]
  exact Nat.one_pos

theorem Counting.stable (counting : Counting t s) (rely : Rely t s later) :
    Counting t later where
  once := rely.counted.trans counting.once
  losing := rely.winning.trans counting.losing
  unlocked runs := counting.unlocked (rely.unlocked (rely.counting.mpr counting.mem) runs)

theorem Winning.stable (winning : Winning t s) (rely : Rely t s later) :
    Winning t later where
  uncounted counted := winning.uncounted (rely.counting.mp counted)
  winning := rely.winning.trans winning.winning
  unlocked := rely.not_lockRuns winning.unlocked

theorem Open.ready (opened : Open t s) (twoFA : TwoFA) : Ready t twoFA s where
  uncounted := opened.uncounted
  losing := opened.losing
  lock fresh runs := absurd runs (opened.unlocked fresh)

end

section

variable {acceptedStep : String → String → ℤ → Option ℤ}
  {verify : String → String → Bool} {s later : TwoFASystem}
  {t : ℕ} {twoFA : TwoFA} {Result : Type}

/-- A program makes careful calls only when it knows what they need. -/
abbrev Prepared (acceptedStep : String → String → ℤ → Option ℤ) (verify : String → String → Bool)
    (t : ℕ) (post : Result → TwoFASystem → Prop) (program : TwoFAProgram Result)
    (s : TwoFASystem) : Prop :=
  Keeps (fun t call succeeds s =>
      perform acceptedStep verify t call succeeds s)
    (Rely t) (Careful acceptedStep verify t) (Needs t) t post
    program s

@[simp]
theorem perform_now (isOk : Bool) :
    s.perform acceptedStep verify t .now isOk = (s.now, s) :=
  rfl

@[simp]
theorem perform_countFailure (failures : ℕ) (now : ℤ) (failed : ℕ)
    (nextLockedUntil : Option ℤ) (tries : ℕ) :
    s.perform acceptedStep verify t (.countFailure failures now failed nextLockedUntil tries) true =
      (some (s.countFailure t failures now failed nextLockedUntil).1,
      (s.countFailure t failures now failed nextLockedUntil).2) :=
  rfl

@[simp]
theorem perform_validateBackupCode {code : String} (isOk : Bool)
    (wellFormed : Common.validateBackupCode code = true) :
    s.perform acceptedStep verify t (.validateBackupCode code) isOk = (true, s.compare t) := by
  simp only [perform, wellFormed, if_true]

@[simp]
theorem perform_validatePasswordAndHash (parsed : String)
    (backupCodes : List TwoFABackupCode) (isOk : Bool) :
    s.perform acceptedStep verify t (.validatePasswordAndHash parsed backupCodes) isOk =
      (backupCodes.find? fun backupCode =>
          verify parsed backupCode.codeHash,
        if (backupCodes.find? fun backupCode =>
          verify parsed backupCode.codeHash).isSome
        then s.compare t else (s.compare t).reject t) :=
  rfl

theorem prep_bind {First : Type} {middle : First → TwoFASystem → Prop}
    {post : Result → TwoFASystem → Prop} {first : TwoFAProgram First}
    {rest : First → TwoFAProgram Result} (prepared : Prepared acceptedStep verify t middle first s)
    (goes : ∀ val later, middle val later → Prepared acceptedStep verify t post (rest val) later) :
    Prepared acceptedStep verify t post (first >>= rest) s := by
  refine Keeps.bind (Rely.refl t) ?_
  exact Keeps.mono prepared goes

theorem prep_isLocked (ready : Ready t twoFA s) :
    Prepared acceptedStep verify t
      (fun locked after => Ready t twoFA after ∧ (locked = false → Open t after))
      twoFA.isLocked s := by
  simp only [TwoFA.isLocked]
  cases isLock : twoFA.lockedUntil with
  | none =>
    intro _ rely
    have readyLater := ready.stable rely
    refine ⟨readyLater, ?_⟩
    intro _
    refine ⟨readyLater.uncounted, readyLater.losing, ?_⟩
    intro fresh runs
    have none := readyLater.lock fresh runs
    rw [none, isLock] at runs
    exact not_lockRuns_none _ runs
  | some _ =>
    intro _ rely
    refine ⟨trivial, ?_⟩
    intro _ _ later more
    have readyLater := (ready.stable rely).stable more
    refine ⟨readyLater, ?_⟩
    intro passed
    refine ⟨readyLater.uncounted, readyLater.losing, ?_⟩
    intro fresh runs
    have own := readyLater.lock fresh runs
    rw [own, isLock] at runs
    rcases LockRuns.earlier runs more.clock with ⟨_, isTime, before⟩
    cases isTime
    exact of_decide_eq_false passed before

theorem prep_countOnce {tries : ℕ} (counting : Counting t s)
    (again : tries ≠ 0 → ∀ later, Counting t later →
      Prepared acceptedStep verify t (fun result after => Ready t result.1 after)
        (twoFA.countFailedAttempt tries) later) :
    Prepared acceptedStep verify t (fun result after => Ready t result.1 after)
      (twoFA.countFailedAttempt (tries + 1)) s := by
  intro reading rely
  refine ⟨trivial, ?_⟩
  intro _ readCareful
  cases readCareful
  have countingReading := counting.stable rely
  intro timing toTiming
  refine ⟨trivial, ?_⟩
  intro _ _
  have unlocked : ¬LockRuns reading.row.lockedUntil timing.now :=
    fun runs => countingReading.unlocked (LockRuns.earlier runs toTiming.clock)
  change Prepared acceptedStep verify t _
    (if LockRuns reading.row.lockedUntil timing.now then _ else _) timing
  rw [if_neg unlocked]
  intro writing toWriting
  have countingWriting := (countingReading.stable toTiming).stable toWriting
  refine ⟨⟨countingWriting.mem, countingWriting.losing, toWriting.clock, rfl,
    reading.row.lockedUntil, unlocked, rfl⟩, ?_⟩
  intro _ writeCareful
  rcases writeCareful with ⟨rfl, last, _⟩
  simp only [perform_now]
  by_cases unmoved : writing.Unmoved reading.row.failedAttempts timing.now
  · simp only [perform_countFailure, TwoFASystem.countFailure, if_pos unmoved]
    intro _ toFinal
    refine Ready.stable ⟨?_, ?_, fun _ _ => rfl⟩ toFinal
    · simp only [noted, ← List.count_pos_iff, List.count_erase_self, countingWriting.once]
      decide
    · have losing := countingWriting.losing
      split <;> simpa [noted, winningIn] using losing
  · have remains : tries ≠ 0 := fun none => unmoved (last none)
    simp only [perform_countFailure, TwoFASystem.countFailure, if_neg unmoved]
    exact again remains writing countingWriting

theorem prep_countFailedAttempt (tries : ℕ) (counting : Counting t s) :
    Prepared acceptedStep verify t (fun result after => Ready t result.1 after)
      (twoFA.countFailedAttempt (tries + 1)) s := by
  induction tries generalizing s with
  | zero => exact prep_countOnce counting fun absurdity => absurd rfl absurdity
  | succ _ ih =>
    exact prep_countOnce counting fun _ _ countingLater =>
      ih countingLater

theorem open_compare (opened : Open t s) : Open t (s.compare t) where
  uncounted := opened.uncounted
  losing := by simpa [TwoFASystem.compare, noted, winningIn] using opened.losing
  unlocked fresh := by
    apply opened.unlocked
    simpa [TwoFASystem.compare, noted, freshIn] using fresh

theorem counting_reject (opened : Open t s) (unlocked : ¬LockRuns s.row.lockedUntil s.now) :
    Counting t (s.reject t) where
  once := by
    simp only [TwoFASystem.reject, noted, List.count_cons_self,
      List.count_eq_zero.mpr opened.uncounted]
  losing := by simpa [TwoFASystem.reject, noted, winningIn] using opened.losing
  unlocked := unlocked

theorem winning_accept {factor : Factor} (opened : Open t s)
    (unlocked : ¬LockRuns s.row.lockedUntil s.now) :
    Winning t (s.noted t [.accepted factor]) where
  uncounted := opened.uncounted
  winning := by simp [noted, winningIn]
  unlocked _ := unlocked

theorem prep_recordFailure (counting : Counting t s) :
    Prepared acceptedStep verify t
      (fun result after => Ready t result.1 after) twoFA.recordFailure s := by
  have counts : Prepared acceptedStep verify t
      (fun counted after => Ready t counted.1 after) twoFA.incrementFailedAttempts
      s := by
    simp only [TwoFA.incrementFailedAttempts, if_neg twoFA.stored]
    exact prep_countFailedAttempt 4 counting
  refine prep_bind counts ?_
  intro _ _ ready _ rely
  exact ready.stable rely

theorem prep_recordSuccess (winning : Winning t s) :
    Prepared acceptedStep verify t
      (fun result after => Ready t result.1 after) twoFA.recordSuccess s := by
  intro timing toTiming
  refine ⟨trivial, ?_⟩
  intro _ _
  simp only [TwoFA.updateUsageState, if_neg twoFA.stored]
  intro writing toWriting
  have winningWriting := (winning.stable toTiming).stable toWriting
  refine ⟨⟨rfl, rfl, winningWriting.winning⟩, ?_⟩
  intro isOk _
  have opened : Open t (writing.perform acceptedStep verify t
        (.updateUsage 0 none (some timing.now)) isOk).2 := by
    cases isOk with
    | false =>
      refine ⟨winningWriting.uncounted, by simp [perform, noted, winningIn], ?_⟩
      intro fresh
      apply winningWriting.unlocked
      simpa [perform, noted, freshIn] using fresh
    | true =>
      refine ⟨winningWriting.uncounted, ?_, fun _ => not_lockRuns_none _⟩
      simp [perform, TwoFASystem.updateUsage, noted, winningIn]
  intro _ toFinal
  exact (opened.stable toFinal).ready _

theorem prep_validateTOTPAndUpdateUsage (ready : Ready t twoFA s) (code : String) :
    Prepared acceptedStep verify t (fun result after => Ready t result.1 after)
      (twoFA.validateTOTPAndUpdateUsage code) s := by
  refine prep_bind (prep_isLocked ready) ?_
  rintro isLocked _ ⟨readyLater, openLater⟩
  cases isLocked with
  | true => exact fun _ rely => readyLater.stable rely
  | false =>
    intro comparing rely
    have opened := (openLater rfl).stable rely
    refine ⟨opened, ?_⟩
    intro _ care
    rcases care with ⟨fresh, _⟩
    have unlocked := opened.unlocked fresh
    simp only [perform, judgeTOTP]
    cases found : Common.matchedStep acceptedStep twoFA.secret code comparing.now with
    | none => exact prep_recordFailure (counting_reject (open_compare opened) unlocked)
    | some _ => exact prep_recordSuccess (winning_accept (open_compare opened) unlocked)

def Judged (t : ℕ) (result : Except TwoFAError Bool) (s : TwoFASystem) : Prop :=
  match result with
  | .error _ => Open t s
  | .ok false => Counting t s
  | .ok true => Winning t s

theorem Judged.stable {result : Except TwoFAError Bool} (judged : Judged t result s)
    (rely : Rely t s later) : Judged t result later := by
  rcases result with _ | valid
  · exact Open.stable judged rely
  · cases valid with
    | false => exact Counting.stable judged rely
    | true => exact Winning.stable judged rely

theorem judged_useBackupCode (opened : Open t s) (id : ℤ) (fresh : freshIn t s.notes = true) :
    Judged t (.ok (decide ((s.useBackupCode t id).1 = 1))) (s.useBackupCode t id).2 := by
  have unlocked := opened.unlocked fresh
  simp only [TwoFASystem.useBackupCode]
  split
  next hits =>
    simp only [hits, decide_true]
    have openUpdated : Open t { s with
        backupCodes := (s.backupCodes.updateWhere id (!·.isUsed) TwoFABackupCode.use).table } :=
      ⟨opened.uncounted, opened.losing, opened.unlocked⟩
    exact winning_accept openUpdated unlocked
  next unaffected =>
    simp only [unaffected, decide_false]
    exact counting_reject opened unlocked

theorem prep_validateBackupCode (opened : Open t s) (code : String) :
    Prepared acceptedStep verify t (Judged t) (validateBackupCode code)
      s := by
  intro _ toChecking
  have openChecking := opened.stable toChecking
  refine ⟨openChecking, ?_⟩
  rintro _ ⟨_, wellFormed⟩
  simp only [perform_validateBackupCode _ wellFormed]
  intro finding toFinding
  have openFinding := (open_compare openChecking).stable toFinding
  refine ⟨trivial, ?_⟩
  intro found _
  cases found with
  | false => exact fun _ rely => openFinding.stable rely
  | true =>
    intro _ toMatching
    have openMatching := openFinding.stable toMatching
    refine ⟨openMatching, ?_⟩
    rintro _ ⟨fresh, _⟩
    have unlocked := openMatching.unlocked fresh
    cases isFound : ((finding.backupCodes.rows.filter (!·.isUsed)).find? fun backupCode =>
        verify (Common.normalizeBackupCode code) backupCode.codeHash) with
    | none =>
      simp only [perform_validatePasswordAndHash, isFound, Option.isSome_none,
        Bool.false_eq_true, if_false]
      intro _ rely
      exact (counting_reject (open_compare openMatching) unlocked).stable rely
    | some _ =>
      simp only [perform_validatePasswordAndHash, isFound, Option.isSome_some, if_true]
      intro _ toTaking
      have openTaking := (open_compare openMatching).stable toTaking
      refine ⟨openTaking, ?_⟩
      intro isOk care
      cases isOk with
      | false => exact fun _ rely => openTaking.stable rely
      | true =>
        intro _ rely
        exact (judged_useBackupCode openTaking _ (care rfl).1).stable rely

theorem prep_validateBackupCodeAndUpdateUsage (ready : Ready t twoFA s) (code : String) :
    Prepared acceptedStep verify t (fun result after => Ready t result.1 after)
      (twoFA.validateBackupCodeAndUpdateUsage code) s := by
  refine prep_bind (prep_isLocked ready) ?_
  rintro isLocked _ ⟨readyLater, openLater⟩
  cases isLocked with
  | true => exact fun _ rely => readyLater.stable rely
  | false =>
    refine prep_bind (prep_validateBackupCode (openLater rfl) code) ?_
    intro result _ judged
    rcases result with _ | valid
    · exact fun _ rely => (Open.stable judged rely).ready twoFA
    · cases valid with
      | false => exact prep_recordFailure judged
      | true => exact prep_recordSuccess judged

theorem prep_validate (ready : Ready t twoFA s) (attempt : Attempt) :
    Prepared acceptedStep verify t
      (fun result after => Ready t result.1 after) (twoFA.validate attempt) s := by
  cases attempt with
  | totp code => exact prep_validateTOTPAndUpdateUsage ready code
  | backupCode code => exact prep_validateBackupCodeAndUpdateUsage ready code

theorem prep_validateAll (attempts : List Attempt) (ready : Ready t twoFA s) :
    Prepared acceptedStep verify t (fun _ _ => True) (twoFA.validateAll attempts) s := by
  induction attempts generalizing twoFA s with
  | nil => exact fun _ _ => trivial
  | cons attempt _ ih =>
    refine prep_bind (prep_validate ready attempt) ?_
    intro _ _ readyLater _ rely
    have readyReplying := readyLater.stable rely
    refine ⟨readyReplying.uncounted, ?_⟩
    intro succeeds _
    apply ih
    refine ⟨readyReplying.uncounted, ?_, ?_⟩
    · simpa [perform, noted, winningIn] using readyReplying.losing
    · intro fresh
      apply readyReplying.lock
      simpa [perform, noted, freshIn] using fresh

theorem prep_secondFactor (attempts : List Attempt) (uncounted : t ∉ s.counting)
    (losing : winningIn t s.notes = false) :
    Prepared acceptedStep verify t (fun _ _ => True) (secondFactor attempts)
      s := by
  intro _ rely
  refine ⟨trivial, ?_⟩
  intro isOk _
  cases isOk with
  | false => exact fun _ _ => trivial
  | true =>
    apply prep_validateAll
    refine ⟨fun counted => uncounted (rely.counting.mp counted), ?_, fun _ _ => rfl⟩
    have losingLoading := rely.winning.trans losing
    simpa [perform, noted, winningIn] using losingLoading

end

end TwoFASystem

/-! ## Runs -/

abbrev TwoFAPool := Pool TwoFASystem TwoFACall TwoFACall.Answer Unit

namespace TwoFAPool

variable (acceptedStep : String → String → ℤ → Option ℤ) (verify : String → String → Bool)

def start (now : ℤ) (row : TwoFA) (backupCodes : Table TwoFABackupCode)
    (reqs : ℕ → List Attempt) : TwoFAPool where
  state := TwoFASystem.start now row backupCodes
  threads t := secondFactor (reqs t)

def next : TwoFAPool → Concurrent.Action Bool ℕ → TwoFAPool :=
  Pool.step (fun t call succeeds s =>
    s.perform acceptedStep verify t call succeeds) TwoFASystem.elapse

def Careful : TwoFAPool → Concurrent.Action Bool ℕ → Prop :=
  Pool.Allowed (TwoFASystem.Careful acceptedStep verify) fun _ _ => True

instance (pool : TwoFAPool) (action : Concurrent.Action Bool ℕ) :
    Decidable (Careful acceptedStep verify pool action) :=
  Pool.decidableAllowed _ _ pool action

end TwoFAPool

section

variable {acceptedStep : String → String → ℤ → Option ℤ}
  {verify : String → String → Bool} {now : ℤ} {row : TwoFA}
  {backupCodes : Table TwoFABackupCode} {reqs : ℕ → List Attempt} {pool : TwoFAPool}

/-- In every run of careful steps, guessing is bounded. -/
theorem guessing_bounded (reached : Reachable (TwoFAPool.next acceptedStep verify)
      (TwoFAPool.Careful acceptedStep verify)
      (TwoFAPool.start now row backupCodes reqs) pool) :
    pool.state.BruteForceBounded := by
  have start : (TwoFAPool.start now row backupCodes reqs).Holding
      (fun t call succeeds s =>
        s.perform acceptedStep verify t call succeeds)
      TwoFASystem.Sound TwoFASystem.Rely
      (TwoFASystem.Careful acceptedStep verify) TwoFASystem.Needs
      (fun _ _ _ => True) :=
    ⟨TwoFASystem.sound_start now row backupCodes, fun t =>
      TwoFASystem.prep_secondFactor _ List.not_mem_nil rfl⟩
  have holding := Pool.holding_reachable reached TwoFASystem.Rely.refl
    (fun _ _ _ _ first second => first.trans second)
    (fun t call succeeds s sound needs careful =>
      TwoFASystem.keeping_perform sound needs careful)
    (fun nanos s sound _ =>
      ⟨sound.elapse nanos, fun _ => TwoFASystem.rely_elapse nanos⟩) start
  exact bruteForceBounded_of_orderly holding.state.orderly

end

/-! ## Sample runs -/

def sampleTOTP (passcode _ : String) (now : ℤ) : Option ℤ :=
  let counter := now / (30 * Common.nanosecondsPerSecond)
  [counter, counter + 1, counter - 1].find? fun step =>
    passcode = if step = 0 then "000000" else "111111"

def sampleFactor : TwoFA where
  id := 1
  userId := 7
  secret := "secret"
  failedAttempts := 0
  lockedUntil := none
  lastUsedAt := none
  stored := by decide

def sampleBackupCodes : Table TwoFABackupCode :=
  ⟨[⟨1, "ABCD-1234", false⟩], by decide⟩

def sampleAttempts (t : ℕ) : List Attempt :=
  if t < 6 then [.totp "999999"]
  else if t < 8 then [.totp "000000"]
  else if t = 8 then [.backupCode "ABC"]
  else [.backupCode "abcd1234"]

def sampleFactors : TwoFAPool :=
  TwoFAPool.start 0 sampleFactor sampleBackupCodes sampleAttempts

def afterSteps (actions : List (Concurrent.Action Bool ℕ)) : TwoFAPool :=
  actions.foldl (TwoFAPool.next sampleTOTP (· == ·)) sampleFactors

def stepsOf (t count : ℕ) : List (Concurrent.Action Bool ℕ) :=
  List.replicate count (.perform t true)

/-- Five wrong codes one after the other lock the row; when the lock is over, a backup code is
used. -/
def carefulGuesses : List (Concurrent.Action Bool ℕ) :=
  stepsOf 0 6 ++ stepsOf 1 6 ++ stepsOf 2 6 ++ stepsOf 3 6 ++ stepsOf 4 6 ++
    [.occur 300000000000] ++ stepsOf 9 9

theorem guessing_bounded_sample : (afterSteps carefulGuesses).state.BruteForceBounded :=
  guessing_bounded (Reachable.of_run carefulGuesses sampleFactors (by decide))

/-- Six clients compare their wrong codes before the first one is counted. -/
def racingGuesses : List (Concurrent.Action Bool ℕ) :=
  stepsOf 0 2 ++ stepsOf 1 2 ++ stepsOf 2 2 ++ stepsOf 3 2 ++ stepsOf 4 2 ++ stepsOf 5 2

/-- A client's code is accepted, five wrong codes lock the row, and the client's success clears
the lock. -/
def clearingSuccess : List (Concurrent.Action Bool ℕ) :=
  stepsOf 6 2 ++ stepsOf 0 6 ++ stepsOf 1 6 ++ stepsOf 2 6 ++ stepsOf 3 6 ++ stepsOf 4 5 ++
    stepsOf 6 2

/-- Wrong codes in parallel pass the limit, a success clears a lock that was set after its copy
was loaded, a time step is accepted twice, and a malformed backup code is not counted. -/
theorem guessing_unbounded :
    ¬(afterSteps racingGuesses).state.BruteForceBounded ∧
      ¬(afterSteps clearingSuccess).state.BruteForceBounded ∧
      ¬(afterSteps (stepsOf 6 2 ++ stepsOf 7 2)).state.BruteForceBounded ∧
      ¬(afterSteps (stepsOf 8 3)).state.BruteForceBounded := by
  refine ⟨fun guessing => ?_, fun guessing => ?_, fun guessing => ?_, fun guessing => ?_⟩
  · have six := guessing.bounded [] (afterSteps racingGuesses).state.notes [] (by simp) (by decide)
    revert six
    decide
  · have kept := guessing.kept 6 []
      ((afterSteps clearingSuccess).state.notes.drop 1 |>.dropLast) [] (by decide)
      (by decide)
    revert kept
    decide
  · have once := guessing.once
    revert once
    decide
  · have counted := guessing.counted
    revert counted
    decide

end NewApi.Auth
