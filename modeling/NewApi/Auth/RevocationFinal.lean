import NewApi.Auth.LoginSession

/-!
# What a revocation leaves behind

When the row is revoked, an active snapshot of it may still be in Redis or in the hands of a
client. From then on nobody reads the session as active.
-/

namespace NewApi.Auth

open Concurrent (Keeps Pool Program)
open Transition

/-! ## Reading the notes -/

def beganRevoked (t : ℕ) : List SessionNote → Bool
  | [] => false
  | note :: earlier =>
    if note = ⟨t, .began⟩ then earlier.any (·.kind = .returnedRevoked)
    else beganRevoked t earlier

namespace SessionSystem

/-- No request that begins after a revocation has returned reads the session as active. -/
def RevocationFinal (s : SessionSystem) : Prop :=
  ∀ t after window before,
    s.notes = after ++ ⟨t, .returnedActive⟩ :: (window ++ ⟨t, .began⟩ :: before) →
      ∀ note ∈ before, note.kind ≠ .returnedRevoked

/-- No active snapshot is visible in Redis, and each that a thread holds expires before the
entry that is. -/
def Covered (s : SessionSystem) : Prop :=
  (∀ cached ∈ s.cached, cached.entry.status ≠ .active) ∧
    ∀ snap ∈ s.snapshots, snap.2 ≤ unixMilli s.now ∨
      ∃ cached ∈ s.cached, snap.2 ≤ cached.expires + 1
deriving Decidable

/-- The tombstone of a revocation is written, or nothing is left that it would have to hold
off; so it is too when a bulk revocation finds its candidate revoked by somebody else. -/
def Careful (_ : ℕ) (call : SessionCall) (pick : SessionChoice) (s : SessionSystem) :
    Prop :=
  match call with
  | .writeCache entry _ true =>
    ((pick.succeeds ∨ pick.applied) ∧ ¬s.Refuses entry) ∨ s.Covered
  | .findActive => pick.succeeds → s.row.status ≠ .active → s.Covered
  | _ => True

instance (t : ℕ) (call : SessionCall) (pick : SessionChoice) (s : SessionSystem) :
    Decidable (Careful t call pick s) := by
  cases call with
  | writeCache entry expiry tombstone =>
    cases tombstone with
    | true => exact inferInstanceAs (Decidable ((_ ∧ _) ∨ s.Covered))
    | false => exact inferInstanceAs (Decidable True)
  | findActive => exact inferInstanceAs (Decidable (_ → _ → s.Covered))
  | _ => exact inferInstanceAs (Decidable True)

/-! ## Orderly notes -/

/-- A read returns the session as active only if no revocation had returned when it began. -/
def Orderly : List SessionNote → Prop
  | [] => True
  | note :: earlier =>
    (note.kind = .returnedActive → beganRevoked note.thread earlier = false) ∧ Orderly earlier

end SessionSystem

section Notes

open SessionSystem (Orderly)

variable {notes : List SessionNote} {t : ℕ}

theorem SessionSystem.Orderly.suffix {after before : List SessionNote}
    (orderly : Orderly (after ++ before)) : Orderly before := by
  induction after with
  | nil => exact orderly
  | cons _ _ ih => exact ih orderly.2

theorem exists_returnedRevoked (began : beganRevoked t notes = true) :
    ∃ note ∈ notes, note.kind = .returnedRevoked := by
  induction notes with
  | nil => cases began
  | cons _ _ ih =>
    simp only [beganRevoked] at began
    split at began
    · rcases List.any_eq_true.mp began with ⟨returned, isEarlier, revoked⟩
      exact ⟨returned, List.mem_cons_of_mem _ isEarlier, of_decide_eq_true revoked⟩
    · rcases ih began with ⟨returned, isEarlier, revoked⟩
      exact ⟨returned, List.mem_cons_of_mem _ isEarlier, revoked⟩

theorem not_mem_before_of_fresh {window before : List SessionNote}
    (fresh : beganRevoked t (window ++ ⟨t, .began⟩ :: before) = false) :
    ∀ note ∈ before, note.kind ≠ .returnedRevoked := by
  induction window with
  | nil =>
    simp only [List.nil_append, beganRevoked, if_true] at fresh
    intro note isBefore revoked
    have found : before.any (·.kind = .returnedRevoked) = true :=
      List.any_eq_true.mpr ⟨note, isBefore, decide_eq_true revoked⟩
    rw [found] at fresh
    cases fresh
  | cons _ window ih =>
    simp only [List.cons_append, beganRevoked] at fresh
    split at fresh
    · intro note isBefore revoked
      have found : (window ++ ⟨t, .began⟩ :: before).any (·.kind = .returnedRevoked) = true :=
        List.any_eq_true.mpr ⟨note, List.mem_append_right _ (List.mem_cons_of_mem _ isBefore),
          decide_eq_true revoked⟩
      rw [found] at fresh
      cases fresh
    · exact ih fresh

theorem revocationFinal_of_orderly {s : SessionSystem} (orderly : Orderly s.notes) :
    s.RevocationFinal := by
  intro _ _ _ _ isNotes
  rw [isNotes] at orderly
  exact not_mem_before_of_fresh (orderly.suffix.1 rfl)

end Notes

/-! ## Times -/

theorem unixMilli_mono {first later : ℤ} (ordered : first ≤ later) :
    unixMilli first ≤ unixMilli later :=
  Int.ediv_le_ediv (by decide) ordered

section

variable {redisTTL : ℤ}

theorem userCacheTTLSeconds_pos : 0 < userCacheTTLSeconds redisTTL := by
  simp only [userCacheTTLSeconds]
  split <;> omega

theorem denyExpiration_pos {expiresAt computed : ℤ} :
    0 < denyExpiration redisTTL expiresAt computed := by
  simp only [denyExpiration]
  split <;> split <;> omega

theorem le_denyExpiration {now computed expiresAt : ℤ} (past : computed ≤ now) :
    unixMilli (min (now + userCacheTTLSeconds redisTTL * second) (expiresAt * second)) ≤
      unixMilli now + denyExpiration redisTTL expiresAt computed + 1 := by
  have pos := @userCacheTTLSeconds_pos redisTTL
  simp only [denyExpiration, unixMilli, second, millisecond]
  generalize userCacheTTLSeconds redisTTL = seconds at pos ⊢
  by_cases ended : min (expiresAt * 1000000000 - computed) (seconds * 1000000000) ≤ 0
  · simp only [ended, if_true]
    split <;> omega
  · simp only [ended, if_false]
    split <;> omega

end

/-! ## Settled revocations -/

namespace SessionSystem

/-- The row is revoked, and Redis shows no active copy of it. -/
structure Settled (s : SessionSystem) : Prop where
  revoked : s.row.status ≠ .active
  covered : s.Covered

/-- Snapshots are bounded in time, and a revocation that has returned is settled. -/
structure Sound (redisTTL : ℤ) (s : SessionSystem) : Prop where
  orderly : Orderly s.notes
  bounded : ∀ snap ∈ s.snapshots, snap.2 ≤ unixMilli
    (min (s.now + userCacheTTLSeconds redisTTL * second) (s.row.expiresAt * second))
  final : (∃ note ∈ s.notes, note.kind = .returnedRevoked) → s.Settled

theorem sound_start (redisTTL now : ℤ) (row : UserSession) :
    Sound redisTTL (start now row) where
  orderly := trivial
  bounded snap holds := by cases holds
  final returned := by
    rcases returned with ⟨_, isNote, _⟩
    cases isNote

section

variable {redisTTL : ℤ} {s later : SessionSystem} {t other : ℕ}

theorem cached_eq_some {cached : CachedSession} :
    s.cached = some cached ↔
      s.hash = some cached ∧ unixMilli s.now ≤ cached.expires := by
  simp [SessionSystem.cached, Option.filter_eq_some_iff]

theorem Covered.mono (covered : s.Covered) (sameNow : later.now = s.now)
    (sameHash : later.hash = s.hash)
    (fewer : ∀ snap ∈ later.snapshots, snap ∈ s.snapshots) : later.Covered := by
  have sameCached : later.cached = s.cached := by
    simp only [SessionSystem.cached, sameNow, sameHash]
  refine ⟨?_, ?_⟩
  · rw [sameCached]
    exact covered.1
  · rw [sameCached, sameNow]
    exact fun snap holds => covered.2 snap (fewer snap holds)

theorem Settled.elapse (settled : Settled s) (nanos : ℕ) :
    Settled (s.elapse nanos) := by
  have ordered : unixMilli s.now ≤ unixMilli (s.now + nanos) :=
    unixMilli_mono (by omega)
  refine ⟨settled.revoked, ?_, ?_⟩
  · intro cached isCached
    rcases cached_eq_some.mp isCached with ⟨isHash, visible⟩
    exact settled.covered.1 cached (cached_eq_some.mpr ⟨isHash, ordered.trans visible⟩)
  · intro snap holds
    rcases settled.covered.2 snap holds with past | ⟨cached, isCached, outlives⟩
    · exact .inl (past.trans ordered)
    · rcases cached_eq_some.mp isCached with ⟨isHash, _⟩
      by_cases visible : unixMilli (s.now + nanos) ≤ cached.expires
      · exact .inr ⟨cached, cached_eq_some.mpr ⟨isHash, visible⟩, outlives⟩
      · refine .inl ?_
        change snap.2 ≤ unixMilli (s.now + nanos)
        omega

/-- What the script needs of an entry: an active one is a snapshot that the thread holds, and
the lifetime of a deny entry has been computed for the session. -/
structure Writable (redisTTL : ℤ) (t : ℕ) (entry : UserSessionCacheEntry)
    (expiry : ℤ) (s : SessionSystem) : Prop where
  active : entry.status = .active →
    ∃ expires, (t, expires) ∈ s.snapshots ∧ expiry ≤ expires
  deny : entry.status ≠ .active → ∃ computed ≤ s.now,
    expiry = denyExpiration redisTTL s.row.expiresAt computed

theorem dropSnapshot_fewer (snap : ℕ × ℤ)
    (holds : snap ∈ (s.dropSnapshot t).snapshots) : snap ∈ s.snapshots :=
  (List.mem_filter.mp holds).1

theorem covered_writeDeny (sound : Sound redisTTL s) {entry : UserSessionCacheEntry} {expiry : ℤ}
    (writable : Writable redisTTL t entry expiry s) (deny : entry.status ≠ .active) :
    ({ s with hash := s.written entry expiry }.dropSnapshot t).Covered := by
  rcases writable.deny deny with ⟨_, past, isExpiration⟩
  have pos : 0 < expiry := by
    rw [isExpiration]
    exact denyExpiration_pos
  have isWritten : s.written entry expiry = some ⟨entry, unixMilli s.now + expiry⟩ := if_neg deny
  have visible : ({ s with hash := s.written entry expiry }.dropSnapshot
      t).cached = some ⟨entry, unixMilli s.now + expiry⟩ := by
    refine cached_eq_some.mpr ⟨isWritten, ?_⟩
    change unixMilli s.now ≤ unixMilli s.now + expiry
    omega
  refine ⟨?_, ?_⟩
  · intro _ isCached
    rw [visible] at isCached
    cases isCached
    exact deny
  · intro snap holds
    refine .inr ⟨_, visible, ?_⟩
    refine (sound.bounded snap (List.mem_filter.mp holds).1).trans ?_
    rw [isExpiration]
    exact le_denyExpiration past

theorem Settled.writeCache (settled : Settled s) (sound : Sound redisTTL s)
    {entry : UserSessionCacheEntry} {expiry : ℤ} (writable : Writable redisTTL t entry expiry s) :
    Settled (s.writeCache t entry expiry).2 := by
  simp only [SessionSystem.writeCache]
  split
  · exact ⟨settled.revoked, settled.covered.mono rfl rfl dropSnapshot_fewer⟩
  next accepted =>
    by_cases live : entry.status = .active
    · have empty : s.cached = none := by
        cases isCached : s.cached with
        | none => rfl
        | some cached =>
          exact absurd (.inl ⟨live, cached, isCached, settled.covered.1 cached isCached⟩) accepted
      rcases writable.active live with ⟨_, holds, bound⟩
      have past : ∀ snap ∈ s.snapshots, snap.2 ≤ unixMilli s.now := by
        intro snap isSnap
        rcases settled.covered.2 snap isSnap with past | ⟨cached, isCached, _⟩
        · exact past
        · rw [empty] at isCached
          cases isCached
      have gone : s.written entry expiry = none := by
        simp only [written, if_pos live, if_pos (bound.trans (past _ holds))]
      refine ⟨settled.revoked, ?_, fun snap isSnap =>
        .inl (past snap (List.mem_filter.mp isSnap).1)⟩
      intro _ isCached
      rcases cached_eq_some.mp isCached with ⟨isHash, _⟩
      rw [show _ = s.written entry expiry from rfl, gone] at isHash
      cases isHash
    · exact ⟨settled.revoked, covered_writeDeny sound writable live⟩

end

end SessionSystem

end NewApi.Auth
