import NewApi.Auth.RevocationFinal

/-!
# Revocation is final in careful runs

What a step of one thread leaves of what the others rely on, and from it, program by program,
that a revocation is settled when it returns.
-/

namespace NewApi.Auth

open Concurrent (Action Keeps Pool Program)
open Transition

namespace SessionSystem

/-! ## Steps -/

section Steps

variable (ttl : ℤ)

def Needs (t : ℕ) (call : SessionCall) (s : SessionSystem) : Prop :=
  match call with
  | .writeCache entry expiry tombstone =>
    Writable ttl t entry expiry s ∧
      (tombstone = true → entry.status ≠ .active ∧ s.row.status ≠ .active)
  | .find _ (some due) =>
    due ≤ s.now + userCacheTTLSeconds ttl * second
  | .findForRotation _ due _ _ =>
    due ≤ s.now + userCacheTTLSeconds ttl * second
  | .returnRevoked => s.Settled
  | .returnActive => beganRevoked t s.notes = false
  | _ => True

/-- What every step keeps. -/
structure Moves (s later : SessionSystem) : Prop where
  now : s.now ≤ later.now
  expiresAt : later.row.expiresAt = s.row.expiresAt
  revoked : s.row.status ≠ .active → later.row.status ≠ .active
  sound : Sound ttl s → Sound ttl later
  settled : Sound ttl s → s.Settled → later.Settled

/-- What every step but the start of a request keeps for its own thread. -/
structure Follows (t : ℕ) (s later : SessionSystem) : Prop extends
    Moves ttl s later where
  began : beganRevoked t later.notes = beganRevoked t s.notes

/-- What the steps of other clients leave to a client. -/
structure Rely (t : ℕ) (s later : SessionSystem) : Prop extends
    Follows ttl t s later where
  held : ∀ expires, (t, expires) ∈ s.snapshots → (t, expires) ∈ later.snapshots

variable {ttl : ℤ} {s later final : SessionSystem} {t other : ℕ}

theorem Moves.refl (s : SessionSystem) : Moves ttl s s :=
  ⟨le_refl _, rfl, id, id, fun _ settled => settled⟩

theorem Moves.trans (first : Moves ttl s later) (second : Moves ttl later final) :
    Moves ttl s final where
  now := first.now.trans second.now
  expiresAt := second.expiresAt.trans first.expiresAt
  revoked revoked := second.revoked (first.revoked revoked)
  sound sound := second.sound (first.sound sound)
  settled sound settled := second.settled (first.sound sound) (first.settled sound settled)

theorem Follows.refl (t : ℕ) (s : SessionSystem) :
    Follows ttl t s s :=
  ⟨Moves.refl s, rfl⟩

theorem Follows.trans (first : Follows ttl t s later) (second : Follows ttl t later final) :
    Follows ttl t s final :=
  ⟨first.toMoves.trans second.toMoves, second.began.trans first.began⟩

theorem Rely.refl (t : ℕ) (s : SessionSystem) : Rely ttl t s s :=
  ⟨Follows.refl t s, fun _ holds => holds⟩

theorem Rely.trans (first : Rely ttl t s later) (second : Rely ttl t later final) :
    Rely ttl t s final :=
  ⟨first.toFollows.trans second.toFollows,
    fun expires holds => second.held expires (first.held expires holds)⟩

def Records (call : SessionCall) : SessionNoteKind → Prop
  | .began => call = .begin
  | .returnedRevoked => call = .returnRevoked
  | .returnedActive => call = .returnActive
  | _ => True

def deadline? : SessionCall → Option ℤ
  | .find _ limit => limit
  | .findForRotation _ limit _ _ => some limit
  | _ => none

/-- What a call does to the row, the caches and the notes. -/
inductive Outcome (t : ℕ) (call : SessionCall) (s : SessionSystem) :
    SessionSystem → Prop where
  | updated (row : UserSession) (expiresAt : row.expiresAt = s.row.expiresAt)
      (revoked : s.row.status ≠ .active → row.status ≠ .active) :
      Outcome t call s { s with row := row }
  | noted (row : UserSession) (kind : SessionNoteKind)
      (expiresAt : row.expiresAt = s.row.expiresAt)
      (revoked : s.row.status ≠ .active → row.status ≠ .active)
      (records : Records call kind) :
      Outcome t call s ({ s with row := row }.noted t kind)
  | held (due : ℤ) (reads : deadline? call = some due) :
      Outcome t call s (s.hold t due)
  | looked (due : ℤ) (presented : UserSession.Presented)
      (reads : deadline? call = some due) :
      Outcome t call s ((s.hold t due).noted t (.looked presented))
  | wrote (entry : UserSessionCacheEntry) (expiry : ℤ) (tombstone : Bool)
      (isCall : call = .writeCache entry expiry tombstone) :
      Outcome t call s (s.writeCache t entry expiry).2
  | dropped : Outcome t call s (s.dropSnapshot t)

theorem Outcome.same {call : SessionCall} : Outcome t call s s :=
  .updated s.row rfl id

theorem Outcome.marked {call : SessionCall} (kind : SessionNoteKind)
    (records : Records call kind) : Outcome t call s (s.noted t kind) :=
  .noted s.row kind rfl id records

theorem outcome_revokeIf {call : SessionCall} (records : Records call .revoked)
    (cond : Bool) (now : ℤ) (reason : String) :
    Outcome t call s (s.revokeIf t cond now reason).2 := by
  simp only [revokeIf]
  split
  · exact .noted _ .revoked rfl (fun _ => by simp [UserSession.revoke]) records
  · exact .same

theorem outcome_perform (t : ℕ) (call : SessionCall) (pick : SessionChoice) (s : SessionSystem) :
    Outcome t call s (s.perform t call pick).2 := by
  cases call with
  | begin => exact .marked .began rfl
  | returnRevoked => exact .marked .returnedRevoked rfl
  | returnActive => exact .marked .returnedActive rfl
  | returnRefreshed secret result => exact .marked (.returnedRefreshed secret result) trivial
  | now | readCache | issueAccessToken => exact .same
  | writeCache entry expiry tombstone =>
    exact attempt_holds (.wrote entry expiry tombstone rfl) .dropped
  | find _ limit =>
    refine query_holds ?_ (.marked .unread trivial)
    cases limit with
    | none => exact .same
    | some due => exact .held due rfl
  | findForRotation _ limit shown now =>
    refine query_holds ?_ (.marked .unread trivial)
    simp only [look]
    split
    next sess _ => exact .looked limit (sess.presented shown now) rfl
    next => exact .marked .unread trivial
  | countActive _ _ => exact query_holds .same (.marked .unread trivial)
  | rotate _ shown nextHash _ _ =>
    refine attempt_holds ?_ .same
    simp only [rotate]
    split
    · exact .noted _ (.rotated shown nextHash) rfl id trivial
    · exact .same
  | revokeReused _ now => exact attempt_holds (outcome_revokeIf trivial _ now _) .same
  | revoke now reason => exact attempt_holds (outcome_revokeIf trivial _ now reason) .same
  | advance _ _ _ =>
    refine attempt_holds ?_ .same
    simp only [advance]
    split
    · exact .updated _ rfl id
    · exact .same
  | findCandidate _ _ _ | findActive | getUserCache | getUserById => exact query_holds .same .same

theorem hold_cases {due : ℤ} {snap : ℕ × ℤ} (holds : snap ∈ (s.hold t due).snapshots) :
    snap ∈ s.snapshots ∨ (s.row.status = .active ∧
      snap = (t, unixMilli (min due (s.row.expiresAt * second)))) := by
  simp only [hold] at holds
  split at holds
  next live =>
    rcases List.mem_cons.mp holds with isNew | isOld
    · exact .inr ⟨live, isNew⟩
    · exact .inl (List.mem_filter.mp isOld).1
  next => exact .inl (dropSnapshot_fewer snap holds)

@[simp] theorem hold_now (due : ℤ) : (s.hold t due).now = s.now := by
  simp only [hold]
  split <;> rfl

@[simp] theorem hold_hash (due : ℤ) : (s.hold t due).hash = s.hash := by
  simp only [hold]
  split <;> rfl

variable (entry : UserSessionCacheEntry)

include entry

@[simp] theorem writeCache_notes (expiry : ℤ) :
    (s.writeCache t entry expiry).2.notes = s.notes := by
  simp only [writeCache]
  split <;> rfl

@[simp] theorem writeCache_row (expiry : ℤ) :
    (s.writeCache t entry expiry).2.row = s.row := by
  simp only [writeCache]
  split <;> rfl

@[simp] theorem writeCache_now (expiry : ℤ) :
    (s.writeCache t entry expiry).2.now = s.now := by
  simp only [writeCache]
  split <;> rfl

theorem writeCache_snapshots (expiry : ℤ) :
    (s.writeCache t entry expiry).2.snapshots = (s.dropSnapshot t).snapshots := by
  simp only [writeCache]
  split <;> rfl

omit entry

variable {call : SessionCall}

variable (out : Outcome t call s later)

include out

theorem Outcome.now : later.now = s.now := by
  cases out <;> simp [SessionSystem.noted, dropSnapshot]

theorem Outcome.expiresAt : later.row.expiresAt = s.row.expiresAt := by
  cases out with
  | updated _ expiresAt _ => exact expiresAt
  | noted _ _ expiresAt _ _ => exact expiresAt
  | _ => simp [SessionSystem.noted, dropSnapshot]

theorem Outcome.revoked (isRevoked : s.row.status ≠ .active) : later.row.status ≠ .active := by
  cases out with
  | updated _ _ revoked => exact revoked isRevoked
  | noted _ _ _ revoked _ => exact revoked isRevoked
  | _ => simpa [SessionSystem.noted, dropSnapshot] using isRevoked

theorem Outcome.notes :
    later.notes = s.notes ∨ ∃ kind, Records call kind ∧ later.notes = ⟨t, kind⟩ :: s.notes := by
  cases out with
  | noted _ kind _ _ records => exact .inr ⟨kind, records, rfl⟩
  | looked _ presented _ => exact .inr ⟨.looked presented, trivial, by simp [SessionSystem.noted]⟩
  | _ => simp [dropSnapshot]

theorem Outcome.snapshots {snap : ℕ × ℤ} (holds : snap ∈ later.snapshots) :
    snap ∈ s.snapshots ∨ (s.row.status = .active ∧ ∃ due, deadline? call = some due ∧
        snap = (t, unixMilli (min due (s.row.expiresAt * second)))) := by
  cases out with
  | updated _ _ _ | noted _ _ _ _ _ => exact .inl holds
  | held due reads =>
    exact (hold_cases holds).imp_right fun new => ⟨new.1, due, reads, new.2⟩
  | looked due _ reads =>
    exact (hold_cases holds).imp_right fun new => ⟨new.1, due, reads, new.2⟩
  | wrote _ _ _ _ =>
    rw [writeCache_snapshots] at holds
    exact .inl (dropSnapshot_fewer snap holds)
  | dropped => exact .inl (dropSnapshot_fewer snap holds)

theorem Outcome.held_other (differ : other ≠ t) {expires : ℤ}
    (holds : (other, expires) ∈ s.snapshots) : (other, expires) ∈ later.snapshots := by
  have kept : (other, expires) ∈ (s.dropSnapshot t).snapshots :=
    List.mem_filter.mpr ⟨holds, by simpa using differ⟩
  cases out with
  | updated _ _ _ | noted _ _ _ _ _ => exact holds
  | held _ _ =>
    simp only [hold]
    split
    · exact List.mem_cons_of_mem _ kept
    · exact kept
  | looked _ _ _ =>
    simp only [SessionSystem.noted, hold]
    split
    · exact List.mem_cons_of_mem _ kept
    · exact kept
  | wrote _ _ _ _ =>
    rw [writeCache_snapshots]
    exact kept
  | dropped => exact kept

theorem Outcome.settled (sound : Sound ttl s) (needs : Needs ttl t call s) (settled : s.Settled) :
    later.Settled := by
  have fewer : ∀ snap ∈ later.snapshots, snap ∈ s.snapshots := by
    intro _ holds
    rcases out.snapshots holds with isOld | ⟨live, _⟩
    · exact isOld
    · exact absurd live settled.revoked
  refine ⟨out.revoked settled.revoked, ?_⟩
  cases out with
  | wrote _ _ _ isCall =>
    subst isCall
    exact (settled.writeCache sound needs.1).covered
  | updated _ _ _ | noted _ _ _ _ _ | dropped => exact settled.covered.mono rfl rfl fewer
  | held _ _ => exact settled.covered.mono (hold_now _) (hold_hash _) fewer
  | looked _ _ _ =>
    exact settled.covered.mono (hold_now _) (hold_hash _) fewer

theorem Outcome.sound (sound : Sound ttl s) (needs : Needs ttl t call s) :
    Sound ttl later where
  orderly := by
    rcases out.notes with notes | ⟨kind, records, notes⟩
    · rw [notes]
      exact sound.orderly
    · rw [notes]
      refine ⟨?_, sound.orderly⟩
      rintro rfl
      cases records
      exact needs
  bounded := by
    intro snap holds
    rw [out.now, out.expiresAt]
    rcases out.snapshots holds with isOld | ⟨_, due, reads, rfl⟩
    · exact sound.bounded snap isOld
    · refine unixMilli_mono (min_le_min_right _ ?_)
      cases call with
      | find _ limit =>
        change limit = some due at reads
        subst reads
        exact needs
      | findForRotation _ _ _ _ =>
        cases reads
        exact needs
      | _ => cases reads
  final := by
    rintro ⟨note, isNote, revoked⟩
    have settled : s.Settled := by
      rcases out.notes with notes | ⟨_, records, notes⟩
      · rw [notes] at isNote
        exact sound.final ⟨note, isNote, revoked⟩
      · rw [notes] at isNote
        rcases List.mem_cons.mp isNote with rfl | isOld
        · cases revoked
          cases records
          exact needs
        · exact sound.final ⟨note, isOld, revoked⟩
    exact out.settled sound needs settled

theorem Outcome.began (apart : call ≠ .begin ∨ other ≠ t) :
    beganRevoked other later.notes = beganRevoked other s.notes := by
  rcases out.notes with notes | ⟨_, records, notes⟩
  · rw [notes]
  · rw [notes]
    refine if_neg ?_
    rintro ⟨⟩
    rcases apart with notBegin | differ
    · exact notBegin records
    · exact differ rfl

omit out

theorem moves_perform (sound : Sound ttl s) (needs : Needs ttl t call s) (pick : SessionChoice) :
    Moves ttl s (s.perform t call pick).2 where
  now := (outcome_perform t call pick s).now.ge
  expiresAt := (outcome_perform t call pick s).expiresAt
  revoked := (outcome_perform t call pick s).revoked
  sound _ := (outcome_perform t call pick s).sound sound needs
  settled _ := (outcome_perform t call pick s).settled sound needs

theorem follows_perform (sound : Sound ttl s) (needs : Needs ttl t call s) (pick : SessionChoice)
    (notBegin : call ≠ .begin) :
    Follows ttl t s (s.perform t call pick).2 :=
  ⟨moves_perform sound needs pick, (outcome_perform t call pick s).began (.inl notBegin)⟩

theorem keeping_perform (sound : Sound ttl s) (needs : Needs ttl t call s) (pick : SessionChoice) :
    Sound ttl (s.perform t call pick).2 ∧ ∀ other, other ≠ t →
      Rely ttl other s (s.perform t call pick).2 := by
  have out := outcome_perform t call pick s
  refine ⟨out.sound sound needs, ?_⟩
  intro _ differ
  exact ⟨⟨moves_perform sound needs pick, out.began (.inr differ)⟩,
    fun _ holds => out.held_other differ holds⟩

theorem rely_elapse (nanos : ℕ) :
    Rely ttl t s (s.elapse nanos) where
  now := by
    change s.now ≤ s.now + nanos
    omega
  expiresAt := rfl
  revoked := id
  began := rfl
  held _ := id
  settled _ settled := settled.elapse nanos
  sound sound := by
    refine ⟨sound.orderly, ?_, fun returned => (sound.final returned).elapse nanos⟩
    intro snap holds
    refine (sound.bounded snap holds).trans (unixMilli_mono (min_le_min_right _ ?_))
    change s.now + _ ≤ s.now + nanos + _
    omega

theorem keeping_elapse (sound : Sound ttl s) (nanos : ℕ) :
    Sound ttl (s.elapse nanos) ∧ ∀ t, Rely ttl t s (s.elapse nanos) := by
  have rely : ∀ t, Rely ttl t s (s.elapse nanos) := fun _ => rely_elapse nanos
  exact ⟨(rely 0).sound sound, rely⟩

end Steps

/-! ## The programs of one thread -/

section Programs

variable {ttl : ℤ} {base s later : SessionSystem} {t : ℕ}

abbrev Prepared {Result : Type} (ttl : ℤ) (t : ℕ)
    (post : Result → SessionSystem → Prop) (program : SessionProgram Result)
    (s : SessionSystem) : Prop :=
  Keeps (fun t call pick s => s.perform t call pick) (Rely ttl t) (Careful t) (Needs ttl t) t
    post program s

abbrev Following {Result : Type} (ttl : ℤ) (t : ℕ) (base : SessionSystem)
    (program : SessionProgram Result) (s : SessionSystem) : Prop :=
  Prepared ttl t (fun _ after => Follows ttl t base after ∧ True) program s

/-- What is read as active was not revoked when the request began. -/
abbrev Reading {Failure Value : Type} (ttl : ℤ) (t : ℕ) (base : SessionSystem)
    (program : SessionProgram (Except Failure Value)) (s : SessionSystem) : Prop :=
  Prepared ttl t (fun result after => Follows ttl t base after ∧
    (result.isOk → beganRevoked t base.notes = false)) program s

variable {Result Value : Type} {post : Result → SessionSystem → Prop}

theorem prep_bind {middle : Value → SessionSystem → Prop} {first : SessionProgram Value}
    {rest : Value → SessionProgram Result} (prepared : Prepared ttl t middle first s)
    (goes : ∀ val later, middle val later → Prepared ttl t post (rest val) later) :
    Prepared ttl t post (first >>= rest) s :=
  Keeps.bind (Rely.refl t) (prepared.mono goes)

variable {entry : UserSessionCacheEntry} {pick : SessionChoice}
  {sess : UserSession} {now : ℤ} {reason : String} {rows : ℕ}

variable (along : Follows ttl t base s)

include along

theorem prep_done {result : Result} {holds : Result → Prop} (ends : holds result) :
    Prepared ttl t (fun result after => Follows ttl t base after ∧ holds result) (.done result) s :=
  fun _ rely => ⟨along.trans rely.toFollows, ends⟩

theorem following {result : Result} : Following ttl t base (.done result) s :=
  prep_done along trivial

theorem reading_failed {Failure : Type} {err : Failure} :
    Reading ttl t base (.done (.error err : Except Failure Value)) s :=
  prep_done along (by simp [Except.isOk, Except.toBool])

theorem prep_now {next : ℤ → SessionProgram Result}
    (goes : ∀ later, Rely ttl t s later → Follows ttl t base later →
        Prepared ttl t post (next later.now) later) :
    Prepared ttl t post (askSession .now >>= next) s := by
  intro later rely
  exact ⟨trivial, fun _ _ => goes later rely (along.trans rely.toFollows)⟩

theorem prep_unixNow {next : ℤ → SessionProgram Result}
    (goes : ∀ later, Rely ttl t s later → Follows ttl t base later →
        Prepared ttl t post (next (unix later.now)) later) :
    Prepared ttl t post (unixNow >>= next) s :=
  prep_now along goes

theorem prep_deadline {next : ℤ → SessionProgram Result} (goes : ∀ later, Follows ttl t base later →
      ∀ limit, (∀ final, Rely ttl t later final →
        limit ≤ final.now + userCacheTTLSeconds ttl * second) →
          Prepared ttl t post (next limit) later) :
    Prepared ttl t post (userSessionCacheDeadline ttl >>= next) s := by
  refine prep_now along ?_
  intro later _ followsLater
  refine goes later followsLater _ ?_
  intro _ rely
  exact Int.add_le_add_right rely.now _

omit along

theorem prep_begin {next : Unit → SessionProgram Result} (sound : Sound ttl s)
    (goes : ∀ later, Sound ttl later → Prepared ttl t post (next ()) later) :
    Prepared ttl t post (askSession .begin >>= next) s := by
  intro beginning rely
  refine ⟨trivial, ?_⟩
  intro pick _
  have needs : Needs ttl t .begin beginning := trivial
  exact goes _ ((moves_perform (rely.sound sound) needs pick).sound (rely.sound sound))

variable (sound : Sound ttl base)

include sound along

theorem prep_call {call : SessionCall} {next : call.Answer → SessionProgram Result}
    (notBegin : call ≠ .begin) (needed : ∀ later, Rely ttl t s later → Needs ttl t call later)
    (goes : ∀ pick later, Rely ttl t s later → Careful t call pick later →
      Follows ttl t base (later.perform t call pick).2 →
        Prepared ttl t post (next (later.perform t call pick).1) (later.perform t call pick).2) :
    Prepared ttl t post (askSession call >>= next) s := by
  intro later rely
  refine ⟨needed later rely, ?_⟩
  intro pick care
  have toLater := along.trans rely.toFollows
  exact goes pick later rely care
    (toLater.trans (follows_perform (toLater.sound sound) (needed later rely) pick notBegin))

/-! ### The cache -/

omit sound along in
theorem settled_tombstone (sound : Sound ttl s) {expiry : ℤ}
    (needs : Needs ttl t (.writeCache entry expiry true) s)
    (care : Careful t (.writeCache entry expiry true) pick s) :
    (s.perform t (.writeCache entry expiry true) pick).2.Settled := by
  rcases needs with ⟨writable, revoked⟩
  rcases revoked rfl with ⟨deny, isRevoked⟩
  rcases care with ⟨applied, accepted⟩ | covered
  · have isWritten : (s.perform t (.writeCache entry expiry true) pick).2 =
        { s with hash := s.written entry expiry }.dropSnapshot t := by
      simp only [perform, attempt, if_pos applied, writeCache, if_neg accepted]
    rw [isWritten]
    exact ⟨isRevoked, covered_writeDeny sound writable deny⟩
  · exact (outcome_perform t _ pick s).settled sound ⟨writable, revoked⟩ ⟨isRevoked, covered⟩

theorem prep_denyCache (tombstone : Bool) (deny : entry.status ≠ .active)
    (expiresAt : entry.expiresAt = base.row.expiresAt)
    (revoked : tombstone = true → s.row.status ≠ .active) :
    Prepared ttl t (fun _ after => Follows ttl t base after ∧
        (tombstone = true → after.Settled)) (writeDenySessionCache ttl entry tombstone) s := by
  refine prep_now along ?_
  intro timing toTiming timed writing toWriting
  have toFollows := timed.trans toWriting.toFollows
  have needs : Needs ttl t (.writeCache entry
      (denyExpiration ttl entry.expiresAt timing.now) tombstone) writing := by
    refine ⟨⟨fun live => absurd live deny, fun _ => ⟨timing.now, toWriting.now, ?_⟩⟩, ?_⟩
    · rw [expiresAt, toFollows.expiresAt]
    · exact fun isTombstone => ⟨deny, toWriting.revoked (toTiming.revoked (revoked isTombstone))⟩
  refine ⟨needs, ?_⟩
  intro pick care _ toFinal
  have soundWriting := toFollows.sound sound
  have written := follows_perform soundWriting needs pick (by simp)
  refine ⟨(toFollows.trans written).trans toFinal.toFollows, ?_⟩
  rintro rfl
  exact toFinal.settled (written.sound soundWriting) (settled_tombstone soundWriting needs care)

theorem prep_activeCache {limit : ℤ} (live : entry.status = .active)
    (held : (t, unixMilli (min limit (entry.expiresAt * second))) ∈ s.snapshots) :
    Following ttl t base (writeActiveSessionCache entry limit) s := by
  refine prep_now along ?_
  intro _ toTiming along
  split
  · exact following along
  split
  · exact following along
  split
  · exact following along
  refine prep_call along sound (by simp) ?_ ?_
  · intro _ toWriting
    refine ⟨⟨fun _ => ⟨_, toWriting.held _ (toTiming.held _ held), le_refl _⟩, ?_⟩, ?_⟩
    · exact fun deny => absurd live deny
    · rintro ⟨⟩
  · intro pick writing _ _ along
    split
    · exact following along
    refine prep_now along ?_
    intro completing _ along
    split
    · exact following along
    split
    · exact following along
    · exact following along

theorem prep_confirmSnapshot (sess : UserSession) :
    Following ttl t base (confirmUserSessionActiveSnapshot sess) s := by
  simp only [confirmUserSessionActiveSnapshot]
  split
  · exact following along
  refine prep_unixNow along ?_
  intro timing _ along
  refine prep_call along sound (by simp) (fun _ _ => trivial) ?_
  intro pick counting _ _ along
  split
  · exact following along
  split
  · exact following along
  · exact following along

theorem prep_cacheActiveSnapshot {limit : ℤ} (live : sess.status = .active)
    (held : (t, unixMilli (min limit (sess.expiresAt * second))) ∈ s.snapshots) :
    Following ttl t base (cacheActiveSnapshot ttl sess limit) s := by
  simp only [cacheActiveSnapshot, writeUserSessionCache]
  rw [if_pos (show sess.cacheEntry.status = .active from live)]
  refine prep_bind (prep_activeCache along sound live held) ?_
  rintro _ _ ⟨along, _⟩
  split
  · refine prep_bind (prep_confirmSnapshot along sound sess) ?_
    rintro _ _ ⟨along, _⟩
    split
    · exact following along
    · exact following along
  · exact following along
  · exact following along

/-! ### Reads -/

theorem fresh_of_unsettled (notSettled : ¬s.Settled) : beganRevoked t base.notes = false := by
  cases began : beganRevoked t base.notes with
  | false => rfl
  | true =>
    rw [← along.began] at began
    exact absurd ((along.sound sound).final (exists_returnedRevoked began)) notSettled

omit sound along

theorem find_answer {userID limit : Option ℤ} (gives : (s.perform t (.find userID limit) pick).1 =
      some (some sess)) : pick.succeeds = true ∧ sess = s.row := by
  simp only [perform, query, found] at gives
  split at gives
  next isOk =>
    refine ⟨isOk, ?_⟩
    split at gives
    · cases gives
      rfl
    · cases gives
  next => cases gives

theorem findForRotation_answer {userID limit : ℤ} {shown : String}
    (gives : (s.perform t (.findForRotation userID limit shown now) pick).1 = some (some sess)) :
    sess = s.row ∧
      (s.perform t (.findForRotation userID limit shown now) pick).2 =
        (s.hold t limit).noted t (.looked (sess.presented shown now)) := by
  simp only [perform, query, look, found] at gives ⊢
  split at gives
  next isOk =>
    split at gives
    next isFound =>
      split at isFound
      next =>
        cases isFound
        cases gives
        simp [isOk]
      next => cases isFound
    next => cases gives
  next => cases gives

theorem hold_held (t : ℕ) (limit : ℤ) (live : s.row.status = .active) :
    (t, unixMilli (min limit (s.row.expiresAt * second))) ∈ (s.hold t limit).snapshots := by
  simp only [hold, if_pos live]
  exact List.mem_cons_self

include sound along

theorem prep_getUserSessionCache (sid : String) :
    Reading ttl t base (getUserSessionCache sid) s := by
  refine prep_call along sound (by simp) (fun _ _ => trivial) ?_
  intro pick reading toReading _ reads
  split
  · exact reading_failed reads
  next entry gives =>
    split
    · exact reading_failed reads
    refine prep_unixNow reads ?_
    intro timing _ timed
    split
    · exact reading_failed timed
    next accepted =>
      refine prep_done timed fun _ => ?_
      have live : entry.status = .active := by
        by_contra deny
        exact accepted (.inl deny)
      have notSettled : ¬reading.Settled := by
        intro settled
        simp only [perform] at gives
        split at gives
        · rcases Option.map_eq_some_iff.mp gives with ⟨cached, isCached, rfl⟩
          exact settled.covered.1 cached isCached live
        · cases gives
      exact fresh_of_unsettled (along.trans toReading.toFollows) sound notSettled

theorem prep_fillUserSessionCache : Reading ttl t base (fillUserSessionCache ttl) s := by
  refine prep_deadline along ?_
  intro _ toCapturing limit captured
  refine prep_call toCapturing sound (by simp) captured ?_
  intro pick reading toReading _ along
  split
  · exact reading_failed along
  · exact reading_failed along
  next gives =>
    rcases find_answer gives with ⟨isOk, rfl⟩
    have isRead : (reading.perform t (.find none (some limit)) pick).2 = reading.hold t limit := by
      simp only [perform, query, isOk, if_true]
    rw [isRead] at along ⊢
    have reads := toCapturing.trans toReading.toFollows
    refine prep_unixNow along ?_
    intro _ toTiming timed
    split
    next live =>
      have held := toTiming.held _ (hold_held t limit live.1)
      have fresh := fresh_of_unsettled reads sound fun settled => settled.revoked live.1
      refine (prep_cacheActiveSnapshot timed sound live.1 held).mono ?_
      rintro _ _ ⟨followsAfter, _⟩
      exact ⟨followsAfter, fun _ => fresh⟩
    next =>
      refine prep_bind (prep_denyCache timed sound false (by simp) reads.expiresAt (by simp)) ?_
      rintro _ _ ⟨along, _⟩
      exact reading_failed along

theorem prep_getUserSessionCached (sid : String) :
    Reading ttl t base (getUserSessionCached ttl sid) s := by
  simp only [getUserSessionCached]
  split
  · exact reading_failed along
  refine prep_bind (prep_getUserSessionCache along sound sid) ?_
  rintro _ _ ⟨along, fresh⟩
  split
  · exact prep_done along fun _ => fresh rfl
  · exact reading_failed along
  · exact prep_fillUserSessionCache along sound

/-! ### Revocations -/

variable (expiresAt : sess.expiresAt = base.row.expiresAt)

include expiresAt in
theorem prep_writeDenyFence (now : ℤ) (reason : String) :
    Following ttl t base (writeUserSessionDenyFence ttl sess .revoking now reason) s := by
  refine (prep_denyCache along sound false (by simp) expiresAt (by simp)).mono ?_
  rintro _ _ ⟨along, _⟩
  exact ⟨along, trivial⟩

include expiresAt in
theorem prep_tombstone (revoked : s.row.status ≠ .active) (now : ℤ) (reason : String) :
    Prepared ttl t (fun _ after => Follows ttl t base after ∧ after.Settled)
      (writeUserSessionCache ttl (sess.revoke now reason).cacheEntry none true) s := by
  refine (prep_denyCache along sound true (by simp [UserSession.revoke,
    UserSession.cacheEntry]) expiresAt fun _ => revoked).mono ?_
  rintro _ _ ⟨along, settled⟩
  exact ⟨along, settled rfl⟩

theorem following_returnRevoked {next : Unit → SessionProgram Result} (settled : s.Settled)
    (goes : ∀ later, Follows ttl t base later → Following ttl t base (next ()) later) :
    Following ttl t base (askSession .returnRevoked >>= next) s := by
  intro returning rely
  have toReturning := along.trans rely.toFollows
  have needs : Needs ttl t .returnRevoked returning :=
    rely.settled (along.sound sound) settled
  refine ⟨needs, ?_⟩
  intro pick _
  have returned := follows_perform (toReturning.sound sound) needs pick (by simp)
  exact goes _ (toReturning.trans returned)

include expiresAt in
theorem prep_finishRevocation (revoked : s.row.status ≠ .active) (now : ℤ) (reason : String) :
    Following ttl t base (finishRevocation ttl sess now reason) s := by
  refine prep_bind (prep_tombstone along sound expiresAt revoked now reason) ?_
  rintro _ _ ⟨along, settled⟩
  exact following_returnRevoked along sound settled fun _ along => following along

omit sound along

theorem revokeIf_revoked {cond : Bool} (gives : (s.revokeIf t cond now reason).1 = rows)
    (hits : rows ≠ 0) :
    (s.revokeIf t cond now reason).2.row.status ≠ .active := by
  simp only [revokeIf] at gives ⊢
  split at gives
  next isTrue => simp [isTrue, noted, UserSession.revoke]
  next => exact absurd gives.symm hits

theorem attempt_answer {out : Value × SessionSystem} {err : SessionSystem} {val : Value}
    (gives : (attempt pick out err).1 = some val) :
    out.1 = val ∧ (attempt pick out err).2 = out.2 := by
  simp only [attempt] at gives ⊢
  split at gives
  next isOk =>
    cases gives
    simp [isOk]
  next => cases gives

theorem revoke_revoked (gives : (s.perform t (.revoke now reason) pick).1 = some rows)
    (hits : rows ≠ 0) :
    (s.perform t (.revoke now reason) pick).2.row.status ≠ .active := by
  simp only [perform] at gives ⊢
  rcases attempt_answer gives with ⟨isRows, isAfter⟩
  rw [isAfter]
  exact revokeIf_revoked isRows hits

theorem rotate_held {userID graceEnd : ℤ} {shown nextHash : String} {snap : ℕ × ℤ}
    (gives : (s.perform t (.rotate userID shown nextHash now graceEnd) pick).1 = some rows)
    (held : snap ∈ s.snapshots) :
    snap ∈ (s.perform t (.rotate userID shown nextHash now graceEnd) pick).2.snapshots := by
  simp only [perform] at gives ⊢
  rw [(attempt_answer gives).2]
  simp only [rotate]
  split <;> exact held

include sound along

include expiresAt in
theorem prep_revokeReusedSession (userID now : ℤ) :
    Following ttl t base (revokeReusedSession ttl userID sess now) s := by
  refine prep_bind (prep_writeDenyFence along sound expiresAt now _) ?_
  rintro _ _ ⟨along, _⟩
  split
  · exact following along
  refine prep_call along sound (by simp) (fun _ _ => trivial) ?_
  intro pick revoking toRevoking _ along
  split
  · exact following along
  next gives =>
    split
    · exact following along
    next hits =>
      have revoked : (revoking.perform t (.revokeReused userID now) pick).2.row.status ≠
          .active := by
        simp only [perform] at gives ⊢
        rcases attempt_answer gives with ⟨isRows, isAfter⟩
        rw [isAfter]
        exact revokeIf_revoked isRows hits
      refine prep_bind (prep_finishRevocation along sound expiresAt revoked now _) ?_
      rintro _ _ ⟨along, _⟩
      exact following along

/-- The loop of a rotation does not bring a revoked session back. -/
theorem prep_rotateTries (userID now grace : ℤ) (shown nextHash : String) (tries : ℕ) :
    Following ttl t base (rotateTries ttl userID shown nextHash now grace tries) s := by
  induction tries generalizing s with
  | zero => exact following along
  | succ _ ih =>
    refine prep_deadline along ?_
    intro _ toCapturing limit captured
    refine prep_call toCapturing sound (by simp) captured ?_
    intro pick reading toReading _ along
    split
    · exact following along
    · exact following along
    next gives =>
      rcases findForRotation_answer gives with ⟨rfl, isRead⟩
      rw [isRead] at along ⊢
      have expiresAt : reading.row.expiresAt = base.row.expiresAt :=
        toReading.expiresAt.trans toCapturing.expiresAt
      split
      · exact following along
      next active =>
        have live : reading.row.Active now := not_not.mp active
        split
        · refine prep_call along sound (by simp) (fun _ _ => trivial) ?_
          intro pick rotating toRotating _ along
          split
          · exact following along
          next gives =>
            split
            · exact ih along
            next =>
              have held := toRotating.held _ (hold_held t limit live.1)
              have heldAfter := rotate_held gives held
              refine prep_bind (prep_cacheActiveSnapshot along sound live.1 heldAfter) ?_
              rintro _ _ ⟨along, _⟩
              split
              · exact following along
              · exact following along
        split
        · exact following along
        split
        · exact following along
        · refine prep_bind (prep_revokeReusedSession along sound expiresAt userID now) ?_
          rintro _ _ ⟨along, _⟩
          exact following along

theorem prep_rotateRefresh (userID : ℤ) (sid shown nextHash : String) (now grace : ℤ) :
    Following ttl t base (rotateUserSessionRefresh ttl userID sid shown nextHash now grace) s := by
  simp only [rotateUserSessionRefresh]
  split
  · exact following along
  split
  · refine prep_unixNow along ?_
    intro timing _ along
    split
    · exact following along
    · exact prep_rotateTries along sound userID _ grace shown nextHash 3
  · change Prepared _ _ _ (if grace < 0 then _ else _) _
    split
    · exact following along
    · exact prep_rotateTries along sound userID now grace shown nextHash 3

theorem prep_revokeActiveSession (userID now : ℤ) (reason : String) :
    Prepared ttl t (fun result after => Follows ttl t base after ∧
        (result = .ok true → after.row.status ≠ .active))
      (revokeActiveSession userID now reason) s := by
  refine prep_call along sound (by simp) (fun _ _ => trivial) ?_
  intro pick reading _ _ along
  split
  · exact fun _ rely => ⟨along.trans rely.toFollows, by simp⟩
  · exact fun _ rely => ⟨along.trans rely.toFollows, by simp⟩
  split
  · exact fun _ rely => ⟨along.trans rely.toFollows, by simp⟩
  refine prep_call along sound (by simp) (fun _ _ => trivial) ?_
  intro pick revoking _ _ along
  split
  · exact fun _ rely => ⟨along.trans rely.toFollows, by simp⟩
  next rows gives =>
    intro _ rely
    refine ⟨along.trans rely.toFollows, ?_⟩
    intro isTrue
    have affected : rows = 1 := by simpa using isTrue
    exact rely.revoked (revoke_revoked gives (by omega))

theorem prep_revokeUserSession (userID : ℤ) (sid reason : String) :
    Following ttl t base (revokeUserSession ttl userID sid reason) s := by
  simp only [revokeUserSession]
  split
  · exact following along
  refine prep_unixNow along ?_
  intro timing _ timed
  refine prep_call timed sound (by simp) (fun _ _ => trivial) ?_
  intro pick reading toReading _ along
  split
  · exact following along
  · exact following along
  next cand gives =>
    split
    · exact following along
    have expiresAt : cand.expiresAt = base.row.expiresAt := by
      rw [(find_answer gives).2, toReading.expiresAt, timed.expiresAt]
    refine prep_bind (prep_writeDenyFence along sound expiresAt _ reason) ?_
    rintro _ _ ⟨along, _⟩
    split
    · exact following along
    refine prep_bind (prep_revokeActiveSession along sound userID _ reason) ?_
    rintro _ _ ⟨along, revoked⟩
    split
    · exact following along
    · exact following along
    · refine prep_bind (prep_finishRevocation along sound expiresAt (revoked rfl) _ reason) ?_
      rintro _ _ ⟨along, _⟩
      exact following along

theorem prep_revokeUserSessionByRefreshHash (sid shown reason : String) :
    Following ttl t base (revokeUserSessionByRefreshHash ttl sid shown reason) s := by
  simp only [revokeUserSessionByRefreshHash]
  split
  · exact following along
  refine prep_unixNow along ?_
  intro timing _ timed
  refine prep_call timed sound (by simp) (fun _ _ => trivial) ?_
  intro pick reading toReading _ along
  split
  · exact following along
  · exact following along
  next sess gives =>
    have expiresAt : sess.expiresAt = base.row.expiresAt := by
      rw [(find_answer gives).2, toReading.expiresAt, timed.expiresAt]
    split
    · exact following along
    split
    · exact following along
    refine prep_bind (prep_writeDenyFence along sound expiresAt _ reason) ?_
    rintro _ _ ⟨along, _⟩
    split
    · exact following along
    refine prep_call along sound (by simp) (fun _ _ => trivial) ?_
    intro pick revoking _ _ along
    split
    · exact following along
    next gives =>
      split
      next =>
        have revoked := revoke_revoked gives (by omega)
        refine prep_bind (prep_finishRevocation along sound expiresAt revoked _ reason) ?_
        rintro _ _ ⟨along, _⟩
        exact following along
      · exact following along

omit sound along

theorem findCandidate_answer {userID : ℤ} {excluded : String}
    (gives : (s.perform t (.findCandidate userID excluded now) pick).1 =
      some (some sess)) : sess = s.row := by
  simp only [perform, query] at gives
  split at gives
  · split at gives
    · cases gives
      rfl
    · cases gives
  · cases gives

theorem findActive_answer {reply : Option UserSession}
    (gives : (s.perform t .findActive pick).1 = some reply) :
    pick.succeeds = true ∧
      (if s.row.status = .active then some s.row else none) = reply := by
  simp only [perform, query] at gives
  split at gives
  next isOk => exact ⟨isOk, Option.some.inj gives⟩
  · cases gives

theorem revoke_inactive (gives : (s.perform t (.revoke now reason) pick).1 = some rows) :
    (s.perform t (.revoke now reason) pick).2.row.status ≠ .active := by
  simp only [perform] at gives ⊢
  rw [(attempt_answer gives).2]
  simp only [revokeIf, decide_eq_true_eq]
  split
  · simp [noted, UserSession.revoke]
  next inactive => exact inactive

theorem advance_held {version authVersion : ℤ} {snap : ℕ × ℤ}
    (gives : (s.perform t (.advance sess version authVersion) pick).1 =
        some rows) (held : snap ∈ s.snapshots) :
    snap ∈ (s.perform t (.advance sess version authVersion) pick).2.snapshots := by
  simp only [perform] at gives ⊢
  rw [(attempt_answer gives).2]
  simp only [advance]
  split <;> exact held

include sound along

theorem prep_revokeRounds (userID : ℤ) (excluded reason : String) (now : ℤ) (rounds : ℕ)
    (included : Bool) (settled : included = true → s.Settled) :
    Following ttl t base (revokeRounds ttl userID excluded reason now rounds included) s := by
  induction rounds generalizing s included with
  | zero => exact following along
  | succ _ ih =>
    refine prep_call along sound (by simp) (fun _ _ => trivial) ?_
    intro pick reading toReading _ reads
    split
    · exact following reads
    · split
      next isIncluded =>
        have needs : Needs ttl t (.findCandidate userID excluded now) reading := trivial
        have soundReading := (along.trans toReading.toFollows).sound sound
        have isSettled := toReading.settled (along.sound sound) (settled isIncluded)
        exact following_returnRevoked reads sound
          ((moves_perform soundReading needs pick).settled soundReading isSettled)
          fun _ along => following along
      · exact following reads
    next cand gives =>
      have expiresAt : cand.expiresAt = base.row.expiresAt := by
        rw [findCandidate_answer gives, toReading.expiresAt, along.expiresAt]
      refine prep_bind (prep_writeDenyFence reads sound expiresAt now reason) ?_
      rintro _ _ ⟨followsFencing, _⟩
      split
      · exact following followsFencing
      refine prep_call followsFencing sound (by simp) (fun _ _ => trivial) ?_
      intro pick locking toLocking care followsLocking
      split
      · exact following followsLocking
      next gives =>
        have soundLocking := (followsFencing.trans toLocking.toFollows).sound sound
        rcases findActive_answer gives with ⟨isOk, isNone⟩
        have inactive : locking.row.status ≠ .active := by
          intro live
          rw [if_pos live] at isNone
          cases isNone
        have isSettled : locking.Settled := ⟨inactive, care isOk inactive⟩
        have needs : Needs ttl t .findActive locking := trivial
        have found := follows_perform soundLocking needs pick (by simp)
        exact ih followsLocking true fun _ => found.settled soundLocking isSettled
      next locked gives =>
        have lockedExpires : locked.expiresAt = base.row.expiresAt := by
          have isRow := (findActive_answer gives).2
          split at isRow
          · cases isRow
            rw [toLocking.expiresAt, followsFencing.expiresAt]
          · cases isRow
        refine prep_call followsLocking sound (by simp) (fun _ _ => trivial) ?_
        intro pick revoking toRevoking _ followsRevoking
        split
        · exact following followsRevoking
        next gives =>
          refine prep_bind (prep_tombstone followsRevoking sound lockedExpires
            (revoke_inactive gives) now reason) ?_
          rintro _ _ ⟨followsFinishing, isSettled⟩
          exact ih followsFinishing true fun _ => isSettled

theorem prep_revokeUserSessions (userID : ℤ) (excluded reason : String) (rounds : ℕ) :
    Following ttl t base (revokeUserSessions ttl userID excluded reason rounds) s := by
  simp only [revokeUserSessions]
  split
  · exact following along
  refine prep_unixNow along ?_
  intro timing _ along
  exact prep_revokeRounds along sound userID excluded reason _ rounds false (by simp)

/-- The raise of a version follows what the others do. -/
theorem prep_advanceUserSessionAuthVersion (userID : ℤ) (sid : String)
    (version authVersion nextUserAuthVersion : ℤ) :
    Following ttl t base (advanceUserSessionAuthVersion ttl userID sid version
      authVersion nextUserAuthVersion) s := by
  simp only [advanceUserSessionAuthVersion]
  split
  · exact following along
  refine prep_deadline along ?_
  intro _ toCapturing limit captured
  refine prep_unixNow toCapturing ?_
  intro _ toTiming timed
  refine prep_call timed sound (by simp)
    (fun reading toReading => captured reading (toTiming.trans toReading)) ?_
  intro pick reading toReading _ along
  split
  · exact following along
  · exact following along
  next gives =>
    rcases find_answer gives with ⟨isOk, rfl⟩
    have isRead : (reading.perform t (.find (some userID) (some limit)) pick).2 =
        reading.hold t limit := by
      simp only [perform, query, isOk, if_true]
    rw [isRead] at along ⊢
    split
    · exact following along
    next accepted =>
      have live : reading.row.status = .active := by
        by_contra inactive
        exact accepted (.inl inactive)
      refine prep_call along sound (by simp) (fun _ _ => trivial) ?_
      intro pick advancing toAdvancing _ along
      split
      · exact following along
      next gives =>
        split
        · exact following along
        have held := advance_held gives (toAdvancing.held _ (hold_held t limit live))
        simp only [writeUserSessionCache]
        rw [if_pos (by exact live)]
        refine prep_bind (prep_activeCache along sound (by exact live) held) ?_
        rintro _ _ ⟨along, _⟩
        split
        · exact following along
        · refine prep_bind (prep_confirmSnapshot along sound _) ?_
          rintro _ _ ⟨along, _⟩
          split
          · exact following along
          · exact following along
        · exact following along

/-! ### Requests -/

theorem prep_validateLoginSession (ident : AuthIdentity) :
    Reading ttl t base (validateLoginSession ttl ident) s := by
  refine prep_bind (prep_getUserSessionCached along sound ident.sessionID) ?_
  rintro _ _ ⟨along, fresh⟩
  split
  · exact reading_failed along
  · exact reading_failed along
  refine prep_unixNow along ?_
  intro timing _ along
  split
  · exact reading_failed along
  refine prep_call along sound (by simp) (fun _ _ => trivial) ?_
  intro pick loading _ _ along
  split
  · exact reading_failed along
  split
  · exact reading_failed along
  · exact prep_done along fun _ => fresh rfl

theorem prep_issueAuthBundle (sess : UserSession) (refreshSecret : String) :
    Following ttl t base (issueAuthBundle sess refreshSecret) s := by
  refine prep_call along sound (by simp) (fun _ _ => trivial) ?_
  intro pick issuing _ _ along
  split
  · exact following along
  · exact following along

variable {hmac : String → String → String}

theorem prep_rotateLoginSession (sess : UserSession) (sid secret : String) :
    Following ttl t base (rotateLoginSession ttl hmac sess sid secret) s := by
  refine prep_unixNow along ?_
  intro timing _ along
  refine prep_bind (prep_rotateRefresh along sound _ _ _ _ _ _) ?_
  rintro _ _ ⟨along, _⟩
  split
  · exact prep_issueAuthBundle along sound _ _
  · split
    · exact prep_issueAuthBundle along sound _ _
    · exact following along
  · exact following along
  · exact following along
  · exact following along

theorem prep_refreshLoginSession (sid secret wanted : String) :
    Following ttl t base (refreshLoginSession ttl hmac sid secret wanted) s := by
  simp only [refreshLoginSession]
  split
  · exact following along
  refine prep_bind (prep_getUserSessionCached along sound sid) ?_
  rintro _ _ ⟨along, _⟩
  split
  · exact following along
  · exact following along
  refine prep_unixNow along ?_
  intro timing _ along
  split
  · exact following along
  refine prep_call along sound (by simp) (fun _ _ => trivial) ?_
  intro pick loading _ _ along
  split
  · exact following along
  refine prep_call along sound (by simp) (fun _ _ => trivial) ?_
  intro pick checking _ _ along
  split
  · exact following along
  split
  · refine prep_bind (prep_revokeUserSession along sound _ _ _) ?_
    rintro result _ ⟨along, _⟩
    exact following along
  · exact prep_rotateLoginSession along sound _ sid secret

omit sound along

theorem prep_returnActive (fresh : beganRevoked t s.notes = false) :
    Prepared ttl t (fun _ _ => True) (askSession .returnActive) s := by
  intro returning rely
  have needs : Needs ttl t .returnActive returning := rely.began.trans fresh
  exact ⟨needs, fun _ _ _ _ => trivial⟩

theorem prep_returnRefreshed (secret : String) (result : Except LoginSessionError AuthBundle) :
    Prepared ttl t (fun _ _ => True) (askSession (.returnRefreshed secret result)) s :=
  fun _ _ => ⟨trivial, fun _ _ _ _ => trivial⟩

theorem prep_serveSession (sound : Sound ttl s) (sid : String) (req : SessionRequest) :
    Prepared ttl t (fun _ _ => True) (serveSession ttl hmac sid req) s := by
  refine prep_begin sound ?_
  intro begun soundBegun
  have along : Follows ttl t begun begun := Follows.refl t begun
  have served {Served : Type} {program : SessionProgram Served}
      (prepared : Following ttl t begun program begun) :
      Prepared ttl t (fun _ _ => True) (program >>= fun _ => pure ()) begun :=
    prep_bind prepared fun _ _ _ _ _ => trivial
  cases req with
  | getCached =>
    refine prep_bind (prep_getUserSessionCached along soundBegun sid) ?_
    rintro result reading ⟨along, fresh⟩
    split
    · exact prep_returnActive (along.began.trans (fresh rfl))
    · exact fun _ _ => trivial
  | validate _ =>
    refine prep_bind (prep_validateLoginSession along soundBegun _) ?_
    rintro result _ ⟨along, fresh⟩
    split
    · exact prep_returnActive (along.began.trans (fresh rfl))
    · exact fun _ _ => trivial
  | refresh secret wanted =>
    refine prep_bind (prep_refreshLoginSession along soundBegun sid secret wanted) ?_
    intro result refreshing _
    exact prep_returnRefreshed secret result
  | rotate _ _ _ _ _ =>
    exact served (prep_rotateRefresh along soundBegun _ _ _ _ _ _)
  | revoke _ _ => exact served (prep_revokeUserSession along soundBegun _ _ _)
  | revokeByRefreshHash _ _ =>
    exact served (prep_revokeUserSessionByRefreshHash along soundBegun _ _ _)
  | revokeAll _ _ _ _ =>
    exact served (prep_revokeUserSessions along soundBegun _ _ _ _)
  | advance _ _ _ _ =>
    exact served (prep_advanceUserSessionAuthVersion along soundBegun _ _ _ _ _)

end Programs

end SessionSystem

/-! ## Runs -/

namespace SessionPool

/-- Every tombstone is written, or nothing is left that it would have to hold off. -/
def Careful : SessionPool → Action SessionChoice ℕ → Prop :=
  Pool.Allowed SessionSystem.Careful fun _ _ => True

instance (pool : SessionPool) (action : Action SessionChoice ℕ) :
    Decidable (Careful pool action) :=
  Pool.decidableAllowed _ _ pool action

end SessionPool

/-- In every run of careful steps, revocation is final. -/
theorem revocation_final {ttl now : ℤ} {hmac : String → String → String} {row : UserSession}
    {reqs : ℕ → SessionRequest} {pool : SessionPool}
    (reached : Reachable (SessionPool.next) SessionPool.Careful
      (SessionPool.start ttl hmac now row reqs) pool) :
    pool.state.RevocationFinal := by
  have start : (SessionPool.start ttl hmac now row
      reqs).Holding (fun t call pick s => s.perform t call pick)
      (SessionSystem.Sound ttl) (SessionSystem.Rely ttl)
      SessionSystem.Careful (SessionSystem.Needs ttl) (fun _ _ _ => True) :=
    ⟨SessionSystem.sound_start ttl now row, fun t =>
      SessionSystem.prep_serveSession (SessionSystem.sound_start ttl now row) row.sid (reqs t)⟩
  have holding := Pool.holding_reachable reached SessionSystem.Rely.refl
    (fun _ _ _ _ => SessionSystem.Rely.trans)
    (fun _ _ pick _ sound needs _ => by exact SessionSystem.keeping_perform sound needs pick)
    (fun nanos _ sound _ => by exact SessionSystem.keeping_elapse sound nanos) start
  exact revocationFinal_of_orderly holding.state.orderly

/-! ## Sample runs -/

def sampleSessionRequests (t : ℕ) : SessionRequest :=
  if t = 1 then .revoke 7 "logout"
  else if t = 3 then .advance 7 1 1 2
  else .getCached

def sampleSessions : SessionPool :=
  SessionPool.start 60 sampleHMAC 0 sampleUserSession sampleSessionRequests

def sessionsAfter (actions : List (Action SessionChoice ℕ)) : SessionPool :=
  actions.foldl SessionPool.next sampleSessions

def sessionSteps (t count : ℕ) : List (Action SessionChoice ℕ) :=
  List.replicate count (.perform t ⟨true, false, ⟨1, 1⟩⟩)

def sessionFailure (t : ℕ) : List (Action SessionChoice ℕ) :=
  [.perform t ⟨false, false, ⟨1, 1⟩⟩]

/-- Client 0 misses the cache before the deny fence is written, and reads the active row a
second after it; the row is revoked, and the fence expires before client 0 writes. -/
def staleFill (tombstone : List (Action SessionChoice ℕ)) : List (Action SessionChoice ℕ) :=
  sessionSteps 0 2 ++ sessionSteps 1 5 ++ [.occur 1000000000] ++ sessionSteps 0 3 ++
    sessionSteps 1 3 ++ tombstone ++ sessionSteps 1 1 ++ [.occur 59500000000] ++
    sessionSteps 0 4 ++ sessionSteps 2 4

theorem revocation_final_sample :
    (sessionsAfter (staleFill (sessionSteps 1 1))).state.RevocationFinal :=
  revocation_final (Reachable.of_run (staleFill (sessionSteps 1 1)) sampleSessions (by decide))

/-- The fence expires before the row is revoked, and in between a newer version is cached, which
refuses the tombstone. -/
def newerVersion : List (Action SessionChoice ℕ) :=
  sessionSteps 1 5 ++ [.occur 61000000000] ++ sessionSteps 3 8 ++ sessionSteps 1 5 ++
    sessionSteps 2 4

/-- When its tombstone fails, or a newer version in the cache refuses it, a revocation returns
and the session is still read as active afterwards. -/
theorem revocation_undone :
    ¬(sessionsAfter (staleFill (sessionFailure 1))).state.RevocationFinal ∧
      ¬(sessionsAfter newerVersion).state.RevocationFinal := by
  refine ⟨fun final => ?_, fun final => ?_⟩
  · have kept := final 2 [] []
      ((sessionsAfter (staleFill (sessionFailure 1))).state.notes.drop 2) (by decide)
    revert kept
    decide
  · have kept := final 2 [] [] ((sessionsAfter newerVersion).state.notes.drop 2) (by decide)
    revert kept
    decide

end NewApi.Auth
