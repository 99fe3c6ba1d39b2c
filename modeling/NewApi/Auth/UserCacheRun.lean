import NewApi.Auth.UserCache

/-!
# Security changes and the user cache

Three facts carry every run: the committed floor covers each published version, the fence or the
floor covers each fence that has not expired, and the hash holds what some committed row had at
its version.
-/

namespace NewApi.Auth.UserCache

open Concurrent (Action Keeps Pool Program)
open Transition

def CacheField.Matched (field : CacheField) (s : UserSystem) (user : UserBase) : Prop :=
  ∃ row ∈ s.rows, row.authVersion = user.authVersion ∧ field.Same user row.toBaseUser

/-- Security changes are not undone, where `refreshed` are the fields that
`updateUserCacheField` writes. -/
structure Guarded (refreshed : CacheField → Prop) (s : UserSystem) : Prop where
  published : ∀ after t user fromCache now pending between past, s.notes =
    after ++ ⟨t, .returned user fromCache now pending⟩ ::
      (between ++ ⟨t, .began⟩ :: past) →
    ∀ other ver, ⟨other, .published ver⟩ ∈ past → ver ≤ user.authVersion
  fenced : ∀ after t user now pending between past, s.notes =
    after ++ ⟨t, .returned user true now pending⟩ ::
      (between ++ ⟨t, .began⟩ :: past) →
    ∀ other ver expires, ⟨other, .fenced ver expires⟩ ∈ past → now ≤ expires →
      ver ≤ user.authVersion
  fields : ∀ cached ∈ s.hash, ∀ field, ¬refreshed field → field.Matched s cached.user

/-- As `Guarded`, for every fence that is pending when a call returns and for every field. -/
structure GuardedAtOnce (s : UserSystem) : Prop where
  published : ∀ after t user fromCache now pending between past, s.notes =
    after ++ ⟨t, .returned user fromCache now pending⟩ ::
      (between ++ ⟨t, .began⟩ :: past) →
    ∀ other ver, ⟨other, .published ver⟩ ∈ past → ver ≤ user.authVersion
  fenced : ∀ t user now pending, ⟨t, .returned user true now pending⟩ ∈ s.notes →
    pending ≤ user.authVersion
  fields : ∀ cached ∈ s.hash, ∀ field : CacheField, field.Matched s cached.user

namespace UserSystem

variable {ttl : ℤ} {refreshed : CacheField → Prop} {t : ℕ} {s later final : UserSystem}

/-! ## Steps -/

/-- A published version is in the row, and a fenced one is committed or fenced still. -/
structure Covered (ttl : ℤ) (s : UserSystem) : Prop where
  floor : ∀ other ver, ⟨other, .published ver⟩ ∈ s.notes →
    ver ≤ s.committed ∧ ver ≤ s.row.authVersion
  fence : ∀ other ver expires, ⟨other, .fenced ver expires⟩ ∈ s.notes →
    s.now ≤ expires → ver ≤ s.committed ∨
      ∃ fence ∈ s.fence, ver ≤ fence.version ∧ expires ≤ fence.expires
  expires : ∀ fence ∈ s.fence, fence.expires ≤ s.now + userAuthFenceTTLSeconds ttl * 1000

/-- The cache is guarded, its versions are covered, and the current row is one of the rows. -/
structure Sound (ttl : ℤ) (refreshed : CacheField → Prop)
    (s : UserSystem) : Prop extends
    Guarded refreshed s, Covered ttl s where
  row : s.row ∈ s.rows

/-- Nothing that was published or fenced before the call of the thread is above what it read. -/
def Fresh (t : ℕ) (user : UserBase) (fromCache : Bool) (s : UserSystem) : Prop :=
  ∀ between past, s.notes = between ++ ⟨t, .began⟩ :: past →
    (∀ other ver, ⟨other, .published ver⟩ ∈ past → ver ≤ user.authVersion) ∧
      (fromCache = true → ∀ other ver expires, ⟨other, .fenced ver expires⟩ ∈ past →
        s.now ≤ expires → ver ≤ user.authVersion)

def Needs (refreshed : CacheField → Prop) (t : ℕ) (call : UserCall) (s : UserSystem) :
    Prop :=
  match call with
  | .writeUser user _ => ∃ row ∈ s.rows, user = row.toBaseUser
  | .writeField update authVersion => refreshed update.field ∨
      ∀ user : UserBase, user.authVersion = authVersion →
        update.field.Matched s (update.apply user)
  | .commit ver next _ => ver ≤ next
  | .returnUser user fromCache => Fresh t user fromCache s
  | .returnPublished ver => ver ≤ s.committed ∧ ver ≤ s.row.authVersion
  | _ => True

/-- Time, rows and committed versions only grow. -/
structure Advances (s later : UserSystem) : Prop where
  now : s.now ≤ later.now
  rows : ∀ row ∈ s.rows, row ∈ later.rows
  committed : s.committed ≤ later.committed
  authVersion : s.row.authVersion ≤ later.row.authVersion
  sameID : later.row.id = s.row.id

/-- What the steps of other clients leave to a client. -/
structure Rely (ttl : ℤ) (refreshed : CacheField → Prop) (t : ℕ)
    (s later : UserSystem) : Prop extends Advances s later where
  notes : ∃ more, later.notes = more ++ s.notes ∧ ∀ note ∈ more, note.thread ≠ t
  sound : Sound ttl refreshed s →
    Sound ttl refreshed later

theorem Advances.refl (s : UserSystem) : Advances s s :=
  ⟨le_refl _, fun _ => id, le_refl _, le_refl _, rfl⟩

theorem Advances.trans (one : Advances s later) (two : Advances later final) :
    Advances s final :=
  ⟨one.now.trans two.now, fun row isRow => two.rows row (one.rows row isRow),
    one.committed.trans two.committed, one.authVersion.trans two.authVersion,
    two.sameID.trans one.sameID⟩

theorem Rely.refl (t : ℕ) (s : UserSystem) :
    Rely ttl refreshed t s s :=
  ⟨.refl s, ⟨[], rfl, by simp⟩, id⟩

theorem Rely.trans (one : Rely ttl refreshed t s later) (two : Rely ttl refreshed t later final) :
    Rely ttl refreshed t s final := by
  refine ⟨one.toAdvances.trans two.toAdvances, ?_, fun sound => two.sound (one.sound sound)⟩
  rcases one.notes with ⟨more, isLater, others⟩
  rcases two.notes with ⟨further, isFinal, othersFurther⟩
  refine ⟨further ++ more, by rw [isFinal, isLater, List.append_assoc], ?_⟩
  intro note inBoth
  rcases List.mem_append.mp inBoth with inFurther | inMore
  · exact othersFurther note inFurther
  · exact others note inMore

variable {user : UserBase} {update : FieldUpdate} {authVersion : ℤ} {call : UserCall} {row : User}

theorem matched_mono {field : CacheField} (matched : field.Matched s user)
    (rows : ∀ row ∈ s.rows, row ∈ later.rows) : field.Matched later user := by
  rcases matched with ⟨row, isRow, same⟩
  exact ⟨row, rows row isRow, same⟩

theorem Fresh.stable {fromCache : Bool} (fresh : Fresh t user fromCache s) (now : s.now ≤ later.now)
    (notes : ∃ more, later.notes = more ++ s.notes ∧ ∀ note ∈ more, note.thread ≠ t) :
    Fresh t user fromCache later := by
  rcases notes with ⟨_, isNotes, others⟩
  intro _ past isBetween
  rw [isNotes] at isBetween
  have before : ∃ rest, s.notes = rest ++ ⟨t, .began⟩ :: past := by
    rcases List.append_eq_append_iff.mp isBetween with
      ⟨rest, _, isRest⟩ | ⟨rest, isMore, isRest⟩
    · exact ⟨rest, isRest⟩
    · cases rest with
      | nil => exact ⟨[], isRest.symm⟩
      | cons _ _ =>
        rcases List.cons.inj isRest with ⟨rfl, _⟩
        exact absurd rfl (others ⟨t, .began⟩ (by simp [isMore]))
  rcases before with ⟨rest, isRest⟩
  rcases fresh rest past isRest with ⟨published, fenced⟩
  exact ⟨published, fun isCache other ver expires isFence soon =>
    fenced isCache other ver expires isFence (now.trans soon)⟩

/-! ### What a call does -/

/-- A write leaves the hash, writes a committed row into it, or one field of its version. -/
inductive Written (refreshed : CacheField → Prop) (s : UserSystem) :
    Option CachedUser → Prop where
  | same : Written refreshed s s.hash
  | whole (written : CachedUser) (row : User) (isRow : row ∈ s.rows)
      (user : written.user = row.toBaseUser) : Written refreshed s (some written)
  | field (cached written : CachedUser) (update : FieldUpdate) (isHash : cached ∈ s.hash)
      (user : written.user =
        { update.apply cached.user with cacheSchema := userCacheSchemaVersion })
      (needs : refreshed update.field ∨
        update.field.Matched s (update.apply cached.user)) :
      Written refreshed s (some written)

def Noting (t : ℕ) (kind : NoteKind) (s : UserSystem) : Prop :=
  match kind with
  | .began => True
  | .fenced _ _ => False
  | .published ver => ver ≤ s.committed ∧ ver ≤ s.row.authVersion
  | .returned user fromCache now _ => now = s.now ∧ Fresh t user fromCache s

/-- What a call of another client does to the system. -/
inductive Outcome (ttl : ℤ) (refreshed : CacheField → Prop) (t : ℕ)
    (s : UserSystem) : UserSystem → Prop where
  | same : Outcome ttl refreshed t s s
  | wrote (incoming : ℤ) (hash : Option CachedUser) (passes : ¬s.Refuses incoming)
      (written : Written refreshed s hash) : Outcome ttl refreshed t
        s { s.promote incoming with hash := hash }
  | fenced (ver expires : ℤ) (highest : s.pending ≤ ver)
      (isExpires : expires = s.now + userAuthFenceTTLSeconds ttl * 1000) :
      Outcome ttl refreshed t s
        ({ s with fence := some ⟨ver, expires⟩ }.noted t (.fenced ver expires))
  | stored (row : User) (raises : s.row.authVersion ≤ row.authVersion)
      (sameID : row.id = s.row.id) :
      Outcome ttl refreshed t s (s.store row)
  | marked (kind : NoteKind) (noting : Noting t kind s) :
      Outcome ttl refreshed t s (s.noted t kind)

theorem mem_hash_of_cached {cached : CachedUser} (isCached : s.cached = some cached) :
    cached ∈ s.hash :=
  (Option.mem_filter_iff.mp isCached).1

theorem outcome_writeUser {counts : Bool} (needs : ∃ row ∈ s.rows, user = row.toBaseUser) :
    Outcome ttl refreshed t s (s.writeUser ttl user counts).2 := by
  rcases needs with ⟨row, isRow, rfl⟩
  simp only [writeUser]
  split
  · exact .same
  next passes =>
    split
    · split
      · exact .wrote _ _ passes (.whole _ row isRow rfl)
      · exact .wrote _ _ passes .same
    · exact .wrote _ _ passes (.whole _ row isRow rfl)

theorem outcome_writeField (needs : Needs refreshed t (.writeField update authVersion) s) :
    Outcome ttl refreshed t s (s.writeField update authVersion).2 := by
  simp only [writeField]
  split
  · exact .same
  next passes =>
    split
    · exact .wrote _ _ passes .same
    next cached isCached =>
      split
      · exact .wrote _ _ passes .same
      next sameVer =>
        refine .wrote _ _ passes (.field cached _ update (mem_hash_of_cached isCached) rfl ?_)
        exact needs.imp id fun matches' => matches' cached.user (not_not.mp sameVer)

theorem outcome_setFence : Outcome ttl refreshed t s (s.setFence ttl t authVersion) := by
  simp only [setFence]
  split
  next highest => exact .fenced _ _ highest rfl
  · exact .same

theorem outcome_commit {ver next : ℤ} {change : User → User} (raises : ver ≤ next)
    (pick : UserChoice) :
    Outcome ttl refreshed t s (s.commit ver next change pick).2 := by
  simp only [commit]
  split
  · exact .same
  next isVersion =>
    have raised : s.row.authVersion ≤ next := (not_not.mp isVersion).le.trans raises
    split
    · exact .stored _ raised rfl
    · split
      · exact .stored _ raised rfl
      · exact .same

theorem outcome_attempt {Value : Type} {pick : UserChoice} {out : Value × UserSystem}
    (applied : Outcome ttl refreshed t s out.2) :
    Outcome ttl refreshed t s (s.attempt pick out).2 := by
  simp only [attempt]
  split
  · exact applied
  · exact .same

theorem outcome_perform (needs : Needs refreshed t call s) (pick : UserChoice) :
    Outcome ttl refreshed t s (s.perform ttl t call pick).2 := by
  cases call with
  | begin => exact .marked .began trivial
  | readHash | readFloor | getUserById | selectVersion | selectGroup => exact .same
  | writeUser _ _ => exact outcome_attempt (outcome_writeUser needs)
  | writeField _ _ => exact outcome_attempt (outcome_writeField needs)
  | setFence authVersion =>
    have fenced : Outcome ttl refreshed t s ((), s.setFence ttl t authVersion).2 := outcome_setFence
    exact outcome_attempt fenced
  | commit _ _ _ => exact outcome_commit needs pick
  | edit _ =>
    simp only [perform]
    split
    · exact .stored _ (le_refl _) rfl
    · exact .same
  | returnUser _ _ => exact .marked _ ⟨rfl, needs⟩
  | returnPublished _ => exact .marked _ needs

/-! ### What a step keeps -/

variable {kind : NoteKind}

theorem pending_eq {fence : Fence} (isFence : fence ∈ s.fence)
    (soon : s.now ≤ fence.expires) : s.pending = fence.version := by
  rw [pending, Option.mem_def.mp isFence, Option.filter_some, if_pos (by simpa using soon)]
  rfl

theorem guarded_keep (guarded : Guarded refreshed s) (notes : later.notes = s.notes)
    (fields : ∀ cached ∈ later.hash, ∀ field, ¬refreshed field →
      CacheField.Matched field later cached.user) : Guarded refreshed later where
  published := by
    rw [notes]
    exact guarded.published
  fenced := by
    rw [notes]
    exact guarded.fenced
  fields := fields

theorem guarded_note (guarded : Guarded refreshed s)
    (notes : later.notes = ⟨t, kind⟩ :: s.notes) (rows : later.rows = s.rows)
    (hash : later.hash = s.hash)
    (fresh : ∀ user fromCache now pending, kind = .returned user fromCache now pending →
      now = s.now ∧ Fresh t user fromCache s) : Guarded refreshed later where
  published := by
    intro after other user fromCache now pending between past isNotes
    rw [notes] at isNotes
    cases after with
    | nil =>
      rcases List.cons.inj isNotes with ⟨isNote, before⟩
      cases isNote
      exact ((fresh user fromCache now pending rfl).2 between past before).1
    | cons _ after =>
      exact guarded.published after other user fromCache now pending between past
        (List.cons.inj isNotes).2
  fenced := by
    intro after other user now pending between past isNotes
    rw [notes] at isNotes
    cases after with
    | nil =>
      rcases List.cons.inj isNotes with ⟨isNote, before⟩
      cases isNote
      rcases fresh user true now pending rfl with ⟨rfl, freshUser⟩
      exact (freshUser between past before).2 rfl
    | cons _ after =>
      exact guarded.fenced after other user now pending between past (List.cons.inj isNotes).2
  fields := by
    rw [hash]
    intro cached isCached field stale
    exact matched_mono (guarded.fields cached isCached field stale) fun _ _ => by rwa [rows]

theorem Written.matched {hash : Option CachedUser} (written : Written refreshed s hash)
    (guarded : Guarded refreshed s) {cached : CachedUser} (isHash : cached ∈ hash)
    {field : CacheField} (stale : ¬refreshed field) : field.Matched s cached.user := by
  cases written with
  | same => exact guarded.fields cached isHash field stale
  | whole _ row isRow user =>
    cases Option.mem_some.mp isHash
    rw [user]
    exact ⟨row, isRow, rfl, by cases field <;> rfl⟩
  | field old _ update isOld user needs =>
    cases Option.mem_some.mp isHash
    rcases guarded.fields old isOld field stale with ⟨row, isRow, sameVer, same⟩
    by_cases isField : update.field = field
    · subst isField
      rcases needs.resolve_left stale with ⟨row, isRow, sameVer, same⟩
      rw [user]
      exact ⟨row, isRow, sameVer, by cases update <;> exact same⟩
    · refine ⟨row, isRow, ?_, ?_⟩
      · rw [user, sameVer]
        cases update <;> rfl
      · rw [user]
        cases update <;> cases field <;> first | exact same | exact absurd rfl isField

variable (out : Outcome ttl refreshed t s later)

include out

theorem Outcome.advances : Advances s later := by
  cases out with
  | same => exact .refl s
  | wrote _ _ _ _ =>
    refine ⟨le_refl _, fun _ => id, ?_, le_refl _, rfl⟩
    simp only [promote]
    split
    next lower => exact lower.le
    · exact le_refl _
  | fenced _ _ _ _ =>
    exact ⟨le_refl _, fun _ => id, le_refl _, le_refl _, rfl⟩
  | stored _ raises sameID =>
    exact ⟨le_refl _, fun _ => List.mem_cons_of_mem _, le_refl _, raises, sameID⟩
  | marked _ _ => exact ⟨le_refl _, fun _ => id, le_refl _, le_refl _, rfl⟩

theorem Outcome.notes : ∃ more, later.notes = more ++ s.notes ∧ ∀ note ∈ more, note.thread = t := by
  cases out with
  | same | wrote _ _ _ _ => exact ⟨[], rfl, by simp⟩
  | fenced _ _ _ _ => exact ⟨[_], rfl, by simp⟩
  | stored _ _ _ => exact ⟨[], rfl, by simp⟩
  | marked _ _ => exact ⟨[_], rfl, by simp⟩

theorem Outcome.guarded (guarded : Guarded refreshed s) : Guarded refreshed later := by
  cases out with
  | same => exact guarded
  | wrote _ _ _ written =>
    exact guarded_keep guarded rfl fun cached isCached field stale =>
      matched_mono (written.matched guarded isCached stale) fun _ => id
  | fenced _ _ _ _ => exact guarded_note guarded rfl rfl rfl (by rintro _ _ _ _ ⟨⟩)
  | stored _ _ _ =>
    exact guarded_keep guarded rfl fun cached isCached field stale =>
      matched_mono (guarded.fields cached isCached field stale) fun _ => List.mem_cons_of_mem _
  | marked _ noting =>
    refine guarded_note guarded rfl rfl rfl ?_
    rintro _ _ _ _ rfl
    exact noting

omit out

theorem Covered.promote (covered : Covered ttl s) {incoming : ℤ} (hash : Option CachedUser) :
    Covered ttl { s.promote incoming with hash := hash } := by
  have raised : s.committed ≤ (s.promote incoming).committed := by
    simp only [UserSystem.promote]
    split
    next lower => exact lower.le
    · exact le_refl _
  have covers : incoming ≤ (s.promote incoming).committed := by
    simp only [UserSystem.promote]
    split
    · exact le_refl _
    next notLower => exact not_lt.mp notLower
  have kept : ∀ fence ∈ (s.promote incoming).fence, fence ∈ s.fence := by
    intro _ isFence
    simp only [UserSystem.promote] at isFence
    split at isFence
    · cases isFence
    · exact isFence
  refine ⟨?_, ?_, fun fence isFence => covered.expires fence (kept fence isFence)⟩
  · intro other ver isNote
    exact ⟨(covered.floor other ver isNote).1.trans raised, (covered.floor other ver isNote).2⟩
  · intro other ver expires isNote soon
    rcases covered.fence other ver expires isNote soon with isFloor | ⟨fence, isFence, isBelow⟩
    · exact .inl (isFloor.trans raised)
    · by_cases deleted : 0 < s.pending ∧ s.pending ≤ incoming
      · have isPending := pending_eq isFence (soon.trans isBelow.2)
        exact .inl ((isBelow.1.trans (isPending ▸ deleted.2)).trans covers)
      · refine .inr ⟨fence, ?_, isBelow⟩
        simpa only [UserSystem.promote, if_neg deleted] using isFence

theorem Outcome.covered (out : Outcome ttl refreshed t s later)
    (covered : Covered ttl s) : Covered ttl later := by
  cases out with
  | same => exact covered
  | wrote _ hash _ _ => exact covered.promote hash
  | fenced _ _ highest isExpires =>
    refine ⟨?_, ?_, ?_⟩
    · intro other published isNote
      rcases List.mem_cons.mp isNote with isNew | isOld
      · cases isNew
      · exact covered.floor other published isOld
    · intro other fenced ends isNote soon
      rcases List.mem_cons.mp isNote with isNew | isOld
      · cases isNew
        exact .inr ⟨_, rfl, le_refl _, le_refl _⟩
      · rcases covered.fence other fenced ends isOld soon with isFloor | ⟨fence, isFence, isBelow⟩
        · exact .inl isFloor
        · have isPending := pending_eq isFence (soon.trans isBelow.2)
          refine .inr ⟨_, rfl, isBelow.1.trans (isPending ▸ highest), isBelow.2.trans ?_⟩
          exact isExpires ▸ covered.expires fence isFence
    · rintro _ ⟨⟩
      exact isExpires.le
  | stored _ raises _ =>
    exact ⟨fun other ver isNote => ⟨(covered.floor other ver isNote).1,
      (covered.floor other ver isNote).2.trans raises⟩, covered.fence, covered.expires⟩
  | marked _ noting =>
    refine ⟨?_, ?_, covered.expires⟩
    · intro other ver isNote
      rcases List.mem_cons.mp isNote with isNew | isOld
      · cases isNew
        exact noting
      · exact covered.floor other ver isOld
    · intro other ver expires isNote
      rcases List.mem_cons.mp isNote with isNew | isOld
      · cases isNew
        exact absurd noting id
      · exact covered.fence other ver expires isOld

theorem Outcome.sound (out : Outcome ttl refreshed t s later) (sound : Sound ttl refreshed s) :
    Sound ttl refreshed later := by
  refine ⟨out.guarded sound.toGuarded, out.covered sound.toCovered, ?_⟩
  cases out with
  | same | wrote _ _ _ _ | fenced _ _ _ _ => exact sound.row
  | stored _ _ _ => exact List.mem_cons_self
  | marked _ _ => exact sound.row

theorem rely_elapse (milliseconds : ℕ) : Rely ttl refreshed t s (s.elapse milliseconds) := by
  have later : s.now ≤ (s.elapse milliseconds).now := by
    simp [elapse]
  refine ⟨⟨later, fun _ => id, le_refl _, le_refl _, rfl⟩, ⟨[], rfl, by simp⟩, fun sound => ?_⟩
  refine ⟨guarded_keep sound.toGuarded rfl sound.fields, ⟨sound.floor, ?_, ?_⟩, sound.row⟩
  · intro other ver expires isNote soon
    exact sound.fence other ver expires isNote (later.trans soon)
  · intro fence isFence
    exact (sound.expires fence isFence).trans (add_le_add_left later _)

theorem keeping_elapse (sound : Sound ttl refreshed s) (milliseconds : ℕ) :
    Sound ttl refreshed (s.elapse milliseconds) ∧
      ∀ t, Rely ttl refreshed t s (s.elapse milliseconds) := by
  have rely : ∀ t, Rely ttl refreshed t s (s.elapse milliseconds) :=
    fun _ => rely_elapse milliseconds
  exact ⟨(rely 0).sound sound, rely⟩

theorem keeping_perform (sound : Sound ttl refreshed s)
    (needs : Needs refreshed t call s) (pick : UserChoice) :
    Sound ttl refreshed (s.perform ttl t call pick).2 ∧
      ∀ other, other ≠ t → Rely ttl refreshed other s (s.perform ttl t call pick).2 := by
  have out : Outcome ttl refreshed t s _ :=
    outcome_perform needs pick
  refine ⟨out.sound sound, ?_⟩
  intro _ isOther
  rcases out.notes with ⟨more, notes, own⟩
  refine ⟨out.advances, ⟨more, notes, ?_⟩, out.sound⟩
  intro note isNote
  rw [own note isNote]
  exact isOther.symm

/-! ## Programs -/

abbrev Prepared {Result : Type} (ttl : ℤ) (refreshed : CacheField → Prop)
    (t : ℕ) (post : Result → UserSystem → Prop) (program : UserProgram Result)
    (s : UserSystem) : Prop :=
  Keeps (fun t call pick s => s.perform ttl t call pick) (Rely ttl refreshed t) (fun _ _ _ => True)
    (Needs refreshed t) t post program s

variable {Result Value : Type} {post : Result → UserSystem → Prop}

theorem prep_bind {middle : Value → UserSystem → Prop} {program : UserProgram Value}
    {rest : Value → UserProgram Result} (prepared : Prepared ttl refreshed t middle program s)
    (goes : ∀ val later, middle val later → Prepared ttl refreshed t post (rest val) later) :
    Prepared ttl refreshed t post (program >>= rest) s :=
  Keeps.bind (Rely.refl t) (prepared.mono goes)

theorem prep_step {next : call.Answer → UserProgram Result}
    (needed : ∀ later, Rely ttl refreshed t s later →
      Needs refreshed t call later)
    (goes : ∀ pick later, Rely ttl refreshed t s later →
      Prepared ttl refreshed t post (next (later.perform ttl t call pick).1)
        (later.perform ttl t call pick).2) :
    Prepared ttl refreshed t post (askUser call >>= next) s :=
  fun later rely => ⟨needed later rely, fun pick _ => goes pick later rely⟩

theorem prep_ends {result : Result} :
    Prepared ttl refreshed t (fun _ _ => True) (.done result) s :=
  fun _ _ => trivial

theorem rely_attempt {Answer : Type} {pick : UserChoice} {out : Answer × UserSystem}
    (applied : Outcome ttl refreshed t s out.2) (notes : out.2.notes = s.notes) :
    Rely ttl refreshed t s (s.attempt pick out).2 := by
  simp only [attempt]
  split
  · exact ⟨applied.advances, ⟨[], notes, by simp⟩, applied.sound⟩
  · exact .refl t s

theorem notes_writeUser (user : UserBase) (counts : Bool) :
    (s.writeUser ttl user counts).2.notes = s.notes := by
  simp only [writeUser]
  split
  · rfl
  · split
    · split <;> rfl
    · rfl

theorem committed_writeUser {counts : Bool} (wrote : (s.writeUser ttl user counts).1 = true) :
    user.authVersion ≤ (s.writeUser ttl user counts).2.committed := by
  have covers : user.authVersion ≤ (s.promote user.authVersion).committed := by
    simp only [promote]
    split
    · exact le_refl _
    next notLower => exact not_lt.mp notLower
  revert wrote
  simp only [writeUser]
  split
  · rintro ⟨⟩
  · intro _
    split
    · split <;> exact covers
    · exact covers

theorem prep_writeUserCache (isRow : row ∈ s.rows) (counts : Bool) :
    Prepared ttl refreshed t (fun result after => Rely ttl refreshed t s after ∧
        (0 < row.id → result = .ok () → row.authVersion ≤ after.committed))
      (writeUserCache row.toBaseUser counts) s := by
  simp only [writeUserCache]
  split
  next noID => exact fun _ rely => ⟨rely, fun validID => absurd validID (not_lt.mpr noID)⟩
  split
  · exact fun _ rely => ⟨rely, by rintro _ ⟨⟩⟩
  · have needed : ∀ later, Rely ttl refreshed t s later →
        Needs refreshed t (.writeUser row.toBaseUser counts) later :=
      fun _ rely => ⟨row, rely.rows row isRow, rfl⟩
    refine prep_step needed ?_
    intro pick writing toWriting _ rely
    have written : Rely ttl refreshed t writing (writing.attempt pick
          (writing.writeUser ttl row.toBaseUser counts)).2 :=
      rely_attempt (outcome_writeUser (needed writing toWriting)) (notes_writeUser _ _)
    refine ⟨(toWriting.trans written).trans rely, ?_⟩
    intro _ isOk
    refine le_trans ?_ rely.committed
    revert isOk
    rcases pick with ⟨_ | _, _⟩
    · rintro ⟨⟩
    · change scriptOutcome (some (writing.writeUser ttl row.toBaseUser counts).1) = .ok () → _
      cases wrote : (writing.writeUser ttl row.toBaseUser counts).1 with
      | false => rintro ⟨⟩
      | true => exact fun _ => committed_writeUser wrote

/-! ### Reads -/

theorem le_floor (s : UserSystem) : s.pending ≤ s.floor ∧ s.committed ≤ s.floor := by
  simp [floor]

theorem fresh_of_floor (covered : Covered ttl s)
    (above : s.floor ≤ user.authVersion) : Fresh t user true s := by
  intro _ past notes
  have inLog : ∀ note ∈ past, note ∈ s.notes := by
    intro _ isNote
    rw [notes]
    exact List.mem_append_right _ (List.mem_cons_of_mem _ isNote)
  have floors := le_floor s
  refine ⟨?_, ?_⟩
  · intro other ver isNote
    exact (covered.floor other ver (inLog _ isNote)).1.trans (floors.2.trans above)
  · intro _ other ver expires isNote soon
    rcases covered.fence other ver expires (inLog _ isNote) soon with
      isFloor | ⟨fence, isFence, isBelow⟩
    · exact isFloor.trans (floors.2.trans above)
    · have isPending := pending_eq isFence (soon.trans isBelow.2)
      exact isBelow.1.trans (isPending ▸ floors.1.trans above)

theorem fresh_of_row (covered : Covered ttl s) : Fresh t s.row.toBaseUser false s := by
  intro _ _ notes
  refine ⟨?_, by rintro ⟨⟩⟩
  intro other ver isNote
  refine (covered.floor other ver ?_).2
  rw [notes]
  exact List.mem_append_right _ (List.mem_cons_of_mem _ isNote)

theorem prep_cacheGetUserBase (sound : Sound ttl refreshed s) (userID : ℤ) :
    Prepared ttl refreshed t (fun result after => Rely ttl refreshed t s after ∧
        ∀ user, result = .ok user → Fresh t user true after) (cacheGetUserBase userID) s := by
  refine prep_step (fun _ _ => trivial) ?_
  intro pick reading toReading
  change Prepared _ _ _ _ (match (query pick reading.read).join with | none => _ | some _ => _)
    reading
  split
  · exact fun _ rely => ⟨toReading.trans rely, by rintro _ ⟨⟩⟩
  next userCache _ =>
    split
    · exact fun _ rely => ⟨toReading.trans rely, by rintro _ ⟨⟩⟩
    refine prep_step (fun _ _ => trivial) ?_
    intro pick comparing toComparing
    have rely := toReading.trans toComparing
    rcases pick with ⟨_ | _, _⟩
    · exact fun _ more => ⟨rely.trans more, by rintro _ ⟨⟩⟩
    change Prepared _ _ _ _ (if userCache.authVersion < comparing.floor then _ else _) comparing
    split
    · exact fun _ more => ⟨rely.trans more, by rintro _ ⟨⟩⟩
    next notBelow =>
      intro _ more
      refine ⟨rely.trans more, ?_⟩
      rintro _ ⟨⟩
      exact (fresh_of_floor (rely.sound sound).toCovered (not_lt.mp notBelow)).stable
        more.now more.notes

theorem prep_getUserCache (sound : Sound ttl refreshed s) (userID : ℤ) :
    Prepared ttl refreshed t (fun _ _ => True) (getUserCache userID) s := by
  refine prep_bind (prep_cacheGetUserBase sound userID) ?_
  rintro (_ | user) _ ⟨toReading, fresh⟩
  · refine prep_step (fun _ _ => trivial) ?_
    intro pick finding toFinding
    have rely := toReading.trans toFinding
    rcases pick with ⟨_ | _, _⟩
    · exact prep_ends
    have freshRow : Fresh t finding.row.toBaseUser false finding :=
      fresh_of_row (rely.sound sound).toCovered
    refine prep_step (fun _ _ => trivial) ?_
    intro pick comparing toComparing
    change Prepared _ _ _ _ (if ∃ ver ∈ query pick comparing.floor,
      finding.row.authVersion < ver then _ else _) comparing
    split
    · exact prep_ends
    have isRow := toComparing.rows _ (rely.sound sound).row
    refine prep_bind (prep_writeUserCache isRow true) ?_
    intro result writing ⟨toWriting, _⟩
    split
    · exact prep_ends
    · have toEnd := toComparing.trans toWriting
      refine prep_step ?_ fun _ _ _ => prep_ends
      intro _ more
      have toLater := toEnd.trans more
      exact freshRow.stable toLater.now toLater.notes
  · refine prep_step ?_ fun _ _ _ => prep_ends
    intro _ more
    exact (fresh user rfl).stable more.now more.notes

/-! ### Writes -/

def Moves (ttl : ℤ) (refreshed : CacheField → Prop) (s later : UserSystem) : Prop :=
  Advances s later ∧ (Sound ttl refreshed s →
    Sound ttl refreshed later)

theorem Moves.trans (one : Moves ttl refreshed s later) (two : Moves ttl refreshed later final) :
    Moves ttl refreshed s final :=
  ⟨one.1.trans two.1, fun sound => two.2 (one.2 sound)⟩

theorem Rely.moves (rely : Rely ttl refreshed t s later) :
    Moves ttl refreshed s later :=
  ⟨rely.toAdvances, rely.sound⟩

theorem moves_perform (t : ℕ) (call : UserCall) (needs : Needs refreshed t call s)
    (pick : UserChoice) :
    Moves ttl refreshed s (s.perform ttl t call pick).2 := by
  have out : Outcome ttl refreshed t s _ :=
    outcome_perform needs pick
  exact ⟨out.advances, out.sound⟩

theorem prep_setUserAuthVersionFence (userID authVersion : ℤ) :
    Prepared ttl refreshed t (fun _ after => Moves ttl refreshed s after)
      (setUserAuthVersionFence userID authVersion) s := by
  simp only [setUserAuthVersionFence]
  split
  · exact fun _ rely => rely.moves
  · refine prep_step (fun _ _ => trivial) ?_
    intro pick _ toFencing
    have moved := toFencing.moves.trans (moves_perform t (.setFence authVersion) trivial pick)
    split <;> exact fun _ rely => moved.trans rely.moves

/-- The loop that raises a version, by the number of tries that are left. -/
theorem prep_incrementTries (userID : ℤ) (change : User → User) (tries : ℕ) :
    Prepared ttl refreshed t (fun result after => Moves ttl refreshed s after ∧
        ∀ next, result = .ok next → next ≤ after.row.authVersion)
      (incrementTries userID change tries) s := by
  induction tries generalizing s with
  | zero => exact fun _ rely => ⟨rely.moves, by rintro _ ⟨⟩⟩
  | succ _ ih =>
    refine prep_step (fun _ _ => trivial) ?_
    intro pick selecting toSelecting
    rcases pick with ⟨_ | _, _⟩
    · exact fun _ rely => ⟨(toSelecting.trans rely).moves, by rintro _ ⟨⟩⟩
    refine prep_bind (prep_setUserAuthVersionFence userID _) ?_
    intro result _ moved
    have toFencing := toSelecting.moves.trans moved
    cases result with
    | error _ =>
      exact fun _ rely => ⟨toFencing.trans rely.moves, by rintro _ ⟨⟩⟩
    | ok _ =>
      have needs : ∀ later, Needs refreshed t
          (.commit selecting.row.authVersion ((if selecting.row.authVersion < 1 then 1
            else selecting.row.authVersion) + 1) change) later := by
        intro _
        simp only [Needs]
        split <;> omega
      refine prep_step (fun later _ => needs later) ?_
      intro pick committing toCommitting
      have moved := (toFencing.trans toCommitting.moves).trans
        (moves_perform t _ (needs committing) pick)
      split
      next isCommitted =>
        intro _ rely
        refine ⟨moved.trans rely.moves, ?_⟩
        rintro _ ⟨⟩
        refine le_trans (le_of_eq ?_) rely.authVersion
        revert isCommitted
        simp only [perform, commit]
        split
        · rintro ⟨⟩
        · split
          · exact fun _ => rfl
          · split <;> rintro ⟨⟩
      · exact fun _ rely => ⟨moved.trans rely.moves, by rintro _ ⟨⟩⟩
      · refine ih.mono ?_
        rintro _ _ ⟨more, raised⟩
        exact ⟨moved.trans more, raised⟩

theorem prep_publishUserAuthCache (sound : Sound ttl refreshed s)
    (validID : 0 < s.row.id) {ver : ℤ} (raised : ver ≤ s.row.authVersion) :
    Prepared ttl refreshed t (fun result after =>
      result = .ok () → ver ≤ after.committed ∧ ver ≤ after.row.authVersion)
      publishUserAuthCache s := by
  refine prep_step (fun _ _ => trivial) ?_
  intro pick finding toFinding
  rcases pick with ⟨_ | _, _⟩
  · rintro _ rely ⟨⟩
  have validRow : 0 < finding.row.id := by
    rw [toFinding.sameID]
    exact validID
  refine (prep_writeUserCache (toFinding.sound sound).row false).mono ?_
  intro result after ⟨rely, published⟩ isOk
  have raisedRow := raised.trans toFinding.authVersion
  exact ⟨raisedRow.trans (published validRow isOk), raisedRow.trans rely.authVersion⟩

theorem prep_bumpUserAuthVersion (sound : Sound ttl refreshed s)
    {userID : ℤ} (sameID : s.row.id = userID) (change : User → User) :
    Prepared ttl refreshed t (fun _ _ => True) (bumpUserAuthVersion userID change) s := by
  simp only [bumpUserAuthVersion, incrementUserAuthVersionWithTx]
  split
  · exact prep_ends
  next pos =>
    refine prep_bind (prep_incrementTries userID change 3) ?_
    rintro (_ | next) committing ⟨moved, raised⟩
    · exact prep_ends
    have validRow : 0 < committing.row.id := by
      rw [moved.1.sameID, sameID]
      exact not_le.mp pos
    refine prep_bind (prep_publishUserAuthCache (moved.2 sound) validRow (raised next rfl)) ?_
    rintro (_ | _) _ published
    · exact prep_ends
    · refine prep_step ?_ fun _ _ _ => prep_ends
      intro _ rely
      have covered := published rfl
      exact ⟨covered.1.trans rely.committed, covered.2.trans rely.authVersion⟩

theorem prep_updateField
    (needs : Needs refreshed t (.writeField update authVersion) s) (userID : ℤ) :
    Prepared ttl refreshed t (fun _ after => Moves ttl refreshed s after)
      (updateUserCacheFieldAtVersion userID update authVersion) s := by
  have needed : ∀ later, Rely ttl refreshed t s later →
      Needs refreshed t (.writeField update authVersion) later := by
    intro _ rely
    exact needs.imp id fun matches' user isVersion =>
      matched_mono (matches' user isVersion) rely.rows
  simp only [updateUserCacheFieldAtVersion]
  split
  · exact fun _ rely => rely.moves
  · refine prep_step needed ?_
    intro pick writing toWriting _ rely
    exact (toWriting.moves.trans (moves_perform t _ (needed writing toWriting) pick)).trans
      rely.moves

theorem prep_updateUserCacheField (isRefreshed : refreshed update.field) (userID : ℤ) :
    Prepared ttl refreshed t (fun _ _ => True) (updateUserCacheField userID update) s := by
  refine prep_step (fun _ _ => trivial) ?_
  intro pick selecting _
  rcases pick with ⟨_ | _, _⟩
  · exact prep_ends
  change Prepared _ _ _ _ (if selecting.row.authVersion ≤ 0 then _ else _) selecting
  split
  · exact prep_ends
  · exact (prep_updateField (.inl isRefreshed) userID).mono fun _ _ _ => trivial

theorem needs_group (isRow : row ∈ s.rows) :
    Needs refreshed t (.writeField (.group row.group) row.authVersion) s :=
  .inr fun _ isVersion => ⟨row, isRow, isVersion.symm, rfl⟩

variable (sound : Sound ttl refreshed s)

include sound

theorem prep_refreshGroupTries (isRow : row ∈ s.rows) (userID : ℤ) (tries : ℕ) :
    Prepared ttl refreshed t (fun _ _ => True)
      (refreshGroupTries userID tries (row.authVersion, row.group)) s := by
  induction tries generalizing s row with
  | zero =>
    refine prep_bind (prep_updateField (needs_group isRow) userID) ?_
    rintro (_ | _) writing _ <;> exact prep_ends
  | succ _ ih =>
    refine prep_bind (prep_updateField (needs_group isRow) userID) ?_
    rintro (_ | _) _ moved
    · exact prep_ends
    refine prep_step (fun _ _ => trivial) ?_
    intro pick verifying toVerifying
    rcases pick with ⟨_ | _, _⟩
    · exact prep_ends
    have soundVerifying := toVerifying.sound (moved.2 sound)
    change Prepared _ _ _ _ (if (verifying.row.authVersion, verifying.row.group) = _ then _
      else _) verifying
    split
    · exact prep_ends
    · exact ih soundVerifying soundVerifying.row

theorem prep_refreshUserGroupCache (userID : ℤ) :
    Prepared ttl refreshed t (fun _ _ => True) (refreshUserGroupCache userID) s := by
  simp only [refreshUserGroupCache]
  split
  · exact prep_ends
  · refine prep_step (fun _ _ => trivial) ?_
    intro pick _ toSelecting
    rcases pick with ⟨_ | _, _⟩
    · exact prep_ends
    have soundSelecting := toSelecting.sound sound
    exact prep_refreshGroupTries soundSelecting soundSelecting.row userID 3

theorem prep_serveUser {userID : ℤ} (sameID : s.row.id = userID) {req : UserRequest}
    (isRefreshed : ∀ update, req = .updateField update → refreshed update.field) :
    Prepared ttl refreshed t (fun _ _ => True) (serveUser userID req) s := by
  cases req with
  | getUserCache =>
    refine prep_step (fun _ _ => trivial) ?_
    intro pick beginning toBeginning
    have moved : Moves ttl refreshed beginning
        (beginning.noted t .began) := moves_perform t .begin trivial pick
    exact prep_bind (prep_getUserCache (moved.2 (toBeginning.sound sound)) userID)
      fun _ _ _ => prep_ends
  | updateField update =>
    exact prep_bind (prep_updateUserCacheField (isRefreshed update rfl) userID)
      fun _ _ _ => prep_ends
  | refreshGroup =>
    exact prep_bind (prep_refreshUserGroupCache sound userID) fun _ _ _ => prep_ends
  | bump change =>
    exact prep_bind (prep_bumpUserAuthVersion sound sameID change) fun _ _ _ => prep_ends
  | edit _ => exact fun _ _ => ⟨trivial, fun _ _ => prep_ends⟩

end UserSystem

/-! ## Runs -/

/-- Some request writes the field with `updateUserCacheField`. -/
def Refreshed (reqs : ℕ → UserRequest) (field : CacheField) : Prop :=
  ∃ t update, reqs t = .updateField update ∧ update.field = field

open UserSystem in
/-- However the cache is filled and refreshed, it undoes no security change. -/
theorem never_undone {ttl now : ℤ} {row : User} {reqs : ℕ → UserRequest} {pool : UserPool}
    (reached : Reachable (UserPool.next ttl) UserPool.Any (UserPool.start now row reqs) pool) :
    Guarded (Refreshed reqs) pool.state := by
  have sound : Sound ttl (Refreshed reqs) (UserSystem.start now row) :=
    { published := by
        intro after _ _ _ _ _ _ _ isNotes
        cases after <;> cases isNotes
      fenced := by
        intro after _ _ _ _ _ _ isNotes
        cases after <;> cases isNotes
      fields := by rintro _ ⟨⟩
      floor := by rintro other ver ⟨⟩
      fence := by rintro other _ expires ⟨⟩
      expires := by rintro _ ⟨⟩
      row := List.mem_singleton.mpr rfl }
  have start : (UserPool.start now row reqs).Holding
      (fun t call pick s => s.perform ttl t call pick)
      (Sound ttl (Refreshed reqs))
      (Rely ttl (Refreshed reqs)) (fun _ _ _ _ => True)
      (Needs (Refreshed reqs)) (fun _ _ _ => True) :=
    ⟨sound, fun t => prep_serveUser sound rfl fun update isUpdate => ⟨t, update, isUpdate, rfl⟩⟩
  have holding := Pool.holding_reachable reached Rely.refl (fun _ _ _ _ => Rely.trans)
    (fun _ _ pick _ sound needs _ => by exact keeping_perform sound needs pick)
    (fun milliseconds _ sound _ => by exact keeping_elapse sound milliseconds) start
  exact holding.state.toGuarded

/-! ## Sample runs -/

def sampleUser : User where
  id := 7
  group := "default"
  email := "user@example.com"
  quota := 100
  status := 1
  role := 1
  username := "user"
  setting := "old"
  authVersion := 1

def sampleUserRequests : ℕ → UserRequest
  | 1 => .bump fun user => { user with status := 2 }
  | 2 => .updateField (.status 1)
  | _ => .getUserCache

def usersAfter (actions : List (Action UserChoice ℕ)) : UserPool :=
  actions.foldl (UserPool.next 60) (UserPool.start 0 sampleUser sampleUserRequests)

def userSteps (t count : ℕ) : List (Action UserChoice ℕ) :=
  List.replicate count (.perform t ⟨true, false⟩)

theorem never_undone_sample :
    Guarded (Refreshed sampleUserRequests)
      (usersAfter (userSteps 0 6 ++ userSteps 1 6 ++ userSteps 3 6)).state :=
  never_undone (Reachable.of_run (userSteps 0 6 ++ userSteps 1 6 ++ userSteps 3 6)
    (UserPool.start 0 sampleUser sampleUserRequests) (by decide))

/-- Thread 3 returns the version below the fence that was published after it compared the
floors, and thread 2 leaves the status of the first version in the hash of the second. -/
theorem never_undone_not_at_once :
    ¬GuardedAtOnce (usersAfter (userSteps 0 6 ++ userSteps 3 3 ++ userSteps 1 2 ++
        userSteps 3 1)).state ∧
      ¬GuardedAtOnce (usersAfter (userSteps 0 6 ++ userSteps 1 6 ++ userSteps 2 2)).state := by
  refine ⟨fun atOnce => ?_, fun atOnce => ?_⟩
  · have fenced := atOnce.fenced 3 sampleUser.toBaseUser 0 2 (by decide)
    revert fenced
    decide
  · rcases atOnce.fields ⟨{ sampleUser.toBaseUser with authVersion := 2 }, some 100, 60000⟩
      (by decide) .status with ⟨row, isRow, sameVersion, sameStatus⟩
    have rows : (usersAfter (userSteps 0 6 ++ userSteps 1 6 ++ userSteps 2 2)).state.rows =
        [{ sampleUser with status := 2, authVersion := 2 }, sampleUser] := by
      decide
    rw [rows] at isRow
    revert row
    decide

end NewApi.Auth.UserCache
