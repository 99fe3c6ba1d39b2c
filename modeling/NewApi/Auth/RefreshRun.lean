import NewApi.Auth.RefreshChain

/-!
# Runs of concurrent refreshes

Any number of clients refresh one session at once.
-/

namespace NewApi.Auth

open Concurrent (Action Keeps Pool Program)
open Transition
open NewApi.Auth renaming hashRefreshSecret → hashSecret, deriveNextRefreshSecret → nextSecret

namespace SessionSystem.Refreshing

/-! ## Steps -/

section Steps

variable (hmac : String → String → String) (sid first : String)

/-- What a call of a refresh needs when it is made; the others are not made. -/
def Needs (t : ℕ) (call : SessionCall) (s : SessionSystem) : Prop :=
  match call with
  | .rotate _ shown nextHash _ _ =>
    ∃ secret, shown = hashSecret hmac secret ∧
      nextHash = hashSecret hmac (nextSecret hmac sid secret)
  | .returnRefreshed secret result =>
    Returned hmac sid first t secret result s.notes
  | .advance _ _ _ | .findCandidate _ _ _ | .findActive | .returnActive => False
  | _ => True

/-- The rotations form one chain, and the row is valid. -/
structure Sound (s : SessionSystem) : Prop extends
    SingleWinner hmac sid first s where
  validSID : s.row.sid ≠ ""
  validUserID : 0 < s.row.userID
  validVersion : 0 < s.row.version
  validUserAuthVersion : 0 < s.row.userAuthVersion

/-- What the steps of other clients leave to a client. -/
structure Rely (t : ℕ) (s later : SessionSystem) : Prop where
  notes : ∃ more, later.notes = more ++ s.notes ∧ ∀ note ∈ more, note.thread ≠ t
  inactive : ∀ now, ¬s.row.Active now → ¬later.row.Active now
  userID : later.row.userID = s.row.userID
  sound : Sound hmac sid first s → Sound hmac sid first later

variable {hmac : String → String → String} {sid first : String}
  {s later final : SessionSystem} {t other : ℕ}

theorem Rely.refl (t : ℕ) (s : SessionSystem) :
    Rely hmac sid first t s s :=
  ⟨⟨[], rfl, by simp⟩, fun _ => id, rfl, id⟩

theorem Rely.trans (one : Rely hmac sid first t s later) (two : Rely hmac sid first t later final) :
    Rely hmac sid first t s final where
  notes := by
    rcases one.notes with ⟨more, isLater, others⟩
    rcases two.notes with ⟨further, isFinal, othersFurther⟩
    refine ⟨further ++ more, by rw [isFinal, isLater, List.append_assoc], ?_⟩
    intro note inBoth
    rcases List.mem_append.mp inBoth with inFurther | inMore
    · exact othersFurther note inFurther
    · exact others note inMore
  inactive now inactive := two.inactive now (one.inactive now inactive)
  userID := two.userID.trans one.userID
  sound sound := two.sound (one.sound sound)

def Marks : SessionCall → SessionNoteKind → Prop
  | .begin, kind => kind = .began
  | .find _ _, kind => kind = .unread
  | .countActive _ _, kind => kind = .unread
  | .findForRotation _ _ _ _, kind => kind = .unread ∨ ∃ presented, kind = .looked presented
  | .revokeReused _ _, kind => kind = .revoked
  | .revoke _ _, kind => kind = .revoked
  | .returnRevoked, kind => kind = .returnedRevoked
  | .returnRefreshed secret result, kind => kind = .returnedRefreshed secret result
  | _, _ => False

/-- What a call does to the row and the notes. -/
inductive Outcome (t : ℕ) (call : SessionCall) (s : SessionSystem) :
    SessionSystem → Prop where
  | same (later : SessionSystem) (row : later.row = s.row)
      (notes : later.notes = s.notes) : Outcome t call s later
  | marked (later : SessionSystem) (kind : SessionNoteKind) (row : later.row = s.row)
      (notes : later.notes = ⟨t, kind⟩ :: s.notes) (marks : Marks call kind)
      (notRevoked : kind ≠ .revoked) : Outcome t call s later
  | revoked (later : SessionSystem) (now : ℤ) (reason : String)
      (row : later.row = s.row.revoke now reason)
      (notes : later.notes = ⟨t, .revoked⟩ :: s.notes)
      (marks : Marks call .revoked) : Outcome t call s later
  | rotated (later : SessionSystem) (userID : ℤ) (shown nextHash : String)
      (now graceEnd : ℤ)
      (isCall : call = .rotate userID shown nextHash now graceEnd)
      (live : s.row.Active now) (current : s.row.refreshHash = shown)
      (row : later.row = s.row.rotate nextHash now graceEnd)
      (notes : later.notes = ⟨t, .rotated shown nextHash⟩ :: s.notes) :
      Outcome t call s later

theorem outcome_revokeIf {call : SessionCall} (marks : Marks call .revoked) (cond : Bool)
    (now : ℤ) (reason : String) :
    Outcome t call s (s.revokeIf t cond now reason).2 := by
  simp only [revokeIf]
  split
  · exact .revoked _ now reason rfl rfl marks
  · exact .same _ rfl rfl

/-- Every call does one of the things that it can do. -/
theorem outcome_perform (t : ℕ) {call : SessionCall} (pick : SessionChoice)
    {s : SessionSystem} (needs : Needs hmac sid first t call s) :
    Outcome t call s (s.perform t call pick).2 := by
  cases call with
  | begin => exact .marked _ .began rfl rfl rfl (by simp)
  | returnRevoked => exact .marked _ .returnedRevoked rfl rfl rfl (by simp)
  | returnRefreshed _ _ => exact .marked _ _ rfl rfl rfl (by simp)
  | now | readCache | issueAccessToken => exact .same _ rfl rfl
  | writeCache _ _ _ =>
    refine attempt_holds ?_ (.same _ rfl rfl)
    simp only [writeCache]
    split <;> exact .same _ rfl rfl
  | find _ due =>
    refine query_holds ?_ (.marked _ .unread rfl rfl rfl (by simp))
    cases due with
    | none => exact .same _ rfl rfl
    | some _ => exact .same _ (hold_row _) (hold_notes _)
  | findForRotation userID due shown now =>
    have unread : Outcome t (.findForRotation userID due shown now) s
        (s.noted t .unread) := .marked _ .unread rfl rfl (.inl rfl) (by simp)
    refine query_holds ?_ unread
    simp only [look]
    split
    next sess _ =>
      refine .marked _ (.looked (sess.presented shown now)) (hold_row _) ?_
        (.inr ⟨_, rfl⟩) (by simp)
      simp only [noted, hold_notes]
    · exact unread
  | countActive _ _ =>
    exact query_holds (.same _ rfl rfl) (.marked _ .unread rfl rfl rfl (by simp))
  | rotate userID shown nextHash now graceEnd =>
    refine attempt_holds ?_ (.same _ rfl rfl)
    simp only [rotate]
    split
    next matched =>
      exact .rotated _ userID shown nextHash now graceEnd rfl matched.2.1 matched.2.2 rfl rfl
    · exact .same _ rfl rfl
  | revokeReused userID now =>
    have marks : Marks (.revokeReused userID now) .revoked := rfl
    exact attempt_holds (outcome_revokeIf marks _ now _) (.same _ rfl rfl)
  | revoke now reason =>
    have marks : Marks (.revoke now reason) .revoked := rfl
    exact attempt_holds (outcome_revokeIf marks _ now reason) (.same _ rfl rfl)
  | getUserCache | getUserById => exact query_holds (.same _ rfl rfl) (.same _ rfl rfl)
  | returnActive | advance _ _ _ | findCandidate _ _ _ | findActive => exact absurd needs id

theorem Outcome.notes {call : SessionCall} (out : Outcome t call s later) :
    ∃ more, later.notes = more ++ s.notes ∧ ∀ note ∈ more, note.thread = t := by
  cases out with
  | same _ notes => exact ⟨[], notes, by simp⟩
  | marked _ _ notes _ _ => exact ⟨[_], notes, by simp⟩
  | revoked _ _ _ notes _ => exact ⟨[_], notes, by simp⟩
  | rotated _ _ _ _ _ _ _ _ _ notes => exact ⟨[_], notes, by simp⟩

theorem Outcome.inactive {call : SessionCall} (out : Outcome t call s later)
    {now : ℤ} (inactive : ¬s.row.Active now) : ¬later.row.Active now := by
  cases out with
  | same row _ => rwa [row]
  | marked _ row _ _ _ => rwa [row]
  | revoked _ _ row _ _ =>
    rw [row]
    rintro ⟨active, _⟩
    cases active
  | rotated _ _ _ _ _ _ _ _ row _ =>
      rw [row]
      exact inactive

theorem Outcome.userID {call : SessionCall} (out : Outcome t call s later) :
    later.row.userID = s.row.userID := by
  cases out with
  | same row _ => rw [row]
  | marked _ row _ _ _ => rw [row]
  | revoked _ _ row _ _ => rw [row]; rfl
  | rotated _ _ _ _ _ _ _ _ row _ => rw [row]; rfl

theorem SingleWinner.marked (winner : SingleWinner hmac sid first s)
    {kind : SessionNoteKind} (plain : (SessionNote.mk t kind).rotation? = none)
    (notes : later.notes = ⟨t, kind⟩ :: s.notes)
    (refreshHash : later.row.refreshHash = s.row.refreshHash)
    (previous : later.row.previousRefreshHash = s.row.previousRefreshHash)
    (revoked : (∃ note ∈ later.notes, note.kind = .revoked) → later.row.status ≠ .active)
    (returned : ∀ secret result, kind = .returnedRefreshed secret result →
      Returned hmac sid first t secret result s.notes) :
    SingleWinner hmac sid first later where
  links := by
    have same : rotations later.notes = rotations s.notes := by
      rw [notes, rotations, List.filterMap_cons_none plain, rotations]
    rw [generation, same]
    exact winner.links
  current := by
    rw [refreshHash, notes, generation_cons_none plain]
    exact winner.current
  previous := by
    rw [previous, notes, generation_cons_none plain]
    exact winner.previous
  revoked := revoked
  returned := by
    intro after thread' secret result past isNotes
    rw [notes] at isNotes
    cases after with
    | nil =>
      rcases List.cons.inj isNotes with ⟨isNote, rfl⟩
      cases isNote
      exact returned secret result rfl
    | cons _ after =>
      exact winner.returned after thread' secret result past (List.cons.inj isNotes).2

theorem SingleWinner.same (winner : SingleWinner hmac sid first s)
    (row : later.row = s.row) (notes : later.notes = s.notes) :
    SingleWinner hmac sid first later where
  links := by
    rw [notes]
    exact winner.links
  current := by
    rw [row, notes]
    exact winner.current
  previous := by
    rw [row, notes]
    exact winner.previous
  revoked := by
    rw [row, notes]
    exact winner.revoked
  returned := by
    rw [notes]
    exact winner.returned

theorem SingleWinner.rotated (injective : Function.Injective (hashSecret hmac))
    (winner : SingleWinner hmac sid first s) {secret : String} {now graceEnd : ℤ}
    (current : s.row.refreshHash = hashSecret hmac secret)
    (live : s.row.status = .active) (row : later.row = s.row.rotate (hashSecret hmac
      (nextSecret hmac sid secret)) now graceEnd)
    (notes : later.notes = ⟨t, .rotated (hashSecret hmac secret) (hashSecret hmac
        (nextSecret hmac sid secret))⟩ :: s.notes) :
    SingleWinner hmac sid first later := by
  have isSecret : secret = secretAt hmac sid first (generation s.notes) :=
    injective (current.symm.trans winner.current)
  subst isSecret
  have isRotations : rotations later.notes = (digestAt hmac sid first (generation s.notes),
        digestAt hmac sid first (generation s.notes + 1)) ::
          rotations s.notes := by
    rw [notes]
    rfl
  have isGen : generation later.notes = generation s.notes + 1 := by
    rw [generation, isRotations]
    rfl
  refine ⟨?_, ?_, ?_, ?_, ?_⟩
  · rw [isGen, isRotations, List.reverse_cons, winner.links, List.range_succ, List.map_append]
    rfl
  · rw [isGen, row]
    rfl
  · rw [isGen, row]
    exact winner.current
  · rintro ⟨note, isNote, revoked⟩
    rw [notes] at isNote
    rcases List.mem_cons.mp isNote with rfl | isOld
    · cases revoked
    · exact absurd live (winner.revoked ⟨note, isOld, revoked⟩)
  · intro after other secret result past isNotes
    rw [notes] at isNotes
    cases after with
    | nil => cases (List.cons.inj isNotes).1
    | cons _ after =>
      exact winner.returned after other secret result past (List.cons.inj isNotes).2

variable {call : SessionCall}

/-- What a call can do keeps the session sound. -/
theorem Outcome.sound (injective : Function.Injective (hashSecret hmac))
    (out : Outcome t call s later) (needs : Needs hmac sid first t call s)
    (sound : Sound hmac sid first s) :
    Sound hmac sid first later := by
  have winner : SingleWinner hmac sid first later := by
    cases out with
    | same row notes => exact SingleWinner.same sound.toSingleWinner row notes
    | marked kind row notes marks notRevoked =>
      refine SingleWinner.marked sound.toSingleWinner ?_ notes (by rw [row]) (by rw [row]) ?_ ?_
      · cases kind with
        | rotated _ _ =>
          cases call <;> simp [Marks] at marks
        | _ => rfl
      · rintro ⟨note, isNote, isRevoked⟩
        rw [row]
        rw [notes] at isNote
        rcases List.mem_cons.mp isNote with rfl | isOld
        · exact absurd isRevoked notRevoked
        · exact sound.revoked ⟨note, isOld, isRevoked⟩
      · rintro secret _ rfl
        cases call with
        | returnRefreshed _ _ =>
          cases marks
          exact needs
        | _ => simp [Marks] at marks
    | revoked _ _ row notes _ =>
      refine SingleWinner.marked sound.toSingleWinner rfl notes (by rw [row]; rfl)
        (by rw [row]; rfl) ?_ (by rintro _ _ ⟨⟩)
      intro _ live
      rw [row] at live
      cases live
    | rotated _ _ _ _ _ isCall live current row notes =>
        subst isCall
        rcases needs with ⟨_, rfl, rfl⟩
        exact SingleWinner.rotated injective sound.toSingleWinner current live.1 row notes
  have kept : later.row.sid = s.row.sid ∧ later.row.userID = s.row.userID ∧
      later.row.version = s.row.version ∧
        later.row.userAuthVersion = s.row.userAuthVersion := by
    cases out with
    | same row _ => simp [row]
    | marked _ row _ _ _ => simp [row]
    | revoked _ _ row _ _ => simp [row, UserSession.revoke]
    | rotated _ _ _ _ _ _ _ _ row _ => simp [row, UserSession.rotate]
  rcases kept with ⟨sameSID, sameUserID, sameVer, sameUserAuthVersion⟩
  exact ⟨winner, sameSID ▸ sound.validSID, sameUserID ▸ sound.validUserID,
    sameVer ▸ sound.validVersion, sameUserAuthVersion ▸ sound.validUserAuthVersion⟩

theorem keeping_perform (injective : Function.Injective (hashSecret hmac))
    (sound : Sound hmac sid first s)
    (needs : Needs hmac sid first t call s) (pick : SessionChoice) :
    Sound hmac sid first (s.perform t call pick).2 ∧
      ∀ other, other ≠ t → Rely hmac sid first other s (s.perform t call pick).2 := by
  have out := outcome_perform t pick needs
  refine ⟨out.sound injective needs sound, ?_⟩
  intro _ apart
  rcases out.notes with ⟨more, notes, ofThread⟩
  refine ⟨⟨more, notes, ?_⟩, fun _ => out.inactive, out.userID, out.sound injective needs⟩
  intro note inMore isOther
  exact apart (isOther.symm.trans (ofThread note inMore))

theorem rely_elapse (nanos : ℕ) : Rely hmac sid first t s (s.elapse nanos) :=
  ⟨⟨[], rfl, by simp⟩, fun _ => id, rfl, fun sound =>
    ⟨SingleWinner.same sound.toSingleWinner rfl rfl, sound.validSID, sound.validUserID,
      sound.validVersion, sound.validUserAuthVersion⟩⟩

theorem keeping_elapse (sound : Sound hmac sid first s) (nanos : ℕ) :
    Sound hmac sid first (s.elapse nanos) ∧
      ∀ t, Rely hmac sid first t s (s.elapse nanos) := by
  have rely : ∀ t, Rely hmac sid first t s (s.elapse nanos) :=
    fun _ => rely_elapse nanos
  exact ⟨(rely 0).sound sound, rely⟩

end Steps

/-! ## The programs of one refresh -/

section Programs

variable (hmac : String → String → String) (sid first secret : String)
  (t : ℕ) (base : List SessionNote)

/-- The request is being served: what the thread has noted since the notes of the base, and that
its looks judged the secret as the chain was. -/
structure Serving (kinds : SessionNoteKind → Prop) (s : SessionSystem) : Prop where
  sound : Sound hmac sid first s
  noted : ∃ during, s.notes = during ++ base ∧
    ∀ note ∈ during, note.thread = t → kinds note.kind
  looks : LooksJudged hmac sid first secret t s.notes

def Noted (kind : SessionNoteKind) (s : SessionSystem) : Prop :=
  ∃ during, s.notes = during ++ base ∧ ⟨t, kind⟩ ∈ during

variable {hmac : String → String → String} {sid first secret : String}
  {t : ℕ} {base past : List SessionNote} {s later : SessionSystem}
  {kinds : SessionNoteKind → Prop}

theorem Serving.stable (serving : Serving hmac sid first secret t base kinds s)
    (rely : Rely hmac sid first t s later) :
    Serving hmac sid first secret t base kinds later := by
  rcases rely.notes with ⟨more, notes, others⟩
  rcases serving.noted with ⟨during, isDuring, ofKinds⟩
  refine ⟨rely.sound serving.sound, ⟨more ++ during, ?_, ?_⟩, ?_⟩
  · rw [notes, isDuring, List.append_assoc]
  · intro note inBoth ofThread
    rcases List.mem_append.mp inBoth with inMore | inDuring
    · exact absurd ofThread (others note inMore)
    · exact ofKinds note inDuring ofThread
  · rw [notes]
    exact serving.looks.later others

theorem Serving.mono {weaker : SessionNoteKind → Prop}
    (serving : Serving hmac sid first secret t base kinds s)
    (weakens : ∀ kind, kinds kind → weaker kind) :
    Serving hmac sid first secret t base weaker s := by
  rcases serving.noted with ⟨during, isDuring, ofKinds⟩
  exact ⟨serving.sound, ⟨during, isDuring, fun note inDuring ofThread =>
    weakens _ (ofKinds note inDuring ofThread)⟩, serving.looks⟩

variable {kind : SessionNoteKind} {call : SessionCall}

theorem Noted.extend (noted : Noted t base kind s)
    {more : List SessionNote} (notes : later.notes = more ++ s.notes) :
    Noted t base kind later := by
  rcases noted with ⟨during, isDuring, inDuring⟩
  exact ⟨more ++ during, by rw [notes, isDuring, List.append_assoc],
    List.mem_append_right _ inDuring⟩

theorem Noted.stable (noted : Noted t base kind s) (rely : Rely hmac sid first t s later) :
    Noted t base kind later := by
  rcases rely.notes with ⟨_, notes, _⟩
  exact noted.extend notes

theorem Serving.note {weaker : SessionNoteKind → Prop}
    (serving : Serving hmac sid first secret t base kinds s)
    (sound : Sound hmac sid first later) (notes : later.notes = ⟨t, kind⟩ :: s.notes)
    (weakens : ∀ kind, kinds kind → weaker kind) (fits : weaker kind)
    (judged : ∀ presented, kind = .looked presented →
      Judged hmac sid first secret s.notes presented) :
    Serving hmac sid first secret t base weaker later := by
  rcases serving.noted with ⟨during, isDuring, ofKinds⟩
  refine ⟨sound, ⟨⟨t, kind⟩ :: during, ?_, ?_⟩, ?_⟩
  · rw [notes, isDuring, List.cons_append]
  · intro note inBoth ofThread
    rcases List.mem_cons.mp inBoth with rfl | inDuring
    · exact fits
    · exact weakens _ (ofKinds note inDuring ofThread)
  · rw [notes]
    refine ⟨?_, serving.looks⟩
    rintro presented ⟨⟩
    exact judged presented rfl

theorem noted_of_cons (serving : Serving hmac sid first secret t base kinds s)
    (notes : later.notes = ⟨t, kind⟩ :: s.notes) :
    Noted t base kind later := by
  rcases serving.noted with ⟨during, isDuring, _⟩
  exact ⟨⟨t, kind⟩ :: during, by rw [notes, isDuring, List.cons_append], List.mem_cons_self⟩

def Plain (kinds : SessionNoteKind → Prop) (call : SessionCall) : Prop :=
  (∀ kind, Marks call kind → kinds kind ∧ ∀ presented, kind ≠ .looked presented) ∧
    ∀ userID shown nextHash now graceEnd, call ≠ .rotate userID shown nextHash now graceEnd

theorem Serving.perform (injective : Function.Injective (hashSecret hmac))
    (serving : Serving hmac sid first secret t base kinds s) (needs : Needs hmac sid first t call s)
    (plain : Plain kinds call) (pick : SessionChoice) :
    Serving hmac sid first secret t base kinds (s.perform t call pick).2 := by
  have out := outcome_perform t pick needs
  have sound := out.sound injective needs serving.sound
  cases out with
  | same _ notes =>
    rcases serving with ⟨_, _, _⟩
    refine ⟨sound, ?_, ?_⟩
    · rwa [notes]
    · rwa [notes]
  | marked kind _ notes marks _ =>
    exact serving.note sound notes (fun _ => id) (plain.1 kind marks).1
      fun presented isLook => absurd isLook ((plain.1 kind marks).2 presented)
  | revoked _ _ _ notes marks =>
    exact serving.note sound notes (fun _ => id) (plain.1 _ marks).1 (by rintro _ ⟨⟩)
  | rotated _ _ _ _ _ isCall _ _ _ _ => exact absurd isCall (plain.2 _ _ _ _ _)

variable {Result Value : Type} {post : Result → SessionSystem → Prop}

abbrev Prepared {Result : Type} (hmac : String → String → String)
    (sid first : String) (t : ℕ) (post : Result → SessionSystem → Prop)
    (program : SessionProgram Result) (s : SessionSystem) : Prop :=
  Keeps (fun t call pick s => s.perform t call pick) (Rely hmac sid first t) (fun _ _ _ => True)
    (Needs hmac sid first t) t post program s

theorem prep_bind {middle : Value → SessionSystem → Prop} {program : SessionProgram Value}
    {rest : Value → SessionProgram Result} (prepared : Prepared hmac sid first t middle program s)
    (goes : ∀ val later, middle val later → Prepared hmac sid first t post (rest val) later) :
    Prepared hmac sid first t post (program >>= rest) s :=
  Keeps.bind (Rely.refl t) (prepared.mono goes)

theorem prep_done {result : Result} {holds : Result → Prop}
    (serving : Serving hmac sid first secret t base kinds s) (ends : holds result) :
    Prepared hmac sid first t (fun result after =>
      Serving hmac sid first secret t base kinds after ∧ holds result)
      (.done result) s :=
  fun _ rely => ⟨serving.stable rely, ends⟩

theorem prep_call (injective : Function.Injective (hashSecret hmac))
    {next : call.Answer → SessionProgram Result}
    (serving : Serving hmac sid first secret t base kinds s)
    (needed : ∀ state, Needs hmac sid first t call state) (plain : Plain kinds call)
    (goes : ∀ pick later, Rely hmac sid first t s later →
      Serving hmac sid first secret t base kinds
        (later.perform t call pick).2 → Prepared hmac sid first t post
          (next (later.perform t call pick).1) (later.perform t call pick).2) :
    Prepared hmac sid first t post (askSession call >>= next) s := by
  intro later rely
  refine ⟨needed later, ?_⟩
  intro pick _
  exact goes pick later rely ((serving.stable rely).perform injective (needed later) plain pick)

theorem prep_step {next : call.Answer → SessionProgram Result}
    (needed : ∀ later, Rely hmac sid first t s later →
      Needs hmac sid first t call later)
    (goes : ∀ pick later, Rely hmac sid first t s later →
      Prepared hmac sid first t post
        (next (later.perform t call pick).1) (later.perform t call pick).2) :
    Prepared hmac sid first t post (askSession call >>= next) s :=
  fun later rely => ⟨needed later rely, fun pick _ => goes pick later rely⟩

theorem prep_now {next : ℤ → SessionProgram Result} (goes : ∀ later, Rely hmac sid first t s later →
      Prepared hmac sid first t post (next later.now) later) :
    Prepared hmac sid first t post (askSession .now >>= next) s := by
  intro later rely
  exact ⟨trivial, fun _ _ => goes later rely⟩

theorem prep_unixNow {next : ℤ → SessionProgram Result}
    (goes : ∀ later, Rely hmac sid first t s later →
      Prepared hmac sid first t post (next (unix later.now)) later) :
    Prepared hmac sid first t post (unixNow >>= next) s :=
  prep_now goes

/-! ### The cache -/

section Cache

variable {ttl : ℤ}

theorem plain_writeCache (entry : UserSessionCacheEntry) (expiry : ℤ)
    (tombstone : Bool) : Plain kinds (.writeCache entry expiry tombstone) :=
  ⟨fun _ marks => absurd marks id, by simp⟩

variable (injective : Function.Injective (hashSecret hmac))

include injective

variable (serving : Serving hmac sid first secret t base kinds s)

include serving

theorem prep_denyCache (entry : UserSessionCacheEntry) (tombstone : Bool) :
    Prepared hmac sid first t (fun result after =>
      Serving hmac sid first secret t base kinds after ∧
        (∀ kind, Noted t base kind s → Noted t base kind after) ∧
        ∀ err, result = .error err → err = .failed ∨ err = .inactive)
      (writeDenySessionCache ttl entry tombstone) s := by
  refine prep_now ?_
  intro timing toTiming
  refine prep_call injective (serving.stable toTiming) (fun _ => trivial)
    (plain_writeCache entry _ tombstone) ?_
  intro pick writing toWriting atAfter _ rely
  refine ⟨atAfter.stable rely, ?_, ?_⟩
  · intro _ noted
    have needs : Needs hmac sid first t (.writeCache entry
        (denyExpiration ttl entry.expiresAt timing.now) tombstone) writing :=
      trivial
    rcases (outcome_perform t pick needs).notes with ⟨_, notes, _⟩
    exact (((noted.stable toTiming).stable toWriting).extend notes).stable rely
  · intro _ failure
    revert failure
    simp only [cacheOutcome]
    split <;> rintro ⟨⟩ <;> simp

theorem prep_activeCache (entry : UserSessionCacheEntry) (due : ℤ) :
    Prepared hmac sid first t (fun _ after =>
      Serving hmac sid first secret t base kinds after ∧ True)
      (writeActiveSessionCache entry due) s := by
  refine prep_now ?_
  intro _ toTiming
  have timing := serving.stable toTiming
  split
  · exact prep_done timing trivial
  split
  · exact prep_done timing trivial
  split
  · exact prep_done timing trivial
  refine prep_call injective timing (fun _ => trivial) (plain_writeCache _ _ _) ?_
  intro pick writing _ atWriting
  split
  · exact prep_done atWriting trivial
  refine prep_now ?_
  intro _ toCompleting
  have atCompleting := atWriting.stable toCompleting
  split
  · exact prep_done atCompleting trivial
  split
  · exact prep_done atCompleting trivial
  · exact prep_done atCompleting trivial

theorem prep_confirmSnapshot
    (unread : kinds .unread) {sess : UserSession} (validSID : sess.sid ≠ "")
    (validUserID : 0 < sess.userID) (validVersion : 0 < sess.version)
    (validUserAuthVersion : 0 < sess.userAuthVersion) :
    Prepared hmac sid first t (fun result after =>
      Serving hmac sid first secret t base kinds after ∧
        ∀ err, result = .error err → err = .inactive ∨ err = .failed ∧ Noted t base .unread after)
      (confirmUserSessionActiveSnapshot sess) s := by
  simp only [confirmUserSessionActiveSnapshot]
  rw [if_neg (by
    rintro (isEmpty | notPositive | notPositive | notPositive)
    · exact validSID isEmpty
    · omega
    · omega
    · omega)]
  refine prep_unixNow ?_
  intro timing toTiming
  have plain : Plain kinds (.countActive sess (unix timing.now)) :=
    ⟨fun _ marks => ⟨marks ▸ unread, fun presented => by rw [marks]; simp⟩, by simp⟩
  refine prep_call injective (serving.stable toTiming) (fun _ => trivial) plain ?_
  intro pick counting toCounting atCounting
  split
  next answer =>
    have notes : (counting.perform t (.countActive sess (unix timing.now))
        pick).2.notes = ⟨t, .unread⟩ :: counting.notes := by
      simp only [SessionSystem.perform, query] at answer ⊢
      split at answer
      · cases answer
      next failed => simp [failed, noted]
    have noted := noted_of_cons ((serving.stable toTiming).stable toCounting) notes
    intro _ rely
    refine ⟨atCounting.stable rely, ?_⟩
    rintro _ ⟨⟩
    exact .inr ⟨rfl, noted.stable rely⟩
  next count _ =>
    split
    · exact fun _ rely => ⟨atCounting.stable rely, by simp⟩
    · exact fun _ rely => ⟨atCounting.stable rely, by simp⟩

theorem prep_cacheActiveSnapshot
    (unread : kinds .unread) (sess : UserSession) (live : sess.status = .active)
    (validSID : sess.sid ≠ "") (validUserID : 0 < sess.userID)
    (validVersion : 0 < sess.version) (validUserAuthVersion : 0 < sess.userAuthVersion)
    (due : ℤ) :
    Prepared hmac sid first t (fun result after =>
      Serving hmac sid first secret t base kinds after ∧
        ∀ err, result = .error err → err = .inactive ∨ err = .failed ∧ Noted t base .unread after)
      (cacheActiveSnapshot ttl sess due) s := by
  simp only [cacheActiveSnapshot, writeUserSessionCache]
  rw [if_pos (show sess.cacheEntry.status = .active from live)]
  refine prep_bind (prep_activeCache injective serving _ _) ?_
  rintro _ _ ⟨atWriting, _⟩
  split
  · refine prep_bind (prep_confirmSnapshot injective atWriting
      unread validSID validUserID validVersion validUserAuthVersion) ?_
    rintro _ _ ⟨atConfirming, fails⟩
    split
    next err =>
      intro _ rely
      refine ⟨atConfirming.stable rely, ?_⟩
      rintro _ ⟨⟩
      rcases fails err rfl with inactive | ⟨failed, noted⟩
      · exact .inl inactive
      · exact .inr ⟨failed, noted.stable rely⟩
    · exact fun _ rely => ⟨atConfirming.stable rely, by simp⟩
  · exact fun _ rely => ⟨atWriting.stable rely, by simp⟩
  · exact fun _ rely => ⟨atWriting.stable rely, by simp⟩

theorem prep_getUserSessionCache :
    Prepared hmac sid first t (fun _ after =>
      Serving hmac sid first secret t base kinds after ∧ True) (getUserSessionCache sid) s := by
  have plain : Plain kinds .readCache := ⟨fun _ marks => absurd marks id, by simp⟩
  refine prep_call injective serving (fun _ => trivial) plain ?_
  intro pick reading _ atReading
  split
  · exact prep_done atReading trivial
  split
  · exact prep_done atReading trivial
  refine prep_unixNow ?_
  intro _ toTiming
  have timing := atReading.stable toTiming
  split
  · exact prep_done timing trivial
  · exact prep_done timing trivial

theorem prep_fillUserSessionCache (unread : kinds .unread) :
    Prepared hmac sid first t (fun result after =>
      Serving hmac sid first secret t base kinds after ∧
        ∀ err, result = .error err → err = .inactive ∨ Noted t base .unread after)
      (fillUserSessionCache ttl) s := by
  refine prep_now ?_
  intro capturing toCapturing reading toReading
  refine ⟨trivial, ?_⟩
  intro pick _
  have atReading := (serving.stable toCapturing).stable toReading
  have plain : Plain kinds (.find none (some (capturing.now + userCacheTTLSeconds ttl * second))) :=
    ⟨fun _ marks => ⟨marks ▸ unread, fun presented => by rw [marks]; simp⟩, by simp⟩
  have needs : Needs hmac sid first t (.find none (some (capturing.now +
      userCacheTTLSeconds ttl * second))) reading := trivial
  have atFound := atReading.perform injective needs plain pick
  cases isOk : pick.succeeds with
  | false =>
    simp only [SessionSystem.perform, query, isOk, Bool.false_eq_true, if_false] at atFound ⊢
    have noted : Noted t base .unread (reading.noted t .unread) :=
      noted_of_cons atReading rfl
    intro _ rely
    exact ⟨atFound.stable rely, fun _ _ => .inr (noted.stable rely)⟩
  | true =>
    simp only [SessionSystem.perform, query, isOk, if_true] at atFound ⊢
    change Prepared _ _ _ _ _ (unixNow >>= fun now => if reading.row.Active now then _ else _) _
    refine prep_unixNow ?_
    intro _ toTiming
    split
    next live =>
      refine (prep_cacheActiveSnapshot injective (atFound.stable toTiming) unread
        reading.row live.1 atReading.sound.validSID atReading.sound.validUserID
        atReading.sound.validVersion atReading.sound.validUserAuthVersion _).mono ?_
      rintro result _ ⟨atAfter, fails⟩
      exact ⟨atAfter, fun err failure =>
        (fails err failure).imp_right And.right⟩
    next =>
      refine prep_bind (prep_denyCache injective (atFound.stable toTiming) _ false) ?_
      rintro _ _ ⟨atWriting, _⟩ _ rely
      refine ⟨atWriting.stable rely, ?_⟩
      rintro _ ⟨⟩
      exact .inl rfl

theorem prep_getUserSessionCached (unread : kinds .unread) (validSID : sid ≠ "") :
    Prepared hmac sid first t (fun result after =>
      Serving hmac sid first secret t base kinds after ∧
        ∀ err, result = .error err → err = .inactive ∨ Noted t base .unread after)
      (getUserSessionCached ttl sid) s := by
  simp only [getUserSessionCached]
  rw [if_neg validSID]
  refine prep_bind (prep_getUserSessionCache injective serving) ?_
  rintro _ _ ⟨atReading, _⟩
  split
  · exact fun _ rely => ⟨atReading.stable rely, by simp⟩
  · exact fun _ rely => ⟨atReading.stable rely, by simp⟩
  · exact prep_fillUserSessionCache injective atReading unread

/-! ### Revocations -/

theorem prep_writeDenyFence (sess : UserSession) (now : ℤ) (reason : String) :
    Prepared hmac sid first t (fun result after =>
      Serving hmac sid first secret t base kinds after ∧
        (∀ kind, Noted t base kind s → Noted t base kind after) ∧
        ∀ err, result = .error err → err = .failed ∨ err = .inactive)
      (writeUserSessionDenyFence ttl sess .revoking now reason) s :=
  prep_denyCache injective serving _ false

theorem prep_finishRevocation
    (returned : kinds .returnedRevoked) (sess : UserSession) (now : ℤ) (reason : String) :
    Prepared hmac sid first t (fun _ after => Serving hmac sid first secret t base kinds after ∧
        ∀ kind, Noted t base kind s → Noted t base kind after)
      (finishRevocation ttl sess now reason) s := by
  refine prep_bind (prep_denyCache injective serving _ true) ?_
  rintro _ _ ⟨atWriting, keeps, _⟩ returning toReturning
  refine ⟨trivial, ?_⟩
  intro pick _ final rely
  have plain : Plain kinds .returnRevoked :=
    ⟨fun _ marks => ⟨marks ▸ returned, fun presented => by rw [marks]; simp⟩, by simp⟩
  have needs : Needs hmac sid first t .returnRevoked returning := trivial
  refine ⟨((atWriting.stable toReturning).perform injective needs plain pick).stable rely, ?_⟩
  intro kind noted
  rcases (outcome_perform t pick needs).notes with ⟨_, notes, _⟩
  exact (((keeps kind noted).stable toReturning).extend notes).stable rely

theorem prep_revokeReusedSession (revoked : kinds .revoked) (returned : kinds .returnedRevoked)
    (userID : ℤ) (sess : UserSession) (now : ℤ) :
    Prepared hmac sid first t (fun err after => Serving hmac sid first secret t base kinds after ∧
        (err = .failed ∨ err = .inactive ∨ err = .refreshReuse ∧ Noted t base .revoked after))
      (revokeReusedSession ttl userID sess now) s := by
  refine prep_bind (prep_writeDenyFence injective serving sess now _) ?_
  rintro _ _ ⟨fencing, _, fails⟩
  split
  next err =>
    intro _ rely
    refine ⟨fencing.stable rely, ?_⟩
    rcases fails err rfl with failed | inactive
    · exact .inl failed
    · exact .inr (.inl inactive)
  have plain : Plain kinds (.revokeReused userID now) :=
    ⟨fun _ marks => ⟨marks ▸ revoked, fun presented => by rw [marks]; simp⟩, by simp⟩
  refine prep_call injective fencing (fun _ => trivial) plain ?_
  intro pick revoking toRevoking atRevoking
  split
  · exact fun _ rely => ⟨atRevoking.stable rely, by simp⟩
  next answer =>
    split
    · exact fun _ rely => ⟨atRevoking.stable rely, by simp⟩
    next hits =>
      have notes : (revoking.perform t (.revokeReused userID now) pick).2.notes =
          ⟨t, .revoked⟩ :: revoking.notes := by
        simp only [SessionSystem.perform, SessionSystem.attempt, revokeIf] at answer ⊢
        split at answer
        next isOk =>
          split at answer
          next holds => simp [isOk, holds, SessionSystem.noted]
          · cases answer
            exact absurd rfl hits
        · cases answer
      have noted := noted_of_cons (fencing.stable toRevoking) notes
      refine prep_bind (prep_finishRevocation injective atRevoking returned sess now _) ?_
      rintro _ _ ⟨atFinishing, keeps⟩ _ rely
      exact ⟨atFinishing.stable rely, .inr (.inr ⟨rfl, (keeps _ noted).stable rely⟩)⟩

omit serving

omit injective

theorem plain_find (unread : kinds .unread) (userID due : Option ℤ) :
    Plain kinds (.find userID due) :=
  ⟨fun _ marks => ⟨marks ▸ unread, fun presented => by rw [marks]; simp⟩, by simp⟩

theorem prep_revokeActiveSession (injective : Function.Injective (hashSecret hmac))
    (serving : Serving hmac sid first secret t base kinds s)
    (unread : kinds .unread) (revoked : kinds .revoked) (userID now : ℤ) (reason : String) :
    Prepared hmac sid first t (fun _ after =>
      Serving hmac sid first secret t base kinds after ∧ True)
      (revokeActiveSession userID now reason) s := by
  refine prep_call injective serving (fun _ => trivial) (plain_find unread _ _) ?_
  intro pick reading _ atReading
  split
  · exact prep_done atReading trivial
  · exact prep_done atReading trivial
  split
  · exact prep_done atReading trivial
  have plain : Plain kinds (.revoke now reason) :=
    ⟨fun _ marks => ⟨marks ▸ revoked, fun presented => by rw [marks]; simp⟩, by simp⟩
  refine prep_call injective atReading (fun _ => trivial) plain ?_
  intro pick revoking _ atRevoking
  split
  · exact prep_done atRevoking trivial
  · exact prep_done atRevoking trivial

theorem prep_revokeUserSession (injective : Function.Injective (hashSecret hmac))
    (serving : Serving hmac sid first secret t base kinds s)
    (unread : kinds .unread) (revoked : kinds .revoked) (returned : kinds .returnedRevoked)
    (userID : ℤ) (sessionID reason : String) :
    Prepared hmac sid first t (fun _ after =>
      Serving hmac sid first secret t base kinds after ∧ True)
      (revokeUserSession ttl userID sessionID reason) s := by
  simp only [revokeUserSession]
  split
  · exact prep_done serving trivial
  refine prep_unixNow ?_
  intro _ toTiming
  refine prep_call injective (serving.stable toTiming) (fun _ => trivial) (plain_find unread _ _) ?_
  intro pick reading _ atReading
  split
  · exact prep_done atReading trivial
  · exact prep_done atReading trivial
  split
  · exact prep_done atReading trivial
  refine prep_bind (prep_writeDenyFence injective atReading _ _ _) ?_
  rintro _ _ ⟨fencing, _⟩
  split
  · exact prep_done fencing trivial
  refine prep_bind (prep_revokeActiveSession injective fencing unread revoked _ _ _) ?_
  rintro _ _ ⟨atRevoking, _⟩
  split
  · exact prep_done atRevoking trivial
  · exact prep_done atRevoking trivial
  · refine prep_bind (prep_finishRevocation injective atRevoking returned _ _ _) ?_
    rintro _ _ ⟨atFinishing, _⟩
    exact prep_done atFinishing trivial

/-! ### Rotation -/

def Losing (kind : SessionNoteKind) : Prop :=
  kind = .unread ∨ kind = .looked .current

def Decided (presented : UserSession.Presented) (kind : SessionNoteKind) : Prop :=
  Losing kind ∨ kind = .looked presented

def Revoking (kind : SessionNoteKind) : Prop :=
  Decided (.previous false) kind ∨ kind = .revoked ∨ kind = .returnedRevoked

def Won (kind : SessionNoteKind) : Prop :=
  Losing kind ∨ ∃ shown nextHash, kind = .rotated shown nextHash

def Failing (err : SessionError) (kind : SessionNoteKind) : Prop :=
  kind ≠ .began ∧ kind ≠ .looked .unknown ∧ kind ≠ .looked (.previous true) ∧
    (kind = .looked (.previous false) → err = .failed ∨ err = .inactive)

variable {kind : SessionNoteKind} {now userID graceEnd : ℤ} {shown nextHash : String}

theorem Losing.failing {err : SessionError} (losing : Losing kind) : Failing err kind := by
  rcases losing with rfl | rfl <;> exact ⟨by simp, by simp, by simp, by simp⟩

theorem Won.failing {err : SessionError} (won : Won kind) : Failing err kind := by
  rcases won with losing | ⟨_, _, rfl⟩
  · exact losing.failing
  · exact ⟨by simp, by simp, by simp, by simp⟩

/-- At least two rotations since the request began, if its secret was current then. -/
def Overtaken (hmac : String → String → String) (sid first secret : String)
    (t : ℕ) (past : List SessionNote) (s : SessionSystem) : Prop :=
  ∃ during, s.notes = during ++ ⟨t, .began⟩ :: past ∧
    (hashSecret hmac secret = digestAt hmac sid first (generation past) → 2 ≤ generation during)

/-- A number of compare-and-swaps have been lost to rotations, the last one perhaps because the
session is not active any more. -/
def Lost (t : ℕ) (past : List SessionNote) (now : ℤ) (losses : ℕ) (s : SessionSystem) : Prop :=
  ∃ during, s.notes = during ++ ⟨t, .began⟩ :: past ∧
    losses ≤ generation during + 1 ∧ (losses ≤ generation during ∨ ¬s.row.Active now)

theorem Overtaken.stable (overtaken : Overtaken hmac sid first secret t past s)
    (rely : Rely hmac sid first t s later) :
    Overtaken hmac sid first secret t past later := by
  rcases overtaken with ⟨during, isDuring, enough⟩
  rcases rely.notes with ⟨more, notes, _⟩
  refine ⟨more ++ during, by rw [notes, isDuring, List.append_assoc], ?_⟩
  intro wasCurrent
  have two := enough wasCurrent
  rw [generation_append]
  omega

theorem Lost.stable {losses : ℕ} (lost : Lost t past now losses s)
    (rely : Rely hmac sid first t s later) :
    Lost t past now losses later := by
  rcases lost with ⟨during, isDuring, _, reason⟩
  rcases rely.notes with ⟨more, notes, _⟩
  refine ⟨more ++ during, by rw [notes, isDuring, List.append_assoc], ?_, ?_⟩
  · rw [generation_append]
    omega
  · rw [generation_append]
    rcases reason with _ | inactive
    · exact .inl (by omega)
    · exact .inr (rely.inactive now inactive)

theorem WasCurrent.stable {digest : String} (current : WasCurrent hmac sid first t digest s.notes)
    (rely : Rely hmac sid first t s later) :
    WasCurrent hmac sid first t digest later.notes := by
  rcases rely.notes with ⟨more, notes, _⟩
  rw [notes]
  exact current.later more

theorem judged_presented (sound : Sound hmac sid first s)
    (filled : hashSecret hmac secret ≠ "") (now : ℤ) :
    Judged hmac sid first secret s.notes (s.row.presented (hashSecret hmac secret) now) := by
  simp only [UserSession.presented]
  split
  · trivial
  split
  next isCurrent => exact isCurrent.symm.trans sound.current
  next notCurrent =>
    split
    next other =>
      refine ⟨fun same => notCurrent (sound.current.trans same.symm), ?_⟩
      intro _ isGen same
      have isPrevious := sound.previous
      rw [isGen] at isPrevious
      have isSame : s.row.previousRefreshHash = hashSecret hmac secret := isPrevious.trans same.symm
      rcases other with isEmpty | apart
      · exact filled (isSame.symm.trans isEmpty)
      · exact apart isSame
    next known =>
      simp only [not_or, not_not] at known
      have isPrevious := sound.previous
      cases isGen : generation s.notes with
      | zero =>
        rw [isGen] at isPrevious
        exact absurd isPrevious known.1
      | succ i =>
        rw [isGen] at isPrevious
        exact ⟨i, isGen, known.2.symm.trans isPrevious⟩

def Settles (hmac : String → String → String) (sid first secret : String)
    (t : ℕ) (past : List SessionNote) (result : RotationResult) (s : SessionSystem) :
    Prop :=
  match result with
  | .rotated _ =>
    Serving hmac sid first secret t (⟨t, .began⟩ :: past) Won s ∧
      WasCurrent hmac sid first t (hashSecret hmac (nextSecret hmac sid secret)) s.notes
  | .race sess =>
    Serving hmac sid first secret t (⟨t, .began⟩ :: past) (Decided (.previous true)) s ∧
      sess.refreshHash = hashSecret hmac (nextSecret hmac sid secret) ∧
      WasCurrent hmac sid first t (hashSecret hmac (nextSecret hmac sid secret)) s.notes
  | .failed .refreshInvalid =>
    Serving hmac sid first secret t (⟨t, .began⟩ :: past) (Decided .unknown) s ∧
      Overtaken hmac sid first secret t past s
  | .failed .refreshReuse =>
    Serving hmac sid first secret t (⟨t, .began⟩ :: past) Revoking s ∧
      Noted t (⟨t, .began⟩ :: past) .revoked s
  | .failed err =>
    Serving hmac sid first secret t (⟨t, .began⟩ :: past) (Failing err) s

theorem settles_failed {err : SessionError} (notInvalid : err ≠ .refreshInvalid)
    (notReuse : err ≠ .refreshReuse)
    (serving : Serving hmac sid first secret t (⟨t, .began⟩ :: past) (Failing err) s) :
    Settles hmac sid first secret t past (.failed err) s := by
  cases err with
  | refreshInvalid => exact absurd rfl notInvalid
  | refreshReuse => exact absurd rfl notReuse
  | _ => exact serving

theorem Settles.stable {result : RotationResult}
    (settles : Settles hmac sid first secret t past result s)
    (rely : Rely hmac sid first t s later) :
    Settles hmac sid first secret t past result later := by
  cases result with
  | rotated _ =>
    exact ⟨Serving.stable settles.1 rely, WasCurrent.stable settles.2 rely⟩
  | race _ =>
    exact ⟨Serving.stable settles.1 rely, settles.2.1, WasCurrent.stable settles.2.2 rely⟩
  | failed err =>
    cases err with
    | refreshInvalid =>
      exact ⟨Serving.stable settles.1 rely, Overtaken.stable settles.2 rely⟩
    | refreshReuse => exact ⟨Serving.stable settles.1 rely, Noted.stable settles.2 rely⟩
    | _ => exact Serving.stable settles rely

theorem prep_settled {result : RotationResult}
    (settles : Settles hmac sid first secret t past result s) :
    Prepared hmac sid first t (Settles hmac sid first secret t past) (.done result) s :=
  fun _ rely => settles.stable rely

theorem look_cases (t : ℕ) (userID due : ℤ) (shown : String) (now : ℤ)
    (pick : SessionChoice) (s : SessionSystem) :
    (∃ reply, reply ≠ some (some s.row) ∧ (reply = none ∨ reply = some none) ∧
      s.perform t (.findForRotation userID due shown now) pick =
        (reply, s.noted t .unread)) ∨ userID = s.row.userID ∧
        s.perform t (.findForRotation userID due shown now) pick =
          (some (some s.row), (s.hold t due).noted t (.looked (s.row.presented shown now))) := by
  simp only [SessionSystem.perform, query, look, found]
  by_cases isOk : pick.succeeds
  · by_cases owned : userID = s.row.userID
    · refine .inr ⟨owned, ?_⟩
      simp [isOk, owned]
    · refine .inl ⟨some none, by simp, .inr rfl, ?_⟩
      simp [isOk, owned]
  · refine .inl ⟨none, by simp, .inl rfl, ?_⟩
    simp [isOk]

theorem lost_rotate {read : SessionSystem} {losses : ℕ} (sound : Sound hmac sid first s)
    (soundRead : Sound hmac sid first read)
    (lost : Lost t past now losses read) (live : read.row.Active now)
    (current : read.row.refreshHash = shown) (owned : userID = s.row.userID)
    (notes : ∃ more, s.notes = more ++ read.notes)
    (refused : (s.rotate t userID shown nextHash now graceEnd).1 =
      0) : Lost t past now (losses + 1) s := by
  rcases lost with ⟨during, isDuring, _, _ | inactive⟩
  · rcases notes with ⟨more, notes⟩
    refine ⟨more ++ during, by rw [notes, isDuring, List.append_assoc], ?_, ?_⟩
    · rw [generation_append]
      omega
    · by_cases stillActive : s.row.Active now
      · refine .inl ?_
        rw [generation_append]
        have moved : generation more ≠ 0 := by
          intro unmoved
          have same : s.row.refreshHash = read.row.refreshHash := by
            rw [sound.current, soundRead.current, notes, generation_append, unmoved, zero_add]
          simp [SessionSystem.rotate, owned, stillActive, same.trans current] at refused
        omega
      · exact .inr stillActive
  · exact absurd live inactive

theorem Decided.failing {presented : UserSession.Presented} {err : SessionError}
    (decided : Decided presented kind) (known : presented ≠ .unknown)
    (late : presented ≠ .previous true)
    (reused : presented = .previous false → err = .failed ∨ err = .inactive) :
    Failing err kind := by
  rcases decided with losing | rfl
  · exact losing.failing
  · refine ⟨by simp, ?_, ?_, ?_⟩
    · rintro ⟨⟩
      exact known rfl
    · rintro ⟨⟩
      exact late rfl
    · rintro ⟨⟩
      exact reused rfl

theorem Revoking.failing {err : SessionError}
    (revoking : Revoking kind) (fails : err = .failed ∨ err = .inactive) :
    Failing err kind := by
  rcases revoking with decided | rfl | rfl
  · exact decided.failing (by simp) (by simp) fun _ => fails
  · exact ⟨by simp, by simp, by simp, by simp⟩
  · exact ⟨by simp, by simp, by simp, by simp⟩

theorem Serving.rebase {base later : List SessionNote} {above : SessionNoteKind → Prop}
    (serving : Serving hmac sid first secret t later above s)
    {during : List SessionNote} (isLater : later = during ++ base)
    (ofKinds : ∀ note ∈ during, note.thread = t → kinds note.kind)
    (weakens : ∀ kind, above kind → kinds kind) :
    Serving hmac sid first secret t base kinds s := by
  rcases serving.noted with ⟨more, isMore, ofAbove⟩
  refine ⟨serving.sound, ⟨more ++ during, by rw [isMore, isLater, List.append_assoc], ?_⟩,
    serving.looks⟩
  intro note inBoth ofThread
  rcases List.mem_append.mp inBoth with inMore | inDuring
  · exact weakens _ (ofAbove note inMore ofThread)
  · exact ofKinds note inDuring ofThread

theorem overtaken_of_unknown {during : List SessionNote}
    (notes : s.notes = during ++ ⟨t, .began⟩ :: past)
    (unknown : Judged hmac sid first secret s.notes .unknown)
    (wasCurrent : hashSecret hmac secret =
      digestAt hmac sid first (generation past)) : 2 ≤ generation during := by
  have isGen : generation s.notes = generation during + generation past := by
    rw [notes, generation_append]
    rfl
  rcases unknown with ⟨notCurrent, notPrevious⟩
  by_contra few
  have cases : generation during = 0 ∨ generation during = 1 := by omega
  rcases cases with none | _
  · rw [none, zero_add] at isGen
    rw [isGen] at notCurrent
    exact notCurrent wasCurrent
  · exact notPrevious (generation past) (by omega) wasCurrent

theorem rotate_answer {pick : SessionChoice} {rows : ℕ}
    (answer : (s.perform t (.rotate userID shown nextHash now graceEnd) pick).1 = some rows) :
    (s.rotate t userID shown nextHash now graceEnd).1 = rows ∧
      (s.perform t (.rotate userID shown nextHash now graceEnd) pick).2 =
        (s.rotate t userID shown nextHash now graceEnd).2 := by
  simp only [SessionSystem.perform, SessionSystem.attempt] at answer ⊢
  split at answer
  next isOk =>
    cases answer
    simp [isOk]
  · cases answer

theorem rotate_zero (refused : (s.rotate t userID shown nextHash now graceEnd).1 = 0) :
    (s.rotate t userID shown nextHash now graceEnd).2 = s := by
  simp only [SessionSystem.rotate] at refused ⊢
  split at refused
  · cases refused
  next unmatched => rw [if_neg unmatched]

theorem rotate_nonzero (won : (s.rotate t userID shown nextHash now graceEnd).1 ≠ 0) :
    (s.rotate t userID shown nextHash now graceEnd).2 =
      { s with row := s.row.rotate nextHash now graceEnd }.noted t (.rotated shown nextHash) := by
  simp only [SessionSystem.rotate] at won ⊢
  split at won
  next matched => rw [if_pos matched]
  · exact absurd rfl won

theorem serving_rotate (injective : Function.Injective (hashSecret hmac))
    (serving : Serving hmac sid first secret t base Losing s) (needs : Needs hmac sid first t
      (.rotate userID shown nextHash now graceEnd) s) (pick : SessionChoice) :
    Serving hmac sid first secret t base Won
      (s.perform t (.rotate userID shown nextHash now graceEnd) pick).2 := by
  have out := outcome_perform t pick needs
  have sound := out.sound injective needs serving.sound
  cases out with
  | same _ notes =>
    rcases serving with ⟨_, _, _⟩
    refine Serving.mono ⟨sound, ?_, ?_⟩ fun _ => .inl
    · rwa [notes]
    · rwa [notes]
  | marked _ _ _ marks _ => exact absurd marks id
  | revoked _ _ _ _ marks => exact absurd marks id
  | rotated _ _ _ _ _ _ _ _ _ notes =>
    exact serving.note sound notes (fun _ => .inl) (.inr ⟨_, _, rfl⟩) (by rintro _ ⟨⟩)

theorem Losing.of_decided (decided : Decided .current kind) : Losing kind := by
  rcases decided with losing | rfl
  · exact losing
  · exact .inr rfl

variable (injective : Function.Injective (hashSecret hmac))

include injective

theorem isNext_of_previous (sound : Sound hmac sid first s) {i : ℕ}
    (isGen : generation s.notes = i + 1)
    (isSecret : hashSecret hmac secret = digestAt hmac sid first i) :
    s.row.refreshHash = hashSecret hmac (nextSecret hmac sid secret) := by
  have same : secret = secretAt hmac sid first i := injective isSecret
  rw [sound.current, isGen, same]
  rfl

theorem prep_won {read rotating : SessionSystem} (soundRead : Sound hmac sid first read)
    (serving : Serving hmac sid first secret t (⟨t, .began⟩ :: past)
      Won ({ rotating with row := rotating.row.rotate (hashSecret hmac
        (nextSecret hmac sid secret)) now graceEnd }.noted
          t (.rotated shown (hashSecret hmac (nextSecret hmac sid secret)))))
    (live : read.row.status = .active) (due : ℤ) :
    Prepared hmac sid first t (Settles hmac sid first secret t past) (do
        match ← cacheActiveSnapshot ttl (read.row.rotate
            (hashSecret hmac (nextSecret hmac sid secret)) now graceEnd)
            due with
        | .error err => return .failed err
        | .ok rotated => return .rotated rotated)
      ({ rotating with row := rotating.row.rotate (hashSecret hmac
        (nextSecret hmac sid secret)) now graceEnd }.noted t (.rotated shown (hashSecret hmac
            (nextSecret hmac sid secret)))) := by
  have current := serving.sound.current
  rcases serving.noted with ⟨_, isDuring, ofWon⟩
  have servingTop : Serving hmac sid first secret t _ (· = .unread) _ :=
    ⟨serving.sound, ⟨[], (List.nil_append _).symm, by simp⟩, serving.looks⟩
  refine prep_bind (prep_cacheActiveSnapshot injective servingTop rfl (read.row.rotate
      (hashSecret hmac (nextSecret hmac sid secret)) now graceEnd) live soundRead.validSID
      soundRead.validUserID soundRead.validVersion soundRead.validUserAuthVersion due) ?_
  rintro _ caching ⟨servingCaching, fails⟩
  have servingWon : Serving hmac sid first secret t (⟨t, .began⟩ :: past) Won caching :=
    servingCaching.rebase isDuring ofWon (by
      rintro _ rfl
      exact .inl (.inl rfl))
  split
  next err =>
    refine prep_settled (settles_failed ?_ ?_ (servingWon.mono fun _ => Won.failing))
    · rcases fails err rfl with rfl | ⟨rfl, _⟩ <;> simp
    · rcases fails err rfl with rfl | ⟨rfl, _⟩ <;> simp
  · rcases servingCaching.noted with ⟨more, isMore, _⟩
    exact prep_settled ⟨servingWon, more, _, rotating.notes, isMore, rfl, current⟩

/-- The loop of a rotation, by the number of tries that are left. -/
theorem prep_rotateTries (filled : hashSecret hmac secret ≠ "") (userID now grace : ℤ)
    (tries losses : ℕ) (total : tries + losses = 3)
    (serving : Serving hmac sid first secret t (⟨t, .began⟩ :: past) Losing s)
    (lost : Lost t past now losses s) :
    Prepared hmac sid first t (Settles hmac sid first secret t past)
      (rotateTries ttl userID (hashSecret hmac secret) (hashSecret hmac
          (nextSecret hmac sid secret)) now grace tries) s := by
  induction tries generalizing s losses with
  | zero =>
    refine prep_settled ⟨serving.mono fun _ => Or.inl, ?_⟩
    rcases lost with ⟨during, isDuring, _, _⟩
    exact ⟨during, isDuring, fun _ => by omega⟩
  | succ _ ih =>
    refine prep_now ?_
    intro capturing toCapturing
    refine prep_step (fun _ _ => trivial) ?_
    intro pick reading toReading
    have atReading := (serving.stable toCapturing).stable toReading
    have lostReading := (lost.stable toCapturing).stable toReading
    have needs : Needs hmac sid first t (.findForRotation userID
        (capturing.now + userCacheTTLSeconds ttl * second)
        (hashSecret hmac secret) now) reading := trivial
    have sound := (outcome_perform t pick needs).sound injective needs atReading.sound
    rcases look_cases t userID (capturing.now + userCacheTTLSeconds ttl *
      second) (hashSecret hmac secret) now pick reading with
      ⟨reply, _, unfound, isLook⟩ | ⟨owned, isLook⟩
    · rw [isLook] at sound ⊢
      have servingUnread : Serving hmac sid first secret t (⟨t, .began⟩ :: past) Losing
          (reading.noted t .unread) :=
        atReading.note sound rfl (fun _ => id) (.inl rfl) (by rintro _ ⟨⟩)
      rcases unfound with rfl | rfl
      · exact prep_settled (settles_failed (by simp) (by simp)
          (servingUnread.mono fun _ => Losing.failing))
      · exact prep_settled (settles_failed (by simp) (by simp)
          (servingUnread.mono fun _ => Losing.failing))
    · rw [isLook] at sound ⊢
      dsimp only
      have judged := judged_presented atReading.sound filled now
      have notes : ((reading.hold t (capturing.now +
          userCacheTTLSeconds ttl * second)).noted t (.looked
            (reading.row.presented (hashSecret hmac secret) now))).notes =
          ⟨t, .looked (reading.row.presented (hashSecret hmac secret) now)⟩ :: reading.notes := by
        simp only [SessionSystem.noted, hold_notes]
      have looked : Serving hmac sid first secret t
          (⟨t, .began⟩ :: past) (Decided (reading.row.presented (hashSecret hmac secret) now)) _ :=
        atReading.note sound notes (fun _ => .inl) (.inr rfl) (by
          rintro _ ⟨⟩
          exact judged)
      rcases atReading.noted with ⟨during, isDuring, _⟩
      split
      next inactive =>
        have isInactive : reading.row.presented (hashSecret hmac secret)
            now = .inactive := if_pos inactive
        rw [isInactive] at looked ⊢
        exact prep_settled (settles_failed (by simp) (by simp) (looked.mono
          fun _ decided => decided.failing (by simp) (by simp) (by simp)))
      next active =>
        have live : reading.row.Active now := not_not.mp active
        split
        next current =>
          have isCurrent : reading.row.presented (hashSecret hmac secret) now = .current := by
            simp [UserSession.presented, live, current]
          rw [isCurrent] at looked notes ⊢
          have servingLosing := looked.mono fun _ => Losing.of_decided
          refine prep_step (fun _ _ => ⟨secret, rfl, rfl⟩) ?_
          intro pick rotating toRotating
          have atRotating := servingLosing.stable toRotating
          have needsRotate : Needs hmac sid first t (.rotate userID (hashSecret hmac secret)
              (hashSecret hmac (nextSecret hmac sid secret)) now
              (now + grace)) rotating := ⟨secret, rfl, rfl⟩
          have atAfter := serving_rotate injective atRotating needsRotate pick
          split
          · exact prep_settled (settles_failed (by simp) (by simp)
              (atAfter.mono fun _ => Won.failing))
          next answer =>
            rcases rotate_answer answer with ⟨isRows, isAfter⟩
            rw [isAfter] at atAfter ⊢
            split
            next refused =>
              rw [refused] at isRows
              rw [rotate_zero isRows]
              rcases toRotating.notes with ⟨more, isMore, _⟩
              have stillOwned : userID = rotating.row.userID := by
                rw [owned, toRotating.userID]
                simp only [SessionSystem.noted, hold_row]
              refine ih (losses + 1) (by omega) atRotating
                (lost_rotate atRotating.sound atReading.sound lostReading
                  live current stillOwned ?_ isRows)
              exact ⟨more ++ [_], by rw [isMore, notes, List.append_assoc]; rfl⟩
            next hits =>
              have isWon := rotate_nonzero (by rw [isRows]; exact hits)
              rw [isWon] at atAfter ⊢
              exact prep_won injective atReading.sound atAfter live.1 _
        next notCurrent =>
          split
          next other =>
            have isUnknown : reading.row.presented (hashSecret hmac secret) now = .unknown := by
              simp [UserSession.presented, live, notCurrent, other]
            rw [isUnknown] at looked judged notes
            rw [isUnknown]
            refine prep_settled ⟨looked, ⟨t, .looked .unknown⟩ :: during, ?_, ?_⟩
            · rw [notes, isDuring, List.cons_append]
            · intro wasCurrent
              rw [generation_cons_none rfl]
              exact overtaken_of_unknown isDuring judged wasCurrent
          next known =>
            split
            next withinGrace =>
              have isRace : reading.row.presented (hashSecret hmac secret) now =
                    .previous true := by
                simp [UserSession.presented, live, notCurrent, known, withinGrace]
              rw [isRace] at looked judged notes ⊢
              rcases judged with ⟨_, isGen, isSecret⟩
              have isNext := isNext_of_previous injective atReading.sound isGen isSecret
              refine prep_settled ⟨looked, isNext, [], _, reading.notes, notes, rfl, ?_⟩
              rw [← isNext, generation_cons_none rfl]
              exact atReading.sound.current
            next late =>
              have isReuse : reading.row.presented (hashSecret hmac secret) now =
                    .previous false := by
                simp [UserSession.presented, live, notCurrent, known, late]
              rw [isReuse] at looked ⊢
              have servingReuse : Serving hmac sid first secret t
                  (⟨t, .began⟩ :: past) Revoking _ :=
                looked.mono fun _ => .inl
              refine prep_bind (prep_revokeReusedSession injective servingReuse
                (.inr (.inl rfl)) (.inr (.inr rfl)) userID reading.row now) ?_
              rintro _ revoking ⟨atRevoking, fails⟩
              rcases fails with rfl | rfl | ⟨rfl, noted⟩
              · exact prep_settled (settles_failed (by simp) (by simp)
                  (atRevoking.mono fun _ revoking =>
                    Revoking.failing revoking (.inl rfl)))
              · exact prep_settled (settles_failed (by simp) (by simp)
                  (atRevoking.mono fun _ revoking =>
                    Revoking.failing revoking (.inr rfl)))
              · exact prep_settled ⟨atRevoking, noted⟩

theorem prep_rotateRefresh
    (serving : Serving hmac sid first secret t (⟨t, .began⟩ :: past) (· = .unread) s) (userID : ℤ)
    (now grace : ℤ) :
    Prepared hmac sid first t (Settles hmac sid first secret t past)
      (rotateUserSessionRefresh ttl userID sid (hashSecret hmac secret) (hashSecret hmac
          (nextSecret hmac sid secret)) now grace) s := by
  have losing : Serving hmac sid first secret t (⟨t, .began⟩ :: past)
      Losing s := serving.mono fun _ => .inl
  have lost : ∀ time, Lost t past time 0 s := by
    intro _
    rcases serving.noted with ⟨during, isDuring, _⟩
    exact ⟨during, isDuring, Nat.zero_le _, .inl (Nat.zero_le _)⟩
  have settled : ∀ {later : SessionSystem}, Rely hmac sid first t s
      later → Settles hmac sid first secret t past (.failed .invalid)
        later := fun rely =>
    settles_failed (by simp) (by simp) ((losing.stable rely).mono fun _ => Losing.failing)
  simp only [rotateUserSessionRefresh]
  split
  · exact prep_settled (settled (Rely.refl t s))
  next valid =>
    have filled : hashSecret hmac secret ≠ "" := by
      intro isEmpty
      exact valid (.inr (.inr (.inl isEmpty)))
    split
    · refine prep_unixNow ?_
      intro _ toTiming
      split
      · exact prep_settled (settled toTiming)
      · exact prep_rotateTries injective filled userID _ grace 3 0 rfl
          (losing.stable toTiming) ((lost _).stable toTiming)
    · change Prepared _ _ _ _ _ (if grace < 0 then _ else _) _
      split
      · exact prep_settled (settled (Rely.refl t s))
      · exact prep_rotateTries injective filled userID now grace 3 0 rfl losing (lost now)

omit injective

/-! ### Results -/

/-- What the answer of a refresh says about the notes. -/
structure Answers (hmac : String → String → String) (sid first secret : String)
    (t : ℕ) (past : List SessionNote) (kinds : SessionNoteKind → Prop)
    (result : Except LoginSessionError AuthBundle) (s : SessionSystem) : Prop where
  serving : Serving hmac sid first secret t (⟨t, .began⟩ :: past) kinds s
  unbegun : ¬kinds .began
  bundle : ∀ bundle, result = .ok bundle →
    bundle.refreshSecret = nextSecret hmac sid secret ∧
      WasCurrent hmac sid first t (hashSecret hmac bundle.refreshSecret) s.notes
  contended : result = .error .refreshTokenInvalid →
    Noted t (⟨t, .began⟩ :: past) .unread s ∨
      Overtaken hmac sid first secret t past s
  replayed : kinds (.looked (.previous true)) →
    (∃ bundle, result = .ok bundle) ∨ result = .error (.other .failed)
  reused : kinds (.looked (.previous false)) →
    (result = .error .revoked ∧ Noted t (⟨t, .began⟩ :: past) .revoked s) ∨
      result = .error (.other .failed) ∨ result = .error (.other .inactive)
  unknown : kinds (.looked .unknown) → result = .error .refreshTokenInvalid ∧
    ∀ kind, kinds kind → kind ≠ .revoked ∧ (SessionNote.mk t kind).rotation? = none

theorem Answers.stable {result : Except LoginSessionError AuthBundle}
    (gives : Answers hmac sid first secret t past kinds result s)
    (rely : Rely hmac sid first t s later) :
    Answers hmac sid first secret t past kinds result later where
  serving := gives.serving.stable rely
  unbegun := gives.unbegun
  bundle bundle isBundle :=
    ⟨(gives.bundle bundle isBundle).1, WasCurrent.stable (gives.bundle bundle isBundle).2 rely⟩
  contended isInvalid := (gives.contended isInvalid).imp (·.stable rely) (·.stable rely)
  replayed := gives.replayed
  reused isReused := (gives.reused isReused).imp_left fun revoked =>
    ⟨revoked.1, revoked.2.stable rely⟩
  unknown := gives.unknown

theorem Answers.returned {result : Except LoginSessionError AuthBundle}
    (gives : Answers hmac sid first secret t past kinds result s)
    (others : ∀ note ∈ past, note.thread ≠ t) :
    Returned hmac sid first t secret result s.notes := by
  rcases gives.serving.noted with ⟨during, isDuring, ofKinds⟩
  have unbegun : ⟨t, .began⟩ ∉ during := fun inDuring =>
    gives.unbegun (ofKinds _ inDuring rfl)
  have isSince : sinceBegan t s.notes = during := by
    rw [isDuring]
    exact sinceBegan_append unbegun
  have before : beforeBegan t s.notes = past := by
    rw [isDuring]
    exact beforeBegan_append unbegun
  have own : ∀ note ∈ s.notes, note.thread = t →
      kinds note.kind ∨ note.kind = .began := by
    intro note isNote ofThread
    rw [isDuring] at isNote
    rcases List.mem_append.mp isNote with inDuring | inBase
    · exact .inl (ofKinds note inDuring ofThread)
    rcases List.mem_cons.mp inBase with rfl | isEarlier
    · exact .inr rfl
    · exact absurd ofThread (others note isEarlier)
  have looked : ∀ presented, ⟨t, .looked presented⟩ ∈ s.notes →
      kinds (.looked presented) := by
    intro _ isNote
    rcases own _ isNote rfl with isKind | isBegan
    · exact isKind
    · cases isBegan
  have same : ∀ more, s.notes = more ++ ⟨t, .began⟩ :: past → more = during := by
    intro _ isMore
    exact List.append_cancel_right (isMore.symm.trans isDuring)
  refine ⟨gives.bundle, ?_, ?_, ?_, ?_, ?_⟩
  · intro isInvalid read wasCurrent
    rw [isSince] at read ⊢
    rw [before] at wasCurrent
    rcases gives.contended isInvalid with ⟨more, isMore, inMore⟩ | ⟨more, isMore, enough⟩
    · rw [same more isMore] at inMore
      exact absurd inMore read
    · rw [same more isMore] at enough
      exact enough wasCurrent
  · intro _ _ _ notes
    have looks := gives.serving.looks
    rw [notes] at looks
    exact looks.judged
  · exact fun isLook => gives.replayed (looked _ isLook)
  · intro isLook
    rcases gives.reused (looked _ isLook) with ⟨revoked, _, isMore, inMore⟩ | failed
    · refine .inl ⟨revoked, ?_⟩
      rw [isMore]
      exact List.mem_append_left _ inMore
    · exact .inr failed
  · intro isLook
    rcases gives.unknown (looked _ isLook) with ⟨isInvalid, unchanged⟩
    refine ⟨isInvalid, ?_⟩
    rintro ⟨other, kind⟩ isNote ofThread
    change other = t at ofThread
    subst ofThread
    rcases own _ isNote rfl with isKind | isBegan
    · exact unchanged kind isKind
    · change kind = .began at isBegan
      subst isBegan
      exact ⟨by simp, rfl⟩

def Answered (hmac : String → String → String) (sid first secret : String)
    (t : ℕ) (past : List SessionNote) (result : Except LoginSessionError AuthBundle)
    (s : SessionSystem) : Prop :=
  ∃ kinds, Answers hmac sid first secret t past kinds result s

theorem prep_answered (kinds : SessionNoteKind → Prop)
    {result : Except LoginSessionError AuthBundle}
    (gives : Answers hmac sid first secret t past kinds result s) :
    Prepared hmac sid first t (Answered hmac sid first secret t past) (.done result) s :=
  fun _ rely => ⟨kinds, gives.stable rely⟩

theorem answers_error (serving : Serving hmac sid first secret t (⟨t, .began⟩ :: past)
      kinds s) {err : LoginSessionError} (notInvalid : err ≠ .refreshTokenInvalid)
    (unbegun : ¬kinds .began) (notReplayed : ¬kinds (.looked (.previous true)))
    (reused : kinds (.looked (.previous false)) →
      err = .other .failed ∨ err = .other .inactive)
    (known : ¬kinds (.looked .unknown)) :
    Answers hmac sid first secret t past kinds (.error err) s where
  serving := serving
  unbegun := unbegun
  bundle := by rintro _ ⟨⟩
  contended := by
    rintro ⟨⟩
    exact absurd rfl notInvalid
  replayed isLook := absurd isLook notReplayed
  reused isLook := (reused isLook).elim (fun failed => .inr (.inl (congrArg _ failed)))
    fun inactive => .inr (.inr (congrArg _ inactive))
  unknown isLook := absurd isLook known

theorem prep_issueAuthBundle (serving : Serving hmac sid first secret t (⟨t, .began⟩ :: past)
      kinds s) (unbegun : ¬kinds .began) (notReused : ¬kinds (.looked (.previous false)))
    (known : ¬kinds (.looked .unknown)) (current : WasCurrent hmac sid first t
      (hashSecret hmac (nextSecret hmac sid secret)) s.notes)
    (sess : UserSession) :
    Prepared hmac sid first t (Answered hmac sid first secret t past)
      (issueAuthBundle sess (nextSecret hmac sid secret)) s := by
  refine prep_step (fun _ _ => trivial) ?_
  intro pick issuing toIssuing
  have servingIssuing := serving.stable toIssuing
  have currentIssuing := WasCurrent.stable current toIssuing
  change Prepared _ _ _ _ _ (if pick.succeeds then _ else _) issuing
  split
  · refine prep_answered kinds ⟨servingIssuing, unbegun, ?_, by rintro ⟨⟩,
      fun _ => .inl ⟨_, rfl⟩, fun isLook => absurd isLook notReused,
      fun isLook => absurd isLook known⟩
    rintro _ ⟨⟩
    exact ⟨rfl, currentIssuing⟩
  · exact prep_answered kinds ⟨servingIssuing, unbegun, by rintro _ ⟨⟩,
      by rintro ⟨⟩, fun _ => .inr rfl, fun isLook => absurd isLook notReused,
      fun isLook => absurd isLook known⟩

variable (injective : Function.Injective (hashSecret hmac))

include injective

theorem prep_rotateLoginSession (serving : Serving hmac sid first secret t (⟨t, .began⟩ :: past)
      (· = .unread) s) (sess : UserSession) :
    Prepared hmac sid first t (Answered hmac sid first secret t past)
      (rotateLoginSession ttl hmac sess sid secret) s := by
  refine prep_unixNow ?_
  intro _ toTiming
  refine prep_bind (prep_rotateRefresh injective (serving.stable toTiming)
    sess.userID _ refreshReplayWindow) ?_
  intro result _ settles
  cases result with
  | rotated rotated =>
    exact prep_issueAuthBundle settles.1 (by simp [Won, Losing])
      (by simp [Won, Losing]) (by simp [Won, Losing]) settles.2 rotated
  | race rotated =>
    change Prepared _ _ _ _ _ (if _ = rotated.refreshHash then _ else _) _
    rw [if_pos settles.2.1.symm]
    exact prep_issueAuthBundle settles.1 (by simp [Decided, Losing])
      (by simp [Decided, Losing]) (by simp [Decided, Losing]) settles.2.2 rotated
  | failed err =>
    cases err with
    | refreshInvalid =>
      refine prep_answered (Decided .unknown) ⟨settles.1,
        by simp [Decided, Losing], by rintro _ ⟨⟩, fun _ => .inr settles.2,
        by simp [Decided, Losing], by simp [Decided, Losing], ?_⟩
      refine fun _ => ⟨rfl, ?_⟩
      rintro kind ((rfl | rfl) | rfl) <;> exact ⟨by simp, rfl⟩
    | refreshReuse =>
      exact prep_answered Revoking ⟨settles.1,
        by simp [Revoking, Decided, Losing], by rintro _ ⟨⟩, by rintro ⟨⟩,
        by simp [Revoking, Decided, Losing], fun _ => .inl ⟨rfl, settles.2⟩,
        by simp [Revoking, Decided, Losing]⟩
    | _ =>
      exact prep_answered _ (answers_error settles (by simp) (by simp [Failing])
        (by simp [Failing]) (by simp [Failing]) (by simp [Failing]))

theorem prep_refreshLoginSession (validSID : sid ≠ "")
    (serving : Serving hmac sid first secret t (⟨t, .began⟩ :: past)
      (fun _ => False) s) (wanted : String) :
    Prepared hmac sid first t (Answered hmac sid first secret t past)
      (refreshLoginSession ttl hmac sid secret wanted) s := by
  have servingReads : Serving hmac sid first secret t
      (⟨t, .began⟩ :: past) (· = .unread) s := serving.mono fun _ => False.elim
  have failed : ∀ {later : SessionSystem} {err : LoginSessionError},
      err ≠ .refreshTokenInvalid → Serving hmac sid first secret t
        (⟨t, .began⟩ :: past) (· = .unread) later →
      Prepared hmac sid first t (Answered hmac sid first secret t past)
        (.done (.error err)) later := fun notInvalid servingLater =>
    prep_answered _ (answers_error servingLater notInvalid (by simp) (by simp) (by simp) (by simp))
  simp only [refreshLoginSession]
  split
  · exact failed (by simp) servingReads
  refine prep_bind (prep_getUserSessionCached injective servingReads rfl validSID) ?_
  rintro _ _ ⟨atReading, fails⟩
  split
  · exact failed (by simp) atReading
  next err notInactive =>
    rcases fails err rfl with inactive | noted
    · exact absurd inactive notInactive
    · exact prep_answered ((· = .unread)) ⟨atReading, by simp,
        by rintro _ ⟨⟩, fun _ => .inl noted, by simp, by simp, by simp⟩
  next sess =>
    refine prep_unixNow ?_
    intro _ toTiming
    have timing := atReading.stable toTiming
    split
    · exact failed (by simp) timing
    have plainCache : Plain (· = .unread) .getUserCache :=
      ⟨fun _ marks => absurd marks id, by simp⟩
    refine prep_call injective timing (fun _ => trivial) plainCache ?_
    intro pick loading _ servingLoading
    split
    · exact failed (by simp) servingLoading
    have plainUser : Plain (· = .unread) .getUserById :=
      ⟨fun _ marks => absurd marks id, by simp⟩
    refine prep_call injective servingLoading (fun _ => trivial) plainUser ?_
    intro pick checking _ atChecking
    split
    · exact failed (by simp) atChecking
    split
    · have servingRevoke : Serving hmac sid first secret t
          (⟨t, .began⟩ :: past) (fun kind => kind = .unread ∨ kind = .revoked ∨
            kind = .returnedRevoked) _ := atChecking.mono fun _ => .inl
      refine prep_bind (prep_revokeUserSession injective servingRevoke (.inl rfl)
        (.inr (.inl rfl)) (.inr (.inr rfl)) _ _ _) ?_
      rintro _ _ ⟨atRevoking, _⟩
      exact prep_answered _ (answers_error atRevoking (by simp) (by simp) (by simp)
        (by simp) (by simp))
    · exact prep_rotateLoginSession injective atChecking sess

theorem prep_serveSession (validSID : sid ≠ "") (sound : Sound hmac sid first s)
    (silent : ∀ note ∈ s.notes, note.thread ≠ t) (secret wanted : String) :
    Prepared hmac sid first t (fun _ _ => True)
      (serveSession ttl hmac sid (.refresh secret wanted)) s := by
  refine prep_step (fun _ _ => trivial) ?_
  intro pick beginning toBeginning
  have others : ∀ note ∈ beginning.notes, note.thread ≠ t := by
    rcases toBeginning.notes with ⟨_, notes, othersMore⟩
    intro note isNote
    rw [notes] at isNote
    rcases List.mem_append.mp isNote with inMore | inLog
    · exact othersMore note inMore
    · exact silent note inLog
  have needs : Needs hmac sid first t .begin beginning := trivial
  have soundBegun := (outcome_perform t pick needs).sound injective needs (toBeginning.sound sound)
  have serving : Serving hmac sid first secret t (⟨t, .began⟩ :: beginning.notes) (fun _ => False)
      (beginning.noted t .began) :=
    ⟨soundBegun, ⟨[], rfl, by simp⟩, by rintro _ ⟨⟩, looksJudged_of_none others⟩
  refine prep_bind (prep_refreshLoginSession injective validSID serving wanted) ?_
  rintro _ _ ⟨_, gives⟩ _ rely
  exact ⟨(gives.stable rely).returned others, fun _ _ _ _ => trivial⟩

end Cache

end Programs

end SessionSystem.Refreshing

/-! ## Runs -/

namespace SessionPool

def Any : SessionPool → Action SessionChoice ℕ → Prop :=
  Pool.Allowed (fun _ _ _ _ => True) fun _ _ => True

instance (pool : SessionPool) (action : Action SessionChoice ℕ) : Decidable (Any pool action) :=
  Pool.decidableAllowed _ _ pool action

end SessionPool

open SessionSystem.Refreshing in
/-- However refreshes interleave, rotation has a single winner and detects reuse. -/
theorem single_winner {ttl now : ℤ}
    {hmac : String → String → String} {row : UserSession} {first : String}
    {secrets expectedSIDs : ℕ → String} {pool : SessionPool}
    (injective : Function.Injective (hashSecret hmac)) (created : row.Created hmac first)
    (reached : Reachable SessionPool.next SessionPool.Any
      (SessionPool.start ttl hmac now row fun t => .refresh (secrets t) (expectedSIDs t)) pool) :
    SingleWinner hmac row.sid first pool.state := by
  have sound : Sound hmac row.sid first (SessionSystem.start now row) :=
    { links := rfl
      current := created.refreshHash
      previous := created.previousRefreshHash
      revoked := by
        rintro ⟨_, isNote, _⟩
        cases isNote
      returned := by
        intro after _ _ _ _ isNotes
        cases after <;> cases isNotes
      validSID := created.sid
      validUserID := created.userID
      validVersion := created.version
      validUserAuthVersion := created.userAuthVersion }
  have start : (SessionPool.start ttl hmac now row fun t =>
      .refresh (secrets t) (expectedSIDs t)).Holding
      (fun t call pick s => s.perform t call pick)
      (Sound hmac row.sid first) (Rely hmac row.sid first)
      (fun _ _ _ _ => True) (Needs hmac row.sid first) (fun _ _ _ => True) :=
    ⟨sound, fun t => prep_serveSession injective created.sid sound
      (by rintro _ ⟨⟩) (secrets t) (expectedSIDs t)⟩
  have holding := Pool.holding_reachable reached Rely.refl (fun _ _ _ _ => Rely.trans)
    (fun _ _ pick _ sound needs _ => by exact keeping_perform injective sound needs pick)
    (fun nanos _ sound _ => by exact keeping_elapse sound nanos) start
  exact holding.state.toSingleWinner

/-! ## Sample runs -/

def sampleSecrets (t : ℕ) : String :=
  if t < 2 then "0" else if t = 2 then "refresh-rotate:sid.0" else "other"

def sampleRefreshes : SessionPool :=
  SessionPool.start 60 sampleHMAC second sampleUserSession fun t =>
    .refresh (sampleSecrets t) ""

def refreshesAfter (actions : List (Action SessionChoice ℕ)) : SessionPool :=
  actions.foldl SessionPool.next sampleRefreshes

/-- Undisturbed steps of one client, while the user has a security version. -/
def refreshSteps (t count : ℕ) (authVersion : ℤ) : List (Action SessionChoice ℕ) :=
  List.replicate count (.perform t ⟨true, false, ⟨1, authVersion⟩⟩)

/-- Client 0 reads the row, clients 1 and 2 rotate it one after the other, and client 0 goes
on. -/
def overtakenRefresh : List (Action SessionChoice ℕ) :=
  refreshSteps 0 14 1 ++ refreshSteps 1 15 1 ++ refreshSteps 2 15 1 ++ refreshSteps 0 4 1

theorem single_winner_sample :
    SingleWinner sampleHMAC "sid" "0" (refreshesAfter overtakenRefresh).state := by
  refine single_winner ?_ ?_ (Reachable.of_run overtakenRefresh sampleRefreshes (by decide))
  · intro _ _ same
    have lists := congrArg String.toList same
    simpa [hashSecret, sampleHMAC, String.toList_append, String.toList_inj] using lists
  · exact ⟨by decide, by decide, by decide, by decide, by decide, by decide⟩

/-- Client 0 is invalid though its secret was current; client 0's bundle is not current any more
when it is returned; and client 3 revokes the session of a user whose security version has
changed. -/
theorem single_winner_not_at_once :
    ¬SingleWinnerAtOnce sampleHMAC "sid" "0" (refreshesAfter overtakenRefresh).state ∧
      ¬SingleWinnerAtOnce sampleHMAC "sid" "0" (refreshesAfter (refreshSteps 0 19 1 ++
        refreshSteps 2 15 1 ++ refreshSteps 0 1 1)).state ∧
      ¬SingleWinnerAtOnce sampleHMAC "sid" "0" (refreshesAfter (refreshSteps 3 21 2)).state := by
  refine ⟨fun atOnce => ?_, fun atOnce => ?_, fun atOnce => ?_⟩
  · have contended := atOnce.contended [] 0 "0"
      ((refreshesAfter overtakenRefresh).state.notes.drop 1) (by decide)
    revert contended
    decide
  · have current := atOnce.current [] 0 "0"
      ⟨sampleUserSession.rotate "refresh:refresh-rotate:sid.0" 1 31, "refresh-rotate:sid.0"⟩
      ((refreshesAfter (refreshSteps 0 19 1 ++ refreshSteps 2 15 1 ++
        refreshSteps 0 1 1)).state.notes.drop 1) (by decide)
    revert current
    decide
  · have unknown := atOnce.unknown [] 3 "other" (.error .revoked)
      ((refreshesAfter (refreshSteps 3 21 2)).state.notes.drop 1) (by decide)
    revert unknown
    decide

end NewApi.Auth
