import NewApi.Auth.LoginSession

/-!
# The chain of refresh secrets

The digest in the row moves along the chain of secrets that the first one begins, a link with
every rotation that is noted.
-/

namespace NewApi.Auth

open Concurrent (Action Keeps Pool Program)
open Transition

/-! ## The chain -/

section

variable (hmac : String → String → String) (sid first : String)

def secretAt : ℕ → String
  | 0 => first
  | generation + 1 => deriveNextRefreshSecret hmac sid (secretAt generation)

def digestAt (generation : ℕ) : String :=
  hashRefreshSecret hmac (secretAt hmac sid first generation)

def previousDigestAt : ℕ → String
  | 0 => ""
  | generation + 1 => digestAt hmac sid first generation

def SessionNote.rotation? (note : SessionNote) : Option (String × String) :=
  match note.kind with
  | .rotated shown nextHash => some (shown, nextHash)
  | _ => none

def rotations (notes : List SessionNote) : List (String × String) :=
  notes.filterMap SessionNote.rotation?

def generation (notes : List SessionNote) : ℕ :=
  (rotations notes).length

def sinceBegan (t : ℕ) (notes : List SessionNote) : List SessionNote :=
  notes.takeWhile (· ≠ ⟨t, .began⟩)

def beforeBegan (t : ℕ) (notes : List SessionNote) : List SessionNote :=
  (notes.dropWhile (· ≠ ⟨t, .began⟩)).tail

def Judged (secret : String) (past : List SessionNote) : UserSession.Presented → Prop
  | .inactive => True
  | .current =>
    hashRefreshSecret hmac secret = digestAt hmac sid first (generation past)
  | .previous _ =>
    ∃ before, generation past = before + 1 ∧
      hashRefreshSecret hmac secret = digestAt hmac sid first before
  | .unknown =>
    hashRefreshSecret hmac secret ≠ digestAt hmac sid first (generation past) ∧
      ∀ before, generation past = before + 1 →
        hashRefreshSecret hmac secret ≠ digestAt hmac sid first before

def WasCurrent (t : ℕ) (digest : String) (notes : List SessionNote) : Prop :=
  ∃ after note before, notes = after ++ note :: before ∧ note.thread = t ∧
    digest = digestAt hmac sid first (generation (note :: before))

/-- What the result of a refresh says about what was noted before it. -/
structure Returned (t : ℕ) (secret : String) (result : Except LoginSessionError AuthBundle)
    (notes : List SessionNote) : Prop where
  bundle : ∀ bundle, result = .ok bundle →
    bundle.refreshSecret = deriveNextRefreshSecret hmac sid secret ∧
      WasCurrent hmac sid first t (hashRefreshSecret hmac bundle.refreshSecret) notes
  contended : result = .error .refreshTokenInvalid →
    ⟨t, .unread⟩ ∉ sinceBegan t notes →
      hashRefreshSecret hmac secret = digestAt hmac sid first (generation (beforeBegan t notes)) →
        2 ≤ generation (sinceBegan t notes)
  judged : ∀ after presented before, notes = after ++ ⟨t, .looked presented⟩ :: before →
      Judged hmac sid first secret before presented
  replayed : ⟨t, .looked (.previous true)⟩ ∈ notes →
    (∃ bundle, result = .ok bundle) ∨ result = .error (.other .failed)
  reused : ⟨t, .looked (.previous false)⟩ ∈ notes →
    (result = .error .revoked ∧ ⟨t, .revoked⟩ ∈ notes) ∨
      result = .error (.other .failed) ∨ result = .error (.other .inactive)
  unknown : ⟨t, .looked .unknown⟩ ∈ notes →
    result = .error .refreshTokenInvalid ∧ ∀ note ∈ notes, note.thread = t →
      note.kind ≠ .revoked ∧ note.rotation? = none

/-- The rotations form one chain of digests, and the row holds its last two. -/
structure SingleWinner (s : SessionSystem) : Prop where
  links : (rotations s.notes).reverse = (List.range (generation s.notes)).map
    fun i => (digestAt hmac sid first i, digestAt hmac sid first (i + 1))
  current : s.row.refreshHash = digestAt hmac sid first (generation s.notes)
  previous : s.row.previousRefreshHash = previousDigestAt hmac sid first (generation s.notes)
  revoked : (∃ note ∈ s.notes, note.kind = .revoked) → s.row.status ≠ .active
  returned : ∀ after t secret result before,
    s.notes = after ++ ⟨t, .returnedRefreshed secret result⟩ :: before →
      Returned hmac sid first t secret result before

/-- What rotation would promise without a look at the time between its steps: the bundle is
current when it is returned, a secret that was current at the start is not invalid, and a secret
that was never on the chain revokes nothing. -/
structure SingleWinnerAtOnce (s : SessionSystem) : Prop where
  current : ∀ after t secret bundle before,
    s.notes = after ++ ⟨t, .returnedRefreshed secret (.ok bundle)⟩ :: before →
      hashRefreshSecret hmac bundle.refreshSecret = digestAt hmac sid first (generation before)
  contended : ∀ after t secret before, s.notes =
      after ++ ⟨t, .returnedRefreshed secret (.error .refreshTokenInvalid)⟩ :: before →
    ⟨t, .unread⟩ ∉ sinceBegan t before →
      hashRefreshSecret hmac secret ≠ digestAt hmac sid first (generation (beforeBegan t before))
  unknown : ∀ after t secret result before,
    s.notes = after ++ ⟨t, .returnedRefreshed secret result⟩ :: before →
      (∀ i ≤ generation before, hashRefreshSecret hmac secret ≠
        digestAt hmac sid first i) → ⟨t, .revoked⟩ ∉ before

end

/-- The row of a session that has just been created for a first secret. -/
structure UserSession.Created (hmac : String → String → String) (first : String)
    (row : UserSession) : Prop where
  sid : row.sid ≠ ""
  userID : 0 < row.userID
  version : 0 < row.version
  userAuthVersion : 0 < row.userAuthVersion
  refreshHash : row.refreshHash = hashRefreshSecret hmac first
  previousRefreshHash : row.previousRefreshHash = ""

/-! ## Notes -/

section Notes

variable {hmac : String → String → String} {sid first secret : String}
  {t : ℕ} {notes during before : List SessionNote}

theorem rotations_append (after before : List SessionNote) :
    rotations (after ++ before) = rotations after ++ rotations before :=
  List.filterMap_append

theorem generation_append (after before : List SessionNote) :
    generation (after ++ before) = generation after + generation before := by
  simp only [generation, rotations_append, List.length_append]

theorem generation_cons_none {note : SessionNote} (plain : note.rotation? = none) :
    generation (note :: notes) = generation notes := by
  simp only [generation, rotations, List.filterMap_cons_none plain]

theorem sinceBegan_append (unbegun : ⟨t, .began⟩ ∉ during) :
    sinceBegan t (during ++ ⟨t, .began⟩ :: before) = during := by
  simp only [sinceBegan]
  rw [List.takeWhile_append_of_pos]
  · simp
  · intro _ inDuring
    simp only [decide_eq_true_eq]
    rintro rfl
    exact unbegun inDuring

theorem beforeBegan_append (unbegun : ⟨t, .began⟩ ∉ during) :
    beforeBegan t (during ++ ⟨t, .began⟩ :: before) = before := by
  simp only [beforeBegan]
  rw [List.dropWhile_append_of_pos]
  · simp
  · intro _ inDuring
    simp only [decide_eq_true_eq]
    rintro rfl
    exact unbegun inDuring

theorem WasCurrent.later {digest : String} (current : WasCurrent hmac sid first
    t digest notes) (more : List SessionNote) :
    WasCurrent hmac sid first t digest (more ++ notes) := by
  rcases current with ⟨after, note, before, rfl, ofThread, isDigest⟩
  exact ⟨more ++ after, note, before, by simp, ofThread, isDigest⟩

def LooksJudged (hmac : String → String → String) (sid first secret : String)
    (t : ℕ) : List SessionNote → Prop
  | [] => True
  | note :: past =>
    (∀ presented, note = ⟨t, .looked presented⟩ →
      Judged hmac sid first secret past presented) ∧
      LooksJudged hmac sid first secret t past

theorem LooksJudged.judged {after : List SessionNote} {presented : UserSession.Presented}
    (looks : LooksJudged hmac sid first secret t (after ++ ⟨t, .looked presented⟩ :: before)) :
    Judged hmac sid first secret before presented := by
  induction after with
  | nil => exact looks.1 presented rfl
  | cons _ _ ih => exact ih looks.2

theorem LooksJudged.later (looks : LooksJudged hmac sid first secret t notes)
    {more : List SessionNote} (others : ∀ note ∈ more, note.thread ≠ t) :
    LooksJudged hmac sid first secret t (more ++ notes) := by
  induction more with
  | nil => exact looks
  | cons _ _ ih =>
    refine ⟨?_, ih fun other inMore =>
      others other (List.mem_cons_of_mem _ inMore)⟩
    rintro _ rfl
    exact absurd rfl (others _ List.mem_cons_self)

theorem looksJudged_of_none (none : ∀ note ∈ notes, note.thread ≠ t) :
    LooksJudged hmac sid first secret t notes := by
  have empty : LooksJudged hmac sid first secret t [] := trivial
  simpa using empty.later none

end Notes

end NewApi.Auth
