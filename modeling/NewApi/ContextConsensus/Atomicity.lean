import Mathlib.Tactic.IntervalCases
import NewApi.ContextConsensus.CommitScript

/-!
# Commits as single steps

When a commit of managed consensus is one step: it makes all of its writes or none, an error
that is not the network's leaves the store as it was, and the script compares revisions and
fencing tokens as the integers they stand for.

The server does not undo the writes of a script that fails, and numbers in a script are
doubles. So a commit is one step exactly when the migration's comparison with the active
fencing counter, which comes after the record is written, cannot fail and is not between two
numbers that round to one double, the next revision survives the way through a double, and
the stored revision is not the expected one under another spelling.

The client sends a script again when it hears nothing of it. A script that was run and is run
again is refused by its own writes, and the refusal is no error of the network. So beyond the
first attempt that arrives, a commit is one step exactly when no later attempt is answered after
one that wrote.
-/

namespace NewApi.ContextConsensus

open Redis (Script Store)

def finalStore {α : Type} : EStateM.Result RepositoryError Store α → Store
  | .ok _ after => after
  | .error _ after => after

def Representable (rev : ℕ) : Prop :=
  Lua.toDouble rev = rev ∧ rev < 2 ^ 63
deriving Decidable

namespace CommitCall

variable (repo : RedisManagedConsensusRepository) (call : CommitCall)
  (wire : Transport) (store : Store)

/-- The script is run: the call passes its checks and the request arrives. -/
def Runs : Prop :=
  call.admission repo = .ok () ∧ wire ≠ .requestLost

/-- The text of the stored revision, once the script has found its lease. -/
def Compares (text : String) : Prop :=
  store.textAt (leaseKey call.storageKey.repositoryKey) =
      .ok (some (managedLeaseValue call.lease)) ∧
    ∃ fields, store.hashAt call.storageKey.repositoryKey = .ok fields ∧
      fields.lookup "revision" = some text

/-- A commit is one step, and its script compares integers. -/
structure Exact : Prop where
  allOrNothing : finalStore ((repo.commit wire call).run store) = store ∨
    finalStore ((repo.commit wire call).run store) = call.applied repo store
  failureUnchanged : ∀ failure after, (repo.commit wire call).run store = .error failure after →
      (∀ op, failure ≠ .transport op) → after = store
  revisionsCompared : call.Runs repo wire → ∀ text, call.Compares store text →
    (text = (call.record repo).expectedRevision ↔
      Decimal.parse text = some call.expectedRevision)
  tokensCompared : call.Runs repo wire → call.verdict repo store = .ready →
    ∀ live ∈ call.migrateTo, ∀ text n,
      store.textAt (fenceKey live.repositoryKey) = .ok (some text) →
      Decimal.parse text = some n →
      fenceBelow repo.client (some text) (call.record repo).fencingToken =
        .ok (decide (n < call.lease.fencingToken))

/-- The active fencing counter is missing, or a numeral that does not round to the token's
double when it is below the token. -/
def FenceComparable (live : ManagedConversationStorageKey) : Prop :=
  match store.textAt (fenceKey live.repositoryKey) with
  | .error _ => False
  | .ok none => True
  | .ok (some text) =>
    Lua.tonumber repo.client.otherNumeral text ≠ none ∧
      ∀ n, Decimal.parse text = some n → n < call.lease.fencingToken →
        Lua.toDouble n ≠ Lua.toDouble call.lease.fencingToken

/-- The numbers that the script of a commit meets are read and rounded without harm. -/
structure Sound : Prop where
  spelling : call.Runs repo wire → ∀ text, call.Compares store text →
    Decimal.parse text = some call.expectedRevision → text = Decimal.format call.expectedRevision
  fence : call.Runs repo wire → call.verdict repo store = .ready →
    ∀ live ∈ call.migrateTo, call.FenceComparable repo store live
  reply : call.Runs repo wire → call.verdict repo store = .ready →
    wire = .delivered → Representable (call.expectedRevision + 1)

end CommitCall

/-! ### The outcome of a commit -/

theorem lookup_refusals (call : CommitCall) {result : ℤ} (outside : 0 < result ∨ result < -4) :
    call.refusals.lookup result = none := by
  unfold CommitCall.refusals
  rw [List.lookup_eq_none_iff]
  split <;> simp <;> omega

theorem commitReply_written (call : CommitCall) (invalid : String) :
    commitReply call.refusals invalid call.expectedRevision call.lease call.payload
        (Lua.toReply (.finite (Lua.toDouble (call.expectedRevision + 1) : ℤ))) =
      if Representable (call.expectedRevision + 1) then
        .ok ⟨call.expectedRevision + 1, call.lease.fencingToken, call.payload⟩
      else .error (.message invalid) := by
  have reply : Lua.toReply (.finite (Lua.toDouble (call.expectedRevision + 1) : ℤ)) =
      if Lua.toDouble (call.expectedRevision + 1) < 2 ^ 63 then
        (Lua.toDouble (call.expectedRevision + 1) : ℤ) else -2 ^ 63 := by
    rw [← Lua.toReply_ofNat]
    simp [Lua.Number.ofNat]
  have pos : 0 < Lua.toDouble (call.expectedRevision + 1) := Lua.toDouble_pos (by omega)
  rw [reply]
  by_cases fits : Lua.toDouble (call.expectedRevision + 1) < 2 ^ 63
  · rw [if_pos fits, commitReply, lookup_refusals call (.inl (by omega))]
    by_cases same : Lua.toDouble (call.expectedRevision + 1) = call.expectedRevision + 1
    · have representable : Representable (call.expectedRevision + 1) := ⟨same, by omega⟩
      simp [same, representable, pure, Except.pure]
    · have lost : ¬Representable (call.expectedRevision + 1) := fun exact => same exact.1
      simp [same, lost, throw, throwThe, MonadExceptOf.throw]
  · rw [if_neg fits, commitReply, lookup_refusals call (.inr (by omega))]
    have lost : ¬Representable (call.expectedRevision + 1) := by
      rintro ⟨_, _⟩
      omega
    simp [lost, throw, throwThe, MonadExceptOf.throw]

namespace CommitCall

variable {repo : RedisManagedConsensusRepository} {call : CommitCall}
  {wire : Transport} {store : Store}

def after (repo : RedisManagedConsensusRepository) (call : CommitCall) (store : Store) :
    Store :=
  match call.verdict repo store with
  | .ready =>
    if (call.failure repo store).isSome then call.recorded repo store
    else call.applied repo store
  | _ => store

theorem run_script_store (admitted : call.Admitted repo) (store : Store) :
    (∃ reply, (call.script repo).run store = .ok reply (call.after repo store)) ∨
      ∃ failure, (call.script repo).run store = .error failure (call.after repo store) := by
  rw [run_script admitted store]
  unfold after writes
  cases call.verdict repo store with
  | refused _ => exact .inl ⟨_, rfl⟩
  | failed _ => exact .inr ⟨_, rfl⟩
  | ready =>
    cases call.failure repo store with
    | some _ => exact .inr ⟨_, rfl⟩
    | none => exact .inl ⟨_, rfl⟩

theorem run_commit_of_rejected {failure : RepositoryError}
    (rejects : call.admission repo = .error failure) :
    (repo.commit wire call).run store = .error failure store := by
  rcases commit_eq repo call wire with ⟨_, _, equation⟩
  rw [equation]
  simp [EStateM.run_bind, run_ensure, rejects]

theorem run_commit_of_requestLost (admits : call.admission repo = .ok ()) :
    ∃ op, (repo.commit .requestLost call).run store = .error (.transport op) store := by
  rcases commit_eq repo call .requestLost with ⟨op, _, equation⟩
  refine ⟨op, ?_⟩
  rw [equation]
  simp [EStateM.run_bind, run_ensure, admits, run_runScript]

theorem run_commit_of_replyLost (admits : call.admission repo = .ok ()) :
    ∃ op, (repo.commit .replyLost call).run store =
      .error (.transport op) (call.after repo store) := by
  rcases commit_eq repo call .replyLost with ⟨op, _, equation⟩
  refine ⟨op, ?_⟩
  rw [equation]
  rcases run_script_store (admitted admits) store with ⟨_, ran⟩ | ⟨_, ran⟩ <;>
    simp [EStateM.run_bind, run_ensure, admits, run_runScript, ran]

theorem toReply_of_refusal {reply : ℤ} (inRange : -4 ≤ reply ∧ reply ≤ -1) :
    Lua.toReply (.finite reply) = reply := by
  rcases inRange with ⟨_, _⟩
  interval_cases reply <;> decide

theorem refusal_ne_transport {reply : ℤ} {refusal : RepositoryError}
    (listed : call.refusals.lookup reply = some refusal) (op : String) :
    refusal ≠ .transport op := by
  have member : (reply, refusal) ∈ call.refusals := by
    rcases List.lookup_eq_some_iff.mp listed with ⟨_, _, same, -⟩
    simp [same]
  unfold refusals at member
  split at member <;> simp at member <;> grind

variable (admits : call.admission repo = .ok ())

include admits

theorem run_commit_of_refused (refused : call.verdict repo store ≠ .ready) :
    ∃ failure, (repo.commit .delivered call).run store = .error failure store ∧
      ∀ op, failure ≠ .transport op := by
  rcases commit_eq repo call .delivered with ⟨_, invalid, equation⟩
  have inRange := call.verdict_inRange repo store
  rw [equation]
  simp only [EStateM.run_bind, run_ensure, admits, run_runScript,
    run_script (admitted admits) store]
  cases decided : call.verdict repo store with
  | ready => exact absurd decided refused
  | failed _ => exact ⟨_, rfl, by simp⟩
  | refused reply =>
    rw [decided] at inRange
    simp only [Verdict.conclude, integer, toReply_of_refusal inRange, commitReply]
    cases listed : call.refusals.lookup reply with
    | some refusal => exact ⟨refusal, rfl, refusal_ne_transport listed⟩
    | none =>
      have neg : reply ≤ 0 := by
        have below := inRange.2
        omega
      refine ⟨.message invalid, ?_, by simp⟩
      simp [neg, throw, throwThe, MonadExceptOf.throw]

theorem run_commit_of_failure (ready : call.verdict repo store = .ready) {failure : Redis.Failure}
    (fails : call.failure repo store = some failure) :
    ∃ op, (repo.commit .delivered call).run store =
      .error (.failed op failure) (call.recorded repo store) := by
  rcases commit_eq repo call .delivered with ⟨op, _, equation⟩
  refine ⟨op, ?_⟩
  rw [equation]
  simp [EStateM.run_bind, run_ensure, admits, run_runScript,
    run_script (admitted admits) store, ready, Verdict.conclude, writes, fails]

theorem run_commit_of_applied (ready : call.verdict repo store = .ready)
    (readable : call.failure repo store = none) :
    ∃ invalid, (repo.commit .delivered call).run store =
      if Representable (call.expectedRevision + 1) then
        .ok ⟨call.expectedRevision + 1, call.lease.fencingToken, call.payload⟩
          (call.applied repo store)
      else .error (.message invalid) (call.applied repo store) := by
  rcases commit_eq repo call .delivered with ⟨_, invalid, equation⟩
  refine ⟨invalid, ?_⟩
  rw [equation]
  simp only [EStateM.run_bind, run_ensure, admits, run_runScript, run_script (admitted admits)
    store, ready, Verdict.conclude, writes, readable, integer, commitReply_written]
  by_cases fits : Representable (call.expectedRevision + 1)
  · simp only [if_pos fits]
  · simp only [if_neg fits]

omit admits

/-! ### The stores on the way differ -/

theorem applied_ne (admitted : call.Admitted repo) (ready : call.verdict repo store = .ready) :
    call.applied repo store ≠ store := by
  intro same
  rcases hashAt_applied_target admitted ready with ⟨current, readable, written⟩
  rw [same, readable] at written
  have rev := (lookup_fields repo call current).1
  rw [← Except.ok.inj written] at rev
  cases moves : call.migrateTo with
  | none =>
    rcases revision_of_ready moves ready with ⟨_, stored, expected⟩
    have here : call.target = call.storageKey := by simp [target, moves]
    rw [here, stored] at readable
    rw [Except.ok.inj readable, rev] at expected
    have successor := Decimal.format_injective expected
    omega
  | some live =>
    have here : call.target = live := by simp [target, moves]
    rw [here, Redis.Store.hashAt_of_missing (migration_of_ready moves ready).2.1] at readable
    rw [← Except.ok.inj readable] at rev
    simp at rev

theorem recorded_ne {live : ManagedConversationStorageKey} (admitted : call.Admitted repo)
    (moves : call.migrateTo = some live) (ready : call.verdict repo store = .ready) :
    call.recorded repo store ≠ store ∧ call.recorded repo store ≠ call.applied repo store := by
  rcases migration_of_ready moves ready with ⟨⟨_, stored, rev⟩, free, -⟩
  have here : call.target = live := by simp [target, moves]
  have nodup := (admitted.active live (by simp [moves])).2
  constructor
  · intro same
    have written : (call.recorded repo store).find call.target.repositoryKey = _ :=
      find_writeHash (Redis.Store.hashAt_of_missing (by rw [here]; exact free)) _ admitted.ttl
    rw [same, here, free] at written
    cases written
  · intro same
    have kept : (call.recorded repo store).find call.storageKey.repositoryKey =
        store.find call.storageKey.repositoryKey :=
      find_recorded_ne (by rw [here]; exact nodup)
    have gone : (call.applied repo store).find call.storageKey.repositoryKey = none := by
      simp only [applied, moves]
      exact Redis.Store.find_put_none _ _
    rw [← same, kept] at gone
    rw [Redis.Store.hashAt_of_missing gone] at stored
    rw [← Except.ok.inj stored] at rev
    simp at rev

theorem failure_eq {live : ManagedConversationStorageKey} (moves : call.migrateTo = some live) :
    call.failure repo store = fenceFailure repo.client store (fenceKey live.repositoryKey)
        (call.record repo).fencingToken := by
  have here : call.target = live := by simp [target, moves]
  have kept : (call.recorded repo store).textAt (fenceKey live.repositoryKey) =
      store.textAt (fenceKey live.repositoryKey) := by
    apply Redis.Store.textAt_congr
    rw [find_recorded_ne (by rw [here]; exact fenceKey_ne_self _)]
  simp only [failure, moves, Option.bind_some, fenceFailure, kept]

theorem fenceBelow_format (client : Client) {text : String} {n token : ℕ}
    (parsed : Decimal.parse text = some n) :
    fenceBelow client (some text) (Decimal.format token) =
      .ok (Lua.Number.lt (.ofNat n) (.ofNat token)) := by
  simp [fenceBelow, Lua.tonumber, parsed]

theorem fenceFailure_eq_none {key : String} {token : ℕ} :
    fenceFailure repo.client store key (Decimal.format token) = none ↔
      ∃ current, store.textAt key = .ok current ∧
        ∀ text ∈ current, Lua.tonumber repo.client.otherNumeral text ≠ none := by
  unfold fenceFailure
  cases store.textAt key with
  | error _ => simp
  | ok current =>
    cases current with
    | none => simp [fenceBelow]
    | some text =>
      cases n : Lua.tonumber repo.client.otherNumeral text <;>
        simp [fenceBelow, n]

/-! ### When a commit is one step -/

theorem finalStore_commit (runs : call.Runs repo wire) :
    finalStore ((repo.commit wire call).run store) = call.after repo store := by
  rcases runs with ⟨admits, arrives⟩
  cases wire with
  | requestLost => exact absurd rfl arrives
  | replyLost =>
    rcases @run_commit_of_replyLost repo call store admits with ⟨op, out⟩
    rw [out]
    rfl
  | delivered =>
    by_cases ready : call.verdict repo store = .ready
    · cases fails : call.failure repo store with
      | some _ =>
        rcases run_commit_of_failure admits ready fails with ⟨_, out⟩
        rw [out]
        simp [finalStore, after, ready, fails]
      | none =>
        rcases run_commit_of_applied admits ready fails with ⟨_, out⟩
        rw [out]
        by_cases fits : Representable (call.expectedRevision + 1) <;>
          simp [fits, finalStore, after, ready, fails]
    · rcases run_commit_of_refused admits ready with ⟨_, out, -⟩
      rw [out]
      unfold after
      split
      · rename_i decided
        exact absurd decided ready
      · rfl

theorem failure_of_exact (exact : call.Exact repo wire store)
    (runs : call.Runs repo wire) (ready : call.verdict repo store = .ready) :
    call.failure repo store = none := by
  cases fails : call.failure repo store with
  | none => rfl
  | some _ =>
    have stays : call.after repo store = call.recorded repo store := by
      simp [after, ready, fails]
    have settled := exact.allOrNothing
    rw [finalStore_commit runs, stays] at settled
    cases moves : call.migrateTo with
    | none => simp [CommitCall.failure, moves] at fails
    | some _ =>
      have diff := recorded_ne (admitted runs.1) moves ready
      rcases settled with unchanged | complete
      · exact absurd unchanged diff.1
      · exact absurd complete diff.2

theorem sound_of_exact (exact : call.Exact repo wire store) :
    call.Sound repo wire store := by
  refine ⟨?_, ?_, ?_⟩
  · intro runs text compares parsed
    exact (exact.revisionsCompared runs text compares).mpr parsed
  · intro runs ready live active
    have moves : call.migrateTo = some live := active
    have readable := failure_of_exact exact runs ready
    rw [failure_eq moves] at readable
    rcases fenceFailure_eq_none.mp readable with ⟨current, stored, numeral⟩
    unfold FenceComparable
    rw [stored]
    cases current with
    | none => trivial
    | some text =>
      refine ⟨numeral text rfl, ?_⟩
      intro n parsed below
      have compared := exact.tokensCompared runs ready live active text n stored parsed
      rw [show (call.record repo).fencingToken = Decimal.format call.lease.fencingToken
        from rfl, fenceBelow_format repo.client parsed] at compared
      have less := Except.ok.inj compared
      rw [decide_eq_true below, Lua.lt_ofNat_iff] at less
      exact less.2
  · intro runs ready delivered
    subst delivered
    have readable := failure_of_exact exact runs ready
    rcases run_commit_of_applied runs.1 ready readable with ⟨_, out⟩
    by_contra lost
    rw [if_neg lost] at out
    have unchanged := exact.failureUnchanged _ _ out (by simp)
    exact applied_ne (admitted runs.1) ready unchanged

theorem failure_of_sound (sound : call.Sound repo wire store)
    (runs : call.Runs repo wire) (ready : call.verdict repo store = .ready) :
    call.failure repo store = none := by
  cases moves : call.migrateTo with
  | none => simp [CommitCall.failure, moves]
  | some live =>
    have alike := sound.fence runs ready live moves
    unfold FenceComparable at alike
    rw [failure_eq moves]
    apply fenceFailure_eq_none.mpr
    cases stored : store.textAt (fenceKey live.repositoryKey) with
    | error _ => simp [stored] at alike
    | ok current =>
      refine ⟨current, rfl, ?_⟩
      intro text isText
      rw [stored, show current = some text from isText] at alike
      exact alike.1

theorem after_of_sound (sound : call.Sound repo wire store) (runs : call.Runs repo wire) :
    call.after repo store = store ∨ call.verdict repo store = .ready ∧
        call.after repo store = call.applied repo store := by
  by_cases ready : call.verdict repo store = .ready
  · have readable := failure_of_sound sound runs ready
    exact .inr ⟨ready, by simp [after, ready, readable]⟩
  · left
    unfold after
    split
    · rename_i decided
      exact absurd decided ready
    · rfl

theorem run_commit_of_not_runs (idle : ¬call.Runs repo wire) :
    ∃ failure, (repo.commit wire call).run store = .error failure store := by
  cases admits : call.admission repo with
  | error failure => exact ⟨failure, run_commit_of_rejected admits⟩
  | ok _ =>
    cases wire with
    | requestLost =>
      rcases @run_commit_of_requestLost repo call store admits with ⟨_, out⟩
      exact ⟨_, out⟩
    | delivered | replyLost => exact absurd ⟨admits, by simp⟩ idle

theorem failureUnchanged_of_sound (sound : call.Sound repo wire store)
    {failure : RepositoryError} {left : Store}
    (out : (repo.commit wire call).run store = .error failure left)
    (notTransport : ∀ op, failure ≠ .transport op) : left = store := by
  by_cases runs : call.Runs repo wire
  · cases wire with
    | requestLost => exact absurd rfl runs.2
    | replyLost =>
      rcases @run_commit_of_replyLost repo call store runs.1 with ⟨op, lost⟩
      rw [lost] at out
      cases out
      exact absurd rfl (notTransport op)
    | delivered =>
      by_cases ready : call.verdict repo store = .ready
      · have readable := failure_of_sound sound runs ready
        rcases run_commit_of_applied runs.1 ready readable with ⟨_, applied⟩
        rw [applied, if_pos (sound.reply runs ready rfl)] at out
        cases out
      · rcases run_commit_of_refused runs.1 ready with ⟨_, refused, -⟩
        rw [refused] at out
        cases out
        rfl
  · rcases @run_commit_of_not_runs repo call wire store runs with ⟨_, same⟩
    rw [same] at out
    cases out
    rfl

theorem exact_of_sound (sound : call.Sound repo wire store) :
    call.Exact repo wire store := by
  refine ⟨?_, ?_, ?_, ?_⟩
  · by_cases runs : call.Runs repo wire
    · rw [finalStore_commit runs]
      rcases after_of_sound sound runs with unchanged | ⟨-, complete⟩
      · exact .inl unchanged
      · exact .inr complete
    · rcases @run_commit_of_not_runs repo call wire store runs with ⟨_, out⟩
      rw [out]
      exact .inl rfl
  · intro _ _ out notTransport
    exact failureUnchanged_of_sound sound out notTransport
  · intro runs text compares
    constructor
    · rintro rfl
      exact Decimal.parse_format _
    · intro parsed
      exact sound.spelling runs text compares parsed
  · intro runs ready live active _ n stored parsed
    have alike := sound.fence runs ready live active
    unfold FenceComparable at alike
    rw [stored] at alike
    rw [show (call.record repo).fencingToken = Decimal.format call.lease.fencingToken
      from rfl, fenceBelow_format repo.client parsed]
    congr 1
    rw [Bool.eq_iff_iff, Lua.lt_ofNat_iff, decide_eq_true_iff]
    constructor
    · exact fun less => less.1
    · exact fun below => ⟨below, alike.2 n parsed below⟩

/-! ### Commits whose script is sent again -/

/-- A commit as the client runs it: a script whose request or reply is lost is sent again, until
an attempt is answered or the last one is lost. -/
def sent (repo : RedisManagedConsensusRepository) (call : CommitCall) :
    Transport → List Transport → Operation ManagedConsensusRecord
  | first, [] => repo.commit first call
  | first, second :: later => fun store =>
    match (repo.commit first call).run store with
    | .error (.transport _) after => (call.sent repo second later).run after
    | outcome => outcome

/-- The first attempt that arrives, and the attempts after it. -/
def arrival : List Transport → Option (Transport × List Transport)
  | [] => none
  | .requestLost :: later => arrival later
  | wire :: later => some (wire, later)

/-- A commit is one step, however often its script is sent. -/
structure ExactSent (repo : RedisManagedConsensusRepository) (call : CommitCall) (store : Store)
    (first : Transport) (later : List Transport) : Prop where
  allOrNothing : finalStore ((call.sent repo first later).run store) = store ∨
    finalStore ((call.sent repo first later).run store) = call.applied repo store
  failureUnchanged : ∀ failure after,
    (call.sent repo first later).run store = .error failure after →
      (∀ op, failure ≠ .transport op) → after = store
  revisionsCompared : ∀ wire others, arrival (first :: later) = some (wire, others) →
    call.Runs repo wire → ∀ text, call.Compares store text →
    (text = (call.record repo).expectedRevision ↔
      Decimal.parse text = some call.expectedRevision)
  tokensCompared : ∀ wire others, arrival (first :: later) = some (wire, others) →
    call.Runs repo wire → call.verdict repo store = .ready →
    ∀ live ∈ call.migrateTo, ∀ text n,
      store.textAt (fenceKey live.repositoryKey) = .ok (some text) →
      Decimal.parse text = some n →
      fenceBelow repo.client (some text) (call.record repo).fencingToken =
        .ok (decide (n < call.lease.fencingToken))

/-- The first attempt that arrives is sound, and when it writes and its reply is lost, no later
attempt is answered. -/
structure SoundSent (repo : RedisManagedConsensusRepository) (call : CommitCall) (store : Store)
    (first : Transport) (later : List Transport) : Prop where
  attempt : ∀ wire others, arrival (first :: later) = some (wire, others) →
    call.Sound repo wire store
  once : ∀ others, arrival (first :: later) = some (.replyLost, others) →
    call.admission repo = .ok () → call.verdict repo store = .ready → .delivered ∉ others

theorem sent_of_rejected {failure : RepositoryError}
    (rejects : call.admission repo = .error failure)
    (first : Transport) (later : List Transport) :
    (call.sent repo first later).run store = .error failure store := by
  induction later generalizing first with
  | nil => exact run_commit_of_rejected rejects
  | cons second others ih =>
    have once := @run_commit_of_rejected repo call first store failure rejects
    simp only [sent, EStateM.run] at once ⊢
    rw [once]
    cases failure with
    | transport _ => exact ih second
    | _ => rfl

section Admitted

variable {first : Transport} {later : List Transport} (admits : call.admission repo = .ok ())

include admits

/-- A script that the store refuses changes nothing, and the refusal is reported exactly when an
attempt is answered. -/
theorem sent_of_refused (refused : call.verdict repo store ≠ .ready) :
    ∃ failure, (call.sent repo first later).run store = .error failure store ∧
      ((∀ op, failure ≠ .transport op) ↔ .delivered ∈ first :: later) := by
  have unchanged : call.after repo store = store := by
    unfold after
    split
    next ready => exact absurd ready refused
    next => rfl
  obtain ⟨refusal, delivered, notTransport⟩ := run_commit_of_refused admits refused
  obtain ⟨requestOp, requestLost⟩ := @run_commit_of_requestLost repo call store admits
  obtain ⟨replyOp, replyLost⟩ := @run_commit_of_replyLost repo call store admits
  rw [unchanged] at replyLost
  induction later generalizing first with
  | nil =>
    cases first with
    | delivered => exact ⟨refusal, delivered, iff_of_true notTransport List.mem_cons_self⟩
    | requestLost => exact ⟨_, requestLost, iff_of_false (fun other => other _ rfl) (by simp)⟩
    | replyLost => exact ⟨_, replyLost, iff_of_false (fun other => other _ rfl) (by simp)⟩
  | cons second others ih =>
    obtain ⟨failure, rest, answered⟩ := @ih second
    simp only [sent, EStateM.run] at delivered requestLost replyLost rest ⊢
    cases first with
    | delivered =>
      refine ⟨refusal, ?_, iff_of_true notTransport List.mem_cons_self⟩
      rw [delivered]
      cases refusal with
      | transport op => exact absurd rfl (notTransport op)
      | _ => rfl
    | requestLost =>
      refine ⟨failure, ?_, answered.trans (by simp)⟩
      rw [requestLost]
      exact rest
    | replyLost =>
      refine ⟨failure, ?_, answered.trans (by simp)⟩
      rw [replyLost]
      exact rest

/-- The script is refused by the store that it left behind. -/
theorem refused_after : call.verdict repo (call.after repo store) ≠ .ready := by
  intro again
  by_cases ready : call.verdict repo store = .ready
  · have admitted := admitted admits
    have left : call.after repo store = if (call.failure repo store).isSome then
        call.recorded repo store else call.applied repo store := by
      simp [after, ready]
    rw [left] at again
    cases moves : call.migrateTo with
    | none =>
      have complete : (call.failure repo store).isSome = false := by
        simp [CommitCall.failure, moves]
      rw [complete] at again
      obtain ⟨fields, stored, expected⟩ := revision_of_ready moves again
      obtain ⟨current, _, written⟩ := hashAt_applied_target admitted ready
      have here : call.target = call.storageKey := by simp [target, moves]
      rw [here] at written
      simp only [Bool.false_eq_true, if_false] at stored
      rw [written] at stored
      rw [← Except.ok.inj stored, (lookup_fields repo call current).1] at expected
      have successor := Decimal.format_injective expected
      omega
    | some live =>
      have here : call.target = live := by simp [target, moves]
      have nodup := (admitted.active live (by simp [moves])).2
      obtain ⟨⟨fields, stored, rev⟩, free, -⟩ := migration_of_ready moves again
      cases fails : call.failure repo store with
      | some _ =>
        have missing := (migration_of_ready moves ready).2.1
        have written : (call.recorded repo store).find call.target.repositoryKey = _ :=
          find_writeHash (Redis.Store.hashAt_of_missing (by rw [here]; exact missing)) _
            admitted.ttl
        rw [fails] at free
        simp only [Option.isSome_some, if_true] at free
        rw [here, free] at written
        cases written
      | none =>
        rw [fails] at stored
        have gone : (call.applied repo store).find call.storageKey.repositoryKey = none := by
          simp only [applied, moves]
          exact Redis.Store.find_put_none _ _
        simp only [Option.isSome_none, Bool.false_eq_true, if_false] at stored
        rw [Redis.Store.hashAt_of_missing gone] at stored
        rw [← Except.ok.inj stored] at rev
        simp at rev
  · have unchanged : call.after repo store = store := by
      unfold after
      split
      next found => exact absurd found ready
      next => rfl
    exact ready (unchanged ▸ again)

/-- An arriving script whose reply is lost leaves its store, however often it is sent again, and
a later answer is a refusal. -/
theorem sent_replyLost :
    ∃ failure, (call.sent repo .replyLost later).run store =
        .error failure (call.after repo store) ∧
      ((∀ op, failure ≠ .transport op) ↔ .delivered ∈ later) := by
  obtain ⟨op, lost⟩ := @run_commit_of_replyLost repo call store admits
  cases later with
  | nil => exact ⟨_, lost, iff_of_false (fun other => other _ rfl) (by simp)⟩
  | cons second others =>
    obtain ⟨failure, rest, answered⟩ :=
      @sent_of_refused repo call (call.after repo store) admits second others
        (refused_after admits)
    refine ⟨failure, ?_, answered⟩
    simp only [sent, EStateM.run] at lost rest ⊢
    rw [lost]
    exact rest

/-- An attempt that is answered is the last one. -/
theorem sent_delivered :
    (call.sent repo .delivered later).run store = (repo.commit .delivered call).run store := by
  have answered : ∀ op after,
      (repo.commit .delivered call).run store ≠ .error (.transport op) after := by
    intro op after lost
    by_cases ready : call.verdict repo store = .ready
    · cases fails : call.failure repo store with
      | some _ =>
        obtain ⟨_, out⟩ := run_commit_of_failure admits ready fails
        rw [out] at lost
        cases lost
      | none =>
        obtain ⟨_, out⟩ := run_commit_of_applied admits ready fails
        rw [out] at lost
        split at lost <;> cases lost
    · obtain ⟨_, out, notTransport⟩ := run_commit_of_refused admits ready
      rw [out] at lost
      cases lost
      exact notTransport op rfl
  cases later with
  | nil => rfl
  | cons _ _ =>
    simp only [sent, EStateM.run] at answered ⊢

theorem sent_requestLost (second : Transport) (others : List Transport) :
    (call.sent repo .requestLost (second :: others)).run store =
      (call.sent repo second others).run store := by
  obtain ⟨op, lost⟩ := @run_commit_of_requestLost repo call store admits
  simp only [sent, EStateM.run] at lost ⊢
  rw [lost]

/-- The outcome of the first attempt that arrives, and of those after it. -/
theorem sent_arrival :
    (∀ others, arrival (first :: later) = some (.delivered, others) →
      (call.sent repo first later).run store = (repo.commit .delivered call).run store) ∧
    (∀ others, arrival (first :: later) = some (.replyLost, others) →
      ∃ failure, (call.sent repo first later).run store =
          .error failure (call.after repo store) ∧
        ((∀ op, failure ≠ .transport op) ↔ .delivered ∈ others)) ∧
    (arrival (first :: later) = none →
      ∃ op, (call.sent repo first later).run store = .error (.transport op) store) := by
  induction later generalizing first with
  | nil =>
    cases first with
    | delivered => simp [arrival, sent]
    | requestLost =>
      have lost := @run_commit_of_requestLost repo call store admits
      simpa [arrival, sent] using lost
    | replyLost =>
      have lost := @sent_replyLost repo call store admits []
      simpa [arrival] using lost
  | cons second others ih =>
    cases first with
    | delivered =>
      have same := @sent_delivered repo call store admits (second :: others)
      simp [arrival, same]
    | requestLost =>
      rw [sent_requestLost admits]
      exact ih
    | replyLost =>
      have lost := @sent_replyLost repo call store admits (second :: others)
      simpa [arrival] using lost

end Admitted

/-! ### When a commit that is sent again is one step -/

variable {first : Transport} {later others : List Transport}

theorem exactSent_of_delivered (arrives : arrival (first :: later) = some (.delivered, others))
    (admits : call.admission repo = .ok ()) :
    call.ExactSent repo store first later ↔ call.Exact repo .delivered store := by
  have out := (@sent_arrival repo call store admits first later).1 others arrives
  constructor
  · rintro ⟨allOrNothing, failureUnchanged, revisions, tokens⟩
    rw [out] at allOrNothing
    simp only [out] at failureUnchanged
    exact ⟨allOrNothing, failureUnchanged, revisions _ _ arrives, tokens _ _ arrives⟩
  · rintro ⟨allOrNothing, failureUnchanged, revisions, tokens⟩
    refine ⟨by rw [out]; exact allOrNothing, by simpa only [out] using failureUnchanged, ?_, ?_⟩
    · intro wire _ same
      rw [arrives] at same
      cases same
      exact revisions
    · intro wire _ same
      rw [arrives] at same
      cases same
      exact tokens

/-- When the reply of the first attempt is lost, the commit is one step exactly if that attempt is
and, once it has written, no later attempt is answered. -/
theorem exactSent_of_replyLost (arrives : arrival (first :: later) = some (.replyLost, others))
    (admits : call.admission repo = .ok ()) :
    call.ExactSent repo store first later ↔
      call.Exact repo .replyLost store ∧
        (call.verdict repo store = .ready → .delivered ∉ others) := by
  obtain ⟨failure, out, answered⟩ := (@sent_arrival repo call store admits first later).2.1 others
    arrives
  obtain ⟨op, lost⟩ := @run_commit_of_replyLost repo call store admits
  have runs : call.Runs repo .replyLost := ⟨admits, by decide⟩
  constructor
  · rintro ⟨allOrNothing, failureUnchanged, revisions, tokens⟩
    rw [out] at allOrNothing
    have exact : call.Exact repo .replyLost store := by
      refine ⟨by rw [lost]; exact allOrNothing, ?_, revisions _ _ arrives, tokens _ _ arrives⟩
      intro _ _ result notTransport
      rw [lost] at result
      cases result
      exact absurd rfl (notTransport op)
    refine ⟨exact, ?_⟩
    intro ready isAnswered
    have complete : call.after repo store = call.applied repo store := by
      simp [after, ready, failure_of_exact exact runs ready]
    have unchanged := failureUnchanged _ _ out (answered.mpr isAnswered)
    exact applied_ne (admitted admits) ready (complete.symm.trans unchanged)
  · rintro ⟨⟨allOrNothing, -, revisions, tokens⟩, once⟩
    rw [lost] at allOrNothing
    refine ⟨by rw [out]; exact allOrNothing, ?_, ?_, ?_⟩
    · intro _ _ result notTransport
      rw [out] at result
      cases result
      have refused : call.verdict repo store ≠ .ready :=
        fun ready => once ready (answered.mp notTransport)
      unfold after
      split
      next ready => exact absurd ready refused
      next => rfl
    · intro wire _ same
      rw [arrives] at same
      cases same
      exact revisions
    · intro wire _ same
      rw [arrives] at same
      cases same
      exact tokens

theorem not_arrival_requestLost (wires : List Transport) :
    arrival wires ≠ some (.requestLost, others) := by
  induction wires with
  | nil => simp [arrival]
  | cons wire _ ih =>
    cases wire with
    | requestLost => exact ih
    | delivered | replyLost => simp [arrival]

/-- Nothing was decided: no attempt arrives, or the call does not pass its checks. -/
theorem exactSent_of_idle (idle : arrival (first :: later) = none ∨ ∃ failure,
    call.admission repo = .error failure) : call.ExactSent repo store first later := by
  have out : ∃ failure, (call.sent repo first later).run store = .error failure store := by
    rcases idle with lost | ⟨failure, rejects⟩
    · cases admits : call.admission repo with
      | error failure => exact ⟨failure, sent_of_rejected admits first later⟩
      | ok _ =>
        obtain ⟨_, out⟩ := (@sent_arrival repo call store admits first later).2.2 lost
        exact ⟨_, out⟩
    · exact ⟨failure, sent_of_rejected rejects first later⟩
  have notRuns : ∀ wire others, arrival (first :: later) = some (wire, others) →
      ¬call.Runs repo wire := by
    intro _ _ arrives runs
    rcases idle with lost | ⟨_, rejects⟩
    · rw [lost] at arrives
      cases arrives
    · rw [runs.1] at rejects
      cases rejects
  obtain ⟨failure, out⟩ := out
  refine ⟨.inl (by rw [out]; rfl), ?_, ?_, ?_⟩
  · intro _ _ result _
    rw [out] at result
    cases result
    rfl
  · intro _ _ arrives runs
    exact absurd runs (notRuns _ _ arrives)
  · intro _ _ arrives runs
    exact absurd runs (notRuns _ _ arrives)

/-- A commit, its script sent once or again after lost requests and replies, is one step that
compares integers exactly under the condition. -/
theorem sent_exact_iff_sound (repo : RedisManagedConsensusRepository) (call : CommitCall)
    (first : Transport) (later : List Transport) (store : Store) :
    call.ExactSent repo store first later ↔ call.SoundSent repo store first later := by
  cases admits : call.admission repo with
  | error failure =>
    refine iff_of_true (exactSent_of_idle (.inr ⟨failure, admits⟩)) ⟨?_, ?_⟩
    · intro _ _ _
      exact sound_of_exact (exact_of_sound ⟨fun runs => by simp [runs.1] at admits,
        fun runs => by simp [runs.1] at admits, fun runs => by simp [runs.1] at admits⟩)
    · intro _ _ passes
      rw [admits] at passes
      cases passes
  | ok _ =>
    cases arrives : arrival (first :: later) with
    | none =>
      refine iff_of_true (exactSent_of_idle (.inl arrives)) ⟨?_, ?_⟩
      · intro _ _ other
        rw [arrives] at other
        cases other
      · intro _ other
        rw [arrives] at other
        cases other
    | some attempt =>
      obtain ⟨wire, others⟩ := attempt
      cases wire with
      | requestLost => exact absurd arrives (not_arrival_requestLost _)
      | delivered =>
        rw [exactSent_of_delivered arrives admits]
        constructor
        · intro exact
          refine ⟨?_, ?_⟩
          · intro _ _ same
            rw [arrives] at same
            cases same
            exact sound_of_exact exact
          · intro _ same
            rw [arrives] at same
            cases same
        · intro sound
          exact exact_of_sound (sound.attempt _ _ arrives)
      | replyLost =>
        rw [exactSent_of_replyLost arrives admits]
        constructor
        · rintro ⟨exact, once⟩
          refine ⟨?_, ?_⟩
          · intro _ _ same
            rw [arrives] at same
            cases same
            exact sound_of_exact exact
          · intro _ same _
            rw [arrives] at same
            cases same
            exact once
        · intro sound
          exact ⟨exact_of_sound (sound.attempt _ _ arrives), sound.once _ arrives admits⟩

end CommitCall

/-! ### Commits that are not one step -/

def plainMarshal (envelope : ManagedEncryptedEnvelope) : String :=
  "\x7b\"version\":" ++ toString envelope.version ++ ",\"algorithm\":\"" ++ envelope.algorithm ++
    "\",\"key_version\":\"" ++ envelope.keyVersion ++ "\",\"purpose\":\"" ++
    envelope.purpose.text ++ "\",\"revision\":" ++ Decimal.format envelope.revision ++
    ",\"nonce\":\"" ++ envelope.nonce ++ "\",\"ciphertext\":\"" ++ envelope.ciphertext ++
    "\"\x7d"

def sampleRepository : RedisManagedConsensusRepository where
  client := ⟨fun _ => none, plainMarshal, fun _ => none⟩
  maximumRetention := 86400 * 10 ^ 9
  positive := by decide
  bounded := by decide

def sampleKey (keyVersion : String) : ManagedConversationStorageKey where
  repositoryKey := "new-api:context_consensus:v1:owner-" ++ keyVersion ++ ":talk-" ++ keyVersion
  ownerHMAC := "owner-" ++ keyVersion
  conversationHMAC := "talk-" ++ keyVersion
  keyVersion := keyVersion

def sampleCommit (expectedRevision : ℕ) (migrateTo : Option ManagedConversationStorageKey) :
    CommitCall where
  storageKey := sampleKey "v1"
  migrateTo := migrateTo
  expectedRevision := expectedRevision
  lease := ⟨(sampleKey "v1").repositoryKey, "request", 1⟩
  payload := ⟨1, "AES-256-GCM", (migrateTo.getD (sampleKey "v1")).keyVersion, .consensusState,
    expectedRevision + 1, "bm9uY2U=", "Y2lwaGVydGV4dA=="⟩
  provider := none
  ttl := 3600 * 10 ^ 9

def sampleStore (rev : ℕ) (activeFence : Option String) : Store where
  now := 0
  entries key :=
    if key = (sampleKey "v1").repositoryKey then
      some ⟨.hash [("revision", Decimal.format rev), ("fencing_token", "1"),
        ("encrypted_payload", "")], some 3600000⟩
    else if key = leaseKey (sampleKey "v1").repositoryKey then
      some ⟨.text "request:1", some 60000⟩
    else if key = fenceKey (sampleKey "v2").repositoryKey then
      activeFence.map fun text => ⟨.text text, none⟩
    else none

/-- At revision 2 ^ 53 the commit writes and reports an error, a migration that finds a fencing
counter that is no number leaves two records, and a commit whose reply is lost is refused when
its script is sent again. -/
theorem commit_not_exact :
    ¬(sampleCommit (2 ^ 53) none).ExactSent sampleRepository (sampleStore (2 ^ 53) none)
        .delivered [] ∧
      ¬(sampleCommit 7 (some (sampleKey "v2"))).ExactSent sampleRepository
        (sampleStore 7 (some "broken")) .delivered [] ∧
      ¬(sampleCommit 7 none).ExactSent sampleRepository (sampleStore 7 none)
        .replyLost [.delivered] := by
  refine ⟨?_, ?_, ?_⟩
  · intro exact
    have admits : (sampleCommit (2 ^ 53) none).admission sampleRepository = .ok () := by
      decide
    have ready : (sampleCommit (2 ^ 53) none).verdict sampleRepository
        (sampleStore (2 ^ 53) none) = .ready := by decide
    have sound := CommitCall.sound_of_exact
      ((CommitCall.exactSent_of_delivered rfl admits).mp exact)
    have reply := sound.reply ⟨admits, by decide⟩ ready rfl
    exact absurd reply (by decide)
  · intro exact
    have admits : (sampleCommit 7 (some (sampleKey "v2"))).admission sampleRepository = .ok () := by
      decide
    have ready : (sampleCommit 7 (some (sampleKey "v2"))).verdict sampleRepository
        (sampleStore 7 (some "broken")) = .ready := by decide
    have readable := CommitCall.failure_of_exact
      ((CommitCall.exactSent_of_delivered rfl admits).mp exact) ⟨admits, by decide⟩ ready
    exact absurd readable (by decide)
  · intro exact
    have admits : (sampleCommit 7 none).admission sampleRepository = .ok () := by decide
    have ready : (sampleCommit 7 none).verdict sampleRepository (sampleStore 7 none) = .ready := by
      decide
    have once := ((CommitCall.exactSent_of_replyLost rfl admits).mp exact).2
    exact absurd (once ready) (by decide)

end NewApi.ContextConsensus
