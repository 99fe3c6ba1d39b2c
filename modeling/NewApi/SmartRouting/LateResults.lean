import NewApi.SmartRouting.HealthRun

/-!
# Late results

Attempts start after `TryAcquireProbe` and report later, in any order.
-/

namespace SmartRouting

open Transition

/-- An attempt in flight: whether it was admitted as a half-open probe, and how often its circuit
had been opened before. -/
structure Attempt where
  channelID : ℤ
  modelName : String
  probe : Bool
  openings : ℕ
deriving DecidableEq

namespace Attempt

def key (attempt : Attempt) : RuntimeHealthKey :=
  runtimeHealthKey attempt.channelID attempt.modelName

end Attempt

/-- The result of an attempt, with the measurements of a success if there are any. -/
inductive Outcome where
  | succeeded
  | succeededWithMetrics (latency : ℤ) (rate : Option ℚ)
  | failed

def Outcome.call (chan : ℤ) (model : String) : Outcome → Call
  | succeeded => .recordSuccess chan model
  | succeededWithMetrics latency rate =>
    .recordSuccessWithMetrics chan model latency rate
  | failed => .recordFailure chan model

/-- The reads of a tracker. -/
inductive View where
  | snapshot (chan : ℤ) (model : String)
  | snapshotAll
  | clear

def View.call : View → Call
  | snapshot chan model => .snapshot chan model
  | snapshotAll => .snapshotAll
  | clear => .clear

/-- What happens to a tracker: attempts start and report, and it is read. -/
inductive Happening where
  | start (time attempt : ℕ) (chan : ℤ) (model : String)
  | report (time attempt : ℕ) (out : Outcome)
  | look (time : ℕ) (view : View)

namespace Happening

def time : Happening → ℕ
  | start time _ _ _ => time
  | report time _ _ => time
  | look time _ => time

end Happening

/-- The tracker, the attempts in flight, and how often each circuit was opened. -/
structure Traffic where
  tracker : RuntimeHealthTracker
  now : ℕ
  attempts : ℕ → Option Attempt
  openings : RuntimeHealthKey → ℕ

namespace Traffic

def begin (now : ℕ) : Traffic where
  tracker := newRuntimeHealthTracker
  now := now
  attempts := fun _ => none
  openings := fun _ => 0

def found (traffic : Traffic) (time : ℕ) (key : RuntimeHealthKey) : Option RuntimeHealthEntry :=
  (traffic.tracker.prune time).entries key

def opens (traffic : Traffic) (time : ℕ) (key : RuntimeHealthKey) (call : Call) : Bool :=
  ((call.apply traffic.tracker time).entries key).any (·.state = .circuitOpen) &&
    traffic.tracker.stateAt time key ≠ some .circuitOpen

def next (traffic : Traffic) : Happening → Traffic
  | .start time attempt chan model =>
    let key := runtimeHealthKey chan model
    let started : Attempt :=
      { channelID := chan
        modelName := model
        probe := traffic.tracker.stateAt time key = some .halfOpen
        openings := traffic.openings key }
    { traffic with
      tracker := (Call.tryAcquireProbe chan model).apply traffic.tracker time
      now := time
      attempts :=
        if (traffic.tracker.tryAcquireProbe time chan model).2 then
          Function.update traffic.attempts attempt (some started)
        else traffic.attempts }
  | .report time attempt out =>
    match traffic.attempts attempt with
    | none => { traffic with now := time }
    | some told =>
      let call := out.call told.channelID told.modelName
      { tracker := call.apply traffic.tracker time
        now := time
        attempts := Function.update traffic.attempts attempt none
        openings :=
          if traffic.opens time told.key call then
            Function.update traffic.openings told.key (traffic.openings told.key + 1)
          else traffic.openings }
  | .look time view =>
    { traffic with
      tracker := view.call.apply traffic.tracker time
      now := time }

/-- The clock does not go back, an attempt starts under a new name, and only an attempt in flight
reports. -/
def Allowed (traffic : Traffic) (happening : Happening) : Prop :=
  traffic.now ≤ happening.time ∧
    match happening with
    | .start _ attempt _ _ => traffic.attempts attempt = none
    | .report _ attempt _ => traffic.attempts attempt ≠ none
    | .look _ _ => True

instance : DecidableRel Traffic.Allowed := fun traffic happening => by
  cases happening <;> exact inferInstanceAs (Decidable (_ ∧ _))

def Stale (traffic : Traffic) (attempt : Attempt) : Prop :=
  attempt.openings < traffic.openings attempt.key
deriving Decidable

/-- A failure of an attempt that started before its circuit was opened neither opens it nor changes
its window, and a half-open circuit is left only by the result of an attempt that was admitted as a
half-open probe. -/
structure Unmoved (traffic : Traffic) (happening : Happening) : Prop where
  window : ∀ time attempt, happening = .report time attempt .failed →
    ∀ told ∈ traffic.attempts attempt, traffic.Stale told →
      ∀ after ∈ (traffic.next happening).tracker.entries told.key, after.state = .circuitOpen →
          ∃ past ∈ traffic.found time told.key,
            (past.observe time).state = .circuitOpen ∧ after.openedAt = past.openedAt ∧
              after.openUntil = past.openUntil
  leaving : ∀ key, traffic.tracker.stateAt happening.time key = some .halfOpen →
    ∀ after ∈ (traffic.next happening).tracker.entries key,
      (after.observe happening.time).state ≠ .halfOpen →
        ∃ time attempt out, happening = .report time attempt out ∧
          ∃ told ∈ traffic.attempts attempt, told.key = key ∧ told.probe = true

/-- A result that finds its circuit half-open comes from a probe, and from one that started after
the circuit was last opened if it is a failure; and a failure of an older attempt is not the third
in a row in a closed circuit. -/
structure ResultHarmless (traffic : Traffic) (time : ℕ) (told : Attempt) (out : Outcome) :
    Prop where
  probe : traffic.tracker.stateAt time told.key = some .halfOpen → told.probe = true
  recent : out = .failed → traffic.Stale told →
    traffic.tracker.stateAt time told.key ≠ some .halfOpen
  uncounted : out = .failed → traffic.Stale told →
    ∀ entry ∈ traffic.found time told.key, (entry.observe time).Closed →
      (entry.observe time).consecutiveFailures + 1 < runtimeHealthFailureThreshold

/-- A result that reports does no harm. -/
def Harmless (traffic : Traffic) : Happening → Prop
  | .report time attempt out =>
    ∀ told ∈ traffic.attempts attempt, traffic.ResultHarmless time told out
  | _ => True

end Traffic

/-! ## Half-open circuits -/

namespace RuntimeHealthEntry

variable {now : ℕ} {entry : RuntimeHealthEntry}

theorem observe_state (entry : RuntimeHealthEntry) (now : ℕ) :
    (entry.observe now).state =
      if entry.state = .circuitOpen ∧ ¬now < entry.openUntil then .halfOpen else entry.state := by
  simp only [observe, advanceCooldown]
  split <;> rfl

theorem observe_halfOpen (half : entry.state = .halfOpen) :
    (entry.observe now).state = .halfOpen := by
  rcases entry.advanceCooldown_cases now with ⟨same, _⟩ | ⟨opened, _, _⟩
  · simp [observe, same, half]
  · rw [half] at opened
    cases opened

theorem observe_openCircuit : ((entry.openCircuit now).observe now).state = .circuitOpen := by
  have later : now < (entry.openCircuit now).openUntil := by
    have positive : 0 < entry.nextCooldown := by
      simp only [nextCooldown]
      split
      · decide
      · split
        · decide
        · omega
    simp only [openCircuit]
    omega
  rcases (entry.openCircuit now).advanceCooldown_cases now with ⟨same, _⟩ | ⟨_, _, _⟩
  · simp only [observe, same]
    rfl
  · omega

theorem recordFailure_closed (closed : (entry.observe now).Closed) :
    (entry.recordFailure now).state =
      if runtimeHealthFailureThreshold ≤ (entry.observe now).consecutiveFailures + 1 then
        .circuitOpen
      else .degraded := by
  rw [recordFailure_shape]
  cases observed : (entry.observe now).state with
  | halfOpen => exact absurd observed closed.2
  | circuitOpen => exact absurd observed closed.1
  | healthy =>
    dsimp only
    split <;> rfl
  | degraded =>
    dsimp only
    split <;> rfl

variable (entry now) in
theorem recordFailure_opens_iff :
    (entry.observe now).state ≠ .circuitOpen ∧ (entry.recordFailure now).state = .circuitOpen ↔
      (entry.observe now).state = .halfOpen ∨ ((entry.observe now).Closed ∧
        runtimeHealthFailureThreshold ≤ (entry.observe now).consecutiveFailures + 1) := by
  by_cases half : (entry.observe now).state = .halfOpen
  · simp only [half, true_or, iff_true, ne_eq, reduceCtorEq, not_false_eq_true, true_and]
    rcases entry.recordFailure_cases now with
      ⟨_, moved⟩ | ⟨opened, _⟩ | ⟨closed, _⟩ | ⟨closed, _⟩
    · rw [moved]
      rfl
    · rw [half] at opened
      cases opened
    · exact absurd half closed.2
    · exact absurd half closed.2
  · by_cases opened : (entry.observe now).state = .circuitOpen
    · constructor
      · exact fun opens => absurd opened opens.1
      · rintro (isHalf | ⟨closed, _⟩)
        · exact absurd isHalf half
        · exact absurd opened closed.1
    · have closed : (entry.observe now).Closed := ⟨opened, half⟩
      rw [recordFailure_closed closed]
      constructor
      · rintro ⟨_, isOpen⟩
        right
        refine ⟨closed, ?_⟩
        by_contra few
        rw [if_neg few] at isOpen
        cases isOpen
      · rintro (isHalf | ⟨_, third⟩)
        · exact absurd isHalf half
        · exact ⟨opened, if_pos third⟩

theorem recordFailure_window (opened : (entry.observe now).state = .circuitOpen) :
    (entry.recordFailure now).openedAt = entry.openedAt ∧
      (entry.recordFailure now).openUntil = entry.openUntil := by
  have same : entry.advanceCooldown now = entry := by
    rcases entry.advanceCooldown_cases now with ⟨same, _⟩ | ⟨_, _, moved⟩
    · exact same
    · simp [observe, moved] at opened
  rcases entry.recordFailure_cases now with
    ⟨half, _⟩ | ⟨_, moved⟩ | ⟨closed, _⟩ | ⟨closed, _⟩
  · rw [opened] at half
    cases half
  · rw [moved]
    simp only [failed, observe, same]
    exact ⟨trivial, trivial⟩
  · exact absurd opened closed.1
  · exact absurd opened closed.1

theorem recordSuccess_closes {latency : ℤ} {rate : Option ℚ}
    (half : (entry.observe now).state = .halfOpen) :
    (entry.recordSuccess now latency rate).Closed := by
  rcases entry.recordSuccess_eq now latency rate with ⟨_, _, _, _, moved⟩
  rw [moved]
  simp only [close, half, ne_eq, reduceCtorEq, not_false_eq_true, if_true]
  exact closed_stateForReliability _

end RuntimeHealthEntry

namespace Call

variable {now : ℕ} {key : RuntimeHealthKey} {entry after : RuntimeHealthEntry}

def records (key : RuntimeHealthKey) : Call → Bool
  | recordFailure chan model => runtimeHealthKey chan model = key
  | call => call.succeeds key

/-- A call that records nothing leaves an entry half open. -/
theorem onEntry_halfOpen {call : Call} (silent : call.records key = false)
    (half : (entry.observe now).state = .halfOpen)
    (isAfter : after ∈ call.onEntry now key (some entry)) :
    (after.observe now).state = .halfOpen := by
  have kept : after ∈ some entry → (after.observe now).state = .halfOpen := by
    intro mem
    cases mem
    exact half
  cases call with
  | snapshot _ _ =>
    simp only [onEntry] at isAfter
    split at isAfter
    · cases isAfter
      exact RuntimeHealthEntry.observe_halfOpen half
    · exact kept isAfter
  | snapshotAll =>
    cases isAfter
    rw [RuntimeHealthEntry.observe_state] at half ⊢
    exact half
  | tryAcquireProbe _ _ =>
    simp only [onEntry] at isAfter
    split at isAfter
    · cases isAfter
      apply RuntimeHealthEntry.observe_halfOpen
      rw [(RuntimeHealthEntry.tryAcquireProbe_state _ _).1]
      exact half
    · exact kept isAfter
  | recordSuccess _ _ =>
    have other := of_decide_eq_false silent
    simp only [onEntry, onEntry.succeeds, if_neg other] at isAfter
    exact kept isAfter
  | recordSuccessWithLatency _ _ _ =>
    have other := of_decide_eq_false silent
    simp only [onEntry, onEntry.succeeds, if_neg other] at isAfter
    exact kept isAfter
  | recordSuccessWithMetrics _ _ _ _ =>
    have other := of_decide_eq_false silent
    simp only [onEntry, onEntry.succeeds, if_neg other] at isAfter
    exact kept isAfter
  | recordFailure _ _ =>
    have other := of_decide_eq_false silent
    simp only [onEntry, if_neg other] at isAfter
    exact kept isAfter
  | clear => cases isAfter

end Call

namespace Outcome

variable {now : ℕ} {chan : ℤ} {model : String} {entry after : RuntimeHealthEntry}

theorem call_records (out : Outcome) (key : RuntimeHealthKey) :
    (out.call chan model).records key =
      decide (runtimeHealthKey chan model = key) := by
  cases out with
  | succeeded | succeededWithMetrics _ _ | failed => rfl

theorem onEntry_leaves (out : Outcome) (half : (entry.observe now).state = .halfOpen) :
    ∃ after ∈ (out.call chan model).onEntry now (runtimeHealthKey chan model) (some entry),
      (after.observe now).state ≠ .halfOpen := by
  have succeeded : ∀ latency rate, ∃ after ∈
      Call.onEntry.succeeds now (runtimeHealthKey chan model) (some entry) chan
        model latency rate, (after.observe now).state ≠ .halfOpen := by
    intro _ _
    simp only [Call.onEntry.succeeds, if_true, reduceCtorEq, false_and, if_false]
    exact ⟨_, rfl, (RuntimeHealthEntry.recordSuccess_closes half).observe.2⟩
  cases out with
  | succeeded | succeededWithMetrics _ _ => exact succeeded _ _
  | failed =>
    simp only [call, Call.onEntry, if_true]
    refine ⟨_, rfl, ?_⟩
    rcases entry.recordFailure_cases now with
      ⟨_, moved⟩ | ⟨opened, _⟩ | ⟨closed, _⟩ | ⟨closed, _⟩
    · rw [Option.getD_some, moved, RuntimeHealthEntry.observe_openCircuit]
      simp
    · rw [half] at opened
      cases opened
    · exact absurd half closed.2
    · exact absurd half closed.2

end Outcome

/-! ## Steps -/

namespace Traffic

variable {traffic : Traffic} {time : ℕ} {key : RuntimeHealthKey}

theorem stateAt_eq_iff {s : ChannelHealthState} :
    traffic.tracker.stateAt time key = some s ↔
      ∃ entry, traffic.found time key = some entry ∧ (entry.observe time).state = s := by
  simp only [RuntimeHealthTracker.stateAt, found, Option.map_eq_some_iff]

theorem stays_halfOpen {call : Call} (silent : call.records key = false)
    (half : traffic.tracker.stateAt time key = some .halfOpen) {after : RuntimeHealthEntry}
    (isAfter : after ∈ (call.apply traffic.tracker time).entries key) :
    (after.observe time).state = .halfOpen := by
  rcases stateAt_eq_iff.mp half with ⟨_, held, isHalf⟩
  rw [Call.apply_entries] at isAfter
  rw [found] at held
  rw [held] at isAfter
  exact Call.onEntry_halfOpen silent isHalf isAfter

theorem recordFailure_entries (told : Attempt) :
    ((Outcome.failed.call told.channelID told.modelName).apply traffic.tracker
        time).entries told.key = some (((traffic.found time told.key).getD
        (RuntimeHealthEntry.unseen time)).recordFailure time) := by
  simp only [Outcome.call, Attempt.key, Call.apply_entries, Call.onEntry, if_true, found]

theorem recordFailure_unseen :
    ((RuntimeHealthEntry.unseen time).recordFailure time).state = .degraded := by
  have closed : ((RuntimeHealthEntry.unseen time).observe time).Closed := by
    rw [RuntimeHealthEntry.Closed, RuntimeHealthEntry.observe_state]
    exact ⟨by rintro ⟨⟩, by rintro ⟨⟩⟩
  rw [RuntimeHealthEntry.recordFailure_closed closed, if_neg]
  simp only [RuntimeHealthEntry.observe, RuntimeHealthEntry.advanceCooldown,
    RuntimeHealthEntry.unseen, reduceCtorEq, false_and, if_false]
  decide

section Report

variable {attempt : ℕ} {told : Attempt} {out : Outcome}

theorem next_report_tracker (inFlight : traffic.attempts attempt = some told) :
    (traffic.next (.report time attempt out)).tracker =
      (out.call told.channelID told.modelName).apply traffic.tracker time := by
  simp only [next, inFlight]

/-- What a failure does to the window of its entry. -/
theorem window_iff (inFlight : traffic.attempts attempt = some told) :
    (∀ after ∈ (traffic.next (.report time attempt .failed)).tracker.entries told.key,
        after.state = .circuitOpen → ∃ past ∈ traffic.found time told.key,
            (past.observe time).state = .circuitOpen ∧ after.openedAt = past.openedAt ∧
              after.openUntil = past.openUntil) ↔
      traffic.tracker.stateAt time told.key ≠ some .halfOpen ∧
        ∀ entry ∈ traffic.found time told.key, (entry.observe time).Closed →
          (entry.observe time).consecutiveFailures + 1 < runtimeHealthFailureThreshold := by
  rw [next_report_tracker inFlight, recordFailure_entries]
  cases held : traffic.found time told.key with
  | none =>
    have noState : traffic.tracker.stateAt time told.key ≠ some .halfOpen := by
      intro half
      rcases stateAt_eq_iff.mp half with ⟨entry, isHeld, _⟩
      rw [held] at isHeld
      cases isHeld
    constructor
    · exact fun _ => ⟨noState, nofun⟩
    · rintro _ _ ⟨⟩ opened
      rw [Option.getD_none, recordFailure_unseen] at opened
      cases opened
  | some entry =>
    have isHalf : traffic.tracker.stateAt time told.key = some .halfOpen ↔
        (entry.observe time).state = .halfOpen := by
      rw [stateAt_eq_iff, held]
      simp
    have opens := entry.recordFailure_opens_iff time
    simp only [Option.mem_def, Option.some.injEq, forall_eq', Option.getD_some,
      exists_eq_left', ne_eq, isHalf]
    constructor
    · intro kept
      refine ⟨?_, ?_⟩
      · intro half
        have opened := opens.mpr (.inl half)
        exact opened.1 (kept opened.2).1
      · intro closed
        by_contra third
        have opened := opens.mpr (.inr ⟨closed, not_lt.mp third⟩)
        exact opened.1 (kept opened.2).1
    · rintro ⟨notHalf, few⟩ isOpen
      have wasOpen : (entry.observe time).state = .circuitOpen := by
        by_contra shut
        rcases opens.mp ⟨shut, isOpen⟩ with half | ⟨closed, third⟩
        · exact notHalf half
        · exact absurd (few closed) (not_lt.mpr third)
      exact ⟨wasOpen, RuntimeHealthEntry.recordFailure_window wasOpen⟩

variable (time out) in
theorem leaving_iff (inFlight : traffic.attempts attempt = some told) :
    (∀ key, traffic.tracker.stateAt time key = some .halfOpen →
      ∀ after ∈ (traffic.next (.report time attempt out)).tracker.entries key,
        (after.observe time).state ≠ .halfOpen → told.key = key ∧ told.probe = true) ↔
      (traffic.tracker.stateAt time told.key = some .halfOpen → told.probe = true) := by
  rw [next_report_tracker inFlight]
  constructor
  · intro leaves half
    rcases stateAt_eq_iff.mp half with ⟨_, held, isHalf⟩
    rcases out.onEntry_leaves isHalf with ⟨after, isAfter, left⟩
    rw [found] at held
    rw [← held] at isAfter
    exact (leaves told.key half after (by rw [Call.apply_entries]; exact isAfter) left).2
  · intro probe key half _ isAfter left
    by_cases same : told.key = key
    · subst same
      exact ⟨rfl, probe half⟩
    · have silent : (out.call told.channelID told.modelName).records key = false := by
        rw [Outcome.call_records]
        exact decide_eq_false same
      exact absurd (stays_halfOpen silent half isAfter) left

end Report

theorem unmoved_of_silent {happening : Happening}
    (silent : ∀ moment attempt out, happening ≠ .report moment attempt out)
    (stays : ∀ key, traffic.tracker.stateAt happening.time key = some .halfOpen →
      ∀ after ∈ (traffic.next happening).tracker.entries key,
        (after.observe happening.time).state = .halfOpen) :
    traffic.Unmoved happening where
  window := fun _ _ isReport => absurd isReport (silent _ _ _)
  leaving := fun key half after isAfter left => absurd (stays key half after isAfter) left

/-- A happening leaves the windows where they are exactly if it is harmless. -/
theorem unmoved_iff (traffic : Traffic) (happening : Happening) :
    traffic.Unmoved happening ↔ traffic.Harmless happening := by
  cases happening with
  | start _ _ _ _ =>
    refine iff_of_true (unmoved_of_silent nofun ?_) trivial
    intro _ half _ isAfter
    exact stays_halfOpen rfl half isAfter
  | look _ view =>
    refine iff_of_true (unmoved_of_silent nofun ?_) trivial
    intro key half _ isAfter
    have silent : view.call.records key = false := by cases view <;> rfl
    exact stays_halfOpen silent half isAfter
  | report time attempt out =>
    cases inFlight : traffic.attempts attempt with
    | none =>
      constructor
      · intro _ told isReported
        rw [inFlight] at isReported
        cases isReported
      · intro _
        constructor
        · rintro _ _ ⟨⟩ told isReported
          rw [inFlight] at isReported
          cases isReported
        · intro _ half _ isAfter left
          rcases stateAt_eq_iff.mp half with ⟨entry, held, isHalf⟩
          simp only [next, inFlight] at isAfter
          rw [RuntimeHealthTracker.entries_of_prune held] at isAfter
          cases isAfter
          exact absurd isHalf left
    | some told =>
      have leaves := leaving_iff time out inFlight
      constructor
      · intro unmoved _ isReported
        rw [inFlight] at isReported
        cases isReported
        have probe := leaves.mp (by
          intro key half after isAfter left
          rcases unmoved.leaving key half after isAfter left with
            ⟨_, _, _, ⟨⟩, other, isOther, sameKey, isProbe⟩
          rw [inFlight] at isOther
          cases isOther
          exact ⟨sameKey, isProbe⟩)
        have opensNothing : out = .failed → traffic.Stale told →
            traffic.tracker.stateAt time told.key ≠ some .halfOpen ∧
              ∀ entry ∈ traffic.found time told.key, (entry.observe time).Closed →
                (entry.observe time).consecutiveFailures + 1 <
                  runtimeHealthFailureThreshold := by
          rintro rfl stale
          exact (window_iff inFlight).mp (unmoved.window time attempt rfl told inFlight stale)
        exact ⟨probe, fun failed stale => (opensNothing failed stale).1,
          fun failed stale => (opensNothing failed stale).2⟩
      · intro harmless
        have result := harmless told inFlight
        constructor
        · rintro _ _ ⟨⟩ _ isOther stale
          rw [inFlight] at isOther
          cases isOther
          exact (window_iff inFlight).mpr ⟨result.recent rfl stale, result.uncounted rfl stale⟩
        · intro key half after isAfter left
          rcases leaves.mpr result.probe key half after isAfter left with ⟨sameKey, isProbe⟩
          exact ⟨time, attempt, out, rfl, told, inFlight, sameKey, isProbe⟩

/-- In a run, late results move no circuit exactly when every result is harmless. -/
theorem lateResults_unmoved (began : ℕ) (happenings : List Happening) :
    RunAllowed next Unmoved (begin began) happenings ↔
      RunAllowed next Harmless (begin began) happenings := by
  have same : Unmoved = Harmless := by
    funext traffic happening
    exact propext (unmoved_iff traffic happening)
  rw [same]

/-! ## A late failure -/

/-- Four attempts start; three fail and open the circuit for five seconds, and the fourth fails two
seconds after that. -/
def lateFailure : List Happening :=
  [.start second 1 11 "gpt-5", .start second 2 11 "gpt-5", .start second 3 11 "gpt-5",
    .start second 4 11 "gpt-5", .report second 1 .failed, .report second 2 .failed,
    .report second 3 .failed, .report (8 * second) 4 .failed]

/-- The late failure reopens the circuit for ten seconds, without any probe. -/
theorem lateFailure_reopens :
    ¬∀ (began : ℕ) (happenings : List Happening), RunAllowed next Allowed (begin began) happenings →
        RunAllowed next Unmoved (begin began) happenings := by
  intro always
  have unmoved := always 0 lateFailure (by decide)
  have window := unmoved.2.2.2.2.2.2.2.1.window (8 * second) 4 rfl ⟨11, "gpt-5", false, 0⟩
    (by decide) (by decide)
  have opened : ((lateFailure.foldl next (begin 0)).tracker.entries
      (runtimeHealthKey 11 "gpt-5")).map (·.state) = some .circuitOpen := by
    decide
  rcases Option.map_eq_some_iff.mp opened with ⟨after, isAfter, isOpen⟩
  rcases window after isAfter isOpen with ⟨past, held, wasOpen, _⟩
  exact absurd (stateAt_eq_iff.mpr ⟨past, held, wasOpen⟩) (by decide)

end Traffic

end SmartRouting
