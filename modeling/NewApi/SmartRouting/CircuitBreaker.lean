import NewApi.Library.Transition
import NewApi.SmartRouting.RuntimeHealth
import Mathlib.Tactic.FieldSimp
import Mathlib.Tactic.Linarith

/-!
# The circuit breaker of a channel

Every call is a function of what the tracker holds under each key after pruning, so an invariant
of one entry, kept by that function, holds in every run.
-/

namespace SmartRouting

open Transition
open SmartRouting renaming RuntimeHealthEntry → HealthEntry, RuntimeHealthTracker → HealthTracker
open SmartRouting renaming updateRuntimeHealthEWMA → updateEWMA

/-- The methods of a health tracker. -/
inductive Call where
  | snapshot (chan : ℤ) (model : String)
  | snapshotAll
  | tryAcquireProbe (chan : ℤ) (model : String)
  | recordSuccess (chan : ℤ) (model : String)
  | recordSuccessWithLatency (chan : ℤ) (model : String) (latency : ℤ)
  | recordSuccessWithMetrics (chan : ℤ) (model : String) (latency : ℤ)
      (rate : Option ℚ)
  | recordFailure (chan : ℤ) (model : String)
  | clear

/-- What happens to the entry of a key. -/
inductive Event where
  | failed (key : RuntimeHealthKey)
  | succeeded (key : RuntimeHealthKey)
  | probed (key : RuntimeHealthKey) (time : ℕ)

/-- The failures recorded for a key since its last recorded success, newest event first. -/
def consecutiveFailures (key : RuntimeHealthKey) : List Event → ℕ
  | [] => 0
  | .failed other :: earlier =>
    if other = key then consecutiveFailures key earlier + 1 else consecutiveFailures key earlier
  | .succeeded other :: earlier => if other = key then 0 else consecutiveFailures key earlier
  | .probed _ _ :: earlier => consecutiveFailures key earlier

/-- The times at which a key was granted a probe in the half-open state, newest first. -/
def probeTimes (key : RuntimeHealthKey) : List Event → List ℕ
  | [] => []
  | .probed other time :: earlier =>
    if other = key then time :: probeTimes key earlier else probeTimes key earlier
  | .failed _ :: earlier => probeTimes key earlier
  | .succeeded _ :: earlier => probeTimes key earlier

namespace RuntimeHealthTracker

def stateAt (track : HealthTracker) (now : ℕ) (key : RuntimeHealthKey) :
    Option ChannelHealthState :=
  ((track.prune now).entries key).map fun entry => (entry.observe now).state

end RuntimeHealthTracker

namespace Call

def apply (track : HealthTracker) (now : ℕ) : Call → HealthTracker
  | snapshot chan model => (track.snapshot now chan model).1
  | snapshotAll => (track.snapshotAll now).1
  | tryAcquireProbe chan model => (track.tryAcquireProbe now chan model).1
  | recordSuccess chan model => (track.recordSuccess now chan model).1
  | recordSuccessWithLatency chan model latency =>
    (track.recordSuccessWithLatency now chan model latency).1
  | recordSuccessWithMetrics chan model latency rate =>
    (track.recordSuccessWithMetrics now chan model latency rate).1
  | recordFailure chan model => (track.recordFailure now chan model).1
  | clear => track.clear

def events (track : HealthTracker) (now : ℕ) : Call → List Event
  | snapshot _ _ => []
  | snapshotAll => []
  | tryAcquireProbe chan model =>
    let key := runtimeHealthKey chan model
    if (track.tryAcquireProbe now chan model).2 ∧
        track.stateAt now key = some .halfOpen then [.probed key now]
    else []
  | recordSuccess chan model => [.succeeded (runtimeHealthKey chan model)]
  | recordSuccessWithLatency chan model _ =>
    [.succeeded (runtimeHealthKey chan model)]
  | recordSuccessWithMetrics chan model _ _ =>
    [.succeeded (runtimeHealthKey chan model)]
  | recordFailure chan model => [.failed (runtimeHealthKey chan model)]
  | clear => []

/-- What a call makes of the entry of one key, as it stands after pruning. -/
def onEntry (now : ℕ) (key : RuntimeHealthKey) (found : Option HealthEntry) :
    Call → Option HealthEntry
  | snapshot chan model =>
    if runtimeHealthKey chan model = key then
      found.map fun entry => entry.observe now
    else found
  | snapshotAll => found.map fun entry => { entry with lastObservedAt := now }
  | tryAcquireProbe chan model =>
    if runtimeHealthKey chan model = key then
      found.map fun entry => ((entry.observe now).tryAcquireProbe now).1
    else found
  | recordSuccess chan model => succeeds chan model 0 (some 0)
  | recordSuccessWithLatency chan model latency =>
    succeeds chan model latency (some 0)
  | recordSuccessWithMetrics chan model latency rate =>
    succeeds chan model latency rate
  | recordFailure chan model =>
    if runtimeHealthKey chan model = key then
      some ((found.getD (HealthEntry.unseen now)).recordFailure now)
    else found
  | clear => none
where
  succeeds (chan : ℤ) (model : String) (latency : ℤ) (rate : Option ℚ) :
      Option HealthEntry :=
    if runtimeHealthKey chan model = key then
      if found = none ∧ latency ≤ 0 ∧ !validThroughput rate then none
      else
        some ((found.getD (HealthEntry.unseen now)).recordSuccess now latency rate)
    else found

end Call

namespace RuntimeHealthTracker

variable {track : HealthTracker} {now : ℕ} {key : RuntimeHealthKey}

theorem entries_store (track : HealthTracker) (stored key : RuntimeHealthKey)
    (entry : HealthEntry) :
    (track.store stored entry).entries key =
      if stored = key then some entry else track.entries key := by
  simp only [store, Function.update_apply]
  by_cases same : stored = key
  · simp [same]
  · simp [same, Ne.symm same]

theorem prune_entries (track : HealthTracker) (now : ℕ) (key : RuntimeHealthKey) :
    (track.prune now).entries key = track.entries key ∨
      ((track.prune now).entries key = none ∧
        ∃ entry, track.entries key = some entry ∧ stale now entry = true) := by
  simp only [prune]
  split
  · exact .inl rfl
  · cases held : track.entries key with
    | none => exact .inl (by simp [held])
    | some entry =>
      cases old : stale now entry with
      | true => exact .inr ⟨by simp [held, old], entry, rfl, old⟩
      | false => exact .inl (by simp [held, old])

theorem entries_of_prune {entry : HealthEntry}
    (kept : (track.prune now).entries key = some entry) : track.entries key = some entry := by
  rcases track.prune_entries now key with same | ⟨gone, _⟩
  · rw [← same, kept]
  · rw [gone] at kept
    cases kept

theorem stale_iff {entry : HealthEntry} (past : entry.lastObservedAt ≤ now) :
    stale now entry = true ↔
      entry.lastObservedAt ≠ 0 ∧ entry.lastObservedAt + runtimeHealthEntryTTL ≤ now := by
  simp only [stale, decide_eq_true_eq]
  constructor
  · rintro ⟨observed, old⟩
    exact ⟨observed, by omega⟩
  · rintro ⟨observed, _⟩
    exact ⟨observed, by omega⟩

theorem recordSuccessWithMetrics_entries (track : HealthTracker) (now : ℕ) (chan : ℤ)
    (model : String) (latency : ℤ) (rate : Option ℚ) (key : RuntimeHealthKey) :
    (track.recordSuccessWithMetrics now chan model latency rate).1.entries key =
      Call.onEntry.succeeds now key ((track.prune now).entries key) chan model latency
        rate := by
  simp only [recordSuccessWithMetrics, Call.onEntry.succeeds, entry]
  by_cases same : runtimeHealthKey chan model = key
  · subst same
    split
    next ignored => simp [ignored]
    next => simp [entries_store]
  · split
    · simp
    · simp [same, entries_store]

theorem tryAcquireProbe_granted (track : HealthTracker) (now : ℕ) (chan : ℤ) (model : String) :
    (track.tryAcquireProbe now chan model).2 =
      match (track.prune now).entries (runtimeHealthKey chan model) with
      | none => true
      | some entry => ((entry.observe now).tryAcquireProbe now).2 := by
  simp only [tryAcquireProbe]
  cases (track.prune now).entries (runtimeHealthKey chan model) with
  | none | some _ => rfl

end RuntimeHealthTracker

theorem Call.apply_entries (track : HealthTracker) (now : ℕ) (call : Call)
    (key : RuntimeHealthKey) :
    (call.apply track now).entries key = call.onEntry now key ((track.prune now).entries key) := by
  cases call with
  | snapshot chan model =>
    simp only [apply, HealthTracker.snapshot, onEntry]
    by_cases same : runtimeHealthKey chan model = key
    · subst same
      split
      next missing => simp [missing]
      next held => simp [held, HealthTracker.entries_store]
    · split
      · simp [same]
      · simp [same, HealthTracker.entries_store]
  | snapshotAll => rfl
  | tryAcquireProbe chan model =>
    simp only [apply, HealthTracker.tryAcquireProbe, onEntry]
    by_cases same : runtimeHealthKey chan model = key
    · subst same
      split
      next missing => simp [missing]
      next held => simp [held, HealthTracker.entries_store]
    · split
      · simp [same]
      · simp [same, HealthTracker.entries_store]
  | recordSuccess chan model =>
    exact track.recordSuccessWithMetrics_entries now chan model 0 (some 0) key
  | recordSuccessWithLatency chan model latency =>
    exact track.recordSuccessWithMetrics_entries now chan model latency (some 0) key
  | recordSuccessWithMetrics chan model latency rate =>
    exact track.recordSuccessWithMetrics_entries now chan model latency rate key
  | recordFailure chan model =>
    simp only [apply, HealthTracker.recordFailure, onEntry, HealthTracker.entry,
      HealthTracker.entries_store]
    by_cases same : runtimeHealthKey chan model = key
    · simp [same]
    · simp [same]
  | clear => rfl

namespace RuntimeHealthEntry

variable {now time failures : ℕ} {probes : List ℕ} {entry : HealthEntry}

def Closed (entry : HealthEntry) : Prop :=
  entry.state ≠ .circuitOpen ∧ entry.state ≠ .halfOpen

/-- The two averages of an entry are shares of one. -/
structure Averaged (entry : HealthEntry) : Prop where
  success_nonneg : 0 ≤ entry.successEWMA
  failure_nonneg : 0 ≤ entry.failureEWMA
  sum : entry.successEWMA + entry.failureEWMA = 1

/-- What holds of an entry at a time, given the failures since the last success and the
times of the half-open probes of its key. -/
structure Sound (now failures : ℕ) (probes : List ℕ) (entry : HealthEntry) : Prop where
  averaged : entry.Averaged
  openedAt_le : entry.openedAt ≤ entry.lastObservedAt
  observed_le : entry.lastObservedAt ≤ now
  cooldown_le : entry.cooldown ≤ runtimeHealthMaximumCooldown
  cooldown_closed : entry.Closed → entry.cooldown = 0
  cooldown_tripped : ¬entry.Closed → runtimeHealthInitialCooldown ≤ entry.cooldown
  counted : entry.Closed → entry.consecutiveFailures ≤ failures
  window : entry.state = .circuitOpen → entry.openUntil = entry.openedAt + entry.cooldown
  awaited : entry.state = .circuitOpen → ∀ probe ∈ probes,
    probe + runtimeHealthHalfOpenProbeLease ≤ entry.openUntil
  leased : entry.state = .halfOpen → ∀ probe ∈ probes,
    probe + runtimeHealthHalfOpenProbeLease ≤ now ∨
      (entry.probeInFlight = true ∧ probe + runtimeHealthHalfOpenProbeLease ≤ entry.probeUntil)

theorem initial_le_maximum : runtimeHealthInitialCooldown ≤ runtimeHealthMaximumCooldown := by
  decide

theorem averaged_success (averaged : entry.Averaged) :
    0 ≤ updateEWMA entry.successEWMA 1 ∧
      0 ≤ updateEWMA entry.failureEWMA 0 ∧
      updateEWMA entry.successEWMA 1 + updateEWMA entry.failureEWMA 0 =
        1 := by
  have success := averaged.success_nonneg
  have err := averaged.failure_nonneg
  have sum := averaged.sum
  simp only [updateEWMA, runtimeHealthEWMAAlpha]
  refine ⟨by linarith, by linarith, by linarith⟩

theorem averaged_failure (averaged : entry.Averaged) :
    0 ≤ updateEWMA entry.successEWMA 0 ∧
      0 ≤ updateEWMA entry.failureEWMA 1 ∧
      updateEWMA entry.successEWMA 0 + updateEWMA entry.failureEWMA 1 =
        1 := by
  have success := averaged.success_nonneg
  have err := averaged.failure_nonneg
  have sum := averaged.sum
  simp only [updateEWMA, runtimeHealthEWMAAlpha]
  refine ⟨by linarith, by linarith, by linarith⟩

theorem Sound.later (sound : entry.Sound now failures probes) (passes : now ≤ time) :
    entry.Sound time failures probes :=
  { sound with
    observed_le := le_trans sound.observed_le passes
    leased := by
      intro half probe granted
      rcases sound.leased half probe granted with ended | held
      · exact .inl (le_trans ended passes)
      · exact .inr held }

theorem Sound.stamp (sound : entry.Sound now failures probes) :
    { entry with lastObservedAt := now : HealthEntry }.Sound now failures probes :=
  { sound with
    averaged := ⟨sound.averaged.1, sound.averaged.2, sound.averaged.3⟩
    openedAt_le := le_trans sound.openedAt_le sound.observed_le
    observed_le := le_refl now }

theorem advanceCooldown_cases (entry : HealthEntry) (now : ℕ) :
    (entry.advanceCooldown now = entry ∧ (entry.state = .circuitOpen → now < entry.openUntil)) ∨
      (entry.state = .circuitOpen ∧ entry.openUntil ≤ now ∧
        entry.advanceCooldown now =
          { entry with state := .halfOpen, probeInFlight := false, probeUntil := 0 }) := by
  simp only [advanceCooldown]
  split
  next ended => exact .inr ⟨ended.1, by omega, rfl⟩
  next running =>
    left
    refine ⟨rfl, ?_⟩
    intro opened
    by_contra past
    exact running ⟨opened, past⟩

theorem Sound.advanceCooldown (sound : entry.Sound now failures probes) :
    (entry.advanceCooldown now).Sound now failures probes := by
  rcases entry.advanceCooldown_cases now with ⟨same, _⟩ | ⟨opened, ended, moved⟩
  · rw [same]
    exact sound
  · rw [moved]
    have tripped : ¬entry.Closed := fun closed => closed.1 opened
    exact
      { sound with
        averaged := ⟨sound.averaged.1, sound.averaged.2, sound.averaged.3⟩
        cooldown_closed := fun closed => absurd rfl closed.2
        cooldown_tripped := fun _ => sound.cooldown_tripped tripped
        counted := fun closed => absurd rfl closed.2
        window := fun never => by cases never
        awaited := fun never => by cases never
        leased := fun _ probe granted =>
          .inl (le_trans (sound.awaited opened probe granted) ended) }

theorem Sound.observe (sound : entry.Sound now failures probes) :
    (entry.observe now).Sound now failures probes :=
  sound.advanceCooldown.stamp

theorem tryAcquireProbe_cases (entry : HealthEntry) (now : ℕ) :
    (entry.state = .circuitOpen ∧ entry.tryAcquireProbe now = (entry, false)) ∨
      (entry.Closed ∧ entry.tryAcquireProbe now = (entry, true)) ∨
      (entry.state = .halfOpen ∧ entry.tryAcquireProbe now = (entry, false)) ∨
      (entry.state = .halfOpen ∧ ¬(entry.probeInFlight = true ∧ now < entry.probeUntil) ∧
        entry.tryAcquireProbe now =
          ({ entry with
              probeInFlight := true
              probeUntil := now + runtimeHealthHalfOpenProbeLease }, true)) := by
  simp only [tryAcquireProbe]
  by_cases opened : entry.state = .circuitOpen
  · exact .inl ⟨opened, if_pos opened⟩
  · by_cases half : entry.state = .halfOpen
    · right; right
      by_cases held : entry.probeInFlight = true ∧ now < entry.probeUntil
      · exact .inl ⟨half, by simp [half, held]⟩
      · exact .inr ⟨half, held, by rw [if_neg opened, if_neg (not_not.mpr half), if_neg held]⟩
    · right; left
      exact ⟨⟨opened, half⟩, by rw [if_neg opened, if_pos half]⟩

theorem Sound.tryAcquireProbe (sound : entry.Sound now failures probes)
    (granted : entry.state = .halfOpen ∧ (entry.tryAcquireProbe now).2 = true) :
    (entry.tryAcquireProbe now).1.Sound now failures (now :: probes) ∧
      ∀ probe ∈ probes, probe + runtimeHealthHalfOpenProbeLease ≤ now := by
  rcases entry.tryAcquireProbe_cases now with
    ⟨opened, _⟩ | ⟨closed, _⟩ | ⟨_, refused⟩ | ⟨half, idle, moved⟩
  · rw [granted.1] at opened
    cases opened
  · exact absurd granted.1 closed.2
  · rw [refused] at granted
    cases granted.2
  · have ended : ∀ probe ∈ probes, probe + runtimeHealthHalfOpenProbeLease ≤ now := by
      intro probe given
      rcases sound.leased half probe given with past | ⟨inFlight, lease⟩
      · exact past
      · have past : entry.probeUntil ≤ now := by
          by_contra running
          exact idle ⟨inFlight, by omega⟩
        exact le_trans lease past
    refine ⟨?_, ended⟩
    rw [moved]
    exact
      { sound with
        averaged := ⟨sound.averaged.1, sound.averaged.2, sound.averaged.3⟩
        awaited := by
          intro never
          simp only [half] at never
          cases never
        leased := by
          intro _ probe given
          rcases List.mem_cons.mp given with rfl | before
          · exact .inr ⟨rfl, le_refl _⟩
          · exact .inl (ended probe before) }

theorem tryAcquireProbe_kept
    (refused : ¬(entry.state = .halfOpen ∧ (entry.tryAcquireProbe now).2 = true)) :
    (entry.tryAcquireProbe now).1 = entry := by
  rcases entry.tryAcquireProbe_cases now with
    ⟨_, same⟩ | ⟨_, same⟩ | ⟨_, same⟩ | ⟨half, _, moved⟩
  · rw [same]
  · rw [same]
  · rw [same]
  · exact absurd ⟨half, by rw [moved]⟩ refused

/-- The entry after the averages and the counter of `RecordFailure`. -/
def failed (entry : HealthEntry) : HealthEntry :=
  { entry with
    successEWMA := updateEWMA entry.successEWMA 0
    failureEWMA := updateEWMA entry.failureEWMA 1
    consecutiveFailures := entry.consecutiveFailures + 1 }

theorem recordFailure_shape (entry : HealthEntry) (now : ℕ) : entry.recordFailure now =
    match (entry.observe now).state with
    | .halfOpen => (entry.observe now).failed.openCircuit now
    | .circuitOpen => (entry.observe now).failed
    | _ =>
      if runtimeHealthFailureThreshold ≤ (entry.observe now).consecutiveFailures + 1 then
        (entry.observe now).failed.openCircuit now
      else { (entry.observe now).failed with state := .degraded } :=
  rfl

theorem recordFailure_cases (entry : HealthEntry) (now : ℕ) :
    ((entry.observe now).state = .halfOpen ∧
        entry.recordFailure now = (entry.observe now).failed.openCircuit now) ∨
      ((entry.observe now).state = .circuitOpen ∧
        entry.recordFailure now = (entry.observe now).failed) ∨
      ((entry.observe now).Closed ∧
        runtimeHealthFailureThreshold ≤ (entry.observe now).consecutiveFailures + 1 ∧
        entry.recordFailure now = (entry.observe now).failed.openCircuit now) ∨
      ((entry.observe now).Closed ∧
        entry.recordFailure now = { (entry.observe now).failed with state := .degraded }) := by
  rw [recordFailure_shape]
  by_cases half : (entry.observe now).state = .halfOpen
  · exact .inl ⟨half, by rw [half]⟩
  · by_cases opened : (entry.observe now).state = .circuitOpen
    · exact .inr (.inl ⟨opened, by rw [opened]⟩)
    · right; right
      by_cases third : runtimeHealthFailureThreshold ≤ (entry.observe now).consecutiveFailures + 1
      · left
        refine ⟨⟨opened, half⟩, third, ?_⟩
        cases observed : (entry.observe now).state with
        | halfOpen => exact absurd observed half
        | circuitOpen => exact absurd observed opened
        | healthy | degraded => exact if_pos third
      · right
        refine ⟨⟨opened, half⟩, ?_⟩
        cases observed : (entry.observe now).state with
        | halfOpen => exact absurd observed half
        | circuitOpen => exact absurd observed opened
        | healthy | degraded => exact if_neg third

theorem nextCooldown_bounds (entry : HealthEntry)
    (bounded : entry.cooldown ≤ runtimeHealthMaximumCooldown)
    (started : entry.cooldown = 0 ∨ runtimeHealthInitialCooldown ≤ entry.cooldown) :
    runtimeHealthInitialCooldown ≤ entry.nextCooldown ∧
      entry.nextCooldown ≤ runtimeHealthMaximumCooldown ∧ entry.cooldown ≤ entry.nextCooldown := by
  have ordered := initial_le_maximum
  simp only [nextCooldown]
  split
  · omega
  · split
    · omega
    · omega

variable (sound : entry.Sound now failures probes)

include sound

theorem Sound.started : entry.cooldown = 0 ∨ runtimeHealthInitialCooldown ≤ entry.cooldown := by
  by_cases closed : entry.Closed
  · exact .inl (sound.cooldown_closed closed)
  · exact .inr (sound.cooldown_tripped closed)

theorem Sound.openCircuit
    (granted : ∀ probe ∈ probes, probe ≤ now) (stamped : entry.lastObservedAt = now) :
    (entry.openCircuit now).Sound now failures probes := by
  have bounds := entry.nextCooldown_bounds sound.cooldown_le sound.started
  exact
    { averaged := ⟨sound.averaged.1, sound.averaged.2, sound.averaged.3⟩
      openedAt_le := by simp only [HealthEntry.openCircuit]; omega
      observed_le := by simp only [HealthEntry.openCircuit]; omega
      cooldown_le := bounds.2.1
      cooldown_closed := fun closed => absurd rfl closed.1
      cooldown_tripped := fun _ => bounds.1
      counted := fun closed => absurd rfl closed.1
      window := fun _ => rfl
      awaited := by
        intro _ probe given
        have before := granted probe given
        have long := bounds.1
        simp only [HealthEntry.openCircuit]
        simp only [runtimeHealthHalfOpenProbeLease]
        simp only [runtimeHealthInitialCooldown] at long
        omega
      leased := fun never => by cases never }

theorem Sound.failed :
    entry.failed.Sound now (failures + 1) probes :=
  { sound with
    averaged :=
      have averages := averaged_failure sound.averaged
      ⟨averages.1, averages.2.1, averages.2.2⟩
    counted := fun closed => Nat.succ_le_succ (sound.counted closed) }

theorem Sound.recordFailure (granted : ∀ probe ∈ probes, probe ≤ now) :
    (entry.recordFailure now).Sound now (failures + 1) probes := by
  have counted := sound.observe.failed
  rcases entry.recordFailure_cases now with
    ⟨_, moved⟩ | ⟨_, moved⟩ | ⟨_, _, moved⟩ | ⟨closed, moved⟩
  · rw [moved]
    exact counted.openCircuit granted rfl
  · rw [moved]
    exact counted
  · rw [moved]
    exact counted.openCircuit granted rfl
  · rw [moved]
    exact
      { counted with
        averaged := ⟨counted.averaged.1, counted.averaged.2, counted.averaged.3⟩
        cooldown_closed := fun _ => counted.cooldown_closed closed
        cooldown_tripped := fun tripped => absurd ⟨nofun, nofun⟩ tripped
        counted := fun _ => counted.counted closed
        window := fun never => by cases never
        awaited := fun never => by cases never
        leased := fun never => by cases never }

omit sound

theorem recordLatency_eq (entry : HealthEntry) (latency : ℤ) :
    ∃ average count, entry.recordLatency latency =
      { entry with latencyEWMASeconds := average, latencySampleCount := count } := by
  simp only [recordLatency]
  split
  · exact ⟨_, _, rfl⟩
  · exact ⟨_, _, rfl⟩

theorem recordThroughput_eq (entry : HealthEntry) (rate : Option ℚ) :
    ∃ average count, entry.recordThroughput rate =
      { entry with throughputEWMA := average, throughputSampleCount := count } := by
  simp only [recordThroughput]
  split
  · split
    · exact ⟨_, _, rfl⟩
    · exact ⟨_, _, rfl⟩
  · exact ⟨_, _, rfl⟩

theorem recordSuccess_eq (entry : HealthEntry) (now : ℕ) (latency : ℤ) (rate : Option ℚ) :
    ∃ latencyAverage latencyCount throughputAverage throughputCount,
      entry.recordSuccess now latency rate = HealthEntry.close
          { entry.observe now with
            successEWMA := updateEWMA (entry.observe now).successEWMA 1
            failureEWMA := updateEWMA (entry.observe now).failureEWMA 0
            latencyEWMASeconds := latencyAverage
            latencySampleCount := latencyCount
            throughputEWMA := throughputAverage
            throughputSampleCount := throughputCount } := by
  simp only [recordSuccess]
  rcases recordLatency_eq
      { entry.observe now with
        successEWMA := updateEWMA (entry.observe now).successEWMA 1
        failureEWMA := updateEWMA (entry.observe now).failureEWMA 0 } latency with
    ⟨latencyAverage, latencyCount, latencyRecorded⟩
  rw [latencyRecorded]
  rcases recordThroughput_eq
      { entry.observe now with
        successEWMA := updateEWMA (entry.observe now).successEWMA 1
        failureEWMA := updateEWMA (entry.observe now).failureEWMA 0
        latencyEWMASeconds := latencyAverage
        latencySampleCount := latencyCount } rate with
    ⟨throughputAverage, throughputCount, throughputRecorded⟩
  rw [throughputRecorded]
  exact ⟨latencyAverage, latencyCount, throughputAverage, throughputCount, rfl⟩

theorem closed_stateForReliability (reliability : ℚ) :
    stateForReliability reliability ≠ .circuitOpen ∧
      stateForReliability reliability ≠ .halfOpen := by
  simp only [stateForReliability]
  split
  · exact ⟨nofun, nofun⟩
  · exact ⟨nofun, nofun⟩

theorem Sound.close (sound : entry.Sound now failures probes)  :
    entry.close.Sound now 0 probes := by
  simp only [HealthEntry.close]
  split
  next shut =>
    have closed := closed_stateForReliability entry.successEWMA
    exact
      { averaged := ⟨sound.averaged.1, sound.averaged.2, sound.averaged.3⟩
        openedAt_le := Nat.zero_le _
        observed_le := sound.observed_le
        cooldown_le := by
          have bounded := sound.cooldown_le
          simp only
          split
          · exact Nat.zero_le _
          · exact bounded
        cooldown_closed := by
          intro _
          simp only
          split
          · rfl
          next notHalf => exact sound.cooldown_closed ⟨shut, notHalf⟩
        cooldown_tripped := fun tripped => absurd closed tripped
        counted := fun _ => le_refl 0
        window := fun opened => absurd opened closed.1
        awaited := fun opened => absurd opened closed.1
        leased := fun half => absurd half closed.2 }
  next opened =>
    have isOpen := not_not.mp opened
    exact { sound with counted := fun closed => absurd isOpen closed.1 }

theorem Sound.recordSuccess (sound : entry.Sound now failures probes) (latency : ℤ)
    (rate : Option ℚ) :
    (entry.recordSuccess now latency rate).Sound now 0 probes := by
  rcases entry.recordSuccess_eq now latency rate with ⟨_, _, _, _, moved⟩
  have averages := averaged_success sound.observe.averaged
  rw [moved]
  exact Sound.close { sound.observe with averaged := ⟨averages.1, averages.2.1, averages.2.2⟩ }

theorem sound_unseen (now failures : ℕ) (probes : List ℕ) :
    (unseen now).Sound now failures probes where
  averaged := ⟨by norm_num [unseen], by norm_num [unseen], by norm_num [unseen]⟩
  openedAt_le := Nat.zero_le _
  observed_le := le_refl _
  cooldown_le := Nat.zero_le _
  cooldown_closed := fun _ => rfl
  cooldown_tripped := fun tripped => absurd ⟨nofun, nofun⟩ tripped
  counted := fun _ => Nat.zero_le _
  window := fun never => by cases never
  awaited := fun never => by cases never
  leased := fun never => by cases never

end RuntimeHealthEntry

end SmartRouting
