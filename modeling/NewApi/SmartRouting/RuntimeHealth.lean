import NewApi.Library.Text
import Mathlib.Algebra.Order.Ring.Rat

/-!
# Runtime health of channels

The in-process tracker of `runtime_health.go`: one entry for each pair of channel and
model, with reliability averages and a circuit breaker. Times and durations are counted
in nanoseconds, times from the zero time of Go; averages are exact rationals. Every
operation runs under the mutex of the tracker and reads the clock there, so it is a
function of the tracker and the time it reads.
-/

namespace SmartRouting

def second : ℕ := 1000000000

def minute : ℕ := 60 * second

def runtimeHealthEWMAAlpha : ℚ := 1 / 5

def runtimeHealthFailureThreshold : ℕ := 3

def runtimeHealthHealthyReliability : ℚ := 4 / 5

def runtimeHealthInitialCooldown : ℕ := 5 * second

def runtimeHealthMaximumCooldown : ℕ := 5 * minute

def runtimeHealthHalfOpenProbeLease : ℕ := 5 * second

def runtimeHealthEntryTTL : ℕ := 15 * minute

def runtimeHealthCleanupInterval : ℕ := minute

/-- The states of a circuit breaker. -/
inductive ChannelHealthState where
  | healthy
  | degraded
  | circuitOpen
  | halfOpen
deriving DecidableEq

/-- A channel and a model. -/
structure RuntimeHealthKey where
  channelID : ℤ
  modelName : String
deriving DecidableEq

/-- What a tracker tells about one channel and model. -/
structure RuntimeHealthSnapshot where
  channelID : ℤ
  modelName : String
  state : ChannelHealthState
  (reliability successEWMA failureEWMA resetWindowScore latencyScore : ℚ)
  latencySampleCount : ℕ
  throughputTokensPerSecond : ℚ
  (throughputSampleCount consecutiveFailures cooldown openUntil : ℕ)

/-- What a tracker keeps about one channel and model; times are in nanoseconds. -/
structure RuntimeHealthEntry where
  state : ChannelHealthState
  (successEWMA failureEWMA : ℚ)
  (consecutiveFailures cooldown openedAt openUntil : ℕ)
  probeInFlight : Bool
  probeUntil : ℕ
  latencyEWMASeconds : ℚ
  latencySampleCount : ℕ
  throughputEWMA : ℚ
  (throughputSampleCount lastObservedAt : ℕ)
deriving DecidableEq

/-- The entries of a tracker, and the time of its last cleanup. -/
structure RuntimeHealthTracker where
  entries : RuntimeHealthKey → Option RuntimeHealthEntry
  lastCleanup : ℕ

def newRuntimeHealthTracker : RuntimeHealthTracker where
  entries := fun _ => none
  lastCleanup := 0

def runtimeHealthKey (chan : ℤ) (model : String) : RuntimeHealthKey where
  channelID := chan
  modelName := Text.trimSpace model

def updateRuntimeHealthEWMA (current observation : ℚ) : ℚ :=
  current * (1 - runtimeHealthEWMAAlpha) + observation * runtimeHealthEWMAAlpha

def stateForReliability (reliability : ℚ) : ChannelHealthState :=
  if reliability < runtimeHealthHealthyReliability then .degraded else .healthy

/-- `validThroughput`, where a rate that is not a number or infinite is `none`. -/
def validThroughput (tokensPerSecond : Option ℚ) : Bool :=
  match tokensPerSecond with
  | some rate => 0 < rate
  | none => false

def normalizeScore (val : ℚ) : ℚ :=
  if val < 0 then 0 else if val > 1 then 1 else val

def seconds (latency : ℤ) : ℚ :=
  latency / (second : ℚ)

def latencyFactor (latency : ℤ) : ℚ :=
  if latency ≤ 0 then 1 / 2 else normalizeScore (1 / (1 + seconds latency))

def duration (val : ℚ) : ℤ :=
  val.num.tdiv val.den

namespace RuntimeHealthEntry

def advanceCooldown (entry : RuntimeHealthEntry) (now : ℕ) : RuntimeHealthEntry :=
  if entry.state = .circuitOpen ∧ ¬now < entry.openUntil then
    { entry with state := .halfOpen, probeInFlight := false, probeUntil := 0 }
  else entry

def nextCooldown (entry : RuntimeHealthEntry) : ℕ :=
  if entry.cooldown = 0 then runtimeHealthInitialCooldown
  else if entry.cooldown * 2 > runtimeHealthMaximumCooldown then runtimeHealthMaximumCooldown
  else entry.cooldown * 2

/-- The method `open`. -/
def openCircuit (entry : RuntimeHealthEntry) (now : ℕ) : RuntimeHealthEntry :=
  { entry with
    cooldown := entry.nextCooldown
    state := .circuitOpen
    openedAt := now
    openUntil := now + entry.nextCooldown
    probeInFlight := false
    probeUntil := 0 }

def resetWindowScore (entry : RuntimeHealthEntry) (now : ℕ) : ℚ :=
  if entry.state = .halfOpen then 1 / 2
  else if entry.state ≠ .circuitOpen then 1
  else if entry.cooldown ≤ 0 ∨ ¬now < entry.openUntil then 1
  else
    let elapsed : ℤ := (now : ℤ) - entry.openedAt
    if elapsed ≤ 0 then 0 else normalizeScore (elapsed / (entry.cooldown : ℚ))

def snapshot (entry : RuntimeHealthEntry) (key : RuntimeHealthKey) (now : ℕ) :
    RuntimeHealthSnapshot where
  channelID := key.channelID
  modelName := key.modelName
  state := entry.state
  reliability := entry.successEWMA
  successEWMA := entry.successEWMA
  failureEWMA := entry.failureEWMA
  resetWindowScore := entry.resetWindowScore now
  latencyScore := latencyFactor (duration (entry.latencyEWMASeconds * (second : ℚ)))
  latencySampleCount := entry.latencySampleCount
  throughputTokensPerSecond := entry.throughputEWMA
  throughputSampleCount := entry.throughputSampleCount
  consecutiveFailures := entry.consecutiveFailures
  cooldown := entry.cooldown
  openUntil := entry.openUntil

/-- The entry that `entry` puts in the map under a key it does not hold yet. -/
def unseen (now : ℕ) : RuntimeHealthEntry where
  state := .healthy
  successEWMA := 1
  failureEWMA := 0
  consecutiveFailures := 0
  cooldown := 0
  openedAt := 0
  openUntil := 0
  probeInFlight := false
  probeUntil := 0
  latencyEWMASeconds := 0
  latencySampleCount := 0
  throughputEWMA := 0
  throughputSampleCount := 0
  lastObservedAt := now

/-- The advance and the time stamp that every operation on one entry starts with. -/
def observe (entry : RuntimeHealthEntry) (now : ℕ) : RuntimeHealthEntry :=
  { entry.advanceCooldown now with lastObservedAt := now }

def tryAcquireProbe (entry : RuntimeHealthEntry) (now : ℕ) : RuntimeHealthEntry × Bool :=
  if entry.state = .circuitOpen then (entry, false)
  else if entry.state ≠ .halfOpen then (entry, true)
  else if entry.probeInFlight ∧ now < entry.probeUntil then (entry, false)
  else
    ({ entry with
        probeInFlight := true, probeUntil := now + runtimeHealthHalfOpenProbeLease }, true)

def recordLatency (entry : RuntimeHealthEntry) (latency : ℤ) : RuntimeHealthEntry :=
  if 0 < latency then
    { entry with
      latencyEWMASeconds :=
        if entry.latencySampleCount = 0 then seconds latency
        else updateRuntimeHealthEWMA entry.latencyEWMASeconds (seconds latency)
      latencySampleCount := entry.latencySampleCount + 1 }
  else entry

def recordThroughput (entry : RuntimeHealthEntry) (tokensPerSecond : Option ℚ) :
    RuntimeHealthEntry :=
  match tokensPerSecond with
  | some rate =>
    if 0 < rate then
      { entry with
        throughputEWMA :=
          if entry.throughputSampleCount = 0 then rate
          else updateRuntimeHealthEWMA entry.throughputEWMA rate
        throughputSampleCount := entry.throughputSampleCount + 1 }
    else entry
  | none => entry

/-- A success outside the open state clears the failures; in the half-open state it also
takes the cooldown back to its start. -/
def close (entry : RuntimeHealthEntry) : RuntimeHealthEntry :=
  if entry.state ≠ .circuitOpen then
    { entry with
      consecutiveFailures := 0
      openedAt := 0
      openUntil := 0
      probeInFlight := false
      probeUntil := 0
      cooldown := if entry.state = .halfOpen then 0 else entry.cooldown
      state := stateForReliability entry.successEWMA }
  else entry

/-- What `recordSuccessWithMetrics` does to the entry. -/
def recordSuccess (entry : RuntimeHealthEntry) (now : ℕ) (latency : ℤ)
    (tokensPerSecond : Option ℚ) : RuntimeHealthEntry :=
  let observed := entry.observe now
  let averaged :=
    { observed with
      successEWMA := updateRuntimeHealthEWMA observed.successEWMA 1
      failureEWMA := updateRuntimeHealthEWMA observed.failureEWMA 0 }
  ((averaged.recordLatency latency).recordThroughput tokensPerSecond).close

def recordFailure (entry : RuntimeHealthEntry) (now : ℕ) : RuntimeHealthEntry :=
  let observed := entry.observe now
  let counted :=
    { observed with
      successEWMA := updateRuntimeHealthEWMA observed.successEWMA 0
      failureEWMA := updateRuntimeHealthEWMA observed.failureEWMA 1
      consecutiveFailures := observed.consecutiveFailures + 1 }
  match counted.state with
  | .halfOpen => counted.openCircuit now
  -- Failures that were in flight when the circuit opened do not extend the window.
  | .circuitOpen => counted
  | _ =>
    if runtimeHealthFailureThreshold ≤ counted.consecutiveFailures then counted.openCircuit now
    else { counted with state := .degraded }

end RuntimeHealthEntry

def unseenSnapshot (key : RuntimeHealthKey) : RuntimeHealthSnapshot where
  channelID := key.channelID
  modelName := key.modelName
  state := .healthy
  reliability := 1
  successEWMA := 1
  failureEWMA := 0
  resetWindowScore := 1
  latencyScore := 1 / 2
  latencySampleCount := 0
  throughputTokensPerSecond := 0
  throughputSampleCount := 0
  consecutiveFailures := 0
  cooldown := 0
  openUntil := 0

namespace RuntimeHealthTracker

def stale (now : ℕ) (entry : RuntimeHealthEntry) : Bool :=
  entry.lastObservedAt ≠ 0 ∧ runtimeHealthEntryTTL ≤ now - entry.lastObservedAt

def prune (track : RuntimeHealthTracker) (now : ℕ) : RuntimeHealthTracker :=
  if track.lastCleanup ≠ 0 ∧ now - track.lastCleanup < runtimeHealthCleanupInterval then
    track
  else
    { entries := fun key => (track.entries key).filter fun entry => !stale now entry
      lastCleanup := now }

def store (track : RuntimeHealthTracker) (key : RuntimeHealthKey)
    (entry : RuntimeHealthEntry) : RuntimeHealthTracker :=
  { track with entries := Function.update track.entries key (some entry) }

def entry (track : RuntimeHealthTracker) (now : ℕ) (key : RuntimeHealthKey) :
    RuntimeHealthEntry :=
  (track.entries key).getD (RuntimeHealthEntry.unseen now)

def clear (_ : RuntimeHealthTracker) : RuntimeHealthTracker where
  entries := fun _ => none
  lastCleanup := 0

def snapshot (track : RuntimeHealthTracker) (now : ℕ) (chan : ℤ) (model : String) :
    RuntimeHealthTracker × RuntimeHealthSnapshot :=
  let key := runtimeHealthKey chan model
  let pruned := track.prune now
  match pruned.entries key with
  | none => (pruned, unseenSnapshot key)
  | some entry =>
    let observed := entry.observe now
    (pruned.store key observed, observed.snapshot key now)

/-- `SnapshotAll`, whose list is read as a map from the pairs it contains. -/
def snapshotAll (track : RuntimeHealthTracker) (now : ℕ) :
    RuntimeHealthTracker × (RuntimeHealthKey → Option RuntimeHealthSnapshot) :=
  let pruned := track.prune now
  let stamped := fun key => (pruned.entries key).map fun entry =>
    { entry with lastObservedAt := now }
  ({ pruned with entries := stamped },
    fun key => (stamped key).map fun entry => entry.snapshot key now)

def tryAcquireProbe (track : RuntimeHealthTracker) (now : ℕ) (chan : ℤ)
    (model : String) : RuntimeHealthTracker × Bool :=
  let key := runtimeHealthKey chan model
  let pruned := track.prune now
  match pruned.entries key with
  | none => (pruned, true)
  | some entry =>
    let probed := (entry.observe now).tryAcquireProbe now
    (pruned.store key probed.1, probed.2)

def recordSuccessWithMetrics (track : RuntimeHealthTracker) (now : ℕ) (chan : ℤ)
    (model : String) (latency : ℤ) (tokensPerSecond : Option ℚ) :
    RuntimeHealthTracker × RuntimeHealthSnapshot :=
  let key := runtimeHealthKey chan model
  let pruned := track.prune now
  if pruned.entries key = none ∧ latency ≤ 0 ∧ !validThroughput tokensPerSecond then
    (pruned, unseenSnapshot key)
  else
    let recorded := (pruned.entry now key).recordSuccess now latency tokensPerSecond
    (pruned.store key recorded, recorded.snapshot key now)

def recordSuccess (track : RuntimeHealthTracker) (now : ℕ) (chan : ℤ)
    (model : String) : RuntimeHealthTracker × RuntimeHealthSnapshot :=
  track.recordSuccessWithMetrics now chan model 0 (some 0)

def recordSuccessWithLatency (track : RuntimeHealthTracker) (now : ℕ) (chan : ℤ)
    (model : String) (latency : ℤ) : RuntimeHealthTracker × RuntimeHealthSnapshot :=
  track.recordSuccessWithMetrics now chan model latency (some 0)

def recordFailure (track : RuntimeHealthTracker) (now : ℕ) (chan : ℤ)
    (model : String) : RuntimeHealthTracker × RuntimeHealthSnapshot :=
  let key := runtimeHealthKey chan model
  let pruned := track.prune now
  let recorded := (pruned.entry now key).recordFailure now
  (pruned.store key recorded, recorded.snapshot key now)

end RuntimeHealthTracker

end SmartRouting
