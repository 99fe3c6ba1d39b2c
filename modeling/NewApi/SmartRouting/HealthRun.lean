import NewApi.SmartRouting.CircuitBreaker

/-!
# Runs of the health tracker

A run is a sequence of calls at times that do not decrease.
-/

namespace SmartRouting

open Transition
open SmartRouting renaming RuntimeHealthEntry → HealthEntry

/-- A tracker, the time of the last call, and the history, newest event first. -/
structure Run where
  tracker : RuntimeHealthTracker
  now : ℕ
  history : List Event

/-- A call with its time. -/
structure Action where
  time : ℕ
  call : Call

namespace Run

/-- A new tracker. -/
def start (now : ℕ) : Run where
  tracker := newRuntimeHealthTracker
  now := now
  history := []

def next (run : Run) (action : Action) : Run where
  tracker := action.call.apply run.tracker action.time
  now := action.time
  history := action.call.events run.tracker action.time ++ run.history

/-- Calls come in the order of their times. -/
def Allowed (run : Run) (action : Action) : Prop :=
  run.now ≤ action.time
deriving Decidable

end Run

def Call.succeeds (key : RuntimeHealthKey) : Call → Bool
  | recordSuccess chan model => runtimeHealthKey chan model = key
  | recordSuccessWithLatency chan model _ => runtimeHealthKey chan model = key
  | recordSuccessWithMetrics chan model _ _ =>
    runtimeHealthKey chan model = key
  | _ => false

namespace Run

/-- The action records a success of a key whose circuit is half-open. -/
def Recovers (key : RuntimeHealthKey) (run : Run) (action : Action) : Prop :=
  action.call.succeeds key ∧ run.tracker.stateAt action.time key = some .halfOpen
deriving Decidable

/-- The action takes the entry of a key away: it clears the tracker, or it happens when the
entry was last observed a whole TTL ago. -/
def Forgets (key : RuntimeHealthKey) (run : Run) (action : Action) : Prop :=
  action.call = .clear ∨
    ∃ entry ∈ run.tracker.entries key, entry.lastObservedAt + runtimeHealthEntryTTL ≤ action.time

def Unrecovered (key : RuntimeHealthKey) (run : Run) (action : Action) : Prop :=
  run.Allowed action ∧ ¬Recovers key run action
deriving Decidable

/-- Calls in order of time, none of which recovers or forgets the key. -/
def Held (key : RuntimeHealthKey) (run : Run) (action : Action) : Prop :=
  run.Allowed action ∧ ¬Recovers key run action ∧ ¬Forgets key run action

/-- A circuit that was closed and is open after a call was opened by the third or a later
failure since the last success, with the initial cooldown. -/
def OpensAfterFailures (run : Run) (action : Action) (key : RuntimeHealthKey) : Prop :=
  ∀ opened ∈ (run.next action).tracker.entries key, opened.state = .circuitOpen →
    (∀ entry ∈ run.tracker.entries key, entry.Closed) →
      (∃ chan model, action.call = .recordFailure chan model ∧
        runtimeHealthKey chan model = key) ∧
      runtimeHealthFailureThreshold ≤ consecutiveFailures key (run.next action).history ∧
      opened.cooldown = runtimeHealthInitialCooldown

/-- An open entry gets no probe. -/
def RefusesProbes (run : Run) (action : Action) (key : RuntimeHealthKey) : Prop :=
  ∀ entry ∈ run.tracker.entries key, entry.state = .circuitOpen →
    action.time < entry.openUntil →
      ∀ chan model, runtimeHealthKey chan model = key →
        (run.tracker.tryAcquireProbe action.time chan model).2 = false

/-- A failure in the half-open state opens the circuit with the doubled cooldown, up to the
maximum. -/
def ReopensDoubled (run : Run) (action : Action) (key : RuntimeHealthKey) : Prop :=
  ∀ chan model, action.call = .recordFailure chan model →
    runtimeHealthKey chan model = key →
      run.tracker.stateAt action.time key = some .halfOpen →
        ∃ entry ∈ run.tracker.entries key, ∃ opened ∈ (run.next action).tracker.entries key,
          opened.state = .circuitOpen ∧ opened.openedAt = action.time ∧
            opened.cooldown = min (2 * entry.cooldown) runtimeHealthMaximumCooldown

/-- A cleanup leaves an open entry as it is. -/
def PrunesIdle (run : Run) (action : Action) (key : RuntimeHealthKey) : Prop :=
  ∀ entry ∈ run.tracker.entries key, entry.state = .circuitOpen →
    action.time < entry.openUntil → (run.tracker.prune action.time).entries key = some entry

end Run

/-- What holds of a key, whose entry is `found`, at any time of a run. -/
structure KeySound (now : ℕ) (history : List Event) (key : RuntimeHealthKey)
    (found : Option HealthEntry) : Prop where
  past : ∀ probe ∈ probeTimes key history, probe ≤ now
  spaced : (probeTimes key history).Pairwise fun later earlier =>
    earlier + runtimeHealthHalfOpenProbeLease ≤ later
  entry : ∀ entry ∈ found,
    entry.Sound now (consecutiveFailures key history) (probeTimes key history)

namespace KeySound

variable {now time : ℕ} {history : List Event} {key : RuntimeHealthKey}
  {found : Option HealthEntry} {track : RuntimeHealthTracker}

variable (sound : KeySound now history key found)

include sound

theorem later (passes : now ≤ time) :
    KeySound time history key found where
  past := fun probe granted => le_trans (sound.past probe granted) passes
  spaced := sound.spaced
  entry := fun entry held => (sound.entry entry held).later passes

theorem gone : KeySound now history key none where
  past := sound.past
  spaced := sound.spaced
  entry := nofun

theorem map (change : HealthEntry → HealthEntry)
    (keeps : ∀ {failures : ℕ} {probes : List ℕ} {entry : HealthEntry},
      entry.Sound now failures probes → (change entry).Sound now failures probes) :
    KeySound now history key (found.map change) where
  past := sound.past
  spaced := sound.spaced
  entry := by
    intro _ held
    rcases Option.map_eq_some_iff.mp held with ⟨entry, stored, rfl⟩
    exact keeps (sound.entry entry stored)

omit sound

theorem prune (sound : KeySound now history key (track.entries key)) :
    KeySound now history key ((track.prune time).entries key) := by
  rcases track.prune_entries time key with same | ⟨removed, _⟩
  · rw [same]
    exact sound
  · rw [removed]
    exact sound.gone

variable (sound : KeySound now history key found)

include sound

theorem getD :
    (found.getD (HealthEntry.unseen now)).Sound now (consecutiveFailures key history)
      (probeTimes key history) := by
  cases found with
  | none => exact HealthEntry.sound_unseen now _ _
  | some entry => exact sound.entry entry rfl

theorem succeeds (chan : ℤ) (model : String) (latency : ℤ) (rate : Option ℚ) :
    KeySound now (.succeeded (runtimeHealthKey chan model) :: history) key
      (Call.onEntry.succeeds now key found chan model latency rate) := by
  simp only [Call.onEntry.succeeds]
  by_cases same : runtimeHealthKey chan model = key
  · have failures : consecutiveFailures key
        (.succeeded (runtimeHealthKey chan model) :: history) = 0 := if_pos same
    rw [if_pos same]
    split
    · exact ⟨sound.past, sound.spaced, by rintro _ ⟨⟩⟩
    · refine ⟨sound.past, sound.spaced, ?_⟩
      rintro _ ⟨rfl⟩
      rw [failures]
      exact sound.getD.recordSuccess latency rate
  · have failures : consecutiveFailures key (.succeeded (runtimeHealthKey chan model) :: history) =
          consecutiveFailures key history := if_neg same
    rw [if_neg same]
    refine ⟨sound.past, sound.spaced, ?_⟩
    rw [failures]
    exact sound.entry

theorem fails (chan : ℤ) (model : String) :
    KeySound now (.failed (runtimeHealthKey chan model) :: history) key
      ((Call.recordFailure chan model).onEntry now key found) := by
  simp only [Call.onEntry]
  by_cases same : runtimeHealthKey chan model = key
  · have failures : consecutiveFailures key (.failed (runtimeHealthKey chan model) :: history) =
          consecutiveFailures key history + 1 := if_pos same
    rw [if_pos same]
    refine ⟨sound.past, sound.spaced, ?_⟩
    rintro _ ⟨rfl⟩
    rw [failures]
    exact sound.getD.recordFailure sound.past
  · have failures : consecutiveFailures key (.failed (runtimeHealthKey chan model) :: history) =
          consecutiveFailures key history := if_neg same
    rw [if_neg same]
    refine ⟨sound.past, sound.spaced, ?_⟩
    rw [failures]
    exact sound.entry

omit sound

theorem probe_events (track : RuntimeHealthTracker) (now : ℕ) (chan : ℤ) (model : String) :
    (Call.tryAcquireProbe chan model).events track now =
      match (track.prune now).entries (runtimeHealthKey chan model) with
      | none => []
      | some entry =>
        if (entry.observe now).state = .halfOpen ∧
            ((entry.observe now).tryAcquireProbe now).2 = true then
          [.probed (runtimeHealthKey chan model) now]
        else [] := by
  simp only [Call.events, RuntimeHealthTracker.tryAcquireProbe_granted,
    RuntimeHealthTracker.stateAt]
  cases (track.prune now).entries (runtimeHealthKey chan model) with
  | none => simp
  | some _ => simp [and_comm]

/-- An attempt to acquire a probe keeps the entry sound. -/
theorem probes (chan : ℤ) (model : String)
    (sound : KeySound now history key ((track.prune now).entries key)) :
    KeySound now ((Call.tryAcquireProbe chan model).events track now ++ history) key
      ((Call.tryAcquireProbe chan model).onEntry now key ((track.prune now).entries key)) := by
  rw [probe_events]
  simp only [Call.onEntry]
  by_cases same : runtimeHealthKey chan model = key
  · subst same
    rw [if_pos rfl]
    cases held : (track.prune now).entries (runtimeHealthKey chan model) with
    | none => exact sound.gone
    | some entry =>
      rw [held] at sound
      have observed := (sound.entry entry rfl).observe
      by_cases granted : (entry.observe now).state = .halfOpen ∧
          ((entry.observe now).tryAcquireProbe now).2 = true
      · have probed := observed.tryAcquireProbe granted
        have times : probeTimes (runtimeHealthKey chan model)
            (.probed (runtimeHealthKey chan model) now :: history) =
              now :: probeTimes (runtimeHealthKey chan model) history := if_pos rfl
        simp only [if_pos granted, List.cons_append, List.nil_append]
        constructor
        · rw [times]
          intro probe given
          rcases List.mem_cons.mp given with rfl | before
          · exact le_refl _
          · exact sound.past probe before
        · rw [times]
          exact List.pairwise_cons.mpr ⟨probed.2, sound.spaced⟩
        · rw [times]
          rintro changed ⟨rfl⟩
          exact probed.1
      · simp only [if_neg granted, List.nil_append]
        refine ⟨sound.past, sound.spaced, ?_⟩
        rintro _ ⟨rfl⟩
        change ((entry.observe now).tryAcquireProbe now).1.Sound now _ _
        rw [HealthEntry.tryAcquireProbe_kept granted]
        exact observed
  · rw [if_neg same]
    split
    · exact sound
    · split
      · have times : probeTimes key ([.probed (runtimeHealthKey chan model) now] ++ history) =
              probeTimes key history := if_neg same
        exact ⟨times ▸ sound.past, times ▸ sound.spaced, times ▸ sound.entry⟩
      · exact sound

theorem call (call : Call) (sound : KeySound now history key ((track.prune now).entries key)) :
    KeySound now (call.events track now ++ history) key
      (call.onEntry now key ((track.prune now).entries key)) := by
  cases call with
  | snapshot _ _ =>
    simp only [Call.onEntry]
    split
    · exact sound.map _ fun kept => kept.observe
    · exact sound
  | snapshotAll => exact sound.map _ fun kept => kept.stamp
  | tryAcquireProbe chan model => exact probes chan model sound
  | recordSuccess chan model => exact sound.succeeds chan model 0 (some 0)
  | recordSuccessWithLatency chan model latency =>
    exact sound.succeeds chan model latency (some 0)
  | recordSuccessWithMetrics chan model latency rate =>
    exact sound.succeeds chan model latency rate
  | recordFailure chan model => exact sound.fails chan model
  | clear => exact sound.gone

end KeySound

namespace Run

variable {begun : ℕ} {run : Run} {action : Action} {key : RuntimeHealthKey}

theorem sound_of_reachable (reached : Reachable next Allowed (start begun) run)
    (key : RuntimeHealthKey) :
    KeySound run.now run.history key (run.tracker.entries key) := by
  apply reached.invariant fun state =>
    KeySound state.now state.history key (state.tracker.entries key)
  · intro _ action allowed sound
    simp only [next, Call.apply_entries]
    exact KeySound.call action.call (sound.later allowed).prune
  · exact ⟨nofun, List.Pairwise.nil, nofun⟩

end Run

namespace RuntimeHealthEntry

variable {now failures : ℕ} {probes : List ℕ} {entry : HealthEntry}

@[simp]
theorem observe_cooldown (entry : HealthEntry) (now : ℕ) :
    (entry.observe now).cooldown = entry.cooldown := by
  rcases entry.advanceCooldown_cases now with ⟨same, _⟩ | ⟨_, _, moved⟩
  · simp [observe, same]
  · simp [observe, moved]

theorem Closed.observe (closed : entry.Closed) : (entry.observe now).Closed := by
  rcases entry.advanceCooldown_cases now with ⟨same, _⟩ | ⟨opened, _, _⟩
  · simpa [HealthEntry.observe, Closed, same] using closed
  · exact absurd opened closed.1

theorem tryAcquireProbe_state (entry : HealthEntry) (now : ℕ) :
    (entry.tryAcquireProbe now).1.state = entry.state ∧
      (entry.tryAcquireProbe now).1.cooldown = entry.cooldown := by
  rcases entry.tryAcquireProbe_cases now with
    ⟨_, same⟩ | ⟨_, same⟩ | ⟨_, same⟩ | ⟨_, _, moved⟩
  · simp [same]
  · simp [same]
  · simp [same]
  · simp [moved]

theorem recordSuccess_open {latency : ℤ} {rate : Option ℚ}
    (opened : (entry.recordSuccess now latency rate).state = .circuitOpen) :
    (entry.observe now).state = .circuitOpen := by
  rcases entry.recordSuccess_eq now latency rate with ⟨_, _, _, _, moved⟩
  rw [moved] at opened
  simp only [close] at opened
  split at opened
  · exact absurd opened (closed_stateForReliability _).1
  next isOpen => exact not_not.mp isOpen

theorem recordSuccess_cooldown {latency : ℤ} {rate : Option ℚ}
    (unrecovered : (entry.observe now).state ≠ .halfOpen) :
    (entry.recordSuccess now latency rate).cooldown = entry.cooldown := by
  rcases entry.recordSuccess_eq now latency rate with ⟨_, _, _, _, moved⟩
  rw [moved]
  simp only [close]
  split
  · simp
  · simp

theorem recordFailure_cooldown (sound : entry.Sound now failures probes) :
    entry.cooldown ≤ (entry.recordFailure now).cooldown := by
  have grows : entry.cooldown ≤ ((entry.observe now).failed.openCircuit now).cooldown := by
    have counted := sound.observe.failed
    have bounds := nextCooldown_bounds _ counted.cooldown_le counted.started
    rw [← entry.observe_cooldown now]
    exact bounds.2.2
  rcases entry.recordFailure_cases now with
    ⟨_, moved⟩ | ⟨_, moved⟩ | ⟨_, _, moved⟩ | ⟨_, moved⟩
  · rw [moved]
    exact grows
  · simp [moved, failed]
  · rw [moved]
    exact grows
  · simp [moved, failed]

theorem nextCooldown_doubles (started : entry.cooldown ≠ 0) :
    entry.nextCooldown = min (2 * entry.cooldown) runtimeHealthMaximumCooldown := by
  rw [nextCooldown, if_neg started]
  split
  · omega
  · omega

end RuntimeHealthEntry

namespace Call

variable {now failures : ℕ} {probes : List ℕ} {key : RuntimeHealthKey}
  {found : Option HealthEntry} {entry : HealthEntry} {call : Call}

theorem onEntry_opens {opened : HealthEntry} (after : opened ∈ call.onEntry now key found)
    (isOpen : opened.state = .circuitOpen) (closed : ∀ entry ∈ found, entry.Closed) :
    ∃ chan model, call = recordFailure chan model ∧
      runtimeHealthKey chan model = key ∧
      opened = (found.getD (HealthEntry.unseen now)).recordFailure now := by
  have notFound : opened ∉ found := fun held => (closed opened held).1 isOpen
  have unseenClosed : (HealthEntry.unseen now).Closed := ⟨nofun, nofun⟩
  have notSucceeded : ∀ chan model latency rate,
      opened ∉ onEntry.succeeds now key found chan model latency rate := by
    intro _ _ _ _ recorded
    simp only [onEntry.succeeds] at recorded
    split at recorded
    · split at recorded
      · cases recorded
      · cases recorded
        have stillOpen := HealthEntry.recordSuccess_open isOpen
        cases found with
        | none => exact unseenClosed.observe.1 stillOpen
        | some entry => exact (closed entry rfl).observe.1 stillOpen
    · exact notFound recorded
  cases call with
  | snapshot _ _ =>
    simp only [onEntry] at after
    split at after
    · rcases Option.map_eq_some_iff.mp after with ⟨entry, held, rfl⟩
      exact absurd isOpen (closed entry held).observe.1
    · exact absurd after notFound
  | snapshotAll =>
    rcases Option.map_eq_some_iff.mp after with ⟨entry, held, rfl⟩
    exact absurd isOpen (closed entry held).1
  | tryAcquireProbe _ _ =>
    simp only [onEntry] at after
    split at after
    · rcases Option.map_eq_some_iff.mp after with ⟨entry, held, rfl⟩
      rw [(HealthEntry.tryAcquireProbe_state _ _).1] at isOpen
      exact absurd isOpen (closed entry held).observe.1
    · exact absurd after notFound
  | recordSuccess _ _ => exact absurd after (notSucceeded _ _ _ _)
  | recordSuccessWithLatency _ _ _ =>
    exact absurd after (notSucceeded _ _ _ _)
  | recordSuccessWithMetrics _ _ _ _ =>
    exact absurd after (notSucceeded _ _ _ _)
  | recordFailure chan model =>
    simp only [onEntry] at after
    split at after
    next same =>
      cases after
      exact ⟨chan, model, rfl, same, rfl⟩
    · exact absurd after notFound
  | clear => cases after

theorem onEntry_cooldown (sound : entry.Sound now failures probes) (kept : call ≠ clear)
    (unrecovered : call.succeeds key = true → (entry.observe now).state ≠ .halfOpen) :
    ∃ after ∈ call.onEntry now key (some entry), entry.cooldown ≤ after.cooldown := by
  have unchanged : ∃ after ∈ some entry, entry.cooldown ≤ after.cooldown :=
    ⟨entry, rfl, le_refl _⟩
  have succeeded : ∀ chan model latency rate,
      (runtimeHealthKey chan model = key → (entry.observe now).state ≠ .halfOpen) →
        ∃ after ∈ onEntry.succeeds now key (some entry) chan model latency
          rate, entry.cooldown ≤ after.cooldown := by
    intro chan model _ _ notHalf
    simp only [onEntry.succeeds]
    by_cases same : runtimeHealthKey chan model = key
    · rw [if_pos same, if_neg (by simp)]
      exact ⟨_, rfl, le_of_eq (HealthEntry.recordSuccess_cooldown (notHalf same)).symm⟩
    · rw [if_neg same]
      exact unchanged
  cases call with
  | snapshot _ _ =>
    simp only [onEntry]
    split
    · exact ⟨_, rfl, le_of_eq (entry.observe_cooldown now).symm⟩
    · exact unchanged
  | snapshotAll => exact ⟨_, rfl, le_refl _⟩
  | tryAcquireProbe _ _ =>
    simp only [onEntry]
    split
    · refine ⟨_, rfl, ?_⟩
      rw [(HealthEntry.tryAcquireProbe_state _ _).2, entry.observe_cooldown]
    · exact unchanged
  | recordSuccess _ _ =>
    exact succeeded _ _ _ _ fun same => unrecovered (decide_eq_true same)
  | recordSuccessWithLatency _ _ _ =>
    exact succeeded _ _ _ _ fun same => unrecovered (decide_eq_true same)
  | recordSuccessWithMetrics _ _ _ _ =>
    exact succeeded _ _ _ _ fun same => unrecovered (decide_eq_true same)
  | recordFailure _ _ =>
    simp only [onEntry]
    split
    · exact ⟨_, rfl, HealthEntry.recordFailure_cooldown sound⟩
    · exact unchanged
  | clear => exact absurd rfl kept

end Call

namespace Run

variable {begun : ℕ} {run : Run} {action : Action} {key : RuntimeHealthKey}

theorem next_entries (run : Run) (action : Action) (key : RuntimeHealthKey) :
    (run.next action).tracker.entries key =
      action.call.onEntry action.time key ((run.tracker.prune action.time).entries key) :=
  action.call.apply_entries run.tracker action.time key

variable (sound : KeySound run.now run.history key (run.tracker.entries key))

include sound

variable (allowed : run.Allowed action)

include allowed

theorem opensAfterFailures : run.OpensAfterFailures action key := by
  intro _ after isOpen closed
  rw [next_entries] at after
  have pruned : KeySound _ _ key ((run.tracker.prune action.time).entries key) :=
    (sound.later allowed).prune
  have closedFound : ∀ entry ∈ (run.tracker.prune action.time).entries key, entry.Closed :=
    fun entry held => closed entry (RuntimeHealthTracker.entries_of_prune held)
  rcases Call.onEntry_opens after isOpen closedFound with
    ⟨chan, model, failure, same, rfl⟩
  refine ⟨⟨chan, model, failure, same⟩, ?_⟩
  have getClosed : (((run.tracker.prune action.time).entries key).getD
      (HealthEntry.unseen action.time)).Closed := by
    cases held : (run.tracker.prune action.time).entries key with
    | none => exact ⟨nofun, nofun⟩
    | some entry => exact closedFound entry held
  have history : consecutiveFailures key (run.next action).history =
      consecutiveFailures key run.history + 1 := by
    simp only [next, failure, Call.events, List.cons_append, List.nil_append]
    exact if_pos same
  have bounded := pruned.getD.observe.counted getClosed.observe
  have started := pruned.getD.observe.cooldown_closed getClosed.observe
  rcases HealthEntry.recordFailure_cases _ action.time with
    ⟨half, _⟩ | ⟨stillOpen, _⟩ | ⟨_, third, moved⟩ | ⟨_, moved⟩
  · exact absurd half getClosed.observe.2
  · exact absurd stillOpen getClosed.observe.1
  · refine ⟨by omega, ?_⟩
    rw [moved]
    exact if_pos started
  · rw [moved] at isOpen
    cases isOpen

theorem prunesIdle : run.PrunesIdle action key := by
  intro entry held opened _
  have entrySound := (sound.later allowed).entry entry held
  rcases run.tracker.prune_entries action.time key with same | ⟨_, removed, heldRemoved, old⟩
  · rw [same]
    exact held
  · have sameEntry : removed = entry := Option.some.inj (heldRemoved.symm.trans held)
    subst sameEntry
    have idle := ((RuntimeHealthTracker.stale_iff entrySound.observed_le).mp old).2
    have window := entrySound.window opened
    have started := entrySound.openedAt_le
    have short := entrySound.cooldown_le
    -- The longest window is shorter than the TTL.
    have ordered : runtimeHealthMaximumCooldown ≤ runtimeHealthEntryTTL := by decide
    omega

theorem refusesProbes : run.RefusesProbes action key := by
  intro entry held opened inside _ _ same
  have kept := prunesIdle sound allowed entry held opened inside
  rw [RuntimeHealthTracker.tryAcquireProbe_granted, same, kept]
  have stillOpen : (entry.observe action.time).state = .circuitOpen := by
    rcases entry.advanceCooldown_cases action.time with ⟨unchanged, _⟩ | ⟨_, _, _⟩
    · simp [HealthEntry.observe, unchanged, opened]
    · omega
  simp only [HealthEntry.tryAcquireProbe]
  rw [if_pos stillOpen]

theorem reopensDoubled : run.ReopensDoubled action key := by
  intro _ _ failure same half
  rcases Option.map_eq_some_iff.mp half with ⟨entry, held, isHalf⟩
  have stored := RuntimeHealthTracker.entries_of_prune held
  have entrySound := ((sound.later allowed).entry entry stored).observe
  have pos : (entry.observe action.time).cooldown ≠ 0 := by
    have started := entrySound.cooldown_tripped fun closed => closed.2 isHalf
    have init : 0 < runtimeHealthInitialCooldown := by decide
    omega
  refine ⟨entry, stored, (entry.observe action.time).failed.openCircuit action.time, ?_, rfl,
    rfl, ?_⟩
  · rw [next_entries, failure, held]
    simp only [Call.onEntry, if_pos same, Option.getD_some]
    rcases entry.recordFailure_cases action.time with
      ⟨_, moved⟩ | ⟨stillOpen, _⟩ | ⟨closed, _⟩ | ⟨closed, _⟩
    · rw [moved]
      rfl
    · rw [isHalf] at stillOpen
      cases stillOpen
    · exact absurd isHalf closed.2
    · exact absurd isHalf closed.2
  · have doubled := (entry.observe action.time).failed.nextCooldown_doubles pos
    simpa [HealthEntry.openCircuit, HealthEntry.failed] using doubled

omit allowed

omit sound

theorem cooldown_held {later : Run} {entry : HealthEntry}
    (reached : Reachable next Allowed (start begun) run)
    (reachedLater : Reachable next (Held key) run later) (held : entry ∈ run.tracker.entries key) :
    ∃ after ∈ later.tracker.entries key, entry.cooldown ≤ after.cooldown := by
  have step : ∀ state action, Held key state action →
      (KeySound state.now state.history key (state.tracker.entries key) ∧
        ∃ after ∈ state.tracker.entries key, entry.cooldown ≤ after.cooldown) →
      KeySound (state.next action).now (state.next action).history key
          ((state.next action).tracker.entries key) ∧
        ∃ after ∈ (state.next action).tracker.entries key, entry.cooldown ≤ after.cooldown := by
    rintro state action ⟨allowed, unrecovered, remembered⟩ ⟨sound, before, heldBefore, lower⟩
    have advanced := sound.later allowed
    have kept : (state.tracker.prune action.time).entries key = some before := by
      rcases state.tracker.prune_entries action.time key with same | ⟨_, removed, stored, old⟩
      · rw [same]
        exact heldBefore
      · have idle := ((RuntimeHealthTracker.stale_iff
          (advanced.entry removed stored).observed_le).mp old).2
        exact absurd (.inr ⟨removed, stored, idle⟩) remembered
    refine ⟨?_, ?_⟩
    · rw [next_entries]
      exact KeySound.call action.call advanced.prune
    · rw [next_entries, kept]
      rcases Call.onEntry_cooldown (advanced.entry before heldBefore)
          (fun cleared => remembered (.inl cleared))
          (fun succeeded half => unrecovered ⟨succeeded, by
            simp [RuntimeHealthTracker.stateAt, kept, half]⟩) with ⟨after, stored, higher⟩
      exact ⟨after, stored, le_trans lower higher⟩
  exact (reachedLater.invariant _ step ⟨sound_of_reachable reached key, entry, held, le_refl _⟩).2

/-- The circuit breaker over every run: averages are complementary shares; an open circuit
has a window of one cooldown, between the initial and the maximum one; half-open probes of
one key are a lease apart; a closed circuit opens by the third consecutive failure only; an
open one grants no probe and is not pruned; reopening doubles the cooldown, which does not
fall until the key is recovered or forgotten. -/
theorem circuit_breaker_kept (reached : Reachable next Allowed (start begun) run) :
    (∀ key, ∀ entry ∈ run.tracker.entries key,
      entry.successEWMA ∈ Set.Icc 0 1 ∧ entry.failureEWMA ∈ Set.Icc 0 1 ∧
        entry.successEWMA + entry.failureEWMA = 1 ∧ (entry.state = .circuitOpen →
          entry.openUntil = entry.openedAt + entry.cooldown ∧
            runtimeHealthInitialCooldown ≤ entry.cooldown ∧
            entry.cooldown ≤ runtimeHealthMaximumCooldown)) ∧
      (∀ key, (probeTimes key run.history).Pairwise fun later earlier =>
        earlier + runtimeHealthHalfOpenProbeLease ≤ later) ∧ (∀ action, run.Allowed action → ∀ key,
        run.OpensAfterFailures action key ∧ run.RefusesProbes action key ∧
          run.ReopensDoubled action key ∧ run.PrunesIdle action key) ∧
      ∀ key later, Reachable next (Held key) run later → ∀ entry ∈ run.tracker.entries key,
          ∃ after ∈ later.tracker.entries key, entry.cooldown ≤ after.cooldown := by
  have sound := sound_of_reachable reached
  refine ⟨?_, fun key => (sound key).spaced, ?_, ?_⟩
  · intro key entry held
    have entrySound := (sound key).entry entry held
    have averaged := entrySound.averaged
    have success := averaged.success_nonneg
    have err := averaged.failure_nonneg
    have sum := averaged.sum
    refine ⟨⟨success, by linarith⟩, ⟨err, by linarith⟩, sum, ?_⟩
    intro opened
    exact ⟨entrySound.window opened, entrySound.cooldown_tripped fun closed => closed.1 opened,
      entrySound.cooldown_le⟩
  · intro _ allowed key
    exact ⟨opensAfterFailures (sound key) allowed, refusesProbes (sound key) allowed,
      reopensDoubled (sound key) allowed, prunesIdle (sound key) allowed⟩
  · intro _ _ reachedLater _ held
    exact cooldown_held reached reachedLater held

/-- Three failures open a circuit, and a fourth one reopens it half-open. -/
def reopening : List Action :=
  [⟨second, .recordFailure 11 "gpt-5"⟩, ⟨second, .recordFailure 11 "gpt-5"⟩,
    ⟨second, .recordFailure 11 "gpt-5"⟩, ⟨6 * second, .recordFailure 11 "gpt-5"⟩]

def resuming : List Action :=
  [⟨20 * minute, .recordFailure 11 "gpt-5"⟩, ⟨20 * minute, .recordFailure 11 "gpt-5"⟩,
    ⟨20 * minute, .recordFailure 11 "gpt-5"⟩]

theorem circuit_breaker_kept_reopened :
    (((reopening.foldl next (start 0)).tracker.entries (runtimeHealthKey 11 "gpt-5")).map
      HealthEntry.state = some .circuitOpen) ∧
      ∀ key, (probeTimes key (reopening.foldl next (start 0)).history).Pairwise
        fun later earlier => earlier + runtimeHealthHalfOpenProbeLease ≤ later :=
  ⟨by decide, (circuit_breaker_kept (Reachable.of_run reopening (start 0) (by decide))).2.1⟩

/-- Without any success, the cooldown falls from 10 s to 5 s: the idle entry was pruned. -/
theorem cooldown_falls_unrecovered :
    ¬∀ (begun : ℕ) (run later : Run) (key : RuntimeHealthKey),
      Reachable next Allowed (start begun) run → Reachable next (Unrecovered key) run later →
        ∀ entry ∈ run.tracker.entries key, ∀ after ∈ later.tracker.entries key,
          entry.cooldown ≤ after.cooldown := by
  intro kept
  have reached : Reachable next Allowed (start 0) (reopening.foldl next (start 0)) :=
    Reachable.of_run reopening (start 0) (by decide)
  have reachedLater : Reachable next (Unrecovered (runtimeHealthKey 11 "gpt-5"))
      (reopening.foldl next (start 0)) (resuming.foldl next (reopening.foldl next (start 0))) :=
    Reachable.of_run resuming _ (by decide)
  have doubled : ((reopening.foldl next (start 0)).tracker.entries
      (runtimeHealthKey 11 "gpt-5")).map HealthEntry.cooldown = some (10 * second) := by
    decide
  have init : ((resuming.foldl next (reopening.foldl next (start 0))).tracker.entries
      (runtimeHealthKey 11 "gpt-5")).map HealthEntry.cooldown = some (5 * second) := by
    decide
  rcases Option.map_eq_some_iff.mp doubled with ⟨entry, held, longer⟩
  rcases Option.map_eq_some_iff.mp init with ⟨after, heldAfter, shorter⟩
  have contrary := kept 0 _ _ _ reached reachedLater entry held after heldAfter
  rw [longer, shorter] at contrary
  exact absurd contrary (by decide)

end Run

end SmartRouting
