import Mathlib.Data.Int.Notation
import Mathlib.Data.List.Basic

/-!
# The in-memory rate limiter

All limiters without Redis share one store; its expiry is that of whichever caller initialised it
first. Times are Unix seconds, and an expiry is a `time.Duration` in nanoseconds.
-/

namespace NewApi.Middleware

/-! ## A sliding window -/

section Window

variable {max : ℕ} {duration : ℤ}

/-- The times of the admitted requests among decided ones. -/
def admitted (decided : List (ℤ × Bool)) : List ℤ :=
  (decided.filter (·.2)).map (·.1)

/-- How many requests were admitted in the seconds before a time, newest first. -/
def recent (duration now : ℤ) (decided : List (ℤ × Bool)) : ℕ :=
  (admitted decided).countP fun time => now < time + duration

/-- Each request is admitted just if fewer than the maximum were in the seconds before it. -/
def SlidingWindow (max : ℕ) (duration : ℤ) : List (ℤ × Bool) → Prop
  | [] => True
  | (now, admits) :: past =>
    (admits = true ↔ recent duration now past < max) ∧ SlidingWindow max duration past

theorem SlidingWindow.bounded {decided : List (ℤ × Bool)}
    (window : SlidingWindow max duration decided) (start : ℤ) :
    (admitted decided).countP (fun time => start ≤ time ∧ time < start + duration) ≤ max := by
  induction decided with
  | nil => exact Nat.zero_le max
  | cons decision past ih =>
    rcases decision with ⟨now, _ | _⟩
    · exact ih window.2
    · have few := window.1.mp rfl
      change List.countP _ (now :: admitted past) ≤ max
      rw [List.countP_cons]
      split
      next inside =>
        simp only [decide_eq_true_eq] at inside
        have fewer : (admitted past).countP
            (fun time => start ≤ time ∧ time < start + duration) ≤ recent duration now past := by
          apply List.countP_mono_left
          intro time _ within
          simp only [decide_eq_true_eq] at within ⊢
          omega
        omega
      · exact ih window.2

/-- Which requests a sliding window admits depends only on when they are made. -/
theorem SlidingWindow.unique {decided other : List (ℤ × Bool)}
    (window : SlidingWindow max duration decided) (same : SlidingWindow max duration other)
    (times : decided.map (·.1) = other.map (·.1)) : decided = other := by
  induction decided generalizing other with
  | nil => exact (List.map_eq_nil_iff.mp times.symm).symm
  | cons decision past ih =>
    cases other with
    | nil => cases times
    | cons otherDecision otherBefore =>
      rcases decision with ⟨now, admits⟩
      rcases otherDecision with ⟨otherNow, otherAdmits⟩
      rcases List.cons.inj times with ⟨sameNow, sameTimes⟩
      have sameBefore := ih window.2 same.2 sameTimes
      change now = otherNow at sameNow
      subst sameNow sameBefore
      have sameAdmits : admits = otherAdmits := Bool.eq_iff_iff.mpr (window.1.trans same.1.symm)
      rw [sameAdmits]

end Window

/-! ## The limiter -/

/-- `InMemoryRateLimiter`: the queue of each key, oldest request first, and how long it is kept. -/
structure InMemoryRateLimiter where
  store : String → Option (List ℤ)
  expirationDuration : ℤ

/-- Whole seconds of a duration in nanoseconds. -/
def seconds (duration : ℤ) : ℤ :=
  duration.tdiv 1000000000

namespace InMemoryRateLimiter

/-- A limiter that has its store is left as it is. -/
def init (limiter : Option InMemoryRateLimiter) (expirationDuration : ℤ) : InMemoryRateLimiter :=
  limiter.getD ⟨fun _ => none, expirationDuration⟩

/-- One pass over the store. -/
def clearExpiredItems (limiter : InMemoryRateLimiter) (now : ℤ) : InMemoryRateLimiter :=
  { limiter with
    store := fun key => (limiter.store key).filter fun queue =>
      queue.getLast?.any fun last => now - last ≤ seconds limiter.expirationDuration }

def put (limiter : InMemoryRateLimiter) (key : String) (queue : List ℤ) : InMemoryRateLimiter :=
  { limiter with store := Function.update limiter.store key (some queue) }

def request (limiter : InMemoryRateLimiter) (key : String) (maxRequestNum : ℕ)
    (duration now : ℤ) : Bool × InMemoryRateLimiter :=
  match limiter.store key with
  | none => (true, limiter.put key [now])
  | some queue =>
    if queue.length < maxRequestNum then (true, limiter.put key (queue ++ [now]))
    else match queue with
      | oldest :: rest =>
        if duration ≤ now - oldest then (true, limiter.put key (rest ++ [now]))
        else (false, limiter)
      -- No queue in the store is empty.
      | [] => (false, limiter)

end InMemoryRateLimiter

/-- The calls on a limiter: its initialization, a request, and a pass of the cleanup. -/
inductive LimiterEvent where
  | init (expirationDuration : ℤ)
  | request (key : String) (maxRequestNum : ℕ) (duration now : ℤ)
  | clear (now : ℤ)

namespace LimiterEvent

def time? : LimiterEvent → Option ℤ
  | init _ => none
  | request _ _ _ now | clear now => some now

def isClear : LimiterEvent → Bool
  | clear _ => true
  | _ => false

/-- The requests for a key have one maximum and duration, and only a positive expiry starts the
cleanup. -/
def Uses (expiry : ℤ) (key : String) (max : ℕ) (duration : ℤ) (event : LimiterEvent) : Prop :=
  match event with
  | init _ => True
  | request other maxRequestNum requestDuration _ =>
    other = key → maxRequestNum = max ∧ requestDuration = duration
  | clear _ => 0 < expiry

def apply (limiter : InMemoryRateLimiter) : LimiterEvent → InMemoryRateLimiter
  | init expirationDuration => .init (some limiter) expirationDuration
  | request key maxRequestNum duration now => (limiter.request key maxRequestNum duration now).2
  | clear now => limiter.clearExpiredItems now

end LimiterEvent

/-- The limiter after events, newest first, since it was initialised. -/
def limiterAfter (expiry : ℤ) : List LimiterEvent → InMemoryRateLimiter
  | [] => .init none expiry
  | event :: past => event.apply (limiterAfter expiry past)

/-- When the requests for a key were made and whether they were admitted, newest first. -/
def decisions (expiry : ℤ) (key : String) : List LimiterEvent → List (ℤ × Bool)
  | [] => []
  | .request other maxRequestNum duration now :: past =>
    if other = key then
      (now, ((limiterAfter expiry past).request key maxRequestNum duration now).1) ::
        decisions expiry key past
    else decisions expiry key past
  | _ :: past => decisions expiry key past

/-- A run of the shared limiter, newest event first, at non-decreasing times. -/
structure LimiterRun (expiry : ℤ) (key : String) (max : ℕ) (duration : ℤ) where
  events : List LimiterEvent
  ordered : (events.filterMap LimiterEvent.time?).Pairwise (· ≥ ·)
  uses : ∀ event ∈ events, event.Uses expiry key max duration

/-- What an in-memory limiter of a key promises over a run. -/
structure EnforcesWindow (expiry : ℤ) (key : String) (max : ℕ) (duration : ℤ)
    (events : List LimiterEvent) : Prop where
  window : ∀ start, (admitted (decisions expiry key events)).countP
    (fun time => start ≤ time ∧ time < start + duration) ≤ max
  rejected : ∀ later past now, decisions expiry key events = later ++ (now, false) :: past →
      (admitted past).countP (fun time => now - duration < time ∧ time ≤ now) = max
  cleanup : decisions expiry key events =
    decisions expiry key (events.filter fun event => !event.isClear)

/-! ## The queue of a key -/

section Queue

variable {expiry : ℤ} {key : String} {max : ℕ} {duration now : ℤ}
  {decided : List (ℤ × Bool)} {stored : Option (List ℤ)}

/-- What the store holds of a key: its latest admissions, and all that still count unless these
alone reach the maximum. -/
inductive Remembers (max : ℕ) (duration : ℤ) (decided : List (ℤ × Bool)) (now : ℤ) :
    Option (List ℤ) → Prop where
  | none (expired : ∀ time ∈ admitted decided, time + duration ≤ now) :
      Remembers max duration decided now none
  | some (queue older : List ℤ) (isAdmitted : admitted decided = queue.reverse ++ older)
      (nonempty : queue ≠ []) (bounded : queue.length ≤ max)
      (expired : queue.length < max → ∀ time ∈ older, time + duration ≤ now) :
      Remembers max duration decided now (some queue)

theorem Remembers.later (remembers : Remembers max duration decided now stored) {later : ℤ}
    (isLater : now ≤ later) : Remembers max duration decided later stored := by
  cases remembers with
  | none expired =>
    exact .none fun time inAdmitted => Int.le_trans (expired time inAdmitted) isLater
  | some queue older isAdmitted filled bounded expired =>
    exact .some queue older isAdmitted filled bounded fun short time inOlder =>
      Int.le_trans (expired short time inOlder) isLater

variable (limiter : InMemoryRateLimiter)
  (remembers : Remembers max duration decided now (limiter.store key)) (positive : 0 < max)
  (sorted : (admitted decided).Pairwise (· ≥ ·))

include remembers positive sorted

/-- A request is decided as in a sliding window, and the queue remembers it. -/
theorem Remembers.request :
    let reply := limiter.request key max duration now
    (reply.1 = true ↔ recent duration now decided < max) ∧
      Remembers max duration ((now, reply.1) :: decided) now (reply.2.store key) := by
  have gone : ∀ older : List ℤ, (∀ time ∈ older, time + duration ≤ now) →
      older.countP (fun time => now < time + duration) = 0 := by
    intro older expired
    refine List.countP_eq_zero.mpr fun time inOlder => ?_
    simpa using expired time inOlder
  generalize isStored : limiter.store key = stored at remembers
  cases remembers with
  | none expired =>
    have isRecent : recent duration now decided = 0 := gone _ expired
    simp only [InMemoryRateLimiter.request, isStored, InMemoryRateLimiter.put, Function.update_self]
    refine ⟨by simp [isRecent, positive], ?_⟩
    exact .some [now] (admitted decided) rfl (by simp) positive fun _ => expired
  | some queue older isAdmitted filled bounded expired =>
    have isRecent : recent duration now decided = queue.countP (fun time => now < time + duration) +
          older.countP fun time => now < time + duration := by
      rw [recent, isAdmitted, List.countP_append, List.countP_reverse]
    simp only [InMemoryRateLimiter.request, isStored]
    split
    next short =>
      have few : recent duration now decided < max := by
        have within := List.countP_le_length (l := queue) (p := fun time => now < time + duration)
        rw [isRecent, gone older (expired short)]
        omega
      simp only [InMemoryRateLimiter.put, Function.update_self]
      refine ⟨by simp [few], ?_⟩
      refine .some _ older ?_ (by simp) (by simp; omega) fun _ => expired short
      simp [admitted, ← isAdmitted]
    next full =>
      cases queue with
      | nil => exact absurd rfl filled
      | cons oldest rest =>
        rw [isAdmitted] at sorted
        have ordered := List.pairwise_append.mp sorted
        have isFull : rest.length + 1 = max := by
          simp only [List.length_cons] at full bounded
          omega
        have newer : ∀ time ∈ oldest :: rest, oldest ≤ time := by
          have inReverse := ordered.1
          rw [List.reverse_cons, List.pairwise_append] at inReverse
          intro time inQueue
          rcases List.mem_cons.mp inQueue with rfl | isIn
          · exact Int.le_refl _
          · exact inReverse.2.2 time (List.mem_reverse.mpr isIn) oldest List.mem_cons_self
        dsimp only
        split
        next old =>
          have expiredOldest : ∀ time ∈ oldest :: older, time + duration ≤ now := by
            intro time inOlder
            rcases List.mem_cons.mp inOlder with rfl | isOlder
            · omega
            · have below := ordered.2.2 oldest (by simp) time isOlder
              omega
          have few : recent duration now decided < max := by
            have within := List.countP_le_length (l := rest)
              (p := fun time => now < time + duration)
            have none := gone _ expiredOldest
            rw [List.countP_cons] at none
            rw [isRecent, List.countP_cons]
            omega
          simp only [InMemoryRateLimiter.put, Function.update_self]
          refine ⟨by simp [few], ?_⟩
          refine .some _ (oldest :: older) ?_ (by simp) (by simp [isFull]) ?_
          · simpa [admitted] using isAdmitted
          · intro short
            simp only [List.length_append, List.length_singleton] at short
            omega
        next recentOldest =>
          have many : max ≤ recent duration now decided := by
            have all : (oldest :: rest).countP (fun time => now < time + duration) =
                (oldest :: rest).length := by
              refine List.countP_eq_length.mpr fun time inQueue => ?_
              have atLeast := newer time inQueue
              simp only [decide_eq_true_eq]
              omega
            rw [isRecent, all, List.length_cons]
            omega
          refine ⟨by simpa using many, ?_⟩
          rw [isStored]
          exact .some _ older isAdmitted filled bounded expired

omit positive

/-- A cleanup forgets only what does not count any more, if the expiry covers the duration. -/
theorem Remembers.clear (covers : duration ≤ seconds limiter.expirationDuration + 1) :
    Remembers max duration decided now ((limiter.clearExpiredItems now).store key) := by
  simp only [InMemoryRateLimiter.clearExpiredItems]
  generalize limiter.store key = stored at remembers
  cases remembers with
  | none expired => exact .none expired
  | some queue older isAdmitted filled bounded expired =>
    simp only [Option.filter_some]
    split
    · exact .some queue older isAdmitted filled bounded expired
    next stale =>
      refine .none fun time inAdmitted => ?_
      have isQueue : queue.reverse = queue.getLast filled :: queue.dropLast.reverse := by
        conv_lhs => rw [← List.dropLast_append_getLast filled]
        simp
      rw [isAdmitted, isQueue] at sorted inAdmitted
      rw [List.getLast?_eq_some_getLast filled] at stale
      simp only [Option.any_some, decide_eq_true_eq, Int.not_le] at stale
      have newest : time ≤ queue.getLast filled := by
        rcases List.mem_cons.mp inAdmitted with rfl | earlier
        · exact Int.le_refl _
        · exact (List.pairwise_cons.mp sorted).1 time earlier
      omega

end Queue

/-! ## Runs -/

section Runs

variable {expiry : ℤ} {key : String} {max : ℕ} {duration : ℤ} {events : List LimiterEvent}

theorem limiterAfter_expirationDuration (events : List LimiterEvent) :
    (limiterAfter expiry events).expirationDuration = expiry := by
  induction events with
  | nil => rfl
  | cons event past ih =>
    cases event with
    | init _ | clear _ => exact ih
    | request other maxRequestNum requestDuration now =>
      simp only [limiterAfter, LimiterEvent.apply, InMemoryRateLimiter.request]
      split
      · exact ih
      split
      · exact ih
      split
      · split <;> exact ih
      · exact ih

theorem request_other (limiter : InMemoryRateLimiter) {other : String} (diff : other ≠ key)
    (maxRequestNum : ℕ) (duration now : ℤ) :
    (limiter.request other maxRequestNum duration now).2.store key = limiter.store key := by
  have kept : ∀ queue, (limiter.put other queue).store key = limiter.store key :=
    fun queue => Function.update_of_ne diff.symm _ _
  simp only [InMemoryRateLimiter.request]
  split
  · exact kept _
  split
  · exact kept _
  split
  · split
    · exact kept _
    · rfl
  · rfl

def requestedAt (key : String) : LimiterEvent → Option ℤ
  | .request other _ _ now => if other = key then some now else none
  | _ => none

theorem decisions_times (expiry : ℤ) (key : String) (events : List LimiterEvent) :
    (decisions expiry key events).map (·.1) = events.filterMap (requestedAt key) := by
  induction events with
  | nil => rfl
  | cons event past ih =>
    cases event with
    | init _ | clear _ => exact ih
    | request other _ _ now =>
      by_cases same : other = key
      · simp [decisions, requestedAt, same, ih]
      · simp [decisions, requestedAt, same, ih]

theorem requestedAt_sublist (key : String) (events : List LimiterEvent) :
    (events.filterMap (requestedAt key)).Sublist (events.filterMap LimiterEvent.time?) := by
  induction events with
  | nil => exact List.Sublist.refl []
  | cons event past ih =>
    cases event with
    | init _ => exact ih
    | clear now => exact ih.cons now
    | request other _ _ now =>
      by_cases same : other = key
      · simpa [requestedAt, LimiterEvent.time?, same] using ih
      · simpa [requestedAt, LimiterEvent.time?, same] using ih.cons now

theorem admitted_sublist (decided : List (ℤ × Bool)) :
    (admitted decided).Sublist (decided.map (·.1)) :=
  List.filter_sublist.map _

/-- The store of a run as a sliding window over what was decided. -/
structure Windowed (expiry : ℤ) (key : String) (max : ℕ) (duration : ℤ)
    (events : List LimiterEvent) : Prop where
  window : SlidingWindow max duration (decisions expiry key events)
  remembers : ∀ now, (∀ time ∈ events.filterMap LimiterEvent.time?, time ≤ now) →
    Remembers max duration (decisions expiry key events) now
      ((limiterAfter expiry events).store key)

theorem sorted_decisions (ordered : (events.filterMap LimiterEvent.time?).Pairwise (· ≥ ·)) :
    ((decisions expiry key events).map (·.1)).Pairwise (· ≥ ·) := by
  rw [decisions_times]
  exact ordered.sublist (requestedAt_sublist key events)

theorem windowed (positive : 0 < max) (covers : expiry ≤ 0 ∨ duration ≤ seconds expiry + 1)
    (ordered : (events.filterMap LimiterEvent.time?).Pairwise (· ≥ ·))
    (uses : ∀ event ∈ events, event.Uses expiry key max duration) :
    Windowed expiry key max duration events := by
  induction events with
  | nil => exact ⟨trivial, fun _ _ => .none (by simp [admitted, decisions])⟩
  | cons event past ih =>
    have usesBefore := fun event inBefore => uses event (List.mem_cons_of_mem _ inBefore)
    have usesEvent := uses event List.mem_cons_self
    cases event with
    | init _ =>
      have before := ih ordered usesBefore
      exact ⟨before.window, before.remembers⟩
    | clear now =>
      have before := ih (List.pairwise_cons.mp ordered).2 usesBefore
      refine ⟨before.window, fun later isLater => ?_⟩
      refine Remembers.later ?_ (isLater now List.mem_cons_self)
      refine Remembers.clear _ (before.remembers now (List.pairwise_cons.mp ordered).1)
        ((sorted_decisions (List.pairwise_cons.mp ordered).2).sublist (admitted_sublist _)) ?_
      rw [limiterAfter_expirationDuration]
      rcases covers with neg | covers
      · exact absurd usesEvent (Int.not_lt.mpr neg)
      · exact covers
    | request other maxRequestNum requestDuration now =>
      have before := ih (List.pairwise_cons.mp ordered).2 usesBefore
      have remembers := before.remembers now (List.pairwise_cons.mp ordered).1
      by_cases same : other = key
      · rcases usesEvent same with ⟨rfl, rfl⟩
        subst same
        have requested := Remembers.request _ remembers positive
          ((sorted_decisions (List.pairwise_cons.mp ordered).2).sublist (admitted_sublist _))
        constructor
        · simpa [decisions, SlidingWindow] using ⟨requested.1, before.window⟩
        · intro later isLater
          simpa [decisions, limiterAfter, LimiterEvent.apply] using
            requested.2.later (isLater now List.mem_cons_self)
      · constructor
        · simpa [decisions, same] using before.window
        · intro later isLater
          simp only [decisions, same, if_false, limiterAfter, LimiterEvent.apply]
          rw [request_other _ same]
          exact remembers.later (isLater now List.mem_cons_self)

theorem SlidingWindow.suffix {later rest : List (ℤ × Bool)}
    (window : SlidingWindow max duration (later ++ rest)) : SlidingWindow max duration rest := by
  induction later with
  | nil => exact window
  | cons _ _ ih => exact ih window.2

/-- A request that a sliding window rejects finds as many admissions as are allowed. -/
theorem SlidingWindow.rejected {now : ℤ} {past : List (ℤ × Bool)}
    (window : SlidingWindow max duration ((now, false) :: past))
    (earlier : ∀ time ∈ past.map (·.1), time ≤ now) :
    (admitted past).countP (fun time => now - duration < time ∧ time ≤ now) = max := by
  have most := window.2.bounded (now - duration + 1)
  have least : max ≤ recent duration now past := by simpa using window.1
  have same : recent duration now past =
      (admitted past).countP fun time => now - duration < time ∧ time ≤ now := by
    refine List.countP_congr fun time inAdmitted => ?_
    have notLater := earlier time ((admitted_sublist past).subset inAdmitted)
    simp only [decide_eq_true_eq]
    omega
  have bounded : (admitted past).countP (fun time => now - duration < time ∧ time ≤ now) =
      (admitted past).countP fun time =>
        now - duration + 1 ≤ time ∧ time < now - duration + 1 + duration := by
    refine List.countP_congr fun time _ => ?_
    simp only [decide_eq_true_eq]
    omega
  omega

theorem Windowed.enforces (windowedAll : Windowed expiry key max duration events)
    (windowedRequests : Windowed expiry key max duration
      (events.filter fun event => !event.isClear))
    (ordered : (events.filterMap LimiterEvent.time?).Pairwise (· ≥ ·)) :
    EnforcesWindow expiry key max duration events where
  window := windowedAll.window.bounded
  rejected := by
    intro later past now isDecided
    have window := windowedAll.window
    have sorted : ((decisions expiry key events).map (·.1)).Pairwise (· ≥ ·) :=
      sorted_decisions ordered
    rw [isDecided] at window sorted
    rw [List.map_append] at sorted
    exact window.suffix.rejected (List.pairwise_cons.mp (List.pairwise_append.mp sorted).2.1).1
  cleanup := by
    refine windowedAll.window.unique windowedRequests.window ?_
    rw [decisions_times, decisions_times, List.filterMap_filter]
    congr 1
    funext event
    cases event <;> simp [LimiterEvent.isClear, requestedAt]

/-- Every run keeps to its window, if the expiry that the first caller chose covers it. -/
theorem enforces_window (positive : 0 < max) (covers : expiry ≤ 0 ∨ duration ≤ seconds expiry + 1)
    (run : LimiterRun expiry key max duration) :
    EnforcesWindow expiry key max duration run.events := by
  refine (windowed positive covers run.ordered run.uses).enforces ?_ run.ordered
  refine windowed positive covers ?_ fun event inEvents => run.uses event
    (List.mem_filter.mp inEvents).1
  exact run.ordered.sublist (List.filter_sublist.filterMap _)

/-- The limit of one request in three minutes, newest event first. -/
def webEvents : List LimiterEvent :=
  [.request "GW192.0.2.1" 1 180 1500, .clear 1300, .request "GW192.0.2.1" 1 180 10,
    .request "GW192.0.2.1" 1 180 0]

theorem enforces_window_web : EnforcesWindow 1200000000000 "GW192.0.2.1" 1 180 webEvents :=
  enforces_window (by decide) (by decide) ⟨webEvents, by decide, by
    simp [webEvents, LimiterEvent.Uses]⟩

/-- One request an hour for each user, while the cleanup forgets after twenty minutes. -/
def hourlyEvents : List LimiterEvent :=
  [.request "MRRL7" 1 3600 1201, .clear 1201, .init 3600000000000, .request "MRRL7" 1 3600 0]

/-- A cleanup that forgets sooner than the window ends lets a second request through. -/
theorem hour_not_enforced :
    ¬∀ run : LimiterRun 1200000000000 "MRRL7" 1 3600,
      EnforcesWindow 1200000000000 "MRRL7" 1 3600 run.events := by
  intro enforces
  have window := (enforces ⟨hourlyEvents, by decide, by
    simp [hourlyEvents, LimiterEvent.Uses]⟩).window 0
  revert window
  decide

/-! ### Other keys -/

/-- What a request for a key answers and leaves there depends only on what the store holds there. -/
theorem request_congr {left right : InMemoryRateLimiter} (same : left.store key = right.store key)
    (maxRequestNum : ℕ) (duration now : ℤ) :
    let reply := left.request key maxRequestNum duration now
    let other := right.request key maxRequestNum duration now
    reply.1 = other.1 ∧ reply.2.store key = other.2.store key := by
  simp only [InMemoryRateLimiter.request, InMemoryRateLimiter.put, same]
  split
  · simp
  split
  · simp
  split
  · split
    · simp
    · exact ⟨rfl, same⟩
  · exact ⟨rfl, same⟩

def LimiterEvent.concerns (key : String) : LimiterEvent → Bool
  | request other _ _ _ => other = key
  | _ => true

/-- Requests for other keys leave no trace at a key, whatever their limits and times. -/
theorem decisions_isolated (expiry : ℤ) (key : String) (events : List LimiterEvent) :
    decisions expiry key (events.filter (·.concerns key)) = decisions expiry key events ∧
      (limiterAfter expiry (events.filter (·.concerns key))).store key =
        (limiterAfter expiry events).store key := by
  induction events with
  | nil => exact ⟨rfl, rfl⟩
  | cons event past ih =>
    cases event with
    | init _ => exact ih
    | clear now =>
      refine ⟨ih.1, ?_⟩
      rw [List.filter_cons_of_pos rfl]
      simp only [limiterAfter, LimiterEvent.apply, InMemoryRateLimiter.clearExpiredItems,
        limiterAfter_expirationDuration, ih.2]
    | request other maxRequestNum duration now =>
      by_cases isKey : other = key
      · subst isKey
        have replies := request_congr ih.2 maxRequestNum duration now
        rw [List.filter_cons_of_pos (by simp [LimiterEvent.concerns])]
        simp only [decisions, if_true, limiterAfter, LimiterEvent.apply]
        exact ⟨by rw [replies.1, ih.1], replies.2⟩
      · rw [List.filter_cons_of_neg (by simp [LimiterEvent.concerns, isKey])]
        simp only [decisions, isKey, if_false, limiterAfter, LimiterEvent.apply]
        rw [request_other _ isKey]
        exact ih

end Runs

end NewApi.Middleware
