import NewApi.Library.Transition
import NewApi.Middleware.RateLimit

/-!
# The fixed window of the Redis limiter

Times are in milliseconds.
-/

namespace NewApi.Middleware

open Transition

/-- The counter of a window and the time at which its key expires. -/
structure WindowCounter where
  count : ℕ
  expiresAt : Option ℤ

/-- Whether the request is allowed, its count and the seconds left, and the counter afterwards. -/
def redisFixedWindowScript (max duration : ℕ) (now : ℤ) (stored : Option WindowCounter) :
    (Bool × ℕ × ℤ) × WindowCounter :=
  let live := stored.filter fun counter => counter.expiresAt.all (now ≤ ·)
  let count := live.elim 0 (·.count) + 1
  let ends := now + 1000 * duration
  let expiresAt := if count = 1 then ends else (live.bind (·.expiresAt)).getD ends
  ((count ≤ max, count, (expiresAt - now + 500) / 1000), ⟨count, expiresAt⟩)

/-- The clock, the counter, and the decisions so far with their times. -/
structure WindowRun where
  now : ℤ
  counter : Option WindowCounter
  decided : List (ℤ × Bool)

namespace WindowRun

def next (max duration : ℕ) (run : WindowRun) (elapsed : ℕ) : WindowRun :=
  let now := run.now + elapsed
  let reply := redisFixedWindowScript max duration now run.counter
  ⟨now, reply.2, (now, reply.1.1) :: run.decided⟩

def admittedSince (start : ℤ) (run : WindowRun) : ℕ :=
  (admitted run.decided).countP (start ≤ ·)

/-- Of the requests admitted since `start`, the counter misses at most those of one window, and
then it outlasts `stop`. -/
def Covers (max : ℕ) (start stop : ℤ) (run : WindowRun) : Prop :=
  0 < run.admittedSince start → start ≤ run.now ∧ (run.now < stop →
    ∃ count ends, run.counter = some ⟨count, some ends⟩ ∧
      (run.admittedSince start ≤ min count max ∨
        stop ≤ ends ∧ run.admittedSince start ≤ max + min count max))

variable {start : ℤ}

/-- A request joins the live counter, or opens a window. -/
theorem script_cases (max duration : ℕ) (now : ℤ) (stored : Option WindowCounter) :
    ∃ count ends, (redisFixedWindowScript max duration now stored).2 = ⟨count + 1, some ends⟩ ∧
      (stored = some ⟨count, some ends⟩ ∨ ends = now + 1000 * duration ∧
        ∀ old last, stored = some ⟨old, some last⟩ → last < now ∨ old = 0) := by
  refine ⟨_, _, rfl, ?_⟩
  rcases stored with _ | ⟨count, _ | last⟩
  · simp
  · simp [Option.filter_some]
  · by_cases live : now ≤ last
    · cases count <;> simp [Option.filter_some, live]
    · simp [Option.filter_some, live, Int.not_le.mp live]

theorem admittedSince_next (max duration : ℕ) (run : WindowRun) (elapsed : ℕ) :
    ∃ hit, (run.next max duration elapsed).admittedSince start = run.admittedSince start + hit ∧
      hit ≤ 1 ∧ (0 < hit → start ≤ run.now + elapsed ∧
        (redisFixedWindowScript max duration (run.now + elapsed) run.counter).2.count ≤ max) := by
  cases allows : (redisFixedWindowScript max duration (run.now + elapsed) run.counter).1.1 with
  | false => exact ⟨0, by simp [admittedSince, admitted, next, allows]⟩
  | true =>
    by_cases since : start ≤ run.now + elapsed
    · refine ⟨1, ?_, Nat.le_refl _, fun _ => ⟨since, of_decide_eq_true allows⟩⟩
      simp [admittedSince, admitted, next, allows, since]
    · exact ⟨0, by simp [admittedSince, admitted, next, allows, since]⟩

theorem Covers.next {max duration : ℕ} {run : WindowRun}
    (covers : Covers max start (start + 1000 * duration) run) (elapsed : ℕ) :
    Covers max start (start + 1000 * duration) (run.next max duration elapsed) := by
  rcases admittedSince_next max duration run elapsed with ⟨hit, total, one, new⟩
  rcases script_cases max duration (run.now + elapsed) run.counter with
    ⟨count, ends, isNext, joins⟩
  simp only [isNext] at new
  intro some_
  rw [total] at some_ ⊢
  by_cases past : 0 < run.admittedSince start
  · rcases covers past with ⟨begun, covered⟩
    refine ⟨by change start ≤ run.now + elapsed; omega, fun within => ?_⟩
    change run.now + elapsed < _ at within
    refine ⟨_, _, congrArg some isNext, ?_⟩
    specialize covered (by omega)
    rcases covered with ⟨old, last, isOld, covered⟩
    rcases joins with joins | ⟨opens, gone⟩
    · cases isOld.symm.trans joins
      omega
    · specialize gone old last isOld
      omega
  · refine ⟨(new (by omega)).1, fun _ => ⟨_, _, congrArg some isNext, .inl ?_⟩⟩
    omega

theorem admittedSince_le {max duration : ℕ} {run : WindowRun}
    (covers : ∀ start, Covers max start (start + 1000 * duration) run) :
    run.admittedSince (run.now - 1000 * duration + 1) ≤ 2 * max := by
  rcases Nat.eq_zero_or_pos (run.admittedSince (run.now - 1000 * duration + 1)) with none_ | some_
  · omega
  · rcases (covers _ some_).2 (by omega) with ⟨_, _, _, covered⟩
    omega

/-- At any moment at most twice the limit were admitted in the duration before it. -/
theorem fixedWindow_burst (max duration : ℕ) (counter : Option WindowCounter) (now : ℤ)
    (elapsed : List ℕ) :
    let run := elapsed.foldl (WindowRun.next max duration) ⟨now, counter, []⟩
    run.admittedSince (run.now - 1000 * duration + 1) ≤ 2 * max :=
  admittedSince_le fun start => (Reachable.foldl (next max duration) elapsed _).invariant
    (Covers max start (start + 1000 * duration)) (fun _ elapsed _ covers => covers.next elapsed)
    (by simp [Covers, admittedSince, admitted])

end WindowRun

end NewApi.Middleware
