import Mathlib.Data.Int.Order.Basic
import Mathlib.Data.List.Induction
import Mathlib.Order.MinMax

/-!
# Counters of the runtime (`src/native_ext/metrics.cpp`)

Times are of `uv_hrtime`, in nanoseconds. The callbacks are those for a Node.js that measures how
long the event loop is idle. Sums are meant to stay below 2 ^ 53, where doubles are exact.
-/

namespace SplunkOtel.Metrics

/-! ## Counters -/

structure Counters where
  min : ℤ
  max : ℤ
  sum : ℤ
  count : ℤ
deriving DecidableEq

namespace Counters

/-- Also what `Reset` leaves. -/
def zero : Counters := ⟨0, 0, 0, 0⟩

def add (c : Counters) (value : ℤ) : Counters where
  min := if c.count = 0 then value else Min.min value c.min
  max := if c.count = 0 then value else Max.max value c.max
  sum := c.sum + value
  count := c.count + 1

/-- Integers are divided towards zero. -/
def average (c : Counters) : ℤ := if c.count = 0 then 0 else c.sum.tdiv c.count

end Counters

/-! ## Garbage collection -/

inductive GcType where
  | all
  | scavenge
  | markSweepCompact
  | incrementalMarking
  | processWeakCallbacks
deriving DecidableEq

/-- In the order of `stats.gcCounters`. -/
def gcTypes : List GcType :=
  [.all, .scavenge, .markSweepCompact, .incrementalMarking, .processWeakCallbacks]

/-- The types of V8. -/
inductive V8GcType where
  | scavenge
  | minorMarkSweep
  | markSweepCompact
  | incrementalMarking
  | processWeakCallbacks
deriving DecidableEq

def getGcStatsIndex : V8GcType → Option GcType
  | .scavenge => some .scavenge
  | .minorMarkSweep => none
  | .markSweepCompact => some .markSweepCompact
  | .incrementalMarking => some .incrementalMarking
  | .processWeakCallbacks => some .processWeakCallbacks

structure GcCounters where
  time : Counters
  amount : Counters
deriving DecidableEq

def GcCounters.zero : GcCounters := ⟨.zero, .zero⟩

def GcCounters.add (c : GcCounters) (heapCleared duration : ℤ) : GcCounters :=
  ⟨c.time.add duration, c.amount.add heapCleared⟩

/-! ## The callbacks -/

/-- `state` and `stats`. -/
structure RuntimeCounters where
  started : Bool
  loopStartTime : ℤ
  loopEndTime : ℤ
  pollStepLag : ℤ
  pollIdle : ℤ
  startTime : ℤ
  heapUsedPreGc : ℤ
  eventLoop : Counters
  gcCounters : GcType → GcCounters

namespace RuntimeCounters

def init : RuntimeCounters where
  started := false
  loopStartTime := 0
  loopEndTime := 0
  pollStepLag := 0
  pollIdle := 0
  startTime := 0
  heapUsedPreGc := 0
  eventLoop := .zero
  gcCounters := fun _ => .zero

def startCounters (r : RuntimeCounters) (now : ℤ) : RuntimeCounters :=
  if r.started then r else { r with loopStartTime := now, started := true }

def loopTime (r : RuntimeCounters) (now : ℤ) : ℤ := now - r.loopStartTime + r.pollStepLag

def eventLoopPrepareCallback (r : RuntimeCounters) (now : ℤ) : RuntimeCounters :=
  { r with loopEndTime := now, eventLoop := r.eventLoop.add (r.loopTime now) }

def eventLoopCheckCallback (r : RuntimeCounters) (now idle : ℤ) : RuntimeCounters :=
  let pollStepDuration := now - r.loopEndTime
  { r with
    loopStartTime := now
    pollStepLag := pollStepDuration - (idle - r.pollIdle)
    pollIdle := idle }

def gcPrologue (r : RuntimeCounters) (now usedHeapSize : ℤ) : RuntimeCounters :=
  { r with startTime := now, heapUsedPreGc := usedHeapSize }

def gcEpilogue (r : RuntimeCounters) (type : V8GcType) (now usedHeapSize : ℤ) : RuntimeCounters :=
  let duration := now - r.startTime
  let heapCleared := r.heapUsedPreGc - usedHeapSize
  { r with
    heapUsedPreGc := 0
    gcCounters := fun t =>
      if t = .all ∨ getGcStatsIndex type = some t then (r.gcCounters t).add heapCleared duration
      else r.gcCounters t }

def resetCounters (r : RuntimeCounters) : RuntimeCounters :=
  { r with eventLoop := .zero, gcCounters := fun _ => .zero }

end RuntimeCounters

/-! ## The counters as a list of values -/

/-- The counters after these values. -/
def tally (values : List ℤ) : Counters := values.foldl Counters.add .zero

theorem tally_concat (values : List ℤ) (value : ℤ) :
    tally (values ++ [value]) = (tally values).add value := by
  rw [tally, List.foldl_append]
  rfl

@[simp] theorem tally_count (values : List ℤ) : (tally values).count = values.length := by
  induction values using List.reverseRecOn with
  | nil => rfl
  | append_singleton values value ih =>
    rw [tally_concat, Counters.add, ih]
    simp

theorem tally_count_eq_zero {values : List ℤ} : (tally values).count = 0 ↔ values = [] := by
  rw [tally_count, Int.natCast_eq_zero, List.length_eq_zero_iff]

theorem tally_bounds {values : List ℤ} (h : values ≠ []) :
    ((tally values).min ∈ values ∧ ∀ v ∈ values, (tally values).min ≤ v) ∧
      (tally values).max ∈ values ∧ ∀ v ∈ values, v ≤ (tally values).max := by
  induction values using List.reverseRecOn with
  | nil => exact absurd rfl h
  | append_singleton values value ih =>
    rw [tally_concat]
    unfold Counters.add
    simp only [tally_count_eq_zero]
    by_cases hne : values = []
    · subst hne
      simp
    · obtain ⟨⟨hmin, hmin'⟩, hmax, hmax'⟩ := ih hne
      simp only [if_neg hne, List.mem_append, List.mem_singleton]
      refine ⟨⟨?_, fun v hv => ?_⟩, ?_, fun v hv => ?_⟩
      · rcases min_choice value (tally values).min with heq | heq
        · exact Or.inr heq
        · rw [heq]
          exact Or.inl hmin
      · rcases hv with hv | rfl
        · exact (min_le_right _ _).trans (hmin' v hv)
        · exact min_le_left _ _
      · rcases max_choice value (tally values).max with heq | heq
        · exact Or.inr heq
        · rw [heq]
          exact Or.inl hmax
      · rcases hv with hv | rfl
        · exact (hmax' v hv).trans (le_max_right _ _)
        · exact le_max_left _ _

end SplunkOtel.Metrics
