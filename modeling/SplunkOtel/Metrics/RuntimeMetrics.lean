import Mathlib.Algebra.Ring.Int.Defs
import Mathlib.Logic.Function.Basic
import SplunkOtel.Lib.Run
import SplunkOtel.Metrics.RuntimeCounters

/-!
# Runtime metrics (`src/metrics/index.ts`)

`startMetrics` with the native extension, among the callbacks of the event loop and of garbage
collections. `collect` makes objects, so a garbage collection can come between any two of the
numbers that it reads, and also before the counters are reset.
-/

open Lib

namespace SplunkOtel.Metrics

/-! ## What is collected -/

inductive Member where
  | min
  | max
  | average
  | sum
  | count
deriving DecidableEq

def members : List Member := [.min, .max, .average, .sum, .count]

def Counters.get (c : Counters) : Member → ℤ
  | .min => c.min
  | .max => c.max
  | .average => c.average
  | .sum => c.sum
  | .count => c.count

/-- A number of `NativeCounters`. -/
inductive Slot where
  | eventLoopLag (member : Member)
  | collected (type : GcType) (member : Member)
  | duration (type : GcType) (member : Member)
deriving DecidableEq

/-- In the order of `CollectCounters`. -/
def slots : List Slot :=
  members.map .eventLoopLag ++
    gcTypes.flatMap fun type => members.map (.collected type) ++ members.map (.duration type)

abbrev NativeCounters := Slot → ℤ

def RuntimeCounters.get (r : RuntimeCounters) : Slot → ℤ
  | .eventLoopLag member => r.eventLoop.get member
  | .collected type member => (r.gcCounters type).amount.get member
  | .duration type member => (r.gcCounters type).time.get member

/-! ## What is recorded -/

inductive GcMetric where
  | size
  | pause
  | count
deriving DecidableEq

/-- A call of `counter.add`. -/
structure Call where
  counter : GcMetric
  type : GcType
  value : ℤ
deriving DecidableEq

def recordGcSumMetric (counter : GcMetric) (counters : NativeCounters)
    (field : GcType → Member → Slot) : List Call :=
  gcTypes.map fun type => ⟨counter, type, counters (field type .sum)⟩

def recordGcCountMetric (counter : GcMetric) (counters : NativeCounters) : List Call :=
  gcTypes.map fun type => ⟨counter, type, counters (.collected type .count)⟩

/-- The three calls of a tick. -/
def recordGcMetrics (counters : NativeCounters) : List Call :=
  recordGcSumMetric .size counters .collected ++ recordGcSumMetric .pause counters .duration ++
    recordGcCountMetric .count counters

/-! ## The process -/

inductive Phase where
  | idle
  /-- In `collect`, which the interval or a start calls, with these numbers left to read. -/
  | collecting (tick : Bool) (left : List Slot)
  | resetting
  | recording

structure Process where
  native : RuntimeCounters
  /-- The event loop is between its prepare and check handles. -/
  polling : Bool
  phase : Phase
  /-- The object that `collect` makes. -/
  read : NativeCounters
  runtimeCounters : NativeCounters
  interval : Bool
  calls : List Call

def Process.init : Process where
  native := .init
  polling := false
  phase := .idle
  read := fun _ => 0
  runtimeCounters := fun _ => 0
  interval := false
  calls := []

inductive Event where
  | prepare (now : ℤ)
  | check (now idle : ℤ)
  | gcPrologue (now usedHeapSize : ℤ)
  | gcEpilogue (type : V8GcType) (now usedHeapSize : ℤ)
  | startMetrics (now : ℤ)
  | tick
  | readNext
  | assign
  | reset
  | record
  | stop

namespace Process

def isIdle (p : Process) : Bool :=
  match p.phase with
  | .idle => true
  | _ => false

/-- The callbacks run once the counters are started. -/
def callback (p : Process) (f : RuntimeCounters → RuntimeCounters) : Process :=
  if p.native.started then { p with native := f p.native } else p

def step (p : Process) : Event → Option Process
  | .prepare now =>
    if p.isIdle ∧ ¬ p.polling then
      some { p.callback (·.eventLoopPrepareCallback now) with polling := true }
    else none
  | .check now idle =>
    if p.isIdle ∧ p.polling then
      some { p.callback (·.eventLoopCheckCallback now idle) with polling := false }
    else none
  | .gcPrologue now usedHeapSize => some (p.callback (·.gcPrologue now usedHeapSize))
  | .gcEpilogue type now usedHeapSize => some (p.callback (·.gcEpilogue type now usedHeapSize))
  | .startMetrics now =>
    if p.isIdle ∧ ¬ p.interval then
      some { p with native := p.native.startCounters now, phase := .collecting false slots }
    else none
  | .tick =>
    if p.isIdle ∧ p.interval then some { p with phase := .collecting true slots } else none
  | .readNext =>
    match p.phase with
    | .collecting tick (slot :: left) =>
      some { p with
        read := Function.update p.read slot (p.native.get slot)
        phase := .collecting tick left }
    | _ => none
  | .assign =>
    match p.phase with
    | .collecting true [] => some { p with runtimeCounters := p.read, phase := .resetting }
    | .collecting false [] =>
      some { p with runtimeCounters := p.read, phase := .idle, interval := true }
    | _ => none
  | .reset =>
    match p.phase with
    | .resetting => some { p with native := p.native.resetCounters, phase := .recording }
    | _ => none
  | .record =>
    match p.phase with
    | .recording =>
      some { p with calls := p.calls ++ recordGcMetrics p.runtimeCounters, phase := .idle }
    | _ => none
  | .stop => if p.isIdle ∧ p.interval then some { p with interval := false } else none

/-- What an event can do. -/
inductive Step (p : Process) : Event → Process → Prop
  | prepare (now : ℤ) (hphase : p.phase = .idle) (hpolling : p.polling = false) :
    Step p (.prepare now) { p.callback (·.eventLoopPrepareCallback now) with polling := true }
  | check (now idle : ℤ) (hphase : p.phase = .idle) (hpolling : p.polling = true) :
    Step p (.check now idle) { p.callback (·.eventLoopCheckCallback now idle) with polling := false }
  | gcPrologue (now usedHeapSize : ℤ) :
    Step p (.gcPrologue now usedHeapSize) (p.callback (·.gcPrologue now usedHeapSize))
  | gcEpilogue (type : V8GcType) (now usedHeapSize : ℤ) :
    Step p (.gcEpilogue type now usedHeapSize) (p.callback (·.gcEpilogue type now usedHeapSize))
  | startMetrics (now : ℤ) (hphase : p.phase = .idle) :
    Step p (.startMetrics now)
      { p with native := p.native.startCounters now, phase := .collecting false slots }
  | tick (hphase : p.phase = .idle) : Step p .tick { p with phase := .collecting true slots }
  | readNext {tick : Bool} {slot : Slot} {left : List Slot}
    (hphase : p.phase = .collecting tick (slot :: left)) :
    Step p .readNext { p with
      read := Function.update p.read slot (p.native.get slot)
      phase := .collecting tick left }
  | collected (hphase : p.phase = .collecting true []) :
    Step p .assign { p with runtimeCounters := p.read, phase := .resetting }
  | started (hphase : p.phase = .collecting false []) :
    Step p .assign { p with runtimeCounters := p.read, phase := .idle, interval := true }
  | reset (hphase : p.phase = .resetting) :
    Step p .reset { p with native := p.native.resetCounters, phase := .recording }
  | record (hphase : p.phase = .recording) :
    Step p .record { p with calls := p.calls ++ recordGcMetrics p.runtimeCounters, phase := .idle }
  | stop (hphase : p.phase = .idle) : Step p .stop { p with interval := false }

variable {p q : Process} {e : Event}

theorem phase_of_isIdle (h : p.isIdle = true) : p.phase = .idle := by
  unfold isIdle at h
  split at h
  · assumption
  · cases h

theorem step_cases (h : p.step e = some q) : Step p e q := by
  cases e with
  | prepare now =>
    obtain ⟨hguard, heq⟩ := Option.ite_none_right_eq_some.mp h
    cases heq
    exact .prepare now (phase_of_isIdle hguard.1) (by simpa using hguard.2)
  | check now idle =>
    obtain ⟨hguard, heq⟩ := Option.ite_none_right_eq_some.mp h
    cases heq
    exact .check now idle (phase_of_isIdle hguard.1) hguard.2
  | gcPrologue now usedHeapSize =>
    cases h
    exact .gcPrologue now usedHeapSize
  | gcEpilogue type now usedHeapSize =>
    cases h
    exact .gcEpilogue type now usedHeapSize
  | startMetrics now =>
    obtain ⟨hguard, heq⟩ := Option.ite_none_right_eq_some.mp h
    cases heq
    exact .startMetrics now (phase_of_isIdle hguard.1)
  | tick =>
    obtain ⟨hguard, heq⟩ := Option.ite_none_right_eq_some.mp h
    cases heq
    exact .tick (phase_of_isIdle hguard.1)
  | readNext =>
    simp only [step] at h
    split at h
    · cases h
      exact .readNext ‹_›
    · cases h
  | assign =>
    simp only [step] at h
    split at h
    · cases h
      exact .collected ‹_›
    · cases h
      exact .started ‹_›
    · cases h
  | reset =>
    simp only [step] at h
    split at h
    · cases h
      exact .reset ‹_›
    · cases h
  | record =>
    simp only [step] at h
    split at h
    · cases h
      exact .record ‹_›
    · cases h
  | stop =>
    obtain ⟨hguard, heq⟩ := Option.ite_none_right_eq_some.mp h
    cases heq
    exact .stop (phase_of_isIdle hguard.1)

end Process

/-! ## Which garbage collections there were -/

/-- A garbage collection that ended. -/
structure Gc where
  type : V8GcType
  collected : ℤ
  duration : ℤ
deriving DecidableEq

def gcOf (p : Process) : Event → List Gc
  | .gcEpilogue type now usedHeapSize =>
    if p.native.started then
      [⟨type, p.native.heapUsedPreGc - usedHeapSize, now - p.native.startTime⟩]
    else []
  | _ => []

def Gc.isOfType (type : GcType) (gc : Gc) : Bool :=
  type = .all ∨ getGcStatsIndex gc.type = some type

def ofType (type : GcType) (gcs : List Gc) : List Gc := gcs.filter (Gc.isOfType type)

namespace GcMetric

def value : GcMetric → Gc → ℤ
  | .size, gc => gc.collected
  | .pause, gc => gc.duration
  | .count, _ => 1

/-- The number that is recorded for the metric. -/
def slot : GcMetric → GcType → Slot
  | .size, type => .collected type .sum
  | .pause, type => .duration type .sum
  | .count, type => .collected type .count

end GcMetric

/-- The sum of what a counter was given for a type. -/
def reported (calls : List Call) (counter : GcMetric) (type : GcType) : ℤ :=
  ((calls.filter fun c => decide (c.counter = counter) && decide (c.type = type)).map Call.value).sum

end SplunkOtel.Metrics
