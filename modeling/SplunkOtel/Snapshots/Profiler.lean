import SplunkOtel.Js.Number
import SplunkOtel.Lib.OrderedMap
import SplunkOtel.Lib.Run
import Mathlib.Data.List.Dedup

/-!
# The snapshot profiler (`src/tracing/snapshots`)

`SnapshotProfiler` of `Snapshots.ts` and the `SnapshotSpanProcessor` that it owns, with the timers
and the awaited exports that the event loop holds for them. The native profiler is what
`startCpuProfiler`, `stop`, `collect` and the trace id filter of its handle make of it: the handle
is valid and the native calls succeed. Trace ids stand for their hashes.
-/

open Lib Lib.Run

namespace SplunkOtel.Snapshots

open Js

structure NativeProfiler where
  running : Bool := false
  samplingIntervalMs : Number
  sessionIntervalMs : Number
  traceIdFilter : List String := []

/-- A CPU profile as `stop` and `collect` hand it over: how many stack traces it has, and the
interval of the session that collected it. -/
structure CpuProfile where
  stacktraces : ℕ
  intervalMs : Number
deriving DecidableEq

namespace NativeProfiler

def addTraceIdFilter (n : NativeProfiler) (traceId : String) : NativeProfiler :=
  { n with traceIdFilter := n.traceIdFilter.insert traceId }

def removeTraceIdFilter (n : NativeProfiler) (traceId : String) : NativeProfiler :=
  { n with traceIdFilter := n.traceIdFilter.filter (· ≠ traceId) }

def getOrCreateCpuProfiler (n : NativeProfiler) (ms : Number) : NativeProfiler :=
  { n with samplingIntervalMs := ms }

/-- No-op if it is already running. -/
def startCpuProfiler (n : NativeProfiler) : NativeProfiler :=
  if n.running then n else { n with running := true, sessionIntervalMs := n.samplingIntervalMs }

/-- `stacktraces`: what V8 has for the profile, `none` when it has no profile. -/
def profile (n : NativeProfiler) (stacktraces : Option ℕ) : Option CpuProfile :=
  if n.running then stacktraces.map (⟨·, n.sessionIntervalMs⟩) else none

def stop (n : NativeProfiler) : NativeProfiler := { n with running := false }

end NativeProfiler

structure Export where
  profile : CpuProfile
  samplingPeriodMillis : Number
deriving DecidableEq

structure SnapshotProfiler where
  active : Bool
  activeSnapshots : ℕ := 0
  stopTimeout : Option ℕ := none
  /-- `exporter._callstackInterval`, once the exporter is there. -/
  exporter : Option Number := none
  samplingIntervalMs : Number
  /-- The map of the span processor from span id to trace id. -/
  snapshotSpans : OrderedMap String String := ∅
  native : NativeProfiler
  timers : List ℕ := []
  nextTimer : ℕ := 0
  /-- The linger callbacks that await their export. -/
  exporting : ℕ := 0
  exported : List Export := []

structure Span where
  spanId : String
  traceId : String

/-- What `onStart` reads of the parent context: whether the parent span is remote, `none` without
a parent, and the entry `splunk.trace.snapshot.volume` of the baggage, `none` without a baggage. -/
structure ParentContext where
  isRemote : Option Bool
  volume : Option (Option String)

namespace SnapshotProfiler

def new (samplingIntervalMs : Number) (active : Bool) : SnapshotProfiler where
  active
  samplingIntervalMs
  native := { samplingIntervalMs, sessionIntervalMs := samplingIntervalMs }

def exportProfile (p : SnapshotProfiler) (profile : Option CpuProfile) : SnapshotProfiler :=
  match profile, p.exporter with
  | some profile, some period =>
    if profile.stacktraces > 0 then
      { p with exported := p.exported ++ [⟨profile, period⟩] }
    else p
  | _, _ => p

/-- A fresh native start adopts the current interval for what the exporter reports. -/
def syncExporter (p : SnapshotProfiler) : SnapshotProfiler :=
  if p.activeSnapshots = 0 ∧ p.stopTimeout = none then
    { p with exporter := p.exporter.map fun _ => p.samplingIntervalMs }
  else p

def traceSnapshotBegin (p : SnapshotProfiler) (traceId : String) : SnapshotProfiler × Bool :=
  if ¬ p.active then (p, false)
  else
    let p := p.syncExporter
    ({ p with
        native := (p.native.addTraceIdFilter traceId).startCpuProfiler
        activeSnapshots := p.activeSnapshots + 1 }, true)

/-- `clearTimeout` and the reset of the handle. A timer that has fired is not armed. -/
def clearStopTimeout (p : SnapshotProfiler) : SnapshotProfiler :=
  match p.stopTimeout with
  | none => p
  | some t => { p with timers := p.timers.filter (· ≠ t), stopTimeout := none }

def armStopTimeout (p : SnapshotProfiler) : SnapshotProfiler :=
  { p with
    timers := p.nextTimer :: p.timers
    stopTimeout := some p.nextTimer
    nextTimer := p.nextTimer + 1 }

def traceSnapshotEnd (p : SnapshotProfiler) (traceId : String) : SnapshotProfiler :=
  let p := { p with activeSnapshots := p.activeSnapshots - 1 }
  let p := { p with native := p.native.removeTraceIdFilter traceId }
  let p := p.clearStopTimeout
  if p.activeSnapshots = 0 then p.armStopTimeout else p

/-- The callback of the linger timer, up to the `await` of its export. -/
def lingerFires (p : SnapshotProfiler) (t : ℕ) (stacktraces : Option ℕ) : SnapshotProfiler :=
  let profile := p.native.profile stacktraces
  let p := { p with timers := p.timers.filter (· ≠ t), native := p.native.stop }
  { p.exportProfile profile with exporting := p.exporting + 1 }

/-- The rest of a linger callback, once its export is done. -/
def lingerDone (p : SnapshotProfiler) : SnapshotProfiler :=
  { p with exporting := p.exporting - 1, stopTimeout := none }

/-- One turn of the collection loop. -/
def collectionLoop (p : SnapshotProfiler) (stacktraces : Option ℕ) : SnapshotProfiler :=
  if ¬ p.active then p else p.exportProfile (p.native.profile stacktraces)

/-- The callback of `setImmediate` in the constructor. -/
def createExporter (p : SnapshotProfiler) : SnapshotProfiler :=
  { p with exporter := some p.samplingIntervalMs }

/-- `clearActiveSnapshots` hands over the trace ids of the spans in flight, and each of them is
taken out of the native filter. -/
def clearActiveSnapshots (p : SnapshotProfiler) : SnapshotProfiler :=
  { p with
    snapshotSpans := ∅
    native := p.snapshotSpans.values.dedup.foldl NativeProfiler.removeTraceIdFilter p.native }

def setActive (p : SnapshotProfiler) (active : Bool) (stacktraces : Option ℕ) :
    SnapshotProfiler :=
  if p.active = active then p
  else
    let p := { p with active }
    if active then p
    else
      let p := p.clearStopTimeout
      let p := { p with activeSnapshots := 0 }
      let p := p.clearActiveSnapshots
      let profile := p.native.profile stacktraces
      { p with native := p.native.stop }.exportProfile profile

def setSamplingInterval (p : SnapshotProfiler) (ms : Number) : SnapshotProfiler :=
  if p.samplingIntervalMs.strictEq ms then p
  else { p with samplingIntervalMs := ms, native := p.native.getOrCreateCpuProfiler ms }

/-! ## The span processor -/

def shouldProcessContext (parent : ParentContext) : Bool :=
  parent.isRemote = none ∨ parent.isRemote = some true

/-- The span enters the service, and its trace was selected upstream. -/
def selected (parent : ParentContext) : Bool :=
  shouldProcessContext parent ∧ parent.volume = some (some "highest")

def onStart (p : SnapshotProfiler) (span : Span) (parent : ParentContext) : SnapshotProfiler :=
  if ¬ selected parent then p
  else
    let (p, began) := p.traceSnapshotBegin span.traceId
    if began then { p with snapshotSpans := p.snapshotSpans.set span.spanId span.traceId } else p

def onEnd (p : SnapshotProfiler) (spanId : String) : SnapshotProfiler :=
  match p.snapshotSpans.get? spanId with
  | none => p
  | some traceId =>
    let p := p.traceSnapshotEnd traceId
    { p with snapshotSpans := p.snapshotSpans.delete spanId }

/-! ## What each function touches -/

theorem exportProfile_eq (p : SnapshotProfiler) (profile : Option CpuProfile) :
    ∃ l, p.exportProfile profile = { p with exported := l } := by
  unfold exportProfile
  split
  · split
    · exact ⟨_, rfl⟩
    · exact ⟨p.exported, rfl⟩
  · exact ⟨p.exported, rfl⟩

theorem syncExporter_eq (p : SnapshotProfiler) :
    ∃ x, p.syncExporter = { p with exporter := x } := by
  unfold syncExporter
  split
  · exact ⟨_, rfl⟩
  · exact ⟨p.exporter, rfl⟩

theorem clearStopTimeout_eq (p : SnapshotProfiler) :
    p.clearStopTimeout =
      { p with timers := p.timers.filter (p.stopTimeout ≠ some ·), stopTimeout := none } := by
  unfold clearStopTimeout
  split <;> rename_i h
  · cases p
    simp_all
  · simp [h, eq_comm]

theorem removeTraceIdFilter_foldl (n : NativeProfiler) (traceIds : List String) :
    traceIds.foldl NativeProfiler.removeTraceIdFilter n =
      { n with traceIdFilter := n.traceIdFilter.filter (· ∉ traceIds) } := by
  induction traceIds generalizing n with
  | nil => simp
  | cons t ts ih =>
    rw [List.foldl_cons, ih]
    simp [NativeProfiler.removeTraceIdFilter, List.filter_filter, Bool.and_comm]

theorem clearActiveSnapshots_eq (p : SnapshotProfiler) :
    p.clearActiveSnapshots =
      { p with
        snapshotSpans := ∅
        native := { p.native with
          traceIdFilter := p.native.traceIdFilter.filter (· ∉ p.snapshotSpans.values) } } := by
  unfold clearActiveSnapshots
  rw [removeTraceIdFilter_foldl]
  simp only [List.mem_dedup]

theorem setActive_active (p : SnapshotProfiler) (active : Bool) (stacktraces : Option ℕ) :
    (p.setActive active stacktraces).active = active ∧
      (p.setActive active stacktraces).samplingIntervalMs = p.samplingIntervalMs := by
  unfold setActive
  split <;> rename_i hsame
  · exact ⟨hsame, rfl⟩
  cases active with
  | true => exact ⟨rfl, rfl⟩
  | false =>
    simp only [Bool.false_eq_true, ↓reduceIte, clearStopTimeout_eq, clearActiveSnapshots_eq]
    apply Exists.elim (exportProfile_eq _ _)
    intro l hl
    rw [hl]
    exact ⟨rfl, rfl⟩

theorem setSamplingInterval_interval (p : SnapshotProfiler) (ms : Number) :
    (p.setSamplingInterval ms).samplingIntervalMs = ms ∧
      (p.setSamplingInterval ms).active = p.active := by
  unfold setSamplingInterval
  split <;> rename_i hsame
  · simp only [Number.strictEq, decide_eq_true_eq] at hsame
    exact ⟨hsame.2, rfl⟩
  · exact ⟨rfl, rfl⟩

theorem startCpuProfiler_running (n : NativeProfiler) : n.startCpuProfiler.running = true := by
  unfold NativeProfiler.startCpuProfiler
  split
  · assumption
  · rfl

theorem startCpuProfiler_filter (n : NativeProfiler) :
    n.startCpuProfiler.traceIdFilter = n.traceIdFilter := by
  unfold NativeProfiler.startCpuProfiler
  split <;> rfl

/-- The interval and whether the profiler is active are as before. -/
def SameSettings (p q : SnapshotProfiler) : Prop :=
  q.active = p.active ∧ q.samplingIntervalMs = p.samplingIntervalMs

theorem exportProfile_settings (p : SnapshotProfiler) (profile : Option CpuProfile) :
    SameSettings p (p.exportProfile profile) := by
  obtain ⟨l, hl⟩ := exportProfile_eq p profile
  rw [hl]
  exact ⟨rfl, rfl⟩

theorem traceSnapshotBegin_settings (p : SnapshotProfiler) (traceId : String) :
    SameSettings p (p.traceSnapshotBegin traceId).1 := by
  obtain ⟨x, hx⟩ := syncExporter_eq p
  unfold traceSnapshotBegin
  split
  · exact ⟨rfl, rfl⟩
  · rw [hx]
    exact ⟨rfl, rfl⟩

theorem traceSnapshotEnd_settings (p : SnapshotProfiler) (traceId : String) :
    SameSettings p (p.traceSnapshotEnd traceId) := by
  unfold traceSnapshotEnd
  simp only [clearStopTimeout_eq]
  split
  · exact ⟨rfl, rfl⟩
  · exact ⟨rfl, rfl⟩

theorem onStart_settings (p : SnapshotProfiler) (span : Span) (parent : ParentContext) :
    SameSettings p (p.onStart span parent) := by
  have hbegin := traceSnapshotBegin_settings p span.traceId
  unfold onStart
  split
  · exact ⟨rfl, rfl⟩
  · simp only
    split
    · exact hbegin
    · exact hbegin

theorem onEnd_settings (p : SnapshotProfiler) (spanId : String) :
    SameSettings p (p.onEnd spanId) := by
  unfold onEnd
  split
  · exact ⟨rfl, rfl⟩
  · exact traceSnapshotEnd_settings p _

end SnapshotProfiler

/-! ## Runs -/

/-- Where the native profiler hands over a profile, the event says what V8 has for it. -/
inductive Event where
  | traceSnapshotBegin (traceId : String)
  | traceSnapshotEnd (traceId : String)
  | onStart (span : Span) (parent : ParentContext)
  | onEnd (spanId : String)
  | lingerFires (timer : ℕ) (stacktraces : Option ℕ)
  | lingerDone
  | setActive (active : Bool) (stacktraces : Option ℕ)
  | setSamplingInterval (ms : Number)
  | collectionLoop (stacktraces : Option ℕ)
  | createExporter

def step (p : SnapshotProfiler) : Event → Option SnapshotProfiler
  | .traceSnapshotBegin traceId => some (p.traceSnapshotBegin traceId).1
  | .traceSnapshotEnd traceId => some (p.traceSnapshotEnd traceId)
  | .onStart span parent => some (p.onStart span parent)
  | .onEnd spanId => some (p.onEnd spanId)
  | .lingerFires t stacktraces =>
    if t ∈ p.timers then some (p.lingerFires t stacktraces) else none
  | .lingerDone => if p.exporting > 0 then some p.lingerDone else none
  | .setActive active stacktraces => some (p.setActive active stacktraces)
  | .setSamplingInterval ms => some (p.setSamplingInterval ms)
  | .collectionLoop stacktraces => some (p.collectionLoop stacktraces)
  | .createExporter => if p.exporter = none then some p.createExporter else none

end SplunkOtel.Snapshots
