import SplunkOtel.Profiling.Controller

/-!
# Starting and stopping the distribution (`src/start.ts`)

`start()` and `stop()`, as far as they touch the effective state. `stop()` resets it at once, while
the profiling controller of the stopped run still has its queue to work off. Tracing, metrics and
logging record what they started with inside `start()` and nothing later, and a stopped OpAMP client
drops the remote configs that reach it.
-/

open Lib Lib.Run

namespace SplunkOtel.Start

open Js OpAMP Controller
open StartProfiling (ProfilingOptions)

/-- A signal pipeline: what its exporter factory records as the endpoint, if it records one. -/
structure Pipeline where
  endpoint : Option (Option String)
deriving DecidableEq

/-- The options of `start()`, resolved against the environment. -/
structure Options where
  profilingOptions : ProfilingOptions
  profilerEnabled : Bool := false
  snapshotProfilerEnabled : Bool := false
  snapshotSamplingInterval : Number := 1
  /-- What `getOrCreateCpuProfiler` gives for the snapshot profiler. -/
  profilerHandle : ℤ := 0
  tracing : Option Pipeline := none
  logging : Option Pipeline := none
  metrics : Option Pipeline := none
  opampEnabled : Bool := false
  remoteConfig : Bool := false
deriving DecidableEq

def Options.remoteConfigEnabled (o : Options) : Bool := o.opampEnabled ∧ o.remoteConfig

/-- What one successful `start()` holds on to. -/
structure Run where
  controller : ProfilingController
  remoteConfigEnabled : Bool
  /-- The OpAMP client of the run is stopped. -/
  stopping : Bool := false

structure Process where
  modules : Modules := {}
  /-- The runs so far, the oldest first. -/
  runs : List Run := []
  /-- The run that `running` holds. -/
  current : Option ℕ := none
  /-- `stop()` was called, and `start()` not since. -/
  stopped : Bool := false
  /-- What stopped runs have recorded since the last reset, in an effective state of its own. -/
  stale : EffectiveState := {}

def startSnapshotProfiling (m : Modules) (o : Options) (active : Bool) : Modules :=
  let registered := ⟨.new o.snapshotSamplingInterval active, o.profilerHandle⟩
  let m := { m with snapshots := some registered }
  m.recordEffectiveState
    { snapshotProfilerEnabled := some (active ∧ 0 ≤ o.profilerHandle)
      snapshotSamplingInterval := some o.snapshotSamplingInterval }

def startSnapshots (m : Modules) (o : Options) : Modules :=
  if o.snapshotProfilerEnabled then startSnapshotProfiling m o true
  else if o.remoteConfigEnabled then startSnapshotProfiling m o false
  else m.recordEffectiveState { snapshotProfilerEnabled := some false }

def startSignals (m : Modules) (o : Options) : Modules :=
  let m := m.recordEffectiveState
    { tracingEnabled := some o.tracing.isSome, tracesEndpoint := o.tracing.bind (·.endpoint) }
  let m := m.recordEffectiveState
    { loggingEnabled := some o.logging.isSome, logsEndpoint := o.logging.bind (·.endpoint) }
  m.recordEffectiveState
    { metricsEnabled := some o.metrics.isSome, metricsEndpoint := o.metrics.bind (·.endpoint) }

/-- What the snapshot profiler and the signals leave alone. -/
structure CpuKept (m m' : Modules) : Prop where
  running : m'.profiling.running = m.profiling.running
  starts : m'.profiling.starts = m.profiling.starts
  profilerEnabled : m'.effectiveState.profilerEnabled = m.effectiveState.profilerEnabled
  memoryProfilerEnabled :
    m'.effectiveState.memoryProfilerEnabled = m.effectiveState.memoryProfilerEnabled
  callStackInterval : m'.effectiveState.callStackInterval = m.effectiveState.callStackInterval

theorem startSignals_kept (m : Modules) (o : Options) :
    CpuKept m (startSignals (startSnapshots m o) o) := by
  unfold startSnapshots
  split
  · exact ⟨rfl, rfl, rfl, rfl, rfl⟩
  · split
    · exact ⟨rfl, rfl, rfl, rfl, rfl⟩
    · exact ⟨rfl, rfl, rfl, rfl, rfl⟩

/-- `start()` throws if something is running, or if the profiler throws as it starts. -/
def start (p : Process) (o : Options) (native : Native) : Process :=
  if p.current.isSome then p
  else
    let s : State := { controller := { baseOptions := o.profilingOptions }, modules := p.modules }
    let (s, error) := s.startInitial o.profilerEnabled native
    match error with
    | some _ => { p with modules := s.modules, stopped := false }
    | none =>
      { p with
        modules := startSignals (startSnapshots s.modules o) o
        runs := p.runs ++
          [{ controller := s.controller, remoteConfigEnabled := o.remoteConfigEnabled }]
        current := some p.runs.length
        stopped := false }

def Run.stop (run : Run) : Run where
  controller := { run.controller with queue := run.controller.queue.submit .stopAll }
  remoteConfigEnabled := run.remoteConfigEnabled
  stopping := true

/-- `resetEffectiveState()`, with the registration that `stopSnapshotProfiling` drops. -/
def reset (m : Modules) : Modules where
  profiling := { m.profiling with effectiveState := {} }
  snapshots := none

def stop (p : Process) : Process where
  modules := reset p.modules
  runs := match p.current with
    | none => p.runs
    | some r => p.runs.modify r Run.stop
  current := none
  stopped := true
  stale := {}

/-- A remote config reaches the OpAMP client of a run. -/
def Run.receive (run : Run) (config : RemoteProfilingConfig) : Run :=
  if run.remoteConfigEnabled ∧ ¬ run.stopping then
    { run with controller := { run.controller with
        queue := run.controller.queue.submit (.apply config) } }
  else run

def withEffectiveState (m : Modules) (effectiveState : EffectiveState) : Modules :=
  { m with profiling := { m.profiling with effectiveState } }

/-- The turn of a task of the run `r`. That of a stopped run is taken over `stale` as well. -/
def turn (p : Process) (r j : ℕ) (native : Native) : Option Process :=
  match p.runs[r]? with
  | none => none
  | some run =>
    (State.turn { controller := run.controller, modules := p.modules } j native).map fun s =>
      { p with
        modules := s.modules
        runs := p.runs.set r { run with controller := s.controller }
        stale := if p.current = some r then p.stale else
          match State.turn { controller := run.controller
                             modules := withEffectiveState p.modules p.stale } j native with
          | none => p.stale
          | some s => s.modules.effectiveState }

inductive Event where
  | start (o : Options) (native : Native)
  | stop
  | remoteConfig (r : ℕ) (config : RemoteProfilingConfig)
  | turn (r j : ℕ) (native : Native)
  /-- The `setImmediate` callback of a start of the profiler. -/
  | deferred (id : ℕ)
  | snapshot (e : Snapshots.Event)

def step (p : Process) : Event → Option Process
  | .start o native => some (start p o native)
  | .stop => some (stop p)
  | .remoteConfig r config => some { p with runs := p.runs.modify r (·.receive config) }
  | .turn r j native => turn p r j native
  | .deferred id => (StartProfiling.step p.modules.profiling (.deferred id)).map fun profiling =>
    { p with modules := { p.modules with profiling } }
  | .snapshot e => (snapshotStep p.modules e).map fun modules => { p with modules }

end SplunkOtel.Start
