import SplunkOtel.Lib.PromiseChain
import SplunkOtel.OpAMP.ParseRemoteConfig
import SplunkOtel.Profiling.StartProfiling
import SplunkOtel.Snapshots.Profiler

/-!
# The profiling controller (`src/profiling/ProfilingController.ts`)

`ProfilingController` with the module state that it works on: the profilers that `startProfiling`
has started, the registered snapshot profiler (`setSnapshotProfilingActive` of `Snapshots.ts`) and
the effective state. An `async` function runs up to its first `await` and goes on in a later turn,
and between two turns anything else can happen.
-/

open Lib Lib.Run

namespace SplunkOtel.Controller

open Js OpAMP StartProfiling Snapshots

/-- What the native side makes of one call or turn. -/
structure Native where
  /-- `loadExtension` finds the native extension. -/
  extension : Bool := true
  /-- Tracing owns the context manager already. -/
  tracingContextManager : Bool := false
  /-- The error that a native `start` throws for a reason of its own. -/
  startError : Option String := none
  /-- What V8 has for the profile of the snapshot profiler, if that is stopped. -/
  stacktraces : Option ℕ := none
deriving DecidableEq

structure Registered where
  profiler : SnapshotProfiler
  profilerHandle : ℤ

structure Modules where
  profiling : World := {}
  /-- `profiler` of `Snapshots.ts` -/
  snapshots : Option Registered := none

structure RunningProfiler where
  /-- The start whose `stop()` this is. -/
  stop : ℕ
  samplingInterval : Number
  memoryEnabled : Bool
deriving DecidableEq

inductive Task where
  | apply (config : RemoteProfilingConfig)
  | stopAll
deriving DecidableEq

/-- Where a task in progress is suspended. `restart` is the interval and the memory flag that
`_applyCpuMemory` starts the profiler with afterwards, `none` if it does not. -/
inductive Stage where
  /-- `_stopCpu` awaits the `stop()` of the profiler. -/
  | stopping (restart : Option (Number × Bool))
  /-- `_stopCpu` has returned. -/
  | stopped (restart : Option (Number × Bool))
  /-- `_applyCpuMemory` has returned, or thrown the error. -/
  | callgraphs (error : Option String)
deriving DecidableEq

abbrev QueuedTask : Type := Job Task Stage (Option String)

structure ProfilingController where
  baseOptions : ProfilingOptions
  running : Option RunningProfiler := none
  queue : PromiseChain Task Stage (Option String) := {}
  callgraphsActive : Bool := false
  callgraphsSamplingInterval : Option Number := none
deriving DecidableEq

structure State where
  controller : ProfilingController
  modules : Modules := {}

namespace Modules

def effectiveState (m : Modules) : EffectiveState := m.profiling.effectiveState

def recordEffectiveState (m : Modules) (patch : EffectiveState) : Modules :=
  { m with profiling := { m.profiling with
      effectiveState := SplunkOtel.recordEffectiveState m.profiling.effectiveState patch } }

def setSnapshotProfilingActive (m : Modules) (active : Bool) (samplingIntervalMs : Option Number)
    (stacktraces : Option ℕ) : Modules × Bool :=
  match m.snapshots with
  | none => (m, false)
  | some registered =>
    let (m, profiler) := match samplingIntervalMs.filter Number.positive with
      | none => (m, registered.profiler)
      | some ms =>
        (m.recordEffectiveState { snapshotSamplingInterval := some ms },
          registered.profiler.setSamplingInterval ms)
    -- Without a valid handle the profiler could collect nothing.
    let effective : Bool := active ∧ 0 ≤ registered.profilerHandle
    let profiler := profiler.setActive effective stacktraces
    let m := { m with snapshots := some { registered with profiler } }
    (m.recordEffectiveState { snapshotProfilerEnabled := some effective }, effective)

end Modules

/-- The interval of a feature, where it is valid. -/
def validInterval (feature : SampledFeature) : Option Number :=
  feature.samplingInterval.filter Number.positive

def disabled : EffectiveState where
  profilerEnabled := some false
  memoryProfilerEnabled := some false

def alreadyRunning : String := "CpuProfiler: profiler already running."

/-- The error of the native `start`, which is keyed by name. -/
def startFailure (s : State) (native : Native) : Option String :=
  native.startError <|> if s.modules.profiling.running then some alreadyRunning else none

namespace State

def setRunning (s : State) (running : Option RunningProfiler) : State :=
  { s with controller := { s.controller with running } }

def setProfiling (s : State) (profiling : World) : State :=
  { s with modules := { s.modules with profiling } }

def recordEffectiveState (s : State) (patch : EffectiveState) : State :=
  { s with modules := s.modules.recordEffectiveState patch }

def cpuOptions (base : ProfilingOptions) (samplingInterval : Number) (memoryEnabled : Bool) :
    ProfilingOptions :=
  { base with callstackInterval := samplingInterval, memoryProfilingEnabled := memoryEnabled }

/-- `_startCpu`: whether the profiler started, or the error that it threw. -/
def startCpu (s : State) (samplingInterval : Number) (memoryEnabled : Bool) (native : Native) :
    State × Except String Bool :=
  let options := cpuOptions s.controller.baseOptions samplingInterval memoryEnabled
  let failure := startFailure s native
  let (profiling, result) := startProfilingWith s.modules.profiling options native.extension
    native.tracingContextManager failure.isSome
  let s := s.setProfiling profiling
  match result with
  | .unavailable => (s, .ok false)
  | .threw => (s, .error (failure.getD ""))
  | .started id => (s.setRunning (some { stop := id, samplingInterval, memoryEnabled }), .ok true)

/-- The error is the one that the call throws. -/
def startInitial (s : State) (enabled : Bool) (native : Native) : State × Option String :=
  if enabled then
    let base := s.controller.baseOptions
    let (s, result) := s.startCpu base.callstackInterval base.memoryProfilingEnabled native
    match result with
    | .ok _ => (s, none)
    | .error e => (s, some e)
  else (s.recordEffectiveState disabled, none)

def submit (s : State) (task : Task) : State :=
  { s with controller := { s.controller with queue := s.controller.queue.submit task } }

def applyRemoteConfiguration (s : State) (config : RemoteProfilingConfig) : State :=
  s.submit (.apply config)

def stopAll (s : State) : State := s.submit .stopAll

/-- `_stopCpu` up to its `await` -/
def stopCpu (s : State) (restart : Option (Number × Bool)) : State × Stage :=
  match s.controller.running with
  | none => (s, .stopped restart)
  | some running =>
    let s := s.setRunning none
    match s.modules.profiling.starts[running.stop]? with
    | none => (s, .stopping restart)
    | some started => (s.setProfiling (stop s.modules.profiling started), .stopping restart)

/-- The rest of `_stopCpu`. An error of the `stop()` is caught, and makes no difference here. -/
def cpuStopped (s : State) (restart : Option (Number × Bool)) : State × Stage :=
  (s.recordEffectiveState disabled, .stopped restart)

def extensionUnavailable : String :=
  "cpu_profiler requested but the profiling extension is unavailable"

/-- What `_applyCpuMemory` throws after `_startCpu`. -/
def startFailed : Except String Bool → Option String
  | .ok true => none
  | .ok false => some extensionUnavailable
  | .error e => some e

/-- The end of `_applyCpuMemory` -/
def restartCpu (s : State) (samplingInterval : Number) (memoryEnabled : Bool) (native : Native) :
    State × Stage :=
  let (s, result) := s.startCpu samplingInterval memoryEnabled native
  (s, .callgraphs (startFailed result))

def memoryWithoutCpu : String :=
  "memory_profiler requires cpu_profiler to be enabled; ignoring memory_profiler"

/-- `_applyCpuMemory` up to its first `await` -/
def applyCpuMemory (s : State) (config : RemoteProfilingConfig) (native : Native) :
    State × Stage :=
  let memoryEnabled := config.memoryProfiler.enabled
  if ¬ config.cpuProfiler.enabled then
    if memoryEnabled then (s, .callgraphs (some memoryWithoutCpu))
    else s.stopCpu none
  else
    let samplingInterval :=
      (validInterval config.cpuProfiler).getD s.controller.baseOptions.callstackInterval
    match s.controller.running with
    | none => s.restartCpu samplingInterval memoryEnabled native
    | some running =>
      if running.samplingInterval.strictEq samplingInterval ∧
          running.memoryEnabled = memoryEnabled then (s, .callgraphs none)
      else s.stopCpu (some (samplingInterval, memoryEnabled))

def callgraphsInactive : String :=
  "callgraphs requested but snapshot profiling could not be activated"

/-- `_applyCallgraphs`: the error that it throws. -/
def applyCallgraphs (s : State) (config : RemoteProfilingConfig) (native : Native) :
    State × Option String :=
  let requested := config.callgraphs.enabled
  let samplingInterval := validInterval config.callgraphs
  let (modules, effective) :=
    s.modules.setSnapshotProfilingActive requested samplingInterval native.stacktraces
  let s := { s with modules }
  if requested ∧ ¬ effective then (s, some callgraphsInactive)
  else
    let intervalChanged := effective ∧ samplingInterval ≠ none ∧
      samplingInterval ≠ s.controller.callgraphsSamplingInterval
    ({ s with controller := { s.controller with
        callgraphsSamplingInterval :=
          if intervalChanged then samplingInterval else s.controller.callgraphsSamplingInterval
        callgraphsActive := effective } }, none)

/-- The errors of both parts, joined. -/
def joinErrors : Option String → Option String → Option String
  | some a, some b => some (a ++ "; " ++ b)
  | a, b => a <|> b

/-! ## The turns of a task -/

def begin (s : State) (native : Native) : Task → State × Stage
  | .apply config => s.applyCpuMemory config native
  | .stopAll => s.stopCpu none

def resume (s : State) (native : Native) :
    Task → Stage → State × Progress Stage (Option String)
  | _, .stopping restart =>
    let (s, stage) := s.cpuStopped restart
    (s, .running stage)
  | .apply _, .stopped (some (samplingInterval, memoryEnabled)) =>
    let (s, stage) := s.restartCpu samplingInterval memoryEnabled native
    (s, .running stage)
  | .apply _, .stopped none => (s, .running (.callgraphs none))
  | .apply config, .callgraphs error =>
    let (s, e) := s.applyCallgraphs config native
    (s, .settled (joinErrors error e))
  | .stopAll, .stopped _ => (s, .settled none)
  | .stopAll, .callgraphs _ => (s, .settled none)

def advance (s : State) (j : ℕ) (progress : Progress Stage (Option String)) : State :=
  { s with controller := { s.controller with queue := s.controller.queue.advance j progress } }

/-- The next turn of the task `j`. -/
def turn (s : State) (j : ℕ) (native : Native) : Option State :=
  match s.controller.queue.jobs[j]? with
  | none => none
  | some job =>
    match job.progress with
    | .settled _ => none
    | .queued =>
      if s.controller.queue.mayBegin job then
        let (s, stage) := s.begin native job.task
        some (s.advance j (.running stage))
      else none
    | .running stage =>
      let (s, progress) := s.resume native job.task stage
      some (s.advance j progress)

end State

/-! ## Runs -/

/-- A new controller, before anything has been recorded. -/
def fresh (baseOptions : ProfilingOptions) (snapshots : Option Registered) : State where
  controller := { baseOptions }
  modules := { snapshots }

/-- A trace or a timer of the snapshot profiler, not a call of `setActive` or
`setSamplingInterval`. -/
def OfTraces : Snapshots.Event → Bool
  | .setActive _ _ => false
  | .setSamplingInterval _ => false
  | _ => true

inductive Event where
  | startInitial (enabled : Bool) (native : Native)
  | applyRemoteConfiguration (config : RemoteProfilingConfig)
  | stopAll
  | turn (j : ℕ) (native : Native)
  /-- The `setImmediate` callback of a start. -/
  | deferred (id : ℕ)
  | snapshot (e : Snapshots.Event)

def snapshotStep (m : Modules) (e : Snapshots.Event) : Option Modules :=
  match m.snapshots with
  | none => none
  | some registered =>
    if 0 ≤ registered.profilerHandle ∧ OfTraces e then
      (Snapshots.step registered.profiler e).map fun profiler =>
        { m with snapshots := some { registered with profiler } }
    else none

def step (s : State) : Event → Option State
  | .startInitial enabled native => some (s.startInitial enabled native).1
  | .applyRemoteConfiguration config => some (s.applyRemoteConfiguration config)
  | .stopAll => some s.stopAll
  | .turn j native => s.turn j native
  | .deferred id => (StartProfiling.step s.modules.profiling (.deferred id)).map s.setProfiling
  | .snapshot e => (snapshotStep s.modules e).map fun modules => { s with modules }

end SplunkOtel.Controller
