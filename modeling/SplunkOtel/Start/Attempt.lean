import SplunkOtel.Configuration.Fetch
import SplunkOtel.Lib.Effects
import SplunkOtel.Start.Process

/-!
# `start()` and the calls that may throw (`src/start.ts`, `src/tracing/index.ts`)

`start()` changes module state and calls out in turn, and nothing takes back what was done before a
call that throws. The calls go out to the file system, to the options and factories of the user, to
OpenTelemetry and to the native extensions.
-/

open Lib Lib.Effects

namespace SplunkOtel.Start.Attempt

open Js SplunkOtel.Configuration Controller
open StartProfiling (ProfilingOptions ensureProfilingContextManager)

/-! ## What is there -/

structure Running where
  metrics : Bool := false
  profilingController : Option ProfilingController := none
  tracing : Bool := false
  logging : Bool := false
  opamp : Bool := false
  secureapp : Bool := false
deriving DecidableEq

/-- The module state of `src/tracing/index.ts`, and what OpenTelemetry holds for it. -/
structure TracingState where
  isStarted : Bool := false
  tracingContextManagerEnabled : Bool := false
  globalPropagator : Bool := false
  /-- `unregisterInstrumentations` is there. -/
  registered : Bool := false
  loadedInstrumentations : List String := []
  globalTracerProvider : Bool := false
deriving DecidableEq

structure Globals where
  running : Running := {}
  modules : Modules := {}
  settings : Settings
  /-- `process.env.OTEL_TRACES_EXPORTER` -/
  tracesExporter : Option String := none
  tracing : TracingState := {}
  globalLoggerProvider : Bool := false
  globalMeterProvider : Bool := false
  debugMetrics : Bool := false
  /-- The interval that collects the runtime metrics. -/
  runtimeMetrics : Bool := false
  secureapp : Bool := false
  opampClient : Bool := false

structure SecureappOptions where
  dependencyScanInterval : Option Number := none
  initialDelaySeconds : Option Number := none
  runtimePackagesOnly : Option Bool := none
  noSelfReport : Option Bool := none

/-- A signal is `none` where its option is left out. An object counts as `true`. -/
structure Options where
  metrics : Option Bool := none
  profiling : Option Bool := none
  tracing : Option Bool := none
  logging : Option Bool := none
  opamp : Option Bool := none
  secureapp : Option Bool := none
  secureappOptions : SecureappOptions := {}

structure ParsedOptions where
  profilingOptions : ProfilingOptions
  debugMetricsEnabled : Bool := false
  runtimeMetricsEnabled : Bool := true
  /-- The instrumentations that have a `setMeterProvider`. -/
  instrumentations : List String := []

/-- The calls of which nothing counts but whether they throw. -/
inductive Call where
  | getDetectedResource
  | propagatorFactory
  | CompositePropagator
  | spanProcessorFactory
  | NodeTracerProvider
  | registerInstrumentations
  | setLoadedInstrumentations
  | logRecordProcessorFactory
  | LoggerProvider
  | SecureAppInstrumentation
  | metricReaderFactory
  | MeterProvider
  | enableDebugMetrics
  | createRuntimeGauges
  | startCounters
  | setMeterProvider (instrumentation : String)
  | OpAMPClient
deriving DecidableEq

/-- What one call of `start()` meets. -/
structure Surroundings where
  readFileSync : String → Except Thrown String
  loadConfiguration : String → Except Thrown Value
  /-- `parseOptionsAndConfigureInstrumentations(options)`. It builds and enables the
  instrumentations, of which the globals here say nothing. -/
  parseOptions : Except Thrown ParsedOptions
  /-- `loadExtension` finds the native extension. -/
  extension : Bool := true
  /-- The error that the native `start` throws for a reason of its own. -/
  startError : Option String := none
  getOrCreateCpuProfiler : Except Thrown ℤ := .ok 0
  /-- There is a class for `startSecureapp` to make an instance of. -/
  secureAppInstrumentation : Bool := true
  /-- The native metrics extension loads. -/
  countersExtension : Bool := true
  outcome : Call → Except Thrown Unit

/-! ## The code -/

abbrev Action := EStateM Thrown Globals

def parseEnvBooleanString (value : Option String) : Except Thrown (Option Bool) :=
  match value with
  | none => .ok none
  | some value =>
    let value := (trim value).toLower
    if value = "" ∨ value ∈ ["false", "no", "n", "0"] then .ok (some false)
    else if value ∈ ["true", "yes", "y", "1"] then .ok (some true)
    else .error ⟨"Error", "Invalid string representing boolean: " ++ value⟩

def isFeatureEnabled (settings : Settings) (option : Option Bool) (envVar : EnvVarKey)
    (default : Bool) : Except Thrown Bool :=
  match option with
  | some enabled => .ok enabled
  | none => do
    let value ← parseEnvBooleanString (settings.getNonEmptyConfigVar envVar)
    return value.getD default

def alreadyStarted (running : Running) : Bool :=
  running.logging ∨ running.metrics ∨ running.profilingController.isSome ∨ running.tracing

def recordEffectiveState (patch : EffectiveState) : Action Unit :=
  modify fun s => { s with modules := s.modules.recordEffectiveState patch }

section Code

variable (env : Surroundings)

def call (c : Call) : Action Unit := MonadExcept.ofExcept (env.outcome c)

/-- Whether the config file disables the distribution. -/
def loadConfigFile : Action Bool := do
  let s ← get
  match getEnvValueByPrecedence s.settings.env
      [.OTEL_CONFIG_FILE, .OTEL_EXPERIMENTAL_CONFIG_FILE] with
  | none => pure false
  | some configFilePath =>
    let content ← MonadExcept.ofExcept (env.readFileSync configFilePath)
    let configuration ← MonadExcept.ofExcept (env.loadConfiguration content)
    modify fun s =>
      { s with settings := { s.settings with globalConfiguration := some configuration } }
    let disabled ← MonadExcept.ofExcept (configuration.read "disabled")
    pure disabled.isTrue

def native (s : Globals) : Native where
  extension := env.extension
  tracingContextManager := s.tracing.tracingContextManagerEnabled
  startError := env.startError

/-- A new controller, with what `startInitial` makes of it. -/
def startController (s : Globals) (parsed : ParsedOptions) (enabled : Bool) :
    Controller.State × Option String :=
  let controller : Controller.State :=
    { controller := { baseOptions := parsed.profilingOptions }, modules := s.modules }
  controller.startInitial enabled (native env s)

def startInitial (parsed : ParsedOptions) (enabled : Bool) : Action ProfilingController := do
  let s ← get
  let started := startController env s parsed enabled
  modify ({ · with modules := started.1.modules })
  match started.2 with
  | none => pure started.1.controller
  | some e => throw ⟨"Error", e⟩

def startSnapshotProfiling (active : Bool) : Action Unit := do
  let s ← get
  let samplingIntervalMs ← MonadExcept.ofExcept (s.settings.getConfigNumber
    [.SPLUNK_SNAPSHOT_SAMPLING_INTERVAL, .SPLUNK_SNAPSHOT_PROFILER_SAMPLING_INTERVAL] 1)
  let _ ← MonadExcept.ofExcept
    (s.settings.getConfigNumber [.SPLUNK_CPU_PROFILER_COLLECTION_INTERVAL] 30000)
  -- The constructor sets the context manager before anything else.
  modify fun s => { s with modules := { s.modules with
    profiling := ensureProfilingContextManager s.modules.profiling } }
  let profilerHandle ← MonadExcept.ofExcept env.getOrCreateCpuProfiler
  modify fun s => { s with modules := { s.modules with
    snapshots := some ⟨.new samplingIntervalMs active, profilerHandle⟩ } }
  recordEffectiveState
    { snapshotProfilerEnabled := some (active ∧ 0 ≤ profilerHandle)
      snapshotSamplingInterval := some samplingIntervalMs }

def startTracing (instrumentations : List String) : Action Unit := do
  let s ← get
  if s.tracing.isStarted then throw ⟨"AssertionError", "Splunk APM already started"⟩
  else
    modify fun s => { s with tracing := { s.tracing with isStarted := true } }
    call env .propagatorFactory
    if s.modules.snapshots.isSome then
      let _ ← MonadExcept.ofExcept (s.settings.getConfigNumber
        [.SPLUNK_SNAPSHOT_SELECTION_PROBABILITY, .SPLUNK_SNAPSHOT_SELECTION_RATE]
        (.finite (1 / 100)))
      call env .CompositePropagator
    modify fun s => { s with tracing := { s.tracing with globalPropagator := true } }
    if ¬ s.modules.profiling.profilingContextManagerEnabled then
      modify fun s => { s with tracing := { s.tracing with tracingContextManagerEnabled := true } }
    modify fun s => { s with tracesExporter := s.tracesExporter.map fun _ => "" }
    call env .spanProcessorFactory
    call env .NodeTracerProvider
    -- Only here does the variable get its value back.
    modify ({ · with tracesExporter := s.tracesExporter })
    call env .registerInstrumentations
    modify fun s => { s with tracing :=
      { s.tracing with registered := true, loadedInstrumentations := [] } }
    call env .setLoadedInstrumentations
    modify fun s => { s with tracing :=
      { s.tracing with loadedInstrumentations := instrumentations, globalTracerProvider := true } }

def startLogging : Action Unit := do
  let s ← get
  call env .logRecordProcessorFactory
  let count ← MonadExcept.ofExcept (s.settings.getConfigNumber [.OTEL_ATTRIBUTE_COUNT_LIMIT] 128)
  let _ ← MonadExcept.ofExcept
    (s.settings.getConfigNumber [.OTEL_LOGRECORD_ATTRIBUTE_COUNT_LIMIT] count)
  let length ← MonadExcept.ofExcept
    (s.settings.getConfigNumber [.OTEL_ATTRIBUTE_VALUE_LENGTH_LIMIT] 12000)
  let _ ← MonadExcept.ofExcept
    (s.settings.getConfigNumber [.OTEL_LOGRECORD_ATTRIBUTE_VALUE_LENGTH_LIMIT] length)
  call env .LoggerProvider
  modify ({ · with globalLoggerProvider := true })

/-- `option ?? value` -/
def orElse {α : Type} (option : Option α) (value : Except Thrown α) : Except Thrown α :=
  match option with
  | some a => .ok a
  | none => value

/-- Whether there is a handle afterwards. -/
def startSecureapp (o : SecureappOptions) : Action Bool := do
  if env.secureAppInstrumentation then
    let s ← get
    let _ ← MonadExcept.ofExcept (orElse o.dependencyScanInterval
      (s.settings.getConfigNumber [.SPLUNK_SECUREAPP_DEPENDENCY_SCAN_INTERVAL] 86400000))
    let _ ← MonadExcept.ofExcept (orElse o.initialDelaySeconds
      (s.settings.getConfigNumber [.SPLUNK_SECUREAPP_DEPENDENCY_INITIAL_DELAY] 60))
    let _ ← MonadExcept.ofExcept (orElse o.runtimePackagesOnly
      (s.settings.getConfigBoolean .SPLUNK_SECUREAPP_RUNTIME_PACKAGES_ONLY true))
    let _ ← MonadExcept.ofExcept (orElse o.noSelfReport
      (s.settings.getConfigBoolean .SPLUNK_SECUREAPP_NO_SELF_REPORT false))
    call env .SecureAppInstrumentation
    modify ({ · with secureapp := true })
    pure true
  else pure false

def startMetrics (parsed : ParsedOptions) : Action Unit := do
  call env .metricReaderFactory
  call env .MeterProvider
  modify ({ · with globalMeterProvider := true })
  if parsed.debugMetricsEnabled then
    call env .enableDebugMetrics
    modify ({ · with debugMetrics := true })
  if parsed.runtimeMetricsEnabled then
    call env .createRuntimeGauges
    if env.countersExtension then
      call env .startCounters
      modify ({ · with runtimeMetrics := true })

/-! ## `start()` after the profiler -/

section Signals

variable (options : Options) (settings : Settings)

def snapshotsSwitch : Except Thrown Bool :=
  settings.getConfigBoolean .SPLUNK_SNAPSHOT_PROFILER_ENABLED false

def tracingSwitch : Except Thrown Bool :=
  isFeatureEnabled settings options.tracing .SPLUNK_TRACING_ENABLED true

def secureappSwitch : Except Thrown Bool :=
  isFeatureEnabled settings options.secureapp .SPLUNK_SECUREAPP_AGENT_ENABLED false

def loggingSwitch : Except Thrown Bool :=
  isFeatureEnabled settings options.logging .SPLUNK_AUTOMATIC_LOG_COLLECTION false

def metricsSwitch (metricsEnabledByDefault : Bool) : Except Thrown Bool :=
  isFeatureEnabled settings options.metrics .SPLUNK_METRICS_ENABLED metricsEnabledByDefault

end Signals

structure Features where
  opampEnabled : Bool
  remoteConfigEnabled : Bool
  profilerEnabled : Bool
deriving DecidableEq

/-- The switches that are read before the profiler starts. -/
def readFeatures (options : Options) (settings : Settings) : Except Thrown Features := do
  let opampEnabled ← isFeatureEnabled settings options.opamp .SPLUNK_OPAMP_ENABLED false
  let remoteConfigEnabled ← (if opampEnabled then
    settings.getConfigBoolean .SPLUNK_OPAMP_REMOTE_CONFIG false else .ok false)
  let profilerEnabled ← isFeatureEnabled settings options.profiling .SPLUNK_PROFILER_ENABLED false
  return { opampEnabled, remoteConfigEnabled, profilerEnabled }

def startSnapshots (features : Features) : Action Unit := do
  let s ← get
  let enabled ← MonadExcept.ofExcept (snapshotsSwitch s.settings)
  if enabled then startSnapshotProfiling env true
  else if features.remoteConfigEnabled then startSnapshotProfiling env false
  else recordEffectiveState { snapshotProfilerEnabled := some false }

def startTracingSignal (options : Options) (parsed : ParsedOptions) : Action Unit := do
  let s ← get
  let tracingEnabled ← MonadExcept.ofExcept (tracingSwitch options s.settings)
  recordEffectiveState { tracingEnabled := some tracingEnabled }
  if tracingEnabled then
    startTracing env parsed.instrumentations
    modify fun s => { s with running := { s.running with tracing := true } }

def startLoggingSignal (options : Options) (secureappEnabled : Bool) : Action Unit := do
  let s ← get
  let enabled ← MonadExcept.ofExcept (loggingSwitch options s.settings)
  recordEffectiveState { loggingEnabled := some (enabled ∨ secureappEnabled) }
  if enabled ∨ secureappEnabled then
    startLogging env
    modify fun s => { s with running := { s.running with logging := true } }

def startSecureappSignal (options : Options) (secureappEnabled : Bool) : Action Unit := do
  if secureappEnabled then
    let secureapp ← startSecureapp env options.secureappOptions
    modify fun s => { s with running := { s.running with secureapp } }

/-- The security agent collects through the logs. -/
def startLogs (options : Options) : Action Unit := do
  let s ← get
  let secureappEnabled ← MonadExcept.ofExcept (secureappSwitch options s.settings)
  startLoggingSignal env options secureappEnabled
  startSecureappSignal env options secureappEnabled

/-- The memory profiler reports through the metrics. -/
def metricsEnabledByDefault (parsed : ParsedOptions) (features : Features) : Bool :=
  features.remoteConfigEnabled ∨
    (features.profilerEnabled ∧ parsed.profilingOptions.memoryProfilingEnabled)

def startMetricsSignal (options : Options) (parsed : ParsedOptions) (features : Features) :
    Action Unit := do
  let s ← get
  let metricsEnabled ← MonadExcept.ofExcept
    (metricsSwitch options s.settings (metricsEnabledByDefault parsed features))
  recordEffectiveState { metricsEnabled := some metricsEnabled }
  if metricsEnabled then
    startMetrics env parsed
    modify fun s => { s with running := { s.running with metrics := true } }

def setMeterProviders : Action Unit := do
  let s ← get
  let _ ← MonadExcept.ofExcept
    (s.settings.getConfigBoolean .SPLUNK_INSTRUMENTATION_METRICS_ENABLED false)
  forM s.tracing.loadedInstrumentations fun instrumentation =>
    call env (.setMeterProvider instrumentation)

def startOpAMP (features : Features) : Action Unit := do
  if features.opampEnabled then
    call env .OpAMPClient
    modify fun s => { s with opampClient := true, running := { s.running with opamp := true } }

def finish (options : Options) (parsed : ParsedOptions) (features : Features) : Action Unit := do
  startMetricsSignal env options parsed features
  setMeterProviders env
  startOpAMP env features

/-- What `start()` does after the profiler. -/
def launch (options : Options) (parsed : ParsedOptions) (features : Features) : Action Unit := do
  startSnapshots env features
  startTracingSignal env options parsed
  startLogs env options
  finish env options parsed features

/-- `start()` from the profiler on. -/
def startComponents (options : Options) (parsed : ParsedOptions) (features : Features) :
    Action Unit := do
  let controller ← startInitial env parsed features.profilerEnabled
  modify fun s => { s with running := { s.running with profilingController := some controller } }
  launch env options parsed features

def start (options : Options) : Action Unit := do
  let s ← get
  if alreadyStarted s.running then throw ⟨"Error", "Splunk APM already started"⟩
  else
    let disabled ← loadConfigFile env
    if disabled then pure ()
    else
      call env .getDetectedResource
      let parsed ← MonadExcept.ofExcept env.parseOptions
      let s ← get
      let features ← MonadExcept.ofExcept (readFeatures options s.settings)
      startComponents env options parsed features

end Code

end SplunkOtel.Start.Attempt
