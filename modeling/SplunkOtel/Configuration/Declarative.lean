import SplunkOtel.OpAMP.EffectiveState
import SplunkOtel.OpAMP.ParseRemoteConfig

/-!
# The effective declarative config (`src/configuration.ts`)

The document that the agent reports under a loaded config file, before it is written as YAML. A
feature that it leaves out is off, and what a component recorded wins over what the file declares.
-/

namespace SplunkOtel.Configuration

open Js OpAMP

/-- What the document takes from the loaded file and from the environment. -/
structure Loaded where
  /-- `globalConfiguration` -/
  config : Value
  otelConfigFile : Option String := none
  otelExperimentalConfigFile : Option String := none
  /-- The projection of a signal pipeline, if that has an exporter to report. -/
  tracerProvider : Option Value := none
  meterProvider : Option Value := none
  loggerProvider : Option Value := none

def splunkConfig (config : Value) : Value := (config.property "distribution").property "splunk"

def featureRunning (configured : Bool) (runtime : Option Bool) : Bool :=
  runtime = some true ∨ (configured ∧ runtime ≠ some false)

/-- The properties of an object that are set only where there is a value. -/
def entry (name : String) (value : Option Value) : List (String × Value) :=
  value.toList.map fun value => (name, value)

def nonEmpty (properties : List (String × Value)) : Option Value :=
  if properties.isEmpty then none else some (.object properties)

/-- A feature with the interval that it runs with, else the declared one, else the default. -/
def sampledFeature (runtime : Option Number) (declared : Value) (default : Number) : Value :=
  .object [("sampling_interval",
    (Value.ofNumber runtime).orElse ((declared.property "sampling_interval").orElse (.number default)))]

def projectProfiling (config : Value) (state : EffectiveState) : Option Value :=
  let profiling := (splunkConfig config).property "profiling"
  let cpuProfiler := (profiling.property "always_on").property "cpu_profiler"
  let memoryProfiler := (profiling.property "always_on").property "memory_profiler"
  let callgraphs := profiling.property "callgraphs"
  let cpuRunning := featureRunning (¬ cpuProfiler.isUndefined) state.profilerEnabled
  let memoryRunning := featureRunning (¬ memoryProfiler.isUndefined) state.memoryProfilerEnabled
  let callgraphsRunning := featureRunning (¬ callgraphs.isUndefined) state.snapshotProfilerEnabled
  let alwaysOn :=
    entry "cpu_profiler"
      (if cpuRunning then some (sampledFeature state.callStackInterval cpuProfiler 1000) else none) ++
    -- The memory profiler only runs alongside the CPU profiler.
    entry "memory_profiler"
      (if memoryRunning ∧ cpuRunning then some (memoryProfiler.orElse (.object [])) else none)
  let profilingOut :=
    entry "always_on" (nonEmpty alwaysOn) ++
    entry "callgraphs"
      (if callgraphsRunning then some (sampledFeature state.snapshotSamplingInterval callgraphs 1)
        else none)
  (nonEmpty profilingOut).map fun profiling => .object [("splunk", .object [("profiling", profiling)])]

/-- A pipeline that a component recorded as disabled is left out. -/
def started (enabled : Option Bool) (provider : Option Value) : Option Value :=
  if enabled = some false then none else provider

/-- `getEffectiveDeclarativeConfig`, up to `stringifyYaml`. -/
def getEffectiveDeclarativeConfig (loaded : Loaded) (state : EffectiveState) : Value :=
  let path (value : Option String) : Value := (value.map Value.string).getD .null
  .object <|
    [("otel_config_file", path loaded.otelConfigFile),
      ("otel_experimental_config_file", path loaded.otelExperimentalConfigFile)] ++
    entry "tracer_provider" (started state.tracingEnabled loaded.tracerProvider) ++
    entry "meter_provider" (started state.metricsEnabled loaded.meterProvider) ++
    entry "logger_provider" (started state.loggingEnabled loaded.loggerProvider) ++
    entry "distribution" (projectProfiling loaded.config state)

/-! ## What a remote config with this document asks for -/

/-- The CPU profiler with its interval and memory flag and the callgraphs with their interval,
where they run. -/
def describe (cpu : Option (Number × Bool)) (callgraphs : Option Number) :
    RemoteProfilingConfig where
  cpuProfiler := { enabled := cpu.isSome, samplingInterval := cpu.map Prod.fst }
  memoryProfiler := { enabled := cpu.any Prod.snd }
  callgraphs := { enabled := callgraphs.isSome, samplingInterval := callgraphs }

/-- The components have recorded what runs. -/
structure Records (state : EffectiveState) (cpu : Option (Number × Bool))
    (callgraphs : Option Number) : Prop where
  cpuEnabled : state.profilerEnabled = some cpu.isSome
  cpuInterval : ∀ c ∈ cpu, state.callStackInterval = some c.1
  memoryEnabled : ∀ c ∈ cpu, state.memoryProfilerEnabled = some c.2
  callgraphsEnabled : state.snapshotProfilerEnabled = some callgraphs.isSome
  callgraphsInterval : ∀ ms ∈ callgraphs, state.snapshotSamplingInterval = some ms

theorem featureRunning_recorded (configured b : Bool) : featureRunning configured (some b) = b := by
  cases b <;> simp [featureRunning]

theorem property_entry (properties : List (String × Value)) (name : String)
    (value : Option Value) :
    (Value.object (properties ++ entry name value)).property name =
      value.getD ((Value.object properties).property name) := by
  unfold Value.property entry
  cases value <;> simp

theorem property_entry_ne (properties : List (String × Value)) {name other : String}
    (value : Option Value) (h : other ≠ name) :
    (Value.object (properties ++ entry other value)).property name =
      (Value.object properties).property name := by
  unfold Value.property entry
  cases value <;> simp [h]

theorem property_nonEmpty (properties : List (String × Value)) (name : String) :
    ((nonEmpty properties).getD .undefined).property name =
      (Value.object properties).property name := by
  unfold nonEmpty
  cases properties with
  | nil => rfl
  | cons property properties => rfl

theorem property_distribution (loaded : Loaded) (state : EffectiveState) :
    (getEffectiveDeclarativeConfig loaded state).property "distribution" =
      (projectProfiling loaded.config state).getD .undefined := by
  unfold getEffectiveDeclarativeConfig
  rw [property_entry, property_entry_ne _ _ (by decide), property_entry_ne _ _ (by decide),
    property_entry_ne _ _ (by decide)]
  rfl

theorem property_only_entry (name : String) (value : Option Value) :
    (Value.object (entry name value)).property name = value.getD .undefined :=
  property_entry [] name value

theorem property_only_entry_ne {name other : String} (value : Option Value) (h : other ≠ name) :
    (Value.object (entry other value)).property name = .undefined :=
  property_entry_ne [] value h

theorem property_profiling (properties : List (String × Value)) :
    (((((nonEmpty properties).map fun profiling =>
      Value.object [("splunk", .object [("profiling", profiling)])]).getD .undefined).property
        "splunk").property "profiling") = (nonEmpty properties).getD .undefined := by
  cases nonEmpty properties <;> rfl

theorem profilingFeatures_nonEmpty {parsed : Value} {properties : List (String × Value)}
    (h : ((parsed.property "distribution").property "splunk").property "profiling" =
      (nonEmpty properties).getD .undefined) :
    let alwaysOn := (Value.object properties).property "always_on"
    let cpuProfiler := alwaysOn.property "cpu_profiler"
    let callgraphs := (Value.object properties).property "callgraphs"
    profilingFeatures parsed =
      { cpuProfiler :=
          { enabled := ¬ cpuProfiler.isUndefined
            samplingInterval := (cpuProfiler.property "sampling_interval").asNumber }
        memoryProfiler := { enabled := ¬ (alwaysOn.property "memory_profiler").isUndefined }
        callgraphs :=
          { enabled := ¬ callgraphs.isUndefined
            samplingInterval := (callgraphs.property "sampling_interval").asNumber } } := by
  unfold profilingFeatures
  rw [h]
  cases properties with
  | nil => rfl
  | cons property properties => rfl

/-- **The document.** Read as a remote config, it asks for what the components recorded. -/
theorem profilingFeatures_reported (loaded : Loaded) {state : EffectiveState}
    {cpu : Option (Number × Bool)} {callgraphs : Option Number}
    (h : Records state cpu callgraphs) :
    profilingFeatures (getEffectiveDeclarativeConfig loaded state) = describe cpu callgraphs := by
  have hdistribution := property_distribution loaded state
  unfold projectProfiling at hdistribution
  simp only [h.cpuEnabled, h.callgraphsEnabled, featureRunning_recorded] at hdistribution
  rw [profilingFeatures_nonEmpty (by rw [hdistribution, property_profiling])]
  have hcpu : "memory_profiler" ≠ "cpu_profiler" := by decide
  have hmemory : "cpu_profiler" ≠ "memory_profiler" := by decide
  have hcallgraphs : "callgraphs" ≠ "always_on" := by decide
  have halways : "always_on" ≠ "callgraphs" := by decide
  simp only [property_entry, property_entry_ne _ _ hcpu, property_entry_ne _ _ hcallgraphs,
    property_only_entry, property_only_entry_ne _ hmemory, property_only_entry_ne _ halways,
    property_nonEmpty]
  congr 1
  · cases cpu with
    | none => rfl
    | some c =>
      simp only [h.cpuInterval c rfl]
      rfl
  · cases cpu with
    | none => simp [Value.isUndefined]
    | some c =>
      simp only [h.memoryEnabled c rfl, featureRunning_recorded]
      cases hm : c.2 with
      | false => simp [Value.isUndefined, hm]
      | true => simp [Value.orElse_isUndefined _ (.object []) rfl, hm]
  · cases callgraphs with
    | none => rfl
    | some ms =>
      simp only [h.callgraphsInterval ms rfl]
      rfl

end SplunkOtel.Configuration
