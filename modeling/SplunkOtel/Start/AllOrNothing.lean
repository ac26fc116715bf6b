import SplunkOtel.Profiling.Turns
import SplunkOtel.Start.Launch

/-!
# Whether a failed `start()` leaves anything behind
-/

open Lib Lib.Effects

namespace SplunkOtel.Start.Attempt

open Js SplunkOtel.Configuration Controller

/-- Nothing runs that did not run before, and nothing is recorded as running that was not. The
effective state and the configuration do not run. -/
structure Unchanged (before after : Globals) : Prop where
  running : after.running = before.running
  modules : withEffectiveState after.modules {} = withEffectiveState before.modules {}
  tracing : after.tracing = before.tracing
  tracesExporter : after.tracesExporter = before.tracesExporter
  globalLoggerProvider : after.globalLoggerProvider = before.globalLoggerProvider
  globalMeterProvider : after.globalMeterProvider = before.globalMeterProvider
  debugMetrics : after.debugMetrics = before.debugMetrics
  runtimeMetrics : after.runtimeMetrics = before.runtimeMetrics
  secureapp : after.secureapp = before.secureapp
  opampClient : after.opampClient = before.opampClient
  /-- A start after it is refused only if it would have been before. -/
  retry : alreadyStarted after.running = alreadyStarted before.running

section Rule

variable (env : Surroundings) (options : Options) (p : Globals)

/-- If `start()` throws, then it is as if it had not been called. -/
def AllOrNothing : Prop :=
  Ends (start env options) p (fun _ _ => True) fun _ after => Unchanged p after

/-- The settings with the config file, and whether the file disables the distribution. -/
def Configures (settings settings' : Settings) (disabled : Bool) : Prop :=
  match getEnvValueByPrecedence settings.env
      [.OTEL_CONFIG_FILE, .OTEL_EXPERIMENTAL_CONFIG_FILE] with
  | none => settings' = settings ∧ disabled = false
  | some configFilePath => ∃ content configuration value,
    env.readFileSync configFilePath = .ok content ∧
      env.loadConfiguration content = .ok configuration ∧
      configuration.read "disabled" = .ok value ∧ disabled = value.isTrue ∧
      settings' = { settings with globalConfiguration := some configuration }

/-- `start()` gets as far as to start the profiler. -/
structure ReachesProfiler (settings : Settings) (parsed : ParsedOptions) (features : Features) :
    Prop where
  idle : alreadyStarted p.running = false
  configures : Configures env p.settings settings false
  resource : env.outcome .getDetectedResource = .ok ()
  parses : env.parseOptions = .ok parsed
  features : readFeatures options settings = .ok features

def profilerThrows (profilerEnabled : Bool) : Bool :=
  profilerEnabled ∧ env.extension ∧ (env.startError.isSome ∨ p.modules.profiling.running)

def contextManagerSet : Bool :=
  p.tracing.tracingContextManagerEnabled ∨ p.modules.profiling.profilingContextManagerEnabled

end Rule

section Start

variable {env : Surroundings} {options : Options} {p : Globals}

theorem unchanged_settings (settings : Settings) : Unchanged p { p with settings } :=
  ⟨rfl, rfl, rfl, rfl, rfl, rfl, rfl, rfl, rfl, rfl, rfl⟩

theorem ends_loadConfigFile {Q : Bool → Globals → Prop} {E : Thrown → Globals → Prop}
    (hE : ∀ e settings, E e { p with settings }) :
    Ends (loadConfigFile env) p Q E ↔
      ∀ settings disabled, Configures env p.settings settings disabled →
        Q disabled { p with settings } := by
  simp only [loadConfigFile, ends_bind, ends_get]
  unfold Configures
  cases hpath : getEnvValueByPrecedence p.settings.env
      [.OTEL_CONFIG_FILE, .OTEL_EXPERIMENTAL_CONFIG_FILE] with
  | none => simp
  | some configFilePath =>
    simp only [ends_bind, ends_ofExcept, ends_modify, ends_pure]
    constructor
    · rintro ⟨h, -⟩ settings disabled hconfigures
      obtain ⟨content, configuration, value, hread, hload, hvalue, rfl, rfl⟩ := hconfigures
      exact ((h content hread).1 configuration hload).1 value hvalue
    · intro h
      refine ⟨fun content hread => ⟨fun configuration hload => ⟨?_, ?_⟩, ?_⟩, ?_⟩
      · intro value hvalue
        exact h _ _ ⟨content, configuration, value, hread, hload, hvalue, rfl, rfl⟩
      · exact fun e _ => hE e _
      · exact fun e _ => hE e _
      · exact fun e _ => hE e _

theorem ends_startInitial (parsed : ParsedOptions) (enabled : Bool)
    (Q : ProfilingController → Globals → Prop) (E : Thrown → Globals → Prop) :
    Ends (startInitial env parsed enabled) p Q E ↔
      match (startController env p parsed enabled).2 with
      | none => Q (startController env p parsed enabled).1.controller
          { p with modules := (startController env p parsed enabled).1.modules }
      | some e => E ⟨"Error", e⟩
          { p with modules := (startController env p parsed enabled).1.modules } := by
  simp only [startInitial, ends_bind, ends_get, ends_modify]
  cases (startController env p parsed enabled).2 with
  | none => exact Iff.rfl
  | some e => exact Iff.rfl

theorem profilerThrows_eq (parsed : ParsedOptions) (enabled : Bool) :
    profilerThrows env p enabled = (startController env p parsed enabled).2.isSome := by
  unfold startController profilerThrows
  rw [State.startInitial_error]
  unfold startFailure native
  cases enabled with
  | false => simp
  | true =>
    cases env.extension with
    | false => simp
    | true =>
      cases env.startError with
      | some e => simp
      | none => cases p.modules.profiling.running with
        | false => simp
        | true => simp

theorem unchanged_threw_iff {parsed : ParsedOptions} {enabled : Bool} {e : String}
    (settings : Settings) (h : (startController env p parsed enabled).2 = some e) :
    Unchanged p { p with
        settings, modules := (startController env p parsed enabled).1.modules } ↔
      contextManagerSet p = true := by
  obtain ⟨effectiveState, hprofiling⟩ := State.startInitial_threw h
  have hsnapshots := State.startInitial_snapshots
    { controller := { baseOptions := parsed.profilingOptions }, modules := p.modules } enabled
    (native env p)
  have hmodules : withEffectiveState (startController env p parsed enabled).1.modules {} =
      { withEffectiveState p.modules {} with profiling :=
        { (withEffectiveState p.modules {}).profiling with
          profilingContextManagerEnabled := ¬ p.tracing.tracingContextManagerEnabled ∨
            p.modules.profiling.profilingContextManagerEnabled } } := by
    unfold withEffectiveState startController
    rw [hprofiling, hsnapshots]
    rfl
  have hset : decide (¬ p.tracing.tracingContextManagerEnabled = true ∨
        p.modules.profiling.profilingContextManagerEnabled = true) =
      p.modules.profiling.profilingContextManagerEnabled ↔ contextManagerSet p = true := by
    unfold contextManagerSet
    cases p.tracing.tracingContextManagerEnabled with
    | true => simp
    | false =>
      cases p.modules.profiling.profilingContextManagerEnabled with
      | true => simp
      | false => simp
  constructor
  · intro hunchanged
    have hkept := hunchanged.modules
    rw [hmodules] at hkept
    exact hset.mp (congrArg (·.profiling.profilingContextManagerEnabled) hkept)
  · intro hmanager
    refine ⟨rfl, ?_, rfl, rfl, rfl, rfl, rfl, rfl, rfl, rfl, rfl⟩
    rw [hmodules, hset.mpr hmanager]
    rfl

theorem ends_startComponents (hidle : alreadyStarted p.running = false) (settings : Settings)
    (parsed : ParsedOptions) (features : Features) :
    Ends (startComponents env options parsed features) { p with settings } (fun _ _ => True)
        (fun _ after => Unchanged p after) ↔
      if profilerThrows env p features.profilerEnabled then contextManagerSet p = true
        else Launches env options parsed features settings p.tracing
          p.modules.snapshots.isSome := by
  have hcontroller : p.running.profilingController = none := by
    simp [alreadyStarted] at hidle
    exact hidle.2.2.1
  have hstarted : startController env { p with settings } parsed features.profilerEnabled =
      startController env p parsed features.profilerEnabled := rfl
  rw [profilerThrows_eq parsed]
  simp only [startComponents, ends_bind, ends_startInitial, ends_modify, hstarted]
  cases hresult : (startController env p parsed features.profilerEnabled).2 with
  | some e =>
    simp only [Option.isSome_some, if_true]
    exact unchanged_threw_iff settings hresult
  | none =>
    simp only [Option.isSome_none, Bool.false_eq_true, if_false]
    have hsnapshots : (startController env p parsed features.profilerEnabled).1.modules.snapshots =
        p.modules.snapshots := State.startInitial_snapshots _ _ _
    rw [ends_iff_returns, returns_launch, hsnapshots]
    refine (launch_kept options parsed features (Kept.refl _)).mono (fun _ _ _ => trivial) ?_
    intro _ after hkept hunchanged
    have hrecorded := hkept.profilingController
    rw [hunchanged.running, hcontroller] at hrecorded
    cases hrecorded

/-- **All or nothing.** A `start()` that throws leaves nothing behind exactly when it throws before
the profiler, or the profiler throws and a context manager is set already. -/
theorem all_or_nothing_iff :
    AllOrNothing env options p ↔
      ∀ settings parsed features, ReachesProfiler env options p settings parsed features →
        if profilerThrows env p features.profilerEnabled then contextManagerSet p = true
        else Launches env options parsed features settings p.tracing
          p.modules.snapshots.isSome := by
  unfold AllOrNothing start
  simp only [ends_bind, ends_get, ends_ite, ends_throw]
  split_ifs with hstarted
  · refine iff_of_true (unchanged_settings p.settings) fun settings parsed features h => ?_
    exact absurd h.idle (by simp [hstarted])
  · rw [Bool.not_eq_true] at hstarted
    rw [ends_loadConfigFile fun _ settings => unchanged_settings settings]
    constructor
    · intro h settings parsed features hreach
      have hrest := h settings false hreach.configures
      simp only [Bool.false_eq_true, if_false, ends_call, ends_ofExcept] at hrest
      rw [← ends_startComponents hstarted]
      exact ((hrest.1 _ hreach.resource).1 _ hreach.parses).1 _ hreach.features
    · intro h settings disabled hconfigures
      cases disabled with
      | true => trivial
      | false =>
        simp only [Bool.false_eq_true, if_false, ends_call, ends_ofExcept]
        refine ⟨fun _ hresource => ⟨fun parsed hparsed => ⟨?_, ?_⟩, ?_⟩, ?_⟩
        · intro features hfeatures
          rw [ends_startComponents hstarted]
          exact h settings parsed features ⟨hstarted, hconfigures, hresource, hparsed, hfeatures⟩
        · exact fun _ _ => unchanged_settings settings
        · exact fun _ _ => unchanged_settings settings
        · exact fun _ _ => unchanged_settings settings

end Start

/-- Everything goes through but the processors of the logs, as with an unknown exporter. -/
def unknownLogsExporter : Surroundings where
  readFileSync := fun _ => .ok ""
  loadConfiguration := fun _ => .ok .undefined
  parseOptions := .ok { profilingOptions :=
    { callstackInterval := 1000, collectionDuration := 30000, memoryProfilingEnabled := false } }
  outcome := fun c => if c = .logRecordProcessorFactory then
      .error ⟨"Error", "Invalid value for OTEL_LOGS_EXPORTER env variable"⟩
    else .ok ()

def idle : Globals where
  settings := { globalConfiguration := none, env := fun _ => none, numberToString := fun _ => "" }

/-- The next start is refused, whatever was corrected. -/
theorem failed_logging_leaves_tracing :
    ¬ AllOrNothing unknownLogsExporter { logging := some true } idle ∧
      Ends (start unknownLogsExporter { logging := some true }) idle (fun _ _ => False)
        fun _ after => after.running.tracing = true ∧ alreadyStarted after.running = true := by
  refine ⟨fun h => ?_, rfl, rfl⟩
  have hunchanged : Unchanged idle _ := h
  have htracing : true = false := congrArg Running.tracing hunchanged.running
  cases htracing

end SplunkOtel.Start.Attempt
