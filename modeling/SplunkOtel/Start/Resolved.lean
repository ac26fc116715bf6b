import SplunkOtel.Lib.Except
import SplunkOtel.Start.AllOrNothing

/-!
# A `start()` that returns

It leaves the modules as `Start.start` does with the options resolved. The endpoints that the exporter
factories record are left out, and so is the context manager, which the snapshot profiler sets too.
-/

open Lib Lib.Effects

namespace SplunkOtel.Start.Attempt

open Js SplunkOtel.Configuration Controller
open StartProfiling (ensureProfilingContextManager)

/-- The modules without the flag of the context manager. -/
def withoutManager (m : Modules) : Modules :=
  { m with profiling := { m.profiling with profilingContextManagerEnabled := false } }

section Resolved

variable (env : Surroundings) (options : Options) (parsed : ParsedOptions) (features : Features)
  (settings : Settings)

def pipeline (enabled : Bool) : Option Pipeline := if enabled then some ⟨none⟩ else none

@[simp] theorem pipeline_isSome (enabled : Bool) : (pipeline enabled).isSome = enabled := by
  cases enabled with
  | true => rfl
  | false => rfl

@[simp] theorem pipeline_endpoint (enabled : Bool) :
    (pipeline enabled).bind (·.endpoint) = none := by
  cases enabled with
  | true => rfl
  | false => rfl

/-- The options with everything read. What the exporter factories record is left out. -/
def resolved : Start.Options where
  profilingOptions := parsed.profilingOptions
  profilerEnabled := features.profilerEnabled
  snapshotProfilerEnabled := snapshotsSwitch settings = .ok true
  snapshotSamplingInterval := (settings.getConfigNumber
    [.SPLUNK_SNAPSHOT_SAMPLING_INTERVAL,
      .SPLUNK_SNAPSHOT_PROFILER_SAMPLING_INTERVAL] 1).toOption.getD 1
  profilerHandle := env.getOrCreateCpuProfiler.toOption.getD 0
  tracing := pipeline (tracingSwitch options settings = .ok true)
  logging := pipeline (loggingSwitch options settings = .ok true ∨
    secureappSwitch options settings = .ok true)
  metrics := pipeline
    (metricsSwitch options settings (metricsEnabledByDefault parsed features) = .ok true)
  opampEnabled := features.opampEnabled
  remoteConfig := features.remoteConfigEnabled

end Resolved

section Parts

variable {env : Surroundings} {s : Globals}

theorem startTracing_modules (instrumentations : List String) :
    Ends (startTracing env instrumentations) s (fun _ s' => s'.modules = s.modules)
      fun _ _ => True := by
  simp [startTracing, ends_ofExcept, ends_call]

theorem startLogging_modules :
    Ends (startLogging env) s (fun _ s' => s'.modules = s.modules) fun _ _ => True := by
  simp [startLogging, ends_ofExcept, ends_call]

theorem startSecureapp_modules (o : SecureappOptions) :
    Ends (startSecureapp env o) s (fun _ s' => s'.modules = s.modules) fun _ _ => True := by
  simp [startSecureapp, ends_ofExcept, ends_call]

theorem startMetrics_modules (parsed : ParsedOptions) :
    Ends (startMetrics env parsed) s (fun _ s' => s'.modules = s.modules) fun _ _ => True := by
  simp [startMetrics, ends_call]

theorem startTracingSignal_modules (options : Options) (parsed : ParsedOptions) :
    Ends (startTracingSignal env options parsed) s
      (fun _ s' => s'.modules = s.modules.recordEffectiveState
        { tracingEnabled := some (tracingSwitch options s.settings = .ok true) })
      fun _ _ => True := by
  simp only [startTracingSignal, ends_bind, ends_get, ends_ofExcept, ends_recordEffectiveState,
    ends_ite, ends_modify, ends_pure]
  refine ⟨fun enabled henabled => ?_, fun _ _ => trivial⟩
  rw [henabled]
  cases enabled with
  | true =>
    exact (startTracing_modules parsed.instrumentations).mono (fun _ _ h => h) fun _ _ h => h
  | false => rfl

theorem startLogs_modules (options : Options) :
    Ends (startLogs env options) s
      (fun _ s' => s'.modules = s.modules.recordEffectiveState
        { loggingEnabled := some (loggingSwitch options s.settings = .ok true ∨
            secureappSwitch options s.settings = .ok true) })
      fun _ _ => True := by
  simp only [startLogs, startLoggingSignal, ends_bind, ends_get, ends_ofExcept,
    ends_recordEffectiveState, ends_ite, ends_modify, ends_pure]
  refine ⟨fun secureappEnabled hsecureapp => ⟨fun enabled henabled => ?_, fun _ _ => trivial⟩,
    fun _ _ => trivial⟩
  rw [hsecureapp, henabled]
  have hsecure (s₁ : Globals) : Ends (startSecureappSignal env options secureappEnabled) s₁
      (fun _ s' => s'.modules = s₁.modules) fun _ _ => True := by
    simp only [startSecureappSignal, ends_bind, ends_ite, ends_modify, ends_pure]
    split_ifs
    exact startSecureapp_modules options.secureappOptions
  have hrecorded : (Except.ok enabled = (.ok true : Except Thrown Bool) ∨
      Except.ok secureappEnabled = (.ok true : Except Thrown Bool)) ↔
        enabled = true ∨ secureappEnabled = true := by simp
  simp only [hrecorded]
  split_ifs with hon
  · refine startLogging_modules.mono (fun _ s₁ h₁ => ?_) fun _ _ h => h
    exact (hsecure _).mono (fun _ s₂ h₂ => h₂.trans h₁) fun _ _ h => h
  · exact hsecure _

theorem finish_modules (options : Options) (parsed : ParsedOptions) (features : Features) :
    Ends (finish env options parsed features) s
      (fun _ s' => s'.modules = s.modules.recordEffectiveState
        { metricsEnabled := some (metricsSwitch options s.settings
            (metricsEnabledByDefault parsed features) = .ok true) })
      fun _ _ => True := by
  have hrest (s₁ : Globals) : Ends (setMeterProviders env) s₁
      (fun _ s₂ => Ends (startOpAMP env features) s₂ (fun _ s' => s'.modules = s₁.modules)
        fun _ _ => True) fun _ _ => True := by
    have hloop : Ends (setMeterProviders env) s₁ (fun _ s₂ => s₂.modules = s₁.modules)
        fun _ s₂ => s₂.modules = s₁.modules := by
      simp only [setMeterProviders, ends_bind, ends_get, ends_ofExcept]
      refine ⟨fun _ _ => forM_keeps (fun instrumentation s hs => ?_) _ rfl, fun _ _ => trivial⟩
      exact (ends_call _ _ _).mpr ⟨fun _ _ => hs, fun _ _ => hs⟩
    refine hloop.mono (fun _ s₂ h₂ => ?_) fun _ _ _ => trivial
    simp [startOpAMP, ends_call, h₂]
  simp only [finish, startMetricsSignal, ends_bind, ends_get, ends_ofExcept,
    ends_recordEffectiveState, ends_ite, ends_modify, ends_pure]
  refine ⟨fun enabled henabled => ?_, fun _ _ => trivial⟩
  rw [henabled]
  cases enabled with
  | true =>
    refine (startMetrics_modules parsed).mono (fun _ s₁ h₁ => ?_) fun _ _ h => h
    exact (hrest _).mono (fun _ s₂ h₂ => h₂.mono (fun _ s₃ h₃ => h₃.trans h₁) fun _ _ h => h)
      fun _ _ h => h
  | false => exact hrest _

theorem startSnapshotProfiling_modules (options : Options) (parsed : ParsedOptions)
    (features : Features) (active : Bool) :
    Ends (startSnapshotProfiling env active) s
      (fun _ s' => withoutManager s'.modules = withoutManager
        (Start.startSnapshotProfiling s.modules
          (resolved env options parsed features s.settings) active))
      fun _ _ => True := by
  simp only [startSnapshotProfiling, ends_bind, ends_get, ends_ofExcept, ends_modify,
    ends_recordEffectiveState]
  refine ⟨fun interval hinterval => ⟨fun _ _ => ⟨fun handle hhandle => ?_, ?_⟩, ?_⟩, ?_⟩
  · unfold Start.startSnapshotProfiling resolved
    rw [hinterval, hhandle]
    rfl
  · exact fun _ _ => trivial
  · exact fun _ _ => trivial
  · exact fun _ _ => trivial

theorem startSnapshots_modules (options : Options) (parsed : ParsedOptions) (features : Features)
    (hfeatures : features.remoteConfigEnabled = true → features.opampEnabled = true) :
    Ends (startSnapshots env features) s
      (fun _ s' => withoutManager s'.modules = withoutManager
        (Start.startSnapshots s.modules (resolved env options parsed features s.settings)))
      fun _ _ => True := by
  have hremote : (resolved env options parsed features s.settings).remoteConfigEnabled =
      features.remoteConfigEnabled := by
    unfold Start.Options.remoteConfigEnabled resolved
    cases h : features.remoteConfigEnabled with
    | true => simp [hfeatures h]
    | false => simp
  simp only [startSnapshots, ends_bind, ends_get, ends_ofExcept, ends_ite,
    ends_recordEffectiveState]
  refine ⟨fun enabled henabled => ?_, fun _ _ => trivial⟩
  have hswitch : (resolved env options parsed features s.settings).snapshotProfilerEnabled =
      enabled := by simp [resolved, henabled]
  unfold Start.startSnapshots
  rw [hremote, hswitch]
  split_ifs
  · exact startSnapshotProfiling_modules options parsed features true
  · exact startSnapshotProfiling_modules options parsed features false
  · rfl

theorem startSignals_resolved (m : Modules) (options : Options) (parsed : ParsedOptions)
    (features : Features) (settings : Settings) :
    startSignals m (resolved env options parsed features settings) =
      ((m.recordEffectiveState
        { tracingEnabled := some (tracingSwitch options settings = .ok true) }).recordEffectiveState
        { loggingEnabled := some (loggingSwitch options settings = .ok true ∨
            secureappSwitch options settings = .ok true) }).recordEffectiveState
        { metricsEnabled := some (metricsSwitch options settings
            (metricsEnabledByDefault parsed features) = .ok true) } := by
  simp only [startSignals, resolved, pipeline_isSome, pipeline_endpoint]

theorem withoutManager_record {m m' : Modules} (h : withoutManager m = withoutManager m')
    (patch : EffectiveState) :
    withoutManager (m.recordEffectiveState patch) =
      withoutManager (m'.recordEffectiveState patch) := by
  have hrecord (m : Modules) : withoutManager (m.recordEffectiveState patch) =
      (withoutManager m).recordEffectiveState patch := rfl
  rw [hrecord, hrecord, h]

theorem launch_modules (options : Options) (parsed : ParsedOptions) (features : Features)
    (hfeatures : features.remoteConfigEnabled = true → features.opampEnabled = true) :
    Ends (launch env options parsed features) s
      (fun _ s' => withoutManager s'.modules = withoutManager (startSignals
        (Start.startSnapshots s.modules (resolved env options parsed features s.settings))
        (resolved env options parsed features s.settings)))
      fun _ _ => True := by
  rw [startSignals_resolved]
  simp only [launch, ends_bind]
  have hsnapshots : Ends (startSnapshots env features) s _ _ :=
    startSnapshots_modules options parsed features hfeatures
  refine (hsnapshots.and (startSnapshots_kept features (Kept.refl s))).mono (fun _ s₁ h₁ => ?_)
    fun _ _ _ => trivial
  obtain ⟨hm₁, hk₁, -⟩ := h₁
  have htracing : Ends (startTracingSignal env options parsed) s₁ _ _ :=
    startTracingSignal_modules options parsed
  refine (htracing.and (startTracingSignal_kept options parsed hk₁)).mono (fun _ s₂ h₂ => ?_)
    fun _ _ _ => trivial
  obtain ⟨hm₂, hk₂, -⟩ := h₂
  refine ((startLogs_modules options).and (startLogs_kept options hk₂)).mono (fun _ s₃ h₃ => ?_)
    fun _ _ _ => trivial
  obtain ⟨hm₃, hk₃, -⟩ := h₃
  refine (finish_modules options parsed features).mono (fun _ s₄ hm₄ => ?_) fun _ _ _ => trivial
  rw [hm₄, hm₃, hm₂, hk₁.settings, hk₂.settings, hk₃.settings]
  exact withoutManager_record (withoutManager_record (withoutManager_record hm₁ _) _) _

end Parts

section Start

variable {env : Surroundings} {options : Options} {p : Globals} {settings : Settings}
  {parsed : ParsedOptions} {features : Features}

theorem Configures.unique {settings₀ settings' : Settings} {disabled disabled' : Bool}
    (h : Configures env settings₀ settings disabled)
    (h' : Configures env settings₀ settings' disabled') :
    settings' = settings ∧ disabled' = disabled := by
  unfold Configures at h h'
  cases hpath : getEnvValueByPrecedence settings₀.env
      [.OTEL_CONFIG_FILE, .OTEL_EXPERIMENTAL_CONFIG_FILE] with
  | none =>
    rw [hpath] at h h'
    exact ⟨h'.1.trans h.1.symm, h'.2.trans h.2.symm⟩
  | some configFilePath =>
    rw [hpath] at h h'
    obtain ⟨content, configuration, value, hread, hload, hvalue, rfl, rfl⟩ := h
    obtain ⟨content', configuration', value', hread', hload', hvalue', rfl, rfl⟩ := h'
    rw [hread] at hread'
    cases hread'
    rw [hload] at hload'
    cases hload'
    rw [hvalue] at hvalue'
    cases hvalue'
    exact ⟨rfl, rfl⟩

theorem readFeatures_remote (h : readFeatures options settings = .ok features)
    (hremote : features.remoteConfigEnabled = true) : features.opampEnabled = true := by
  unfold readFeatures at h
  obtain ⟨opampEnabled, -, h⟩ := bind_eq_ok.mp h
  obtain ⟨remoteConfigEnabled, hread, h⟩ := bind_eq_ok.mp h
  obtain ⟨profilerEnabled, -, h⟩ := bind_eq_ok.mp h
  cases h
  cases opampEnabled with
  | true => rfl
  | false =>
    cases hread
    exact hremote

theorem start_modules {q : Process} (hq : q.modules = p.modules) (hcurrent : q.current = none)
    (h : (startController env p parsed features.profilerEnabled).2 = none) :
    (Start.start q (resolved env options parsed features settings) (native env p)).modules =
      startSignals (Start.startSnapshots
        (startController env p parsed features.profilerEnabled).1.modules
        (resolved env options parsed features settings))
        (resolved env options parsed features settings) := by
  unfold Start.start
  simp only [hcurrent, hq, Option.isSome_none, Bool.false_eq_true, if_false]
  have hinitial : State.startInitial { modules := p.modules, controller :=
        { baseOptions := (resolved env options parsed features settings).profilingOptions } }
      (resolved env options parsed features settings).profilerEnabled (native env p) =
      startController env p parsed features.profilerEnabled := rfl
  rw [hinitial, h]

/-- **A `start()` that returns** leaves the modules as `Start.start` does, but for the flag of the
context manager. The endpoints that the exporter factories record are in neither. -/
theorem start_resolved {q : Process} (hq : q.modules = p.modules) (hcurrent : q.current = none)
    (h : ReachesProfiler env options p settings parsed features) :
    Ends (start env options) p
      (fun _ p' => withoutManager p'.modules = withoutManager
        (Start.start q (resolved env options parsed features settings) (native env p)).modules)
      fun _ _ => True := by
  simp only [start, ends_bind, ends_get, ends_ite, ends_throw, h.idle, Bool.false_eq_true, if_false]
  rw [ends_loadConfigFile fun _ _ => trivial]
  intro settings' disabled hconfigures
  obtain ⟨rfl, rfl⟩ := Configures.unique h.configures hconfigures
  simp only [Bool.false_eq_true, if_false, ends_call, ends_ofExcept]
  refine ⟨fun _ _ => ⟨fun parsed' hparsed => ⟨fun features' hfeatures => ?_, ?_⟩, ?_⟩, ?_⟩
  · rw [h.parses] at hparsed
    cases hparsed
    rw [h.features] at hfeatures
    cases hfeatures
    simp only [startComponents, ends_bind, ends_startInitial, ends_modify]
    have hstarted : startController env { p with settings := settings' } parsed
        features.profilerEnabled = startController env p parsed features.profilerEnabled := rfl
    rw [hstarted]
    cases hresult : (startController env p parsed features.profilerEnabled).2 with
    | some e => trivial
    | none =>
      rw [start_modules hq hcurrent hresult]
      exact launch_modules options parsed features (readFeatures_remote h.features)
  · exact fun _ _ => trivial
  · exact fun _ _ => trivial
  · exact fun _ _ => trivial

end Start

def allGoesWell : Surroundings where
  readFileSync := fun _ => .ok ""
  loadConfiguration := fun _ => .ok .undefined
  parseOptions := .ok { profilingOptions :=
    { callstackInterval := 1000, collectionDuration := 30000, memoryProfilingEnabled := false } }
  outcome := fun _ => .ok ()

def snapshotsOn : Globals :=
  { idle with settings := { idle.settings with
      env := fun key => if key = .SPLUNK_SNAPSHOT_PROFILER_ENABLED then some "true" else none } }

theorem profilers_start_resolved :
    Returns (start allGoesWell { profiling := some true }) snapshotsOn
        (fun _ p' => p'.modules.snapshots.isSome = true) ∧
      Ends (start allGoesWell { profiling := some true }) snapshotsOn
        (fun _ p' => withoutManager p'.modules = withoutManager
          (Start.start {} (resolved allGoesWell { profiling := some true }
            { profilingOptions := { callstackInterval := 1000, collectionDuration := 30000,
                                    memoryProfilingEnabled := false } }
            ⟨false, false, true⟩ snapshotsOn.settings) (native allGoesWell snapshotsOn)).modules)
        fun _ _ => True :=
  ⟨by decide +kernel, start_resolved rfl rfl ⟨rfl, ⟨rfl, rfl⟩, rfl, rfl, rfl⟩⟩

end SplunkOtel.Start.Attempt
