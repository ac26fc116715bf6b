import SplunkOtel.Start.Attempt

/-!
# `start()` after the profiler

What each part needs to return, and what it leaves alone whether it returns or throws.
-/

open Lib Lib.Effects

namespace SplunkOtel.Start.Attempt

open Js SplunkOtel.Configuration Controller

/-! ## What the parts need -/

def Ok {α : Type} (x : Except Thrown α) : Prop := ∃ a, x = .ok a

/-- A switch can be read, and what it switches on goes through. -/
def Switched (switch : Except Thrown Bool) (P : Prop) : Prop :=
  Ok switch ∧ (switch = .ok true → P)

section Conditions

variable (env : Surroundings)

def Goes (calls : List Call) : Prop := ∀ c ∈ calls, env.outcome c = .ok ()

structure SnapshotsStart (settings : Settings) : Prop where
  samplingInterval : Ok (settings.getConfigNumber
    [.SPLUNK_SNAPSHOT_SAMPLING_INTERVAL, .SPLUNK_SNAPSHOT_PROFILER_SAMPLING_INTERVAL] 1)
  collectionInterval :
    Ok (settings.getConfigNumber [.SPLUNK_CPU_PROFILER_COLLECTION_INTERVAL] 30000)
  profiler : Ok env.getOrCreateCpuProfiler

/-- `registered`: there is a snapshot profiler, active or not. -/
structure TracingStarts (settings : Settings) (isStarted registered : Bool) : Prop where
  first : isStarted = false
  calls : Goes env [.propagatorFactory, .spanProcessorFactory, .NodeTracerProvider,
    .registerInstrumentations, .setLoadedInstrumentations]
  snapshots : registered = true → Goes env [.CompositePropagator] ∧ Ok (settings.getConfigNumber
    [.SPLUNK_SNAPSHOT_SELECTION_PROBABILITY, .SPLUNK_SNAPSHOT_SELECTION_RATE] (.finite (1 / 100)))

structure LoggingStarts (settings : Settings) : Prop where
  calls : Goes env [.logRecordProcessorFactory, .LoggerProvider]
  count : ∃ count, settings.getConfigNumber [.OTEL_ATTRIBUTE_COUNT_LIMIT] 128 = .ok count ∧
    Ok (settings.getConfigNumber [.OTEL_LOGRECORD_ATTRIBUTE_COUNT_LIMIT] count)
  length : ∃ length,
    settings.getConfigNumber [.OTEL_ATTRIBUTE_VALUE_LENGTH_LIMIT] 12000 = .ok length ∧
      Ok (settings.getConfigNumber [.OTEL_LOGRECORD_ATTRIBUTE_VALUE_LENGTH_LIMIT] length)

structure SecureappStarts (settings : Settings) (o : SecureappOptions) : Prop where
  call : Goes env [.SecureAppInstrumentation]
  dependencyScanInterval : Ok (orElse o.dependencyScanInterval
    (settings.getConfigNumber [.SPLUNK_SECUREAPP_DEPENDENCY_SCAN_INTERVAL] 86400000))
  initialDelaySeconds : Ok (orElse o.initialDelaySeconds
    (settings.getConfigNumber [.SPLUNK_SECUREAPP_DEPENDENCY_INITIAL_DELAY] 60))
  runtimePackagesOnly : Ok (orElse o.runtimePackagesOnly
    (settings.getConfigBoolean .SPLUNK_SECUREAPP_RUNTIME_PACKAGES_ONLY true))
  noSelfReport : Ok (orElse o.noSelfReport
    (settings.getConfigBoolean .SPLUNK_SECUREAPP_NO_SELF_REPORT false))

structure MetricsStart (parsed : ParsedOptions) : Prop where
  calls : Goes env [.metricReaderFactory, .MeterProvider]
  debug : parsed.debugMetricsEnabled = true → Goes env [.enableDebugMetrics]
  runtime : parsed.runtimeMetricsEnabled = true →
    Goes env [.createRuntimeGauges] ∧ (env.countersExtension = true → Goes env [.startCounters])

def MeterProvidersSet (settings : Settings) (instrumentations : List String) : Prop :=
  Ok (settings.getConfigBoolean .SPLUNK_INSTRUMENTATION_METRICS_ENABLED false) ∧
    ∀ instrumentation ∈ instrumentations, Goes env [.setMeterProvider instrumentation]

structure LogsStart (options : Options) (settings : Settings) : Prop where
  secureapp : Switched (secureappSwitch options settings)
    (env.secureAppInstrumentation = true → SecureappStarts env settings options.secureappOptions)
  logging : Ok (loggingSwitch options settings) ∧
    (loggingSwitch options settings = .ok true ∨ secureappSwitch options settings = .ok true →
      LoggingStarts env settings)

structure Finishes (options : Options) (parsed : ParsedOptions) (features : Features)
    (settings : Settings) (instrumentations : List String) : Prop where
  metrics : Switched (metricsSwitch options settings (metricsEnabledByDefault parsed features))
    (MetricsStart env parsed)
  instrumentations : MeterProvidersSet env settings instrumentations
  opamp : features.opampEnabled = true → Goes env [.OpAMPClient]

/-- Every switch can be read, and what is switched on starts. `held` is what tracing holds before,
and `registered` says that there is a snapshot profiler before. -/
structure Launches (options : Options) (parsed : ParsedOptions) (features : Features)
    (settings : Settings) (held : TracingState) (registered : Bool) : Prop where
  snapshots : Ok (snapshotsSwitch settings) ∧
    (snapshotsSwitch settings = .ok true ∨ features.remoteConfigEnabled = true →
      SnapshotsStart env settings)
  tracing : Switched (tracingSwitch options settings) (TracingStarts env settings held.isStarted
    (snapshotsSwitch settings = .ok true ∨ features.remoteConfigEnabled ∨ registered))
  logs : LogsStart env options settings
  rest : Finishes env options parsed features settings
    (if tracingSwitch options settings = .ok true then parsed.instrumentations
      else held.loadedInstrumentations)

end Conditions

section Parts

variable {env : Surroundings} {s : Globals}

@[simp] theorem returns_call (c : Call) (Q : Unit → Globals → Prop) :
    Returns (call env c) s Q ↔ env.outcome c = .ok () ∧ Q () s := by
  unfold call
  rw [returns_ofExcept]
  constructor
  · rintro ⟨_, h⟩
    exact h
  · intro h
    exact ⟨(), h⟩

theorem ends_call (c : Call) (Q : Unit → Globals → Prop) (E : Thrown → Globals → Prop) :
    Ends (call env c) s Q E ↔
      (∀ a, env.outcome c = .ok a → Q a s) ∧ ∀ e, env.outcome c = .error e → E e s :=
  ends_ofExcept E _ _

@[simp] theorem ends_recordEffectiveState (patch : EffectiveState) (Q : Unit → Globals → Prop)
    (E : Thrown → Globals → Prop) :
    Ends (recordEffectiveState patch) s Q E ↔
      Q () { s with modules := s.modules.recordEffectiveState patch } := by
  simp [recordEffectiveState]

theorem returns_startSnapshotProfiling (active : Bool) :
    Returns (startSnapshotProfiling env active) s (fun _ _ => True) ↔
      SnapshotsStart env s.settings := by
  simp only [startSnapshotProfiling, ends_bind, ends_get, returns_ofExcept, ends_modify,
    ends_recordEffectiveState]
  constructor
  · rintro ⟨_, h₁, _, h₂, _, h₃, -⟩
    exact ⟨⟨_, h₁⟩, ⟨_, h₂⟩, ⟨_, h₃⟩⟩
  · rintro ⟨⟨_, h₁⟩, ⟨_, h₂⟩, ⟨_, h₃⟩⟩
    exact ⟨_, h₁, _, h₂, _, h₃, trivial⟩

@[simp] theorem goes_cons {c : Call} {calls : List Call} :
    Goes env (c :: calls) ↔ env.outcome c = .ok () ∧ Goes env calls := List.forall_mem_cons

@[simp] theorem goes_nil : Goes env [] := by
  unfold Goes
  simp

theorem returns_startTracing (instrumentations : List String) :
    Returns (startTracing env instrumentations) s (fun _ _ => True) ↔
      TracingStarts env s.settings s.tracing.isStarted s.modules.snapshots.isSome := by
  simp only [startTracing, ends_bind, ends_get, ends_ite, ends_throw, returns_ofExcept, ends_modify,
    returns_call, ite_self, and_true]
  split_ifs with hstarted hregistered
  · refine iff_of_false id fun h => ?_
    rw [h.first] at hstarted
    cases hstarted
  · constructor
    · rintro ⟨hpropagator, rate, hrate, hcomposite, hrest⟩
      refine ⟨by simpa using hstarted, ?_, fun _ => ⟨?_, rate, hrate⟩⟩
      · simpa using ⟨hpropagator, hrest⟩
      · simpa using hcomposite
    · intro h
      obtain ⟨hcomposite, rate, hrate⟩ := h.snapshots hregistered
      obtain ⟨hpropagator, hrest⟩ := goes_cons.mp h.calls
      exact ⟨hpropagator, rate, hrate, by simpa using hcomposite, by simpa using hrest⟩
  · constructor
    · intro h
      refine ⟨by simpa using hstarted, ?_, fun hr => absurd hr hregistered⟩
      simpa using h
    · intro h
      simpa using h.calls

theorem returns_startLogging :
    Returns (startLogging env) s (fun _ _ => True) ↔ LoggingStarts env s.settings := by
  simp only [startLogging, ends_bind, ends_get, returns_ofExcept, ends_modify, returns_call,
    and_true]
  constructor
  · rintro ⟨hfactory, count, hcount, _, hcount', length, hlength, _, hlength', hprovider⟩
    refine ⟨?_, ⟨count, hcount, _, hcount'⟩, length, hlength, _, hlength'⟩
    simpa using ⟨hfactory, hprovider⟩
  · rintro ⟨hcalls, ⟨count, hcount, _, hcount'⟩, length, hlength, _, hlength'⟩
    simp only [goes_cons] at hcalls
    exact ⟨hcalls.1, count, hcount, _, hcount', length, hlength, _, hlength', hcalls.2.1⟩

theorem returns_startSecureapp (o : SecureappOptions) :
    Returns (startSecureapp env o) s (fun _ _ => True) ↔
      (env.secureAppInstrumentation = true → SecureappStarts env s.settings o) := by
  simp only [startSecureapp, ends_bind, ends_get, ends_ite, ends_pure, returns_ofExcept,
    ends_modify, returns_call, and_true]
  split_ifs with h
  · simp only [h, forall_true_left]
    constructor
    · rintro ⟨_, h₁, _, h₂, _, h₃, _, h₄, hcall⟩
      refine ⟨?_, ⟨_, h₁⟩, ⟨_, h₂⟩, ⟨_, h₃⟩, _, h₄⟩
      simpa using hcall
    · rintro ⟨hcall, ⟨_, h₁⟩, ⟨_, h₂⟩, ⟨_, h₃⟩, _, h₄⟩
      simp only [goes_cons] at hcall
      exact ⟨_, h₁, _, h₂, _, h₃, _, h₄, hcall.1⟩
  · exact iff_of_true trivial fun h' => absurd h' h

theorem returns_startMetrics (parsed : ParsedOptions) :
    Returns (startMetrics env parsed) s (fun _ _ => True) ↔ MetricsStart env parsed := by
  simp only [startMetrics, ends_bind, ends_ite, ends_pure, ends_modify, returns_call, and_true]
  constructor
  · rintro ⟨hreaders, hprovider, hrest⟩
    refine ⟨by simpa using ⟨hreaders, hprovider⟩, fun hdebug => ?_, fun hruntime => ?_⟩
    · rw [if_pos hdebug] at hrest
      simpa using hrest.1
    · rw [if_pos hruntime] at hrest
      split_ifs at hrest with hdebug hcounters hcounters
      · simpa [hcounters] using hrest.2
      · simpa [hcounters] using hrest.2
      · simpa [hcounters] using hrest
      · simpa [hcounters] using hrest
  · intro h
    have hcalls := h.calls
    simp only [goes_cons] at hcalls
    refine ⟨hcalls.1, hcalls.2.1, ?_⟩
    split_ifs with hdebug hruntime hcounters hruntime hcounters
    · have hboth := And.intro (h.debug hdebug) (h.runtime hruntime)
      simpa [hcounters] using hboth
    · have hboth := And.intro (h.debug hdebug) (h.runtime hruntime)
      simpa [hcounters] using hboth
    · simpa using h.debug hdebug
    · simpa [hcounters] using h.runtime hruntime
    · simpa [hcounters] using h.runtime hruntime

theorem switched_iff (switch : Except Thrown Bool) (P : Prop) :
    (∃ enabled, switch = .ok enabled ∧ if enabled = true then P else True) ↔ Switched switch P := by
  constructor
  · rintro ⟨enabled, rfl, h⟩
    refine ⟨⟨enabled, rfl⟩, ?_⟩
    rintro ⟨⟩
    exact h
  · rintro ⟨⟨enabled, rfl⟩, h⟩
    refine ⟨enabled, rfl, ?_⟩
    cases enabled with
    | true => exact h rfl
    | false => trivial

theorem returns_startSnapshots (features : Features) :
    Returns (startSnapshots env features) s (fun _ _ => True) ↔
      Ok (snapshotsSwitch s.settings) ∧
        (snapshotsSwitch s.settings = .ok true ∨ features.remoteConfigEnabled = true →
          SnapshotsStart env s.settings) := by
  simp only [startSnapshots, ends_bind, ends_get, returns_ofExcept, ends_ite,
    returns_startSnapshotProfiling, ends_recordEffectiveState]
  cases h : snapshotsSwitch s.settings with
  | error e => simp [Ok]
  | ok enabled => cases enabled with
    | true => simp [Ok]
    | false => simp [Ok]

theorem returns_startTracingSignal (options : Options) (parsed : ParsedOptions) :
    Returns (startTracingSignal env options parsed) s (fun _ _ => True) ↔
      Switched (tracingSwitch options s.settings)
        (TracingStarts env s.settings s.tracing.isStarted s.modules.snapshots.isSome) := by
  simp only [startTracingSignal, ends_bind, ends_get, returns_ofExcept, ends_ite, ends_modify,
    ends_pure, ends_recordEffectiveState, returns_startTracing]
  exact switched_iff (tracingSwitch options s.settings)
    (TracingStarts env s.settings s.tracing.isStarted s.modules.snapshots.isSome)

theorem returns_startLoggingSignal (options : Options) (secureappEnabled : Bool) :
    Returns (startLoggingSignal env options secureappEnabled) s (fun _ _ => True) ↔
      Ok (loggingSwitch options s.settings) ∧
        (loggingSwitch options s.settings = .ok true ∨ secureappEnabled = true →
          LoggingStarts env s.settings) := by
  simp only [startLoggingSignal, ends_bind, ends_get, returns_ofExcept, ends_ite, ends_modify,
    ends_pure, ends_recordEffectiveState, returns_startLogging]
  cases h : loggingSwitch options s.settings with
  | error e => simp [Ok]
  | ok enabled => cases enabled with
    | true => simp [Ok]
    | false => simp [Ok]

theorem returns_startSecureappSignal (options : Options) (secureappEnabled : Bool) :
    Returns (startSecureappSignal env options secureappEnabled) s (fun _ _ => True) ↔
      (secureappEnabled = true → env.secureAppInstrumentation = true →
        SecureappStarts env s.settings options.secureappOptions) := by
  simp only [startSecureappSignal, ends_bind, ends_ite, ends_modify, ends_pure,
    returns_startSecureapp]
  split_ifs with h
  · simp [h]
  · simp [h]

theorem returns_startMetricsSignal (options : Options) (parsed : ParsedOptions)
    (features : Features) :
    Returns (startMetricsSignal env options parsed features) s (fun _ _ => True) ↔
      Switched (metricsSwitch options s.settings (metricsEnabledByDefault parsed features))
        (MetricsStart env parsed) := by
  simp only [startMetricsSignal, ends_bind, ends_get, returns_ofExcept, ends_ite, ends_modify,
    ends_pure, ends_recordEffectiveState, returns_startMetrics]
  exact switched_iff _ _

theorem returns_setMeterProviders :
    Returns (setMeterProviders env) s (fun _ _ => True) ↔
      MeterProvidersSet env s.settings s.tracing.loadedInstrumentations := by
  have hcall (instrumentation : String) (s : Globals) (Q : Unit → Globals → Prop) :
      Returns (call env (.setMeterProvider instrumentation)) s Q ↔
        Goes env [.setMeterProvider instrumentation] ∧ Q () s := by simp
  have hloop := returns_forM (s := s) hcall s.tracing.loadedInstrumentations fun _ _ => True
  unfold Returns at hloop
  simp only [setMeterProviders, ends_bind, ends_get, returns_ofExcept, hloop, and_true]
  unfold MeterProvidersSet Ok
  rw [exists_and_right]

theorem returns_startOpAMP (features : Features) :
    Returns (startOpAMP env features) s (fun _ _ => True) ↔
      (features.opampEnabled = true → Goes env [.OpAMPClient]) := by
  simp only [startOpAMP, ends_bind, ends_ite, ends_modify, ends_pure, returns_call]
  split_ifs with h
  · simp [h]
  · simp [h]

end Parts

/-! ## What the parts leave alone -/

/-- What every part after the profiler leaves alone, even where it throws. -/
@[mk_iff] structure Kept (s s' : Globals) : Prop where
  profilingController : s'.running.profilingController = s.running.profilingController
  settings : s'.settings = s.settings

theorem Kept.refl (s : Globals) : Kept s s := ⟨rfl, rfl⟩

section Kept

variable {env : Surroundings} {s₀ s : Globals}

theorem startSnapshots_kept (features : Features) (h : Kept s₀ s) :
    Ends (startSnapshots env features) s
      (fun _ s' => Kept s₀ s' ∧ s'.tracing = s.tracing ∧ s'.modules.snapshots.isSome =
        decide (snapshotsSwitch s.settings = .ok true ∨ features.remoteConfigEnabled ∨
          s.modules.snapshots.isSome))
      fun _ s' => Kept s₀ s' := by
  rw [kept_iff] at h
  simp +contextual [startSnapshots, startSnapshotProfiling, ends_ofExcept, kept_iff, h,
    Modules.recordEffectiveState]

theorem startTracing_kept (instrumentations : List String) (h : Kept s₀ s) :
    Ends (startTracing env instrumentations) s
      (fun _ s' => Kept s₀ s' ∧ s'.tracing.loadedInstrumentations = instrumentations)
      fun _ s' => Kept s₀ s' := by
  rw [kept_iff] at h
  simp [startTracing, ends_ofExcept, ends_call, kept_iff, h]

theorem startTracingSignal_kept (options : Options) (parsed : ParsedOptions) (h : Kept s₀ s) :
    Ends (startTracingSignal env options parsed) s
      (fun _ s' => Kept s₀ s' ∧ s'.tracing.loadedInstrumentations =
        if tracingSwitch options s.settings = .ok true then parsed.instrumentations
          else s.tracing.loadedInstrumentations)
      fun _ s' => Kept s₀ s' := by
  simp only [startTracingSignal, ends_bind, ends_get, ends_ofExcept, ends_recordEffectiveState,
    ends_ite, ends_modify, ends_pure]
  refine ⟨fun enabled henabled => ?_, fun _ _ => h⟩
  rw [henabled]
  cases enabled with
  | true =>
    refine (startTracing_kept parsed.instrumentations ?_).mono (fun _ s' hs' => ?_)
      fun _ _ hs' => hs'
    · exact ⟨h.1, h.2⟩
    · exact ⟨⟨hs'.1.1, hs'.1.2⟩, hs'.2⟩
  | false => exact ⟨⟨h.1, h.2⟩, by simp⟩

theorem startLogging_kept (h : Kept s₀ s) :
    Ends (startLogging env) s
      (fun _ s' => Kept s₀ s' ∧ s'.tracing = s.tracing) fun _ s' => Kept s₀ s' := by
  rw [kept_iff] at h
  simp [startLogging, ends_ofExcept, ends_call, kept_iff, h]

theorem startSecureapp_kept (o : SecureappOptions) (h : Kept s₀ s) :
    Ends (startSecureapp env o) s
      (fun _ s' => Kept s₀ s' ∧ s'.tracing = s.tracing) fun _ s' => Kept s₀ s' := by
  rw [kept_iff] at h
  simp [startSecureapp, ends_ofExcept, ends_call, kept_iff, h]

theorem startMetrics_kept (parsed : ParsedOptions) (h : Kept s₀ s) :
    Ends (startMetrics env parsed) s
      (fun _ s' => Kept s₀ s' ∧ s'.tracing = s.tracing) fun _ s' => Kept s₀ s' := by
  rw [kept_iff] at h
  simp [startMetrics, ends_call, kept_iff, h]

theorem startLoggingSignal_kept (options : Options) (secureappEnabled : Bool) (h : Kept s₀ s) :
    Ends (startLoggingSignal env options secureappEnabled) s
      (fun _ s' => Kept s₀ s' ∧ s'.tracing = s.tracing) fun _ s' => Kept s₀ s' := by
  simp only [startLoggingSignal, ends_bind, ends_get, ends_ofExcept, ends_recordEffectiveState,
    ends_ite, ends_modify, ends_pure]
  refine ⟨fun enabled _ => ?_, fun _ _ => h⟩
  split_ifs
  · refine (startLogging_kept ?_).mono (fun _ s' hs' => ?_) fun _ _ hs' => hs'
    · exact ⟨h.1, h.2⟩
    · exact ⟨⟨hs'.1.1, hs'.1.2⟩, hs'.2⟩
  · exact ⟨⟨h.1, h.2⟩, trivial⟩

theorem startSecureappSignal_kept (options : Options) (secureappEnabled : Bool) (h : Kept s₀ s) :
    Ends (startSecureappSignal env options secureappEnabled) s
      (fun _ s' => Kept s₀ s' ∧ s'.tracing = s.tracing) fun _ s' => Kept s₀ s' := by
  simp only [startSecureappSignal, ends_bind, ends_ite, ends_modify, ends_pure]
  split_ifs
  · refine (startSecureapp_kept options.secureappOptions h).mono (fun _ s' hs' => ?_)
      fun _ _ hs' => hs'
    exact ⟨⟨hs'.1.1, hs'.1.2⟩, hs'.2⟩
  · exact ⟨h, trivial⟩

theorem startMetricsSignal_kept (options : Options) (parsed : ParsedOptions) (features : Features)
    (h : Kept s₀ s) :
    Ends (startMetricsSignal env options parsed features) s
      (fun _ s' => Kept s₀ s' ∧ s'.tracing = s.tracing) fun _ s' => Kept s₀ s' := by
  simp only [startMetricsSignal, ends_bind, ends_get, ends_ofExcept, ends_recordEffectiveState,
    ends_ite, ends_modify, ends_pure]
  refine ⟨fun enabled _ => ?_, fun _ _ => h⟩
  split_ifs
  · refine (startMetrics_kept parsed ?_).mono (fun _ s' hs' => ?_) fun _ _ hs' => hs'
    · exact ⟨h.1, h.2⟩
    · exact ⟨⟨hs'.1.1, hs'.1.2⟩, hs'.2⟩
  · exact ⟨⟨h.1, h.2⟩, trivial⟩

theorem setMeterProviders_kept (h : Kept s₀ s) :
    Ends (setMeterProviders env) s (fun _ s' => Kept s₀ s') fun _ s' => Kept s₀ s' := by
  simp only [setMeterProviders, ends_bind, ends_get, ends_ofExcept]
  refine ⟨fun _ _ => forM_keeps (fun instrumentation s hs => ?_) _ h, fun _ _ => h⟩
  exact (ends_call _ _ _).mpr ⟨fun _ _ => hs, fun _ _ => hs⟩

theorem startOpAMP_kept (features : Features) (h : Kept s₀ s) :
    Ends (startOpAMP env features) s (fun _ s' => Kept s₀ s') fun _ s' => Kept s₀ s' := by
  rw [kept_iff] at h
  simp [startOpAMP, ends_call, kept_iff, h]

theorem startLogs_kept (options : Options) (h : Kept s₀ s) :
    Ends (startLogs env options) s
      (fun _ s' => Kept s₀ s' ∧ s'.tracing = s.tracing) fun _ s' => Kept s₀ s' := by
  simp only [startLogs, ends_bind, ends_get, ends_ofExcept]
  refine ⟨fun secureappEnabled _ => ?_, fun _ _ => h⟩
  refine (startLoggingSignal_kept options secureappEnabled h).mono (fun _ s₁ h₁ => ?_)
    fun _ _ hs' => hs'
  refine (startSecureappSignal_kept options secureappEnabled h₁.1).mono (fun _ s₂ h₂ => ?_)
    fun _ _ hs' => hs'
  exact ⟨h₂.1, h₂.2.trans h₁.2⟩

theorem finish_kept (options : Options) (parsed : ParsedOptions) (features : Features)
    (h : Kept s₀ s) :
    Ends (finish env options parsed features) s (fun _ s' => Kept s₀ s')
      fun _ s' => Kept s₀ s' := by
  simp only [finish, ends_bind]
  refine (startMetricsSignal_kept options parsed features h).mono (fun _ s₁ h₁ => ?_)
    fun _ _ hs' => hs'
  refine (setMeterProviders_kept h₁.1).mono (fun _ s₂ h₂ => ?_) fun _ _ hs' => hs'
  exact startOpAMP_kept features h₂

theorem launch_kept (options : Options) (parsed : ParsedOptions) (features : Features)
    (h : Kept s₀ s) :
    Ends (launch env options parsed features) s (fun _ s' => Kept s₀ s')
      fun _ s' => Kept s₀ s' := by
  simp only [launch, ends_bind]
  refine (startSnapshots_kept features h).mono (fun _ s₁ h₁ => ?_) fun _ _ hs' => hs'
  refine (startTracingSignal_kept options parsed h₁.1).mono (fun _ s₂ h₂ => ?_) fun _ _ hs' => hs'
  refine (startLogs_kept options h₂.1).mono (fun _ s₃ h₃ => ?_) fun _ _ hs' => hs'
  exact finish_kept options parsed features h₃.1

end Kept

/-! ## When nothing after the profiler throws -/

section Launch

variable {env : Surroundings} {s : Globals}

theorem returns_startLogs (options : Options) :
    Returns (startLogs env options) s (fun _ _ => True) ↔ LogsStart env options s.settings := by
  have hsignals (secureappEnabled : Bool) :
      Returns (startLoggingSignal env options secureappEnabled) s
          (fun _ s' => Returns (startSecureappSignal env options secureappEnabled) s'
            fun _ _ => True) ↔
        (Ok (loggingSwitch options s.settings) ∧
          (loggingSwitch options s.settings = .ok true ∨ secureappEnabled = true →
            LoggingStarts env s.settings)) ∧
        (secureappEnabled = true → env.secureAppInstrumentation = true →
          SecureappStarts env s.settings options.secureappOptions) := by
    rw [← returns_startLoggingSignal]
    refine returns_and (startLoggingSignal_kept options secureappEnabled (Kept.refl s))
      fun _ s' h => ?_
    rw [returns_startSecureappSignal, h.1.settings]
  unfold Returns at hsignals
  simp only [startLogs, ends_bind, ends_get, returns_ofExcept, hsignals]
  constructor
  · rintro ⟨secureappEnabled, hswitch, hlogging, hsecureapp⟩
    refine ⟨⟨⟨secureappEnabled, hswitch⟩, fun h => ?_⟩, hlogging.1, fun h => ?_⟩
    · rw [hswitch] at h
      cases h
      exact hsecureapp rfl
    · rw [hswitch] at h
      exact hlogging.2 (h.imp_right fun h => by cases h; rfl)
  · rintro ⟨⟨⟨secureappEnabled, hswitch⟩, hsecureapp⟩, hread, hlogging⟩
    refine ⟨secureappEnabled, hswitch, ⟨hread, fun h => hlogging ?_⟩, fun h => hsecureapp ?_⟩
    · rw [hswitch]
      exact h.imp_right fun h => by rw [h]
    · rw [hswitch, h]

theorem returns_finish (options : Options) (parsed : ParsedOptions) (features : Features) :
    Returns (finish env options parsed features) s (fun _ _ => True) ↔
      Finishes env options parsed features s.settings s.tracing.loadedInstrumentations := by
  have hrest (s₁ : Globals) :
      Returns (setMeterProviders env) s₁
          (fun _ s₂ => Returns (startOpAMP env features) s₂ fun _ _ => True) ↔
        MeterProvidersSet env s₁.settings s₁.tracing.loadedInstrumentations ∧
          (features.opampEnabled = true → Goes env [.OpAMPClient]) := by
    rw [← returns_setMeterProviders]
    exact returns_and (setMeterProviders_kept (Kept.refl s₁))
      fun _ _ _ => returns_startOpAMP features
  unfold Returns at hrest
  simp only [finish, ends_bind, hrest]
  refine (returns_and (P := MeterProvidersSet env s.settings s.tracing.loadedInstrumentations ∧
      (features.opampEnabled = true → Goes env [.OpAMPClient]))
    (startMetricsSignal_kept options parsed features (Kept.refl s)) fun _ s₁ h => by
      rw [h.1.settings, h.2]).trans ?_
  rw [returns_startMetricsSignal]
  constructor
  · rintro ⟨hmetrics, hset, hopamp⟩
    exact ⟨hmetrics, hset, hopamp⟩
  · rintro ⟨hmetrics, hset, hopamp⟩
    exact ⟨hmetrics, hset, hopamp⟩

/-- Nothing after the profiler throws exactly when every switch can be read and what is switched on
starts. -/
theorem returns_launch (options : Options) (parsed : ParsedOptions) (features : Features) :
    Returns (launch env options parsed features) s (fun _ _ => True) ↔
      Launches env options parsed features s.settings s.tracing s.modules.snapshots.isSome := by
  have hlogs (s₂ : Globals) :
      Returns (startLogs env options) s₂
          (fun _ s₃ => Returns (finish env options parsed features) s₃ fun _ _ => True) ↔
        LogsStart env options s₂.settings ∧
          Finishes env options parsed features s₂.settings s₂.tracing.loadedInstrumentations := by
    rw [← returns_startLogs]
    refine returns_and (startLogs_kept options (Kept.refl s₂)) fun _ s₃ h => ?_
    rw [returns_finish, h.1.settings, h.2]
  have htracing (s₁ : Globals) :
      Returns (startTracingSignal env options parsed) s₁
          (fun _ s₂ => LogsStart env options s₂.settings ∧
            Finishes env options parsed features s₂.settings s₂.tracing.loadedInstrumentations) ↔
        Switched (tracingSwitch options s₁.settings)
          (TracingStarts env s₁.settings s₁.tracing.isStarted s₁.modules.snapshots.isSome) ∧
        LogsStart env options s₁.settings ∧ Finishes env options parsed features s₁.settings
          (if tracingSwitch options s₁.settings = .ok true then parsed.instrumentations
            else s₁.tracing.loadedInstrumentations) := by
    rw [← returns_startTracingSignal]
    refine returns_and (startTracingSignal_kept options parsed (Kept.refl s₁)) fun _ s₂ h => ?_
    rw [h.1.settings, h.2]
  unfold Returns at hlogs htracing
  simp only [launch, ends_bind, hlogs, htracing]
  refine (returns_and (startSnapshots_kept features (Kept.refl s)) fun _ s₁ h => by
    rw [h.1.settings, h.2.1, h.2.2]).trans ?_
  rw [returns_startSnapshots]
  constructor
  · rintro ⟨hsnapshots, htracing, hlogs, hrest⟩
    exact ⟨hsnapshots, htracing, hlogs, hrest⟩
  · rintro ⟨hsnapshots, htracing, hlogs, hrest⟩
    exact ⟨hsnapshots, htracing, hlogs, hrest⟩

end Launch

end SplunkOtel.Start.Attempt
