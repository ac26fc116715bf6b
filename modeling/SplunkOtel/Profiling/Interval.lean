import SplunkOtel.Js.Integer
import SplunkOtel.Native.Registry
import SplunkOtel.Profiling.RemoteApply
import SplunkOtel.Snapshots.SamplingPeriod

/-!
# Sampling intervals on their way to the native profiler

A remote config gives milliseconds. Both profilers hand them over as microseconds, and the native
side converts these to 32 bits (`src/native_ext/profiling.cpp`).
-/

open Lib Lib.Run

namespace SplunkOtel

open Js StartProfiling

/-! ## The native options -/

open Native.Registry (CpuProfilerOptions parseOptions checkName)

/-- What the native extension reads of the options. -/
def StartProfiling.NativeProfilingOptions.toNative (options : NativeProfilingOptions) :
    CpuProfilerOptions where
  name := some (unitsOf options.name)
  samplingIntervalMicroseconds := some options.samplingIntervalMicroseconds
  recordDebugInfo := some options.recordDebugInfo
  maxSampleCutoffDelayMicroseconds := some options.maxSampleCutoffDelayMicroseconds

/-- `nativeSnapshotOptions` of `src/tracing/snapshots/Snapshots.ts` -/
def Snapshots.nativeSnapshotOptions (samplingIntervalMs : Number) : CpuProfilerOptions where
  name := some (unitsOf "splunk-snapshot-profiler")
  samplingIntervalMicroseconds := some (samplingIntervalMs.scale 1000)
  recordDebugInfo := some false
  onlyFilteredStacktraces := some true
  maxSampleCutoffDelayMicroseconds := some ((samplingIntervalMs.scale 1000).scale (1 / 2))

namespace Controller.Interval

open OpAMP Snapshots RemoteApply
open SplunkOtel.Native (applyProfilingOptions)
open State (Turn)

/-- The native profiler has the interval: positive, and rounded toward zero. -/
def ConfiguredWith (ms : Number) (options : CpuProfilerOptions) : Prop :=
  ∃ name native value, parseOptions (some options) = .ok (name, native) ∧ ms = .finite value ∧
    0 < native.samplingIntervalMicros ∧
    native.samplingIntervalMicros = truncate (value * 1000) ∧
    ∀ p, 0 < (applyProfilingOptions p native).samplingIntervalNanos

/-- At least a microsecond, less than 2^31 of them, and not so near below a whole microsecond that
the product is rounded up to it. -/
def Fits : Number → Prop
  | .finite value =>
    1 ≤ value * 1000 ∧ value * 1000 < 2 ^ 31 ∧
      value * 1000 + Lib.Double.spacing (value * 1000) / 2 < ⌊value * 1000⌋ + 1
  | _ => False

instance : DecidablePred Fits
  | .finite _ => inferInstanceAs (Decidable (_ ∧ _))
  | .nan => inferInstanceAs (Decidable False)
  | .infinite _ => inferInstanceAs (Decidable False)

/-- The double of 8.2 is less than 8.2, but 8200 is the double of the product. -/
example : ¬ Fits (.ofExact (82 / 10)) ∧ Fits (.ofExact (83 / 10)) := by decide +kernel

theorem configuredWith_iff {ms : Number} (hms : ms.positive = true) {options : CpuProfilerOptions}
    {name : CodeUnits} (hname : checkName options.name = .ok name)
    (hinterval : options.samplingIntervalMicroseconds = some (ms.scale 1000)) :
    ConfiguredWith ms options ↔ Fits ms := by
  unfold ConfiguredWith parseOptions
  simp only [hname, hinterval]
  cases ms with
  | nan => cases hms
  | infinite negative => simp [Fits]
  | finite value =>
    have hpositive : 0 < value * 1000 := by
      have hvalue : 0 < value := by simpa [Number.positive] using hms
      positivity
    rw [Fits, ← toInt32_kept_iff hpositive]
    constructor
    · rintro ⟨name', native, value', hnative, hvalue, hlow, heq, -⟩
      cases hnative
      cases hvalue
      exact ⟨hlow, heq⟩
    · rintro ⟨hlow, heq⟩
      refine ⟨name, _, value, rfl, rfl, hlow, heq, fun p => ?_⟩
      unfold applyProfilingOptions
      simp only [Number.scale]
      omega

/-! ## What the native profilers were last given -/

def startOptions : NativeCall → Option NativeProfilingOptions
  | .start options => some options
  | _ => none

/-- The options of the last `start`. -/
def cpuNativeOptions (s : State) : Option CpuProfilerOptions :=
  (s.modules.profiling.calls.filterMap fun call => startOptions call.2).getLast?.map
    NativeProfilingOptions.toNative

/-- The options of the last `getOrCreateCpuProfiler`. -/
def snapshotNativeOptions (s : State) : Option CpuProfilerOptions :=
  s.modules.snapshots.map fun registered =>
    nativeSnapshotOptions registered.profiler.native.samplingIntervalMs

/-- A task that applies the config settles with the event. -/
def Settles (s : State) (e : Event) (t : State) (config : RemoteProfilingConfig) : Prop :=
  ∃ (j : ℕ) (native : Native) (job : QueuedTask), e = .turn j native ∧ step s e = some t ∧
    t.controller.queue.jobs[j]? = some job ∧ job.task = .apply config ∧
    job.progress.isSettled = true

/-- The intervals of a config that has been applied have reached the native profilers. -/
def IntervalsReach (s : State) (e : Event) : Prop :=
  ∀ t config, Settles s e t config →
    (config.cpuProfiler.enabled → ∀ ms ∈ validInterval config.cpuProfiler,
      ∃ options, cpuNativeOptions t = some options ∧ ConfiguredWith ms options) ∧
    ∀ ms ∈ validInterval config.callgraphs,
      ∃ options, snapshotNativeOptions t = some options ∧ ConfiguredWith ms options

def IntervalsFit (s : State) (e : Event) : Prop :=
  ∀ t config, Settles s e t config →
    (config.cpuProfiler.enabled → ∀ ms ∈ validInterval config.cpuProfiler, Fits ms) ∧
    ∀ ms ∈ validInterval config.callgraphs, Fits ms

/-! ## The snapshot profiler -/

/-- The native profiler has the interval that the snapshot profiler holds. -/
def SameInterval (p : SnapshotProfiler) : Prop :=
  p.native.samplingIntervalMs = p.samplingIntervalMs

theorem SameInterval.exportProfile {p : SnapshotProfiler} (h : SameInterval p)
    (profile : Option Snapshots.CpuProfile) : SameInterval (p.exportProfile profile) := by
  obtain ⟨l, hl⟩ := p.exportProfile_eq profile
  rw [hl]
  exact h

theorem SameInterval.traceSnapshotBegin {p : SnapshotProfiler} (h : SameInterval p)
    (traceId : String) : SameInterval (p.traceSnapshotBegin traceId).1 := by
  obtain ⟨x, hx⟩ := p.syncExporter_eq
  unfold SnapshotProfiler.traceSnapshotBegin
  split
  · exact h
  · rw [hx]
    exact (SamplingPeriod.startCpuProfiler_interval _).trans h

theorem SameInterval.traceSnapshotEnd {p : SnapshotProfiler} (h : SameInterval p)
    (traceId : String) : SameInterval (p.traceSnapshotEnd traceId) := by
  unfold SnapshotProfiler.traceSnapshotEnd
  simp only [SnapshotProfiler.clearStopTimeout_eq]
  split
  · exact h
  · exact h

theorem SameInterval.setActive {p : SnapshotProfiler} (h : SameInterval p) (active : Bool)
    (stacktraces : Option ℕ) : SameInterval (p.setActive active stacktraces) := by
  unfold SnapshotProfiler.setActive
  split
  · exact h
  · cases active with
    | true => exact h
    | false =>
      simp only [Bool.false_eq_true, ↓reduceIte, SnapshotProfiler.clearStopTimeout_eq,
        SnapshotProfiler.clearActiveSnapshots_eq]
      apply SameInterval.exportProfile
      exact h

theorem SameInterval.setSamplingInterval {p : SnapshotProfiler} (h : SameInterval p)
    (ms : Number) : SameInterval (p.setSamplingInterval ms) := by
  unfold SnapshotProfiler.setSamplingInterval
  split
  · exact h
  · rfl

theorem SameInterval.step {p q : SnapshotProfiler} {e : Snapshots.Event} (h : SameInterval p)
    (hs : Snapshots.step p e = some q) : SameInterval q := by
  cases e with
  | traceSnapshotBegin traceId =>
    obtain rfl := Option.some_inj.mp hs
    exact h.traceSnapshotBegin traceId
  | traceSnapshotEnd traceId =>
    obtain rfl := Option.some_inj.mp hs
    exact h.traceSnapshotEnd traceId
  | onStart span parent =>
    obtain rfl := Option.some_inj.mp hs
    have hbegin := h.traceSnapshotBegin span.traceId
    unfold SnapshotProfiler.onStart
    split
    · exact h
    · simp only
      split
      · exact hbegin
      · exact hbegin
  | onEnd spanId =>
    obtain rfl := Option.some_inj.mp hs
    unfold SnapshotProfiler.onEnd
    split
    · exact h
    · exact h.traceSnapshotEnd _
  | lingerFires t stacktraces =>
    simp only [Snapshots.step, Option.ite_none_right_eq_some, Option.some_inj] at hs
    obtain ⟨_, rfl⟩ := hs
    apply SameInterval.exportProfile
    exact h
  | lingerDone =>
    simp only [Snapshots.step, Option.ite_none_right_eq_some, Option.some_inj] at hs
    obtain ⟨_, rfl⟩ := hs
    exact h
  | setActive active stacktraces =>
    obtain rfl := Option.some_inj.mp hs
    exact h.setActive active stacktraces
  | setSamplingInterval ms =>
    obtain rfl := Option.some_inj.mp hs
    exact h.setSamplingInterval ms
  | collectionLoop stacktraces =>
    obtain rfl := Option.some_inj.mp hs
    unfold SnapshotProfiler.collectionLoop
    split
    · exact h
    · exact h.exportProfile _
  | createExporter =>
    simp only [Snapshots.step, Option.ite_none_right_eq_some, Option.some_inj] at hs
    obtain ⟨_, rfl⟩ := hs
    exact h

theorem setSnapshotProfilingActive_same {m : Modules}
    (h : ∀ registered ∈ m.snapshots, SameInterval registered.profiler) (active : Bool)
    (samplingIntervalMs : Option Number) (stacktraces : Option ℕ) :
    ∀ registered ∈ (m.setSnapshotProfilingActive active samplingIntervalMs stacktraces).1.snapshots,
      SameInterval registered.profiler := by
  unfold Modules.setSnapshotProfilingActive
  cases hsnapshots : m.snapshots with
  | none =>
    simp only [hsnapshots]
    rintro _ ⟨⟩
  | some registered =>
    have hsame := h registered hsnapshots
    cases samplingIntervalMs.filter Number.positive with
    | none =>
      rintro _ ⟨⟩
      exact hsame.setActive _ _
    | some ms =>
      rintro _ ⟨⟩
      exact (hsame.setSamplingInterval ms).setActive _ _

/-! ## The invariant -/

def runningOptions (base : ProfilingOptions) (running : RunningProfiler) : CpuProfilerOptions :=
  (nativeOptions (State.cpuOptions base running.samplingInterval running.memoryEnabled)).toNative

/-- What the controller holds is what the native profilers were last given. -/
structure Given (s : State) : Prop where
  cpu : ∀ running ∈ s.controller.running,
    cpuNativeOptions s = some (runningOptions s.controller.baseOptions running)
  snapshots : ∀ registered ∈ s.modules.snapshots, SameInterval registered.profiler

variable {s t : State}

theorem Given.frame (h : Given s)
    (hbase : t.controller.baseOptions = s.controller.baseOptions)
    (hrunning : t.controller.running = s.controller.running)
    (hcalls : t.modules.profiling.calls.filterMap (fun call => startOptions call.2) =
      s.modules.profiling.calls.filterMap fun call => startOptions call.2)
    (hsnapshots : ∀ registered ∈ t.modules.snapshots, SameInterval registered.profiler) :
    Given t := by
  refine ⟨?_, hsnapshots⟩
  unfold cpuNativeOptions
  rw [hcalls, hbase, hrunning]
  exact h.cpu

theorem Given.startCpu (h : Given s) (samplingInterval : Number) (memoryEnabled : Bool)
    (native : Native) : Given (s.startCpu samplingInterval memoryEnabled native).1 := by
  unfold State.startCpu startProfilingWith
  cases native.extension with
  | false => exact h.frame rfl rfl rfl h.snapshots
  | true =>
    cases startFailure s native with
    | some e => cases native.tracingContextManager <;> exact h.frame rfl rfl rfl h.snapshots
    | none =>
      have hlast (id : ℕ) (options : NativeProfilingOptions) :
          ((s.modules.profiling.calls ++ [(id, NativeCall.start options)]).filterMap
            fun call => startOptions call.2).getLast? = some options := by
        simp [List.filterMap_append, startOptions]
      cases native.tracingContextManager <;>
        refine ⟨?_, h.snapshots⟩ <;>
        rintro _ ⟨⟩ <;>
        exact congrArg _ (hlast _ _)

theorem Given.turn (h : Given s) {native : Native} {task : Task}
    {before after : Progress Stage (Option String)} (hturn : Turn native s task before after t) :
    Given t := by
  cases hturn with
  | stop running _ _ _ _ hstop =>
    refine ⟨?_, ?_⟩
    · rw [hstop.controller]
      rintro _ ⟨⟩
    · rw [hstop.snapshots]
      exact h.snapshots
  | start samplingInterval memoryEnabled => exact h.startCpu _ _ native
  | restart samplingInterval memoryEnabled => exact h.startCpu _ _ native
  | record => exact h.frame rfl rfl rfl h.snapshots
  | callgraphs config =>
    have honly := State.applyCallgraphs_only s config native
    obtain ⟨_, _, hprofiling⟩ := honly.profiling
    refine h.frame honly.baseOptions honly.running (by rw [hprofiling]) ?_
    have hsame := setSnapshotProfilingActive_same h.snapshots config.callgraphs.enabled
      (validInterval config.callgraphs) native.stacktraces
    unfold State.applyCallgraphs
    simp only
    split <;> exact hsame
  | _ => exact h

theorem Given.deferred (h : Given s) {id : ℕ} {profiling : World}
    (hs : StartProfiling.step s.modules.profiling (.deferred id) = some profiling) :
    Given (s.setProfiling profiling) := by
  refine h.frame rfl rfl ?_ h.snapshots
  simp only [StartProfiling.step, Option.bind_eq_some_iff, Option.ite_none_right_eq_some,
    Option.some_inj] at hs
  obtain ⟨r, _, _, rfl⟩ := hs
  unfold deferredCallback setInterval call
  simp only
  split
  · simp [State.setProfiling, startOptions]
  · rfl

theorem step_given (s : State) (e : Event) (t : State) (h : Given s) (he : Succeeds e)
    (hs : step s e = some t) : Given t := by
  cases e with
  | startInitial enabled native => exact absurd he id
  | applyRemoteConfiguration config =>
    obtain rfl := Option.some_inj.mp hs
    exact h.frame rfl rfl rfl h.snapshots
  | stopAll =>
    obtain rfl := Option.some_inj.mp hs
    exact h.frame rfl rfl rfl h.snapshots
  | turn j native =>
    obtain ⟨job, progress, u, _, _, hturn, rfl⟩ := State.turn_cases hs
    exact (h.turn hturn).frame rfl rfl rfl (h.turn hturn).snapshots
  | deferred id =>
    obtain ⟨profiling, hprofiling, rfl⟩ := Option.map_eq_some_iff.mp hs
    exact h.deferred hprofiling
  | snapshot e =>
    obtain ⟨modules, hmodules, rfl⟩ := Option.map_eq_some_iff.mp hs
    obtain ⟨registered, profiler, hregistered, _, _, hstep, rfl⟩ := snapshotStep_cases hmodules
    refine h.frame rfl rfl rfl ?_
    rintro _ ⟨⟩
    exact (h.snapshots registered hregistered).step hstep

/-! ## One config -/

theorem checkName_cpu :
    checkName (some (unitsOf "splunk-otel-js-profiler")) =
      .ok (unitsOf "splunk-otel-js-profiler") := by
  decide

theorem checkName_snapshots :
    checkName (some (unitsOf "splunk-snapshot-profiler")) =
      .ok (unitsOf "splunk-snapshot-profiler") := by
  decide

theorem positive_of_valid {feature : SampledFeature} {ms : Number}
    (h : ms ∈ validInterval feature) : ms.positive = true :=
  (Option.filter_eq_some_iff.mp h).2

theorem cpu_reaches_iff (h : Given s) {ms : Number} {memoryEnabled : Bool}
    (hms : ms.positive = true) (hcpu : cpuProfiler s = some (ms, memoryEnabled)) :
    (∃ options, cpuNativeOptions s = some options ∧ ConfiguredWith ms options) ↔ Fits ms := by
  obtain ⟨running, hrunning, heq⟩ := Option.map_eq_some_iff.mp hcpu
  obtain ⟨rfl, rfl⟩ := Prod.mk.inj heq
  have hgiven := h.cpu running hrunning
  rw [hgiven, ← @configuredWith_iff _ hms (runningOptions s.controller.baseOptions running) _
    checkName_cpu rfl]
  simp

theorem snapshots_reach_iff (h : Given t) {config : RemoteProfilingConfig} {ms : Number}
    (hms : ms ∈ validInterval config.callgraphs) (happlied : CallgraphsApplied s t config) :
    (∃ options, snapshotNativeOptions t = some options ∧ ConfiguredWith ms options) ↔ Fits ms := by
  obtain ⟨before, after, _, hafter, _, hinterval⟩ := happlied.profiler
  have hsame := h.snapshots after hafter
  rw [hms, Option.getD_some] at hinterval
  unfold snapshotNativeOptions
  rw [hafter, Option.map_some, hsame, hinterval,
    ← @configuredWith_iff _ (positive_of_valid hms) (nativeSnapshotOptions ms) _
      checkName_snapshots rfl]
  simp

theorem settled_iff {base : ProfilingOptions} (h : Inv base s)
    (hregistered : SnapshotsRegistered s.modules) (hgiven : Given s) {e : Event} (he : Succeeds e)
    {config : RemoteProfilingConfig} (hs : Settles s e t config) :
    ((config.cpuProfiler.enabled → ∀ ms ∈ validInterval config.cpuProfiler,
        ∃ options, cpuNativeOptions t = some options ∧ ConfiguredWith ms options) ∧
      ∀ ms ∈ validInterval config.callgraphs,
        ∃ options, snapshotNativeOptions t = some options ∧ ConfiguredWith ms options) ↔
    (config.cpuProfiler.enabled → ∀ ms ∈ validInterval config.cpuProfiler, Fits ms) ∧
      ∀ ms ∈ validInterval config.callgraphs, Fits ms := by
  obtain ⟨j, native, job, rfl, hstep, hjob, htask, hsettled⟩ := hs
  have hgiven' := step_given s _ t hgiven he hstep
  obtain ⟨_, job', _, hjob', htask', _, _, _, houtcome⟩ :=
    ((step_applied s _ t h he hstep).2 hregistered).2
  obtain rfl := Option.some_inj.mp (hjob.symm.trans hjob')
  obtain ⟨error, herror⟩ : ∃ error, job.progress = .settled error := by
    cases hprogress : job.progress with
    | settled error => exact ⟨error, rfl⟩
    | _ => simp [hprogress, Progress.isSettled] at hsettled
  have happlied := houtcome error herror
  rw [← htask', htask] at happlied
  obtain ⟨hcallgraphs, hcpu⟩ := happlied
  apply and_congr
  · apply imp_congr_right
    intro henabled
    apply forall₂_congr
    intro ms hms
    have halone : (Task.apply config).memoryAlone = false := by
      simp [Task.memoryAlone, henabled]
    rw [halone, if_neg (by decide), Task.wanted, if_pos henabled, hms, Option.getD_some] at hcpu
    exact cpu_reaches_iff hgiven' (positive_of_valid hms) hcpu.2
  · apply forall₂_congr
    intro ms hms
    exact snapshots_reach_iff hgiven' hms hcallgraphs

/-! ## Runs -/

theorem started_given (baseOptions : ProfilingOptions) (samplingIntervalMs : Number)
    (active : Bool) (profilerHandle : ℕ) (initial : Option Bool) (tracingContextManager : Bool) :
    Given (started baseOptions (.new samplingIntervalMs active) profilerHandle initial
      tracingContextManager) := by
  have hfresh : Given (fresh baseOptions
      (some ⟨.new samplingIntervalMs active, profilerHandle⟩)) := by
    refine ⟨by rintro _ ⟨⟩, ?_⟩
    rintro _ ⟨⟩
    rfl
  unfold started
  cases initial with
  | none => exact hfresh
  | some enabled =>
    simp only [State.startInitial_state]
    split
    · exact hfresh.startCpu _ _ _
    · exact hfresh.frame rfl rfl rfl hfresh.snapshots

/-- **Sampling intervals.** When the native calls succeed, the intervals of the configs applied in
a run reach the native profilers, positive and rounded toward zero, exactly when each of them is at
least a microsecond, less than 2^31 of them, and not rounded up by the product. -/
theorem intervals_reach_iff (baseOptions : ProfilingOptions) (samplingIntervalMs : Number)
    (active : Bool) (profilerHandle : ℕ) (initial : Option Bool) (tracingContextManager : Bool)
    (es : List Event) (hes : ∀ e ∈ es, Succeeds e) :
    let s := started baseOptions (.new samplingIntervalMs active) profilerHandle initial
      tracingContextManager
    Along step IntervalsReach s es ↔ Along step IntervalsFit s es := by
  intro s
  have hkeeps : ∀ s e t, Inv baseOptions s ∧ SnapshotsRegistered s.modules ∧ Given s →
      Succeeds e → step s e = some t →
        Inv baseOptions t ∧ SnapshotsRegistered t.modules ∧ Given t := by
    rintro s e t ⟨h, hregistered, hgiven⟩ he hs
    have happlied := step_applied s e t h he hs
    exact ⟨happlied.1, (happlied.2 hregistered).1, step_given s e t hgiven he hs⟩
  have hagree : ∀ s e t, Inv baseOptions s ∧ SnapshotsRegistered s.modules ∧ Given s →
      Succeeds e → step s e = some t → (IntervalsReach s e ↔ IntervalsFit s e) := by
    rintro s e _ ⟨h, hregistered, hgiven⟩ he _
    unfold IntervalsReach IntervalsFit
    apply forall₂_congr
    intro t config
    apply imp_congr_right
    intro hs
    exact settled_iff h hregistered hgiven he hs
  have hinv : Inv baseOptions s := started_inv ..
  exact along_congr_of_along hkeeps hagree es s ⟨hinv, started_registered .., started_given ..⟩
    (along_of_forall_mem es s hes)

def alwaysOn : ProfilingOptions where
  callstackInterval := 1000
  collectionDuration := 30000
  memoryProfilingEnabled := false

/-- The CPU profiler with one interval and the snapshot profiler with another. -/
def withIntervals (cpu callgraphs : Number) : RemoteProfilingConfig where
  cpuProfiler := { enabled := true, samplingInterval := some cpu }
  memoryProfiler := { enabled := false }
  callgraphs := { enabled := true, samplingInterval := some callgraphs }

theorem intervals_of_one_config :
    let s := started alwaysOn (.new 1 false) 0 (some true) false
    let es : List Event := [.applyRemoteConfiguration (withIntervals 250 5), .turn 0 {},
      .turn 0 {}, .turn 0 {}, .turn 0 {}]
    Along step IntervalsReach s es ↔ Along step IntervalsFit s es :=
  intervals_reach_iff alwaysOn 1 false 0 (some true) false _ (by simp [Succeeds])

/-- 3 000 000 000 microseconds do not fit 32 bits. -/
theorem fifty_minutes_lost :
    ¬ Along step IntervalsReach (started alwaysOn (.new 1 false) 0 none false)
      [.applyRemoteConfiguration (withIntervals 3000000 5), .turn 0 {}, .turn 0 {}] := by
  intro h
  obtain ⟨options, hoptions, hreached⟩ :=
    (h.2.2.1 _ _ ⟨0, {}, _, rfl, rfl, rfl, rfl, rfl⟩).1 rfl 3000000 rfl
  obtain rfl := Option.some_inj.mp hoptions
  have hfits := (configuredWith_iff rfl checkName_cpu rfl).mp hreached
  exact absurd hfits.2.1 (by norm_num)

end Controller.Interval

end SplunkOtel
