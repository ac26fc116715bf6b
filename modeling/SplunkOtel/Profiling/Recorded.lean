import SplunkOtel.Configuration.Declarative
import SplunkOtel.Profiling.Mirror
import SplunkOtel.Profiling.RemoteApply
import SplunkOtel.Start.Process

/-!
# What is recorded after `start()`

When the native calls succeed, the effective state says what runs: of the CPU and the memory profiler
except while a stop is awaited, and of the snapshot profiler always.
-/

open Lib Lib.Run

namespace SplunkOtel.Controller.Recorded

open Js OpAMP Snapshots SplunkOtel.Configuration
open StartProfiling (ProfilingOptions)
open State (Turn)
open RemoteApply (Succeeds TaskTrue cpuProfiler)

/-- The interval of the snapshot profiler, while that is active. -/
def callgraphs (m : Modules) : Option Number :=
  m.snapshots.bind fun registered =>
    if registered.profiler.active then some registered.profiler.samplingIntervalMs else none

def AllSettled (s : State) : Prop :=
  ∀ job ∈ s.controller.queue.jobs, job.progress.isSettled = true

/-- The controller and the modules that a `start()` leaves. -/
def launched (o : Start.Options) (tracingContextManager : Bool) : State :=
  let s := ((fresh o.profilingOptions none).startInitial o.profilerEnabled
    { tracingContextManager }).1
  { s with modules := Start.startSignals (Start.startSnapshots s.modules o) o }

/-! ## The invariant -/

/-- The effective state says of the snapshot profiler what is so. -/
structure CallgraphsRecorded (m : Modules) : Prop where
  handle : ∀ registered ∈ m.snapshots, 0 ≤ registered.profilerHandle
  enabled : m.effectiveState.snapshotProfilerEnabled = some (callgraphs m).isSome
  interval : ∀ registered ∈ m.snapshots,
    m.effectiveState.snapshotSamplingInterval = some registered.profiler.samplingIntervalMs

/-- The interval of the CPU profiler comes from a valid config or from the base options. -/
def IntervalGiven (base : ProfilingOptions) (s : State) : Prop :=
  ∀ running ∈ s.controller.running,
    running.samplingInterval.positive = true ∨ running.samplingInterval = base.callstackInterval

structure Faithful (base : ProfilingOptions) (s : State) : Prop where
  cpu : s.modules.effectiveState.profilerEnabled ≠ none
  callgraphs : CallgraphsRecorded s.modules
  interval : IntervalGiven base s

structure Inv (base : ProfilingOptions) (s : State) : Prop where
  apply : RemoteApply.Inv base s
  mirror : Mirror.Inv s
  faithful : Faithful base s

variable {base : ProfilingOptions} {s t : State}

theorem CallgraphsRecorded.frame {m m' : Modules} (h : CallgraphsRecorded m)
    (hsnapshots : m'.snapshots = m.snapshots)
    (henabled : m'.effectiveState.snapshotProfilerEnabled =
      m.effectiveState.snapshotProfilerEnabled)
    (hinterval : m'.effectiveState.snapshotSamplingInterval =
      m.effectiveState.snapshotSamplingInterval) : CallgraphsRecorded m' := by
  constructor
  · rw [hsnapshots]
    exact h.handle
  · rw [henabled, callgraphs, hsnapshots]
    exact h.enabled
  · rw [hinterval, hsnapshots]
    exact h.interval

theorem wanted_interval {task : Task} {wanted : Number × Bool} (h : task.wanted base = some wanted) :
    wanted.1.positive = true ∨ wanted.1 = base.callstackInterval := by
  cases task with
  | stopAll => cases h
  | apply config =>
    simp only [Task.wanted, Option.ite_none_right_eq_some, Option.some_inj] at h
    obtain ⟨_, rfl⟩ := h
    cases hinterval : validInterval config.cpuProfiler with
    | none => exact Or.inr rfl
    | some ms => exact Or.inl (Option.mem_filter_iff.mp hinterval).2

theorem startCpu_records (s : State) (wanted : Number × Bool) (native : Native) :
    let t := (s.startCpu wanted.1 wanted.2 native).1
    t.modules.effectiveState.profilerEnabled ≠ none ∧
      t.modules.effectiveState.snapshotProfilerEnabled =
        s.modules.effectiveState.snapshotProfilerEnabled ∧
      t.modules.effectiveState.snapshotSamplingInterval =
        s.modules.effectiveState.snapshotSamplingInterval ∧
      ∀ running ∈ t.controller.running,
        s.controller.running = some running ∨ running.samplingInterval = wanted.1 := by
  rcases State.startCpu_cases s wanted.1 wanted.2 native with
    ⟨_, _, ht⟩ | ⟨_, _, heffective, hcontroller⟩
  · simp only [ht]
    exact ⟨by rintro ⟨⟩, rfl, rfl, fun running hrunning => Or.inl hrunning⟩
  · simp only [heffective]
    refine ⟨by rintro ⟨⟩, rfl, rfl, ?_⟩
    rcases hcontroller with ⟨_, _, _, hcontroller⟩ | ⟨_, _, hstarted⟩
    · rw [hcontroller]
      exact fun running hrunning => Or.inl hrunning
    · rw [hstarted.controller]
      rintro _ ⟨⟩
      exact Or.inr rfl

theorem startCpu_interval (h : IntervalGiven base s) (wanted : Number × Bool)
    (hwanted : wanted.1.positive = true ∨ wanted.1 = base.callstackInterval) (native : Native) :
    IntervalGiven base (s.startCpu wanted.1 wanted.2 native).1 := by
  intro running hrunning
  obtain ⟨_, _, _, hinterval⟩ := startCpu_records s wanted native
  rcases hinterval running hrunning with hsame | hstarted
  · exact h running hsame
  · rw [hstarted]
    exact hwanted

theorem startCpu_faithful (h : Faithful base s) {wanted : Number × Bool}
    (hwanted : wanted.1.positive = true ∨ wanted.1 = base.callstackInterval) (native : Native) :
    Faithful base (s.startCpu wanted.1 wanted.2 native).1 := by
  obtain ⟨hcpu, henabled, hinterval, _⟩ := startCpu_records s wanted native
  exact ⟨hcpu, h.callgraphs.frame (State.startCpu_snapshots ..) henabled hinterval,
    startCpu_interval h.interval wanted hwanted native⟩

theorem setSnapshotProfilingActive_effective {m : Modules} {registered : Registered}
    (hregistered : m.snapshots = some registered) (hvalid : 0 ≤ registered.profilerHandle)
    (active : Bool) (samplingIntervalMs : Option Number) (stacktraces : Option ℕ) :
    let effectiveState :=
      (m.setSnapshotProfilingActive active samplingIntervalMs stacktraces).1.effectiveState
    effectiveState.snapshotProfilerEnabled = some active ∧
      effectiveState.snapshotSamplingInterval =
        (samplingIntervalMs.filter Number.positive <|>
          m.effectiveState.snapshotSamplingInterval) := by
  have heffective : decide (active = true ∧ 0 ≤ registered.profilerHandle) = active := by
    simp [hvalid]
  unfold Modules.setSnapshotProfilingActive
  simp only [hregistered, heffective]
  cases samplingIntervalMs.filter Number.positive with
  | none => exact ⟨rfl, rfl⟩
  | some ms => exact ⟨rfl, rfl⟩

theorem setSnapshotProfilingActive_recorded {m : Modules} (h : CallgraphsRecorded m)
    (active : Bool) (samplingIntervalMs : Option Number) (stacktraces : Option ℕ) :
    CallgraphsRecorded (m.setSnapshotProfilingActive active samplingIntervalMs stacktraces).1 := by
  cases hregistered : m.snapshots with
  | none =>
    unfold Modules.setSnapshotProfilingActive
    simp only [hregistered]
    exact h
  | some registered =>
    have hvalid := h.handle registered hregistered
    obtain ⟨_, after, hafter, hhandle, hactive, hinterval⟩ :=
      RemoteApply.setSnapshotProfilingActive_registered hregistered hvalid active
        samplingIntervalMs stacktraces
    obtain ⟨henabled, hrecorded⟩ := setSnapshotProfilingActive_effective hregistered hvalid active
      samplingIntervalMs stacktraces
    constructor
    · rw [hafter]
      rintro _ ⟨⟩
      rw [hhandle]
      exact hvalid
    · rw [henabled, callgraphs, hafter]
      cases active <;> simp [hactive]
    · rw [hafter]
      rintro _ ⟨⟩
      rw [hrecorded, hinterval, h.interval registered hregistered]
      cases samplingIntervalMs.filter Number.positive <;> rfl

theorem applyCallgraphs_modules (s : State) (config : RemoteProfilingConfig) (native : Native) :
    (s.applyCallgraphs config native).1.modules =
      (s.modules.setSnapshotProfilingActive config.callgraphs.enabled
        (validInterval config.callgraphs) native.stacktraces).1 := by
  unfold State.applyCallgraphs
  simp only
  split <;> rfl

/-! ## One step -/

theorem turn_faithful {native : Native} {task : Task}
    {before after : Progress Stage (Option String)} (h : Faithful base s)
    (hbase : s.controller.baseOptions = base) (htask : TaskTrue base s task before)
    (hturn : Turn native s task before after t) : Faithful base t := by
  cases hturn with
  | stop running t _ _ _ hstopping =>
    refine ⟨?_, h.callgraphs.frame hstopping.snapshots ?_ ?_, ?_⟩
    · rw [hstopping.effectiveState]
      exact h.cpu
    · rw [hstopping.effectiveState]
    · rw [hstopping.effectiveState]
    · unfold IntervalGiven
      rw [hstopping.controller]
      rintro _ ⟨⟩
  | start samplingInterval memoryEnabled hwanted =>
    rw [hbase] at hwanted
    exact startCpu_faithful h (wanted_interval hwanted) native
  | record restart => exact ⟨by rintro ⟨⟩, h.callgraphs.frame rfl rfl rfl, h.interval⟩
  | restart samplingInterval memoryEnabled =>
    have hwanted : task.wanted base = some (samplingInterval, memoryEnabled) := htask.2.1.symm
    exact startCpu_faithful h (wanted_interval hwanted) native
  | callgraphs config =>
    have honly := State.applyCallgraphs_only s config native
    obtain ⟨_, _, hprofiling⟩ := honly.profiling
    refine ⟨?_, ?_, ?_⟩
    · rw [Modules.effectiveState, hprofiling]
      exact h.cpu
    · rw [applyCallgraphs_modules]
      exact setSnapshotProfilingActive_recorded h.callgraphs _ _ _
    · unfold IntervalGiven
      rw [honly.running]
      exact h.interval
  | _ => exact h

theorem recordsTrue {e : Event} (h : RemoteApply.Inv base s) (he : Succeeds e) :
    Mirror.RecordsTrue s e := by
  cases e with
  | startInitial enabled native => exact absurd he id
  | turn j native =>
    have hstarts (hnone : s.controller.running = none) (wanted : Number × Bool) :
        Mirror.StartsTrue s wanted native := by
      have hfailure : startFailure s native = none :=
        startFailure_none he.2 (by rw [h.sound.handle.native, hnone]; rfl)
      unfold Mirror.StartsTrue
      rw [if_pos he.1, hfailure]
      exact fun hne => absurd rfl hne
    intro job hjob
    have htask := h.tasks j job hjob
    unfold Mirror.TurnTrue
    split
    · exact fun hnone wanted _ => hstarts hnone wanted
    · rename_i hprogress
      rw [hprogress] at htask
      exact htask.2.2
    · rename_i hprogress
      rw [hprogress] at htask
      exact fun _ => hstarts htask.2.2 _
    · trivial
  | applyRemoteConfiguration | stopAll | deferred | snapshot => trivial

theorem Faithful.frame (h : Faithful base s) (hcontroller : t.controller.running = s.controller.running)
    (hsnapshots : t.modules.snapshots = s.modules.snapshots)
    (heffective : t.modules.effectiveState = s.modules.effectiveState) : Faithful base t := by
  refine ⟨?_, h.callgraphs.frame hsnapshots (by rw [heffective]) (by rw [heffective]), ?_⟩
  · rw [heffective]
    exact h.cpu
  · unfold IntervalGiven
    rw [hcontroller]
    exact h.interval

theorem snapshotStep_recorded {m m' : Modules} {e : Snapshots.Event} (h : CallgraphsRecorded m)
    (hm : snapshotStep m e = some m') : CallgraphsRecorded m' := by
  obtain ⟨registered, profiler, hregistered, hvalid, htraces, hstep, rfl⟩ := snapshotStep_cases hm
  obtain ⟨hactive, hinterval⟩ := ofTraces_settings htraces hstep
  constructor
  · rintro _ ⟨⟩
    exact hvalid
  · have henabled := h.enabled
    simp only [callgraphs, hregistered, Option.bind_some] at henabled ⊢
    rw [hactive, hinterval]
    exact henabled
  · rintro _ ⟨⟩
    rw [hinterval]
    exact h.interval registered hregistered

theorem step_faithful {e : Event} (h : Inv base s) (he : Succeeds e) (hs : step s e = some t) :
    Faithful base t := by
  cases e with
  | startInitial enabled native => exact absurd he id
  | applyRemoteConfiguration config =>
    obtain rfl := Option.some_inj.mp hs
    exact h.faithful.frame rfl rfl rfl
  | stopAll =>
    obtain rfl := Option.some_inj.mp hs
    exact h.faithful.frame rfl rfl rfl
  | turn j native =>
    obtain ⟨job, progress, u, hjob, _, hturn, rfl⟩ := State.turn_cases hs
    have hu := turn_faithful h.faithful h.apply.sound.base (h.apply.tasks j job hjob) hturn
    exact hu.frame rfl rfl rfl
  | deferred id =>
    obtain ⟨profiling, hprofiling, rfl⟩ := Option.map_eq_some_iff.mp hs
    exact h.faithful.frame rfl rfl (StartProfiling.deferred_frame hprofiling).1
  | snapshot e =>
    obtain ⟨modules, hmodules, rfl⟩ := Option.map_eq_some_iff.mp hs
    obtain ⟨_, _, _, _, _, _, rfl⟩ := snapshotStep_cases hmodules
    exact ⟨h.faithful.cpu, snapshotStep_recorded h.faithful.callgraphs hmodules, h.faithful.interval⟩

theorem step_inv (s : State) (e : Event) (t : State) (h : Inv base s) (he : Succeeds e)
    (hs : step s e = some t) : Inv base t where
  apply := (RemoteApply.step_applied s e t h.apply he hs).1
  mirror := Mirror.step_inv s e t h.mirror (recordsTrue h.apply he) hs
  faithful := step_faithful h he hs

theorem Inv.records (h : Inv base s) (hsettled : AllSettled s) :
    Records s.modules.effectiveState (cpuProfiler s) (callgraphs s.modules) := by
  have hmirrors : Mirror.Mirrors s := by
    apply h.mirror.2
    rintro ⟨restart, j, job, hjob, hrunning⟩
    have hdone := hsettled job (List.mem_of_getElem? hjob)
    rw [hrunning] at hdone
    cases hdone
  have hcallgraphs := h.faithful.callgraphs
  refine ⟨?_, ?_, ?_, hcallgraphs.enabled, ?_⟩
  · have henabled := hmirrors.enabled
    cases hrecorded : s.modules.effectiveState.profilerEnabled with
    | none => exact absurd hrecorded h.faithful.cpu
    | some b =>
      rw [hrecorded] at henabled
      unfold cpuProfiler
      cases hrunning : s.controller.running <;> cases b <;> simp_all
  · intro c hc
    obtain ⟨running, hrunning, rfl⟩ := Option.map_eq_some_iff.mp hc
    exact (hmirrors.running running hrunning).2
  · intro c hc
    obtain ⟨running, hrunning, rfl⟩ := Option.map_eq_some_iff.mp hc
    exact (hmirrors.running running hrunning).1
  · intro ms hms
    obtain ⟨registered, hregistered, hactive⟩ := Option.bind_eq_some_iff.mp hms
    simp only [Option.ite_none_right_eq_some, Option.some_inj] at hactive
    rw [hcallgraphs.interval registered hregistered, hactive.2]

/-! ## After `start()` -/

theorem startInitial_succeeds (baseOptions : ProfilingOptions)
    (enabled tracingContextManager : Bool) :
    ((fresh baseOptions none).startInitial enabled { tracingContextManager }).2 = none := by
  cases enabled with
  | false => rfl
  | true => cases tracingContextManager <;> rfl

/-- What `start()` leaves when nothing was started before. -/
theorem start_launched (o : Start.Options) (tracingContextManager : Bool) :
    let s := launched o tracingContextManager
    Start.start {} o { tracingContextManager } =
      { modules := s.modules
        runs := [{ controller := s.controller, remoteConfigEnabled := o.remoteConfigEnabled }]
        current := some 0 } := by
  have hsucceeds :=
    startInitial_succeeds o.profilingOptions o.profilerEnabled tracingContextManager
  unfold fresh at hsucceeds
  unfold Start.start launched fresh
  rw [if_neg (by decide)]
  simp only [hsucceeds]
  rfl

theorem startSnapshots_recorded {m : Modules} (hnone : m.snapshots = none) (o : Start.Options)
    (hhandle : 0 ≤ o.profilerHandle) : CallgraphsRecorded (Start.startSnapshots m o) := by
  have hregistered (active : Bool) :
      CallgraphsRecorded (Start.startSnapshotProfiling m o active) := by
    constructor
    · rintro _ ⟨⟩
      exact hhandle
    · cases active <;> simp [Start.startSnapshotProfiling, callgraphs, hhandle,
        SnapshotProfiler.new, Modules.recordEffectiveState, Modules.effectiveState,
        recordEffectiveState]
    · rintro _ ⟨⟩
      rfl
  unfold Start.startSnapshots
  split
  · exact hregistered true
  · split
    · exact hregistered false
    · constructor
      · simp [Modules.recordEffectiveState, hnone]
      · simp [Modules.recordEffectiveState, Modules.effectiveState, callgraphs, hnone,
          recordEffectiveState]
      · simp [Modules.recordEffectiveState, hnone]

theorem startInitial_mirror (baseOptions : ProfilingOptions) (enabled : Bool) (native : Native)
    (hnative : native.startError = none) :
    Mirror.Inv ((fresh baseOptions none).startInitial enabled native).1 := by
  refine ⟨?_, (Mirror.startInitial_mirrors _ enabled native).mpr fun _ => ?_⟩
  · rw [(State.startInitial_queue _ enabled native).1]
    exact PromiseChain.linked_empty
  · have hfailure : startFailure (fresh baseOptions none) native = none :=
      startFailure_none hnative rfl
    split
    · unfold Mirror.StartsTrue
      split
      · exact fun hne => absurd hfailure hne
      · rfl
    · rfl

theorem startInitial_records (baseOptions : ProfilingOptions) (enabled : Bool) (native : Native) :
    let t := ((fresh baseOptions none).startInitial enabled native).1
    t.modules.effectiveState.profilerEnabled ≠ none ∧ t.modules.snapshots = none ∧
      IntervalGiven baseOptions t := by
  rw [State.startInitial_state]
  have hfresh : IntervalGiven baseOptions (fresh baseOptions none) := by rintro _ ⟨⟩
  split
  · have hrecords := startCpu_records (fresh baseOptions none)
      (baseOptions.callstackInterval, baseOptions.memoryProfilingEnabled) native
    have hsnapshots := State.startCpu_snapshots (fresh baseOptions none)
      baseOptions.callstackInterval baseOptions.memoryProfilingEnabled native
    have hinterval := startCpu_interval hfresh
      (baseOptions.callstackInterval, baseOptions.memoryProfilingEnabled) (Or.inr rfl) native
    exact ⟨hrecords.1, hsnapshots, hinterval⟩
  · exact ⟨by rintro ⟨⟩, rfl, hfresh⟩

theorem launched_inv (o : Start.Options) (hhandle : 0 ≤ o.profilerHandle)
    (tracingContextManager : Bool) : Inv o.profilingOptions (launched o tracingContextManager) := by
  have hinv := RemoteApply.startInitial_inv o.profilingOptions none o.profilerEnabled
    tracingContextManager
  have hmirror := startInitial_mirror o.profilingOptions o.profilerEnabled
    { tracingContextManager } rfl
  obtain ⟨hcpu, hnone, hinterval⟩ := startInitial_records o.profilingOptions o.profilerEnabled
    { tracingContextManager }
  unfold launched
  generalize ((fresh o.profilingOptions none).startInitial o.profilerEnabled
    { tracingContextManager }).1 = s at *
  have hkept := Start.startSignals_kept s.modules o
  refine ⟨?_, ⟨hmirror.1, fun hawaits => ?_⟩, ?_, ?_, hinterval⟩
  · exact hinv.frame (hinv.sound.frame rfl rfl hkept.running hkept.starts) rfl rfl
  · exact (hmirror.2 hawaits).frame rfl hkept.profilerEnabled hkept.memoryProfilerEnabled
      hkept.callStackInterval
  · rw [hkept.profilerEnabled]
    exact hcpu
  · exact (startSnapshots_recorded hnone o hhandle).frame rfl rfl rfl

/-- **After the first `start()`.** When the native calls succeed, then in every state with all tasks
settled the effective state records what runs of the CPU, the memory and the snapshot profiler. -/
theorem started_recorded (o : Start.Options) (hhandle : 0 ≤ o.profilerHandle)
    (tracingContextManager : Bool) (es : List Event) (hes : ∀ e ∈ es, Succeeds e) :
    let p := Start.start {} o { tracingContextManager }
    ∃ run, p.runs = [run] ∧
      Always step (fun s => AllSettled s →
          Records s.modules.effectiveState (cpuProfiler s) (callgraphs s.modules))
        ⟨run.controller, p.modules⟩ es := by
  rw [start_launched]
  refine ⟨_, rfl, ?_⟩
  exact always_of_along (fun _ h hsettled => h.records hsettled) step_inv es _
    (launched_inv o hhandle tracingContextManager) (along_of_forall_mem es _ hes)

theorem started_profilers_recorded :
    let o : Start.Options :=
      { profilingOptions :=
          { callstackInterval := 1000, collectionDuration := 30000, memoryProfilingEnabled := true }
        profilerEnabled := true
        opampEnabled := true
        remoteConfig := true }
    let p := Start.start {} o { tracingContextManager := true }
    ∃ run, p.runs = [run] ∧
      Always step (fun s => AllSettled s →
          Records s.modules.effectiveState (cpuProfiler s) (callgraphs s.modules))
        ⟨run.controller, p.modules⟩
        [.applyRemoteConfiguration ⟨⟨true, some 500⟩, ⟨true⟩, ⟨true, none⟩⟩,
          .turn 0 {}, .turn 0 {}, .turn 0 {}, .turn 0 {}] :=
  started_recorded _ (by decide) true _ (by simp [Succeeds])

end SplunkOtel.Controller.Recorded
