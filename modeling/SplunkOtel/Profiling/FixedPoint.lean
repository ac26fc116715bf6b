import SplunkOtel.Profiling.Recorded

/-!
# The reported config as a remote config

The server can send back the config that the agent reports as its effective one. It then asks for
what runs already, so the controller should find nothing to do.
-/

open Lib Lib.Run

namespace SplunkOtel.Controller.FixedPoint

open Js OpAMP Snapshots SplunkOtel.Configuration
open StartProfiling (ProfilingOptions)
open State (Turn)
open RemoteApply (Succeeds cpuProfiler turnsLeft)
open Recorded (callgraphs AllSettled launched CallgraphsRecorded Inv launched_inv step_inv)

/-- A remote config for just what runs. -/
def runningConfig (s : State) : RemoteProfilingConfig :=
  describe (cpuProfiler s) (callgraphs s.modules)

/-- The remote config carries a document that is read back as this one. -/
def Carries (parseYaml : String → Except String Value) (remoteConfig : AgentRemoteConfig)
    (document : Value) : Prop :=
  ∃ file, remoteConfig.file = some file ∧ supportedContentType file.contentType = true ∧
    trim (decodeText file.body) ≠ "" ∧ parseYaml (decodeText file.body) = .ok document

/-- The config is submitted, and its task takes a turn with each of the native answers. -/
def applied (s : State) (config : RemoteProfilingConfig) (natives : List Native) : State :=
  natives.foldl (fun t native => (t.turn s.controller.queue.jobs.length native).getD t)
    (s.applyRemoteConfiguration config)

/-- No turn touches the profilers, what is recorded of them or the native side, and the config is
applied without an error. -/
structure ChangesNothing (s : State) (config : RemoteProfilingConfig) : Prop where
  same : ∀ natives, (applied s config natives).modules = s.modules ∧
    (applied s config natives).controller.running = s.controller.running
  settles : ∀ natives, 4 ≤ natives.length → ∃ job : QueuedTask,
    (applied s config natives).controller.queue.jobs[s.controller.queue.jobs.length]? = some job ∧
      job.progress = .settled none

/-- The document that is reported in a state asks for what runs, and applying it changes nothing. -/
def IsFixedPoint (loaded : Loaded) (s : State) : Prop :=
  ∀ parseYaml remoteConfig, Carries parseYaml remoteConfig
      (getEffectiveDeclarativeConfig loaded s.modules.effectiveState) →
    parseRemoteConfig parseYaml remoteConfig = .ok (runningConfig s) ∧
      ChangesNothing s (runningConfig s)

variable {base : ProfilingOptions} {s t : State}

/-! ## The document -/

theorem Carries.parse {parseYaml : String → Except String Value} {remoteConfig : AgentRemoteConfig}
    {document : Value} (h : Carries parseYaml remoteConfig document) :
    parseRemoteConfig parseYaml remoteConfig = .ok (profilingFeatures document) := by
  obtain ⟨file, hfile, hcontent, hbody, hparse⟩ := h
  unfold parseRemoteConfig
  simp only [hfile]
  rw [if_neg (by simp [hcontent]), if_neg hbody, hparse]
  rfl

/-! ## Applying it -/

theorem runningConfig_alone (s : State) : (Task.apply (runningConfig s)).memoryAlone = false := by
  unfold runningConfig describe Task.memoryAlone
  cases cpuProfiler s <;> simp

theorem runningConfig_wanted (h : Inv base s) :
    (Task.apply (runningConfig s)).wanted base = cpuProfiler s := by
  unfold runningConfig Task.wanted cpuProfiler
  cases hrunning : s.controller.running with
  | none => rfl
  | some running =>
    have hinterval : ((some running.samplingInterval).filter Number.positive).getD
        base.callstackInterval = running.samplingInterval := by
      rw [Option.filter_some]
      split
      · rfl
      · rename_i hinvalid
        exact ((h.faithful.interval running hrunning).resolve_left hinvalid).symm
    simp only [describe, Option.map_some, Option.isSome_some, if_true, validInterval, hinterval]
    rfl

theorem setActive_same (p : SnapshotProfiler) (stacktraces : Option ℕ) :
    p.setActive p.active stacktraces = p := by
  unfold SnapshotProfiler.setActive
  rw [if_pos rfl]

theorem setSamplingInterval_same (p : SnapshotProfiler) (h : p.samplingIntervalMs.positive = true) :
    p.setSamplingInterval p.samplingIntervalMs = p := by
  have hnumber : p.samplingIntervalMs ≠ .nan := by
    intro hnan
    rw [hnan] at h
    cases h
  unfold SnapshotProfiler.setSamplingInterval
  rw [if_pos (by simp [Number.strictEq, hnumber])]

theorem recordEffectiveState_same {m : Modules} {patch : EffectiveState}
    (h : recordEffectiveState m.effectiveState patch = m.effectiveState) :
    m.recordEffectiveState patch = m := by
  unfold Modules.recordEffectiveState
  unfold Modules.effectiveState at h
  rw [h]

theorem setSnapshotProfilingActive_same {m : Modules} (h : CallgraphsRecorded m)
    (stacktraces : Option ℕ) :
    m.setSnapshotProfilingActive (callgraphs m).isSome ((callgraphs m).filter Number.positive)
      stacktraces = (m, (callgraphs m).isSome) := by
  cases hregistered : m.snapshots with
  | none =>
    have hnone : callgraphs m = none := by simp [callgraphs, hregistered]
    unfold Modules.setSnapshotProfilingActive
    simp only [hregistered, hnone]
    rfl
  | some registered =>
    have hactive : (callgraphs m).isSome = registered.profiler.active := by
      simp only [callgraphs, hregistered, Option.bind_some]
      cases registered.profiler.active <;> rfl
    have heffective : decide (registered.profiler.active = true ∧ 0 ≤ registered.profilerHandle) =
        registered.profiler.active := by
      simp [h.handle registered hregistered]
    have henabled : m.recordEffectiveState
        { snapshotProfilerEnabled := some registered.profiler.active } = m := by
      apply recordEffectiveState_same
      rw [← hactive, ← h.enabled]
      simp [recordEffectiveState]
    have hsnapshots : ({ m with snapshots := some registered } : Modules) = m := by
      rw [← hregistered]
    unfold Modules.setSnapshotProfilingActive
    simp only [hregistered, hactive, heffective, Option.filter_filter, Bool.and_self]
    split
    · simp only [setActive_same, hsnapshots, henabled]
    · rename_i ms hms
      obtain ⟨hms, hpositive⟩ := Option.mem_filter_iff.mp hms
      obtain rfl : registered.profiler.samplingIntervalMs = ms := by
        simp only [callgraphs, hregistered, Option.bind_some, Option.mem_def,
          Option.ite_none_right_eq_some, Option.some_inj] at hms
        exact hms.2
      have hinterval : m.recordEffectiveState
          { snapshotSamplingInterval := some registered.profiler.samplingIntervalMs } = m := by
        apply recordEffectiveState_same
        rw [← h.interval registered hregistered]
        simp [recordEffectiveState]
      simp only [hinterval, setSamplingInterval_same _ hpositive, setActive_same, hsnapshots,
        henabled]

theorem applyCallgraphs_same (h : CallgraphsRecorded s.modules) (hmodules : t.modules = s.modules)
    (native : Native) :
    (t.applyCallgraphs (runningConfig s) native).1.modules = t.modules ∧
      (t.applyCallgraphs (runningConfig s) native).2 = none := by
  have hsame := setSnapshotProfilingActive_same h native.stacktraces
  have hactive : t.modules.setSnapshotProfilingActive (runningConfig s).callgraphs.enabled
      (validInterval (runningConfig s).callgraphs) native.stacktraces =
        (t.modules, (runningConfig s).callgraphs.enabled) := by
    rw [hmodules]
    exact hsame
  unfold State.applyCallgraphs
  simp only [hactive]
  split
  · rename_i hinactive
    exact absurd hinactive.1 hinactive.2
  · exact ⟨rfl, rfl⟩

/-- The stages of a task that changes nothing. -/
def Uneventful : Progress Stage (Option String) → Prop
  | .queued => True
  | .running (.stopping _) => False
  | .running (.stopped restart) => restart = none
  | .running (.callgraphs error) => error = none
  | .settled error => error = none

theorem turn_uneventful (h : Inv base s)
    (hnumber : ∀ running ∈ s.controller.running, running.samplingInterval ≠ .nan)
    (hmodules : t.modules = s.modules) (hrunning : t.controller.running = s.controller.running)
    (hbase : t.controller.baseOptions = base) {native : Native} {u : State}
    {before after : Progress Stage (Option String)} (hbefore : Uneventful before)
    (hturn : Turn native t (.apply (runningConfig s)) before after u) :
    Uneventful after ∧ u.modules = t.modules ∧ u.controller.running = t.controller.running ∧
      turnsLeft after < turnsLeft before := by
  have hwanted : (Task.apply (runningConfig s)).wanted t.controller.baseOptions = cpuProfiler t := by
    rw [hbase, runningConfig_wanted h, cpuProfiler, cpuProfiler, hrunning]
  cases hturn with
  | reject halone =>
    rw [runningConfig_alone] at halone
    cases halone
  | unchanged => exact ⟨rfl, rfl, rfl, by decide⟩
  | stop running _ _ hsome hchanged =>
    have hsame := hchanged (running.samplingInterval, running.memoryEnabled) (by
      rw [hwanted, cpuProfiler, hsome]
      rfl)
    have hnan := hnumber running (hrunning ▸ hsome)
    simp [RunningProfiler.unchanged, Number.strictEq, hnan] at hsame
  | idle => exact ⟨rfl, rfl, rfl, by decide⟩
  | start samplingInterval memoryEnabled hsome hnone =>
    rw [hwanted, cpuProfiler, hnone] at hsome
    cases hsome
  | record restart => exact absurd hbefore id
  | restart samplingInterval memoryEnabled => cases hbefore
  | noRestart => exact ⟨rfl, rfl, rfl, by decide⟩
  | callgraphs config error happly =>
    obtain rfl := Task.apply.inj happly
    obtain rfl : error = none := hbefore
    obtain ⟨hsame, hnone⟩ := applyCallgraphs_same h.faithful.callgraphs hmodules native
    refine ⟨?_, hsame, (State.applyCallgraphs_only t _ native).running, by simp [turnsLeft]⟩
    rw [hnone]
    rfl
  | done stage hstage hstop => cases hstop

/-- Nothing has changed since `s` but the task of the reported config, which has at most `n` turns
to take. -/
structure Still (s : State) (n : ℕ) (t : State) : Prop where
  modules : t.modules = s.modules
  running : t.controller.running = s.controller.running
  baseOptions : t.controller.baseOptions = s.controller.baseOptions
  linked : t.controller.queue.Linked
  others : ∀ (i : ℕ) (job : QueuedTask), t.controller.queue.jobs[i]? = some job →
    i ≠ s.controller.queue.jobs.length → job.progress.isSettled = true
  task : ∃ job : QueuedTask,
    t.controller.queue.jobs[s.controller.queue.jobs.length]? = some job ∧
      job.task = .apply (runningConfig s) ∧ Uneventful job.progress ∧ turnsLeft job.progress ≤ n

theorem submitted_still (h : Inv base s) (hsettled : AllSettled s) :
    Still s 4 (s.applyRemoteConfiguration (runningConfig s)) := by
  refine ⟨rfl, rfl, rfl, h.apply.linked.submit _, fun i job hi hne => ?_, ?_⟩
  · rcases PromiseChain.getElem?_submit hi with hi | ⟨hi, _⟩
    · exact hsettled job (List.mem_of_getElem? hi)
    · exact absurd hi hne
  · exact ⟨_, List.getElem?_concat_length, rfl, trivial, Nat.le_refl 4⟩

theorem Still.hasTurn {n : ℕ} (h : Still s n t) {job : QueuedTask}
    (hjob : t.controller.queue.jobs[s.controller.queue.jobs.length]? = some job)
    (hopen : job.progress.isSettled = false) :
    t.controller.queue.HasTurn s.controller.queue.jobs.length := by
  obtain ⟨i, hi⟩ := PromiseChain.exists_hasTurn h.linked _ job hjob hopen
  obtain ⟨other, hother, hunsettled, _⟩ := id hi
  obtain rfl : i = s.controller.queue.jobs.length := by
    by_contra hne
    rw [h.others i other hother hne] at hunsettled
    cases hunsettled
  exact hi

theorem turn_still (h : Inv base s)
    (hnumber : ∀ running ∈ s.controller.running, running.samplingInterval ≠ .nan) {n : ℕ}
    (ht : Still s n t) (native : Native) :
    Still s (n - 1) ((t.turn s.controller.queue.jobs.length native).getD t) := by
  obtain ⟨job, hjob, htask, huneventful, hleft⟩ := ht.task
  cases hturn : t.turn s.controller.queue.jobs.length native with
  | none =>
    have hsettled : job.progress.isSettled = true := by
      by_contra hopen
      have hsome := RemoteApply.turn_isSome (ht.hasTurn hjob (by simpa using hopen)) native
      rw [hturn] at hsome
      cases hsome
    refine ⟨ht.modules, ht.running, ht.baseOptions, ht.linked, ht.others, job, hjob, htask,
      huneventful, ?_⟩
    rcases hprogress : job.progress with _ | _ | _
    · rw [hprogress] at hsettled
      cases hsettled
    · rw [hprogress] at hsettled
      cases hsettled
    · exact Nat.zero_le _
  | some u =>
    obtain ⟨job', progress, v, hjob', hhas, hturn', rfl⟩ := State.turn_cases hturn
    obtain rfl := Option.some_inj.mp (hjob.symm.trans hjob')
    rw [htask] at hturn'
    obtain ⟨hafter, hmodules, hrunning, hfewer⟩ := turn_uneventful h hnumber ht.modules ht.running
      (ht.baseOptions.trans h.apply.sound.base) huneventful hturn'
    have hget := hturn'.jobs_advance s.controller.queue.jobs.length progress
    refine ⟨hmodules.trans ht.modules, hrunning.trans ht.running,
      hturn'.queue.2.trans ht.baseOptions, hturn'.linked_advance ht.linked hhas progress,
      fun i other hi hne => ?_, ?_⟩
    · rw [Option.getD_some, hget, if_neg (Ne.symm hne)] at hi
      exact ht.others i other hi hne
    · refine ⟨{ job with progress }, ?_, htask, hafter, ?_⟩
      · rw [Option.getD_some, hget, if_pos rfl, hjob]
        rfl
      · simp only
        omega

theorem applied_still (h : Inv base s) (hsettled : AllSettled s)
    (hnumber : ∀ running ∈ s.controller.running, running.samplingInterval ≠ .nan)
    (natives : List Native) :
    Still s (4 - natives.length) (applied s (runningConfig s) natives) := by
  have hfold (natives : List Native) (n : ℕ) (t : State) (ht : Still s n t) :
      Still s (n - natives.length) (natives.foldl
        (fun t native => (t.turn s.controller.queue.jobs.length native).getD t) t) := by
    induction natives generalizing n t with
    | nil => exact ht
    | cons native natives ih =>
      have hrest := ih (n - 1) _ (turn_still h hnumber ht native)
      rwa [Nat.sub_sub, Nat.add_comm 1] at hrest
  exact hfold natives 4 _ (submitted_still h hsettled)

theorem changesNothing (h : Inv base s) (hsettled : AllSettled s)
    (hnumber : ∀ running ∈ s.controller.running, running.samplingInterval ≠ .nan) :
    ChangesNothing s (runningConfig s) := by
  constructor
  · intro natives
    have hstill := applied_still h hsettled hnumber natives
    exact ⟨hstill.modules, hstill.running⟩
  · intro natives hlength
    obtain ⟨job, hjob, _, huneventful, hleft⟩ :=
      (applied_still h hsettled hnumber natives).task
    refine ⟨job, hjob, ?_⟩
    rw [Nat.sub_eq_zero_of_le hlength] at hleft
    rcases hprogress : job.progress with _ | stage | error
    · rw [hprogress] at hleft
      exact absurd hleft (by decide)
    · rw [hprogress] at hleft
      cases stage <;> exact absurd hleft (by simp [turnsLeft])
    · rw [hprogress] at huneventful
      rw [show error = none from huneventful]

/-- An interval that is no number is not equal to itself, so the profiler is stopped. -/
theorem nan_restarts (h : Inv base s) (hsettled : AllSettled s) {running : RunningProfiler}
    (hrunning : s.controller.running = some running) (hnan : running.samplingInterval = .nan) :
    ¬ ChangesNothing s (runningConfig s) := by
  intro hnothing
  have hsame := (hnothing.same [{}]).2
  have hget : (s.applyRemoteConfiguration (runningConfig s)).controller.queue.jobs[
      s.controller.queue.jobs.length]? = some { task := .apply (runningConfig s), after := _ } :=
    List.getElem?_concat_length
  have hhas := (submitted_still h hsettled).hasTurn hget rfl
  obtain ⟨u, hu⟩ := Option.isSome_iff_exists.mp (RemoteApply.turn_isSome hhas {})
  rw [applied, List.foldl_cons, List.foldl_nil, hu, Option.getD_some] at hsame
  obtain ⟨job, progress, v, hjob, _, hturn, rfl⟩ := State.turn_cases hu
  obtain rfl := Option.some_inj.mp (hget.symm.trans hjob)
  have hsome : (s.applyRemoteConfiguration (runningConfig s)).controller.running = some running :=
    hrunning
  cases hturn with
  | reject halone =>
    rw [runningConfig_alone] at halone
    cases halone
  | unchanged other wanted _ hother hunchanged =>
    obtain rfl := Option.some_inj.mp (hsome.symm.trans hother)
    simp [RunningProfiler.unchanged, Number.strictEq, hnan] at hunchanged
  | stop _ _ _ _ _ hstopping =>
    rw [State.advance, hstopping.controller, hrunning] at hsame
    cases hsame
  | idle _ _ hnone =>
    rw [hsome] at hnone
    cases hnone
  | start _ _ _ hnone =>
    rw [hsome] at hnone
    cases hnone

/-! ## Runs -/

theorem exists_carries (document : Value) :
    ∃ parseYaml remoteConfig, Carries parseYaml remoteConfig document := by
  refine ⟨fun _ => .ok document,
    { config := some { configMap := OrderedMap.set ∅ REMOTE_CONFIG_KEY (some { body := [46] }) } },
    { body := [46] }, ?_, ?_, ?_, rfl⟩
  · rfl
  · decide
  · decide

theorem fixedPoint_iff (loaded : Loaded) (h : Inv base s) (hsettled : AllSettled s) :
    IsFixedPoint loaded s ↔ ∀ running ∈ s.controller.running, running.samplingInterval ≠ .nan := by
  constructor
  · intro hfixed running hrunning hnan
    obtain ⟨parseYaml, remoteConfig, hcarries⟩ :=
      exists_carries (getEffectiveDeclarativeConfig loaded s.modules.effectiveState)
    exact nan_restarts h hsettled hrunning hnan (hfixed parseYaml remoteConfig hcarries).2
  · intro hnumber parseYaml remoteConfig hcarries
    refine ⟨?_, changesNothing h hsettled hnumber⟩
    rw [hcarries.parse, profilingFeatures_reported loaded (h.records hsettled)]
    rfl

/-- **The reported config.** When the native calls succeed, then in every state with all tasks
settled the config that is reported asks for what runs, and applying it changes nothing, exactly
when the interval of the CPU profiler is a number. -/
theorem effective_config_fixed_point_iff (loaded : Loaded) (o : Start.Options)
    (hhandle : 0 ≤ o.profilerHandle) (tracingContextManager : Bool) (es : List Event)
    (hes : ∀ e ∈ es, Succeeds e) :
    Always step (fun s => AllSettled s → (IsFixedPoint loaded s ↔
        ∀ running ∈ s.controller.running, running.samplingInterval ≠ .nan))
      (launched o tracingContextManager) es :=
  always_of_along (fun _ h hsettled => fixedPoint_iff loaded h hsettled) step_inv es _
    (launched_inv o hhandle tracingContextManager) (along_of_forall_mem es _ hes)

theorem declared_profiler_fixed_point :
    let declared : Value := .object [("distribution", .object [("splunk", .object
      [("profiling", .object [("always_on", .object [("cpu_profiler", .null)])])])])]
    let profilingOptions : ProfilingOptions :=
      { callstackInterval := 1000, collectionDuration := 30000, memoryProfilingEnabled := false }
    Always step (fun s => AllSettled s → (IsFixedPoint { config := declared } s ↔
        ∀ running ∈ s.controller.running, running.samplingInterval ≠ .nan))
      (launched { profilingOptions, profilerEnabled := true, opampEnabled := true,
                  remoteConfig := true } false)
      [.applyRemoteConfiguration ⟨⟨true, some 500⟩, ⟨true⟩, ⟨true, none⟩⟩,
        .turn 0 {}, .turn 0 {}, .turn 0 {}, .turn 0 {}] :=
  effective_config_fixed_point_iff _ _ (by decide) false _ (by simp [Succeeds])

/-- The native `start` throws, and the profiler that does not run is reported as running. And under
a file that gives `.nan` for the interval, the reported config restarts the profiler. -/
theorem reported_config_changes :
    (let options : Start.Options :=
      { profilingOptions :=
          { callstackInterval := 1000, collectionDuration := 30000, memoryProfilingEnabled := false }
        opampEnabled := true
        remoteConfig := true }
    ¬ Always step (fun s => AllSettled s → IsFixedPoint { config := .object [] } s)
      (launched options false)
      [.applyRemoteConfiguration ⟨⟨true, none⟩, ⟨false⟩, ⟨false, none⟩⟩,
        .turn 0 { startError := "StartProfiling: unable to allocate profiler." }, .turn 0 {}]) ∧
    (let declared : Value := .object [("distribution", .object [("splunk", .object
      [("profiling", .object [("always_on", .object [("cpu_profiler", .object
        [("sampling_interval", .number .nan)])])])])])]
    let options : Start.Options :=
      { profilingOptions :=
          { callstackInterval := .nan, collectionDuration := 30000, memoryProfilingEnabled := false }
        profilerEnabled := true
        opampEnabled := true
        remoteConfig := true }
    ¬ Always step (fun s => AllSettled s → IsFixedPoint { config := declared } s)
      (launched options false) []) := by
  constructor
  · intro options h
    have hfixed := h.2.2.2 (by unfold AllSettled; decide)
    obtain ⟨parseYaml, remoteConfig, hcarries⟩ := exists_carries _
    have hparsed := (hfixed parseYaml remoteConfig hcarries).1
    rw [hcarries.parse] at hparsed
    have henabled := congrArg (·.cpuProfiler.enabled) (Except.ok.inj hparsed)
    exact absurd henabled (by decide)
  · intro declared options h
    have hsettled : AllSettled (launched options false) := by
      unfold AllSettled
      decide
    have hinv := launched_inv options (by decide) false
    exact (fixedPoint_iff _ hinv hsettled).mp (h hsettled) _ rfl rfl

end SplunkOtel.Controller.FixedPoint
