import SplunkOtel.Profiling.Controller

/-!
# What a turn of the profiling controller can do

Each function is described once, by what it changes. A turn of a task is one of the cases of `Turn`,
and the invariants are proved from these cases.
-/

open Lib

namespace SplunkOtel.Controller

open Js OpAMP StartProfiling Snapshots

/-- What the profiler is to run with after the task, `none` if it is not to run. -/
def Task.wanted (base : ProfilingOptions) : Task → Option (Number × Bool)
  | .apply config =>
    if config.cpuProfiler.enabled then
      some ((validInterval config.cpuProfiler).getD base.callstackInterval,
        config.memoryProfiler.enabled)
    else none
  | .stopAll => none

/-- The task asks for memory profiling without CPU profiling. -/
def Task.memoryAlone : Task → Bool
  | .apply config => ¬ config.cpuProfiler.enabled ∧ config.memoryProfiler.enabled
  | .stopAll => false

/-- The profiler runs with these settings already. -/
def RunningProfiler.unchanged (running : RunningProfiler) (wanted : Number × Bool) : Bool :=
  running.samplingInterval.strictEq wanted.1 ∧ running.memoryEnabled = wanted.2

def enabledWith (samplingInterval : Number) (memoryEnabled : Bool) : EffectiveState where
  profilerEnabled := some true
  callStackInterval := some samplingInterval
  memoryProfilerEnabled := some memoryEnabled

theorem startFailure_none {s : State} {native : Native} (hnative : native.startError = none)
    (hidle : s.modules.profiling.running = false) : startFailure s native = none := by
  unfold startFailure
  rw [hnative, hidle]
  rfl

namespace State

/-- What `_startCpu` does where the native extension is there. -/
structure CpuStarted (s t : State) (samplingInterval : Number) (memoryEnabled : Bool) : Prop where
  controller : t.controller = { s.controller with
    running := some ⟨s.modules.profiling.starts.length, samplingInterval, memoryEnabled⟩ }
  running : t.modules.profiling.running = true
  starts : t.modules.profiling.starts = s.modules.profiling.starts ++
    [{ id := s.modules.profiling.starts.length
       options := cpuOptions s.controller.baseOptions samplingInterval memoryEnabled }]

/-- `_startCpu` records the profiler as enabled before the native `start`, which may throw. -/
theorem startCpu_cases (s : State) (samplingInterval : Number) (memoryEnabled : Bool)
    (native : Native) :
    let t := (s.startCpu samplingInterval memoryEnabled native).1
    let result := (s.startCpu samplingInterval memoryEnabled native).2
    (native.extension = false ∧ result = .ok false ∧ t = s.recordEffectiveState disabled) ∨
      (native.extension = true ∧ t.modules.snapshots = s.modules.snapshots ∧
        t.modules.effectiveState = SplunkOtel.recordEffectiveState s.modules.effectiveState
          (enabledWith samplingInterval memoryEnabled) ∧
        ((∃ e, startFailure s native = some e ∧ result = .error e ∧
            t.controller = s.controller) ∨
          (startFailure s native = none ∧ result = .ok true ∧
            CpuStarted s t samplingInterval memoryEnabled))) := by
  unfold startCpu startProfilingWith
  cases hext : native.extension with
  | false => exact Or.inl ⟨rfl, rfl, rfl⟩
  | true =>
    cases hfailure : startFailure s native with
    | some e =>
      cases native.tracingContextManager <;>
        exact Or.inr ⟨rfl, rfl, rfl, Or.inl ⟨e, rfl, rfl, rfl⟩⟩
    | none =>
      cases native.tracingContextManager <;>
        exact Or.inr ⟨rfl, rfl, rfl, Or.inr ⟨rfl, rfl, rfl, rfl, rfl⟩⟩

theorem startCpu_queue (s : State) (samplingInterval : Number) (memoryEnabled : Bool)
    (native : Native) :
    let t := (s.startCpu samplingInterval memoryEnabled native).1
    t.controller.queue = s.controller.queue ∧
      t.controller.baseOptions = s.controller.baseOptions := by
  rcases startCpu_cases s samplingInterval memoryEnabled native with
    ⟨_, _, h⟩ | ⟨_, _, _, ⟨_, _, _, h⟩ | ⟨_, _, h⟩⟩
  · simp only [h]
    exact ⟨rfl, rfl⟩
  · simp only [h]
    exact ⟨trivial, trivial⟩
  · simp only [h.controller]
    exact ⟨trivial, trivial⟩

theorem startCpu_snapshots (s : State) (samplingInterval : Number) (memoryEnabled : Bool)
    (native : Native) :
    (s.startCpu samplingInterval memoryEnabled native).1.modules.snapshots =
      s.modules.snapshots := by
  rcases startCpu_cases s samplingInterval memoryEnabled native with
    ⟨_, _, h⟩ | ⟨_, h, _⟩
  · rw [h]
    rfl
  · exact h

theorem startInitial_state (s : State) (enabled : Bool) (native : Native) :
    (s.startInitial enabled native).1 =
      if enabled then
        (s.startCpu s.controller.baseOptions.callstackInterval
          s.controller.baseOptions.memoryProfilingEnabled native).1
      else s.recordEffectiveState disabled := by
  unfold startInitial
  split
  · simp only
    split <;> rfl
  · rfl

theorem startInitial_queue (s : State) (enabled : Bool) (native : Native) :
    let t := (s.startInitial enabled native).1
    t.controller.queue = s.controller.queue ∧
      t.controller.baseOptions = s.controller.baseOptions := by
  rw [startInitial_state]
  split
  · exact startCpu_queue s _ _ native
  · exact ⟨rfl, rfl⟩

theorem startInitial_snapshots (s : State) (enabled : Bool) (native : Native) :
    (s.startInitial enabled native).1.modules.snapshots = s.modules.snapshots := by
  rw [startInitial_state]
  split
  · exact startCpu_snapshots s _ _ native
  · rfl

theorem startInitial_error (s : State) (enabled : Bool) (native : Native) :
    (s.startInitial enabled native).2 =
      if enabled ∧ native.extension then startFailure s native else none := by
  unfold startInitial startCpu startProfilingWith
  cases enabled with
  | false => rfl
  | true =>
    cases hext : native.extension with
    | false => rfl
    | true =>
      cases hfailure : startFailure s native with
      | none => simp
      | some e => simp

theorem startInitial_threw {s : State} {enabled : Bool} {native : Native} {e : String}
    (h : (s.startInitial enabled native).2 = some e) :
    ∃ effectiveState, (s.startInitial enabled native).1.modules.profiling =
      { s.modules.profiling with
        effectiveState
        profilingContextManagerEnabled := ¬ native.tracingContextManager ∨
          s.modules.profiling.profilingContextManagerEnabled } := by
  rw [startInitial_error] at h
  split_ifs at h with hon
  rw [startInitial_state, if_pos hon.1]
  refine ⟨SplunkOtel.recordEffectiveState s.modules.effectiveState (enabledWith
    s.controller.baseOptions.callstackInterval s.controller.baseOptions.memoryProfilingEnabled), ?_⟩
  unfold startCpu startProfilingWith
  cases native.tracingContextManager with
  | false => simp [hon.2, h, ensureProfilingContextManager, setProfiling, Modules.effectiveState,
      cpuOptions, enabledWith]
  | true => simp [hon.2, h, setProfiling, Modules.effectiveState, cpuOptions, enabledWith]

/-- What `_stopCpu` does before its `await`. -/
structure CpuStopping (s t : State) (running : RunningProfiler) : Prop where
  controller : t.controller = { s.controller with running := none }
  snapshots : t.modules.snapshots = s.modules.snapshots
  effectiveState : t.modules.effectiveState = s.modules.effectiveState
  profiling : ∀ started, s.modules.profiling.starts[running.stop]? = some started →
    t.modules.profiling = stop s.modules.profiling started

theorem stopCpu_cases (s : State) (restart : Option (Number × Bool)) :
    (s.controller.running = none ∧ s.stopCpu restart = (s, .stopped restart)) ∨
      ∃ running, s.controller.running = some running ∧
        (s.stopCpu restart).2 = .stopping restart ∧
        CpuStopping s (s.stopCpu restart).1 running := by
  unfold stopCpu
  cases hrunning : s.controller.running with
  | none => exact Or.inl ⟨rfl, rfl⟩
  | some running =>
    refine Or.inr ⟨running, rfl, ?_⟩
    cases hstarted : s.modules.profiling.starts[running.stop]? with
    | none =>
      simp only [setRunning, hstarted]
      exact ⟨trivial, rfl, rfl, rfl, by simp [hstarted]⟩
    | some started =>
      simp only [setRunning, hstarted]
      refine ⟨trivial, rfl, rfl, (stop_profiler s.modules.profiling started).1, ?_⟩
      intro other hother
      rw [hstarted, Option.some_inj] at hother
      rw [← hother]
      rfl

/-- What `_applyCallgraphs` leaves alone. -/
structure CallgraphsOnly (s t : State) : Prop where
  running : t.controller.running = s.controller.running
  queue : t.controller.queue = s.controller.queue
  baseOptions : t.controller.baseOptions = s.controller.baseOptions
  profiling : ∃ enabled interval, t.modules.profiling = { s.modules.profiling with
    effectiveState := { s.modules.effectiveState with
      snapshotProfilerEnabled := enabled, snapshotSamplingInterval := interval } }

theorem setSnapshotProfilingActive_profiling (m : Modules) (active : Bool)
    (samplingIntervalMs : Option Number) (stacktraces : Option ℕ) : ∃ enabled interval,
      (m.setSnapshotProfilingActive active samplingIntervalMs stacktraces).1.profiling =
        { m.profiling with effectiveState := { m.effectiveState with
          snapshotProfilerEnabled := enabled, snapshotSamplingInterval := interval } } := by
  unfold Modules.setSnapshotProfilingActive
  cases m.snapshots with
  | none => exact ⟨_, _, rfl⟩
  | some registered =>
    cases samplingIntervalMs.filter Number.positive with
    | none => exact ⟨_, _, rfl⟩
    | some ms => exact ⟨_, _, rfl⟩

theorem applyCallgraphs_only (s : State) (config : RemoteProfilingConfig) (native : Native) :
    CallgraphsOnly s (s.applyCallgraphs config native).1 := by
  have hprofiling := setSnapshotProfilingActive_profiling s.modules config.callgraphs.enabled
    (validInterval config.callgraphs) native.stacktraces
  unfold applyCallgraphs
  simp only
  split
  · exact ⟨rfl, rfl, rfl, hprofiling⟩
  · exact ⟨rfl, rfl, rfl, hprofiling⟩

/-- What one turn of a task can do. -/
inductive Turn (native : Native) (s : State) (task : Task) :
    Progress Stage (Option String) → Progress Stage (Option String) → State → Prop where
  | reject (h : task.memoryAlone = true) :
    Turn native s task .queued (.running (.callgraphs (some memoryWithoutCpu))) s
  | unchanged (running : RunningProfiler) (wanted : Number × Bool)
    (hwanted : task.wanted s.controller.baseOptions = some wanted)
    (hrunning : s.controller.running = some running) (h : running.unchanged wanted = true) :
    Turn native s task .queued (.running (.callgraphs none)) s
  | stop (running : RunningProfiler) (t : State) (halone : task.memoryAlone = false)
    (hrunning : s.controller.running = some running)
    (h : ∀ wanted, task.wanted s.controller.baseOptions = some wanted →
      running.unchanged wanted = false)
    (hstop : CpuStopping s t running) :
    Turn native s task .queued
      (.running (.stopping (task.wanted s.controller.baseOptions))) t
  | idle (halone : task.memoryAlone = false)
    (hwanted : task.wanted s.controller.baseOptions = none) (hrunning : s.controller.running = none) :
    Turn native s task .queued (.running (.stopped none)) s
  | start (samplingInterval : Number) (memoryEnabled : Bool)
    (hwanted : task.wanted s.controller.baseOptions = some (samplingInterval, memoryEnabled))
    (hrunning : s.controller.running = none) :
    Turn native s task .queued
      (.running (.callgraphs (startFailed (s.startCpu samplingInterval memoryEnabled native).2)))
      (s.startCpu samplingInterval memoryEnabled native).1
  | record (restart : Option (Number × Bool)) :
    Turn native s task (.running (.stopping restart)) (.running (.stopped restart))
      (s.recordEffectiveState disabled)
  | restart (samplingInterval : Number) (memoryEnabled : Bool) (happly : task ≠ .stopAll) :
    Turn native s task (.running (.stopped (some (samplingInterval, memoryEnabled))))
      (.running (.callgraphs (startFailed (s.startCpu samplingInterval memoryEnabled native).2)))
      (s.startCpu samplingInterval memoryEnabled native).1
  | noRestart (happly : task ≠ .stopAll) :
    Turn native s task (.running (.stopped none)) (.running (.callgraphs none)) s
  | callgraphs (config : RemoteProfilingConfig) (error : Option String)
    (happly : task = .apply config) :
    Turn native s task (.running (.callgraphs error))
      (.settled (joinErrors error (s.applyCallgraphs config native).2))
      (s.applyCallgraphs config native).1
  | done (stage : Stage) (hstage : ∀ restart, stage ≠ .stopping restart) (hstop : task = .stopAll) :
    Turn native s task (.running stage) (.settled none) s

theorem wanted_memoryAlone {task : Task} {base : ProfilingOptions} (h : task.memoryAlone = true) :
    task.wanted base = none := by
  cases task with
  | stopAll => rfl
  | apply config =>
    have hcpu : ¬ config.cpuProfiler.enabled := by
      simp only [Task.memoryAlone, decide_eq_true_eq] at h
      exact h.1
    rw [Task.wanted, if_neg hcpu]

theorem memoryAlone_of_wanted {task : Task} {base : ProfilingOptions} {wanted : Number × Bool}
    (h : task.wanted base = some wanted) : task.memoryAlone = false := by
  by_contra halone
  rw [wanted_memoryAlone (by simpa using halone)] at h
  cases h

theorem stopCpu_turn (s : State) (native : Native) (task : Task) (halone : task.memoryAlone = false)
    (hnone : s.controller.running = none → task.wanted s.controller.baseOptions = none)
    (hchanged : ∀ running, s.controller.running = some running → ∀ wanted,
      task.wanted s.controller.baseOptions = some wanted → running.unchanged wanted = false) :
    let result := s.stopCpu (task.wanted s.controller.baseOptions)
    Turn native s task .queued (.running result.2) result.1 := by
  intro result
  rcases stopCpu_cases s (task.wanted s.controller.baseOptions) with
    ⟨hrunning, heq⟩ | ⟨running, hsome, hstage, hstopping⟩
  · simp only [result, heq, hnone hrunning]
    exact .idle halone (hnone hrunning) hrunning
  · simp only [result, hstage]
    exact .stop running _ halone hsome (hchanged running hsome) hstopping

theorem begin_turn (s : State) (native : Native) (task : Task) :
    Turn native s task .queued (.running (s.begin native task).2) (s.begin native task).1 := by
  cases task with
  | stopAll => exact stopCpu_turn s native .stopAll rfl (fun _ => rfl) (by rintro _ _ _ ⟨⟩)
  | apply config =>
    unfold begin applyCpuMemory
    simp only
    by_cases hcpu : config.cpuProfiler.enabled
    · have hwanted : (Task.apply config).wanted s.controller.baseOptions = some
          ((validInterval config.cpuProfiler).getD s.controller.baseOptions.callstackInterval,
            config.memoryProfiler.enabled) := by
        simp [Task.wanted, hcpu]
      rw [if_neg (by simpa using hcpu)]
      split
      · rename_i hrunning
        exact .start _ _ hwanted hrunning
      · rename_i running hrunning
        split
        · rename_i hsame
          refine .unchanged running _ hwanted hrunning ?_
          simpa [RunningProfiler.unchanged] using hsame
        · rename_i hchanged
          rw [← hwanted]
          apply stopCpu_turn
          · simp [Task.memoryAlone, hcpu]
          · simp [hrunning]
          · rintro _ hrunning' _ hwanted'
            rw [hrunning, Option.some_inj] at hrunning'
            rw [hwanted, Option.some_inj] at hwanted'
            rw [← hrunning', ← hwanted']
            simpa [RunningProfiler.unchanged] using hchanged
    · have hwanted : (Task.apply config).wanted s.controller.baseOptions = none := by
        simp [Task.wanted, hcpu]
      rw [if_pos hcpu]
      split
      · rename_i hmemory
        exact .reject (by simp [Task.memoryAlone, hcpu, hmemory])
      · rename_i hmemory
        rw [← hwanted]
        apply stopCpu_turn
        · simp [Task.memoryAlone, hmemory]
        · exact fun _ => hwanted
        · simp [hwanted]

theorem resume_turn (s : State) (native : Native) (task : Task) (stage : Stage) :
    Turn native s task (.running stage) (s.resume native task stage).2
      (s.resume native task stage).1 := by
  cases stage with
  | stopping restart => cases task <;> exact .record restart
  | stopped restart =>
    cases restart with
    | none =>
      cases task with
      | stopAll => exact .done (.stopped none) (by rintro _ ⟨⟩) rfl
      | apply config => exact .noRestart (by rintro ⟨⟩)
    | some wanted =>
      cases task with
      | stopAll => exact .done (.stopped (some wanted)) (by rintro _ ⟨⟩) rfl
      | apply config => exact .restart wanted.1 wanted.2 (by rintro ⟨⟩)
  | callgraphs error =>
    cases task with
    | stopAll => exact .done (.callgraphs error) (by rintro _ ⟨⟩) rfl
    | apply config => exact .callgraphs config error rfl

/-- **A turn.** The job has its turn, what the turn does is one of the cases of `Turn`, and the job
moves on. -/
theorem turn_cases {s t : State} {j : ℕ} {native : Native} (h : s.turn j native = some t) :
    ∃ job progress u, s.controller.queue.jobs[j]? = some job ∧ s.controller.queue.HasTurn j ∧
      Turn native s job.task job.progress progress u ∧ t = u.advance j progress := by
  unfold turn at h
  split at h
  · cases h
  · rename_i job hjob
    split at h
    · cases h
    · rename_i hqueued
      simp only [Option.ite_none_right_eq_some, Option.some_inj] at h
      obtain ⟨hbegin, rfl⟩ := h
      refine ⟨job, _, _, hjob, ⟨job, hjob, by rw [hqueued]; rfl, fun _ => hbegin⟩, ?_, rfl⟩
      rw [hqueued]
      exact begin_turn s native job.task
    · rename_i stage hrunning
      obtain rfl := Option.some_inj.mp h
      refine ⟨job, _, _, hjob, PromiseChain.hasTurn_of_running hjob hrunning, ?_, rfl⟩
      rw [hrunning]
      exact resume_turn s native job.task stage

theorem Turn.queue {native : Native} {s t : State} {task : Task}
    {before after : Progress Stage (Option String)} (h : Turn native s task before after t) :
    t.controller.queue = s.controller.queue ∧
      t.controller.baseOptions = s.controller.baseOptions := by
  cases h with
  | stop running _ _ _ _ hstop => rw [hstop.controller]; exact ⟨rfl, rfl⟩
  | start samplingInterval memoryEnabled => exact startCpu_queue s _ _ native
  | restart samplingInterval memoryEnabled => exact startCpu_queue s _ _ native
  | callgraphs config => exact ⟨(applyCallgraphs_only s config native).queue,
      (applyCallgraphs_only s config native).baseOptions⟩
  | _ => exact ⟨rfl, rfl⟩

theorem Turn.linked_advance {native : Native} {s t : State} {task : Task}
    {before after : Progress Stage (Option String)} (h : Turn native s task before after t) {j : ℕ}
    (hlinked : s.controller.queue.Linked) (hhas : s.controller.queue.HasTurn j)
    (progress : Progress Stage (Option String)) :
    (t.advance j progress).controller.queue.Linked := by
  rw [advance, h.queue.1]
  exact hlinked.advance hhas progress

theorem Turn.jobs_advance {native : Native} {s t : State} {task : Task}
    {before after : Progress Stage (Option String)} (h : Turn native s task before after t) (j : ℕ)
    (progress : Progress Stage (Option String)) (i : ℕ) :
    (t.advance j progress).controller.queue.jobs[i]? =
      if j = i then s.controller.queue.jobs[i]?.map fun job => { job with progress }
      else s.controller.queue.jobs[i]? := by
  rw [advance, h.queue.1]
  exact PromiseChain.getElem?_advance _ j progress i

theorem Turn.snapshots {native : Native} {s t : State} {task : Task}
    {before after : Progress Stage (Option String)} (h : Turn native s task before after t) :
    t.modules.snapshots = s.modules.snapshots ∨
      ∃ config, t = (s.applyCallgraphs config native).1 := by
  cases h with
  | stop running _ _ _ _ hstop => exact Or.inl hstop.snapshots
  | start samplingInterval memoryEnabled => exact Or.inl (startCpu_snapshots s _ _ native)
  | restart samplingInterval memoryEnabled => exact Or.inl (startCpu_snapshots s _ _ native)
  | callgraphs config => exact Or.inr ⟨config, rfl⟩
  | _ => exact Or.inl rfl

end State

/-! ## The snapshot profiler -/

theorem ofTraces_settings {p q : SnapshotProfiler} {e : Snapshots.Event} (he : OfTraces e)
    (hs : Snapshots.step p e = some q) : p.SameSettings q := by
  cases e with
  | setActive active stacktraces => cases he
  | setSamplingInterval ms => cases he
  | traceSnapshotBegin traceId =>
    obtain rfl := Option.some_inj.mp hs
    exact p.traceSnapshotBegin_settings traceId
  | traceSnapshotEnd traceId =>
    obtain rfl := Option.some_inj.mp hs
    exact p.traceSnapshotEnd_settings traceId
  | onStart span parent =>
    obtain rfl := Option.some_inj.mp hs
    exact p.onStart_settings span parent
  | onEnd spanId =>
    obtain rfl := Option.some_inj.mp hs
    exact p.onEnd_settings spanId
  | lingerFires t stacktraces =>
    simp only [Snapshots.step, Option.ite_none_right_eq_some, Option.some_inj] at hs
    obtain ⟨_, rfl⟩ := hs
    exact SnapshotProfiler.exportProfile_settings _ _
  | lingerDone =>
    simp only [Snapshots.step, Option.ite_none_right_eq_some, Option.some_inj] at hs
    obtain ⟨_, rfl⟩ := hs
    exact ⟨rfl, rfl⟩
  | collectionLoop stacktraces =>
    obtain rfl := Option.some_inj.mp hs
    unfold SnapshotProfiler.collectionLoop
    split
    · exact ⟨rfl, rfl⟩
    · exact SnapshotProfiler.exportProfile_settings _ _
  | createExporter =>
    simp only [Snapshots.step, Option.ite_none_right_eq_some, Option.some_inj] at hs
    obtain ⟨_, rfl⟩ := hs
    exact ⟨rfl, rfl⟩

theorem snapshotStep_cases {m m' : Modules} {e : Snapshots.Event}
    (h : snapshotStep m e = some m') : ∃ registered profiler, m.snapshots = some registered ∧
      0 ≤ registered.profilerHandle ∧ OfTraces e ∧
      Snapshots.step registered.profiler e = some profiler ∧
      m' = { m with snapshots := some { registered with profiler } } := by
  unfold snapshotStep at h
  split at h
  · cases h
  · rename_i registered hregistered
    simp only [Option.ite_none_right_eq_some, Option.map_eq_some_iff] at h
    obtain ⟨⟨hvalid, htraces⟩, profiler, hstep, rfl⟩ := h
    exact ⟨registered, profiler, hregistered, hvalid, htraces, hstep, rfl⟩

end SplunkOtel.Controller
