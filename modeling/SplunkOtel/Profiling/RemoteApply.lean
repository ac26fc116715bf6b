import SplunkOtel.Profiling.Turns

/-!
# Applying remote configs

The controller compares a config with what runs, and stops, starts or restarts the profiler where
they differ. When the native calls succeed, all of this comes to one thing: what runs afterwards is
what the config asks for.
-/

open Lib Lib.Run

namespace SplunkOtel.Controller.RemoteApply

open Js OpAMP Snapshots
open StartProfiling (ProfilingOptions World)
open State (Turn CpuStarted CpuStopping)

/-- The interval and the memory flag of the CPU profiler that the controller holds. -/
def cpuProfiler (s : State) : Option (Number × Bool) :=
  s.controller.running.map fun running => (running.samplingInterval, running.memoryEnabled)

/-- The native calls succeed, and `startInitial` was called before. -/
def Succeeds : Event → Prop
  | .startInitial _ _ => False
  | .turn _ native => native.extension = true ∧ native.startError = none
  | _ => True

/-- A controller on which `startInitial` was called or not, with a snapshot profiler registered. -/
def started (baseOptions : ProfilingOptions) (profiler : SnapshotProfiler) (profilerHandle : ℕ)
    (initial : Option Bool) (tracingContextManager : Bool) : State :=
  let s := fresh baseOptions (some { profiler, profilerHandle })
  match initial with
  | none => s
  | some enabled => (s.startInitial enabled { tracingContextManager }).1

/-! ## What is proved of a run -/

/-- The handle of the controller is that of the native profiler. -/
structure HandleTrue (s : State) : Prop where
  native : s.modules.profiling.running = s.controller.running.isSome
  started : ∀ running ∈ s.controller.running, ∃ start,
    s.modules.profiling.starts[running.stop]? = some start ∧ start.stopped = false ∧
      start.options = State.cpuOptions s.controller.baseOptions running.samplingInterval
        running.memoryEnabled

/-- Tasks begin in the order of their submission, one at a time, and there is a turn to take until
the last one has settled, whatever the others settled with. -/
structure Serial (s : State) : Prop where
  inOrder : ∀ (j : ℕ) (job : QueuedTask), s.controller.queue.jobs[j]? = some job →
    job.progress.isQueued = false → ∀ i < j, s.controller.queue.IsSettled i
  oneAtATime : ∀ i j, s.controller.queue.HasTurn i → s.controller.queue.HasTurn j → i = j
  proceeds : ∀ (j : ℕ) (job : QueuedTask), s.controller.queue.jobs[j]? = some job →
    job.progress.isSettled = false → ∃ i, ∀ native, (s.turn i native).isSome = true
  handle : HandleTrue s

/-- The turns that a task can still take. -/
def turnsLeft : Progress Stage (Option String) → ℕ
  | .queued => 4
  | .running (.stopping _) => 3
  | .running (.stopped _) => 2
  | .running (.callgraphs _) => 1
  | .settled _ => 0

structure CallgraphsApplied (s t : State) (config : RemoteProfilingConfig) : Prop where
  active : t.controller.callgraphsActive = config.callgraphs.enabled
  profiler : ∃ before after, s.modules.snapshots = some before ∧
    t.modules.snapshots = some after ∧ after.profiler.active = config.callgraphs.enabled ∧
      after.profiler.samplingIntervalMs =
        (validInterval config.callgraphs).getD before.profiler.samplingIntervalMs

/-- What the last turn of a task leads to, from `s` to `t`. -/
def Outcome (base : ProfilingOptions) (s t : State) (error : Option String) : Task → Prop
  | .stopAll => error = none ∧ cpuProfiler t = none
  | .apply config => CallgraphsApplied s t config ∧
    if (Task.apply config).memoryAlone then error = some State.memoryWithoutCpu
    else error = none ∧ cpuProfiler t = (Task.apply config).wanted base

/-- A turn moves its task on and no other, and a task that asks for memory profiling alone leaves
the CPU profiler as it is. No other event changes the CPU profiler or a task. -/
def Applied (base : ProfilingOptions) (s t : State) : Event → Prop
  | .turn j _ => ∃ job job' : QueuedTask, s.controller.queue.jobs[j]? = some job ∧
    t.controller.queue.jobs[j]? = some job' ∧ job'.task = job.task ∧
    (∀ i : ℕ, i ≠ j → t.controller.queue.jobs[i]? = s.controller.queue.jobs[i]?) ∧
    turnsLeft job'.progress < turnsLeft job.progress ∧
    (job.task.memoryAlone → cpuProfiler t = cpuProfiler s) ∧
    ∀ error, job'.progress = .settled error → Outcome base s t error job.task
  | _ => cpuProfiler t = cpuProfiler s ∧
    ∀ (i : ℕ) (job : QueuedTask), s.controller.queue.jobs[i]? = some job →
      t.controller.queue.jobs[i]? = some job

/-! ## The invariant -/

/-- What a task has done so far. -/
def TaskTrue (base : ProfilingOptions) (s : State) (task : Task) :
    Progress Stage (Option String) → Prop
  | .running (.stopping restart) =>
    task.memoryAlone = false ∧ restart = task.wanted base ∧ s.controller.running = none
  | .running (.stopped restart) =>
    task.memoryAlone = false ∧ restart = task.wanted base ∧ s.controller.running = none
  | .running (.callgraphs error) => task ≠ .stopAll ∧
    if task.memoryAlone then error = some State.memoryWithoutCpu
    else error = none ∧ cpuProfiler s = task.wanted base
  | _ => True

/-- What does not concern a single task. -/
structure Sound (base : ProfilingOptions) (s : State) : Prop where
  base : s.controller.baseOptions = base
  handle : HandleTrue s
  numbered : ∀ (i : ℕ) (start : StartProfiling.Started),
    s.modules.profiling.starts[i]? = some start → start.id = i

/-- A snapshot profiler is registered, with a valid handle. -/
def SnapshotsRegistered (m : Modules) : Prop :=
  ∃ registered, m.snapshots = some registered ∧ 0 ≤ registered.profilerHandle

structure Inv (base : ProfilingOptions) (s : State) : Prop where
  linked : s.controller.queue.Linked
  sound : Sound base s
  tasks : ∀ (j : ℕ) (job : QueuedTask), s.controller.queue.jobs[j]? = some job →
    TaskTrue base s job.task job.progress

variable {base : ProfilingOptions} {s t : State}

theorem Sound.frame (h : Sound base s)
    (hbase : t.controller.baseOptions = s.controller.baseOptions)
    (hhandle : t.controller.running = s.controller.running)
    (hrunning : t.modules.profiling.running = s.modules.profiling.running)
    (hstarts : t.modules.profiling.starts = s.modules.profiling.starts) : Sound base t := by
  refine ⟨hbase.trans h.base, ⟨?_, ?_⟩, ?_⟩
  · rw [hrunning, hhandle]
    exact h.handle.native
  · rw [hhandle, hstarts, hbase]
    exact h.handle.started
  · rw [hstarts]
    exact h.numbered

theorem Sound.cpuStarted (h : Sound base s) {wanted : Number × Bool}
    (hstarted : CpuStarted s t wanted.1 wanted.2) :
    Sound base t ∧ cpuProfiler t = some wanted := by
  refine ⟨⟨?_, ⟨?_, ?_⟩, ?_⟩, ?_⟩
  · rw [hstarted.controller]
    exact h.base
  · rw [hstarted.running, hstarted.controller]
    rfl
  · intro running hrunning
    rw [hstarted.controller] at hrunning
    obtain rfl := Option.some_inj.mp hrunning
    rw [hstarted.starts, hstarted.controller]
    exact ⟨_, List.getElem?_concat_length, rfl, rfl⟩
  · intro i start hi
    rw [hstarted.starts] at hi
    rcases Nat.lt_or_ge i s.modules.profiling.starts.length with hlt | hge
    · rw [List.getElem?_append_left hlt] at hi
      exact h.numbered i start hi
    · rw [List.getElem?_append_right hge, List.getElem?_singleton] at hi
      split at hi <;> cases hi
      simp only
      omega
  · unfold cpuProfiler
    rw [hstarted.controller]
    rfl

theorem Sound.cpuStopping (h : Sound base s) {running : RunningProfiler}
    (hrunning : s.controller.running = some running) (hstopping : CpuStopping s t running) :
    Sound base t := by
  obtain ⟨start, hstart, _⟩ := h.handle.started running hrunning
  have hprofiling := hstopping.profiling start hstart
  refine ⟨?_, ⟨?_, ?_⟩, ?_⟩
  · rw [hstopping.controller]
    exact h.base
  · rw [hprofiling, hstopping.controller, (StartProfiling.stop_profiler _ _).2]
    rfl
  · rw [hstopping.controller]
    rintro _ ⟨⟩
  · intro i other hi
    rw [hprofiling, (StartProfiling.stop_frame _ _).1, List.getElem?_set] at hi
    split at hi
    · rename_i hid
      split at hi <;> cases hi
      exact hid
    · exact h.numbered i other hi

theorem Sound.deferred (h : Sound base s) {id : ℕ} {profiling : World}
    (hprofiling : StartProfiling.step s.modules.profiling (.deferred id) = some profiling) :
    Sound base (s.setProfiling profiling) := by
  obtain ⟨_, hrunning, r, r', hr, hstarts, hid, hoptions, hstopped⟩ :=
    StartProfiling.deferred_frame hprofiling
  obtain rfl := h.numbered id r hr
  have hget (i : ℕ) (start : StartProfiling.Started) (hi : profiling.starts[i]? = some start) :
      start.id = i := by
    rw [hstarts, List.getElem?_set] at hi
    split at hi
    · rename_i hri
      split at hi <;> cases hi
      exact hid.trans hri
    · exact h.numbered i start hi
  refine ⟨h.base, ⟨?_, ?_⟩, hget⟩
  · exact hrunning.trans h.handle.native
  · intro running hrun
    obtain ⟨start, hstart, hopen, hsettings⟩ := h.handle.started running hrun
    simp only [State.setProfiling, hstarts, List.getElem?_set]
    split
    · rename_i hri
      rw [← hri, hr, Option.some_inj] at hstart
      subst hstart
      rw [if_pos (List.getElem?_eq_some_iff.mp hr).1]
      exact ⟨r', rfl, hstopped.trans hopen, hoptions.trans hsettings⟩
    · exact ⟨start, hstart, hopen, hsettings⟩

theorem Sound.startCpu (h : Sound base s) (hnone : s.controller.running = none) {native : Native}
    (hnative : native.extension = true ∧ native.startError = none) (wanted : Number × Bool) :
    (s.startCpu wanted.1 wanted.2 native).2 = .ok true ∧
      Sound base (s.startCpu wanted.1 wanted.2 native).1 ∧
      cpuProfiler (s.startCpu wanted.1 wanted.2 native).1 = some wanted := by
  have hfailure : startFailure s native = none :=
    startFailure_none hnative.2 (by rw [h.handle.native, hnone]; rfl)
  rcases State.startCpu_cases s wanted.1 wanted.2 native with
    ⟨hext, _⟩ | ⟨_, _, _, ⟨e, hsome, _⟩ | ⟨_, hresult, hstarted⟩⟩
  · rw [hnative.1] at hext
    cases hext
  · rw [hfailure] at hsome
    cases hsome
  · exact ⟨hresult, h.cpuStarted hstarted⟩

theorem setSnapshotProfilingActive_registered {m : Modules} {registered : Registered}
    (hregistered : m.snapshots = some registered) (hvalid : 0 ≤ registered.profilerHandle)
    (active : Bool) (samplingIntervalMs : Option Number) (stacktraces : Option ℕ) :
    let result := m.setSnapshotProfilingActive active samplingIntervalMs stacktraces
    result.2 = active ∧ ∃ after, result.1.snapshots = some after ∧
      after.profilerHandle = registered.profilerHandle ∧ after.profiler.active = active ∧
      after.profiler.samplingIntervalMs =
        (samplingIntervalMs.filter Number.positive).getD registered.profiler.samplingIntervalMs := by
  have heffective : decide (active = true ∧ 0 ≤ registered.profilerHandle) = active := by
    simp [hvalid]
  unfold Modules.setSnapshotProfilingActive
  simp only [hregistered, heffective]
  cases samplingIntervalMs.filter Number.positive with
  | none =>
    obtain ⟨hactive, hinterval⟩ := registered.profiler.setActive_active active stacktraces
    exact ⟨trivial, _, rfl, rfl, hactive, hinterval⟩
  | some ms =>
    obtain ⟨hactive, hinterval⟩ :=
      (registered.profiler.setSamplingInterval ms).setActive_active active stacktraces
    refine ⟨trivial, _, rfl, rfl, hactive, hinterval.trans ?_⟩
    exact (registered.profiler.setSamplingInterval_interval ms).1

theorem validInterval_positive (feature : SampledFeature) :
    (validInterval feature).filter Number.positive = validInterval feature := by
  unfold validInterval
  rw [Option.filter_filter]
  simp

theorem Sound.applyCallgraphs (h : Sound base s) (config : RemoteProfilingConfig)
    (native : Native) : Sound base (s.applyCallgraphs config native).1 := by
  have honly := State.applyCallgraphs_only s config native
  obtain ⟨_, _, hprofiling⟩ := honly.profiling
  apply h.frame honly.baseOptions honly.running
  · rw [hprofiling]
  · rw [hprofiling]

theorem applyCallgraphs_applied (h : SnapshotsRegistered s.modules)
    (config : RemoteProfilingConfig) (native : Native) :
    (s.applyCallgraphs config native).2 = none ∧
      CallgraphsApplied s (s.applyCallgraphs config native).1 config ∧
      SnapshotsRegistered (s.applyCallgraphs config native).1.modules := by
  obtain ⟨registered, hregistered, hvalid⟩ := h
  obtain ⟨heffective, after, hafter, hhandle, hactive, hinterval⟩ :=
    setSnapshotProfilingActive_registered hregistered hvalid config.callgraphs.enabled
      (validInterval config.callgraphs) native.stacktraces
  rw [validInterval_positive] at hinterval
  have hsnapshots : (s.applyCallgraphs config native).1.modules.snapshots = some after := by
    unfold State.applyCallgraphs
    simp only
    split <;> exact hafter
  have herror : (s.applyCallgraphs config native).2 = none ∧
      (s.applyCallgraphs config native).1.controller.callgraphsActive =
        config.callgraphs.enabled := by
    unfold State.applyCallgraphs
    simp only [heffective]
    split
    · rename_i hinactive
      exact absurd hinactive.1 hinactive.2
    · exact ⟨rfl, rfl⟩
  refine ⟨herror.1, ⟨herror.2, registered, after, hregistered, hsnapshots, hactive, hinterval⟩, ?_⟩
  exact ⟨after, hsnapshots, by rw [hhandle]; exact hvalid⟩

/-! ## One turn -/

/-- What a turn of a task gives, apart from its place in the queue. -/
structure TurnSpec (base : ProfilingOptions) (s t : State) (task : Task)
    (before after : Progress Stage (Option String)) : Prop where
  sound : Sound base t
  taskTrue : TaskTrue base t task after
  fewer : turnsLeft after < turnsLeft before
  alone : task.memoryAlone → cpuProfiler t = cpuProfiler s
  outcome : SnapshotsRegistered s.modules →
    ∀ error, after = .settled error → Outcome base s t error task

theorem turn_spec {native : Native} (hnative : native.extension = true ∧ native.startError = none)
    {task : Task} {before after : Progress Stage (Option String)} (h : Sound base s)
    (htask : TaskTrue base s task before) (hturn : Turn native s task before after t) :
    TurnSpec base s t task before after := by
  cases hturn with
  | reject halone =>
    refine ⟨h, ⟨?_, ?_⟩, by decide, fun _ => rfl, by rintro _ _ ⟨⟩⟩
    · rintro rfl
      cases halone
    · rw [if_pos halone]
  | unchanged running wanted hwanted hrunning hsame =>
    have halone := State.memoryAlone_of_wanted hwanted
    refine ⟨h, ⟨?_, ?_⟩, by decide, fun _ => rfl, by rintro _ _ ⟨⟩⟩
    · rintro rfl
      cases hwanted
    · rw [halone, if_neg (by decide), cpuProfiler, hrunning, ← h.base, hwanted]
      simp only [RunningProfiler.unchanged, Number.strictEq, decide_eq_true_eq] at hsame
      obtain ⟨⟨_, hinterval⟩, hmemory⟩ := hsame
      exact ⟨rfl, congrArg some (Prod.ext hinterval hmemory)⟩
  | stop running _ halone hrunning _ hstopping =>
    refine ⟨h.cpuStopping hrunning hstopping, ⟨halone, ?_, ?_⟩, Nat.lt_succ_self _, ?_,
      by rintro _ _ ⟨⟩⟩
    · rw [h.base]
    · rw [hstopping.controller]
    · rw [halone]
      rintro ⟨⟩
  | idle halone hwanted hrunning =>
    refine ⟨h, ⟨halone, ?_, hrunning⟩, by decide, fun _ => rfl, by rintro _ _ ⟨⟩⟩
    rw [← h.base, hwanted]
  | start samplingInterval memoryEnabled hwanted hrunning =>
    obtain ⟨hresult, hsound, hcpu⟩ :=
      h.startCpu hrunning hnative (samplingInterval, memoryEnabled)
    have halone := State.memoryAlone_of_wanted hwanted
    refine ⟨hsound, ⟨?_, ?_⟩, by simp [turnsLeft], ?_, by rintro _ _ ⟨⟩⟩
    · rintro rfl
      cases hwanted
    · rw [halone, if_neg (by decide), hresult, ← h.base, hwanted]
      exact ⟨rfl, hcpu⟩
    · rw [halone]
      rintro ⟨⟩
  | record restart =>
    refine ⟨h.frame rfl rfl rfl rfl, htask, Nat.lt_succ_self _, fun _ => rfl, ?_⟩
    rintro _ _ ⟨⟩
  | restart samplingInterval memoryEnabled happly =>
    obtain ⟨halone, hwanted, hrunning⟩ := htask
    obtain ⟨hresult, hsound, hcpu⟩ :=
      h.startCpu hrunning hnative (samplingInterval, memoryEnabled)
    refine ⟨hsound, ⟨happly, ?_⟩, Nat.lt_succ_self _, ?_, by rintro _ _ ⟨⟩⟩
    · rw [halone, if_neg (by decide), hresult, ← hwanted]
      exact ⟨rfl, hcpu⟩
    · rw [halone]
      rintro ⟨⟩
  | noRestart happly =>
    obtain ⟨halone, hwanted, hrunning⟩ := htask
    refine ⟨h, ⟨happly, ?_⟩, Nat.lt_succ_self _, fun _ => rfl, by rintro _ _ ⟨⟩⟩
    rw [halone, if_neg (by decide), ← hwanted, cpuProfiler, hrunning]
    exact ⟨rfl, rfl⟩
  | callgraphs config error happly =>
    subst happly
    have hcpu : cpuProfiler (s.applyCallgraphs config native).1 = cpuProfiler s := by
      unfold cpuProfiler
      rw [(State.applyCallgraphs_only s config native).running]
    refine ⟨h.applyCallgraphs config native, trivial, Nat.lt_succ_self _, fun _ => hcpu, ?_⟩
    intro hregistered error' herror
    obtain ⟨hnone, happlied, _⟩ := applyCallgraphs_applied hregistered config native
    rw [hnone] at herror
    obtain rfl : error = error' := by cases error <;> exact Progress.settled.inj herror
    refine ⟨happlied, ?_⟩
    rw [hcpu]
    exact htask.2
  | done stage hstage hstop =>
    subst hstop
    refine ⟨h, trivial, ?_, fun _ => rfl, ?_⟩
    · rcases stage with restart | _ | _
      · exact absurd rfl (hstage restart)
      · exact Nat.lt_add_of_pos_left (by decide)
      · exact Nat.lt_succ_self _
    · rintro _ error ⟨⟩
      refine ⟨rfl, ?_⟩
      rcases stage with restart | _ | _
      · exact absurd rfl (hstage restart)
      · rw [cpuProfiler, htask.2.2]
        rfl
      · exact absurd rfl htask.1

/-! ## One step -/

theorem turn_isSome {j : ℕ} (h : s.controller.queue.HasTurn j) (native : Native) :
    (s.turn j native).isSome = true := by
  obtain ⟨job, hjob, hsettled, hbegin⟩ := h
  unfold State.turn
  simp only [hjob]
  split
  · rename_i error hprogress
    rw [hprogress] at hsettled
    cases hsettled
  · rename_i hprogress
    rw [if_pos (hbegin (by rw [hprogress]; rfl))]
    rfl
  · rfl

theorem Inv.serial (h : Inv base s) : Serial s where
  inOrder := h.linked.inOrder
  oneAtATime i j hi hj := hi.unique h.linked hj
  proceeds j job hj hsettled := by
    obtain ⟨i, hi⟩ := PromiseChain.exists_hasTurn h.linked j job hj hsettled
    exact ⟨i, turn_isSome hi⟩
  handle := h.sound.handle

theorem Outcome.advance {error : Option String} {task : Task} (h : Outcome base s t error task)
    (j : ℕ) (progress : Progress Stage (Option String)) :
    Outcome base s (t.advance j progress) error task := by
  cases task with
  | stopAll => exact h
  | apply config => exact ⟨⟨h.1.active, h.1.profiler⟩, h.2⟩

theorem Inv.frame (h : Inv base s) (hsound : Sound base t)
    (hqueue : t.controller.queue = s.controller.queue)
    (hrunning : t.controller.running = s.controller.running) : Inv base t := by
  have hcpu : cpuProfiler t = cpuProfiler s := by rw [cpuProfiler, hrunning, cpuProfiler]
  refine ⟨hqueue ▸ h.linked, hsound, fun j job hj => ?_⟩
  have htask := h.tasks j job (hqueue ▸ hj)
  unfold TaskTrue at htask ⊢
  rw [hrunning, hcpu]
  exact htask

theorem submit_inv (h : Inv base s) (task : Task) : Inv base (s.submit task) := by
  refine ⟨h.linked.submit task, h.sound.frame rfl rfl rfl rfl, ?_⟩
  intro j job hj
  rcases PromiseChain.getElem?_submit hj with hj | ⟨_, rfl⟩
  · exact h.tasks j job hj
  · trivial

theorem turn_applied {j : ℕ} {native : Native}
    (hnative : native.extension = true ∧ native.startError = none) (h : Inv base s)
    (hs : s.turn j native = some t) : Inv base t ∧ (SnapshotsRegistered s.modules →
      SnapshotsRegistered t.modules ∧ Applied base s t (.turn j native)) := by
  obtain ⟨job, progress, u, hjob, hhas, hturn, rfl⟩ := State.turn_cases hs
  have hspec := turn_spec hnative h.sound (h.tasks j job hjob) hturn
  have hget := hturn.jobs_advance j progress
  refine ⟨⟨hturn.linked_advance h.linked hhas progress, ?_, ?_⟩, fun hregistered => ⟨?_, ?_⟩⟩
  · exact hspec.sound.frame rfl rfl rfl rfl
  · intro i other hi
    rw [hget] at hi
    split at hi
    · rename_i hji
      rw [← hji, hjob] at hi
      obtain rfl := Option.some_inj.mp hi
      exact hspec.taskTrue
    · -- Every other task is settled or waits in the queue.
      rename_i hne
      have hidle : ∀ stage, other.progress ≠ .running stage := fun stage hrunning =>
        hne (hhas.unique h.linked (PromiseChain.hasTurn_of_running hi hrunning))
      unfold TaskTrue
      rcases hprogress : other.progress with _ | stage | _
      · trivial
      · exact absurd hprogress (hidle stage)
      · trivial
  · show SnapshotsRegistered u.modules
    rcases hturn.snapshots with hsame | ⟨config, rfl⟩
    · unfold SnapshotsRegistered
      rw [hsame]
      exact hregistered
    · exact (applyCallgraphs_applied hregistered config native).2.2
  · refine ⟨job, { job with progress }, hjob, ?_, rfl, ?_, hspec.fewer, hspec.alone, ?_⟩
    · rw [hget, if_pos rfl, hjob]
      rfl
    · intro i hi
      rw [hget, if_neg (Ne.symm hi)]
    · exact fun error herror => (hspec.outcome hregistered error herror).advance j progress

theorem step_applied (s : State) (e : Event) (t : State) (h : Inv base s) (he : Succeeds e)
    (hs : step s e = some t) : Inv base t ∧ (SnapshotsRegistered s.modules →
      SnapshotsRegistered t.modules ∧ Applied base s t e) := by
  cases e with
  | startInitial enabled native => exact absurd he id
  | applyRemoteConfiguration config =>
    obtain rfl := Option.some_inj.mp hs
    exact ⟨submit_inv h _, fun hregistered =>
      ⟨hregistered, rfl, fun _ _ hi => PromiseChain.getElem?_submit_old _ hi⟩⟩
  | stopAll =>
    obtain rfl := Option.some_inj.mp hs
    exact ⟨submit_inv h _, fun hregistered =>
      ⟨hregistered, rfl, fun _ _ hi => PromiseChain.getElem?_submit_old _ hi⟩⟩
  | turn j native => exact turn_applied he h hs
  | deferred id =>
    obtain ⟨profiling, hprofiling, rfl⟩ := Option.map_eq_some_iff.mp hs
    refine ⟨h.frame ?_ rfl rfl, fun hregistered => ⟨hregistered, rfl, fun _ _ hi => hi⟩⟩
    exact h.sound.deferred hprofiling
  | snapshot e =>
    obtain ⟨modules, hmodules, rfl⟩ := Option.map_eq_some_iff.mp hs
    obtain ⟨registered, profiler, _, hvalid, _, _, rfl⟩ := snapshotStep_cases hmodules
    refine ⟨h.frame (h.sound.frame rfl rfl rfl rfl) rfl rfl, fun _ => ?_⟩
    exact ⟨⟨_, rfl, hvalid⟩, rfl, fun _ _ hi => hi⟩

/-! ## Runs -/

theorem fresh_inv (baseOptions : ProfilingOptions) (snapshots : Option Registered) :
    Inv baseOptions (fresh baseOptions snapshots) := by
  refine ⟨PromiseChain.linked_empty, ⟨rfl, ⟨rfl, by rintro _ ⟨⟩⟩, ?_⟩, ?_⟩
  · simp [fresh]
  · simp [fresh]

theorem startInitial_inv (baseOptions : ProfilingOptions) (snapshots : Option Registered)
    (enabled tracingContextManager : Bool) :
    Inv baseOptions
      ((fresh baseOptions snapshots).startInitial enabled { tracingContextManager }).1 := by
  have hfresh := fresh_inv baseOptions snapshots
  have hqueue := (State.startInitial_queue (fresh baseOptions snapshots) enabled
    { tracingContextManager }).1
  refine ⟨hqueue ▸ hfresh.linked, ?_, ?_⟩
  · rw [State.startInitial_state]
    split
    · exact (hfresh.sound.startCpu rfl ⟨rfl, rfl⟩
        (baseOptions.callstackInterval, baseOptions.memoryProfilingEnabled)).2.1
    · exact hfresh.sound.frame rfl rfl rfl rfl
  · intro j job hj
    rw [hqueue] at hj
    cases hj

theorem started_inv (baseOptions : ProfilingOptions) (profiler : SnapshotProfiler)
    (profilerHandle : ℕ) (initial : Option Bool) (tracingContextManager : Bool) :
    Inv baseOptions
      (started baseOptions profiler profilerHandle initial tracingContextManager) := by
  unfold started
  cases initial with
  | none => exact fresh_inv baseOptions _
  | some enabled => exact startInitial_inv baseOptions _ enabled tracingContextManager

theorem started_registered (baseOptions : ProfilingOptions) (profiler : SnapshotProfiler)
    (profilerHandle : ℕ) (initial : Option Bool) (tracingContextManager : Bool) :
    SnapshotsRegistered
      (started baseOptions profiler profilerHandle initial tracingContextManager).modules := by
  refine ⟨⟨profiler, profilerHandle⟩, ?_, Int.natCast_nonneg profilerHandle⟩
  unfold started
  cases initial with
  | none => rfl
  | some enabled =>
    simp only [State.startInitial_state]
    split
    · exact State.startCpu_snapshots ..
    · rfl

/-- **Remote configs.** When the native calls succeed, the tasks submitted to a controller run one
at a time in the order of their submission, none of them stops the next, and each leads to what it
asks for: a config to the profilers that it describes, whatever ran before, and `stopAll` to none. -/
theorem remote_configs_apply (baseOptions : ProfilingOptions) (profiler : SnapshotProfiler)
    (profilerHandle : ℕ) (initial : Option Bool) (tracingContextManager : Bool) (es : List Event)
    (hes : ∀ e ∈ es, Succeeds e) :
    let s := started baseOptions profiler profilerHandle initial tracingContextManager
    Always step Serial s es ∧
      Along step (fun s e => ∀ t, step s e = some t → Applied baseOptions s t e) s es := by
  intro s
  have halong : Along step (fun _ e => Succeeds e) s es := along_of_forall_mem es s hes
  have hinv : Inv baseOptions s := started_inv ..
  constructor
  · exact always_of_along (fun _ h => h.serial) (fun s e t h he hs => (step_applied s e t h he hs).1)
      es s hinv halong
  · have hregistered : SnapshotsRegistered s.modules := started_registered ..
    have hstep : ∀ s e t, Inv baseOptions s ∧ SnapshotsRegistered s.modules → Succeeds e →
        step s e = some t → (Inv baseOptions t ∧ SnapshotsRegistered t.modules) ∧
          ∀ u, step s e = some u → Applied baseOptions s u e := by
      rintro s e t ⟨h, hregistered⟩ he hs
      obtain ⟨hinv, happlied⟩ := step_applied s e t h he hs
      refine ⟨⟨hinv, (happlied hregistered).1⟩, fun u hu => ?_⟩
      rw [hs, Option.some_inj] at hu
      exact hu ▸ (happlied hregistered).2
    exact along_of_along hstep es s ⟨hinv, hregistered⟩ halong

theorem overlapping_configs_apply :
    let base : ProfilingOptions :=
      { callstackInterval := 1000, collectionDuration := 30000, memoryProfilingEnabled := false }
    let s := started base (.new 1 false) 0 (some true) false
    let es : List Event := [
      .applyRemoteConfiguration ⟨⟨true, some 500⟩, ⟨true⟩, ⟨true, some 5⟩⟩,
      .applyRemoteConfiguration ⟨⟨false, none⟩, ⟨true⟩, ⟨false, none⟩⟩, .stopAll,
      .turn 0 {}, .turn 0 {}, .turn 0 {}, .turn 0 {}, .turn 1 {}, .turn 1 {},
      .turn 2 {}, .turn 2 {}, .turn 2 {}]
    Always step Serial s es ∧
      Along step (fun s e => ∀ t, step s e = some t → Applied base s t e) s es :=
  remote_configs_apply _ _ 0 (some true) false _ (by simp [Succeeds])

end SplunkOtel.Controller.RemoteApply
