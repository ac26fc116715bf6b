import SplunkOtel.Profiling.Turns

/-!
# The effective state mirrors the running profiler

`startProfiling` records the profiler as enabled and only then starts the native one. So what the
effective state says has to be compared with the handle that the controller holds.
-/

open Lib Lib.Run

namespace SplunkOtel.Controller.Mirror

open Js OpAMP
open StartProfiling (ProfilingOptions)

/-- What the effective state says about the CPU and the memory profiler is true. -/
structure Mirrors (s : State) : Prop where
  enabled : s.modules.effectiveState.profilerEnabled = some true ↔ s.controller.running ≠ none
  running : ∀ running ∈ s.controller.running,
    s.modules.effectiveState.memoryProfilerEnabled = some running.memoryEnabled ∧
      s.modules.effectiveState.callStackInterval = some running.samplingInterval
  stopped : s.controller.running = none →
    s.modules.effectiveState.memoryProfilerEnabled ≠ some true

/-- A task awaits the `stop()` of the profiler that ran last. -/
def AwaitsStop (s : State) : Prop := ∃ restart, s.controller.queue.RunningAt (.stopping restart)

/-- The effective state mirrors the profiler, except while a stop is awaited. In particular it does
so once a call has settled. -/
def MirrorsSettled (s : State) : Prop := ¬ AwaitsStop s → Mirrors s

/-- A start whose outcome the effective state shows: the native `start` does not throw, unless a
profiler with just these settings runs already, and the extension is not missing while one runs. -/
def StartsTrue (s : State) (wanted : Number × Bool) (native : Native) : Prop :=
  if native.extension then
    startFailure s native ≠ none → ∃ running, s.controller.running = some running ∧
      (running.samplingInterval, running.memoryEnabled) = wanted
  else s.controller.running = none

/-- The next turn of a task starts the profiler truly, and finds none running where it records that
a stop is over. -/
def TurnTrue (s : State) (native : Native) (task : Task) : Progress Stage (Option String) → Prop
  | .queued => s.controller.running = none →
    ∀ wanted ∈ task.wanted s.controller.baseOptions, StartsTrue s wanted native
  | .running (.stopping _) => s.controller.running = none
  | .running (.stopped (some wanted)) => task ≠ .stopAll → StartsTrue s wanted native
  | _ => True

/-- Every start is true to what it records, and nothing is recorded as disabled while a profiler
runs: neither by `startInitial` nor by a stop that was awaited. -/
def RecordsTrue (s : State) : Event → Prop
  | .startInitial enabled native => ¬ AwaitsStop s →
    if enabled then
      StartsTrue s (s.controller.baseOptions.callstackInterval,
        s.controller.baseOptions.memoryProfilingEnabled) native
    else s.controller.running = none
  | .turn j native => ∀ job ∈ s.controller.queue.jobs[j]?, TurnTrue s native job.task job.progress
  | _ => True

def Inv (s : State) : Prop := s.controller.queue.Linked ∧ MirrorsSettled s

/-! ## What is recorded -/

theorem mirrors_disabled {t : State} {effective : EffectiveState}
    (h : t.modules.effectiveState = recordEffectiveState effective disabled) :
    Mirrors t ↔ t.controller.running = none := by
  constructor
  · intro hmirrors
    by_contra hrunning
    have henabled := hmirrors.enabled.mpr hrunning
    rw [h] at henabled
    cases henabled
  · intro hrunning
    refine ⟨?_, by simp [hrunning], fun _ => ?_⟩
    · simp [h, recordEffectiveState, disabled, hrunning]
    · simp [h, recordEffectiveState, disabled]

theorem mirrors_enabled {t : State} {effective : EffectiveState} {wanted : Number × Bool}
    (h : t.modules.effectiveState =
      recordEffectiveState effective (enabledWith wanted.1 wanted.2)) :
    Mirrors t ↔ ∃ running, t.controller.running = some running ∧
      (running.samplingInterval, running.memoryEnabled) = wanted := by
  constructor
  · intro hmirrors
    have hrunning := hmirrors.enabled.mp (by rw [h]; rfl)
    obtain ⟨running, hrunning⟩ := Option.ne_none_iff_exists'.mp hrunning
    obtain ⟨hmemory, hinterval⟩ := hmirrors.running running hrunning
    rw [h] at hmemory hinterval
    refine ⟨running, hrunning, ?_⟩
    rw [← Option.some_inj.mp hmemory, ← Option.some_inj.mp hinterval]
  · rintro ⟨running, hrunning, rfl⟩
    refine ⟨?_, ?_, by simp [hrunning]⟩
    · simp [h, recordEffectiveState, enabledWith, hrunning]
    · intro other hother
      obtain rfl := Option.some_inj.mp (hrunning.symm.trans hother)
      simp [h, recordEffectiveState, enabledWith]

theorem Mirrors.frame {s t : State} (h : Mirrors s)
    (hrunning : t.controller.running = s.controller.running)
    (henabled : t.modules.effectiveState.profilerEnabled =
      s.modules.effectiveState.profilerEnabled)
    (hmemory : t.modules.effectiveState.memoryProfilerEnabled =
      s.modules.effectiveState.memoryProfilerEnabled)
    (hinterval : t.modules.effectiveState.callStackInterval =
      s.modules.effectiveState.callStackInterval) : Mirrors t := by
  constructor
  · rw [henabled, hrunning]
    exact h.enabled
  · rw [hmemory, hinterval, hrunning]
    exact h.running
  · rw [hmemory, hrunning]
    exact h.stopped

theorem startCpu_mirrors (s : State) (wanted : Number × Bool) (native : Native) :
    Mirrors (s.startCpu wanted.1 wanted.2 native).1 ↔ StartsTrue s wanted native := by
  unfold StartsTrue
  rcases State.startCpu_cases s wanted.1 wanted.2 native with
    ⟨hext, _, ht⟩ | ⟨hext, _, heffective, ⟨e, hfailure, _, ht⟩ | ⟨hfailure, _, ht⟩⟩
  · rw [ht, mirrors_disabled rfl, hext]
    rfl
  · rw [mirrors_enabled heffective, ht, hext, hfailure]
    simp
  · rw [mirrors_enabled heffective, ht.controller, hext, hfailure]
    simp

/-! ## One turn -/

theorem turn_mirrors {native : Native} {s t : State} {task : Task}
    {before after : Progress Stage (Option String)} (h : State.Turn native s task before after t)
    (hmirrors : (∀ restart, before ≠ .running (.stopping restart)) → Mirrors s) :
    ((∀ restart, after ≠ .running (.stopping restart)) → Mirrors t) ↔
      TurnTrue s native task before := by
  cases h with
  | reject halone =>
    refine iff_of_true (fun _ => hmirrors (by rintro _ ⟨⟩)) fun _ wanted hwanted => ?_
    rw [State.wanted_memoryAlone halone] at hwanted
    cases hwanted
  | unchanged running wanted _ hrunning =>
    refine iff_of_true (fun _ => hmirrors (by rintro _ ⟨⟩)) fun hnone => ?_
    rw [hrunning] at hnone
    cases hnone
  | stop running t _ hrunning =>
    refine iff_of_true (fun hafter => absurd rfl (hafter _)) fun hnone => ?_
    rw [hrunning] at hnone
    cases hnone
  | idle _ hwanted =>
    refine iff_of_true (fun _ => hmirrors (by rintro _ ⟨⟩)) fun _ wanted hsome => ?_
    rw [hwanted] at hsome
    cases hsome
  | start samplingInterval memoryEnabled hwanted hrunning =>
    rw [startCpu_mirrors s (samplingInterval, memoryEnabled)]
    unfold TurnTrue
    simp [hwanted, hrunning]
  | record restart =>
    rw [mirrors_disabled (t := s.recordEffectiveState disabled) rfl]
    unfold TurnTrue
    simp [State.recordEffectiveState]
  | restart samplingInterval memoryEnabled happly =>
    rw [startCpu_mirrors s (samplingInterval, memoryEnabled)]
    unfold TurnTrue
    simp [happly]
  | noRestart => exact iff_of_true (fun _ => hmirrors (by rintro _ ⟨⟩)) trivial
  | callgraphs config error =>
    refine iff_of_true (fun _ => ?_) trivial
    have honly := State.applyCallgraphs_only s config native
    obtain ⟨_, _, hprofiling⟩ := honly.profiling
    refine (hmirrors (by rintro _ ⟨⟩)).frame honly.running ?_ ?_ ?_
    · rw [Modules.effectiveState, hprofiling]
    · rw [Modules.effectiveState, hprofiling]
    · rw [Modules.effectiveState, hprofiling]
  | done stage hstage hstop =>
    refine iff_of_true (fun _ => hmirrors ?_) ?_
    · rintro restart ⟨⟩
      exact hstage restart rfl
    · rcases stage with restart | (_ | wanted) | _
      · exact absurd rfl (hstage restart)
      · trivial
      · exact fun happly => absurd hstop happly
      · trivial

/-! ## One step -/

theorem awaitsStop_advance {s u : State} (h : s.controller.queue.Linked) {j : ℕ}
    (hturn : s.controller.queue.HasTurn j) (hqueue : u.controller.queue = s.controller.queue)
    (progress : Progress Stage (Option String)) :
    AwaitsStop (u.advance j progress) ↔ ∃ restart, progress = .running (.stopping restart) := by
  unfold AwaitsStop State.advance
  simp only [hqueue, hturn.runningAt_advance h]

theorem awaitsStop_before {s : State} (h : s.controller.queue.Linked) {j : ℕ}
    (hturn : s.controller.queue.HasTurn j) {job : QueuedTask}
    (hjob : s.controller.queue.jobs[j]? = some job) :
    AwaitsStop s ↔ ∃ restart, job.progress = .running (.stopping restart) := by
  unfold AwaitsStop
  simp only [hturn.runningAt_iff h hjob]

theorem submit_inv {s : State} (h : Inv s) (task : Task) : Inv (s.submit task) := by
  refine ⟨h.1.submit task, fun hawaits => ?_⟩
  refine (h.2 ?_).frame rfl rfl rfl rfl
  rintro ⟨restart, hat⟩
  exact hawaits ⟨restart, (PromiseChain.runningAt_submit _ task _).mpr hat⟩

theorem startInitial_mirrors (s : State) (enabled : Bool) (native : Native) :
    MirrorsSettled (s.startInitial enabled native).1 ↔
      RecordsTrue s (.startInitial enabled native) := by
  unfold MirrorsSettled RecordsTrue AwaitsStop
  rw [(State.startInitial_queue s enabled native).1, State.startInitial_state]
  apply imp_congr_right
  intro _
  cases enabled with
  | false => exact mirrors_disabled rfl
  | true =>
    exact startCpu_mirrors s (s.controller.baseOptions.callstackInterval,
      s.controller.baseOptions.memoryProfilingEnabled) native

theorem turn_inv {s t : State} {j : ℕ} {native : Native} (h : Inv s)
    (hs : s.turn j native = some t) : t.controller.queue.Linked ∧
      (MirrorsSettled t ↔ RecordsTrue s (.turn j native)) := by
  obtain ⟨job, progress, u, hjob, hhas, hturn, rfl⟩ := State.turn_cases hs
  have hmirrors := turn_mirrors hturn fun hbefore => h.2 fun hawaits => by
    obtain ⟨restart, hrestart⟩ := (awaitsStop_before h.1 hhas hjob).mp hawaits
    exact hbefore restart hrestart
  have hsame : Mirrors (u.advance j progress) ↔ Mirrors u :=
    ⟨fun hm => hm.frame rfl rfl rfl rfl, fun hm => hm.frame rfl rfl rfl rfl⟩
  refine ⟨hturn.linked_advance h.1 hhas progress, ?_⟩
  unfold MirrorsSettled RecordsTrue
  rw [awaitsStop_advance h.1 hhas hturn.queue.1, hsame]
  simpa [hjob] using hmirrors

theorem step_spec {s t : State} {e : Event} (h : Inv s) (hs : step s e = some t) :
    t.controller.queue.Linked ∧ (MirrorsSettled t ↔ RecordsTrue s e) := by
  cases e with
  | startInitial enabled native =>
    obtain rfl := Option.some_inj.mp hs
    refine ⟨?_, startInitial_mirrors s enabled native⟩
    rw [(State.startInitial_queue s enabled native).1]
    exact h.1
  | applyRemoteConfiguration config =>
    obtain rfl := Option.some_inj.mp hs
    obtain ⟨hlinked, hmirrors⟩ := submit_inv h (.apply config)
    exact ⟨hlinked, iff_of_true hmirrors trivial⟩
  | stopAll =>
    obtain rfl := Option.some_inj.mp hs
    obtain ⟨hlinked, hmirrors⟩ := submit_inv h .stopAll
    exact ⟨hlinked, iff_of_true hmirrors trivial⟩
  | turn j native => exact turn_inv h hs
  | deferred id =>
    obtain ⟨profiling, hprofiling, rfl⟩ := Option.map_eq_some_iff.mp hs
    have heffective := (StartProfiling.deferred_frame hprofiling).1
    refine ⟨h.1, iff_of_true (fun hawaits => ?_) trivial⟩
    refine (h.2 hawaits).frame rfl ?_ ?_ ?_
    · exact congrArg EffectiveState.profilerEnabled heffective
    · exact congrArg EffectiveState.memoryProfilerEnabled heffective
    · exact congrArg EffectiveState.callStackInterval heffective
  | snapshot e =>
    obtain ⟨modules, hmodules, rfl⟩ := Option.map_eq_some_iff.mp hs
    obtain ⟨_, _, _, _, _, _, rfl⟩ := snapshotStep_cases hmodules
    exact ⟨h.1, iff_of_true (fun hawaits => (h.2 hawaits).frame rfl rfl rfl rfl) trivial⟩

theorem step_inv (s : State) (e : Event) (t : State) (h : Inv s) (hc : RecordsTrue s e)
    (hs : step s e = some t) : Inv t :=
  ⟨(step_spec h hs).1, (step_spec h hs).2.mpr hc⟩

theorem false_record_breaks (s : State) (e : Event) (t : State) (h : Inv s)
    (hc : ¬ RecordsTrue s e) (hs : step s e = some t) : ¬ MirrorsSettled t :=
  fun hmirrors => hc ((step_spec h hs).2.mp hmirrors)

/-! ## Runs -/

theorem fresh_inv (baseOptions : ProfilingOptions) (snapshots : Option Registered) :
    Inv (fresh baseOptions snapshots) := by
  refine ⟨PromiseChain.linked_empty, fun _ => ⟨?_, ?_, ?_⟩⟩
  · simp [fresh, Modules.effectiveState]
  · simp [fresh]
  · simp [fresh, Modules.effectiveState]

/-- **The effective state.** In a run it mirrors the running profiler, except while a stop is
awaited, exactly when every start is true to what it records and nothing is recorded as disabled
while a profiler runs. -/
theorem effective_state_mirrors_iff (baseOptions : ProfilingOptions)
    (snapshots : Option Registered) (es : List Event) :
    Always step MirrorsSettled (fresh baseOptions snapshots) es ↔
      Along step RecordsTrue (fresh baseOptions snapshots) es :=
  always_iff_along (fun _ h => h.2) step_inv false_record_breaks es _ (fresh_inv baseOptions snapshots)

/-- The native `start` throws, the call is rejected, and the profiler that does not run stays
recorded as enabled. -/
theorem throwing_start_recorded : ¬ Always step
    (fun s => (∀ job ∈ s.controller.queue.jobs, job.progress.isSettled = true) → Mirrors s)
    (fresh { callstackInterval := 1000, collectionDuration := 30000, memoryProfilingEnabled := true }
      none)
    [.startInitial false {}, .applyRemoteConfiguration
      { cpuProfiler := { enabled := true }
        memoryProfiler := { enabled := false }
        callgraphs := { enabled := false } },
      .turn 0 { startError := "StartProfiling: unable to allocate profiler." }, .turn 0 {}] := by
  intro h
  have hmirrors := h.2.2.2.2 (by decide)
  exact hmirrors.enabled.mp rfl rfl

end SplunkOtel.Controller.Mirror
