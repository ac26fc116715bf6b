import SplunkOtel.Profiling.Turns
import SplunkOtel.Start.Process

/-!
# What `stop()` leaves behind

`stop()` resets the effective state at once, but the profiling controller of the stopped run works
off its queue afterwards, and records what it does there.
-/

open Lib Lib.Run

namespace SplunkOtel.Start

open Js OpAMP Controller
open StartProfiling (ProfilingOptions)

/-! ## What is proved of a run -/

/-- No stopped run has recorded anything since the reset, and the effective state is empty until
the next `start()`. -/
def LeavesNothing (p : Process) : Prop :=
  p.stale = {} ∧ (p.stopped → p.modules.effectiveState = {})

instance : DecidablePred LeavesNothing := fun _ => inferInstanceAs (Decidable (_ ∧ _))

/-- What a task does from here on records nothing about the CPU profiler, if that does not run. -/
def Harmless (base : ProfilingOptions) (task : Task) : Progress Stage (Option String) → Prop
  | .queued => task.wanted base = none
  | .running (.stopping _) => False
  | .running (.stopped restart) => restart = none
  | _ => True

structure Quiescent (c : ProfilingController) : Prop where
  running : c.running = none
  tasks : ∀ job ∈ c.queue.jobs, Harmless c.baseOptions job.task job.progress

/-- `stop()` is called while no CPU profiler runs and no task is left that stops or starts one, and
a remote config of a stopped run gets to its callgraphs only while no snapshot profiler is
registered. -/
def StopsQuietly (p : Process) : Event → Prop
  | .stop => ∀ r ∈ p.current, ∀ run ∈ p.runs[r]?, Quiescent run.controller
  | .turn r j _ => p.current ≠ some r → ∀ run ∈ p.runs[r]?, ∀ job ∈ run.controller.queue.jobs[j]?,
    (∃ error, job.progress = .running (.callgraphs error)) → p.modules.snapshots = none
  | _ => True

/-! ## The invariant -/

structure Inv (p : Process) : Prop where
  nothing : LeavesNothing p
  stopped : p.stopped → p.current = none
  past : ∀ (r : ℕ) (run : Run), p.runs[r]? = some run → p.current ≠ some r →
    run.stopping = true ∧ Quiescent run.controller

theorem applyCallgraphs_unregistered {s : State} (h : s.modules.snapshots = none)
    (config : RemoteProfilingConfig) (native : Native) :
    (s.applyCallgraphs config native).1.modules = s.modules := by
  unfold State.applyCallgraphs Modules.setSnapshotProfilingActive
  simp only [h]
  split <;> rfl

theorem turn_quiet {native : Native} {s t : State} {base : ProfilingOptions} {task : Task}
    {before after : Progress Stage (Option String)}
    (hturn : State.Turn native s task before after t) (hbase : s.controller.baseOptions = base)
    (hrunning : s.controller.running = none) (hharmless : Harmless base task before)
    (hcallgraphs : (∃ error, before = .running (.callgraphs error)) → s.modules.snapshots = none) :
    t.controller.running = none ∧ Harmless base task after ∧
      t.modules.effectiveState = s.modules.effectiveState := by
  cases hturn with
  | reject => exact ⟨hrunning, trivial, rfl⟩
  | unchanged running wanted hwanted =>
    rw [hbase, hharmless] at hwanted
    cases hwanted
  | stop running t _ hsome =>
    rw [hrunning] at hsome
    cases hsome
  | idle => exact ⟨hrunning, rfl, rfl⟩
  | start samplingInterval memoryEnabled hwanted =>
    rw [hbase, hharmless] at hwanted
    cases hwanted
  | record restart => exact absurd hharmless id
  | restart samplingInterval memoryEnabled => cases hharmless
  | noRestart => exact ⟨hrunning, trivial, rfl⟩
  | callgraphs config error =>
    refine ⟨?_, trivial, ?_⟩
    · rw [(State.applyCallgraphs_only s config native).running, hrunning]
    · rw [applyCallgraphs_unregistered (hcallgraphs ⟨error, rfl⟩)]
  | done => exact ⟨hrunning, trivial, rfl⟩

theorem quiescent_turn {s t : State} {j : ℕ} {native : Native} (h : Quiescent s.controller)
    (hcallgraphs : ∀ job ∈ s.controller.queue.jobs[j]?,
      (∃ error, job.progress = .running (.callgraphs error)) → s.modules.snapshots = none)
    (hs : s.turn j native = some t) :
    Quiescent t.controller ∧ t.modules.effectiveState = s.modules.effectiveState := by
  obtain ⟨job, progress, u, hjob, _, hturn, rfl⟩ := State.turn_cases hs
  obtain ⟨hrunning, hharmless, heffective⟩ := turn_quiet hturn rfl h.running
    (h.tasks job (List.mem_of_getElem? hjob)) (hcallgraphs job hjob)
  refine ⟨⟨hrunning, fun other hother => ?_⟩, heffective⟩
  obtain ⟨i, hi⟩ := List.mem_iff_getElem?.mp hother
  rw [hturn.jobs_advance] at hi
  rw [State.advance, hturn.queue.2]
  split at hi
  · rename_i hji
    rw [← hji, hjob] at hi
    obtain rfl := Option.some_inj.mp hi
    exact hharmless
  · exact h.tasks other (List.mem_of_getElem? hi)

theorem quiescent_submit {c : ProfilingController} (h : Quiescent c) {task : Task}
    (htask : task.wanted c.baseOptions = none) :
    Quiescent { c with queue := c.queue.submit task } := by
  refine ⟨h.running, fun job hjob => ?_⟩
  obtain ⟨i, hi⟩ := List.mem_iff_getElem?.mp hjob
  rcases PromiseChain.getElem?_submit hi with hi | ⟨_, rfl⟩
  · exact h.tasks job (List.mem_of_getElem? hi)
  · exact htask

theorem start_inv {p : Process} (h : Inv p) (o : Options) (native : Native) :
    Inv (start p o native) := by
  unfold start
  split
  · exact h
  · rename_i hcurrent
    have hnone : p.current = none := by simpa using hcurrent
    simp only
    split
    · refine ⟨⟨h.nothing.1, fun hstopped => ?_⟩, fun hstopped => ?_, h.past⟩
      · cases hstopped
      · cases hstopped
    · refine ⟨⟨h.nothing.1, fun hstopped => ?_⟩, fun hstopped => ?_, fun r run hrun hpast => ?_⟩
      · cases hstopped
      · cases hstopped
      have hne : r ≠ p.runs.length := by
        rintro rfl
        exact hpast rfl
      have hlt := (List.getElem?_eq_some_iff.mp hrun).1
      rw [List.length_append, List.length_singleton] at hlt
      rw [List.getElem?_append_left (by omega)] at hrun
      exact h.past r run hrun (by simp [hnone])

theorem stop_inv {p : Process} (h : Inv p)
    (hquiet : ∀ r ∈ p.current, ∀ run ∈ p.runs[r]?, Quiescent run.controller) : Inv (stop p) := by
  refine ⟨⟨rfl, fun _ => rfl⟩, fun _ => rfl, fun r run hrun _ => ?_⟩
  unfold stop at hrun
  cases hcurrent : p.current with
  | none =>
    rw [hcurrent] at hrun
    exact h.past r run hrun (by simp [hcurrent])
  | some current =>
    simp only [hcurrent, List.getElem?_modify] at hrun
    split at hrun
    · rename_i hr
      obtain ⟨old, hold, rfl⟩ := Option.map_eq_some_iff.mp hrun
      exact ⟨rfl, quiescent_submit (hquiet r (by simp [hcurrent, hr]) old hold) rfl⟩
    · rename_i hr
      exact h.past r run (by simpa using hrun) (by simpa [hcurrent] using hr)

theorem receive_inv {p : Process} (h : Inv p) (r : ℕ) (config : RemoteProfilingConfig) :
    Inv { p with runs := p.runs.modify r (·.receive config) } := by
  refine ⟨h.nothing, h.stopped, fun i run hrun hpast => ?_⟩
  rw [List.getElem?_modify] at hrun
  split at hrun
  · obtain ⟨old, hold, rfl⟩ := Option.map_eq_some_iff.mp hrun
    have hold' := h.past i old hold hpast
    unfold Run.receive
    rw [if_neg (by simp [hold'.1])]
    exact hold'
  · exact h.past i run (by simpa using hrun) hpast

theorem turn_inv {p q : Process} {r j : ℕ} {native : Native} (h : Inv p)
    (hcallgraphs : p.current ≠ some r → ∀ run ∈ p.runs[r]?, ∀ job ∈ run.controller.queue.jobs[j]?,
      (∃ error, job.progress = .running (.callgraphs error)) → p.modules.snapshots = none)
    (hq : turn p r j native = some q) : Inv q := by
  unfold turn at hq
  split at hq
  · cases hq
  · rename_i run hrun
    obtain ⟨s, hs, rfl⟩ := Option.map_eq_some_iff.mp hq
    by_cases hcurrent : p.current = some r
    · refine ⟨⟨?_, fun hstopped => ?_⟩, h.stopped, fun i other hother hpast => ?_⟩
      · rw [if_pos hcurrent]
        exact h.nothing.1
      · rw [h.stopped hstopped] at hcurrent
        cases hcurrent
      · have hne : r ≠ i := by
          rintro rfl
          exact hpast hcurrent
        rw [List.getElem?_set_ne hne] at hother
        exact h.past i other hother hpast
    · obtain ⟨hstopping, hquiescent⟩ := h.past r run hrun hcurrent
      obtain ⟨hquiescent', heffective⟩ :=
        quiescent_turn hquiescent (hcallgraphs hcurrent run hrun) hs
      refine ⟨⟨?_, fun hstopped => ?_⟩, h.stopped, fun i other hother hpast => ?_⟩
      · rw [if_neg hcurrent]
        split
        · exact h.nothing.1
        · rename_i t ht
          rw [(quiescent_turn hquiescent (hcallgraphs hcurrent run hrun) ht).2]
          exact h.nothing.1
      · rw [heffective]
        exact h.nothing.2 hstopped
      · by_cases hi : r = i
        · rw [← hi, List.getElem?_set_self (List.getElem?_eq_some_iff.mp hrun).1,
            Option.some_inj] at hother
          rw [← hother]
          exact ⟨hstopping, hquiescent'⟩
        · rw [List.getElem?_set_ne hi] at hother
          exact h.past i other hother hpast

theorem step_inv (p : Process) (e : Event) (q : Process) (h : Inv p) (hc : StopsQuietly p e)
    (hs : step p e = some q) : Inv q := by
  cases e with
  | start o native =>
    obtain rfl := Option.some_inj.mp hs
    exact start_inv h o native
  | stop =>
    obtain rfl := Option.some_inj.mp hs
    exact stop_inv h hc
  | remoteConfig r config =>
    obtain rfl := Option.some_inj.mp hs
    exact receive_inv h r config
  | turn r j native => exact turn_inv h hc hs
  | deferred id =>
    obtain ⟨profiling, hprofiling, rfl⟩ := Option.map_eq_some_iff.mp hs
    refine ⟨⟨h.nothing.1, fun hstopped => ?_⟩, h.stopped, h.past⟩
    rw [← h.nothing.2 hstopped]
    exact (StartProfiling.deferred_frame hprofiling).1
  | snapshot e =>
    obtain ⟨modules, hmodules, rfl⟩ := Option.map_eq_some_iff.mp hs
    obtain ⟨_, _, _, _, _, _, rfl⟩ := snapshotStep_cases hmodules
    exact ⟨h.nothing, h.stopped, h.past⟩

theorem initial_inv : Inv {} where
  nothing := ⟨rfl, fun _ => rfl⟩
  stopped _ := rfl
  past r run hrun := by simp at hrun

/-- **Nothing left behind.** In every run whose stops are quiet the effective state is empty from
`stop()` to the next `start()`, and a stopped run never records anything again. -/
theorem stop_leaves_nothing (es : List Event) (h : Along step StopsQuietly {} es) :
    Always step LeavesNothing {} es :=
  always_of_along (fun _ hinv => hinv.nothing) step_inv es {} initial_inv h

theorem stop_after_callgraphs_leaves_nothing :
    let profilingOptions : ProfilingOptions :=
      { callstackInterval := 1000, collectionDuration := 30000, memoryProfilingEnabled := false }
    let options : Options :=
      { profilingOptions, tracing := some ⟨some "http://localhost:4318/v1/traces"⟩
        opampEnabled := true, remoteConfig := true }
    Always step LeavesNothing {}
      [.start options {}, .remoteConfig 0 ⟨⟨false, none⟩, ⟨false⟩, ⟨true, some 5⟩⟩,
        .turn 0 0 {}, .turn 0 0 {}, .turn 0 0 {},
        .remoteConfig 0 ⟨⟨false, none⟩, ⟨false⟩, ⟨false, none⟩⟩, .stop,
        .turn 0 1 {}, .turn 0 1 {}, .turn 0 1 {}, .turn 0 2 {}, .turn 0 2 {}, .start options {}] := by
  intro profilingOptions options
  apply stop_leaves_nothing
  have hcurrent {p : Process} {j : ℕ} {native : Native} (h : p.current = some 0) :
      StopsQuietly p (.turn 0 j native) := fun hne => absurd h hne
  have hunregistered {p : Process} {j : ℕ} {native : Native} (h : p.modules.snapshots = none) :
      StopsQuietly p (.turn 0 j native) := fun _ _ _ _ _ _ => h
  refine ⟨trivial, trivial, hcurrent rfl, hcurrent rfl, hcurrent rfl, trivial, ?_,
    hunregistered rfl, hunregistered rfl, hunregistered rfl, hunregistered rfl, hunregistered rfl,
    trivial, trivial⟩
  rintro _ ⟨⟩ _ ⟨⟩
  refine ⟨rfl, fun job hjob => ?_⟩
  rcases List.mem_cons.mp hjob with rfl | hjob
  · trivial
  · rw [List.mem_singleton.mp hjob]
    rfl

/-- A stopped run records the CPU profiler as disabled after the reset. -/
theorem stopped_profiler_recorded : ¬ Always step
    (fun p => p.stopped → (∀ run ∈ p.runs, ∀ job ∈ run.controller.queue.jobs,
      job.progress.isSettled = true) → p.modules.effectiveState = {})
    {}
    [.start { profilingOptions :=
                { callstackInterval := 1000, collectionDuration := 30000
                  memoryProfilingEnabled := false }
              profilerEnabled := true } {},
      .stop, .turn 0 0 {}, .turn 0 0 {}, .turn 0 0 {}] := by
  intro h
  have hempty := h.2.2.2.2.2 rfl (by decide)
  cases hempty

end SplunkOtel.Start
