import SplunkOtel.Lib.OrderedMap
import SplunkOtel.Lib.Run
import SplunkOtel.Profiling.StartProfiling

/-!
# The native memory profiler (`src/native_ext/memory_profiling.cpp`)

One flag says whether the sampling heap profiler of V8 runs. V8 is part of the state: it starts a
session when none is there, and hands over a profile only while one is. What V8 samples is an event.
-/

open Lib Lib.Run

namespace SplunkOtel.Native.HeapProfiling

/-! ## V8 -/

structure Sample where
  nodeId : ℕ
  size : ℕ
  count : ℕ
  sampleId : ℕ

inductive Node where
  | node (name scriptName : String) (lineNumber : ℤ) (nodeId : ℕ) (children : List Node)

def Node.name : Node → String
  | .node name _ _ _ _ => name

def Node.scriptName : Node → String
  | .node _ scriptName _ _ _ => scriptName

def Node.lineNumber : Node → ℤ
  | .node _ _ lineNumber _ _ => lineNumber

def Node.nodeId : Node → ℕ
  | .node _ _ _ nodeId _ => nodeId

def Node.children : Node → List Node
  | .node _ _ _ _ children => children

structure AllocationProfile where
  root : Node
  samples : List Sample

structure Session where
  sampleInterval : ℕ
  stackDepth : ℕ
  profile : AllocationProfile

structure HeapProfiler where
  session : Option Session

def startSamplingHeapProfiler (profiler : HeapProfiler) (sampleInterval stackDepth : ℕ) :
    HeapProfiler × Bool :=
  match profiler.session with
  | some _ => (profiler, false)
  | none =>
    let profile := { root := .node "(root)" "" 0 1 [], samples := [] }
    ({ session := some { sampleInterval, stackDepth, profile } }, true)

def stopSamplingHeapProfiler (_profiler : HeapProfiler) : HeapProfiler := { session := none }

def getAllocationProfile (profiler : HeapProfiler) : Option AllocationProfile :=
  profiler.session.map (·.profile)

/-! ## The entry points -/

structure State where
  /-- `GetHeapProfiler()` of the isolate. -/
  heapProfiler : Option HeapProfiler
  generation : ℕ := 0
  /-- The samples of the last profile, with the generation that saw them. -/
  tracking : OrderedMap ℕ ℕ := ∅
  v8ProfilerRunning : Bool := false

def startMemoryProfiling (s : State) (options : Option StartProfiling.MemoryProfilingOptions) :
    State × Option String :=
  if s.v8ProfilerRunning then (s, none)
  else
    match s.heapProfiler with
    | none => (s, some "unable to get heap profiler - isolate not initialized")
    | some profiler =>
      let sampleIntervalBytes := (options.bind (·.sampleIntervalBytes)).getD (1024 * 128)
      let maxStackDepth := (options.bind (·.maxStackDepth)).getD 256
      let (profiler, started) :=
        startSamplingHeapProfiler profiler sampleIntervalBytes maxStackDepth
      ({ s with heapProfiler := some profiler, v8ProfilerRunning := started }, none)

structure HeapProfileNode where
  name : String
  scriptName : String
  lineNumber : ℤ
  parentId : ℕ

structure HeapProfileSample where
  nodeId : ℕ
  size : ℕ

structure HeapProfile where
  treeMap : OrderedMap ℕ HeapProfileNode
  samples : List HeapProfileSample
  timestamp : ℤ
  profilerCollectDuration : ℤ
  profilerProcessingStepDuration : ℤ

mutual

def Node.count : Node → ℕ
  | .node _ _ _ _ children => 1 + countAll children

def countAll : List Node → ℕ
  | [] => 0
  | n :: ns => Node.count n + countAll ns

end

theorem countAll_eq (nodes : List Node) : countAll nodes = (nodes.map Node.count).sum := by
  induction nodes with
  | nil => rfl
  | cons n ns ih => rw [countAll, List.map_cons, List.sum_cons, ih]

theorem Node.count_eq (n : Node) : n.count = 1 + (n.children.map fun child => child.count).sum := by
  rcases n with ⟨_, _, _, _, children⟩
  rw [Node.count, countAll_eq]
  rfl

/-- The loop over the stack of nodes, each with the id of its parent. The top comes first. -/
def walk (stack : List (Node × ℕ)) (jsNodeTree : OrderedMap ℕ HeapProfileNode) :
    OrderedMap ℕ HeapProfileNode :=
  match stack with
  | [] => jsNodeTree
  | (node, parentId) :: stack =>
    let jsNode :=
      { name := node.name, scriptName := node.scriptName, lineNumber := node.lineNumber, parentId }
    walk ((node.children.map (·, node.nodeId)).reverse ++ stack) (jsNodeTree.set node.nodeId jsNode)
termination_by (stack.map (·.1.count)).sum
decreasing_by
  have := node.count_eq
  simp only [List.map_append, List.map_reverse, List.map_map, List.sum_append, List.sum_reverse,
    List.map_cons, List.sum_cons, Function.comp_def]
  omega

/-- The root is left out. -/
def treeMap (profile : AllocationProfile) : OrderedMap ℕ HeapProfileNode :=
  walk (profile.root.children.map (·, profile.root.nodeId)).reverse ∅

/-- One sample: it is reported unless the last profile had it, and marked as seen. -/
def trackSample (generation : ℕ) (seen : OrderedMap ℕ ℕ × List HeapProfileSample)
    (sample : Sample) : OrderedMap ℕ ℕ × List HeapProfileSample :=
  let jsSamples := match seen.1.get? sample.sampleId with
    | none => seen.2 ++ [{ nodeId := sample.nodeId, size := sample.size * sample.count % 2 ^ 32 }]
    | some _ => seen.2
  (seen.1.set sample.sampleId generation, jsSamples)

def forgetOld (tracking : OrderedMap ℕ ℕ) (generation : ℕ) : OrderedMap ℕ ℕ :=
  tracking.entries.foldl
    (fun tracking (id, seenIn) => if seenIn ≠ generation then tracking.delete id else tracking)
    tracking

/-- The clock while a profile is collected. -/
structure Readings where
  allocationProfileStart : ℤ
  sampleProcessingStart : ℤ
  sampleProcessingEnd : ℤ
  milliSecondsSinceEpoch : ℤ

def collectHeapProfile (s : State) (readings : Readings) : State × Option HeapProfile :=
  if ¬ s.v8ProfilerRunning then (s, none)
  else
    match s.heapProfiler.bind getAllocationProfile with
    | none => (s, none)
    | some profile =>
      let generation := s.generation + 1
      let (tracking, samples) := profile.samples.foldl (trackSample generation) (s.tracking, [])
      ({ s with generation, tracking := forgetOld tracking generation },
        some {
          treeMap := treeMap profile
          samples
          timestamp := readings.milliSecondsSinceEpoch
          profilerCollectDuration := readings.sampleProcessingStart - readings.allocationProfileStart
          profilerProcessingStepDuration :=
            readings.sampleProcessingEnd - readings.sampleProcessingStart })

def stopMemoryProfiling (s : State) : State :=
  if ¬ s.v8ProfilerRunning then s
  else { s with heapProfiler := s.heapProfiler.map stopSamplingHeapProfiler }

/-! ## Runs -/

inductive Event where
  | start (options : Option StartProfiling.MemoryProfilingOptions)
  | collect (readings : Readings)
  | stop
  /-- The profile of the session that runs becomes this one. -/
  | sampled (profile : AllocationProfile)

def session (s : State) : Option Session := s.heapProfiler.bind (·.session)

def step (s : State) : Event → Option State
  | .start options => some (startMemoryProfiling s options).1
  | .collect readings => some (collectHeapProfile s readings).1
  | .stop => some (stopMemoryProfiling s)
  | .sampled profile =>
    (session s).map fun running =>
      { s with heapProfiler := some { session := some { running with profile } } }

def initial (initialized : Bool) : State where
  heapProfiler := if initialized then some { session := none } else none

/-- After a start a session runs, and a collect hands over its profile. -/
def Restarts (s : State) : Prop :=
  ∀ options readings, s.heapProfiler.isSome →
    ∃ running result, session (startMemoryProfiling s options).1 = some running ∧
      (collectHeapProfile (startMemoryProfiling s options).1 readings).2 = some result ∧
      result.treeMap = treeMap running.profile

structure MatchesV8 (s : State) : Prop where
  flag : s.v8ProfilerRunning = (session s).isSome
  restarts : Restarts s

/-- The step does not stop a profiler that runs. -/
def StopsNothing (s : State) : Event → Prop
  | .stop => s.v8ProfilerRunning = false
  | _ => True

/-! ## The flag -/

theorem start_flag {s : State} (h : s.v8ProfilerRunning = (session s).isSome)
    (options : Option StartProfiling.MemoryProfilingOptions) :
    (startMemoryProfiling s options).1.v8ProfilerRunning =
        (session (startMemoryProfiling s options).1).isSome ∧
      (s.heapProfiler.isSome → (session (startMemoryProfiling s options).1).isSome) := by
  unfold startMemoryProfiling
  by_cases hrun : s.v8ProfilerRunning
  · rw [if_pos hrun]
    exact ⟨h, fun _ => h ▸ hrun⟩
  · rw [if_neg hrun]
    rcases hprofiler : s.heapProfiler with _ | ⟨_ | running⟩
    · exact ⟨h, fun hsome => absurd hsome (by decide)⟩
    · exact ⟨rfl, fun _ => rfl⟩
    · rw [h, session, hprofiler] at hrun
      exact absurd rfl hrun

theorem collect_frame (s : State) (readings : Readings) :
    (collectHeapProfile s readings).1.v8ProfilerRunning = s.v8ProfilerRunning ∧
      (collectHeapProfile s readings).1.heapProfiler = s.heapProfiler := by
  unfold collectHeapProfile
  split
  · exact ⟨rfl, rfl⟩
  · split <;> exact ⟨rfl, rfl⟩

theorem collect_running {s : State} {running : Session} (hflag : s.v8ProfilerRunning = true)
    (hsession : session s = some running) (readings : Readings) :
    ∃ result, (collectHeapProfile s readings).2 = some result ∧
      result.treeMap = treeMap running.profile := by
  have hprofile : s.heapProfiler.bind getAllocationProfile = some running.profile := by
    unfold session at hsession
    obtain ⟨profiler, hprofiler, hrunning⟩ := Option.bind_eq_some_iff.mp hsession
    rw [hprofiler, Option.bind_some, getAllocationProfile, hrunning, Option.map_some]
  unfold collectHeapProfile
  rw [if_neg (by simpa using hflag), hprofile]
  exact ⟨_, rfl, rfl⟩

theorem matchesV8_of_flag {s : State} (h : s.v8ProfilerRunning = (session s).isSome) :
    MatchesV8 s where
  flag := h
  restarts options readings hprofiler := by
    obtain ⟨hflag, hsome⟩ := start_flag h options
    obtain ⟨running, hrunning⟩ := Option.isSome_iff_exists.mp (hsome hprofiler)
    rw [hrunning, Option.isSome_some] at hflag
    obtain ⟨result, hresult, htree⟩ := collect_running hflag hrunning readings
    exact ⟨running, result, hrunning, hresult, htree⟩

theorem step_flag (s : State) (e : Event) (s' : State)
    (h : s.v8ProfilerRunning = (session s).isSome) (hc : StopsNothing s e)
    (hstep : step s e = some s') : s'.v8ProfilerRunning = (session s').isSome := by
  rcases e with options | readings | _ | profile <;>
    simp only [step, Option.some.injEq, Option.map_eq_some_iff] at hstep
  · exact hstep ▸ (start_flag h options).1
  · obtain ⟨hflag, hprofiler⟩ := collect_frame s readings
    rw [← hstep, hflag, h, session, session, hprofiler]
  · have hidle : s.v8ProfilerRunning = false := hc
    rw [← hstep, stopMemoryProfiling, if_pos (by simpa using hidle)]
    exact h
  · obtain ⟨running, hrunning, rfl⟩ := hstep
    rw [hrunning] at h
    exact h

theorem stop_breaks (s : State) (e : Event) (s' : State)
    (_ : s.v8ProfilerRunning = (session s).isSome) (hc : ¬ StopsNothing s e)
    (hstep : step s e = some s') : ¬ MatchesV8 s' := by
  rcases e with _ | _ | _ | _
  · exact absurd trivial hc
  · exact absurd trivial hc
  · have hrun : s.v8ProfilerRunning = true := by simpa [StopsNothing] using hc
    simp only [step, Option.some.injEq] at hstep
    subst hstep
    intro hmatches
    have hflag := hmatches.flag
    unfold stopMemoryProfiling session at hflag
    rw [if_neg (by simpa using hrun)] at hflag
    simp only [hrun] at hflag
    rcases hprofiler : s.heapProfiler with _ | profiler
    · rw [hprofiler] at hflag
      exact absurd hflag (by decide)
    · rw [hprofiler] at hflag
      exact absurd hflag (by simp [stopSamplingHeapProfiler])
  · exact absurd trivial hc

/-- **The running flag.** It says whether V8 samples, and a start makes V8 sample again, in every
state of a run exactly when no step of the run stops a profiler that runs. -/
theorem flag_matches_iff (initialized : Bool) (es : List Event) :
    Always step MatchesV8 (initial initialized) es ↔ Along step StopsNothing (initial initialized) es := by
  apply always_iff_along (fun _ h => matchesV8_of_flag h) step_flag stop_breaks
  rcases initialized with _ | _ <;> rfl

open StartProfiling in
/-- What a remote config that turns memory profiling on and then off asks of the extension. -/
example :
    ([.startProfiling ⟨1000, 30000, true, none⟩ true false, .deferred 0, .stop 0].foldlM
        StartProfiling.step {}).map (fun w => w.calls.map Prod.snd) =
      some [.start (nativeOptions ⟨1000, 30000, true, none⟩), .startMemoryProfiling none,
        .stopMemoryProfiling, .stop] := rfl

/-- A stop leaves the flag set, so that the next start does nothing and the next collect is null. -/
theorem stop_keeps_flag :
    ¬ Always step MatchesV8 (initial true) [.start none, .stop] ∧
      (collectHeapProfile (startMemoryProfiling (stopMemoryProfiling
        (startMemoryProfiling (initial true) none).1) none).1 ⟨0, 0, 0, 0⟩).2.isNone := by
  constructor
  · intro h
    have hlast : MatchesV8 (stopMemoryProfiling (startMemoryProfiling (initial true) none).1) :=
      h.2.2
    exact absurd hlast.flag (by decide)
  · rfl

end SplunkOtel.Native.HeapProfiling
