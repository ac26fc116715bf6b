import Mathlib.Logic.Function.Basic
import SplunkOtel.Native.Activations

/-!
# The native CPU profiler (`src/native_ext/profiling.cpp`)

One profiler of the registry, with the functions that JavaScript calls on it. V8 and the clocks are
inputs: each function is given the `HrTime` readings that it takes and the profile that V8 hands
over, if any. Trace ids stand for their hashes in the filter, and the debug export is off.
-/

namespace SplunkOtel.Native

structure ProfilingOptions where
  samplingIntervalMicros : ℤ
  recordDebugInfo : Bool
  onlyFilteredStacktraces : Bool
  maxSampleCutoffDelayNanos : ℤ

structure CpuProfileNode where
  scriptResourceName : String
  functionName : String
  lineNumber : ℤ
  columnNumber : ℤ

/-- Microseconds, and the nodes from the leaf up to the root. -/
structure V8Sample where
  timestamp : ℤ
  node : CpuProfileNode
  parents : List CpuProfileNode

structure V8CpuProfile where
  startTime : ℤ
  samples : List V8Sample

structure ProfilingStackFrame where
  fileName : String
  functionName : String
  lineNumber : ℤ
  columnNumber : ℤ
deriving DecidableEq

/-- `timestamp` is decimal text in the source. The ids are there when a span was active. -/
structure ProfilingStacktrace where
  timestamp : ℤ
  stacktrace : List ProfilingStackFrame
  traceId : Option (List UInt8)
  spanId : Option (List UInt8)
deriving DecidableEq

/-- The durations are set by `collect` alone. -/
structure CpuProfile where
  startTimeNanos : ℤ
  stacktraces : List ProfilingStacktrace
  profilerStartDuration : Option ℤ := none
  profilerStopDuration : Option ℤ := none
  profilerProcessingStepDuration : Option ℤ := none
deriving DecidableEq

/-! ## Set up and start -/

def applyProfilingOptions (p : Profiling) (options : ProfilingOptions) : Profiling :=
  { p with
    recordDebugInfo := options.recordDebugInfo
    onlyFilteredStacktraces := options.onlyFilteredStacktraces
    maxSampleCutoffDelayNanos := options.maxSampleCutoffDelayNanos
    samplingIntervalNanos := options.samplingIntervalMicros * 1000 }

def setupProfiling (options : ProfilingOptions) : Profiling :=
  applyProfilingOptions { Profiling.zero with activationPeriod := [newActivationPeriod] } options

/-- For a profiler that is registered already. -/
def getOrCreateCpuProfiler (p : Profiling) (options : ProfilingOptions) : Profiling :=
  let p := applyProfilingOptions p options
  if p.running then p else profilingReset p

/-- The clock while V8 is started. `v8Start` is when V8 takes the start time of its profile. -/
structure StartReadings where
  startTime : ℤ
  wallStartTime : ℤ
  v8Start : ℤ
  sampleCutoffPoint : ℤ

def beginProfile (p : Profiling) (r : StartReadings) : Profiling :=
  { p with
    activationDepth := 0
    startTime := r.startTime
    wallStartTime := r.wallStartTime
    v8StartTime := r.v8Start
    sampleCutoffPoint := r.sampleCutoffPoint
    running := true }

def startCpuProfiler (p : Profiling) (r : StartReadings) : Profiling × Bool :=
  if p.running then (p, false) else (beginProfile p r, true)

/-- `StartProfiling`, for a profiler that is registered already. -/
def startProfiling (p : Profiling) (options : ProfilingOptions) (r : StartReadings) :
    Except String Profiling :=
  if p.running then .error "CpuProfiler: profiler already running."
  else .ok (beginProfile (profilingReset (applyProfilingOptions p options)) r)

def addTraceIdFilter (p : Profiling) (traceId : String) : Profiling :=
  { p with traceIdFilter := p.traceIdFilter.insert traceId }

def removeTraceIdFilter (p : Profiling) (traceId : String) : Profiling :=
  { p with traceIdFilter := p.traceIdFilter.filter (· ≠ traceId) }

/-! ## Contexts -/

/-- Nothing is recorded while the profiler is stopped or the trace is not in the filter. -/
def recorded (p : Profiling) (traceId : String) : Bool :=
  p.running ∧ (p.onlyFilteredStacktraces → traceId ∈ p.traceIdFilter)

def profilingEnterContext (p : Profiling) (contextHash timestamp : ℤ) (traceId spanId : String) :
    Profiling :=
  if ¬ recorded p traceId then p
  else
    let stack := (p.spanActivations contextHash).getD .init
    -- The slot keeps the end time of its last use, which no one reads before the exit.
    let stack := stack.push ⟨traceId, spanId, timestamp, 0⟩
    { p with
      spanActivations := Function.update p.spanActivations contextHash (some stack)
      activationDepth := p.activationDepth + 1 }

def isValidSpanId (id : String) : Bool := id.utf8ByteSize = 16 ∧ id ≠ "0000000000000000"

def isValidTraceId (id : String) : Bool :=
  id.utf8ByteSize = 32 ∧ id ≠ "00000000000000000000000000000000"

/-- JavaScript may hand over any two texts. -/
def enterContext (p : Profiling) (contextHash timestamp : ℤ) (traceId spanId : String) :
    Profiling :=
  if isValidTraceId traceId ∧ isValidSpanId spanId then
    profilingEnterContext p contextHash timestamp traceId spanId
  else p

def profilingExitContext (p : Profiling) (contextHash timestamp : ℤ) : Profiling :=
  if ¬ p.running then p
  else
    match p.spanActivations contextHash with
    | none => p
    | some stack =>
      match stack.pop with
      | (none, _) => p
      | (some activation, stack) =>
        let p := insertActivation p { activation with endTime := timestamp }
        { p with
          spanActivations := Function.update p.spanActivations contextHash
            (if stack.count = 0 then none else some stack)
          activationDepth := p.activationDepth - 1 }

/-! ## Samples -/

def hexToInt (c : Char) : UInt8 :=
  if '0' ≤ c ∧ c ≤ '9' then (c.toNat - '0'.toNat).toUInt8
  else if 'A' ≤ c ∧ c ≤ 'F' then (c.toNat - 'A'.toNat + 10).toUInt8
  else if 'a' ≤ c ∧ c ≤ 'f' then (c.toNat - 'a'.toNat + 10).toUInt8
  else 255

def hexPairs : List Char → List UInt8
  | [] => []
  | [c] => [hexToInt c]
  | c :: d :: cs => (hexToInt c <<< 4 ||| hexToInt d) :: hexPairs cs

/-- The bytes end at the end of the buffer, after zeros. -/
def hexToBinary (hex : String) (bufferSize : ℕ) : List UInt8 :=
  if hex.length > bufferSize * 2 then List.replicate bufferSize 0
  else List.replicate (bufferSize - (hex.length + 1) / 2) 0 ++ hexPairs hex.toList

def shouldIncludeSample (p : Profiling) (sampleTimestamp : ℤ) : Bool :=
  sampleTimestamp ≥ p.startTime + p.maxSampleCutoffDelayNanos ∨
    sampleTimestamp ≥ p.sampleCutoffPoint

def makeStackLine (node : CpuProfileNode) : ProfilingStackFrame where
  fileName := if node.scriptResourceName = "" then "unknown" else node.scriptResourceName
  functionName := if node.functionName = "" then "anonymous" else node.functionName
  lineNumber := node.lineNumber
  columnNumber := node.columnNumber

/-- The root node is left out, unless it was sampled itself. -/
def makeTrace (p : Profiling) (s : V8Sample) (activation : Option SpanActivation) :
    ProfilingStacktrace where
  timestamp := p.wallStartTime + (s.timestamp * 1000 - p.startTime)
  stacktrace := makeStackLine s.node :: s.parents.dropLast.map makeStackLine
  traceId := activation.map fun a => hexToBinary a.traceId 16
  spanId := activation.map fun a => hexToBinary a.spanId 8

/-- One turn of the loop over the samples: the profiler, `nextSampleTs` and the traces so far. -/
def buildStacktrace (t : Profiling × ℤ × List ProfilingStacktrace) (s : V8Sample) :
    Profiling × ℤ × List ProfilingStacktrace :=
  let (p, nextSampleTs, jsTraces) := t
  let monotonicTs := s.timestamp * 1000
  if ¬ (shouldIncludeSample p monotonicTs ∧ monotonicTs ≥ nextSampleTs) then t
  else
    let (activation, p) := findClosestActivation p monotonicTs
    if p.onlyFilteredStacktraces ∧ activation = none then (p, nextSampleTs, jsTraces)
    else
      (p, nextSampleTs + p.samplingIntervalNanos, jsTraces ++ [makeTrace p s activation])

def profilingBuildStacktraces (p : Profiling) (profile : V8CpuProfile) : Profiling × CpuProfile :=
  let (p, _, stacktraces) :=
    profile.samples.foldl buildStacktrace (p, profile.startTime * 1000, [])
  (p, { startTimeNanos := p.wallStartTime, stacktraces })

/-! ## Collect and stop -/

structure CollectReadings where
  newStartTime : ℤ
  newWallStart : ℤ
  v8Start : ℤ
  profilerStopBegin : ℤ
  profilerStopEnd : ℤ
  processed : ℤ
  sampleCutoffPoint : ℤ

/-- V8 records into a new profile before the old one is stopped. -/
def collectProfilingData (p : Profiling) (r : CollectReadings) (profile : Option V8CpuProfile) :
    Profiling × Option CpuProfile :=
  if ¬ p.running then (p, none)
  else
    let p := { p with profilerSeq := (p.profilerSeq + 1) % 2, activationDepth := 0 }
    let p := { p with v8StartTime := r.v8Start }
    match profile with
    | none => ({ p with startTime := r.newStartTime, wallStartTime := r.newWallStart }, none)
    | some profile =>
      let (p, jsProfilingData) := profilingBuildStacktraces p profile
      let jsProfilingData := { jsProfilingData with
        profilerStartDuration := some (r.profilerStopBegin - r.newStartTime)
        profilerStopDuration := some (r.profilerStopEnd - r.profilerStopBegin)
        profilerProcessingStepDuration := some (r.processed - r.profilerStopEnd) }
      let p := profilingReset p
      ({ p with
        startTime := r.newStartTime
        wallStartTime := r.newWallStart
        sampleCutoffPoint := r.sampleCutoffPoint }, some jsProfilingData)

def stopProfiling (p : Profiling) (profile : Option V8CpuProfile) :
    Profiling × Option CpuProfile :=
  if ¬ p.running then (p, none)
  else
    let p := { p with running := false }
    match profile with
    | none => (profilingReset p, none)
    | some profile =>
      let (p, jsProfilingData) := profilingBuildStacktraces p profile
      (profilingReset p, some jsProfilingData)

/-! ## What the functions touch -/

/-- The activations that are open in a context, the oldest one first. -/
def openActivations (p : Profiling) (contextHash : ℤ) : List SpanActivation :=
  ((p.spanActivations contextHash).map ActivationStack.toList).getD []

theorem openActivations_of_none {p : Profiling} {c : ℤ} (h : p.spanActivations c = none) :
    openActivations p c = [] := by
  rw [openActivations, h]
  rfl

theorem openActivations_of_some {p : Profiling} {c : ℤ} {stack : ActivationStack}
    (h : p.spanActivations c = some stack) : openActivations p c = stack.toList := by
  rw [openActivations, h]
  rfl

/-- Whether an enter opens an activation. -/
def entered (p : Profiling) (traceId spanId : String) : Bool :=
  isValidTraceId traceId ∧ isValidSpanId spanId ∧ recorded p traceId

theorem running_of_recorded {p : Profiling} {traceId : String} (h : recorded p traceId = true) :
    p.running = true := by
  simp only [recorded, decide_eq_true_eq] at h
  exact h.1

theorem running_of_entered {p : Profiling} {traceId spanId : String}
    (h : entered p traceId spanId = true) : p.running = true := by
  simp only [entered, decide_eq_true_eq] at h
  exact running_of_recorded h.2.2

theorem profilingEnterContext_cases (p : Profiling) (contextHash timestamp : ℤ)
    (traceId spanId : String) :
    (recorded p traceId = false ∧
        profilingEnterContext p contextHash timestamp traceId spanId = p) ∨
      ∃ stack : ActivationStack,
        recorded p traceId = true ∧
          stack.toList =
            openActivations p contextHash ++ [⟨traceId, spanId, timestamp, 0⟩] ∧
          profilingEnterContext p contextHash timestamp traceId spanId =
            { p with
              spanActivations := Function.update p.spanActivations contextHash (some stack)
              activationDepth := p.activationDepth + 1 } := by
  unfold profilingEnterContext
  split
  · rename_i hskip
    exact Or.inl ⟨by simpa using hskip, rfl⟩
  · rename_i hrec
    simp only [not_not] at hrec
    refine Or.inr ⟨_, hrec, ?_, rfl⟩
    rw [ActivationStack.toList_push]
    rcases hstack : p.spanActivations contextHash with _ | stack
    · rw [openActivations_of_none hstack]
      rfl
    · rw [openActivations_of_some hstack]
      rfl

theorem enterContext_cases (p : Profiling) (contextHash timestamp : ℤ)
    (traceId spanId : String) :
    (entered p traceId spanId = false ∧ enterContext p contextHash timestamp traceId spanId = p) ∨
      ∃ stack : ActivationStack,
        entered p traceId spanId = true ∧
          stack.toList =
            openActivations p contextHash ++ [⟨traceId, spanId, timestamp, 0⟩] ∧
          enterContext p contextHash timestamp traceId spanId =
            { p with
              spanActivations := Function.update p.spanActivations contextHash (some stack)
              activationDepth := p.activationDepth + 1 } := by
  unfold enterContext entered
  split
  · rename_i hvalid
    simp only [hvalid, true_and, Bool.decide_eq_true]
    exact profilingEnterContext_cases p contextHash timestamp traceId spanId
  · rename_i hinvalid
    exact Or.inl ⟨decide_eq_false fun h => hinvalid ⟨h.1, h.2.1⟩, rfl⟩

theorem profilingExitContext_cases (p : Profiling) (contextHash timestamp : ℤ) :
    ((p.running = false ∨ openActivations p contextHash = []) ∧
        profilingExitContext p contextHash timestamp = p) ∨
      ∃ stack a periods,
        p.running = true ∧ p.spanActivations contextHash = some stack ∧
          stack.toList.getLast? = some a ∧
          profilingExitContext p contextHash timestamp =
            { p with
              activationPeriod := periods
              binRequests := p.binRequests ++ insertIndices p { a with endTime := timestamp }
              inserted := p.inserted ++ [{ a with endTime := timestamp }]
              spanActivations := Function.update p.spanActivations contextHash
                (if stack.pop.2.count = 0 then none else some stack.pop.2)
              activationDepth := p.activationDepth - 1 } := by
  unfold profilingExitContext openActivations
  split
  · rename_i hstopped
    exact Or.inl ⟨Or.inl (by simpa using hstopped), rfl⟩
  · rename_i hrunning
    simp only [not_not] at hrunning
    rcases hstack : p.spanActivations contextHash with _ | stack
    · exact Or.inl ⟨Or.inr rfl, rfl⟩
    · have htop := stack.pop_fst
      rcases hpop : stack.pop with ⟨_ | a, rest⟩ <;> rw [hpop] at htop
      · refine Or.inl ⟨Or.inr (List.getLast?_eq_none_iff.mp htop.symm), ?_⟩
        simp only [hpop]
      · obtain ⟨periods, hinsert⟩ := insertActivation_frame p { a with endTime := timestamp }
        refine Or.inr ⟨stack, a, periods, hrunning, rfl, htop.symm, ?_⟩
        simp only [hpop, hinsert]

theorem buildStacktrace_foldl_frame (samples : List V8Sample) (p : Profiling) (next : ℤ)
    (jsTraces : List ProfilingStacktrace) :
    ∃ periods is,
      (samples.foldl buildStacktrace (p, next, jsTraces)).1 =
        { p with activationPeriod := periods, binRequests := p.binRequests ++ is } ∧
      ∀ i ∈ is, ∃ s ∈ samples, i = activationBinIndex p (s.timestamp * 1000) := by
  induction samples generalizing p next jsTraces with
  | nil => exact ⟨p.activationPeriod, [], by rw [List.append_nil]; rfl, by simp⟩
  | cons s samples ih =>
    rw [List.foldl_cons]
    unfold buildStacktrace
    simp only
    split
    · obtain ⟨periods, is, hp, his⟩ := ih p next jsTraces
      refine ⟨periods, is, hp, fun i hi => ?_⟩
      obtain ⟨s', hs', hi'⟩ := his i hi
      exact ⟨s', List.mem_cons_of_mem _ hs', hi'⟩
    · have hlookup : ∀ next jsTraces, ∃ periods is,
          (samples.foldl buildStacktrace
            ((findClosestActivation p (s.timestamp * 1000)).2, next, jsTraces)).1 =
            { p with activationPeriod := periods, binRequests := p.binRequests ++ is } ∧
          ∀ i ∈ is, ∃ s' ∈ s :: samples, i = activationBinIndex p (s'.timestamp * 1000) := by
        intro next jsTraces
        obtain ⟨_, hone⟩ := findClosestActivation_frame p (s.timestamp * 1000)
        obtain ⟨periods, is, hp, his⟩ :=
          ih (findClosestActivation p (s.timestamp * 1000)).2 next jsTraces
        rw [hone] at hp his
        refine ⟨periods, activationBinIndex p (s.timestamp * 1000) :: is, ?_, fun i hi => ?_⟩
        · rw [hone, hp]
          simp
        · rcases List.mem_cons.mp hi with rfl | hi
          · exact ⟨s, List.mem_cons_self, rfl⟩
          · obtain ⟨s', hs', hi'⟩ := his i hi
            exact ⟨s', List.mem_cons_of_mem _ hs', hi'⟩
      split
      · exact hlookup _ _
      · exact hlookup _ _

theorem profilingBuildStacktraces_frame (p : Profiling) (profile : V8CpuProfile) :
    ∃ periods is,
      (profilingBuildStacktraces p profile).1 =
        { p with activationPeriod := periods, binRequests := p.binRequests ++ is } ∧
      ∀ i ∈ is, ∃ s ∈ profile.samples, i = activationBinIndex p (s.timestamp * 1000) :=
  buildStacktrace_foldl_frame _ _ _ _

theorem collectProfilingData_cases (p : Profiling) (r : CollectReadings)
    (profile : Option V8CpuProfile) :
    (p.running = false ∧ (collectProfilingData p r profile).1 = p) ∨
    (p.running = true ∧ profile = none ∧ (collectProfilingData p r profile).1 =
      { p with
        profilerSeq := (p.profilerSeq + 1) % 2
        activationDepth := 0
        v8StartTime := r.v8Start
        startTime := r.newStartTime
        wallStartTime := r.newWallStart }) ∨
    (p.running = true ∧ ∃ v is, profile = some v ∧
      (∀ i ∈ is, ∃ s ∈ v.samples, i = activationBinIndex p (s.timestamp * 1000)) ∧
      (collectProfilingData p r profile).1 =
        { profilingReset p with
          profilerSeq := (p.profilerSeq + 1) % 2
          activationDepth := 0
          v8StartTime := r.v8Start
          binRequests := p.binRequests ++ is
          startTime := r.newStartTime
          wallStartTime := r.newWallStart
          sampleCutoffPoint := r.sampleCutoffPoint }) := by
  unfold collectProfilingData
  split
  · rename_i hstopped
    exact Or.inl ⟨by simpa using hstopped, rfl⟩
  · rename_i hrunning
    simp only [not_not] at hrunning
    rcases profile with _ | v
    · exact Or.inr (Or.inl ⟨hrunning, rfl, rfl⟩)
    · obtain ⟨periods, is, hp, his⟩ := profilingBuildStacktraces_frame
        { p with
          profilerSeq := (p.profilerSeq + 1) % 2, activationDepth := 0, v8StartTime := r.v8Start } v
      refine Or.inr (Or.inr ⟨hrunning, v, is, rfl, his, ?_⟩)
      simp only [hp, profilingReset]

theorem stopProfiling_cases (p : Profiling) (profile : Option V8CpuProfile) :
    (p.running = false ∧ (stopProfiling p profile).1 = p) ∨
    (p.running = true ∧ ∃ is,
      (∀ i ∈ is, ∃ v ∈ profile, ∃ s ∈ v.samples, i = activationBinIndex p (s.timestamp * 1000)) ∧
      (stopProfiling p profile).1 =
        { profilingReset p with running := false, binRequests := p.binRequests ++ is }) := by
  unfold stopProfiling
  split
  · rename_i hstopped
    exact Or.inl ⟨by simpa using hstopped, rfl⟩
  · rename_i hrunning
    simp only [not_not] at hrunning
    rcases profile with _ | v
    · refine Or.inr ⟨hrunning, [], by simp, ?_⟩
      rw [List.append_nil]
      rfl
    · obtain ⟨periods, is, hp, his⟩ := profilingBuildStacktraces_frame { p with running := false } v
      refine Or.inr ⟨hrunning, is, fun i hi => ⟨v, rfl, his i hi⟩, ?_⟩
      simp only [hp, profilingReset]

/-! ## Runs -/

/-- The calls on the profiler, with what the clock and V8 have for them. -/
inductive Event where
  | getOrCreateCpuProfiler (options : ProfilingOptions)
  | startCpuProfiler (readings : StartReadings)
  | start (options : ProfilingOptions) (readings : StartReadings)
  | addTraceIdFilter (traceId : String)
  | removeTraceIdFilter (traceId : String)
  | enterContext (contextHash timestamp : ℤ) (traceId spanId : String)
  | exitContext (contextHash timestamp : ℤ)
  | collect (readings : CollectReadings) (profile : Option V8CpuProfile)
  | stop (profile : Option V8CpuProfile)

def apply (p : Profiling) : Event → Profiling
  | .getOrCreateCpuProfiler options => getOrCreateCpuProfiler p options
  | .startCpuProfiler r => (startCpuProfiler p r).1
  | .start options r =>
    match startProfiling p options r with
    | .ok p' => p'
    | .error _ => p
  | .addTraceIdFilter traceId => addTraceIdFilter p traceId
  | .removeTraceIdFilter traceId => removeTraceIdFilter p traceId
  | .enterContext contextHash timestamp traceId spanId =>
    enterContext p contextHash timestamp traceId spanId
  | .exitContext contextHash timestamp => profilingExitContext p contextHash timestamp
  | .collect r profile => (collectProfilingData p r profile).1
  | .stop profile => (stopProfiling p profile).1

theorem apply_start_cases (p : Profiling) (options : ProfilingOptions) (r : StartReadings) :
    (p.running = true ∧ apply p (.start options r) = p) ∨
      (p.running = false ∧ apply p (.start options r) =
        beginProfile (profilingReset (applyProfilingOptions p options)) r) := by
  unfold apply startProfiling
  rcases hrunning : p.running with _ | _
  · exact Or.inr ⟨rfl, rfl⟩
  · exact Or.inl ⟨rfl, rfl⟩

end SplunkOtel.Native
