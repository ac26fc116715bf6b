import SplunkOtel.Lib.Simulation
import SplunkOtel.Native.Sessions

/-!
# The profiler as it is meant

The open activations of a context are a list, those that are closed are another, and a sample is
looked up by a scan. The native profiler, with its stacks, bins and periods, answers alike.
-/

open Lib.Stabbing Lib.Simulation

namespace SplunkOtel.Native

structure PlainProfiler where
  running : Bool := false
  onlyFilteredStacktraces : Bool
  samplingIntervalNanos : ℤ
  maxSampleCutoffDelayNanos : ℤ
  startTime : ℤ := 0
  wallStartTime : ℤ := 0
  sampleCutoffPoint : ℤ := 0
  traceIdFilter : List String := []
  opened : ℤ → List SpanActivation := fun _ => []
  closed : List SpanActivation := []

namespace PlainProfiler

def setup (options : ProfilingOptions) : PlainProfiler where
  onlyFilteredStacktraces := options.onlyFilteredStacktraces
  samplingIntervalNanos := options.samplingIntervalMicros * 1000
  maxSampleCutoffDelayNanos := options.maxSampleCutoffDelayNanos

def configure (q : PlainProfiler) (options : ProfilingOptions) : PlainProfiler :=
  { q with
    onlyFilteredStacktraces := options.onlyFilteredStacktraces
    samplingIntervalNanos := options.samplingIntervalMicros * 1000
    maxSampleCutoffDelayNanos := options.maxSampleCutoffDelayNanos }

/-- No activations, open or closed. -/
def clear (q : PlainProfiler) : PlainProfiler := { q with opened := fun _ => [], closed := [] }

def begin (q : PlainProfiler) (r : StartReadings) : PlainProfiler :=
  { q with
    running := true
    startTime := r.startTime
    wallStartTime := r.wallStartTime
    sampleCutoffPoint := r.sampleCutoffPoint }

def enter (q : PlainProfiler) (contextHash timestamp : ℤ) (traceId spanId : String) :
    PlainProfiler :=
  if (isValidTraceId traceId ∧ isValidSpanId spanId) ∧
      q.running ∧ (q.onlyFilteredStacktraces → traceId ∈ q.traceIdFilter) then
    { q with
      opened := Function.update q.opened contextHash
        (q.opened contextHash ++ [⟨traceId, spanId, timestamp, 0⟩]) }
  else q

/-- The last activation of the context that is open is closed. -/
def exit (q : PlainProfiler) (contextHash timestamp : ℤ) : PlainProfiler :=
  if q.running then
    match (q.opened contextHash).getLast? with
    | none => q
    | some a =>
      { q with
        opened := Function.update q.opened contextHash (q.opened contextHash).dropLast
        closed := q.closed ++ [{ a with endTime := timestamp }] }
  else q

/-- The innermost activation that contains the timestamp. -/
def activeAt (q : PlainProfiler) (ts : ℤ) : Option SpanActivation :=
  q.closed.foldl (closest SpanActivation.startTime SpanActivation.endTime ts) none

def trace (q : PlainProfiler) (s : V8Sample) : ProfilingStacktrace where
  timestamp := q.wallStartTime + (s.timestamp * 1000 - q.startTime)
  stacktrace := makeStackLine s.node :: s.parents.dropLast.map makeStackLine
  traceId := (q.activeAt (s.timestamp * 1000)).map fun a => hexToBinary a.traceId 16
  spanId := (q.activeAt (s.timestamp * 1000)).map fun a => hexToBinary a.spanId 8

/-- A sample that the sampling interval and the start of the profile allow. -/
def admits (q : PlainProfiler) (next ts : ℤ) : Prop :=
  next ≤ ts ∧ (q.startTime + q.maxSampleCutoffDelayNanos ≤ ts ∨ q.sampleCutoffPoint ≤ ts) ∧
    (q.onlyFilteredStacktraces → q.activeAt ts ≠ none)

instance (q : PlainProfiler) (next ts : ℤ) : Decidable (q.admits next ts) :=
  inferInstanceAs (Decidable (_ ∧ _))

/-- The traces of the samples from `next` on. -/
def traces (q : PlainProfiler) (next : ℤ) : List V8Sample → List ProfilingStacktrace
  | [] => []
  | s :: samples =>
    if q.admits next (s.timestamp * 1000) then
      q.trace s :: q.traces (next + q.samplingIntervalNanos) samples
    else q.traces next samples

def profileOf (q : PlainProfiler) (profile : V8CpuProfile) : CpuProfile where
  startTimeNanos := q.wallStartTime
  stacktraces := q.traces (profile.startTime * 1000) profile.samples

def collect (q : PlainProfiler) (r : CollectReadings) (profile : Option V8CpuProfile) :
    PlainProfiler × Option CpuProfile :=
  match profile with
  | some profile =>
    if q.running then
      ({ q.clear with
          startTime := r.newStartTime
          wallStartTime := r.newWallStart
          sampleCutoffPoint := r.sampleCutoffPoint },
        some { q.profileOf profile with
          profilerStartDuration := some (r.profilerStopBegin - r.newStartTime)
          profilerStopDuration := some (r.profilerStopEnd - r.profilerStopBegin)
          profilerProcessingStepDuration := some (r.processed - r.profilerStopEnd) })
    else (q, none)
  | none => (q, none)

def stop (q : PlainProfiler) (profile : Option V8CpuProfile) : PlainProfiler × Option CpuProfile :=
  if q.running then ({ q.clear with running := false }, profile.map q.profileOf) else (q, none)

def apply (q : PlainProfiler) : Event → PlainProfiler × Option CpuProfile
  | .getOrCreateCpuProfiler options =>
    (if q.running then q.configure options else (q.configure options).clear, none)
  | .startCpuProfiler r => (if q.running then q else q.begin r, none)
  | .start options r => (if q.running then q else (q.configure options).clear.begin r, none)
  | .addTraceIdFilter traceId =>
    ({ q with traceIdFilter := q.traceIdFilter.insert traceId }, none)
  | .removeTraceIdFilter traceId =>
    ({ q with traceIdFilter := q.traceIdFilter.filter (· ≠ traceId) }, none)
  | .enterContext contextHash timestamp traceId spanId =>
    (q.enter contextHash timestamp traceId spanId, none)
  | .exitContext contextHash timestamp => (q.exit contextHash timestamp, none)
  | .collect r profile => q.collect r profile
  | .stop profile => q.stop profile

end PlainProfiler

/-! ## What the two have in common -/

/-- What a call of the native profiler returns to JavaScript, for those that return a profile. -/
def answer (p : Profiling) : Event → Option CpuProfile
  | .collect r profile => (collectProfilingData p r profile).2
  | .stop profile => (stopProfiling p profile).2
  | _ => none

/-- The stacks hold the open activations, and the bins those that are closed. -/
structure Holds (p : Profiling) (q : PlainProfiler) : Prop where
  onlyFilteredStacktraces : p.onlyFilteredStacktraces = q.onlyFilteredStacktraces
  samplingIntervalNanos : p.samplingIntervalNanos = q.samplingIntervalNanos
  maxSampleCutoffDelayNanos : p.maxSampleCutoffDelayNanos = q.maxSampleCutoffDelayNanos
  startTime : p.startTime = q.startTime
  wallStartTime : p.wallStartTime = q.wallStartTime
  sampleCutoffPoint : p.sampleCutoffPoint = q.sampleCutoffPoint
  traceIdFilter : p.traceIdFilter = q.traceIdFilter
  opened : openActivations p = q.opened
  closed : Indexes p q.closed

/-- The two profilers between two calls: a profiler that is stopped holds no activations. -/
structure Refines (p : Profiling) (q : PlainProfiler) : Prop extends Holds p q where
  running : p.running = q.running
  stopped : q.running = false → q.closed = []

/-! ## Samples -/

theorem findClosestActivation_scan {p : Profiling} {l : List SpanActivation} {ts : ℤ}
    (hl : Indexes p l) (h : 0 ≤ activationBinIndex p ts) :
    (findClosestActivation p ts).1 =
      l.foldl (closest SpanActivation.startTime SpanActivation.endTime ts) none := by
  have hindex : ((activationBinIndex p ts).toNat : ℤ) = activationBinIndex p ts :=
    Int.toNat_of_nonneg h
  have hbin : (findClosestActivation p ts).1 =
      (binContents p (activationBinIndex p ts).toNat).foldl
        (closest SpanActivation.startTime SpanActivation.endTime ts) none := by
    rw [← readBin_getActivationBin, hindex, List.foldl_flatten]
    unfold findClosestActivation
    simp only
    rw [closer_eq]
  rw [hbin, hl.2, hindex, foldl_closest_bucketOf (activationBinIndex_mono p)]

theorem Holds.lookup {p : Profiling} {q : PlainProfiler} (h : Holds p q) (ts : ℤ) :
    Holds (findClosestActivation p ts).2 q :=
  { h with closed := indexes_findClosestActivation p q.closed ts h.closed }

theorem Holds.shouldIncludeSample_iff {p : Profiling} {q : PlainProfiler} (h : Holds p q)
    (ts : ℤ) :
    shouldIncludeSample p ts = true ↔
      q.startTime + q.maxSampleCutoffDelayNanos ≤ ts ∨ q.sampleCutoffPoint ≤ ts := by
  simp only [shouldIncludeSample, h.startTime, h.maxSampleCutoffDelayNanos, h.sampleCutoffPoint,
    ge_iff_le, decide_eq_true_eq]

theorem Holds.makeTrace_eq {p : Profiling} {q : PlainProfiler} (h : Holds p q) (s : V8Sample) :
    makeTrace p s (q.activeAt (s.timestamp * 1000)) = q.trace s := by
  simp only [makeTrace, PlainProfiler.trace, h.wallStartTime, h.startTime]

theorem buildStacktrace_spec {p : Profiling} {q : PlainProfiler} (h : Holds p q) (s : V8Sample)
    (hin : 0 ≤ activationBinIndex p (s.timestamp * 1000)) (next : ℤ)
    (jsTraces : List ProfilingStacktrace) :
    ∃ p', Holds p' q ∧ buildStacktrace (p, next, jsTraces) s =
      if q.admits next (s.timestamp * 1000) then
        (p', next + q.samplingIntervalNanos, jsTraces ++ [q.trace s])
      else (p', next, jsTraces) := by
  have hinclude := h.shouldIncludeSample_iff (s.timestamp * 1000)
  have hscan : (findClosestActivation p (s.timestamp * 1000)).1 = q.activeAt (s.timestamp * 1000) :=
    findClosestActivation_scan h.closed hin
  have hlookup := h.lookup (s.timestamp * 1000)
  unfold buildStacktrace
  simp only [hscan]
  by_cases hvalid : shouldIncludeSample p (s.timestamp * 1000) = true ∧ s.timestamp * 1000 ≥ next
  · rw [if_neg (not_not.mpr hvalid)]
    by_cases hskip : q.onlyFilteredStacktraces = true ∧ q.activeAt (s.timestamp * 1000) = none
    · have hnot : ¬ q.admits next (s.timestamp * 1000) := fun hadmits => hadmits.2.2 hskip.1 hskip.2
      refine ⟨_, hlookup, ?_⟩
      rw [if_neg hnot, if_pos (by rwa [hlookup.onlyFilteredStacktraces])]
    · have hadmits : q.admits next (s.timestamp * 1000) :=
        ⟨hvalid.2, hinclude.mp hvalid.1, fun hfiltered hnone => hskip ⟨hfiltered, hnone⟩⟩
      refine ⟨_, hlookup, ?_⟩
      rw [if_pos hadmits, if_neg (by rwa [hlookup.onlyFilteredStacktraces]),
        hlookup.samplingIntervalNanos, hlookup.makeTrace_eq]
  · have hnot : ¬ q.admits next (s.timestamp * 1000) := fun hadmits =>
      hvalid ⟨hinclude.mpr hadmits.2.1, hadmits.1⟩
    refine ⟨p, h, ?_⟩
    rw [if_neg hnot, if_pos hvalid]

theorem samples_foldl_spec {q : PlainProfiler} (samples : List V8Sample) {p : Profiling}
    (h : Holds p q) (hin : ∀ s ∈ samples, 0 ≤ activationBinIndex p (s.timestamp * 1000))
    (next : ℤ) (jsTraces : List ProfilingStacktrace) :
    ∃ p' next', Holds p' q ∧ samples.foldl buildStacktrace (p, next, jsTraces) =
      (p', next', jsTraces ++ q.traces next samples) := by
  induction samples generalizing p next jsTraces with
  | nil => exact ⟨p, next, h, by rw [PlainProfiler.traces, List.append_nil]; rfl⟩
  | cons s samples ih =>
    obtain ⟨hs, hsamples⟩ := List.forall_mem_cons.mp hin
    obtain ⟨p₁, h₁, hone⟩ := buildStacktrace_spec h s hs next jsTraces
    have hsame : activationBinIndex p₁ = activationBinIndex p :=
      activationBinIndex_congr (by rw [h₁.startTime, h.startTime])
    rw [List.foldl_cons, hone, PlainProfiler.traces]
    split
    · obtain ⟨p', next', h', hrest⟩ := ih h₁ (by rwa [hsame]) (next + q.samplingIntervalNanos)
        (jsTraces ++ [q.trace s])
      exact ⟨p', next', h', by rw [hrest, List.append_assoc]; rfl⟩
    · exact ih h₁ (by rwa [hsame]) next jsTraces

theorem profilingBuildStacktraces_spec {p : Profiling} {q : PlainProfiler} (h : Holds p q)
    (profile : V8CpuProfile)
    (hin : ∀ s ∈ profile.samples, 0 ≤ activationBinIndex p (s.timestamp * 1000)) :
    (profilingBuildStacktraces p profile).2 = q.profileOf profile := by
  obtain ⟨p', next', h', hfold⟩ :=
    samples_foldl_spec profile.samples h hin (profile.startTime * 1000) []
  unfold profilingBuildStacktraces
  rw [hfold]
  simp only [PlainProfiler.profileOf, h'.wallStartTime, List.nil_append]

/-! ## One call -/

theorem Holds.reset {p : Profiling} {q : PlainProfiler} (h : Holds p q) :
    Holds (profilingReset p) q.clear :=
  { h with
    opened := funext fun _ => rfl
    closed := indexes_nil _ rfl }

theorem Holds.configure {p : Profiling} {q : PlainProfiler} (h : Holds p q)
    (options : ProfilingOptions) : Holds (applyProfilingOptions p options) (q.configure options) :=
  { h with
    onlyFilteredStacktraces := rfl
    samplingIntervalNanos := rfl
    maxSampleCutoffDelayNanos := rfl }

theorem Indexes.move {p p' : Profiling} (h : Indexes p [])
    (hperiods : p'.activationPeriod = p.activationPeriod) : Indexes p' [] := by
  obtain ⟨hperiod, hbins⟩ := h
  refine ⟨by rwa [HasPeriod, hperiods], fun n => ?_⟩
  rw [binContents, hperiods]
  exact hbins n

theorem Holds.begin {p : Profiling} {q : PlainProfiler} (h : Holds p q) (hempty : q.closed = [])
    (r : StartReadings) : Refines (beginProfile p r) (q.begin r) :=
  { h with
    startTime := rfl
    wallStartTime := rfl
    sampleCutoffPoint := rfl
    closed := by
      have hclosed := h.closed
      rw [hempty] at hclosed
      rw [PlainProfiler.begin, hempty]
      exact hclosed.move rfl
    running := rfl
    stopped := fun hstopped => absurd hstopped (by simp [PlainProfiler.begin]) }

theorem Refines.getOrCreate {p : Profiling} {q : PlainProfiler} (h : Refines p q)
    (options : ProfilingOptions) :
    Refines (getOrCreateCpuProfiler p options)
      (if q.running then q.configure options else (q.configure options).clear) := by
  have hconfigured := h.toHolds.configure options
  unfold getOrCreateCpuProfiler
  by_cases hrunning : q.running = true
  · rw [if_pos hrunning]
    simp only [applyProfilingOptions, h.running, hrunning, if_true]
    exact { hconfigured with running := hrunning.symm, stopped := h.stopped }
  · have hstopped := Bool.eq_false_of_not_eq_true hrunning
    rw [if_neg hrunning]
    simp only [applyProfilingOptions, h.running, hstopped, Bool.false_eq_true, if_false]
    exact { hconfigured.reset with running := hstopped.symm, stopped := fun _ => rfl }

theorem Refines.startCpuProfiler {p : Profiling} {q : PlainProfiler} (h : Refines p q)
    (r : StartReadings) :
    Refines (startCpuProfiler p r).1 (if q.running then q else q.begin r) := by
  unfold Native.startCpuProfiler
  by_cases hrunning : q.running = true
  · rw [h.running, if_pos hrunning, if_pos hrunning]
    exact h
  · rw [h.running, if_neg hrunning, if_neg hrunning]
    exact h.toHolds.begin (h.stopped (Bool.not_eq_true _ ▸ hrunning)) r

theorem Refines.start {p : Profiling} {q : PlainProfiler} (h : Refines p q)
    (options : ProfilingOptions) (r : StartReadings) :
    Refines (Native.apply p (.start options r))
      (if q.running then q else (q.configure options).clear.begin r) := by
  rcases apply_start_cases p options r with ⟨hrunning, heq⟩ | ⟨hstopped, heq⟩
  · rw [heq, if_pos (h.running ▸ hrunning)]
    exact h
  · rw [heq, ← h.running, hstopped, if_neg Bool.false_ne_true]
    exact (h.toHolds.configure options).reset.begin rfl r

theorem Refines.enter {p : Profiling} {q : PlainProfiler} (h : Refines p q)
    (contextHash timestamp : ℤ) (traceId spanId : String) :
    Refines (enterContext p contextHash timestamp traceId spanId)
      (q.enter contextHash timestamp traceId spanId) := by
  have hiff : entered p traceId spanId = true ↔
      (isValidTraceId traceId ∧ isValidSpanId spanId) ∧
        q.running = true ∧ (q.onlyFilteredStacktraces → traceId ∈ q.traceIdFilter) := by
    rw [entered, decide_eq_true_eq, recorded, decide_eq_true_eq, h.running,
      h.onlyFilteredStacktraces, h.traceIdFilter, and_assoc]
  rcases enterContext_cases p contextHash timestamp traceId spanId with
    ⟨hskipped, heq⟩ | ⟨stack, hentered, hstack, heq⟩
  · rw [heq, PlainProfiler.enter, if_neg (by rw [← hiff, hskipped]; exact Bool.false_ne_true)]
    exact h
  · rw [heq, PlainProfiler.enter, if_pos (hiff.mp hentered)]
    exact { h with opened := by rw [Sessions.openActivations_push hstack rfl, h.opened] }

theorem Indexes.of_same {p p' : Profiling} {l : List SpanActivation} (h : Indexes p l)
    (hperiods : p'.activationPeriod = p.activationPeriod) (hstart : p'.startTime = p.startTime) :
    Indexes p' l := by
  obtain ⟨hperiod, hbins⟩ := h
  refine ⟨by rwa [HasPeriod, hperiods], fun n => ?_⟩
  rw [binContents, hperiods, activationBinIndex_congr hstart]
  exact hbins n

theorem activationPeriod_exit {p : Profiling} {contextHash : ℤ} {stack : ActivationStack}
    {a : SpanActivation} (hrunning : p.running = true)
    (hstack : p.spanActivations contextHash = some stack) (htop : stack.toList.getLast? = some a)
    (timestamp : ℤ) :
    (profilingExitContext p contextHash timestamp).activationPeriod =
      (insertActivation p { a with endTime := timestamp }).activationPeriod := by
  have hpop := stack.pop_fst
  rw [htop] at hpop
  unfold profilingExitContext
  rw [if_neg (not_not.mpr hrunning), hstack]
  rcases hstack' : stack.pop with ⟨_ | b, rest⟩ <;> rw [hstack'] at hpop
  · cases hpop
  · cases hpop
    simp only [hstack']

theorem Refines.exit {p : Profiling} {q : PlainProfiler} {now : ℤ} (h : Refines p q)
    (hopen : Sessions.OpenSince p now) {contextHash timestamp : ℤ} (hnow : now ≤ timestamp) :
    Refines (profilingExitContext p contextHash timestamp) (q.exit contextHash timestamp) := by
  rcases profilingExitContext_cases p contextHash timestamp with
    ⟨hidle, heq⟩ | ⟨stack, a, periods, hrunning, hstack, htop, heq⟩
  · have hsame : q.exit contextHash timestamp = q := by
      unfold PlainProfiler.exit
      rcases hidle with hstopped | hempty
      · rw [← h.running, hstopped, if_neg Bool.false_ne_true]
      · rw [← h.opened, hempty]
        split <;> rfl
    rw [heq, hsame]
    exact h
  · have hlist := openActivations_of_some hstack
    have hmem : a ∈ openActivations p contextHash := by
      rw [hlist]
      exact List.mem_of_getLast? htop
    obtain ⟨hlow, hhigh⟩ := hopen contextHash a hmem
    obtain ⟨hindexes, hstart⟩ := indexes_insertActivation p q.closed { a with endTime := timestamp }
      h.closed hlow (hhigh.trans hnow)
    have hperiods := activationPeriod_exit hrunning hstack htop timestamp
    have hexit : q.exit contextHash timestamp =
        { q with
          opened := Function.update q.opened contextHash (q.opened contextHash).dropLast
          closed := q.closed ++ [{ a with endTime := timestamp }] } := by
      rw [PlainProfiler.exit, ← h.running, if_pos hrunning, ← h.opened, hlist, htop]
    rw [hexit]
    rw [heq] at hperiods ⊢
    exact { h with
      opened := by rw [Sessions.openActivations_pop hstack rfl, h.opened]
      closed := hindexes.of_same hperiods hstart.symm
      stopped := fun hstopped => absurd (hstopped ▸ h.running ▸ hrunning) Bool.false_ne_true }

theorem Refines.collect {p : Profiling} {q : PlainProfiler} (h : Refines p q)
    (r : CollectReadings) {profile : Option V8CpuProfile}
    (hasked : p.running = true → profile.isSome)
    (hin : p.running = true → ∀ v ∈ profile, ∀ s ∈ v.samples,
      0 ≤ activationBinIndex p (s.timestamp * 1000)) :
    (collectProfilingData p r profile).2 = (q.collect r profile).2 ∧
      Refines (collectProfilingData p r profile).1 (q.collect r profile).1 := by
  rcases hprofile : profile with _ | v
  · have hstopped : p.running = false := by
      rw [← Bool.not_eq_true]
      intro hrunning
      simpa [hprofile] using hasked hrunning
    simp only [collectProfilingData, hstopped, Bool.false_eq_true, not_false_eq_true, if_true,
      PlainProfiler.collect]
    exact ⟨trivial, h⟩
  · by_cases hrunning : p.running = true
    · have hbefore : Holds
          { p with
            profilerSeq := (p.profilerSeq + 1) % 2, activationDepth := 0, v8StartTime := r.v8Start }
          q := { h with closed := h.closed.of_same rfl rfl }
      have hbuilt := profilingBuildStacktraces_spec hbefore v (hin hrunning v hprofile)
      rcases collectProfilingData_cases p r (some v) with
        ⟨hstopped, -⟩ | ⟨-, hnone, -⟩ | ⟨-, v', is, -, -, heq⟩
      · rw [hrunning] at hstopped
        cases hstopped
      · cases hnone
      · rw [heq, PlainProfiler.collect, if_pos (h.running ▸ hrunning)]
        refine ⟨?_, ?_⟩
        · unfold collectProfilingData
          rw [if_neg (not_not.mpr hrunning)]
          simp only [hbuilt]
        · exact { h.toHolds.reset with
            startTime := rfl
            wallStartTime := rfl
            sampleCutoffPoint := rfl
            closed := (indexes_nil (profilingReset p) rfl).move rfl
            running := h.running
            stopped := fun _ => rfl }
    · simp only [collectProfilingData, hrunning, not_false_eq_true, if_true, PlainProfiler.collect,
        ← h.running, Bool.false_eq_true, if_false]
      exact ⟨trivial, h⟩

theorem Refines.stop {p : Profiling} {q : PlainProfiler} (h : Refines p q)
    (profile : Option V8CpuProfile)
    (hin : p.running = true → ∀ v ∈ profile, ∀ s ∈ v.samples,
      0 ≤ activationBinIndex p (s.timestamp * 1000)) :
    (stopProfiling p profile).2 = (q.stop profile).2 ∧
      Refines (stopProfiling p profile).1 (q.stop profile).1 := by
  rcases stopProfiling_cases p profile with ⟨hstopped, heq⟩ | ⟨hrunning, is, -, heq⟩
  · rw [heq, stopProfiling, PlainProfiler.stop, ← h.running, hstopped]
    exact ⟨rfl, h⟩
  · rw [heq, PlainProfiler.stop, if_pos (h.running ▸ hrunning)]
    refine ⟨?_, ?_⟩
    · unfold stopProfiling
      rw [if_neg (not_not.mpr hrunning)]
      rcases hprofile : profile with _ | v
      · rfl
      · have hbefore : Holds { p with running := false } q :=
          { h with closed := h.closed.of_same rfl rfl }
        have hbuilt := profilingBuildStacktraces_spec hbefore v (hin hrunning v hprofile)
        simp only [hbuilt, Option.map_some]
    · exact { h.toHolds.reset with
        closed := (indexes_nil (profilingReset p) rfl).move rfl
        running := rfl
        stopped := fun _ => rfl }

theorem Refines.apply {p : Profiling} {q : PlainProfiler} {now : ℤ} {e : Event} (h : Refines p q)
    (hopen : Sessions.OpenSince p now)
    (hclock : List.Pairwise (· ≤ ·) (now :: BinRange.readings e))
    (hasked : (Sessions.stops p e).isSome → (BinRange.handedOver e).isSome)
    (hin : p.running = true → ∀ v ∈ BinRange.handedOver e, ∀ s ∈ v.samples,
      0 ≤ activationBinIndex p (s.timestamp * 1000)) :
    answer p e = (q.apply e).2 ∧ Refines (Native.apply p e) (q.apply e).1 := by
  cases e with
  | getOrCreateCpuProfiler options => exact ⟨rfl, h.getOrCreate options⟩
  | startCpuProfiler r => exact ⟨rfl, h.startCpuProfiler r⟩
  | start options r => exact ⟨rfl, h.start options r⟩
  | addTraceIdFilter traceId =>
    exact ⟨rfl, { h with traceIdFilter := congrArg (List.insert traceId) h.traceIdFilter }⟩
  | removeTraceIdFilter traceId =>
    exact ⟨rfl, { h with traceIdFilter := congrArg (List.filter _) h.traceIdFilter }⟩
  | enterContext contextHash timestamp traceId spanId =>
    exact ⟨rfl, h.enter contextHash timestamp traceId spanId⟩
  | exitContext contextHash timestamp =>
    exact ⟨rfl, h.exit hopen (by simpa [BinRange.readings] using hclock)⟩
  | collect r profile =>
    exact h.collect r (fun hrunning => hasked (by simp [Sessions.stops, hrunning])) hin
  | stop profile => exact h.stop profile hin

/-! ## Runs -/

/-- A step of the session, with what JavaScript gets. -/
def answering (s : Sessions.Session) (e : Event) : Option (Sessions.Session × Option CpuProfile) :=
  (Sessions.step s e).map (·, answer s.world.profiling e)

theorem setup_refines (options : ProfilingOptions) :
    Refines (Sessions.init options).world.profiling (PlainProfiler.setup options) where
  onlyFilteredStacktraces := rfl
  samplingIntervalNanos := rfl
  maxSampleCutoffDelayNanos := rfl
  startTime := rfl
  wallStartTime := rfl
  sampleCutoffPoint := rfl
  traceIdFilter := rfl
  opened := rfl
  closed := indexes_nil _ rfl
  running := rfl
  stopped _ := rfl

theorem samples_in_range {s : Sessions.Session} {e : Event} (h : Sessions.SessionInv s)
    (hprofile : ∀ v ∈ BinRange.handedOver e, BinRange.FromClock s.world.profiling.v8StartTime v) :
    s.world.profiling.running = true → ∀ v ∈ BinRange.handedOver e, ∀ sample ∈ v.samples,
      0 ≤ activationBinIndex s.world.profiling (sample.timestamp * 1000) :=
  fun hrunning v hv => BinRange.sampleIndices_nonneg s.world.profiling v _ (hprofile v hv)
    (h.bins.2.2 hrunning)

theorem answering_step (s : Sessions.Session) (q : PlainProfiler) (e : Event)
    (s' : Sessions.Session) (o : Option CpuProfile)
    (h : Sessions.SessionInv s ∧ Refines s.world.profiling q)
    (hstep : answering s e = some (s', o)) :
    o = (q.apply e).2 ∧ Sessions.SessionInv s' ∧ Refines s'.world.profiling (q.apply e).1 := by
  obtain ⟨hinv, hrefines⟩ := h
  obtain ⟨t, ht, heq⟩ := Option.map_eq_some_iff.mp hstep
  cases heq
  obtain ⟨hworld, hasked⟩ := Sessions.world_step hinv ht
  obtain ⟨⟨hclock, hprofile⟩, heq⟩ := BinRange.step_eq_some hworld
  obtain ⟨hanswer, hnext⟩ := hrefines.apply hinv.opened.since hclock hasked.mp
    (samples_in_range hinv hprofile)
  refine ⟨hanswer, Sessions.step_inv s e s' hinv ht, ?_⟩
  rw [heq]
  exact hnext

/-- **The native profiler.** Whatever the calls, JavaScript gets the profiles that the plain
profiler makes. -/
theorem profiler_refines_plain (options : ProfilingOptions) (es : List Event)
    (s : Sessions.Session) (profiles : List (Option CpuProfile))
    (h : run answering (Sessions.init options) es = some (s, profiles)) :
    profiles = (play PlainProfiler.apply (.setup options) es).2 :=
  (run_answers (R := fun s q => Sessions.SessionInv s ∧ Refines s.world.profiling q)
    answering_step es _ _ ⟨Sessions.init_inv options, setup_refines options⟩ h).1

/-- Two samples, one in each of two spans that nest. -/
def nestedSpans : List Event :=
  [.startCpuProfiler ⟨1000, 5, 2000, 3000⟩,
    .enterContext 7 4000 "0af7651916cd43dd8448eb211c80319c" "b7ad6b7169203331",
    .enterContext 8 5000 "0af7651916cd43dd8448eb211c80319c" "00f067aa0ba902b7",
    .exitContext 8 9000, .exitContext 7 20000,
    .collect ⟨30000, 6, 31000, 32000, 33000, 34000, 35000⟩
      (some ⟨2, [⟨8, ⟨"a.js", "f", 1, 1⟩, []⟩, ⟨12, ⟨"a.js", "g", 2, 1⟩, []⟩]⟩)]

theorem nestedSpans_run :
    ∃ r, run answering (Sessions.init ⟨1, false, false, 0⟩) nestedSpans = some r :=
  Option.isSome_iff_exists.mp (by decide)

theorem nested_spans_profiled :
    ∃ s profiles, run answering (Sessions.init ⟨1, false, false, 0⟩) nestedSpans =
        some (s, profiles) ∧
      (profiles.filterMap id).flatMap (·.stacktraces.map (·.spanId)) =
        [some [0x00, 0xf0, 0x67, 0xaa, 0x0b, 0xa9, 0x02, 0xb7],
          some [0xb7, 0xad, 0x6b, 0x71, 0x69, 0x20, 0x33, 0x31]] := by
  obtain ⟨⟨s, profiles⟩, h⟩ := nestedSpans_run
  refine ⟨s, profiles, h, ?_⟩
  rw [profiler_refines_plain _ nestedSpans s profiles h]
  decide

/-! ## Where the samples come from -/

/-- The activation was opened by an enter. -/
def Entered (es : List Event) (contextHash : ℤ) (a : SpanActivation) : Prop :=
  .enterContext contextHash a.startTime a.traceId a.spanId ∈ es

/-- And closed by an exit of the same context. -/
def EnteredAndLeft (es : List Event) (a : SpanActivation) : Prop :=
  ∃ contextHash, Entered es contextHash a ∧ .exitContext contextHash a.endTime ∈ es

/-- A stack trace with a span is a sample that V8 took while the span was active. -/
def Explained (es : List Event) (t : ProfilingStacktrace) : Prop :=
  ∀ traceId ∈ t.traceId, ∃ a e v, ∃ s ∈ V8CpuProfile.samples v,
    EnteredAndLeft es a ∧ e ∈ es ∧ BinRange.handedOver e = some v ∧
      traceId = hexToBinary a.traceId 16 ∧ t.spanId = some (hexToBinary a.spanId 8) ∧
      t.stacktrace = makeStackLine s.node :: s.parents.dropLast.map makeStackLine ∧
      a.startTime ≤ s.timestamp * 1000 ∧ s.timestamp * 1000 ≤ a.endTime

namespace PlainProfiler

/-- The activations are those of the events. -/
structure From (es : List Event) (q : PlainProfiler) : Prop where
  opened : ∀ c, ∀ a ∈ q.opened c, Entered es c a
  closed : ∀ a ∈ q.closed, EnteredAndLeft es a

theorem From.later {es : List Event} {q q' : PlainProfiler} (h : From es q) (e : Event)
    (hopened : ∀ c, q'.opened c ⊆ q.opened c) (hclosed : q'.closed ⊆ q.closed) :
    From (es ++ [e]) q' where
  opened c a ha := List.mem_append_left _ (h.opened c a (hopened c ha))
  closed a ha := by
    obtain ⟨c, henter, hexit⟩ := h.closed a (hclosed ha)
    exact ⟨c, List.mem_append_left _ henter, List.mem_append_left _ hexit⟩

theorem From.same {es : List Event} {q q' : PlainProfiler} (h : From es q) (e : Event)
    (hopened : q'.opened = q.opened) (hclosed : q'.closed = q.closed) : From (es ++ [e]) q' :=
  h.later e (fun _ => hopened ▸ List.Subset.refl _) (hclosed ▸ List.Subset.refl _)

theorem From.nothing {es : List Event} {q q' : PlainProfiler} (h : From es q) (e : Event)
    (hopened : ∀ c, q'.opened c = []) (hclosed : q'.closed = []) : From (es ++ [e]) q' :=
  h.later e (fun c => hopened c ▸ List.nil_subset _) (hclosed ▸ List.nil_subset _)

theorem From.enter {es : List Event} {q : PlainProfiler} (h : From es q)
    (contextHash timestamp : ℤ) (traceId spanId : String) :
    From (es ++ [.enterContext contextHash timestamp traceId spanId])
      (q.enter contextHash timestamp traceId spanId) := by
  have hbefore : From (es ++ [.enterContext contextHash timestamp traceId spanId]) q :=
    h.same _ rfl rfl
  unfold PlainProfiler.enter
  split
  · refine ⟨fun c a ha => ?_, hbefore.closed⟩
    rcases eq_or_ne c contextHash with rfl | hne
    · simp only [Function.update_self] at ha
      rcases List.mem_append.mp ha with ha | ha
      · exact hbefore.opened c a ha
      · rw [List.mem_singleton.mp ha]
        exact List.mem_append_right _ (List.mem_singleton.mpr rfl)
    · simp only [Function.update_of_ne hne] at ha
      exact hbefore.opened c a ha
  · exact hbefore

theorem From.exit {es : List Event} {q : PlainProfiler} (h : From es q)
    (contextHash timestamp : ℤ) :
    From (es ++ [.exitContext contextHash timestamp]) (q.exit contextHash timestamp) := by
  have hbefore : From (es ++ [.exitContext contextHash timestamp]) q := h.same _ rfl rfl
  unfold PlainProfiler.exit
  split
  · split
    · exact hbefore
    · rename_i a htop
      refine ⟨fun c b hb => ?_, fun b hb => ?_⟩
      · rcases eq_or_ne c contextHash with rfl | hne
        · simp only [Function.update_self] at hb
          exact hbefore.opened c b (List.dropLast_subset _ hb)
        · simp only [Function.update_of_ne hne] at hb
          exact hbefore.opened c b hb
      · rcases List.mem_append.mp hb with hb | hb
        · exact hbefore.closed b hb
        · rw [List.mem_singleton.mp hb]
          exact ⟨contextHash, hbefore.opened contextHash a (List.mem_of_getLast? htop),
            List.mem_append_right _ (List.mem_singleton.mpr rfl)⟩
  · exact hbefore

theorem mem_traces {q : PlainProfiler} {samples : List V8Sample} {next : ℤ}
    {t : ProfilingStacktrace} (h : t ∈ q.traces next samples) : ∃ s ∈ samples, t = q.trace s := by
  induction samples generalizing next with
  | nil => exact absurd h List.not_mem_nil
  | cons s samples ih =>
    have hrest : ∀ {next}, t ∈ q.traces next samples → ∃ s' ∈ s :: samples, t = q.trace s' := by
      intro next h
      obtain ⟨s', hs', ht⟩ := ih h
      exact ⟨s', List.mem_cons_of_mem _ hs', ht⟩
    rw [traces] at h
    split at h
    · rcases List.mem_cons.mp h with rfl | h
      · exact ⟨s, List.mem_cons_self, rfl⟩
      · exact hrest h
    · exact hrest h

theorem From.explained {es : List Event} {q : PlainProfiler} (h : From es q) {e : Event}
    {v : V8CpuProfile} (hv : BinRange.handedOver e = some v) :
    ∀ t ∈ (q.profileOf v).stacktraces, Explained (es ++ [e]) t := by
  intro t ht traceId htraceId
  obtain ⟨s, hs, rfl⟩ := mem_traces ht
  have hinnermost : IsInnermost SpanActivation.startTime SpanActivation.endTime
      (s.timestamp * 1000) q.closed (q.activeAt (s.timestamp * 1000)) :=
    isInnermost_foldl q.closed
  obtain ⟨a, ha, rfl⟩ := Option.map_eq_some_iff.mp htraceId
  have hactive : q.activeAt (s.timestamp * 1000) = some a := ha
  rw [hactive] at hinnermost
  obtain ⟨hmem, ⟨hlow, hhigh⟩, -⟩ := hinnermost
  have hafter : From (es ++ [e]) q := h.same e rfl rfl
  refine ⟨a, e, v, s, hs, hafter.closed a hmem,
    List.mem_append_right _ (List.mem_singleton.mpr rfl), hv, rfl, ?_, rfl, hlow, hhigh⟩
  exact congrArg (Option.map fun a => hexToBinary a.spanId 8) ha

/-- A profile is made of explained traces, and the other calls return none. -/
def AllExplained (es : List Event) (o : Option CpuProfile) : Prop :=
  ∀ profile ∈ o, ∀ t ∈ profile.stacktraces, Explained es t

theorem AllExplained.none (es : List Event) : AllExplained es none :=
  fun _ h => absurd h (Option.not_mem_none _)

theorem AllExplained.append {past later : List Event} {o : Option CpuProfile}
    (h : AllExplained past o) : AllExplained (past ++ later) o := by
  intro profile hprofile t ht traceId htraceId
  obtain ⟨a, e, v, s, hs, ⟨c, henter, hexit⟩, he, rest⟩ := h profile hprofile t ht traceId htraceId
  exact ⟨a, e, v, s, hs, ⟨c, List.mem_append_left _ henter, List.mem_append_left _ hexit⟩,
    List.mem_append_left _ he, rest⟩

theorem From.collect {es : List Event} {q : PlainProfiler} (h : From es q) (r : CollectReadings)
    (profile : Option V8CpuProfile) :
    From (es ++ [.collect r profile]) (q.collect r profile).1 ∧
      AllExplained (es ++ [.collect r profile]) (q.collect r profile).2 := by
  unfold PlainProfiler.collect
  split
  · rename_i v
    split
    · refine ⟨h.nothing _ (fun _ => rfl) rfl, fun profile hprofile => ?_⟩
      cases hprofile
      exact h.explained rfl
    · exact ⟨h.same _ rfl rfl, .none _⟩
  · exact ⟨h.same _ rfl rfl, .none _⟩

theorem From.stop {es : List Event} {q : PlainProfiler} (h : From es q)
    (profile : Option V8CpuProfile) :
    From (es ++ [.stop profile]) (q.stop profile).1 ∧
      AllExplained (es ++ [.stop profile]) (q.stop profile).2 := by
  unfold PlainProfiler.stop
  split
  · refine ⟨h.nothing _ (fun _ => rfl) rfl, fun made hmade => ?_⟩
    obtain ⟨v, rfl, rfl⟩ := Option.map_eq_some_iff.mp hmade
    exact h.explained rfl
  · exact ⟨h.same _ rfl rfl, .none _⟩

theorem From.apply (es : List Event) (q : PlainProfiler) (e : Event) (h : From es q) :
    From (es ++ [e]) (q.apply e).1 ∧ AllExplained (es ++ [e]) (q.apply e).2 := by
  cases e with
  | getOrCreateCpuProfiler options =>
    refine ⟨?_, .none _⟩
    simp only [PlainProfiler.apply]
    split
    · exact h.same _ rfl rfl
    · exact h.nothing _ (fun _ => rfl) rfl
  | startCpuProfiler r =>
    refine ⟨?_, .none _⟩
    simp only [PlainProfiler.apply]
    split
    · exact h.same _ rfl rfl
    · exact h.same _ rfl rfl
  | start options r =>
    refine ⟨?_, .none _⟩
    simp only [PlainProfiler.apply]
    split
    · exact h.same _ rfl rfl
    · exact h.nothing _ (fun _ => rfl) rfl
  | addTraceIdFilter traceId => exact ⟨h.same _ rfl rfl, .none _⟩
  | removeTraceIdFilter traceId => exact ⟨h.same _ rfl rfl, .none _⟩
  | enterContext contextHash timestamp traceId spanId =>
    exact ⟨h.enter contextHash timestamp traceId spanId, .none _⟩
  | exitContext contextHash timestamp => exact ⟨h.exit contextHash timestamp, .none _⟩
  | collect r profile => exact h.collect r profile
  | stop profile => exact h.stop profile

end PlainProfiler

/-- **Spans of samples.** Every stack trace that JavaScript gets with a span is a sample of V8, and
a context of that span was entered before the sample and left after it. -/
theorem samples_lie_in_their_spans (options : ProfilingOptions) (es : List Event)
    (s : Sessions.Session) (profiles : List (Option CpuProfile))
    (h : run answering (Sessions.init options) es = some (s, profiles)) :
    ∀ profile, some profile ∈ profiles → ∀ t ∈ profile.stacktraces, Explained es t := by
  intro profile hprofile
  obtain ⟨rfl, -⟩ := run_answers (R := fun s q => Sessions.SessionInv s ∧ Refines s.world.profiling q)
    answering_step es _ _ ⟨Sessions.init_inv options, setup_refines options⟩ h
  exact play_explained (I := PlainProfiler.From) PlainProfiler.From.apply
    (fun _ _ _ h => h.append) es [] (.setup options) ⟨fun _ _ h => absurd h List.not_mem_nil,
      fun _ h => absurd h List.not_mem_nil⟩ (some profile) hprofile profile rfl

theorem nested_spans_explained :
    ∃ s profiles, run answering (Sessions.init ⟨1, false, false, 0⟩) nestedSpans =
        some (s, profiles) ∧
      ∀ profile, some profile ∈ profiles → ∀ t ∈ profile.stacktraces, Explained nestedSpans t := by
  obtain ⟨⟨s, profiles⟩, h⟩ := nestedSpans_run
  exact ⟨s, profiles, h, samples_lie_in_their_spans _ nestedSpans s profiles h⟩

end SplunkOtel.Native
