import SplunkOtel.Lib.Pacing
import SplunkOtel.Native.Profiler

/-!
# Which samples are emitted (`src/native_ext/profiling.cpp`)

The loop of `ProfilingBuildStacktraces` as a paced filter of the samples that V8 hands over.
-/

open Lib Lib.Stabbing

namespace SplunkOtel.Native

/-! ## Lookups do not disturb each other -/

/-- The bin that an index is read from, counted through all periods. An index outside of the array
of its period reads nothing. -/
def binNumber (binIndex : ℤ) : Option ℕ :=
  let index := binIndex - binIndex.tdiv kBinsPerActivationPeriod * kBinsPerActivationPeriod
  if 0 ≤ index then
    some ((binIndex.tdiv kBinsPerActivationPeriod).toNat * kBinsPerActivationPeriod + index.toNat)
  else none

theorem flatten_readBin (p : Profiling) (binIndex : ℤ) :
    ((readBin (profilingGetActivationBin p binIndex).2
      (profilingGetActivationBin p binIndex).1).getD []).flatten =
      ((binNumber binIndex).map (binContents p)).getD [] := by
  have hindex : binIndex - binIndex.tdiv kBinsPerActivationPeriod * kBinsPerActivationPeriod =
      binIndex.tmod kBinsPerActivationPeriod := by
    rw [Int.tmod_def, mul_comm]
  have hlt := Int.tmod_lt_of_pos binIndex (show (0 : ℤ) < kBinsPerActivationPeriod by decide)
  unfold binNumber readBin
  simp only [profilingGetActivationBin, hindex]
  split
  · rename_i hnonneg
    obtain ⟨i, hi⟩ := Int.eq_ofNat_of_zero_le hnonneg
    rw [hi] at hlt
    have hi384 : i < kBinsPerActivationPeriod := by exact_mod_cast hlt
    rw [Option.map_some, Option.getD_some, ← binContents_getActivationBin p binIndex]
    unfold binContents
    have hdiv (n : ℕ) : (n * kBinsPerActivationPeriod + i) / kBinsPerActivationPeriod = n := by
      unfold kBinsPerActivationPeriod at *
      omega
    have hmod (n : ℕ) : (n * kBinsPerActivationPeriod + i) % kBinsPerActivationPeriod = i := by
      unfold kBinsPerActivationPeriod at *
      omega
    rw [hi, Int.toNat_natCast, hdiv, hmod]
    rfl
  · rfl

theorem findClosestActivation_eq (p : Profiling) (ts : ℤ) :
    (findClosestActivation p ts).1 =
      (((binNumber (activationBinIndex p ts)).map (binContents p)).getD []).foldl
        (closest SpanActivation.startTime SpanActivation.endTime ts) none := by
  rw [← flatten_readBin, List.foldl_flatten]
  unfold findClosestActivation
  simp only
  rw [closer_eq]

theorem findClosestActivation_some {p : Profiling} {ts : ℤ} {a : SpanActivation}
    (h : (findClosestActivation p ts).1 = some a) :
    (∃ n, a ∈ binContents p n) ∧ a.startTime ≤ ts ∧ ts ≤ a.endTime := by
  have hinnermost : IsInnermost SpanActivation.startTime SpanActivation.endTime ts
      (((binNumber (activationBinIndex p ts)).map (binContents p)).getD []) (some a) := by
    rw [← h, findClosestActivation_eq]
    exact isInnermost_foldl _
  obtain ⟨hmem, hstabs, _⟩ := hinnermost
  refine ⟨?_, hstabs⟩
  cases hbin : binNumber (activationBinIndex p ts) with
  | none => simp [hbin] at hmem
  | some n => exact ⟨n, by simpa [hbin] using hmem⟩

/-- A profiler after some lookups. -/
structure Looked (p q : Profiling) : Prop where
  frame : ∃ periods requests, q =
    { p with activationPeriod := periods, binRequests := requests }
  bins : ∀ n, binContents q n = binContents p n

theorem Looked.lookup {p q : Profiling} (h : Looked p q) (ts : ℤ) :
    Looked p (findClosestActivation q ts).2 := by
  obtain ⟨⟨periods, requests, rfl⟩, hbins⟩ := h
  obtain ⟨periods', hone⟩ := findClosestActivation_frame
    { p with activationPeriod := periods, binRequests := requests } ts
  exact ⟨⟨_, _, hone⟩, fun n => (binContents_getActivationBin _ _ n).trans (hbins n)⟩

theorem Looked.find {p q : Profiling} (h : Looked p q) (ts : ℤ) :
    (findClosestActivation q ts).1 = (findClosestActivation p ts).1 := by
  obtain ⟨⟨periods, requests, rfl⟩, hbins⟩ := h
  rw [findClosestActivation_eq, findClosestActivation_eq, funext hbins]
  rfl

theorem Looked.reads {p q : Profiling} (h : Looked p q) :
    q.onlyFilteredStacktraces = p.onlyFilteredStacktraces ∧
      q.samplingIntervalNanos = p.samplingIntervalNanos ∧
      shouldIncludeSample q = shouldIncludeSample p ∧ makeTrace q = makeTrace p := by
  obtain ⟨⟨_, _, rfl⟩, _⟩ := h
  exact ⟨rfl, rfl, rfl, rfl⟩

/-! ## The loop -/

def nanos (s : V8Sample) : ℤ := s.timestamp * 1000

section

variable (p : Profiling)

/-- The activation that the lookup finds for a sample. -/
def matching (s : V8Sample) : Option SpanActivation := (findClosestActivation p (nanos s)).1

/-- The tests of the loop, apart from the threshold. -/
def wanted (s : V8Sample) : Bool :=
  shouldIncludeSample p (nanos s) ∧ (p.onlyFilteredStacktraces → (matching p s).isSome)

def emittedSamples (profile : V8CpuProfile) : List V8Sample :=
  Pacing.letThrough (wanted p) nanos p.samplingIntervalNanos (profile.startTime * 1000)
    profile.samples

end

theorem buildStacktrace_eq {p q : Profiling} (h : Looked p q) (next : ℤ)
    (jsTraces : List ProfilingStacktrace) (s : V8Sample) :
    ∃ q', Looked p q' ∧ buildStacktrace (q, next, jsTraces) s =
      if wanted p s ∧ next ≤ nanos s then
        (q', next + p.samplingIntervalNanos, jsTraces ++ [makeTrace p s (matching p s)])
      else (q', next, jsTraces) := by
  have hfind : (findClosestActivation q (nanos s)).1 = matching p s := h.find (nanos s)
  have hlook := h.lookup (nanos s)
  have hturn : buildStacktrace (q, next, jsTraces) s =
      if ¬ (shouldIncludeSample q (nanos s) ∧ nanos s ≥ next) then (q, next, jsTraces)
      else if q.onlyFilteredStacktraces ∧ (findClosestActivation q (nanos s)).1 = none then
        ((findClosestActivation q (nanos s)).2, next, jsTraces)
      else
        ((findClosestActivation q (nanos s)).2, next + q.samplingIntervalNanos,
          jsTraces ++ [makeTrace (findClosestActivation q (nanos s)).2 s
            (findClosestActivation q (nanos s)).1]) := rfl
  obtain ⟨hfiltered, hinterval, hinclude, -⟩ := h.reads
  obtain ⟨-, -, -, htrace⟩ := hlook.reads
  rw [hturn, hfind, hinclude, hfiltered, hinterval, htrace]
  unfold wanted
  split
  · rename_i hskip
    refine ⟨q, h, ?_⟩
    rw [if_neg]
    rintro ⟨hwanted, hnext⟩
    simp only [decide_eq_true_eq] at hwanted
    exact hskip ⟨hwanted.1, hnext⟩
  · rename_i hpass
    obtain ⟨hincluded, hnext⟩ := not_not.mp hpass
    refine ⟨_, hlook, ?_⟩
    split
    · rename_i hunmatched
      rw [if_neg]
      rintro ⟨hwanted, _⟩
      simp only [decide_eq_true_eq] at hwanted
      have hsome := hwanted.2 hunmatched.1
      rw [hunmatched.2] at hsome
      cases hsome
    · rename_i hmatched
      rw [if_pos]
      refine ⟨decide_eq_true ⟨hincluded, fun hfilter => ?_⟩, hnext⟩
      exact Option.isSome_iff_ne_none.mpr fun hnone => hmatched ⟨hfilter, hnone⟩

theorem foldl_buildStacktrace {p q : Profiling} (h : Looked p q) (next : ℤ)
    (jsTraces : List ProfilingStacktrace) (samples : List V8Sample) :
    (samples.foldl buildStacktrace (q, next, jsTraces)).2.2 =
      jsTraces ++ (Pacing.letThrough (wanted p) nanos p.samplingIntervalNanos next samples).map
        fun s => makeTrace p s (matching p s) := by
  induction samples generalizing q next jsTraces with
  | nil => simp [Pacing.letThrough]
  | cons s samples ih =>
    obtain ⟨q', hq', hstep⟩ := buildStacktrace_eq h next jsTraces s
    rw [List.foldl_cons, hstep]
    unfold Pacing.letThrough
    split
    · rw [ih hq']
      simp
    · rw [ih hq']

theorem stacktraces_eq (p : Profiling) (profile : V8CpuProfile) :
    (profilingBuildStacktraces p profile).2.stacktraces =
      (emittedSamples p profile).map fun s => makeTrace p s (matching p s) := by
  have hself : Looked p p := ⟨⟨p.activationPeriod, p.binRequests, rfl⟩, fun _ => rfl⟩
  unfold profilingBuildStacktraces emittedSamples
  simp only
  rw [foldl_buildStacktrace hself]
  rfl

/-! ## The bound -/

structure Throttled (p : Profiling) (profile : V8CpuProfile) (emitted : List V8Sample) : Prop where
  inOrder : emitted.Sublist profile.samples
  included : ∀ s ∈ emitted, shouldIncludeSample p (nanos s) = true
  matched : p.onlyFilteredStacktraces = true → ∀ s ∈ emitted, ∃ a, matching p s = some a ∧
    (∃ n, a ∈ binContents p n) ∧ a.startTime ≤ nanos s ∧ nanos s ≤ a.endTime
  /-- Counted from zero. -/
  paced : ∀ (k : ℕ) (h : k < emitted.length),
    profile.startTime * 1000 + k * p.samplingIntervalNanos ≤ nanos emitted[k]
  count : ∀ T, profile.startTime * 1000 ≤ T →
    ((emitted.filter (nanos · ≤ T)).length : ℤ) ≤
      (T - profile.startTime * 1000) / p.samplingIntervalNanos + 1
  none_before : ∀ T < profile.startTime * 1000, emitted.filter (nanos · ≤ T) = []

/-- **Throttling bounds the profile.** Each trace is made from an emitted sample, with the
activation that matches it. -/
theorem stacktraces_throttled (p : Profiling) (profile : V8CpuProfile)
    (h : 0 < p.samplingIntervalNanos) :
    (profilingBuildStacktraces p profile).2.stacktraces =
        (emittedSamples p profile).map (fun s => makeTrace p s (matching p s)) ∧
      Throttled p profile (emittedSamples p profile) := by
  have hwanted : ∀ s ∈ emittedSamples p profile,
      shouldIncludeSample p (nanos s) = true ∧
        (p.onlyFilteredStacktraces = true → (matching p s).isSome = true) := by
    intro s hs
    exact of_decide_eq_true (Pacing.accept_of_mem_letThrough _ _ s hs)
  have hpaced : Pacing.Paced nanos p.samplingIntervalNanos (profile.startTime * 1000)
      (emittedSamples p profile) := Pacing.paced_letThrough _ _
  refine ⟨stacktraces_eq p profile, ?_⟩
  constructor
  case inOrder => exact Pacing.letThrough_sublist _ _
  case included => exact fun s hs => (hwanted s hs).1
  case matched =>
    intro hfilter s hs
    obtain ⟨a, ha⟩ := Option.isSome_iff_exists.mp ((hwanted s hs).2 hfilter)
    exact ⟨a, ha, findClosestActivation_some ha⟩
  case paced => exact hpaced
  case count => exact fun T hT => hpaced.length_filter_le h hT
  case none_before => exact fun T hT => hpaced.filter_eq_nil h.le hT

/-- A profiler with an interval of ten milliseconds. -/
def everyTenMillis : Profiling := setupProfiling ⟨10000, false, false, 0⟩

/-- Four samples in sixteen milliseconds. -/
def burst : V8CpuProfile where
  startTime := 0
  samples := [1000, 2000, 11000, 16000].map fun timestamp => ⟨timestamp, ⟨"", "", 1, 1⟩, []⟩

theorem burst_throttled :
    ((emittedSamples everyTenMillis burst).map (·.timestamp) = [1000, 11000]) ∧
      Throttled everyTenMillis burst (emittedSamples everyTenMillis burst) :=
  ⟨by decide +kernel, (stacktraces_throttled everyTenMillis burst (by decide)).2⟩

end SplunkOtel.Native
