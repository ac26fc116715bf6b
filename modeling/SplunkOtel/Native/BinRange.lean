import Mathlib.Data.List.Pairwise
import SplunkOtel.Lib.Run
import SplunkOtel.Native.Profiler

/-!
# Bin indices stay in range

An index is the time since `startTime` in bins, with no lower clamp. `collect` moves `startTime`,
and a context that was entered before the move may exit after it.
-/

open Lib.Run

namespace SplunkOtel.Native.BinRange

/-- The profiler and the last reading of the clock. -/
structure World where
  profiling : Profiling
  now : ℤ

/-- The readings of `HrTime` that a call takes, in order. An enter with an id that is not valid is
over before its reading. -/
def readings : Event → List ℤ
  | .startCpuProfiler r => [r.startTime, r.v8Start, r.sampleCutoffPoint]
  | .start _ r => [r.startTime, r.v8Start, r.sampleCutoffPoint]
  | .enterContext _ timestamp traceId spanId =>
    if isValidTraceId traceId ∧ isValidSpanId spanId then [timestamp] else []
  | .exitContext _ timestamp => [timestamp]
  | .collect r _ =>
    [r.newStartTime, r.v8Start, r.profilerStopBegin, r.profilerStopEnd, r.processed,
      r.sampleCutoffPoint]
  | _ => []

/-- V8 keeps the time in microseconds, and records no sample before the start of its profile. -/
def FromClock (v8StartTime : ℤ) (profile : V8CpuProfile) : Prop :=
  profile.startTime = v8StartTime / 1000 ∧ ∀ s ∈ profile.samples, profile.startTime ≤ s.timestamp

instance (v8StartTime : ℤ) : DecidablePred (FromClock v8StartTime) :=
  fun _ => inferInstanceAs (Decidable (_ ∧ _))

def handedOver : Event → Option V8CpuProfile
  | .collect _ profile => profile
  | .stop profile => profile
  | _ => none

/-- The clock never goes back, and V8 runs on the same clock. -/
def Timely (w : World) (e : Event) : Prop :=
  List.Pairwise (· ≤ ·) (w.now :: readings e) ∧
    ∀ profile ∈ handedOver e, FromClock w.profiling.v8StartTime profile

instance (w : World) : DecidablePred (Timely w) := fun _ => inferInstanceAs (Decidable (_ ∧ _))

def step (w : World) (e : Event) : Option World :=
  if Timely w e then
    some { profiling := apply w.profiling e, now := (readings e).getLastD w.now }
  else none

def binSlot (binIndex : ℤ) : ℤ :=
  binIndex - binIndex.tdiv kBinsPerActivationPeriod * kBinsPerActivationPeriod

/-- Every index that `ProfilingGetActivationBin` was given is in range. -/
def BinsInRange (w : World) : Prop :=
  ∀ i ∈ w.profiling.binRequests,
    0 ≤ i ∧ 0 ≤ binSlot i ∧ binSlot i < kBinsPerActivationPeriod

instance : DecidablePred BinsInRange := fun _ => inferInstanceAs (Decidable (∀ _ ∈ _, _))

/-- An exit closes no activation that began a whole bin or more before the profile. -/
def ClosesRecent (w : World) : Event → Prop
  | .exitContext contextHash _ =>
    w.profiling.running → ∀ stack ∈ w.profiling.spanActivations contextHash,
      ∀ a ∈ stack.toList.getLast?, w.profiling.startTime - kActivationBinWidth < a.startTime
  | _ => True

/-- The profile began at a past reading, and V8's profile not before it. -/
def BinInv (w : World) : Prop :=
  (∀ i ∈ w.profiling.binRequests, 0 ≤ i) ∧ w.profiling.startTime ≤ w.now ∧
    (w.profiling.running → w.profiling.startTime ≤ w.profiling.v8StartTime)

theorem binSlot_inRange (i : ℤ) (h : 0 ≤ i) : 0 ≤ binSlot i ∧ binSlot i < kBinsPerActivationPeriod := by
  unfold binSlot kBinsPerActivationPeriod
  rw [Int.tdiv_eq_ediv_of_nonneg h]
  omega

theorem BinInv.inRange {w : World} (h : BinInv w) : BinsInRange w :=
  fun i hi => ⟨h.1 i hi, binSlot_inRange i (h.1 i hi)⟩

theorem now_le_enter {now contextHash timestamp : ℤ} {traceId spanId : String}
    (h : List.Pairwise (· ≤ ·)
      (now :: readings (.enterContext contextHash timestamp traceId spanId))) :
    now ≤ (readings (.enterContext contextHash timestamp traceId spanId)).getLastD now := by
  simp only [readings] at h ⊢
  split at h
  · rename_i hvalid
    rw [if_pos hvalid]
    simpa using h
  · rename_i hinvalid
    rw [if_neg hinvalid]
    exact le_refl _

/-! ## Indices -/

theorem activationBinIndex_nonneg_iff (p : Profiling) (ts : ℤ) :
    0 ≤ activationBinIndex p ts ↔ p.startTime - kActivationBinWidth < ts := by
  unfold activationBinIndex
  rcases Int.le_total 0 (ts - p.startTime) with h | h
  · rw [Int.tdiv_eq_ediv_of_nonneg h]
    unfold kActivationBinWidth
    omega
  · have hneg : ts - p.startTime = -(p.startTime - ts) := by omega
    rw [hneg, Int.neg_tdiv, Int.tdiv_eq_ediv_of_nonneg (by omega)]
    unfold kActivationBinWidth
    omega

theorem insertIndices_nonneg (p : Profiling) (a : SpanActivation)
    (h : p.startTime - kActivationBinWidth < a.startTime) : ∀ i ∈ insertIndices p a, 0 ≤ i := by
  have hfirst := (activationBinIndex_nonneg_iff p a.startTime).mpr h
  intro i hi
  rcases List.mem_cons.mp hi with rfl | hi
  · exact hfirst
  · obtain ⟨k, -, rfl⟩ := List.mem_map.mp hi
    omega

/-- The samples of a profile begin less than a bin before the profile does: the start of the
profile is rounded down to microseconds. -/
theorem sampleIndices_nonneg (p : Profiling) (profile : V8CpuProfile) (v8StartTime : ℤ)
    (h : FromClock v8StartTime profile) (hstart : p.startTime ≤ v8StartTime) :
    ∀ s ∈ profile.samples, 0 ≤ activationBinIndex p (s.timestamp * 1000) := by
  obtain ⟨hbegin, hsamples⟩ := h
  intro s hs
  have hsample := hsamples s hs
  rw [activationBinIndex_nonneg_iff]
  unfold kActivationBinWidth
  omega

/-! ## One call -/

theorem beginProfile_inv (p : Profiling) (r : StartReadings) (now : ℤ)
    (hbins : ∀ i ∈ p.binRequests, 0 ≤ i) (hv8 : r.startTime ≤ r.v8Start)
    (hnow : r.startTime ≤ now) : BinInv ⟨beginProfile p r, now⟩ :=
  ⟨hbins, hnow, fun _ => hv8⟩

theorem enterContext_inv (p : Profiling) (now contextHash timestamp : ℤ) (traceId spanId : String)
    {now' : ℤ} (h : BinInv ⟨p, now⟩) (hnow : now ≤ now') :
    BinInv ⟨enterContext p contextHash timestamp traceId spanId, now'⟩ := by
  obtain ⟨hbins, hstart, hv8⟩ := h
  rcases enterContext_cases p contextHash timestamp traceId spanId with
    ⟨-, heq⟩ | ⟨stack, -, -, heq⟩ <;> rw [heq]
  · exact ⟨hbins, le_trans hstart hnow, hv8⟩
  · exact ⟨hbins, le_trans hstart hnow, hv8⟩

theorem exitContext_inv (p : Profiling) (now contextHash timestamp : ℤ)
    (h : BinInv ⟨p, now⟩) (hnow : now ≤ timestamp)
    (hclose : ClosesRecent ⟨p, now⟩ (.exitContext contextHash timestamp)) :
    BinInv ⟨profilingExitContext p contextHash timestamp, timestamp⟩ := by
  obtain ⟨hbins, hstart, hv8⟩ := h
  rcases profilingExitContext_cases p contextHash timestamp with
    ⟨-, heq⟩ | ⟨stack, a, periods, hrunning, hstack, htop, heq⟩
  · rw [heq]
    exact ⟨hbins, le_trans hstart hnow, hv8⟩
  · rw [heq]
    refine ⟨fun i hi => ?_, le_trans hstart hnow, hv8⟩
    rcases List.mem_append.mp hi with hi | hi
    · exact hbins i hi
    · apply insertIndices_nonneg p { a with endTime := timestamp } ?_ i hi
      exact hclose hrunning stack hstack a htop

theorem collect_inv (p : Profiling) (now now' : ℤ) (r : CollectReadings)
    (profile : Option V8CpuProfile) (h : BinInv ⟨p, now⟩) (hv8 : r.newStartTime ≤ r.v8Start)
    (hnow : now ≤ now') (hnew : r.newStartTime ≤ now')
    (hprofile : ∀ v ∈ profile, FromClock p.v8StartTime v) :
    BinInv ⟨(collectProfilingData p r profile).1, now'⟩ := by
  obtain ⟨hbins, hstart, hrec⟩ := h
  rcases collectProfilingData_cases p r profile with
    ⟨-, heq⟩ | ⟨-, -, heq⟩ | ⟨hrunning, v, is, hv, his, heq⟩ <;> rw [heq]
  · exact ⟨hbins, le_trans hstart hnow, hrec⟩
  · exact ⟨hbins, hnew, fun _ => hv8⟩
  · refine ⟨fun i hi => ?_, hnew, fun _ => hv8⟩
    rcases List.mem_append.mp hi with hi | hi
    · exact hbins i hi
    · obtain ⟨s, hs, rfl⟩ := his i hi
      exact sampleIndices_nonneg p v p.v8StartTime (hprofile v hv) (hrec hrunning) s hs

theorem stop_inv (p : Profiling) (now : ℤ) (profile : Option V8CpuProfile) (h : BinInv ⟨p, now⟩)
    (hprofile : ∀ v ∈ profile, FromClock p.v8StartTime v) :
    BinInv ⟨(stopProfiling p profile).1, now⟩ := by
  obtain ⟨hbins, hstart, hrec⟩ := h
  rcases stopProfiling_cases p profile with ⟨-, heq⟩ | ⟨hrunning, is, his, heq⟩ <;> rw [heq]
  · exact ⟨hbins, hstart, hrec⟩
  · refine ⟨fun i hi => ?_, hstart, fun h => absurd h Bool.false_ne_true⟩
    rcases List.mem_append.mp hi with hi | hi
    · exact hbins i hi
    · obtain ⟨v, hv, s, hs, rfl⟩ := his i hi
      exact sampleIndices_nonneg p v p.v8StartTime (hprofile v hv) (hrec hrunning) s hs

theorem getOrCreate_inv (p : Profiling) (now : ℤ) (options : ProfilingOptions)
    (h : BinInv ⟨p, now⟩) : BinInv ⟨getOrCreateCpuProfiler p options, now⟩ := by
  unfold getOrCreateCpuProfiler
  simp only
  split
  · exact h
  · exact h

theorem startCpuProfiler_inv (p : Profiling) (now : ℤ) (r : StartReadings) (h : BinInv ⟨p, now⟩)
    (hv8 : r.startTime ≤ r.v8Start) (hstart : r.startTime ≤ r.sampleCutoffPoint)
    (hnow : now ≤ r.sampleCutoffPoint) :
    BinInv ⟨(startCpuProfiler p r).1, r.sampleCutoffPoint⟩ := by
  unfold startCpuProfiler
  split
  · exact ⟨h.1, le_trans h.2.1 hnow, h.2.2⟩
  · exact beginProfile_inv p r _ h.1 hv8 hstart

theorem start_inv (p : Profiling) (now : ℤ) (options : ProfilingOptions) (r : StartReadings)
    (h : BinInv ⟨p, now⟩) (hv8 : r.startTime ≤ r.v8Start)
    (hstart : r.startTime ≤ r.sampleCutoffPoint) (hnow : now ≤ r.sampleCutoffPoint) :
    BinInv ⟨apply p (.start options r), r.sampleCutoffPoint⟩ := by
  rcases apply_start_cases p options r with ⟨-, heq⟩ | ⟨-, heq⟩ <;> rw [heq]
  · exact ⟨h.1, le_trans h.2.1 hnow, h.2.2⟩
  · exact beginProfile_inv _ r _ h.1 hv8 hstart

/-! ## Runs -/

theorem step_eq_some {w t : World} {e : Event} (h : step w e = some t) :
    Timely w e ∧ t = { profiling := apply w.profiling e, now := (readings e).getLastD w.now } := by
  unfold step at h
  split at h
  · rename_i htimely
    exact ⟨htimely, (Option.some.inj h).symm⟩
  · cases h

theorem step_inv (w : World) (e : Event) (t : World) (h : BinInv w) (hclose : ClosesRecent w e)
    (ht : step w e = some t) : BinInv t := by
  obtain ⟨⟨hclock, hv8⟩, rfl⟩ := step_eq_some ht
  cases e with
  | getOrCreateCpuProfiler options => exact getOrCreate_inv w.profiling w.now options h
  | startCpuProfiler r =>
    simp only [readings, List.pairwise_cons, List.mem_cons, forall_eq_or_imp] at hclock
    exact startCpuProfiler_inv w.profiling w.now r h (by omega) (by omega) (by omega)
  | start options r =>
    simp only [readings, List.pairwise_cons, List.mem_cons, forall_eq_or_imp] at hclock
    exact start_inv w.profiling w.now options r h (by omega) (by omega) (by omega)
  | addTraceIdFilter traceId => exact h
  | removeTraceIdFilter traceId => exact h
  | enterContext contextHash timestamp traceId spanId =>
    exact enterContext_inv w.profiling w.now contextHash timestamp traceId spanId h
      (now_le_enter hclock)
  | exitContext contextHash timestamp =>
    have hnow : w.now ≤ timestamp := by simpa [readings] using hclock
    exact exitContext_inv w.profiling w.now contextHash timestamp h hnow hclose
  | collect r profile =>
    simp only [readings, List.pairwise_cons, List.mem_cons, forall_eq_or_imp] at hclock
    exact collect_inv w.profiling w.now r.sampleCutoffPoint r profile h (by omega) (by omega)
      (by omega) hv8
  | stop profile => exact stop_inv w.profiling w.now profile h hv8

theorem exit_breaks (w : World) (e : Event) (t : World) (_ : BinInv w)
    (hclose : ¬ ClosesRecent w e) (ht : step w e = some t) : ¬ BinsInRange t := by
  obtain ⟨-, rfl⟩ := step_eq_some ht
  cases e with
  | exitContext contextHash timestamp =>
    simp only [ClosesRecent, not_forall] at hclose
    obtain ⟨hrunning, stack, hstack, a, htop, hold⟩ := hclose
    rcases profilingExitContext_cases w.profiling contextHash timestamp with
      ⟨hidle, -⟩ | ⟨stack', a', periods, -, hstack', htop', heq⟩
    · rcases hidle with hstopped | hempty
      · rw [hrunning] at hstopped
        exact absurd hstopped (by decide)
      · rw [openActivations_of_some hstack] at hempty
        rw [hempty] at htop
        cases htop
    · obtain rfl : stack = stack' := Option.some.inj (hstack.symm.trans hstack')
      obtain rfl : a = a' := Option.some.inj (htop.symm.trans htop')
      intro hrange
      have hfirst : activationBinIndex w.profiling a.startTime ∈
          (apply w.profiling (.exitContext contextHash timestamp)).binRequests := by
        simp only [apply, heq]
        exact List.mem_append_right _ List.mem_cons_self
      exact hold ((activationBinIndex_nonneg_iff _ _).mp (hrange _ hfirst).1)
  | _ => exact absurd trivial hclose

theorem setup_inv (options : ProfilingOptions) : BinInv ⟨setupProfiling options, 0⟩ :=
  ⟨fun _ hi => absurd hi List.not_mem_nil, le_refl _, fun h => absurd h Bool.false_ne_true⟩

/-- **Bin indices.** In a run with a clock that never goes back, every bin index is in range exactly
when no exit closes an activation that began a whole bin or more before the profile of then. -/
theorem bins_in_range_iff (options : ProfilingOptions) (es : List Event) :
    Always step BinsInRange ⟨setupProfiling options, 0⟩ es ↔
      Along step ClosesRecent ⟨setupProfiling options, 0⟩ es :=
  always_iff_along (fun _ h => h.inRange) step_inv exit_breaks es _ (setup_inv options)

def lostProfile : List Event :=
  [.startCpuProfiler ⟨0, 0, 0, 0⟩,
    .enterContext 7 1 "0af7651916cd43dd8448eb211c80319c" "b7ad6b7169203331",
    .collect ⟨1000000000, 0, 1000000000, 1000000000, 1000000000, 1000000000, 1000000000⟩ none,
    .exitContext 7 1000000001]

theorem exit_after_lost_profile :
    ¬ Always step BinsInRange ⟨setupProfiling ⟨10000, false, false, 500000000⟩, 0⟩ lostProfile := by
  decide

end SplunkOtel.Native.BinRange
