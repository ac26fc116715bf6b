import SplunkOtel.Native.HeapSamples
import SplunkOtel.Native.KhashMap

/-!
# The tracking table of the memory profiler (`src/native_ext/memory_profiling.cpp`)

`CollectHeapProfile` marks the samples of a profile in a hash table and then sweeps the table, bucket
by bucket. The rounds of both loops on the table itself, against the map that they stand for.
-/

open Lib Lib.Probing

namespace SplunkOtel.Native.HeapProfiling

open Khash

/-- The hash of a sample id. -/
def sampleIdHash (id : ℕ) : ℕ := khInt64HashFunc (BitVec.ofNat 64 id)

/-- The round of the marking loop for one sample, and what memory there is for it. -/
def markSample (generation : ℕ) (seen : Table ℕ ℕ × List HeapProfileSample)
    (marking : Sample × Memory) : Option (Table ℕ ℕ × List HeapProfileSample) :=
  let (sample, mem) := marking
  match khGet sampleIdHash seen.1 sample.sampleId with
  | none => none
  | some found =>
    let jsSamples := if found = seen.1.nBuckets then
        seen.2 ++ [{ nodeId := sample.nodeId, size := sample.size * sample.count % 2 ^ 32 }]
      else seen.2
    match khPut sampleIdHash seen.1 sample.sampleId mem with
    | none => none
    | some (tracking, it, ret) =>
      if ret ≠ -1 then some (tracking.setValue it generation, jsSamples)
      else some (tracking, jsSamples)

/-- The round of the sweep for bucket `it`. -/
def sweepBucket (generation : ℕ) (tracking : Table ℕ ℕ) (it : ℕ) : Table ℕ ℕ :=
  if tracking.flags.iseither it then tracking
  else if tracking.vals it ≠ generation then khDel tracking it
  else tracking

/-- The table and its generation, through one collect. The answer is what the collect reports. -/
def collectTable (s : Table ℕ ℕ × ℕ) (markings : List (Sample × Memory)) :
    Option ((Table ℕ ℕ × ℕ) × List HeapProfileSample) :=
  let generation := s.2 + 1
  match markings.foldlM (markSample generation) (s.1, []) with
  | none => none
  | some (tracking, jsSamples) =>
    some (((List.range tracking.nBuckets).foldl (sweepBucket generation) tracking, generation),
      jsSamples)

/-! ## Marking -/

/-- A table that stands for the map of a generation. -/
structure StandsFor (h : Table ℕ ℕ) (tracking : OrderedMap ℕ ℕ) : Prop where
  inv : Inv sampleIdHash h
  represents : Represents h tracking.get?

theorem markSample_spec {h : Table ℕ ℕ} {tracking : OrderedMap ℕ ℕ} (hstands : StandsFor h tracking)
    (hsize : h.size < 2 ^ 30) (generation : ℕ) (jsSamples : List HeapProfileSample)
    (sample : Sample) :
    ∃ h', markSample generation (h, jsSamples) (sample, .granted) =
        some (h', (trackSample generation (tracking, jsSamples) sample).2) ∧
      StandsFor h' (trackSample generation (tracking, jsSamples) sample).1 ∧
      h'.size ≤ h.size + 1 := by
  obtain ⟨hinv, hm⟩ := hstands
  rcases khPut_spec hinv hm hsize sample.sampleId .granted with
    ⟨h', x, ret, hput, hret, hinv', hx, hlive, hkey, -, hm', hgrown, -⟩ | ⟨-, hmem⟩
  · obtain ⟨hinv'', hm''⟩ := setValue_spec hinv' hm' hx hlive generation
    rw [hkey, Function.update_idem] at hm''
    refine ⟨h'.setValue x generation, ?_, ⟨hinv'', ?_⟩, hgrown⟩
    · unfold markSample trackSample
      rcases lookup_of_khGet hinv hm sample.sampleId with
        ⟨found, hfound, hget, -, -, hval⟩ | ⟨hget, hval⟩
      · simp only [hget, hput, hval, hfound.ne, hret, if_false, ne_eq, not_false_eq_true, if_true]
      · simp only [hget, hput, hval, hret, if_true, ne_eq, not_false_eq_true]
    · intro id seenIn
      rw [← hm'' id seenIn]
      change (tracking.set sample.sampleId generation).get? id = _ ↔ _
      rw [OrderedMap.get?_set, Function.update_apply]
  · exact absurd rfl hmem

theorem marking_spec (generation : ℕ) (markings : List (Sample × Memory))
    (hmem : ∀ marking ∈ markings, marking.2 = .granted) {h : Table ℕ ℕ}
    {tracking : OrderedMap ℕ ℕ} (hstands : StandsFor h tracking)
    (hsize : h.size + markings.length ≤ 2 ^ 30) (jsSamples : List HeapProfileSample) :
    ∃ h', markings.foldlM (markSample generation) (h, jsSamples) = some (h',
        ((markings.map Prod.fst).foldl (trackSample generation) (tracking, jsSamples)).2) ∧
      StandsFor h'
        ((markings.map Prod.fst).foldl (trackSample generation) (tracking, jsSamples)).1 := by
  induction markings generalizing h tracking jsSamples with
  | nil => exact ⟨h, rfl, hstands⟩
  | cons marking markings ih =>
    obtain ⟨hgranted, hrest⟩ := List.forall_mem_cons.mp hmem
    obtain ⟨sample, mem⟩ := marking
    obtain rfl : mem = .granted := hgranted
    rw [List.length_cons] at hsize
    obtain ⟨h₁, hmark, hstands₁, hgrown⟩ :=
      markSample_spec hstands (by omega) generation jsSamples sample
    obtain ⟨h₂, hmarks, hstands₂⟩ := ih hrest hstands₁ (by omega)
      (trackSample generation (tracking, jsSamples) sample).2
    exact ⟨h₂, by rw [List.foldlM_cons, hmark]; exact hmarks, hstands₂⟩

/-! ## Sweeping -/

/-- The sweep of some buckets leaves the entries of the others, and in these the marks of this
generation. It moves none. -/
structure Swept (generation : ℕ) (its : List ℕ) (h h' : Table ℕ ℕ) : Prop where
  inv : Inv sampleIdHash h'
  nBuckets : h'.nBuckets = h.nBuckets
  keys : h'.keys = h.keys
  vals : h'.vals = h.vals
  live : ∀ i, h'.live i = true ↔ h.live i = true ∧ (i ∈ its → h.vals i = generation)

theorem sweep_spec (generation : ℕ) (its : List ℕ) {h : Table ℕ ℕ} (hinv : Inv sampleIdHash h)
    (hits : ∀ it ∈ its, it < h.nBuckets) :
    Swept generation its h (its.foldl (sweepBucket generation) h) := by
  induction its generalizing h with
  | nil => exact ⟨hinv, rfl, rfl, rfl, by simp⟩
  | cons it its ih =>
    obtain ⟨hit, hrest⟩ := List.forall_mem_cons.mp hits
    rw [List.foldl_cons]
    by_cases hold : h.live it = true ∧ h.vals it ≠ generation
    · obtain ⟨hlive, hne⟩ := hold
      have hsweep : sweepBucket generation h it = khDel h it := by
        unfold sweepBucket
        rw [if_neg (by simpa [Table.live] using hlive), if_pos hne]
      have hswept := ih (hinv.khDel hit hlive) (by rwa [khDel_nBuckets])
      have hkeys : (khDel h it).keys = h.keys ∧ (khDel h it).vals = h.vals := by
        rw [khDel_eq hit hlive]
        exact ⟨rfl, rfl⟩
      rw [hsweep]
      refine ⟨hswept.inv, hswept.nBuckets.trans (khDel_nBuckets h it),
        hswept.keys.trans hkeys.1, hswept.vals.trans hkeys.2, fun i => ?_⟩
      rw [hswept.live, live_khDel_iff hit hlive, hkeys.2]
      by_cases hi : i = it
      · subst hi
        simp [hne]
      · simp [hi]
    · have hsweep : sweepBucket generation h it = h := by
        unfold sweepBucket
        by_cases hlive : h.live it = true
        · have hval : h.vals it = generation := by
            by_contra hne
            exact hold ⟨hlive, hne⟩
          rw [if_neg (by simpa [Table.live] using hlive), if_neg (not_not_intro hval)]
        · rw [if_pos (by simpa [Table.live] using hlive)]
      have hswept := ih hinv hrest
      rw [hsweep]
      refine ⟨hswept.inv, hswept.nBuckets, hswept.keys, hswept.vals, fun i => ?_⟩
      rw [hswept.live, List.mem_cons]
      by_cases hi : i = it
      · subst hi
        constructor
        · rintro ⟨hlive, -⟩
          exact ⟨hlive, fun _ => by_contra fun hne => hold ⟨hlive, hne⟩⟩
        · rintro ⟨hlive, hmarked⟩
          exact ⟨hlive, fun _ => hmarked (Or.inl rfl)⟩
      · simp [hi]

theorem get?_forgetOld (tracking : OrderedMap ℕ ℕ) (generation id seenIn : ℕ) :
    (forgetOld tracking generation).get? id = some seenIn ↔
      tracking.get? id = some seenIn ∧ seenIn = generation := by
  rw [OrderedMap.get?_eq_some, OrderedMap.get?_eq_some, mem_forgetOld]

theorem sweep_standsFor {h : Table ℕ ℕ} {tracking : OrderedMap ℕ ℕ}
    (hstands : StandsFor h tracking) (generation : ℕ) :
    StandsFor ((List.range h.nBuckets).foldl (sweepBucket generation) h)
      (forgetOld tracking generation) := by
  have hswept := sweep_spec generation (List.range h.nBuckets) hstands.inv
    (fun _ => List.mem_range.mp)
  refine ⟨hswept.inv, fun id seenIn => ?_⟩
  rw [get?_forgetOld, hstands.represents, hswept.nBuckets, hswept.keys, hswept.vals]
  constructor
  · rintro ⟨⟨i, hi, hlive, hkey, hval⟩, hgeneration⟩
    exact ⟨i, hi, (hswept.live i).mpr ⟨hlive, fun _ => hval.trans hgeneration⟩, hkey, hval⟩
  · rintro ⟨i, hi, hlive, hkey, hval⟩
    obtain ⟨hlive, hmarked⟩ := (hswept.live i).mp hlive
    exact ⟨⟨i, hi, hlive, hkey, hval⟩, hval.symm.trans (hmarked (List.mem_range.mpr hi))⟩

/-! ## All collects -/

/-- There is memory for every sample, and the table does not come to hold more than 2^30. -/
def Grants (s : Table ℕ ℕ × ℕ) (markings : List (Sample × Memory)) : Prop :=
  (∀ marking ∈ markings, marking.2 = .granted) ∧ s.1.size + markings.length ≤ 2 ^ 30

instance (s : Table ℕ ℕ × ℕ) (markings : List (Sample × Memory)) :
    Decidable (Grants s markings) := inferInstanceAs (Decidable (_ ∧ _))

/-- A collect of the profiler reports what the table gives, and leaves the marks that it leaves. -/
theorem collectHeapProfile_refines {s : State} {profile : AllocationProfile} {h : Table ℕ ℕ}
    (hrunning : s.v8ProfilerRunning = true)
    (hprofile : s.heapProfiler.bind getAllocationProfile = some profile) (readings : Readings)
    (hstands : StandsFor h s.tracking) {markings : List (Sample × Memory)}
    (hmarkings : markings.map Prod.fst = profile.samples)
    (hgrants : Grants (h, s.generation) markings) :
    ∃ t report h', collectHeapProfile s readings = (t, some report) ∧
      collectTable (h, s.generation) markings = some ((h', t.generation), report.samples) ∧
      StandsFor h' t.tracking := by
  obtain ⟨report, hcollect, hsamples⟩ := collectHeapProfile_eq hrunning hprofile readings
  obtain ⟨h', hmarks, hstands'⟩ :=
    marking_spec (s.generation + 1) markings hgrants.1 hstands hgrants.2 []
  rw [hmarkings] at hmarks hstands'
  refine ⟨_, report, _, hcollect, ?_, sweep_standsFor hstands' (s.generation + 1)⟩
  simp only [collectTable, hmarks, hsamples]
  rfl

/-- What the last of these collects leaves. -/
def stateAfter (s : State) (reports : List (HeapProfile × State)) : State :=
  (reports.map Prod.snd).getLastD s

theorem stateAfter_cons (s t : State) (report : HeapProfile) (reports : List (HeapProfile × State)) :
    stateAfter s ((report, t) :: reports) = stateAfter t reports := by
  rw [stateAfter, List.map_cons, List.getLastD_cons, stateAfter]

theorem collectEach_refines (collects : List (AllocationProfile × Readings)) {s : State}
    (hrunning : s.v8ProfilerRunning = true) (hsession : (session s).isSome)
    {h : Table ℕ ℕ} (hstands : StandsFor h s.tracking) {markings : List (List (Sample × Memory))}
    (hmarkings : markings.map (·.map Prod.fst) = collects.map (·.1.samples))
    (hgrants : Simulation.Meets collectTable Grants (h, s.generation) markings) :
    ∃ reports h', collectEach s collects = some reports ∧
      Simulation.run collectTable (h, s.generation) markings =
        some ((h', (stateAfter s reports).generation), reports.map (·.1.samples)) ∧
      StandsFor h' (stateAfter s reports).tracking := by
  induction collects generalizing s h markings with
  | nil =>
    obtain rfl : markings = [] := List.map_eq_nil_iff.mp hmarkings
    exact ⟨[], h, rfl, rfl, hstands⟩
  | cons head collects ih =>
    obtain ⟨profile, readings⟩ := head
    obtain ⟨marking, rest, rfl, hmarking, hrest⟩ := List.map_eq_cons_iff.mp hmarkings
    obtain ⟨running, hrun⟩ := Option.isSome_iff_exists.mp hsession
    let sampled := { s with heapProfiler := some { session := some { running with profile } } }
    have hstep : step s (.sampled profile) = some sampled := by
      rw [step, hrun]
      rfl
    obtain ⟨hgrant, hlater⟩ := hgrants
    obtain ⟨t, report, h₁, hcollect, htable, hstands₁⟩ :=
      collectHeapProfile_refines (s := sampled) hrunning rfl readings hstands hmarking hgrant
    have htable : collectTable (h, s.generation) marking =
        some ((h₁, t.generation), report.samples) := htable
    obtain ⟨hflag, hprofiler⟩ := collect_frame sampled readings
    rw [hcollect] at hflag hprofiler
    have hsession' : (session t).isSome := by
      rw [session, hprofiler]
      rfl
    rw [htable] at hlater
    obtain ⟨reports, h', hreports, htables, hstands'⟩ :=
      ih (hflag.trans hrunning) hsession' hstands₁ hrest hlater
    refine ⟨(report, t) :: reports, h', ?_, ?_, ?_⟩
    · rw [collectEach_cons hstep hcollect, hreports]
      rfl
    · rw [Simulation.run_cons htable, htables, stateAfter_cons]
      rfl
    · rwa [stateAfter_cons]

/-- **The tracking table.** In the collects of a session the profiler reports what the loops on the
hash table report, and the table is left with the marks of the profiler. -/
theorem tracking_table_refines (keys vals : ℕ → ℕ)
    (options : Option StartProfiling.MemoryProfilingOptions)
    (collects : List (AllocationProfile × Readings)) (markings : List (List (Sample × Memory)))
    (hmarkings : markings.map (·.map Prod.fst) = collects.map (·.1.samples))
    (hgrants : Simulation.Meets collectTable Grants (khInit keys vals, 0) markings) :
    let started := (startMemoryProfiling (initial true) options).1
    ∃ reports h, collectEach started collects = some reports ∧
      Simulation.run collectTable (khInit keys vals, 0) markings =
        some ((h, (stateAfter started reports).generation), reports.map (·.1.samples)) ∧
      Represents h (stateAfter started reports).tracking.get? := by
  obtain ⟨hinv, hm⟩ := khInit_spec sampleIdHash keys vals
  obtain ⟨reports, h, hreports, htables, hstands⟩ :=
    collectEach_refines (s := (startMemoryProfiling (initial true) options).1) collects rfl rfl
      ⟨hinv, hm⟩ hmarkings hgrants
  exact ⟨reports, h, hreports, htables, hstands.represents⟩

theorem overlapping_collects_tracked :
    let started := (startMemoryProfiling (initial true) none).1
    let root : Node := .node "(root)" "" 0 1 []
    let collects : List (AllocationProfile × Readings) :=
      [(⟨root, [⟨1, 16, 2, 1⟩, ⟨1, 24, 1, 2⟩]⟩, ⟨0, 0, 0, 0⟩),
        (⟨root, [⟨1, 24, 1, 2⟩, ⟨1, 64, 1, 3⟩]⟩, ⟨0, 0, 0, 0⟩)]
    let markings : List (List (Sample × Memory)) :=
      [[(⟨1, 16, 2, 1⟩, .granted), (⟨1, 24, 1, 2⟩, .granted)],
        [(⟨1, 24, 1, 2⟩, .granted), (⟨1, 64, 1, 3⟩, .granted)]]
    ∃ reports h, collectEach started collects = some reports ∧
      Simulation.run collectTable (khInit (fun _ => 0) fun _ => 0, 0) markings =
        some ((h, (stateAfter started reports).generation), reports.map (·.1.samples)) ∧
      Represents h (stateAfter started reports).tracking.get? :=
  tracking_table_refines _ _ _ _ _ rfl (by decide)

end SplunkOtel.Native.HeapProfiling
