import SplunkOtel.Native.HeapProfiling

/-!
# Which samples a collect reports

The tracking table holds the samples of the last profile. A sample that is in it has been reported,
and one that has gone from the profile is swept out of it.
-/

open Lib

namespace SplunkOtel.Native.HeapProfiling

/-! ## The sequence of collects -/

/-- Each collect finds the profile that V8 has by then. -/
def collectEach (s : State) :
    List (AllocationProfile × Readings) → Option (List (HeapProfile × State))
  | [] => some []
  | (profile, readings) :: rest => do
    let sampled ← step s (.sampled profile)
    let (s, result) := collectHeapProfile sampled readings
    let report ← result
    return (report, s) :: (← collectEach s rest)

def listed (profile : AllocationProfile) : List ℕ := profile.samples.map (·.sampleId)

def listedAt (profiles : List AllocationProfile) (i : ℕ) : List ℕ := (profiles[i]?.map listed).getD []

/-- A profile lists each sample once, and a sample that has gone does not come back. -/
structure Lasting (profiles : List AllocationProfile) : Prop where
  nodup : ∀ profile ∈ profiles, (listed profile).Nodup
  neverBack : ∀ i j k id, i < j → j < k → id ∈ listedAt profiles i → id ∈ listedAt profiles k →
    id ∈ listedAt profiles j

/-- The samples that no earlier profile lists. -/
def newSamples (earlier : List AllocationProfile) (profile : AllocationProfile) : List Sample :=
  profile.samples.filter fun sample => ∀ before ∈ earlier, sample.sampleId ∉ listed before

/-- The sample as it is reported. Its size is whole below 2^32. -/
def Emits (sample : Sample) (emitted : HeapProfileSample) : Prop :=
  emitted.nodeId = sample.nodeId ∧
    (sample.size * sample.count < 2 ^ 32 → emitted.size = sample.size * sample.count)

/-! ## One collect -/

def emitted (sample : Sample) : HeapProfileSample :=
  { nodeId := sample.nodeId, size := sample.size * sample.count % 2 ^ 32 }

theorem emits_emitted (sample : Sample) : Emits sample (emitted sample) :=
  ⟨rfl, fun h => Nat.mod_eq_of_lt h⟩

theorem trackSample_tracking (generation : ℕ) (seen : OrderedMap ℕ ℕ × List HeapProfileSample)
    (sample : Sample) :
    (trackSample generation seen sample).1 = seen.1.set sample.sampleId generation := rfl

theorem trackSample_samples (generation : ℕ) (seen : OrderedMap ℕ ℕ × List HeapProfileSample)
    (sample : Sample) :
    (trackSample generation seen sample).2 =
      seen.2 ++ ([sample].filter (·.sampleId ∉ seen.1.keys)).map emitted := by
  unfold trackSample
  simp only
  split
  · rename_i hnew
    simp [OrderedMap.get?_eq_none.mp hnew, emitted]
  · rename_i old
    simp [OrderedMap.mem_keys_of_get? old]

theorem track_spec (generation : ℕ) (samples : List Sample)
    (seen : OrderedMap ℕ ℕ × List HeapProfileSample)
    (hnodup : (samples.map (·.sampleId)).Nodup) :
    (∀ id, (samples.foldl (trackSample generation) seen).1.get? id =
      if id ∈ samples.map (·.sampleId) then some generation else seen.1.get? id) ∧
    (samples.foldl (trackSample generation) seen).2 =
      seen.2 ++ (samples.filter (·.sampleId ∉ seen.1.keys)).map emitted := by
  induction samples generalizing seen with
  | nil => simp
  | cons sample samples ih =>
    obtain ⟨hfresh, hrest⟩ := List.nodup_cons.mp hnodup
    obtain ⟨hmarked, hreported⟩ := ih (trackSample generation seen sample) hrest
    rw [List.foldl_cons]
    constructor
    · intro id
      rw [hmarked, trackSample_tracking, OrderedMap.get?_set, List.map_cons]
      by_cases hid : id = sample.sampleId
      · simp [hid]
      · simp [hid]
    · have hkeys : samples.filter (·.sampleId ∉ (trackSample generation seen sample).1.keys) =
          samples.filter (·.sampleId ∉ seen.1.keys) := by
        apply List.filter_congr
        intro other hother
        have hne : other.sampleId ≠ sample.sampleId := by
          intro heq
          exact hfresh (List.mem_map.mpr ⟨other, hother, heq⟩)
        rw [trackSample_tracking]
        simp [OrderedMap.mem_keys_set, hne]
      rw [hreported, hkeys, trackSample_samples, List.append_assoc, ← List.map_append,
        ← List.filter_append, List.singleton_append]

theorem mem_sweep {entries : List (ℕ × ℕ)} {generation : ℕ} {tracking : OrderedMap ℕ ℕ}
    {e : ℕ × ℕ} :
    e ∈ (entries.foldl (fun tracking (id, seenIn) =>
        if seenIn ≠ generation then tracking.delete id else tracking) tracking).entries ↔
      e ∈ tracking.entries ∧ ∀ old ∈ entries, old.2 ≠ generation → old.1 ≠ e.1 := by
  induction entries generalizing tracking with
  | nil => simp
  | cons old entries ih =>
    rw [List.foldl_cons, ih, List.forall_mem_cons]
    by_cases hold : old.2 = generation
    · simp [hold]
    · simp only [hold, ne_eq, not_false_eq_true, if_true, OrderedMap.mem_delete, forall_const]
      constructor
      · rintro ⟨⟨hmem, hne⟩, hrest⟩
        exact ⟨hmem, Ne.symm hne, hrest⟩
      · rintro ⟨hmem, hne, hrest⟩
        exact ⟨⟨hmem, Ne.symm hne⟩, hrest⟩

theorem mem_forgetOld {tracking : OrderedMap ℕ ℕ} {generation : ℕ} {e : ℕ × ℕ} :
    e ∈ (forgetOld tracking generation).entries ↔ e ∈ tracking.entries ∧ e.2 = generation := by
  unfold forgetOld
  rw [mem_sweep]
  constructor
  · rintro ⟨hmem, hrest⟩
    refine ⟨hmem, ?_⟩
    by_contra hold
    exact hrest e hmem hold rfl
  · rintro ⟨hmem, hgeneration⟩
    refine ⟨hmem, fun old hold hne heq => hne ?_⟩
    have hsame : (old.1, e.2) ∈ tracking.entries := by rwa [heq]
    rw [← hgeneration]
    exact OrderedMap.entries_inj hold hsame

/-- A session runs, and the table holds these samples, all of them marked in the past. -/
structure Tracks (s : State) (ids : List ℕ) : Prop where
  running : s.v8ProfilerRunning = true
  session : (session s).isSome
  marked : ∀ e ∈ s.tracking.entries, e.2 ≤ s.generation
  tracking : ∀ id, id ∈ s.tracking.keys ↔ id ∈ ids

/-- What the marking loop leaves. -/
def marked (s : State) (profile : AllocationProfile) : OrderedMap ℕ ℕ × List HeapProfileSample :=
  profile.samples.foldl (trackSample (s.generation + 1)) (s.tracking, [])

theorem collectHeapProfile_eq {s : State} {profile : AllocationProfile}
    (hrunning : s.v8ProfilerRunning = true)
    (hprofile : s.heapProfiler.bind getAllocationProfile = some profile) (readings : Readings) :
    ∃ report, collectHeapProfile s readings =
      ({ s with
          generation := s.generation + 1
          tracking := forgetOld (marked s profile).1 (s.generation + 1) }, some report) ∧
      report.samples = (marked s profile).2 := by
  unfold collectHeapProfile
  rw [if_neg (by simpa using hrunning), hprofile]
  exact ⟨_, rfl, rfl⟩

theorem collect_spec {s : State} {ids : List ℕ} (h : Tracks s ids) (profile : AllocationProfile)
    (readings : Readings) (hnodup : (listed profile).Nodup) :
    ∃ sampled report t, step s (.sampled profile) = some sampled ∧
      collectHeapProfile sampled readings = (t, some report) ∧
      report.samples = (profile.samples.filter (·.sampleId ∉ ids)).map emitted ∧
      Tracks t (listed profile) := by
  obtain ⟨running, hrunning⟩ := Option.isSome_iff_exists.mp h.session
  let sampled := { s with heapProfiler := some { session := some { running with profile } } }
  have hstep : step s (.sampled profile) = some sampled := by
    rw [step, hrunning]
    rfl
  have hprofile : sampled.heapProfiler.bind getAllocationProfile = some profile := rfl
  have hv8 : sampled.v8ProfilerRunning = true := h.running
  obtain ⟨report, hreport, hsamples⟩ := collectHeapProfile_eq hv8 hprofile readings
  obtain ⟨hmarked, hreported⟩ :=
    track_spec (s.generation + 1) profile.samples (s.tracking, []) hnodup
  change ∀ id, (marked s profile).1.get? id = _ at hmarked
  change (marked s profile).2 = _ at hreported
  refine ⟨sampled, report, _, hstep, hreport, ?_, h.running, rfl, fun e he => ?_, fun id => ?_⟩
  · change report.samples = (marked s profile).2 at hsamples
    rw [hsamples, hreported, List.nil_append]
    congr 1
    apply List.filter_congr
    intro sample _
    simp [h.tracking]
  · exact (mem_forgetOld.mp he).2.le
  · change id ∈ (forgetOld (marked s profile).1 (s.generation + 1)).keys ↔ _
    rw [OrderedMap.mem_keys_iff]
    constructor
    · rintro ⟨v, hv⟩
      obtain ⟨hmem, hgeneration⟩ := mem_forgetOld.mp (OrderedMap.get?_eq_some.mp hv)
      have hget := OrderedMap.get?_eq_some.mpr hmem
      simp only at hgeneration
      rw [hmarked, hgeneration] at hget
      split at hget
      · assumption
      · -- An older mark is not of this generation.
        have hold := h.marked _ (OrderedMap.get?_eq_some.mp hget)
        simp only at hold
        omega
    · intro hid
      refine ⟨s.generation + 1, OrderedMap.get?_eq_some.mpr (mem_forgetOld.mpr ⟨?_, rfl⟩)⟩
      rw [← OrderedMap.get?_eq_some, hmarked]
      exact if_pos hid

/-! ## All collects -/

/-- The samples of the profile before the `i`th. -/
def lastListed (profiles : List AllocationProfile) : ℕ → List ℕ
  | 0 => []
  | i + 1 => listedAt profiles i

theorem mem_listedAt {profiles : List AllocationProfile} {i : ℕ} {profile : AllocationProfile}
    (h : profiles[i]? = some profile) {id : ℕ} : id ∈ listedAt profiles i ↔ id ∈ listed profile := by
  rw [listedAt, h]
  rfl

theorem not_mem_lastListed {profiles : List AllocationProfile} (h : Lasting profiles) {i id : ℕ}
    (hid : id ∈ listedAt profiles i) :
    id ∉ lastListed profiles i ↔ ∀ before ∈ profiles.take i, id ∉ listed before := by
  constructor
  · intro hlast before hbefore hmem
    obtain ⟨j, hj⟩ := List.mem_iff_getElem?.mp hbefore
    rw [List.getElem?_take] at hj
    split at hj
    · rename_i hlt
      have hjd := (mem_listedAt hj).mpr hmem
      cases i with
      | zero => omega
      | succ i =>
        rcases Nat.lt_or_eq_of_le (Nat.lt_succ_iff.mp hlt) with hlt | rfl
        · exact hlast (h.neverBack j i (i + 1) id hlt (Nat.lt_succ_self i) hjd hid)
        · exact hlast hjd
    · cases hj
  · intro hall hlast
    cases i with
    | zero => cases hlast
    | succ i =>
      change id ∈ listedAt profiles i at hlast
      rcases hi : profiles[i]? with _ | profile
      · rw [listedAt, hi] at hlast
        cases hlast
      · refine hall profile (List.mem_iff_getElem?.mpr ⟨i, ?_⟩) ((mem_listedAt hi).mp hlast)
        rw [List.getElem?_take, if_pos (Nat.lt_succ_self i), hi]

theorem newSamples_eq {profiles : List AllocationProfile} (h : Lasting profiles) {i : ℕ}
    {profile : AllocationProfile} (hi : profiles[i]? = some profile) :
    profile.samples.filter (·.sampleId ∉ lastListed profiles i) =
      newSamples (profiles.take i) profile := by
  unfold newSamples
  apply List.filter_congr
  intro sample hsample
  have hid := (mem_listedAt hi).mpr (List.mem_map_of_mem hsample)
  simp only [decide_eq_decide]
  exact not_mem_lastListed h hid

/-- The collect of a profile reports its new samples, and leaves in the table just the ones that
it lists. -/
def ReportsOnce (profiles : List AllocationProfile) (i : ℕ) (report : HeapProfile) (t : State) :
    Prop :=
  ∀ profile, profiles[i]? = some profile →
    List.Forall₂ Emits (newSamples (profiles.take i) profile) report.samples ∧
      ∀ id, id ∈ t.tracking.keys ↔ id ∈ listed profile

theorem forall₂_map_emitted (samples : List Sample) :
    List.Forall₂ Emits samples (samples.map emitted) := by
  rw [List.forall₂_map_right_iff]
  exact List.forall₂_same.mpr fun sample _ => emits_emitted sample

theorem collectEach_cons {s sampled t : State} {profile : AllocationProfile} {readings : Readings}
    {report : HeapProfile} (hstep : step s (.sampled profile) = some sampled)
    (hcollect : collectHeapProfile sampled readings = (t, some report))
    (rest : List (AllocationProfile × Readings)) :
    collectEach s ((profile, readings) :: rest) =
      (collectEach t rest).map ((report, t) :: ·) := by
  rw [collectEach, hstep]
  change (collectHeapProfile sampled readings).2.bind (fun report =>
    (collectEach (collectHeapProfile sampled readings).1 rest).bind fun reports =>
      some ((report, (collectHeapProfile sampled readings).1) :: reports)) = _
  rw [hcollect]
  change (collectEach t rest).bind _ = _
  cases collectEach t rest with
  | none => rfl
  | some reports => rfl

theorem collectEach_spec {profiles : List AllocationProfile} (h : Lasting profiles)
    (rest : List (AllocationProfile × Readings)) {i : ℕ}
    (hrest : profiles.drop i = rest.map Prod.fst) {s : State}
    (hs : Tracks s (lastListed profiles i)) :
    ∃ reports, collectEach s rest = some reports ∧ reports.length = rest.length ∧
      ∀ j report t, reports[j]? = some (report, t) → ReportsOnce profiles (i + j) report t := by
  induction rest generalizing i s with
  | nil => exact ⟨[], rfl, rfl, by simp⟩
  | cons head rest ih =>
    obtain ⟨profile, readings⟩ := head
    have hi : profiles[i]? = some profile := by
      rw [← List.head?_drop, hrest]
      rfl
    obtain ⟨sampled, report, t, hstep, hcollect, hsamples, ht⟩ :=
      collect_spec hs profile readings (h.nodup profile (List.mem_of_getElem? hi))
    have hlast : lastListed profiles (i + 1) = listed profile := by
      rw [lastListed, listedAt, hi]
      rfl
    have hdrop : profiles.drop (i + 1) = rest.map Prod.fst := by
      rw [← List.tail_drop, hrest]
      rfl
    obtain ⟨reports, hreports, hlength, hall⟩ := ih hdrop (hlast ▸ ht)
    refine ⟨(report, t) :: reports, ?_, by simp [hlength], fun j report' t' hj => ?_⟩
    · rw [collectEach_cons hstep hcollect, hreports]
      rfl
    · cases j with
      | zero =>
        cases hj
        intro profile' hprofile'
        rw [Nat.add_zero, hi] at hprofile'
        cases hprofile'
        rw [newSamples_eq h hi] at hsamples
        rw [hsamples]
        exact ⟨forall₂_map_emitted _, ht.tracking⟩
      | succ j =>
        have hreport := hall j report' t' hj
        rwa [show i + 1 + j = i + (j + 1) by omega] at hreport

theorem started_tracks (options : Option StartProfiling.MemoryProfilingOptions) :
    Tracks (startMemoryProfiling (initial true) options).1 [] where
  running := rfl
  session := rfl
  marked := nofun
  tracking id := by simp [startMemoryProfiling, initial, OrderedMap.keys, EmptyCollection.emptyCollection]

/-- **Each live sample is reported once.** In the collects of a session a sample is in the report of
the first profile that lists it and in no other, and after each collect the table holds just the
samples of its profile. -/
theorem samples_reported_once (options : Option StartProfiling.MemoryProfilingOptions)
    (collects : List (AllocationProfile × Readings)) (h : Lasting (collects.map Prod.fst)) :
    ∃ reports, collectEach (startMemoryProfiling (initial true) options).1 collects = some reports ∧
      reports.length = collects.length ∧
      ∀ i report t, reports[i]? = some (report, t) →
        ReportsOnce (collects.map Prod.fst) i report t := by
  obtain ⟨reports, hreports, hlength, hall⟩ :=
    collectEach_spec h collects (i := 0) List.drop_zero (started_tracks options)
  refine ⟨reports, hreports, hlength, fun i report t hi => ?_⟩
  have hreport := hall i report t hi
  rwa [Nat.zero_add] at hreport

theorem overlapping_profiles_reported :
    let root : Node := .node "(root)" "" 0 1 []
    let readings : Readings := ⟨0, 0, 0, 0⟩
    let collects : List (AllocationProfile × Readings) :=
      [(⟨root, [⟨1, 16, 2, 1⟩, ⟨1, 24, 1, 2⟩]⟩, readings),
        (⟨root, [⟨1, 24, 1, 2⟩, ⟨1, 64, 1, 3⟩]⟩, readings), (⟨root, []⟩, readings)]
    ∃ reports, collectEach (startMemoryProfiling (initial true) none).1 collects = some reports ∧
      reports.length = collects.length ∧
      ∀ i report t, reports[i]? = some (report, t) →
        ReportsOnce (collects.map Prod.fst) i report t := by
  intro root readings collects
  refine samples_reported_once none collects ⟨by decide, fun i j k id hij hjk _ hk => ?_⟩
  obtain ⟨rfl, rfl, rfl⟩ | hlarge : i = 0 ∧ j = 1 ∧ k = 2 ∨ 3 ≤ k := by omega
  · cases hk
  · have hnone : (collects.map Prod.fst)[k]? = none := List.getElem?_eq_none hlarge
    rw [listedAt, hnone] at hk
    cases hk

end SplunkOtel.Native.HeapProfiling
