import SplunkOtel.Lib.Stabbing
import SplunkOtel.Native.ActivationStack
import Mathlib.Data.Int.ConditionallyCompleteOrder

/-!
# Span activations by time (`src/native_ext/profiling.cpp`)

Activations lie in bins of 100 ms, 384 bins to a period, and periods are chained. A bin that is
full goes on in an overflow bin of the same size. `int64_t` values are integers: the clock is never
negative, so their differences do not overflow. The allocations succeed.
-/

open Lib.Stabbing

namespace SplunkOtel.Native

def kActivationBinWidth : ℤ := 100 * 1000000

def kActivationsPerBin : ℕ := 64

def kBinsPerActivationPeriod : ℕ := 384

/-- The activations of a bin, then those of the bins its `next` chain leads to. -/
abbrev ActivationBin := List (List SpanActivation)

structure ActivationPeriod where
  activationBins : List ActivationBin
  length_eq : activationBins.length = kBinsPerActivationPeriod

/-- The profiler of one handle. The last three fields are not in the source: the bin indices that
`ProfilingGetActivationBin` was given, the activations that `InsertActivation` was given, and the
clock when V8 started the profile that it records now. -/
structure Profiling where
  activationPeriod : List ActivationPeriod
  wallStartTime : ℤ
  startTime : ℤ
  maxSampleCutoffDelayNanos : ℤ
  sampleCutoffPoint : ℤ
  activationDepth : ℤ
  running : Bool
  recordDebugInfo : Bool
  onlyFilteredStacktraces : Bool
  samplingIntervalNanos : ℤ
  profilerSeq : ℕ
  spanActivations : ℤ → Option ActivationStack
  traceIdFilter : List String
  binRequests : List ℤ
  inserted : List SpanActivation
  v8StartTime : ℤ

def Profiling.zero : Profiling where
  activationPeriod := []
  wallStartTime := 0
  startTime := 0
  maxSampleCutoffDelayNanos := 0
  sampleCutoffPoint := 0
  activationDepth := 0
  running := false
  recordDebugInfo := false
  onlyFilteredStacktraces := false
  samplingIntervalNanos := 0
  profilerSeq := 0
  spanActivations := fun _ => none
  traceIdFilter := []
  binRequests := []
  inserted := []
  v8StartTime := 0

def newActivationPeriod : ActivationPeriod where
  activationBins := List.replicate kBinsPerActivationPeriod [[]]
  length_eq := List.length_replicate

def activationBinIndex (p : Profiling) (timestamp : ℤ) : ℤ :=
  (timestamp - p.startTime).tdiv kActivationBinWidth

/-- The chain after `n` steps from its head, with a new period wherever it ends. -/
def walkPeriods : ℕ → List ActivationPeriod → List ActivationPeriod
  | 0, periods => periods
  | n + 1, [] => newActivationPeriod :: walkPeriods n []
  | n + 1, [period] => period :: walkPeriods n [newActivationPeriod]
  | n + 1, period :: next :: rest => period :: walkPeriods n (next :: rest)

structure BinRef where
  period : ℕ
  index : ℤ

def profilingGetActivationBin (p : Profiling) (binIndex : ℤ) : BinRef × Profiling :=
  let periodIndex := binIndex.tdiv kBinsPerActivationPeriod
  (⟨periodIndex.toNat, binIndex - periodIndex * kBinsPerActivationPeriod⟩,
    { p with
      activationPeriod := walkPeriods periodIndex.toNat p.activationPeriod
      binRequests := p.binRequests ++ [binIndex] })

/-- An index outside of the array of its period is undefined behaviour, and reads nothing here. -/
def readBin (p : Profiling) (r : BinRef) : Option ActivationBin :=
  if 0 ≤ r.index then
    p.activationPeriod[r.period]?.bind (·.activationBins[r.index.toNat]?)
  else none

def writePeriod (period : ActivationPeriod) (index : ℕ) (bin : ActivationBin) :
    ActivationPeriod where
  activationBins := period.activationBins.set index bin
  length_eq := by rw [List.length_set, period.length_eq]

def writeBin (p : Profiling) (r : BinRef) (bin : ActivationBin) : Profiling :=
  { p with
    activationPeriod := p.activationPeriod.modify r.period (writePeriod · r.index.toNat bin) }

/-! ## Lookup and insertion -/

def isActiveAt (ts : ℤ) (a : SpanActivation) : Bool := a.startTime ≤ ts ∧ ts ≤ a.endTime

/-- The body of the inner loop: `t` is the best so far. -/
def closer (ts : ℤ) (t : Option SpanActivation) (a : SpanActivation) : Option SpanActivation :=
  if isActiveAt ts a then
    match t with
    | none => some a
    | some b => if a.startTime > b.startTime then some a else some b
  else t

def findClosestActivation (p : Profiling) (ts : ℤ) : Option SpanActivation × Profiling :=
  let (r, p) := profilingGetActivationBin p (activationBinIndex p ts)
  (((readBin p r).getD []).foldl (fun t bin => bin.foldl (closer ts) t) none, p)

/-- `BinInsertActivation`: to the last bin of the chain, and to a new one when that is full. -/
def binInsertActivation (a : SpanActivation) : ActivationBin → ActivationBin
  | [] => [[a]]
  | [bin] => if bin.length = kActivationsPerBin then [bin, [a]] else [bin ++ [a]]
  | bin :: next :: rest => bin :: binInsertActivation a (next :: rest)

def insertAt (p : Profiling) (binIndex : ℤ) (a : SpanActivation) : Profiling :=
  let (r, p) := profilingGetActivationBin p binIndex
  match readBin p r with
  | none => p
  | some bin => writeBin p r (binInsertActivation a bin)

def insertActivation (p : Profiling) (a : SpanActivation) : Profiling :=
  let p := { p with inserted := p.inserted ++ [a] }
  let startBinIndex := activationBinIndex p a.startTime
  let endBinIndex := activationBinIndex p a.endTime
  -- Spread the activation into overlapping bins.
  ((List.range (endBinIndex - startBinIndex).toNat).map fun i : ℕ => startBinIndex + 1 + i).foldl
    (insertAt · · a) (insertAt p startBinIndex a)

/-- `ProfilingReset`: no open activations, and one empty period in the arena. -/
def profilingReset (p : Profiling) : Profiling :=
  { p with spanActivations := fun _ => none, activationPeriod := [newActivationPeriod] }

/-! ## What the functions touch -/

theorem insertAt_frame (p : Profiling) (i : ℤ) (a : SpanActivation) :
    ∃ periods, insertAt p i a =
      { p with activationPeriod := periods, binRequests := p.binRequests ++ [i] } := by
  unfold insertAt
  simp only
  split
  · exact ⟨_, rfl⟩
  · exact ⟨_, rfl⟩

theorem insertAt_foldl_frame (p : Profiling) (is : List ℤ) (a : SpanActivation) :
    ∃ periods, is.foldl (insertAt · · a) p =
      { p with activationPeriod := periods, binRequests := p.binRequests ++ is } := by
  induction is generalizing p with
  | nil => exact ⟨p.activationPeriod, by rw [List.append_nil]; rfl⟩
  | cons i is ih =>
    obtain ⟨periods, hone⟩ := insertAt_frame p i a
    obtain ⟨periods', hrest⟩ := ih (insertAt p i a)
    refine ⟨periods', ?_⟩
    rw [List.foldl_cons, hrest, hone]
    simp

def insertIndices (p : Profiling) (a : SpanActivation) : List ℤ :=
  activationBinIndex p a.startTime ::
    (List.range (activationBinIndex p a.endTime - activationBinIndex p a.startTime).toNat).map
      fun i : ℕ => activationBinIndex p a.startTime + 1 + i

theorem insertActivation_frame (p : Profiling) (a : SpanActivation) :
    ∃ periods, insertActivation p a =
      { p with
        activationPeriod := periods
        binRequests := p.binRequests ++ insertIndices p a
        inserted := p.inserted ++ [a] } :=
  insertAt_foldl_frame { p with inserted := p.inserted ++ [a] } (insertIndices p a) a

theorem findClosestActivation_frame (p : Profiling) (ts : ℤ) :
    ∃ periods, (findClosestActivation p ts).2 =
      { p with
        activationPeriod := periods
        binRequests := p.binRequests ++ [activationBinIndex p ts] } :=
  ⟨_, rfl⟩

/-! ## What a bin holds -/

/-- The activations in bin `n`, counted through all periods. -/
def binContents (p : Profiling) (n : ℕ) : List SpanActivation :=
  ((p.activationPeriod[n / kBinsPerActivationPeriod]?.bind
    (·.activationBins[n % kBinsPerActivationPeriod]?)).getD []).flatten

theorem flatten_binInsertActivation (a : SpanActivation) (bin : ActivationBin) :
    (binInsertActivation a bin).flatten = bin.flatten ++ [a] := by
  induction bin using binInsertActivation.induct with
  | case1 => rfl
  | case2 bin hfull => simp [binInsertActivation, hfull]
  | case3 bin hroom => simp [binInsertActivation, hroom]
  | case4 bin next rest ih => rw [binInsertActivation, List.flatten_cons, ih]; simp

theorem length_walkPeriods (n : ℕ) (periods : List ActivationPeriod) (h : periods ≠ []) :
    n < (walkPeriods n periods).length := by
  induction n, periods using walkPeriods.induct with
  | case1 periods => simpa [walkPeriods, List.length_pos_iff] using h
  | case2 n ih => exact absurd rfl h
  | case3 n period ih =>
    have := ih (List.cons_ne_nil _ _)
    simp only [walkPeriods, List.length_cons]
    omega
  | case4 n period next rest ih =>
    have := ih (List.cons_ne_nil _ _)
    simp only [walkPeriods, List.length_cons]
    omega

theorem getElem?_walkPeriods (n : ℕ) (periods : List ActivationPeriod) (i : ℕ) :
    (walkPeriods n periods)[i]? = periods[i]? ∨
      periods[i]? = none ∧ (walkPeriods n periods)[i]? = some newActivationPeriod := by
  induction n, periods using walkPeriods.induct generalizing i with
  | case1 periods => exact Or.inl (by rw [walkPeriods])
  | case2 n ih =>
    rcases i with _ | i
    · exact Or.inr ⟨rfl, rfl⟩
    · simpa [walkPeriods] using ih i
  | case3 n period ih =>
    rcases i with _ | _ | i
    · exact Or.inl rfl
    · right
      have := ih 0
      simp_all [walkPeriods]
    · simpa [walkPeriods] using ih (i + 1)
  | case4 n period next rest ih =>
    rcases i with _ | i
    · exact Or.inl rfl
    · simpa [walkPeriods] using ih i

theorem newActivationPeriod_bins (i : ℕ) :
    ((newActivationPeriod.activationBins[i]?).getD []).flatten = [] := by
  simp only [newActivationPeriod, List.getElem?_replicate]
  split <;> rfl

/-! ## One bin -/

theorem profilingGetActivationBin_fst (p : Profiling) (n : ℕ) :
    (profilingGetActivationBin p n).1 =
      ⟨n / kBinsPerActivationPeriod, (n % kBinsPerActivationPeriod : ℕ)⟩ := by
  simp only [profilingGetActivationBin, kBinsPerActivationPeriod, BinRef.mk.injEq]
  rw [Int.tdiv_eq_ediv_of_nonneg (by omega)]
  omega

theorem binContents_getActivationBin (p : Profiling) (i : ℤ) (n : ℕ) :
    binContents (profilingGetActivationBin p i).2 n = binContents p n := by
  unfold binContents profilingGetActivationBin
  simp only
  rcases getElem?_walkPeriods (i.tdiv kBinsPerActivationPeriod).toNat p.activationPeriod
    (n / kBinsPerActivationPeriod) with h | ⟨hnone, hnew⟩
  · rw [h]
  · rw [hnone, hnew, Option.bind_some, newActivationPeriod_bins]
    rfl

theorem readBin_getActivationBin (p : Profiling) (n : ℕ) :
    ((readBin (profilingGetActivationBin p n).2 (profilingGetActivationBin p n).1).getD []).flatten =
      binContents p n := by
  rw [← binContents_getActivationBin p n n, profilingGetActivationBin_fst]
  simp only [readBin, if_pos (Int.natCast_nonneg _), Int.toNat_natCast]
  rfl

def HasPeriod (p : Profiling) : Prop := p.activationPeriod ≠ []

theorem exists_bin (p : Profiling) (h : HasPeriod p) (n : ℕ) :
    ∃ period bin,
      (profilingGetActivationBin p n).2.activationPeriod[n / kBinsPerActivationPeriod]? =
        some period ∧
      period.activationBins[n % kBinsPerActivationPeriod]? = some bin := by
  have hperiod : n / kBinsPerActivationPeriod <
      (profilingGetActivationBin p n).2.activationPeriod.length := by
    have heq : ((n : ℤ).tdiv kBinsPerActivationPeriod).toNat = n / kBinsPerActivationPeriod :=
      congrArg BinRef.period (profilingGetActivationBin_fst p n)
    rw [← heq]
    exact length_walkPeriods _ _ h
  obtain ⟨period, hget⟩ : ∃ period,
      (profilingGetActivationBin p n).2.activationPeriod[n / kBinsPerActivationPeriod]? =
        some period := ⟨_, List.getElem?_eq_getElem hperiod⟩
  have hbin : n % kBinsPerActivationPeriod < period.activationBins.length := by
    rw [ActivationPeriod.length_eq]
    exact Nat.mod_lt _ (by decide)
  exact ⟨period, _, hget, List.getElem?_eq_getElem hbin⟩

theorem div_mod_inj {m n : ℕ} (hdiv : n / kBinsPerActivationPeriod = m / kBinsPerActivationPeriod)
    (hmod : n % kBinsPerActivationPeriod = m % kBinsPerActivationPeriod) : n = m := by
  rw [← Nat.div_add_mod n kBinsPerActivationPeriod, hdiv, hmod, Nat.div_add_mod]

theorem binContents_insertAt (p : Profiling) (h : HasPeriod p) (n m : ℕ) (a : SpanActivation) :
    binContents (insertAt p n a) m =
      if n = m then binContents p m ++ [a] else binContents p m := by
  obtain ⟨period, bin, hperiod, hbin⟩ := exists_bin p h n
  have hsame := binContents_getActivationBin p n m
  have hread : readBin (profilingGetActivationBin p n).2 (profilingGetActivationBin p n).1 =
      some bin := by
    rw [profilingGetActivationBin_fst]
    simp only [readBin, if_pos (Int.natCast_nonneg _), Int.toNat_natCast, hperiod,
      Option.bind_some, hbin]
  unfold insertAt
  simp only [hread]
  rw [← hsame]
  rw [profilingGetActivationBin_fst]
  unfold binContents writeBin
  simp only [List.getElem?_modify, Int.toNat_natCast]
  rcases eq_or_ne (n / kBinsPerActivationPeriod) (m / kBinsPerActivationPeriod) with hdiv | hdiv
  · rw [hdiv] at hperiod
    simp only [if_pos hdiv, hperiod, Option.map_eq_map, Option.map_some, Option.bind_some,
      writePeriod, List.getElem?_set]
    rcases eq_or_ne (n % kBinsPerActivationPeriod) (m % kBinsPerActivationPeriod) with hmod | hmod
    · have hlt : n % kBinsPerActivationPeriod < period.activationBins.length := by
        rw [ActivationPeriod.length_eq]
        exact Nat.mod_lt _ (by decide)
      rw [if_pos hmod, if_pos hlt, if_pos (div_mod_inj hdiv hmod), ← hmod, hbin]
      exact flatten_binInsertActivation a bin
    · rw [if_neg hmod, if_neg (fun hnm => hmod (by rw [hnm]))]
  · rw [if_neg (fun hnm => hdiv (by rw [hnm]))]
    simp only [if_neg hdiv, Option.map_eq_map, Option.map_id']

theorem hasPeriod_getActivationBin (p : Profiling) (h : HasPeriod p) (i : ℤ) :
    HasPeriod (profilingGetActivationBin p i).2 := by
  have hlen := length_walkPeriods (i.tdiv kBinsPerActivationPeriod).toNat _ h
  exact List.ne_nil_of_length_pos (Nat.zero_lt_of_lt hlen)

theorem hasPeriod_insertAt (p : Profiling) (h : HasPeriod p) (n : ℕ) (a : SpanActivation) :
    HasPeriod (insertAt p n a) := by
  have hwalk := hasPeriod_getActivationBin p h n
  unfold insertAt
  simp only
  split
  · exact hwalk
  · simpa [HasPeriod, writeBin] using hwalk

theorem startTime_insertAt (p : Profiling) (i : ℤ) (a : SpanActivation) :
    (insertAt p i a).startTime = p.startTime := by
  obtain ⟨periods, h⟩ := insertAt_frame p i a
  rw [h]

/-! ## One activation -/

theorem insertAt_foldl (a : SpanActivation) (ns : List ℕ) (hns : ns.Nodup) (p : Profiling)
    (h : HasPeriod p) :
    HasPeriod (ns.foldl (fun p (n : ℕ) => insertAt p n a) p) ∧
      (ns.foldl (fun p (n : ℕ) => insertAt p n a) p).startTime = p.startTime ∧
      ∀ m, binContents (ns.foldl (fun p (n : ℕ) => insertAt p n a) p) m =
        if m ∈ ns then binContents p m ++ [a] else binContents p m := by
  induction ns generalizing p with
  | nil => exact ⟨h, rfl, fun m => rfl⟩
  | cons n ns ih =>
    obtain ⟨hnew, hns⟩ := List.nodup_cons.mp hns
    obtain ⟨hperiod, hstart, hbins⟩ := ih hns (insertAt p n a) (hasPeriod_insertAt p h n a)
    refine ⟨hperiod, by rw [List.foldl_cons, hstart, startTime_insertAt], fun m => ?_⟩
    rw [List.foldl_cons, hbins, binContents_insertAt p h]
    rcases eq_or_ne n m with rfl | hne
    · simp [hnew]
    · simp [hne, hne.symm]

theorem activationBinIndex_congr {p q : Profiling} (h : q.startTime = p.startTime) :
    activationBinIndex q = activationBinIndex p := by
  funext ts
  simp only [activationBinIndex, h]

theorem activationBinIndex_mono (p : Profiling) : Monotone (activationBinIndex p) := by
  intro s t hst
  apply Int.tdiv_le_tdiv
  · decide
  · omega

theorem activationBinIndex_nonneg (p : Profiling) (ts : ℤ) (h : p.startTime ≤ ts) :
    0 ≤ activationBinIndex p ts := by
  apply Int.tdiv_nonneg
  · omega
  · decide

theorem insertActivation_eq (p : Profiling) (a : SpanActivation)
    (h : p.startTime ≤ a.startTime) (h' : a.startTime ≤ a.endTime) :
    insertActivation p a =
      (List.range' (activationBinIndex p a.startTime).toNat
        (activationBinIndex p a.endTime - activationBinIndex p a.startTime + 1).toNat).foldl
        (fun p (n : ℕ) => insertAt p n a) { p with inserted := p.inserted ++ [a] } := by
  have hs := activationBinIndex_nonneg p a.startTime h
  have hse := activationBinIndex_mono p h'
  unfold insertActivation
  simp only
  have hsame : activationBinIndex { p with inserted := p.inserted ++ [a] } = activationBinIndex p :=
    rfl
  rw [hsame]
  generalize activationBinIndex p a.startTime = s at *
  generalize activationBinIndex p a.endTime = e at *
  have hlen : (e - s + 1).toNat = (e - s).toNat + 1 := by omega
  have hcast : ((s.toNat : ℕ) : ℤ) = s := Int.toNat_of_nonneg hs
  rw [hlen, List.range'_succ, List.foldl_cons, hcast, List.range'_eq_map_range, List.foldl_map,
    List.foldl_map]
  congr 1
  funext p i
  congr 1
  omega

/-! ## The index -/

/-- Every bin holds the activations of `l` that meet its 100 ms. -/
def Indexes (p : Profiling) (l : List SpanActivation) : Prop :=
  HasPeriod p ∧ ∀ n : ℕ, binContents p n =
    bucketOf SpanActivation.startTime SpanActivation.endTime (activationBinIndex p) n l

theorem indexes_nil (p : Profiling) (h : p.activationPeriod = [newActivationPeriod]) :
    Indexes p [] := by
  refine ⟨by simp [HasPeriod, h], fun n => ?_⟩
  unfold binContents
  rw [h]
  rcases n / kBinsPerActivationPeriod with _ | i
  · exact newActivationPeriod_bins _
  · rfl

theorem indexes_insertActivation (p : Profiling) (l : List SpanActivation) (a : SpanActivation)
    (h : Indexes p l) (hs : p.startTime ≤ a.startTime) (hse : a.startTime ≤ a.endTime) :
    Indexes (insertActivation p a) (l ++ [a]) ∧
      (insertActivation p a).startTime = p.startTime := by
  obtain ⟨hperiod, hbins⟩ := h
  have hfirst := activationBinIndex_nonneg p a.startTime hs
  have hlast := activationBinIndex_mono p hse
  rw [insertActivation_eq p a hs hse]
  obtain ⟨hperiod', hstart, hbins'⟩ := insertAt_foldl a _ (List.nodup_range' (s := _))
    { p with inserted := p.inserted ++ [a] } hperiod
  have hold : ∀ n, binContents { p with inserted := p.inserted ++ [a] } n = binContents p n :=
    fun _ => rfl
  refine ⟨⟨hperiod', fun n => ?_⟩, hstart⟩
  rw [hbins', hold, hbins, activationBinIndex_congr (p := p) hstart, bucketOf_append_singleton]
  congr 1
  rw [List.mem_range'_1, eq_iff_iff]
  omega

theorem closer_eq (ts : ℤ) :
    closer ts = closest SpanActivation.startTime SpanActivation.endTime ts := by
  funext t a
  unfold closer closest
  by_cases h : a.startTime ≤ ts ∧ ts ≤ a.endTime
  · have hactive : isActiveAt ts a = true := decide_eq_true h
    rw [if_pos hactive, if_pos (show Stabs _ _ ts a from h)]
    rcases t with _ | b
    · rfl
    · by_cases hlt : b.startTime < a.startTime
      · simp only [gt_iff_lt, if_pos hlt]
      · simp only [gt_iff_lt, if_neg hlt]
  · have hactive : ¬ isActiveAt ts a = true := by simpa [isActiveAt] using h
    rw [if_neg hactive, if_neg (show ¬ Stabs _ _ ts a from h)]

theorem findClosestActivation_fst (p : Profiling) (ts : ℤ) (h : p.startTime ≤ ts) :
    (findClosestActivation p ts).1 =
      (binContents p (activationBinIndex p ts).toNat).foldl
        (closest SpanActivation.startTime SpanActivation.endTime ts) none := by
  have hindex : ((activationBinIndex p ts).toNat : ℤ) = activationBinIndex p ts :=
    Int.toNat_of_nonneg (activationBinIndex_nonneg p ts h)
  rw [← readBin_getActivationBin, hindex, List.foldl_flatten]
  unfold findClosestActivation
  simp only
  rw [closer_eq]

theorem findClosestActivation_innermost (p : Profiling) (l : List SpanActivation) (ts : ℤ)
    (hl : Indexes p l) (h : p.startTime ≤ ts) :
    IsInnermost SpanActivation.startTime SpanActivation.endTime ts l
      (findClosestActivation p ts).1 := by
  have hindex : ((activationBinIndex p ts).toNat : ℤ) = activationBinIndex p ts :=
    Int.toNat_of_nonneg (activationBinIndex_nonneg p ts h)
  rw [findClosestActivation_fst p ts h, hl.2, hindex]
  apply IsInnermost.of_bucket (activationBinIndex_mono p)
  apply isInnermost_foldl

theorem indexes_findClosestActivation (p : Profiling) (l : List SpanActivation) (ts : ℤ)
    (h : Indexes p l) : Indexes (findClosestActivation p ts).2 l := by
  obtain ⟨hperiod, hbins⟩ := h
  refine ⟨hasPeriod_getActivationBin p hperiod _, fun n => ?_⟩
  exact (binContents_getActivationBin p _ n).trans (hbins n)

theorem indexes_foldl (p : Profiling) (done l : List SpanActivation) (h : Indexes p done)
    (hl : ∀ a ∈ l, p.startTime ≤ a.startTime ∧ a.startTime ≤ a.endTime) :
    Indexes (l.foldl insertActivation p) (done ++ l) ∧
      (l.foldl insertActivation p).startTime = p.startTime := by
  induction l generalizing p done with
  | nil => exact ⟨by rwa [List.append_nil], rfl⟩
  | cons a l ih =>
    obtain ⟨⟨hs, hse⟩, hl⟩ := List.forall_mem_cons.mp hl
    obtain ⟨hnext, hstart⟩ := indexes_insertActivation p done a h hs hse
    rw [List.foldl_cons, List.append_cons, ← hstart]
    exact ih (insertActivation p a) (done ++ [a]) hnext (by rwa [hstart])

/-- **The index agrees with a scan.** A lookup finds, among the activations inserted, one that
contains the timestamp and begins last, and it finds none exactly when none contains it. -/
theorem findClosestActivation_spec (p : Profiling) (l : List SpanActivation) (ts : ℤ)
    (hp : p.activationPeriod = [newActivationPeriod])
    (hl : ∀ a ∈ l, p.startTime ≤ a.startTime ∧ a.startTime ≤ a.endTime) (hts : p.startTime ≤ ts) :
    (∀ a, (findClosestActivation (l.foldl insertActivation p) ts).1 = some a →
      a ∈ l ∧ (a.startTime ≤ ts ∧ ts ≤ a.endTime) ∧
        ∀ b ∈ l, b.startTime ≤ ts ∧ ts ≤ b.endTime → b.startTime ≤ a.startTime) ∧
    ((findClosestActivation (l.foldl insertActivation p) ts).1 = none ↔
      ∀ a ∈ l, ¬ (a.startTime ≤ ts ∧ ts ≤ a.endTime)) := by
  obtain ⟨hindex, hstart⟩ := indexes_foldl p [] l (indexes_nil p hp) hl
  have h := findClosestActivation_innermost _ _ ts hindex (by rwa [hstart])
  refine ⟨fun a ha => ?_, h.eq_none_iff⟩
  rw [ha] at h
  exact h

/-- A span of 40 s that reaches into the second period, and one nested in it. -/
def outerSpan : SpanActivation := ⟨"a", "1", 0, 40000000000⟩

def nestedSpan : SpanActivation := ⟨"a", "2", 39000000000, 39500000000⟩

theorem findClosestActivation_nested :
    (findClosestActivation ([nestedSpan, outerSpan].foldl insertActivation
      (profilingReset .zero)) 39200000000).1 = some nestedSpan := by
  obtain ⟨hsome, hnone⟩ := findClosestActivation_spec (profilingReset .zero)
    [nestedSpan, outerSpan] 39200000000 rfl (by decide) (by decide)
  rcases h : (findClosestActivation _ _).1 with _ | a
  · exact absurd (by decide) (hnone.mp h nestedSpan (by decide))
  · obtain ⟨hmem, -, hmax⟩ := hsome a h
    have hlate := hmax nestedSpan (by decide) (by decide)
    rcases List.mem_pair.mp hmem with rfl | rfl
    · rfl
    · exact absurd hlate (by decide)

end SplunkOtel.Native
