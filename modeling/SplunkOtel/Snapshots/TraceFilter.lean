import SplunkOtel.Snapshots.Profiler

/-!
# The trace id filter and the traces in flight

The native filter is a set of trace ids, but begin and end are counted per span, and several
spans of one trace can be in flight at once.
-/

open Lib Lib.Run

namespace SplunkOtel.Snapshots.TraceFilter

open Js SnapshotProfiler

/-- The callbacks are called by the span processor alone. -/
def spanStep (p : SnapshotProfiler) : Event → Option SnapshotProfiler
  | .traceSnapshotBegin _ => none
  | .traceSnapshotEnd _ => none
  | e => step p e

/-- While the profiler is active, the filter holds the trace ids of the spans in flight, and each
of these spans is counted once. -/
def FilterExact (p : SnapshotProfiler) : Prop :=
  p.active →
    (∀ traceId, traceId ∈ p.native.traceIdFilter ↔ traceId ∈ p.snapshotSpans.values) ∧
      p.activeSnapshots = p.snapshotSpans.size

/-- A span that starts has an id of its own, and a span that ends is the last one in flight of
its trace. -/
def TraceAlone (p : SnapshotProfiler) : Event → Prop
  | .onStart span parent =>
    p.active → selected parent → p.snapshotSpans.get? span.spanId = none
  | .onEnd spanId => ∀ traceId ∈ p.snapshotSpans.get? spanId,
    ∀ e ∈ p.snapshotSpans.entries, e.2 = traceId → e.1 = spanId
  | _ => True

/-- A profiler that is off has no span in flight and nothing in its filter. -/
def FilterInv (p : SnapshotProfiler) : Prop :=
  FilterExact p ∧ (p.active = false →
    p.snapshotSpans.entries = [] ∧ p.native.traceIdFilter = [] ∧ p.activeSnapshots = 0)

theorem new_inv (ms : Number) (active : Bool) : FilterInv (new ms active) := by
  have hempty : (∅ : OrderedMap String String).entries = [] := rfl
  simp [FilterInv, FilterExact, new, OrderedMap.values, OrderedMap.size, hempty]

theorem FilterInv.of_eq {p p' : SnapshotProfiler} (h : FilterInv p) (ha : p'.active = p.active)
    (hs : p'.snapshotSpans = p.snapshotSpans)
    (hf : p'.native.traceIdFilter = p.native.traceIdFilter)
    (hn : p'.activeSnapshots = p.activeSnapshots) : FilterInv p' := by
  unfold FilterInv FilterExact at *
  rw [ha, hs, hf, hn]
  exact h

/-! ## One step -/

theorem mem_addTraceIdFilter {n : NativeProfiler} {traceId t : String} :
    t ∈ (n.addTraceIdFilter traceId).startCpuProfiler.traceIdFilter ↔
      t = traceId ∨ t ∈ n.traceIdFilter := by
  rw [startCpuProfiler_filter, NativeProfiler.addTraceIdFilter]
  exact List.mem_insert_iff

theorem onStart_active (p : SnapshotProfiler) (span : Span) (parent : ParentContext)
    (ha : p.active = true) (hsel : selected parent = true) :
    let p' := p.onStart span parent
    p'.active = true ∧ p'.activeSnapshots = p.activeSnapshots + 1 ∧
      p'.snapshotSpans = p.snapshotSpans.set span.spanId span.traceId ∧
      p'.native = (p.native.addTraceIdFilter span.traceId).startCpuProfiler := by
  obtain ⟨x, hx⟩ := syncExporter_eq p
  simp [onStart, traceSnapshotBegin, ha, hsel, hx]

theorem onStart_idle (p : SnapshotProfiler) (span : Span) (parent : ParentContext)
    (h : ¬ (p.active ∧ selected parent)) : p.onStart span parent = p := by
  unfold onStart traceSnapshotBegin
  cases hsel : selected parent <;> cases ha : p.active <;> simp_all

theorem onStart_inv (p : SnapshotProfiler) (span : Span) (parent : ParentContext)
    (h : FilterInv p) (hc : TraceAlone p (.onStart span parent)) :
    FilterInv (p.onStart span parent) := by
  by_cases hon : p.active ∧ selected parent
  · obtain ⟨ha', hn, hs, hf⟩ := onStart_active p span parent hon.1 hon.2
    obtain ⟨hfilter, hcount⟩ := h.1 hon.1
    have hnew := hc hon.1 hon.2
    refine ⟨fun _ => ⟨fun t => ?_, ?_⟩, fun ha => ?_⟩
    · rw [hf, hs, mem_addTraceIdFilter, hfilter, OrderedMap.values_set_new hnew]
      simp [or_comm]
    · rw [hn, hs, hcount, OrderedMap.size_set_new hnew]
    · rw [ha'] at ha
      cases ha
  · rw [onStart_idle p span parent hon]
    exact h

theorem traceSnapshotEnd_frame (p : SnapshotProfiler) (traceId : String) :
    let p' := p.traceSnapshotEnd traceId
    p'.active = p.active ∧ p'.activeSnapshots = p.activeSnapshots - 1 ∧
      p'.native = p.native.removeTraceIdFilter traceId := by
  unfold traceSnapshotEnd
  simp only [clearStopTimeout_eq]
  split <;> simp [armStopTimeout]

theorem onEnd_flight (p : SnapshotProfiler) (spanId traceId : String)
    (hget : p.snapshotSpans.get? spanId = some traceId) :
    let p' := p.onEnd spanId
    p'.active = p.active ∧ p'.activeSnapshots = p.activeSnapshots - 1 ∧
      p'.snapshotSpans = p.snapshotSpans.delete spanId ∧
      p'.native = p.native.removeTraceIdFilter traceId := by
  obtain ⟨ha, hn, hf⟩ := traceSnapshotEnd_frame p traceId
  have hs : (p.traceSnapshotEnd traceId).snapshotSpans = p.snapshotSpans := by
    unfold traceSnapshotEnd
    simp only [clearStopTimeout_eq]
    split <;> rfl
  unfold onEnd
  simp only [hget, hs]
  exact ⟨ha, hn, trivial, hf⟩

theorem mem_removeTraceIdFilter {n : NativeProfiler} {traceId t : String} :
    t ∈ (n.removeTraceIdFilter traceId).traceIdFilter ↔ t ∈ n.traceIdFilter ∧ t ≠ traceId := by
  simp [NativeProfiler.removeTraceIdFilter]

theorem onEnd_inv (p : SnapshotProfiler) (spanId : String) (h : FilterInv p)
    (hc : TraceAlone p (.onEnd spanId)) : FilterInv (p.onEnd spanId) := by
  cases hget : p.snapshotSpans.get? spanId with
  | none =>
    rw [onEnd, hget]
    exact h
  | some traceId =>
    obtain ⟨ha', hn, hs, hf⟩ := onEnd_flight p spanId traceId hget
    have hmem := OrderedMap.get?_eq_some.mp hget
    refine ⟨fun ha => ⟨fun t => ?_, ?_⟩, fun ha => ?_⟩
    · rw [ha'] at ha
      rw [hf, mem_removeTraceIdFilter, (h.1 ha).1, hs, OrderedMap.mem_values_delete,
        OrderedMap.values, List.mem_map]
      constructor
      · rintro ⟨⟨⟨k', t'⟩, hm, rfl⟩, hne⟩
        refine ⟨k', hm, fun hk => hne ?_⟩
        exact OrderedMap.entries_inj (hk ▸ hm) hmem
      · rintro ⟨k', hm, hk⟩
        refine ⟨⟨(k', t), hm, rfl⟩, fun ht => hk ?_⟩
        exact hc traceId hget (k', t) hm ht
    · rw [ha'] at ha
      rw [hn, (h.1 ha).2, hs, ← OrderedMap.size_delete hget, Nat.add_sub_cancel]
    · rw [ha'] at ha
      rw [(h.2 ha).1] at hmem
      cases hmem

theorem setActive_inv (p : SnapshotProfiler) (active : Bool) (stacktraces : Option ℕ)
    (h : FilterInv p) : FilterInv (p.setActive active stacktraces) := by
  unfold setActive
  split
  · exact h
  rename_i hne
  cases active with
  | true =>
    obtain ⟨hs, hf, hn⟩ := h.2 (by simpa using hne)
    simp only [↓reduceIte]
    simp [FilterInv, FilterExact, OrderedMap.values, OrderedMap.size, hs, hf, hn]
  | false =>
    have hon : p.active = true := by simpa using hne
    simp only [Bool.false_eq_true, ↓reduceIte, clearStopTimeout_eq, clearActiveSnapshots_eq]
    apply Exists.elim (exportProfile_eq _ _)
    intro l hl
    rw [hl]
    -- Everything in the filter is the trace id of a span in flight.
    have hnil : p.native.traceIdFilter.filter (· ∉ p.snapshotSpans.values) = [] := by
      rw [List.filter_eq_nil_iff]
      intro t ht
      simpa using ((h.1 hon).1 t).mp ht
    unfold FilterInv FilterExact
    refine ⟨fun ha => ?_, fun _ => ⟨rfl, hnil, rfl⟩⟩
    cases ha

theorem step_inv (p : SnapshotProfiler) (e : Event) (p' : SnapshotProfiler) (h : FilterInv p)
    (hc : TraceAlone p e) (hs : spanStep p e = some p') : FilterInv p' := by
  cases e with
  | traceSnapshotBegin | traceSnapshotEnd => cases hs
  | onStart span parent => cases hs; exact onStart_inv p span parent h hc
  | onEnd spanId => cases hs; exact onEnd_inv p spanId h hc
  | lingerFires t stacktraces =>
    simp only [spanStep, step] at hs
    split at hs <;> cases hs
    unfold lingerFires
    simp only
    obtain ⟨l, hl⟩ := exportProfile_eq
      { p with timers := p.timers.filter (· ≠ t), native := p.native.stop }
      (p.native.profile stacktraces)
    rw [hl]
    exact h.of_eq rfl rfl rfl rfl
  | lingerDone | createExporter =>
    simp only [spanStep, step] at hs
    split at hs <;> cases hs
    exact h.of_eq rfl rfl rfl rfl
  | setActive active stacktraces => cases hs; exact setActive_inv p active stacktraces h
  | setSamplingInterval ms =>
    cases hs
    unfold setSamplingInterval
    split <;> exact h.of_eq rfl rfl rfl rfl
  | collectionLoop stacktraces =>
    cases hs
    unfold collectionLoop
    split
    · exact h
    · obtain ⟨l, hl⟩ := exportProfile_eq p (p.native.profile stacktraces)
      rw [hl]
      exact h.of_eq rfl rfl rfl rfl

/-- A span that ends takes the trace out of the filter for the others too, and a span id that is
in flight already is counted twice. -/
theorem shared_breaks (p : SnapshotProfiler) (e : Event) (p' : SnapshotProfiler) (h : FilterInv p)
    (hc : ¬ TraceAlone p e) (hs : spanStep p e = some p') : ¬ FilterExact p' := by
  cases e with
  | onStart span parent =>
    cases hs
    simp only [TraceAlone, Classical.not_imp] at hc
    obtain ⟨ha, hsel, hget⟩ := hc
    obtain ⟨ha', hn, hs, -⟩ := onStart_active p span parent ha hsel
    intro hexact
    have := (hexact ha').2
    rw [hn, hs, OrderedMap.size_set_old hget, (h.1 ha).2] at this
    omega
  | onEnd spanId =>
    cases hs
    simp only [TraceAlone, not_forall, Option.mem_def] at hc
    obtain ⟨traceId, hget, ⟨k', t⟩, hm, rfl, hk⟩ := hc
    obtain ⟨ha', -, hs, hf⟩ := onEnd_flight p spanId t hget
    have hon : p.active = true := by
      by_contra hoff
      rw [(h.2 (by simpa using hoff)).1] at hm
      cases hm
    intro hexact
    have hin : t ∈ (p.onEnd spanId).snapshotSpans.values := by
      rw [hs]
      exact OrderedMap.mem_values_delete.mpr ⟨k', hm, hk⟩
    have := ((hexact (ha'.trans hon)).1 t).mpr hin
    rw [hf, mem_removeTraceIdFilter] at this
    exact this.2 rfl
  | _ => exact absurd trivial hc

/-! ## Runs -/

/-- **The trace filter.** In a run the filter of an active profiler covers exactly the traces in
flight, and each span is counted once, exactly when every span that starts has an id of its own and
every span that ends is the last one in flight of its trace. -/
theorem filter_exact_iff (ms : Number) (active : Bool) (es : List Event) :
    Always spanStep FilterExact (new ms active) es ↔
      Along spanStep TraceAlone (new ms active) es :=
  always_iff_along (fun _ h => h.1) step_inv shared_breaks es _ (new_inv ms active)

def remoteParent : ParentContext := ⟨some true, some (some "highest")⟩

/-- Two spans of one trace are in flight, and one of them ends. -/
theorem end_of_shared_trace :
    ¬ Always spanStep FilterExact (new 1 true)
      [.onStart ⟨"s1", "t"⟩ remoteParent, .onStart ⟨"s2", "t"⟩ remoteParent, .onEnd "s1"] := by
  intro h
  have hexact := h.2.2.2
  have : "t" ∈ ([] : List String) := ((hexact rfl).1 "t").mpr (by decide)
  cases this

end SplunkOtel.Snapshots.TraceFilter
