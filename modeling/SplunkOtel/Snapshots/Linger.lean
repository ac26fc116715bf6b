import SplunkOtel.Snapshots.Profiler

/-!
# The linger timer and the running profiler

When the last snapshot ends, a timer is armed that stops the native profiler later. The profiler
has to outlive every snapshot in progress, and no timer may be lost track of.
-/

open Lib.Run

namespace SplunkOtel.Snapshots.Linger

open Js SnapshotProfiler

/-- A snapshot in progress keeps the native profiler running, and the one armed timer there can be
is the one that `stopTimeout` holds. -/
def LingerSound (p : SnapshotProfiler) : Prop :=
  (p.active → 0 < p.activeSnapshots → p.native.running) ∧
    p.timers.length ≤ 1 ∧ ∀ t ∈ p.timers, p.stopTimeout = some t

instance : DecidablePred LingerSound := fun _ => inferInstanceAs (Decidable (_ ∧ _))

/-- No timer fires while a snapshot is in progress, and no callback of an old timer finishes while
a new one is armed. -/
def LingerUndisturbed (p : SnapshotProfiler) : Event → Prop
  | .lingerFires _ _ => p.active → p.activeSnapshots = 0
  | .lingerDone => p.timers = []
  | _ => True

def LingerInv (p : SnapshotProfiler) : Prop :=
  LingerSound p ∧ (p.active = false → p.activeSnapshots = 0)

theorem new_inv (ms : Number) (active : Bool) : LingerInv (new ms active) := by
  simp [LingerInv, LingerSound, new]

/-! ## One step -/

theorem traceSnapshotBegin_inv (p : SnapshotProfiler) (traceId : String) (h : LingerInv p) :
    LingerInv (p.traceSnapshotBegin traceId).1 := by
  unfold traceSnapshotBegin
  obtain ⟨x, hx⟩ := syncExporter_eq p
  split
  · exact h
  · rename_i hactive
    simp only [not_not] at hactive
    obtain ⟨⟨_, htimers, hheld⟩, _⟩ := h
    simp only [hx]
    refine ⟨⟨fun _ _ => startCpuProfiler_running _, htimers, hheld⟩, ?_⟩
    simp [hactive]

theorem clearStopTimeout_held (p : SnapshotProfiler) (h : ∀ t ∈ p.timers, p.stopTimeout = some t) :
    p.clearStopTimeout = { p with timers := [], stopTimeout := none } := by
  have hnil : p.timers.filter (p.stopTimeout ≠ some ·) = [] := by
    rw [List.filter_eq_nil_iff]
    intro t ht
    simp [h t ht]
  rw [clearStopTimeout_eq, hnil]

theorem traceSnapshotEnd_inv (p : SnapshotProfiler) (traceId : String) (h : LingerInv p) :
    LingerInv (p.traceSnapshotEnd traceId) := by
  obtain ⟨⟨hrun, _, hheld⟩, hoff⟩ := h
  have hclear := clearStopTimeout_held
    { p with
      activeSnapshots := p.activeSnapshots - 1
      native := p.native.removeTraceIdFilter traceId } hheld
  unfold traceSnapshotEnd
  simp only [hclear]
  split <;> rename_i hzero
  · simp [LingerInv, LingerSound, armStopTimeout, hzero]
  · refine ⟨⟨fun ha _ => hrun ha (by omega), by simp, by simp⟩, fun ha => ?_⟩
    simp only at ha ⊢
    rw [hoff ha]

theorem lingerFires_inv (p : SnapshotProfiler) (t : ℕ) (stacktraces : Option ℕ) (h : LingerInv p)
    (hc : p.active → p.activeSnapshots = 0) : LingerInv (p.lingerFires t stacktraces) := by
  obtain ⟨⟨_, hlen, hheld⟩, hoff⟩ := h
  unfold lingerFires
  simp only
  obtain ⟨l, hl⟩ := exportProfile_eq
    { p with timers := p.timers.filter (· ≠ t), native := p.native.stop }
    (p.native.profile stacktraces)
  rw [hl]
  refine ⟨⟨fun ha hpos => ?_, ?_, ?_⟩, hoff⟩
  · have := hc ha
    simp only at hpos
    omega
  · exact le_trans (List.length_filter_le _ _) hlen
  · intro u hu
    exact hheld u (List.mem_of_mem_filter hu)

theorem setActive_inv (p : SnapshotProfiler) (active : Bool) (stacktraces : Option ℕ)
    (h : LingerInv p) : LingerInv (p.setActive active stacktraces) := by
  unfold setActive
  split
  · exact h
  rename_i hne
  cases active with
  | true =>
    have hoff : p.active = false := by simpa using hne
    obtain ⟨⟨_, hlen, hheld⟩, hzero⟩ := h
    simp only [↓reduceIte]
    refine ⟨⟨fun _ hpos => ?_, hlen, hheld⟩, by simp⟩
    have := hzero hoff
    simp only at hpos
    omega
  | false =>
    have hclear := clearStopTimeout_held { p with active := false } h.1.2.2
    simp only [Bool.false_eq_true, ↓reduceIte, hclear, clearActiveSnapshots_eq]
    apply Exists.elim (exportProfile_eq _ _)
    intro l hl
    rw [hl]
    simp [LingerInv, LingerSound]

theorem collectionLoop_inv (p : SnapshotProfiler) (stacktraces : Option ℕ) (h : LingerInv p) :
    LingerInv (p.collectionLoop stacktraces) := by
  unfold collectionLoop
  split
  · exact h
  · obtain ⟨l, hl⟩ := exportProfile_eq p (p.native.profile stacktraces)
    rw [hl]
    exact h

theorem setSamplingInterval_inv (p : SnapshotProfiler) (ms : Number) (h : LingerInv p) :
    LingerInv (p.setSamplingInterval ms) := by
  unfold setSamplingInterval
  split <;> exact h

theorem onStart_inv (p : SnapshotProfiler) (span : Span) (parent : ParentContext)
    (h : LingerInv p) : LingerInv (p.onStart span parent) := by
  have hbegin := traceSnapshotBegin_inv p span.traceId h
  unfold onStart
  split
  · exact h
  · simp only
    split <;> exact hbegin

theorem onEnd_inv (p : SnapshotProfiler) (spanId : String) (h : LingerInv p) :
    LingerInv (p.onEnd spanId) := by
  unfold onEnd
  split
  · exact h
  · exact traceSnapshotEnd_inv p _ h

theorem step_inv (p : SnapshotProfiler) (e : Event) (p' : SnapshotProfiler) (h : LingerInv p)
    (hc : LingerUndisturbed p e) (hs : step p e = some p') : LingerInv p' := by
  cases e with
  | traceSnapshotBegin traceId => cases hs; exact traceSnapshotBegin_inv p traceId h
  | traceSnapshotEnd traceId => cases hs; exact traceSnapshotEnd_inv p traceId h
  | onStart span parent => cases hs; exact onStart_inv p span parent h
  | onEnd spanId => cases hs; exact onEnd_inv p spanId h
  | lingerFires t stacktraces =>
    simp only [step] at hs
    split at hs <;> cases hs
    exact lingerFires_inv p t stacktraces h hc
  | lingerDone =>
    simp only [step] at hs
    split at hs <;> cases hs
    simp only [LingerUndisturbed] at hc
    obtain ⟨⟨hrun, _, _⟩, hoff⟩ := h
    exact ⟨⟨hrun, by simp [lingerDone, hc], by simp [lingerDone, hc]⟩, hoff⟩
  | setActive active stacktraces => cases hs; exact setActive_inv p active stacktraces h
  | setSamplingInterval ms => cases hs; exact setSamplingInterval_inv p ms h
  | collectionLoop stacktraces => cases hs; exact collectionLoop_inv p stacktraces h
  | createExporter =>
    simp only [step] at hs
    split at hs <;> cases hs
    exact h

/-- A timer that fires during a snapshot stops the profiler under it, and a callback that finishes
drops the handle of the timer that was armed meanwhile. -/
theorem disturbed_breaks (p : SnapshotProfiler) (e : Event) (p' : SnapshotProfiler)
    (_ : LingerInv p) (hc : ¬ LingerUndisturbed p e) (hs : step p e = some p') :
    ¬ LingerSound p' := by
  rintro ⟨hrun, _, hheld⟩
  cases e with
  | lingerFires t stacktraces =>
    simp only [step] at hs
    split at hs <;> cases hs
    simp only [LingerUndisturbed, Classical.not_imp] at hc
    unfold lingerFires at hrun
    simp only at hrun
    obtain ⟨l, hl⟩ := exportProfile_eq
      { p with timers := p.timers.filter (· ≠ t), native := p.native.stop }
      (p.native.profile stacktraces)
    rw [hl] at hrun
    have := hrun hc.1 (Nat.pos_of_ne_zero hc.2)
    cases this
  | lingerDone =>
    simp only [step] at hs
    split at hs <;> cases hs
    simp only [LingerUndisturbed] at hc
    obtain ⟨t, ht⟩ := List.exists_mem_of_ne_nil _ hc
    have := hheld t ht
    cases this
  | _ => exact hc trivial

/-! ## Runs -/

/-- **The linger timer.** In a run of the profiler every snapshot in progress keeps the native
profiler running and every armed timer is held, exactly when no timer fires during a snapshot and
no callback of an old timer finishes while a new one is armed. -/
theorem linger_sound_iff (ms : Number) (active : Bool) (es : List Event) :
    Always step LingerSound (new ms active) es ↔ Along step LingerUndisturbed (new ms active) es :=
  always_iff_along (fun _ h => h.1) step_inv disturbed_breaks es _ (new_inv ms active)

theorem begin_during_linger :
    ¬ Always step LingerSound (new 1 true)
      [.traceSnapshotBegin "a", .traceSnapshotEnd "a", .traceSnapshotBegin "b",
        .lingerFires 0 none] := by
  decide

end SplunkOtel.Snapshots.Linger
