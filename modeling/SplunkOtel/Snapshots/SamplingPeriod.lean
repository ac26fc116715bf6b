import SplunkOtel.Snapshots.Profiler

/-!
# The sampling period of an exported profile

A new interval waits until the native profiler starts its next session, and what the exporter
reports has to follow at just that point. `traceSnapshotBegin` guesses the point from the number of
snapshots and the handle of the linger timer.
-/

open Lib.Run

namespace SplunkOtel.Snapshots.SamplingPeriod

open Js SnapshotProfiler

/-- Every exported profile reports the interval of the session that collected it. -/
def ExportsMatch (p : SnapshotProfiler) : Prop :=
  ∀ e ∈ p.exported, e.samplingPeriodMillis = e.profile.intervalMs

instance : DecidablePred ExportsMatch := fun _ => inferInstanceAs (Decidable (∀ _ ∈ _, _))

/-- So does the profile that the collection loop would export next. -/
def PeriodsMatch (p : SnapshotProfiler) : Prop :=
  ∀ stacktraces, ExportsMatch (p.collectionLoop stacktraces)

/-- The profiler looks as if it had stopped: `traceSnapshotBegin` takes it for a fresh start. -/
def LooksStopped (p : SnapshotProfiler) : Prop := p.activeSnapshots = 0 ∧ p.stopTimeout = none

instance : DecidablePred LooksStopped := fun _ => inferInstanceAs (Decidable (_ ∧ _))

/-- A snapshot that begins finds the profiler stopped exactly when it looks so, or the interval that
counts has not changed. -/
def BeginsInSync (p : SnapshotProfiler) : Prop :=
  p.active → ∀ period ∈ p.exporter,
    if p.native.running then LooksStopped p → p.samplingIntervalMs = p.native.sessionIntervalMs
    else ¬ LooksStopped p → period = p.samplingIntervalMs

/-- Snapshots begin in sync, and the exporter is not created in a session that runs with an interval
which has changed since. -/
def StartsInSync (p : SnapshotProfiler) : Event → Prop
  | .traceSnapshotBegin _ => BeginsInSync p
  | .onStart _ parent => selected parent → BeginsInSync p
  | .createExporter => p.native.running → p.samplingIntervalMs = p.native.sessionIntervalMs
  | _ => True

/-! ## The invariant -/

/-- The exporter reports the interval of the session that runs. -/
def Synced (p : SnapshotProfiler) : Prop :=
  p.native.running → ∀ period ∈ p.exporter, period = p.native.sessionIntervalMs

structure Sound (p : SnapshotProfiler) : Prop where
  exported : ExportsMatch p
  interval : p.native.samplingIntervalMs = p.samplingIntervalMs
  active : p.native.running → p.active

def Inv (p : SnapshotProfiler) : Prop := Sound p ∧ Synced p

theorem new_inv (ms : Number) (active : Bool) : Inv (new ms active) := by
  refine ⟨⟨?_, rfl, ?_⟩, ?_⟩
  · simp [ExportsMatch, new]
  · simp [new]
  · simp [Synced, new]

theorem mem_profile {n : NativeProfiler} {stacktraces : Option ℕ} {profile : CpuProfile}
    (h : profile ∈ n.profile stacktraces) :
    n.running ∧ profile.intervalMs = n.sessionIntervalMs := by
  unfold NativeProfiler.profile at h
  split at h
  · rename_i hrun
    obtain ⟨k, _, rfl⟩ := Option.map_eq_some_iff.mp h
    exact ⟨hrun, rfl⟩
  · cases h

theorem mem_exported {p : SnapshotProfiler} {profile : Option CpuProfile} {e : Export}
    (h : e ∈ (p.exportProfile profile).exported) :
    e ∈ p.exported ∨ e.profile ∈ profile ∧ e.samplingPeriodMillis ∈ p.exporter := by
  unfold exportProfile at h
  split at h
  · rename_i q period hperiod
    split at h
    · simp only [List.mem_append, List.mem_singleton] at h
      rcases h with h | rfl
      · exact Or.inl h
      · exact Or.inr ⟨rfl, hperiod⟩
    · exact Or.inl h
  · exact Or.inl h

/-- The exports of a profiler that is in sync. `q` is the profiler at the export, which may have
been stopped since `p`. -/
theorem exports_match {p q : SnapshotProfiler} (h : Inv p) (hexported : q.exported = p.exported)
    (hexporter : q.exporter = p.exporter) (stacktraces : Option ℕ) :
    ExportsMatch (q.exportProfile (p.native.profile stacktraces)) := by
  intro e he
  rcases mem_exported he with he | ⟨hprofile, hperiod⟩
  · rw [hexported] at he
    exact h.1.exported e he
  · obtain ⟨hrun, hinterval⟩ := mem_profile hprofile
    rw [hexporter] at hperiod
    rw [hinterval]
    exact h.2 hrun _ hperiod

theorem Inv.periodsMatch {p : SnapshotProfiler} (h : Inv p) : PeriodsMatch p := by
  intro stacktraces
  unfold collectionLoop
  split
  · exact h.1.exported
  · exact exports_match h rfl rfl stacktraces

theorem PeriodsMatch.synced {p : SnapshotProfiler} (h : PeriodsMatch p)
    (hactive : p.native.running → p.active) : Synced p := by
  intro hrun period hperiod
  have hloop := h (some 1) ⟨⟨1, p.native.sessionIntervalMs⟩, period⟩
  apply hloop
  rw [Option.mem_def] at hperiod
  simp [collectionLoop, hactive hrun, exportProfile, NativeProfiler.profile, hrun, hperiod]

/-! ## One step -/

theorem Inv.frame {p q : SnapshotProfiler} (h : Inv p)
    (hexported : ExportsMatch q) (hexporter : q.exporter = p.exporter)
    (hrun : q.native.running → p.native.running)
    (hsession : q.native.sessionIntervalMs = p.native.sessionIntervalMs)
    (hinterval : q.native.samplingIntervalMs = q.samplingIntervalMs)
    (hactive : q.native.running → q.active) : Inv q := by
  refine ⟨⟨hexported, hinterval, hactive⟩, ?_⟩
  intro hq
  rw [hexporter, hsession]
  exact h.2 (hrun hq)

theorem startCpuProfiler_session (n : NativeProfiler) :
    n.startCpuProfiler.sessionIntervalMs =
      if n.running then n.sessionIntervalMs else n.samplingIntervalMs := by
  unfold NativeProfiler.startCpuProfiler
  split <;> rfl

theorem startCpuProfiler_interval (n : NativeProfiler) :
    n.startCpuProfiler.samplingIntervalMs = n.samplingIntervalMs := by
  unfold NativeProfiler.startCpuProfiler
  split <;> rfl

theorem begin_exporter (p : SnapshotProfiler) :
    p.syncExporter.exporter =
      if LooksStopped p then p.exporter.map fun _ => p.samplingIntervalMs else p.exporter := by
  unfold syncExporter
  by_cases hstopped : LooksStopped p
  · rw [if_pos hstopped, if_pos (by exact hstopped)]
  · rw [if_neg hstopped, if_neg (by exact hstopped)]

theorem traceSnapshotBegin_sound {p : SnapshotProfiler} (h : Sound p) (traceId : String) :
    Sound (p.traceSnapshotBegin traceId).1 := by
  unfold traceSnapshotBegin
  split
  · exact h
  · rename_i hactive
    obtain ⟨x, hx⟩ := syncExporter_eq p
    simp only [hx]
    refine ⟨h.exported, ?_, fun _ => by simpa using hactive⟩
    rw [startCpuProfiler_interval]
    exact h.interval

theorem traceSnapshotBegin_synced {p : SnapshotProfiler} (h : Inv p) (traceId : String) :
    Synced (p.traceSnapshotBegin traceId).1 ↔ BeginsInSync p := by
  unfold traceSnapshotBegin BeginsInSync
  split <;> rename_i hactive
  · exact iff_of_true h.2 fun ha => absurd ha hactive
  · simp only [not_not] at hactive
    have hexporter := begin_exporter p
    obtain ⟨x, hx⟩ := syncExporter_eq p
    simp only [hx] at hexporter ⊢
    unfold Synced
    simp only [startCpuProfiler_running, startCpuProfiler_session, hexporter, hactive,
      forall_const, NativeProfiler.addTraceIdFilter, h.1.interval]
    by_cases hstopped : LooksStopped p
    · cases hp : p.exporter <;> by_cases hrun : p.native.running <;> simp [hstopped, hrun]
    · by_cases hrun : p.native.running
      · simpa [hstopped, hrun] using h.2 hrun
      · simp [hstopped, hrun]

theorem traceSnapshotEnd_inv {p : SnapshotProfiler} (h : Inv p) (traceId : String) :
    Inv (p.traceSnapshotEnd traceId) := by
  unfold traceSnapshotEnd
  simp only [clearStopTimeout_eq]
  split
  · exact h.frame h.1.exported rfl id rfl h.1.interval h.1.active
  · exact h.frame h.1.exported rfl id rfl h.1.interval h.1.active

theorem lingerFires_inv {p : SnapshotProfiler} (h : Inv p) (t : ℕ) (stacktraces : Option ℕ) :
    Inv (p.lingerFires t stacktraces) := by
  have hmatch := exports_match (q := { p with
    timers := p.timers.filter (· ≠ t), native := p.native.stop }) h rfl rfl stacktraces
  unfold lingerFires
  simp only
  obtain ⟨l, hl⟩ := exportProfile_eq
    { p with timers := p.timers.filter (· ≠ t), native := p.native.stop }
    (p.native.profile stacktraces)
  rw [hl] at hmatch ⊢
  refine h.frame hmatch rfl ?_ rfl h.1.interval ?_
  · simp [NativeProfiler.stop]
  · simp [NativeProfiler.stop]

theorem setActive_inv {p : SnapshotProfiler} (h : Inv p) (active : Bool)
    (stacktraces : Option ℕ) : Inv (p.setActive active stacktraces) := by
  unfold setActive
  split
  · exact h
  cases active with
  | true => exact h.frame h.1.exported rfl id rfl h.1.interval fun _ => rfl
  | false =>
    simp only [Bool.false_eq_true, ↓reduceIte, clearStopTimeout_eq, clearActiveSnapshots_eq]
    generalize hq : SnapshotProfiler.mk .. = q
    have hmatch := exports_match (q := q) h (by rw [← hq]) (by rw [← hq]) stacktraces
    have hstopped : q.native.running = false := by rw [← hq]; rfl
    obtain ⟨l, hl⟩ := exportProfile_eq q (p.native.profile stacktraces)
    change Inv (q.exportProfile (p.native.profile stacktraces))
    rw [hl] at hmatch ⊢
    refine h.frame hmatch ?_ ?_ ?_ ?_ ?_
    · simp only [← hq]
    · simp [hstopped]
    · simp only [← hq, NativeProfiler.stop]
    · simpa only [← hq, NativeProfiler.stop] using h.1.interval
    · simp [hstopped]

theorem collectionLoop_inv {p : SnapshotProfiler} (h : Inv p) (stacktraces : Option ℕ) :
    Inv (p.collectionLoop stacktraces) := by
  have hmatch := h.periodsMatch stacktraces
  unfold collectionLoop at hmatch ⊢
  split at hmatch <;> rename_i hactive
  · rw [if_pos hactive]
    exact h
  · obtain ⟨l, hl⟩ := exportProfile_eq p (p.native.profile stacktraces)
    rw [if_neg hactive, hl]
    rw [hl] at hmatch
    exact h.frame hmatch rfl id rfl h.1.interval h.1.active

theorem setSamplingInterval_inv {p : SnapshotProfiler} (h : Inv p) (ms : Number) :
    Inv (p.setSamplingInterval ms) := by
  unfold setSamplingInterval
  split
  · exact h
  · exact h.frame h.1.exported rfl id rfl rfl h.1.active

theorem createExporter_synced (p : SnapshotProfiler) :
    Synced p.createExporter ↔
      (p.native.running → p.samplingIntervalMs = p.native.sessionIntervalMs) := by
  simp [Synced, createExporter]

theorem onStart_sound {p : SnapshotProfiler} (h : Sound p) (span : Span)
    (parent : ParentContext) : Sound (p.onStart span parent) := by
  have hbegin := traceSnapshotBegin_sound h span.traceId
  unfold onStart
  split
  · exact h
  · simp only
    split
    · exact ⟨hbegin.exported, hbegin.interval, hbegin.active⟩
    · exact hbegin

theorem onStart_synced {p : SnapshotProfiler} (h : Inv p) (span : Span) (parent : ParentContext) :
    Synced (p.onStart span parent) ↔ (selected parent → BeginsInSync p) := by
  rw [← traceSnapshotBegin_synced h span.traceId]
  unfold onStart
  split <;> rename_i hselected
  · exact iff_of_true h.2 fun hs => absurd hs hselected
  · simp only [not_not] at hselected
    simp only [hselected, forall_const]
    split <;> rfl

theorem onEnd_inv {p : SnapshotProfiler} (h : Inv p) (spanId : String) : Inv (p.onEnd spanId) := by
  unfold onEnd
  split
  · exact h
  · rename_i traceId _
    have hend := traceSnapshotEnd_inv h traceId
    exact hend.frame hend.1.exported rfl id rfl hend.1.interval hend.1.active

theorem step_sound {p q : SnapshotProfiler} {e : Event} (h : Inv p) (hs : step p e = some q) :
    Sound q := by
  cases e with
  | traceSnapshotBegin traceId => cases hs; exact traceSnapshotBegin_sound h.1 traceId
  | traceSnapshotEnd traceId => cases hs; exact (traceSnapshotEnd_inv h traceId).1
  | onStart span parent => cases hs; exact onStart_sound h.1 span parent
  | onEnd spanId => cases hs; exact (onEnd_inv h spanId).1
  | lingerFires t stacktraces =>
    simp only [step, Option.ite_none_right_eq_some, Option.some_inj] at hs
    obtain ⟨_, rfl⟩ := hs
    exact (lingerFires_inv h t stacktraces).1
  | lingerDone =>
    simp only [step, Option.ite_none_right_eq_some, Option.some_inj] at hs
    obtain ⟨_, rfl⟩ := hs
    exact ⟨h.1.exported, h.1.interval, h.1.active⟩
  | setActive active stacktraces => cases hs; exact (setActive_inv h active stacktraces).1
  | setSamplingInterval ms => cases hs; exact (setSamplingInterval_inv h ms).1
  | collectionLoop stacktraces => cases hs; exact (collectionLoop_inv h stacktraces).1
  | createExporter =>
    simp only [step, Option.ite_none_right_eq_some, Option.some_inj] at hs
    obtain ⟨_, rfl⟩ := hs
    exact ⟨h.1.exported, h.1.interval, h.1.active⟩

theorem step_synced {p q : SnapshotProfiler} {e : Event} (h : Inv p) (hs : step p e = some q) :
    Synced q ↔ StartsInSync p e := by
  cases e with
  | traceSnapshotBegin traceId => cases hs; exact traceSnapshotBegin_synced h traceId
  | traceSnapshotEnd traceId =>
    cases hs
    exact iff_of_true (traceSnapshotEnd_inv h traceId).2 trivial
  | onStart span parent => cases hs; exact onStart_synced h span parent
  | onEnd spanId =>
    cases hs
    exact iff_of_true (onEnd_inv h spanId).2 trivial
  | lingerFires t stacktraces =>
    simp only [step, Option.ite_none_right_eq_some, Option.some_inj] at hs
    obtain ⟨_, rfl⟩ := hs
    exact iff_of_true (lingerFires_inv h t stacktraces).2 trivial
  | lingerDone =>
    simp only [step, Option.ite_none_right_eq_some, Option.some_inj] at hs
    obtain ⟨_, rfl⟩ := hs
    exact iff_of_true h.2 trivial
  | setActive active stacktraces =>
    cases hs
    exact iff_of_true (setActive_inv h active stacktraces).2 trivial
  | setSamplingInterval ms =>
    cases hs
    exact iff_of_true (setSamplingInterval_inv h ms).2 trivial
  | collectionLoop stacktraces =>
    cases hs
    exact iff_of_true (collectionLoop_inv h stacktraces).2 trivial
  | createExporter =>
    simp only [step, Option.ite_none_right_eq_some, Option.some_inj] at hs
    obtain ⟨_, rfl⟩ := hs
    exact createExporter_synced p

theorem step_inv (p : SnapshotProfiler) (e : Event) (q : SnapshotProfiler) (h : Inv p)
    (hc : StartsInSync p e) (hs : step p e = some q) : Inv q :=
  ⟨step_sound h hs, (step_synced h hs).mpr hc⟩

theorem late_start_breaks (p : SnapshotProfiler) (e : Event) (q : SnapshotProfiler) (h : Inv p)
    (hc : ¬ StartsInSync p e) (hs : step p e = some q) : ¬ PeriodsMatch q := by
  intro hq
  apply hc
  exact (step_synced h hs).mp (hq.synced (step_sound h hs).active)

/-! ## Runs -/

/-- **The sampling period.** In a run every exported profile reports the interval of the session
that collected it, and so does the one that the collection loop would export next, exactly when
every session starts in sync with what the exporter reports. -/
theorem periods_match_iff (ms : Number) (active : Bool) (es : List Event) :
    Always step PeriodsMatch (new ms active) es ↔ Along step StartsInSync (new ms active) es :=
  always_iff_along (fun _ h => h.periodsMatch) step_inv late_start_breaks es _ (new_inv ms active)

/-- The interval changes while the export of the linger timer is awaited. The snapshot that begins
next finds the handle of that timer, and its session runs with 10 ms under a period of 1 ms. -/
theorem begin_during_export :
    ¬ Always step ExportsMatch (new 1 true)
      [.createExporter, .traceSnapshotBegin "a", .traceSnapshotEnd "a", .lingerFires 0 (some 1),
        .setSamplingInterval 10, .traceSnapshotBegin "b", .collectionLoop (some 1)] := by
  decide

end SplunkOtel.Snapshots.SamplingPeriod
