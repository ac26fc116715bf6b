import Mathlib.Algebra.BigOperators.Group.Multiset.Basic
import Mathlib.Tactic.Abel
import SplunkOtel.Metrics.RuntimeMetrics

/-!
# What the runtime metrics report

A garbage collection is given to a counter once, unless it ends between the read of its number and
the reset. The gauges are of turns of the event loop that follow one another.
-/

open Lib

namespace SplunkOtel.Metrics

/-! ## Garbage collections -/

namespace GcMetric

def total (m : GcMetric) (gcs : Multiset Gc) : ℤ := (gcs.map m.value).sum

@[simp] theorem total_zero (m : GcMetric) : m.total 0 = 0 := rfl

@[simp] theorem total_add (m : GcMetric) (gcs gcs' : Multiset Gc) :
    m.total (gcs + gcs') = m.total gcs + m.total gcs' := by
  rw [total, Multiset.map_add, Multiset.sum_add]
  rfl

theorem slot_mem (m : GcMetric) (type : GcType) : m.slot type ∈ slots := by
  cases m <;> cases type <;> decide

end GcMetric

/-- The number was read for this tick, and the reset is still to come. -/
def misses (m : GcMetric) (type : GcType) (p : Process) : Bool :=
  match p.phase with
  | .collecting true left => m.slot type ∉ left
  | .resetting => true
  | _ => false

/-- What ended with the event and is not missed. -/
def keptOf (m : GcMetric) (type : GcType) (p : Process) (e : Event) : List Gc :=
  if misses m type p then [] else ofType type (gcOf p e)

/-- The number that was read for this tick, until it is given to the counter. -/
def takenNumber (m : GcMetric) (type : GcType) (p : Process) : ℤ :=
  match p.phase with
  | .collecting true left => if m.slot type ∈ left then 0 else p.read (m.slot type)
  | .resetting => p.runtimeCounters (m.slot type)
  | .recording => p.runtimeCounters (m.slot type)
  | _ => 0

/-- The number in the extension that is still to be read. -/
def pendingNumber (m : GcMetric) (type : GcType) (p : Process) : ℤ :=
  if misses m type p then 0 else p.native.get (m.slot type)

/-- What is kept is counted, is taken for this tick, or is pending in the extension. -/
def GcInv (m : GcMetric) (type : GcType) (p : Process) (gcs : Multiset Gc) : Prop :=
  ∃ counted taken pending : Multiset Gc, counted + taken + pending = gcs ∧
    reported p.calls m type = m.total counted ∧ m.total taken = takenNumber m type p ∧
      m.total pending = pendingNumber m type p

section

variable {m : GcMetric} {type : GcType} {p q : Process} {e : Event} {gcs : Multiset Gc}

theorem get_gcEpilogue (r : RuntimeCounters) (type' : V8GcType) (now usedHeapSize : ℤ) :
    (r.gcEpilogue type' now usedHeapSize).get (m.slot type) = r.get (m.slot type) +
      m.total (ofType type [⟨type', r.heapUsedPreGc - usedHeapSize, now - r.startTime⟩]) := by
  unfold ofType
  by_cases h : type = .all ∨ getGcStatsIndex type' = some type
  · have hfilter : Gc.isOfType type
        ⟨type', r.heapUsedPreGc - usedHeapSize, now - r.startTime⟩ = true := decide_eq_true h
    rw [List.filter_cons_of_pos hfilter]
    cases m <;>
      simp [GcMetric.slot, RuntimeCounters.get, RuntimeCounters.gcEpilogue, h, GcCounters.add,
        Counters.add, Counters.get, GcMetric.total, GcMetric.value]
  · have hfilter : ¬ Gc.isOfType type
        ⟨type', r.heapUsedPreGc - usedHeapSize, now - r.startTime⟩ = true := by
      simpa [Gc.isOfType] using h
    rw [List.filter_cons_of_neg hfilter]
    cases m <;>
      simp [GcMetric.slot, RuntimeCounters.get, RuntimeCounters.gcEpilogue, h, GcMetric.total]

theorem reported_append (calls calls' : List Call) (counter : GcMetric) (type : GcType) :
    reported (calls ++ calls') counter type =
      reported calls counter type + reported calls' counter type := by
  rw [reported, List.filter_append, List.map_append, List.sum_append]
  rfl

theorem reported_recordGcMetrics (counters : NativeCounters) (m : GcMetric) (type : GcType) :
    reported (recordGcMetrics counters) m type = counters (m.slot type) := by
  cases m <;> cases type <;>
    simp [reported, recordGcMetrics, recordGcSumMetric, recordGcCountMetric, gcTypes, GcMetric.slot]

theorem GcInv.init : GcInv m type .init 0 := by
  refine ⟨0, 0, 0, rfl, rfl, rfl, ?_⟩
  cases m <;> rfl

theorem GcInv.frame (h : GcInv m type p gcs) (hcalls : q.calls = p.calls)
    (htaken : takenNumber m type q = takenNumber m type p)
    (hpending : pendingNumber m type q = pendingNumber m type p) : GcInv m type q gcs := by
  obtain ⟨counted, taken, pending, hsum, hinv⟩ := h
  rw [← hcalls, ← htaken, ← hpending] at hinv
  exact ⟨counted, taken, pending, hsum, hinv⟩

theorem keptOf_eq_nil (h : gcOf p e = []) : keptOf m type p e = [] := by
  unfold keptOf
  rw [h]
  split <;> rfl

theorem takenNumber_callback (p : Process) (f : RuntimeCounters → RuntimeCounters) :
    takenNumber m type (p.callback f) = takenNumber m type p := by
  unfold Process.callback
  split <;> rfl

theorem misses_callback (p : Process) (f : RuntimeCounters → RuntimeCounters) :
    misses m type (p.callback f) = misses m type p := by
  unfold Process.callback
  split <;> rfl

theorem pendingNumber_callback (p : Process) {f : RuntimeCounters → RuntimeCounters}
    (hf : ∀ r, (f r).get (m.slot type) = r.get (m.slot type)) :
    pendingNumber m type (p.callback f) = pendingNumber m type p := by
  have hnative : (p.callback f).native.get (m.slot type) = p.native.get (m.slot type) := by
    unfold Process.callback
    split
    · exact hf _
    · rfl
  rw [pendingNumber, misses_callback, hnative]
  rfl

theorem calls_callback (p : Process) (f : RuntimeCounters → RuntimeCounters) :
    (p.callback f).calls = p.calls := by
  unfold Process.callback
  split <;> rfl

theorem pendingNumber_gcEpilogue (p : Process) (type' : V8GcType) (now usedHeapSize : ℤ) :
    pendingNumber m type (p.callback (·.gcEpilogue type' now usedHeapSize)) =
      pendingNumber m type p + m.total (keptOf m type p (.gcEpilogue type' now usedHeapSize)) := by
  rw [pendingNumber, misses_callback, pendingNumber, keptOf]
  by_cases hmisses : misses m type p = true
  · rw [if_pos hmisses, if_pos hmisses, if_pos hmisses]
    rfl
  rw [if_neg hmisses, if_neg hmisses, if_neg hmisses, gcOf, Process.callback]
  split
  · exact get_gcEpilogue _ _ _ _
  · simp [ofType, GcMetric.total]

theorem GcInv.readNext (h : GcInv m type p gcs) {tick : Bool} {slot : Slot} {left : List Slot}
    (hphase : p.phase = .collecting tick (slot :: left)) :
    GcInv m type { p with
      read := Function.update p.read slot (p.native.get slot)
      phase := .collecting tick left } gcs := by
  cases tick with
  | false => exact h.frame rfl (by simp [takenNumber, hphase]) (by simp [pendingNumber, misses, hphase])
  | true =>
    by_cases hslot : m.slot type = slot
    case neg =>
      refine h.frame rfl ?_ ?_
      · simp [takenNumber, hphase, hslot]
      · simp [pendingNumber, misses, hphase, hslot]
    subst hslot
    obtain ⟨counted, taken, pending, hsum, hcalls, htaken, hpending⟩ := h
    simp only [takenNumber, hphase, List.mem_cons_self, if_true] at htaken
    simp only [pendingNumber, misses, hphase, List.mem_cons_self, not_true, decide_false,
      Bool.false_eq_true, if_false] at hpending
    by_cases hleft : m.slot type ∈ left
    · refine ⟨counted, taken, pending, hsum, hcalls, ?_, ?_⟩
      · simp [takenNumber, hleft, htaken]
      · simp [pendingNumber, misses, hleft, hpending]
    · refine ⟨counted, taken + pending, 0, ?_, hcalls, ?_, ?_⟩
      · rw [add_zero, ← add_assoc, hsum]
      · simp [takenNumber, hleft, htaken, hpending]
      · simp [pendingNumber, misses, hleft]

theorem GcInv.record (h : GcInv m type p gcs) (hphase : p.phase = .recording) :
    GcInv m type { p with calls := p.calls ++ recordGcMetrics p.runtimeCounters, phase := .idle }
      gcs := by
  obtain ⟨counted, taken, pending, hsum, hcalls, htaken, hpending⟩ := h
  simp only [takenNumber, hphase] at htaken
  refine ⟨counted + taken, 0, pending, ?_, ?_, rfl, ?_⟩
  · rw [add_zero, hsum]
  · rw [reported_append, reported_recordGcMetrics, hcalls, GcMetric.total_add, htaken]
  · simpa [pendingNumber, misses, hphase] using hpending

theorem GcInv.step (h : GcInv m type p gcs) (hstep : p.step e = some q) :
    GcInv m type q (gcs + keptOf m type p e) := by
  have hnone (hgc : gcOf p e = []) (hq : GcInv m type q gcs) :
      GcInv m type q (gcs + keptOf m type p e) := by
    rw [keptOf_eq_nil hgc]
    exact (add_zero gcs).symm ▸ hq
  cases Process.step_cases hstep with
  | prepare now =>
    refine hnone rfl (h.frame (calls_callback _ _) (takenNumber_callback _ _)
      (pendingNumber_callback _ fun r => ?_))
    cases m <;> rfl
  | check now idle =>
    refine hnone rfl (h.frame (calls_callback _ _) (takenNumber_callback _ _)
      (pendingNumber_callback _ fun r => ?_))
    cases m <;> rfl
  | gcPrologue now usedHeapSize =>
    refine hnone rfl (h.frame (calls_callback _ _) (takenNumber_callback _ _)
      (pendingNumber_callback _ fun r => ?_))
    cases m <;> rfl
  | gcEpilogue type' now usedHeapSize =>
    obtain ⟨counted, taken, pending, hsum, hcalls, htaken, hpending⟩ := h
    refine ⟨counted, taken, pending + keptOf m type p (.gcEpilogue type' now usedHeapSize), ?_, ?_,
      ?_, ?_⟩
    · rw [← add_assoc, hsum]
    · rw [calls_callback, hcalls]
    · rw [takenNumber_callback, htaken]
    · rw [pendingNumber_gcEpilogue, GcMetric.total_add, hpending]
  | startMetrics now hphase =>
    have hnative : (p.native.startCounters now).get (m.slot type) = p.native.get (m.slot type) := by
      unfold RuntimeCounters.startCounters
      split
      · rfl
      · cases m <;> rfl
    refine hnone rfl (h.frame rfl ?_ ?_)
    · simp [takenNumber, hphase]
    · simp [pendingNumber, misses, hphase, hnative]
  | tick hphase =>
    have hslot := m.slot_mem type
    refine hnone rfl (h.frame rfl ?_ ?_)
    · simp [takenNumber, hphase, hslot]
    · simp [pendingNumber, misses, hphase, hslot]
  | readNext hphase => exact hnone rfl (h.readNext hphase)
  | collected hphase =>
    refine hnone rfl (h.frame rfl ?_ ?_)
    · simp [takenNumber, hphase]
    · simp [pendingNumber, misses, hphase]
  | started hphase =>
    refine hnone rfl (h.frame rfl ?_ ?_)
    · simp [takenNumber, hphase]
    · simp [pendingNumber, misses, hphase]
  | reset hphase =>
    have hnative : p.native.resetCounters.get (m.slot type) = 0 := by
      cases m <;> rfl
    refine hnone rfl (h.frame rfl ?_ ?_)
    · simp [takenNumber, hphase]
    · simp [pendingNumber, misses, hphase, hnative]
  | record hphase => exact hnone rfl (h.record hphase)
  | stop hphase => exact hnone rfl (h.frame rfl rfl rfl)

end

/-- **Every garbage collection is counted once.** Between ticks, each that ended in the run is in
the sum that a counter was given or is still in the extension, in one of the two. Only those are
left out that ended after a tick had read the number and before the reset. -/
theorem gc_counted_once (es : List Event) (m : GcMetric) (type : GcType)
    (h : (Run.last Process.step .init es).isIdle = true) :
    ∃ counted pending : Multiset Gc,
      counted + pending = Run.outputs Process.step (keptOf m type) .init es ∧
        reported (Run.last Process.step .init es).calls m type = m.total counted ∧
          (Run.last Process.step .init es).native.get (m.slot type) = m.total pending := by
  have hinv := @Run.outputs_of_step _ _ Process.step _ (keptOf m type)
    (fun p gcs => GcInv m type p gcs) (fun p gcs e q h hstep => h.step hstep) es .init GcInv.init
  obtain ⟨counted, taken, pending, hsum, hcalls, htaken, hpending⟩ := hinv
  have hphase := Process.phase_of_isIdle h
  refine ⟨counted, taken + pending, ?_, hcalls, ?_⟩
  · rw [← add_assoc, hsum]
  · simp only [takenNumber, hphase] at htaken
    simp only [pendingNumber, misses, hphase, Bool.false_eq_true, if_false] at hpending
    rw [GcMetric.total_add, htaken, hpending, zero_add]

def collectAll : List Event := List.replicate slots.length .readNext ++ [.assign]

def scavenge (now : ℤ) : List Event := [.gcPrologue now 900, .gcEpilogue .scavenge (now + 5) 400]

/-- The second of three scavenges ends before the reset. -/
def missedRun : List Event :=
  [.startMetrics 0] ++ collectAll ++ scavenge 10 ++ [.tick] ++ collectAll ++ scavenge 20 ++
    [.reset, .record] ++ scavenge 30

theorem missed_scavenge_counted_once :
    Run.outputs Process.step (keptOf .count .all) .init missedRun =
        [⟨.scavenge, 500, 5⟩, ⟨.scavenge, 500, 5⟩] ∧
      (∃ counted pending : Multiset Gc,
        counted + pending = Run.outputs Process.step (keptOf .count .all) .init missedRun ∧
          reported (Run.last Process.step .init missedRun).calls .count .all =
            GcMetric.count.total counted ∧
            (Run.last Process.step .init missedRun).native.get (GcMetric.count.slot .all) =
              GcMetric.count.total pending) :=
  ⟨by decide +kernel, gc_counted_once missedRun .count .all (by decide +kernel)⟩

/-! ## The event loop -/

/-- What counts for the gauges. -/
inductive LoopMark where
  /-- A turn of the event loop, at its end. -/
  | turn (lag : ℤ)
  | reset
  /-- What was collected is what the gauges show. -/
  | shown
deriving DecidableEq

def marksOf (p : Process) : Event → List LoopMark
  | .prepare now => if p.native.started then [.turn (p.native.loopTime now)] else []
  | .reset => [.reset]
  | .assign => [.shown]
  | _ => []

/-- The turns since the last reset, and those that the gauges are of. -/
def turnsAfter (marks : List LoopMark) : List ℤ × List ℤ :=
  marks.foldl (fun turns mark => match mark with
    | .turn lag => (turns.1 ++ [lag], turns.2)
    | .reset => ([], turns.2)
    | .shown => (turns.1, turns.1)) ([], [])

theorem turnsAfter_concat (marks : List LoopMark) (mark : LoopMark) :
    turnsAfter (marks ++ [mark]) = match mark with
      | .turn lag => ((turnsAfter marks).1 ++ [lag], (turnsAfter marks).2)
      | .reset => ([], (turnsAfter marks).2)
      | .shown => ((turnsAfter marks).1, (turnsAfter marks).1) := by
  rw [turnsAfter, List.foldl_append]
  rfl

structure LagInv (p : Process) (turns : List ℤ × List ℤ) : Prop where
  native : p.native.eventLoop = tally turns.1
  runtime : ∀ member, p.runtimeCounters (.eventLoopLag member) = (tally turns.2).get member
  read : ∀ tick left, p.phase = .collecting tick left → ∀ member, .eventLoopLag member ∉ left →
    p.read (.eventLoopLag member) = (tally turns.1).get member

section

variable {p q : Process} {e : Event} {turns : List ℤ × List ℤ}

theorem LagInv.init : LagInv .init (turnsAfter []) where
  native := rfl
  runtime := by
    rintro (_ | _) <;> rfl
  read := by
    rintro tick left ⟨⟩

theorem LagInv.callback (h : LagInv p turns) {f : RuntimeCounters → RuntimeCounters}
    (hf : ∀ r, (f r).eventLoop = r.eventLoop) : LagInv (p.callback f) turns := by
  unfold Process.callback
  split
  · exact ⟨(hf _).trans h.native, h.runtime, h.read⟩
  · exact h

theorem LagInv.readNext (h : LagInv p turns) {tick : Bool} {slot : Slot} {left : List Slot}
    (hphase : p.phase = .collecting tick (slot :: left)) :
    LagInv { p with
      read := Function.update p.read slot (p.native.get slot)
      phase := .collecting tick left } turns where
  native := h.native
  runtime := h.runtime
  read := by
    rintro _ _ ⟨⟩ member hmember
    simp only
    by_cases hslot : .eventLoopLag member = slot
    · subst hslot
      rw [Function.update_self, RuntimeCounters.get, h.native]
    · rw [Function.update_of_ne hslot]
      exact h.read tick _ hphase member (by simp [hslot, hmember])

/-- Nothing is read when a collection starts. -/
theorem LagInv.collect (h : LagInv p turns) (tick : Bool)
    (hnative : q.native.eventLoop = p.native.eventLoop)
    (hruntime : q.runtimeCounters = p.runtimeCounters) (hphase : q.phase = .collecting tick slots) :
    LagInv q turns where
  native := hnative.trans h.native
  runtime := hruntime ▸ h.runtime
  read := by
    intro tick' left hcollecting member hmember
    cases hphase.symm.trans hcollecting
    refine absurd ?_ hmember
    cases member <;> decide

/-- All is read when a collection ends. -/
theorem LagInv.assign (h : LagInv p turns) {tick : Bool} (hcollecting : p.phase = .collecting tick [])
    (hnative : q.native = p.native) (hruntime : q.runtimeCounters = p.read)
    (hphase : ∀ tick left, q.phase ≠ .collecting tick left) : LagInv q (turns.1, turns.1) where
  native := hnative ▸ h.native
  runtime := fun member => hruntime ▸ h.read tick [] hcollecting member List.not_mem_nil
  read := fun tick left hcollecting => absurd hcollecting (hphase tick left)

theorem LagInv.prepare (h : LagInv p turns) (hphase : p.phase = .idle) (now : ℤ) :
    LagInv { p with native := p.native.eventLoopPrepareCallback now, polling := true }
      (turns.1 ++ [p.native.loopTime now], turns.2) where
  native := by
    rw [tally_concat, ← h.native]
    rfl
  runtime := h.runtime
  read := by
    intro tick left hcollecting
    cases hphase.symm.trans hcollecting

theorem LagInv.step {marks : List LoopMark} (h : LagInv p (turnsAfter marks))
    (hstep : p.step e = some q) : LagInv q (turnsAfter (marks ++ marksOf p e)) := by
  have hnone (hmarks : marksOf p e = []) (hq : LagInv q (turnsAfter marks)) :
      LagInv q (turnsAfter (marks ++ marksOf p e)) := by
    rwa [hmarks, List.append_nil]
  cases Process.step_cases hstep with
  | prepare now hphase =>
    by_cases hstarted : p.native.started = true
    · rw [marksOf, if_pos hstarted, turnsAfter_concat]
      simp only [Process.callback, if_pos hstarted]
      exact h.prepare hphase now
    · refine hnone (if_neg hstarted) ?_
      simp only [Process.callback, if_neg hstarted]
      exact ⟨h.native, h.runtime, h.read⟩
  | check now idle hphase =>
    have hcheck := h.callback (f := (·.eventLoopCheckCallback now idle)) fun _ => rfl
    exact hnone rfl ⟨hcheck.native, hcheck.runtime, hcheck.read⟩
  | gcPrologue now usedHeapSize => exact hnone rfl (h.callback fun _ => rfl)
  | gcEpilogue type now usedHeapSize => exact hnone rfl (h.callback fun _ => rfl)
  | startMetrics now hphase =>
    refine hnone rfl (h.collect false ?_ rfl rfl)
    unfold RuntimeCounters.startCounters
    split <;> rfl
  | tick hphase => exact hnone rfl (h.collect true rfl rfl rfl)
  | readNext hphase => exact hnone rfl (h.readNext hphase)
  | collected hphase =>
    rw [marksOf, turnsAfter_concat]
    exact h.assign hphase rfl rfl (by rintro _ _ ⟨⟩)
  | started hphase =>
    rw [marksOf, turnsAfter_concat]
    exact h.assign hphase rfl rfl (by rintro _ _ ⟨⟩)
  | reset hphase =>
    rw [marksOf, turnsAfter_concat]
    exact ⟨rfl, h.runtime, by rintro _ _ ⟨⟩⟩
  | record hphase => exact hnone rfl ⟨h.native, h.runtime, by rintro _ _ ⟨⟩⟩
  | stop hphase => exact hnone rfl ⟨h.native, h.runtime, h.read⟩

end

/-- **The gauges of the event loop.** What they show is the smallest and the largest lag of the
turns between a reset and the collection after it, and zero where there is no turn. -/
theorem event_loop_gauges (es : List Event) :
    let turns := (turnsAfter (Run.outputs Process.step marksOf .init es)).2
    let shown := (Run.last Process.step .init es).runtimeCounters
    turns = [] ∧ shown (.eventLoopLag .min) = 0 ∧ shown (.eventLoopLag .max) = 0 ∨
      (shown (.eventLoopLag .min) ∈ turns ∧ ∀ lag ∈ turns, shown (.eventLoopLag .min) ≤ lag) ∧
        shown (.eventLoopLag .max) ∈ turns ∧ ∀ lag ∈ turns, lag ≤ shown (.eventLoopLag .max) := by
  have hinv := @Run.outputs_of_step _ _ Process.step _ marksOf
    (fun p marks => LagInv p (turnsAfter marks)) (fun p marks e q h hstep => h.step hstep) es .init
    LagInv.init
  intro turns shown
  have hshown (member : Member) : shown (.eventLoopLag member) = (tally turns).get member :=
    hinv.runtime member
  simp only [hshown, Counters.get]
  by_cases hne : turns = []
  · rw [hne]
    exact Or.inl ⟨rfl, rfl, rfl⟩
  · exact Or.inr (tally_bounds hne)

/-- Turns of 30 and 20 nanoseconds, a reset, and a turn that is not collected yet. -/
example : turnsAfter (Run.outputs Process.step marksOf .init
    ([.startMetrics 0, .readNext] ++ List.replicate 54 .readNext ++
      [.assign, .prepare 30, .check 50 15, .prepare 65, .tick] ++ collectAll ++
      [.reset, .record, .check 100 40, .prepare 120])) = ([30], [30, 20]) := by
  decide +kernel

end SplunkOtel.Metrics
