import Mathlib.Data.List.Induction
import SplunkOtel.Lib.Run
import SplunkOtel.OpAMP.EffectiveState

/-!
# `startProfiling` and the `stop()` it returns (`src/profiling/index.ts`)

`startProfiling` starts the native CPU profiler at once, but creates the collection intervals and
starts the memory profiler in a `setImmediate` callback. The events are the calls and these
callbacks, in any order. A firing interval only collects, so it is no event here.
-/

open Lib.Run

namespace SplunkOtel.StartProfiling

open Js

structure MemoryProfilingOptions where
  maxStackDepth : Option ℕ
  sampleIntervalBytes : Option ℕ
deriving DecidableEq

structure ProfilingOptions where
  callstackInterval : Number
  collectionDuration : ℚ
  memoryProfilingEnabled : Bool
  memoryProfilingOptions : Option MemoryProfilingOptions := none
deriving DecidableEq

structure NativeProfilingOptions where
  name : String
  samplingIntervalMicroseconds : Number
  maxSampleCutoffDelayMicroseconds : Number
  recordDebugInfo : Bool
deriving DecidableEq

inductive NativeCall where
  | start (options : NativeProfilingOptions)
  | stop
  | startMemoryProfiling (options : Option MemoryProfilingOptions)
  | stopMemoryProfiling
deriving DecidableEq

structure Interval where
  id : ℕ
  delay : ℚ
deriving DecidableEq

/-- The closure of one call that started the profiler. -/
structure Started where
  id : ℕ
  options : ProfilingOptions
  cpuSamplesCollectInterval : Option ℕ := none
  memSamplesCollectInterval : Option ℕ := none
  /-- The `setImmediate` callback still waits. -/
  deferred : Bool := true
  /-- A call of `stop()` has returned. -/
  stopped : Bool := false
  /-- All intervals that this start has created, live or not. -/
  created : List ℕ := []
deriving DecidableEq

structure World where
  starts : List Started := []
  intervals : List Interval := []
  nextInterval : ℕ := 0
  effectiveState : EffectiveState := {}
  profilingContextManagerEnabled : Bool := false
  running : Bool := false
  /-- The native calls so far, each with the start that made it. -/
  calls : List (ℕ × NativeCall) := []
deriving DecidableEq

inductive StartResult where
  /-- The native extension could not be loaded: `started: false`. -/
  | unavailable
  /-- The native `start` threw: a profiler of that name is running. -/
  | threw
  | started (id : ℕ)
deriving DecidableEq

/-! ## The code -/

def ensureProfilingContextManager (w : World) : World :=
  { w with profilingContextManagerEnabled := true }

def nativeOptions (options : ProfilingOptions) : NativeProfilingOptions where
  name := "splunk-otel-js-profiler"
  samplingIntervalMicroseconds := options.callstackInterval.scale 1000
  maxSampleCutoffDelayMicroseconds := (options.callstackInterval.scale 1000).scale (1 / 2)
  recordDebugInfo := false

/-- `extension`: the native extension loads. `tracingContextManager`: tracing owns the context
manager already. `startThrows`: the native `start` throws. -/
def startProfilingWith (w : World) (options : ProfilingOptions)
    (extension tracingContextManager startThrows : Bool) : World × StartResult :=
  if ¬ extension then
    ({ w with
        effectiveState := recordEffectiveState w.effectiveState
          { profilerEnabled := some false, memoryProfilerEnabled := some false } },
      .unavailable)
  else
    let w := { w with
      effectiveState := recordEffectiveState w.effectiveState
        { profilerEnabled := some true
          callStackInterval := some options.callstackInterval
          memoryProfilerEnabled := some options.memoryProfilingEnabled } }
    let w := if tracingContextManager then w else ensureProfilingContextManager w
    if startThrows then (w, .threw)
    else
      let id := w.starts.length
      ({ w with
          running := true
          calls := w.calls ++ [(id, .start (nativeOptions options))]
          starts := w.starts ++ [{ id, options }] },
        .started id)

/-- The native registry is keyed by name, so a second start while one runs throws. -/
def startProfiling (w : World) (options : ProfilingOptions)
    (extension tracingContextManager : Bool) : World × StartResult :=
  startProfilingWith w options extension tracingContextManager w.running

def setInterval (w : World) (delay : ℚ) : World × ℕ :=
  ({ w with
      intervals := { id := w.nextInterval, delay } :: w.intervals
      nextInterval := w.nextInterval + 1 },
    w.nextInterval)

def clearInterval (w : World) : Option ℕ → World
  | none => w
  | some i => { w with intervals := w.intervals.filter (·.id ≠ i) }

def call (w : World) (id : ℕ) (c : NativeCall) : World := { w with calls := w.calls ++ [(id, c)] }

/-- The `setImmediate` callback of the start `r`. `exporterFactory` is taken to return. -/
def deferredCallback (w : World) (r : Started) : World :=
  let (w, cpu) := setInterval w r.options.collectionDuration
  let r := { r with
    deferred := false, cpuSamplesCollectInterval := some cpu, created := cpu :: r.created }
  if r.options.memoryProfilingEnabled then
    let w := call w r.id (.startMemoryProfiling r.options.memoryProfilingOptions)
    let (w, mem) := setInterval w r.options.collectionDuration
    let r := { r with memSamplesCollectInterval := some mem, created := mem :: r.created }
    { w with starts := w.starts.set r.id r }
  else { w with starts := w.starts.set r.id r }

/-- The `stop()` of the start `r`. The export that it awaits changes nothing here. -/
def stop (w : World) (r : Started) : World :=
  let w := if r.options.memoryProfilingEnabled then
      call (clearInterval w r.memSamplesCollectInterval) r.id .stopMemoryProfiling
    else w
  let w := call (clearInterval w r.cpuSamplesCollectInterval) r.id .stop
  { w with running := false, starts := w.starts.set r.id { r with stopped := true } }

/-! ## Runs -/

inductive Event where
  | startProfiling (options : ProfilingOptions) (extension tracingContextManager : Bool)
  | deferred (id : ℕ)
  | stop (id : ℕ)
deriving DecidableEq

def step (w : World) : Event → Option World
  | .startProfiling options extension tracing =>
    some (startProfiling w options extension tracing).1
  | .deferred id =>
    w.starts[id]?.bind fun r => if r.deferred then some (deferredCallback w r) else none
  | .stop id => w.starts[id]?.map fun r => stop w r

def NativeCall.startsMemory : NativeCall → Bool
  | .startMemoryProfiling _ => true
  | _ => false

theorem deferred_frame {w w' : World} {id : ℕ} (h : step w (.deferred id) = some w') :
    w'.effectiveState = w.effectiveState ∧ w'.running = w.running ∧ ∃ r r',
      w.starts[id]? = some r ∧ w'.starts = w.starts.set r.id r' ∧ r'.id = r.id ∧
        r'.options = r.options ∧ r'.stopped = r.stopped := by
  simp only [step, Option.bind_eq_some_iff, Option.ite_none_right_eq_some, Option.some_inj] at h
  obtain ⟨r, hr, _, rfl⟩ := h
  unfold deferredCallback setInterval call
  simp only
  split
  · exact ⟨rfl, rfl, r, _, hr, rfl, rfl, rfl, rfl⟩
  · exact ⟨rfl, rfl, r, _, hr, rfl, rfl, rfl, rfl⟩

/-- No memory profiling is started on behalf of the start `id` after its `stop()`. -/
def NoMemoryAfterStop (id : ℕ) (calls : List (ℕ × NativeCall)) : Prop :=
  calls.Pairwise fun a b => a = (id, .stop) → ¬ (b.1 = id ∧ b.2.startsMemory)

instance (id : ℕ) (calls : List (ℕ × NativeCall)) : Decidable (NoMemoryAfterStop id calls) :=
  inferInstanceAs (Decidable (List.Pairwise _ _))

/-- Each start whose `stop()` has returned and whose callback has run has left nothing behind. -/
def NothingLeft (w : World) : Prop :=
  ∀ r ∈ w.starts, r.stopped → ¬ r.deferred →
    (∀ i ∈ w.intervals, i.id ∉ r.created) ∧ NoMemoryAfterStop r.id w.calls

instance : DecidablePred NothingLeft := fun _ => inferInstanceAs (Decidable (∀ _ ∈ _, _))

/-- The step does not run the deferred callback of a start that was stopped already. -/
def CallbackBeforeStop (w : World) : Event → Prop
  | .deferred id => ∀ r ∈ w.starts[id]?, r.stopped = false
  | _ => True

/-! ## The invariant -/

/-- What holds of each start, as long as no callback runs after its `stop()`. -/
structure Kept (w : World) (r : Started) : Prop where
  created_lt : ∀ j ∈ r.created, j < w.nextInterval
  waiting : r.deferred → r.created = []
  held : ∀ j ∈ r.created, r.cpuSamplesCollectInterval = some j ∨
    (r.options.memoryProfilingEnabled ∧ r.memSamplesCollectInterval = some j)
  cleared : r.stopped → ∀ i ∈ w.intervals, i.id ∉ r.created
  not_stopped : r.stopped = false → (r.id, .stop) ∉ w.calls

structure Inv (w : World) : Prop where
  starts : ∀ i r, w.starts[i]? = some r → r.id = i ∧ Kept w r
  made : ∀ c ∈ w.calls, c.1 < w.starts.length
  memory : ∀ id, NoMemoryAfterStop id w.calls

theorem Kept.frame {w w' : World} {r : Started} (h : Kept w r)
    (hnext : w.nextInterval ≤ w'.nextInterval)
    (hlive : ∀ i ∈ w'.intervals, i ∈ w.intervals ∨ w.nextInterval ≤ i.id)
    (hcalls : ∀ c ∈ w'.calls, c ∈ w.calls ∨ c.1 ≠ r.id) : Kept w' r where
  created_lt j hj := lt_of_lt_of_le (h.created_lt j hj) hnext
  waiting := h.waiting
  held := h.held
  cleared hs i hi hm := by
    rcases hlive i hi with hi | hi
    · exact h.cleared hs i hi hm
    · exact absurd (h.created_lt _ hm) (by omega)
  not_stopped hs hc := by
    rcases hcalls _ hc with hc | hc
    · exact h.not_stopped hs hc
    · exact hc rfl

theorem kept_of_ran {w : World} {r : Started} (hstopped : r.stopped = false)
    (hran : r.deferred = false) (hlt : ∀ j ∈ r.created, j < w.nextInterval)
    (hheld : ∀ j ∈ r.created, r.cpuSamplesCollectInterval = some j ∨
      (r.options.memoryProfilingEnabled ∧ r.memSamplesCollectInterval = some j))
    (hstop : (r.id, .stop) ∉ w.calls) : Kept w r where
  created_lt := hlt
  waiting h := by rw [hran] at h; cases h
  held := hheld
  cleared h := by rw [hstopped] at h; cases h
  not_stopped _ := hstop

theorem noMemory_append {id : ℕ} {calls : List (ℕ × NativeCall)} (h : NoMemoryAfterStop id calls)
    (c : ℕ × NativeCall) (hc : c.1 = id → c.2.startsMemory → (id, .stop) ∉ calls) :
    NoMemoryAfterStop id (calls ++ [c]) := by
  refine List.pairwise_append.mpr ⟨h, List.pairwise_singleton _ _, ?_⟩
  intro a ha b hb hstop hmem
  rw [List.mem_singleton.mp hb] at hmem
  exact hc hmem.1 hmem.2 (hstop ▸ ha)

theorem noMemory_append_other {id : ℕ} {calls : List (ℕ × NativeCall)}
    (h : NoMemoryAfterStop id calls) (c : ℕ × NativeCall) (hc : c.2.startsMemory = false) :
    NoMemoryAfterStop id (calls ++ [c]) :=
  noMemory_append h c fun _ hm => by rw [hc] at hm; cases hm

theorem starts_set {w w' : World} {r r' : Started} (h : Inv w) (hr : w.starts[r.id]? = some r)
    (hset : w'.starts = w.starts.set r.id r') (hid : r'.id = r.id)
    (hnext : w.nextInterval ≤ w'.nextInterval)
    (hlive : ∀ i ∈ w'.intervals, i ∈ w.intervals ∨ w.nextInterval ≤ i.id)
    (hcalls : ∀ c ∈ w'.calls, c ∈ w.calls ∨ c.1 = r.id) (hkept : Kept w' r') :
    ∀ i s, w'.starts[i]? = some s → s.id = i ∧ Kept w' s := by
  intro i s hs
  rw [hset, List.getElem?_set] at hs
  have hlt := (List.getElem?_eq_some_iff.mp hr).1
  by_cases hi : r.id = i
  · rw [if_pos hi, if_pos hlt, Option.some.injEq] at hs
    exact hs ▸ ⟨hid.trans hi, hkept⟩
  · rw [if_neg hi] at hs
    obtain ⟨hsi, hk⟩ := h.starts i s hs
    refine ⟨hsi, hk.frame hnext hlive fun c hc => ?_⟩
    rcases hcalls c hc with hc | hc
    · exact Or.inl hc
    · exact Or.inr (by rw [hc, hsi]; exact hi)

/-! ## One step -/

theorem init_inv : Inv {} where
  starts i r hr := by simp at hr
  made c hc := by cases hc
  memory _ := List.Pairwise.nil

theorem startProfiling_cases (w : World) (options : ProfilingOptions)
    (extension tracing : Bool) :
    let w' := (startProfiling w options extension tracing).1
    w'.intervals = w.intervals ∧ w'.nextInterval = w.nextInterval ∧
      ((w'.starts = w.starts ∧ w'.calls = w.calls) ∨
        (w'.starts = w.starts ++ [{ id := w.starts.length, options }] ∧
          w'.calls = w.calls ++ [(w.starts.length, .start (nativeOptions options))])) := by
  cases extension <;> cases tracing <;> cases hw : w.running <;>
    simp [startProfiling, startProfilingWith, ensureProfilingContextManager, hw]

theorem startProfiling_inv {w : World} (h : Inv w) (options : ProfilingOptions)
    (extension tracing : Bool) : Inv (startProfiling w options extension tracing).1 := by
  obtain ⟨hi, hn, ⟨hs, hc⟩ | ⟨hs, hc⟩⟩ := startProfiling_cases w options extension tracing
  · refine ⟨fun i r hr => ?_, by rw [hs, hc]; exact h.made, by rw [hc]; exact h.memory⟩
    rw [hs] at hr
    obtain ⟨hid, hk⟩ := h.starts i r hr
    exact ⟨hid, hk.frame hn.ge (fun i hi' => Or.inl (hi ▸ hi')) fun c hc' => Or.inl (hc ▸ hc')⟩
  · have hnone : (w.starts.length, NativeCall.stop) ∉ w.calls := fun hc' =>
      lt_irrefl _ (h.made _ hc')
    refine ⟨fun i r hr => ?_, fun c hc' => ?_, fun id => ?_⟩
    · rw [hs, List.getElem?_append] at hr
      split at hr <;> rename_i hlt
      · obtain ⟨hid, hk⟩ := h.starts i r hr
        refine ⟨hid, hk.frame hn.ge (fun i hi' => Or.inl (hi ▸ hi')) fun c hc' => ?_⟩
        rw [hc, List.mem_append, List.mem_singleton] at hc'
        rcases hc' with hc' | rfl
        · exact Or.inl hc'
        · right; simp only [hid]; omega
      · rw [List.getElem?_singleton] at hr
        split at hr <;> cases hr
        refine ⟨by simp only; omega, by simp, fun _ => rfl, by simp, by simp, fun _ => ?_⟩
        simpa [hc] using hnone
    · rw [hc, List.mem_append, List.mem_singleton] at hc'
      rw [hs, List.length_append, List.length_singleton]
      rcases hc' with hc' | rfl
      · exact Nat.lt_succ_of_lt (h.made c hc')
      · exact Nat.lt_succ_self _
    · rw [hc]
      exact noMemory_append_other (h.memory id) _ rfl

theorem deferredCallback_inv {w : World} (h : Inv w) {r : Started} (hr : w.starts[r.id]? = some r)
    (hd : r.deferred = true) (hs : r.stopped = false) : Inv (deferredCallback w r) := by
  obtain ⟨-, hk⟩ := h.starts _ r hr
  have hlt := (List.getElem?_eq_some_iff.mp hr).1
  have hcreated : r.created = [] := hk.waiting hd
  have hstop : (r.id, NativeCall.stop) ∉ w.calls := hk.not_stopped hs
  unfold deferredCallback setInterval call
  simp only
  split
  · rename_i hmem
    refine ⟨starts_set h hr rfl rfl (by simp only; omega) ?_ ?_ ?_, ?_, fun id => ?_⟩
    · intro i hi
      simp only [List.mem_cons] at hi
      rcases hi with rfl | rfl | hi
      · right; simp only; omega
      · right; exact le_refl _
      · exact Or.inl hi
    · intro c hc
      simp only [List.mem_append, List.mem_singleton] at hc
      rcases hc with hc | rfl
      · exact Or.inl hc
      · exact Or.inr rfl
    · refine kept_of_ran hs rfl (fun j hj => ?_) (fun j hj => ?_) fun hc => ?_
      · simp only [hcreated, List.mem_cons, List.not_mem_nil, or_false] at hj
        simp only
        omega
      · simp only [hcreated, List.mem_cons, List.not_mem_nil, or_false] at hj
        rcases hj with rfl | rfl
        · exact Or.inr ⟨hmem, rfl⟩
        · exact Or.inl rfl
      · simp only [List.mem_append, List.mem_singleton] at hc
        rcases hc with hc | hc
        · exact hstop hc
        · cases hc
    · intro c hc
      simp only [List.mem_append, List.mem_singleton, List.length_set] at hc ⊢
      rcases hc with hc | rfl
      · exact h.made c hc
      · exact hlt
    · refine noMemory_append (h.memory id) _ fun hid _ => ?_
      exact hid ▸ hstop
  · refine ⟨starts_set h hr rfl rfl (by simp only; omega) ?_ (fun c hc => Or.inl hc) ?_, ?_,
      h.memory⟩
    · intro i hi
      rcases List.mem_cons.mp hi with rfl | hi
      · right; exact le_refl _
      · exact Or.inl hi
    · refine kept_of_ran hs rfl (fun j hj => ?_) (fun j hj => ?_) hstop
      · simp only [hcreated, List.mem_cons, List.not_mem_nil, or_false] at hj
        simp only
        omega
      · simp only [hcreated, List.mem_cons, List.not_mem_nil, or_false] at hj
        exact Or.inl (congrArg some hj.symm)
    · intro c hc
      simpa using h.made c hc

theorem mem_clearInterval {w : World} {o : Option ℕ} {i : Interval} :
    i ∈ (clearInterval w o).intervals ↔ i ∈ w.intervals ∧ ∀ j ∈ o, i.id ≠ j := by
  cases o <;> simp [clearInterval]

theorem clearInterval_frame (w : World) (o : Option ℕ) :
    (clearInterval w o).starts = w.starts ∧ (clearInterval w o).calls = w.calls ∧
      (clearInterval w o).nextInterval = w.nextInterval := by
  cases o <;> exact ⟨rfl, rfl, rfl⟩

theorem mem_stop_intervals {w : World} {r : Started} {i : Interval} :
    i ∈ (stop w r).intervals ↔ i ∈ w.intervals ∧
      (∀ j ∈ r.cpuSamplesCollectInterval, i.id ≠ j) ∧
      (r.options.memoryProfilingEnabled → ∀ j ∈ r.memSamplesCollectInterval, i.id ≠ j) := by
  unfold stop call
  simp only [mem_clearInterval]
  split <;> rename_i hm
  · simp [mem_clearInterval, hm]; tauto
  · simp [hm, and_comm]

theorem stop_calls (w : World) (r : Started) :
    ∃ cs : List NativeCall, (stop w r).calls = w.calls ++ cs.map (r.id, ·) ∧
      ∀ c ∈ cs, c.startsMemory = false := by
  unfold stop call
  split
  · refine ⟨[.stopMemoryProfiling, .stop], ?_, by simp [NativeCall.startsMemory]⟩
    simp [(clearInterval_frame _ _).2.1]
  · exact ⟨[.stop], by simp [(clearInterval_frame _ _).2.1], by simp [NativeCall.startsMemory]⟩

theorem stop_frame (w : World) (r : Started) :
    (stop w r).starts = w.starts.set r.id { r with stopped := true } ∧
      (stop w r).nextInterval = w.nextInterval := by
  unfold stop call
  split <;> simp [(clearInterval_frame _ _).1, (clearInterval_frame _ _).2.2]

theorem stop_profiler (w : World) (r : Started) :
    (stop w r).effectiveState = w.effectiveState ∧ (stop w r).running = false := by
  have hclear (w : World) (o : Option ℕ) : (clearInterval w o).effectiveState = w.effectiveState := by
    cases o <;> rfl
  unfold stop call
  split <;> simp [hclear]

theorem stop_inv {w : World} (h : Inv w) {r : Started} (hr : w.starts[r.id]? = some r) :
    Inv (stop w r) := by
  obtain ⟨-, hk⟩ := h.starts _ r hr
  have hlt := (List.getElem?_eq_some_iff.mp hr).1
  obtain ⟨cs, hcalls, hmem⟩ := stop_calls w r
  obtain ⟨hstarts, hnext⟩ := stop_frame w r
  have hnew : ∀ c ∈ (stop w r).calls, c ∈ w.calls ∨ c.1 = r.id := by
    intro c hc
    rw [hcalls, List.mem_append, List.mem_map] at hc
    rcases hc with hc | ⟨a, _, rfl⟩
    · exact Or.inl hc
    · exact Or.inr rfl
  refine ⟨starts_set h hr hstarts rfl hnext.ge
    (fun i hi => Or.inl (mem_stop_intervals.mp hi).1) hnew ?_, ?_, ?_⟩
  · refine ⟨by rw [hnext]; exact hk.created_lt, hk.waiting, hk.held, ?_, by simp⟩
    intro _ i hi hj
    obtain ⟨_, hcpu, hmemory⟩ := mem_stop_intervals.mp hi
    rcases hk.held _ hj with hj | ⟨hm, hj⟩
    · exact hcpu _ hj rfl
    · exact hmemory hm _ hj rfl
  · intro c hc
    rw [hstarts, List.length_set]
    rcases hnew c hc with hc | hc
    · exact h.made c hc
    · rw [hc]; exact hlt
  · intro id
    rw [hcalls]
    clear hcalls hnew
    -- One call after the other, none of which starts memory profiling.
    induction cs using List.reverseRecOn with
    | nil => simpa using h.memory id
    | append_singleton cs c ih =>
      rw [List.map_append, ← List.append_assoc]
      exact noMemory_append_other (ih fun a ha => hmem a (List.mem_append_left _ ha)) _
        (hmem c (by simp))

theorem step_inv (w : World) (e : Event) (w' : World) (h : Inv w) (hc : CallbackBeforeStop w e)
    (hw : step w e = some w') : Inv w' := by
  cases e with
  | startProfiling options extension tracing =>
    simp only [step, Option.some.injEq] at hw
    exact hw ▸ startProfiling_inv h options extension tracing
  | deferred id =>
    simp only [step, Option.bind_eq_some_iff] at hw
    obtain ⟨r, hr, hw⟩ := hw
    split at hw <;> cases hw
    obtain rfl := (h.starts id r hr).1
    exact deferredCallback_inv h hr ‹_› (hc r hr)
  | stop id =>
    simp only [step, Option.map_eq_some_iff] at hw
    obtain ⟨r, hr, rfl⟩ := hw
    obtain rfl := (h.starts id r hr).1
    exact stop_inv h hr

theorem Inv.nothingLeft {w : World} (h : Inv w) : NothingLeft w := by
  intro r hr hs _
  obtain ⟨i, hi⟩ := List.mem_iff_getElem?.mp hr
  exact ⟨(h.starts i r hi).2.cleared hs, h.memory r.id⟩

theorem deferred_breaks (w : World) (e : Event) (w' : World) (h : Inv w)
    (hc : ¬ CallbackBeforeStop w e) (hw : step w e = some w') : ¬ NothingLeft w' := by
  cases e with
  | startProfiling | stop => exact absurd trivial hc
  | deferred id =>
    simp only [step, Option.bind_eq_some_iff] at hw
    obtain ⟨r, hr, hw⟩ := hw
    split at hw <;> cases hw
    obtain rfl := (h.starts id r hr).1
    have hs : r.stopped = true := by
      by_contra hs
      exact hc fun r' hr' => by rw [hr, Option.mem_some] at hr'; simp_all
    have hlt := (List.getElem?_eq_some_iff.mp hr).1
    intro hleft
    unfold deferredCallback setInterval call at hleft
    simp only at hleft
    split at hleft
    · have hdead := (hleft _ (List.mem_set hlt _) hs (by simp)).1
        ⟨w.nextInterval, r.options.collectionDuration⟩ (by simp)
      simp at hdead
    · have hdead := (hleft _ (List.mem_set hlt _) hs (by simp)).1
        ⟨w.nextInterval, r.options.collectionDuration⟩ (by simp)
      simp at hdead

/-! ## Runs -/

/-- **What `stop()` leaves behind.** A run leaves nothing behind exactly when no deferred callback
runs after the `stop()` of its start. -/
theorem nothing_left_iff (es : List Event) :
    Always step NothingLeft {} es ↔ Along step CallbackBeforeStop {} es :=
  always_iff_along (fun _ h => h.nothingLeft) step_inv deferred_breaks es {} init_inv

/-- The `stop()` comes first, and the callback then starts the memory profiler and two intervals. -/
theorem callback_after_stop :
    ¬ Always step NothingLeft {}
      [.startProfiling ⟨1000, 30000, true, none⟩ true false, .stop 0, .deferred 0] := by
  decide

end SplunkOtel.StartProfiling
