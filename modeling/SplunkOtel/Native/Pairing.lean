import SplunkOtel.Lib.Run
import SplunkOtel.Native.Profiler

/-!
# Enters and exits pair up

An enter may record nothing, but an exit takes whatever its context has on the stack. The two have
to agree over whole runs, in which the filter changes and the profiler stops and starts.
-/

open Lib.Run

namespace SplunkOtel.Native.Pairing

structure Enter where
  timestamp : ℤ
  traceId : String
  spanId : String
deriving DecidableEq

/-- `opens`: the enters of each context that no exit has closed yet, the last one first.
`pairs`: each activation that an exit inserted, with the enter that this exit closed. -/
structure World where
  profiling : Profiling
  opens : ℤ → List Enter := fun _ => []
  pairs : List (SpanActivation × Enter) := []

/-- An exit closes the last open enter of its context, and there is none without one. -/
def step (w : World) (e : Event) : Option World :=
  let p := apply w.profiling e
  match e with
  | .enterContext contextHash timestamp traceId spanId =>
    some { w with
      profiling := p
      opens := Function.update w.opens contextHash
        (⟨timestamp, traceId, spanId⟩ :: w.opens contextHash) }
  | .exitContext contextHash _ =>
    match w.opens contextHash with
    | [] => none
    | closed :: rest =>
      some {
        profiling := p
        opens := Function.update w.opens contextHash rest
        pairs := w.pairs ++
          (p.inserted.drop w.profiling.inserted.length).map fun activation => (activation, closed) }
  | _ => some { w with profiling := p }

def Matches (a : SpanActivation) (e : Enter) : Prop :=
  a.startTime = e.timestamp ∧ a.traceId = e.traceId ∧ a.spanId = e.spanId

instance (a : SpanActivation) : DecidablePred (Matches a) :=
  fun _ => inferInstanceAs (Decidable (_ ∧ _))

/-- Every activation inserted carries what the enter had that its exit closed. -/
def Paired (w : World) : Prop := ∀ pair ∈ w.pairs, Matches pair.1 pair.2

instance : DecidablePred Paired := fun _ => inferInstanceAs (Decidable (∀ _ ∈ _, _))

/-- An enter that is not recorded finds nothing open in its context. -/
def SkipsOutermost (w : World) : Event → Prop
  | .enterContext contextHash _ traceId spanId =>
    entered w.profiling traceId spanId = false → openActivations w.profiling contextHash = []
  | _ => True

/-- The open activations come from the last enters, in their order. -/
def OnTop (activations : List SpanActivation) (enters : List Enter) : Prop :=
  ∃ last older, enters = last ++ older ∧ List.Forall₂ Matches activations.reverse last

structure PairInv (w : World) : Prop where
  paired : Paired w
  stopped : w.profiling.running = false → ∀ c, w.profiling.spanActivations c = none
  onTop : ∀ c, OnTop (openActivations w.profiling c) (w.opens c)

/-! ## One stack -/

theorem onTop_nil (enters : List Enter) : OnTop [] enters :=
  ⟨[], enters, rfl, List.Forall₂.nil⟩

theorem OnTop.enter {activations : List SpanActivation} {enters : List Enter} {a : SpanActivation}
    {e : Enter} (h : OnTop activations enters) (ha : Matches a e) :
    OnTop (activations ++ [a]) (e :: enters) := by
  obtain ⟨last, older, rfl, hlast⟩ := h
  refine ⟨e :: last, older, rfl, ?_⟩
  rw [List.reverse_append]
  exact List.Forall₂.cons ha hlast

theorem OnTop.exit {activations : List SpanActivation} {enters : List Enter} {a : SpanActivation}
    {e : Enter} (h : OnTop activations (e :: enters)) (ha : activations.getLast? = some a) :
    Matches a e ∧ OnTop activations.dropLast enters := by
  obtain ⟨last, older, henters, hlast⟩ := h
  obtain ⟨init, rfl⟩ := List.getLast?_eq_some_iff.mp ha
  rw [List.reverse_append] at hlast
  rcases hlast with _ | ⟨hmatch, hinit⟩
  cases henters
  exact ⟨hmatch, _, older, rfl, by rwa [List.dropLast_concat]⟩

/-! ## One call -/

theorem PairInv.of_same {w : World} (h : PairInv w) (p : Profiling)
    (hs : p.spanActivations = w.profiling.spanActivations)
    (hr : w.profiling.running = true → p.running = true) :
    PairInv { w with profiling := p } where
  paired := h.paired
  stopped hstop c := by
    rw [hs]
    apply h.stopped
    rw [← Bool.not_eq_true]
    intro hrun
    rw [hr hrun] at hstop
    cases hstop
  onTop c := by
    have hopen : openActivations p c = openActivations w.profiling c := by
      rw [openActivations, openActivations, hs]
    simp only [hopen]
    exact h.onTop c

theorem PairInv.of_reset {w : World} (h : PairInv w) (p : Profiling)
    (hs : ∀ c, p.spanActivations c = none) : PairInv { w with profiling := p } where
  paired := h.paired
  stopped _ := hs
  onTop c := by
    simp only [openActivations_of_none (hs c)]
    exact onTop_nil _

theorem enterContext_inv (w : World) (contextHash timestamp : ℤ) (traceId spanId : String)
    (h : PairInv w)
    (hskip : SkipsOutermost w (.enterContext contextHash timestamp traceId spanId)) :
    PairInv { w with
      profiling := enterContext w.profiling contextHash timestamp traceId spanId
      opens := Function.update w.opens contextHash
        (⟨timestamp, traceId, spanId⟩ :: w.opens contextHash) } := by
  rcases enterContext_cases w.profiling contextHash timestamp traceId spanId with
    ⟨hskipped, heq⟩ | ⟨stack, hentered, hstack, heq⟩ <;> rw [heq]
  · refine ⟨h.paired, h.stopped, fun c => ?_⟩
    rcases eq_or_ne c contextHash with rfl | hne
    · rw [hskip hskipped]
      exact onTop_nil _
    · simp only [Function.update_of_ne hne]
      exact h.onTop c
  · have hrunning := running_of_entered hentered
    refine ⟨h.paired, fun hstop => ?_, fun c => ?_⟩
    · rw [hrunning] at hstop
      cases hstop
    · rcases eq_or_ne c contextHash with rfl | hne
      · rw [openActivations_of_some (Function.update_self _ _ _), hstack]
        simp only [Function.update_self]
        exact (h.onTop c).enter ⟨rfl, rfl, rfl⟩
      · simp only [openActivations, Function.update_of_ne hne]
        exact h.onTop c

theorem exitContext_inv (w : World) (contextHash timestamp : ℤ) (closed : Enter)
    (rest : List Enter) (h : PairInv w) (hopens : w.opens contextHash = closed :: rest) :
    PairInv
      { profiling := profilingExitContext w.profiling contextHash timestamp
        opens := Function.update w.opens contextHash rest
        pairs := w.pairs ++
          ((profilingExitContext w.profiling contextHash timestamp).inserted.drop
            w.profiling.inserted.length).map fun activation => (activation, closed) } := by
  rcases profilingExitContext_cases w.profiling contextHash timestamp with
    ⟨hidle, heq⟩ | ⟨stack, a, periods, hrunning, hstack, htop, heq⟩ <;> rw [heq]
  · have hempty : openActivations w.profiling contextHash = [] := by
      rcases hidle with hstopped | hempty
      · exact openActivations_of_none (h.stopped hstopped contextHash)
      · exact hempty
    rw [List.drop_length, List.map_nil, List.append_nil]
    refine ⟨h.paired, h.stopped, fun c => ?_⟩
    rcases eq_or_ne c contextHash with rfl | hne
    · rw [hempty]
      exact onTop_nil _
    · simp only [Function.update_of_ne hne]
      exact h.onTop c
  · have hclosed := h.onTop contextHash
    rw [hopens, openActivations_of_some hstack] at hclosed
    obtain ⟨hmatch, hrest⟩ := hclosed.exit htop
    simp only [List.drop_left, List.map_cons, List.map_nil]
    refine ⟨fun pair hpair => ?_, fun hstop => ?_, fun c => ?_⟩
    · rcases List.mem_append.mp hpair with hpair | hpair
      · exact h.paired pair hpair
      · rw [List.mem_singleton.mp hpair]
        exact hmatch
    · rw [hrunning] at hstop
      cases hstop
    · rcases eq_or_ne c contextHash with rfl | hne
      · simp only [openActivations, Function.update_self]
        split
        · exact onTop_nil _
        · rw [Option.map_some, Option.getD_some, ActivationStack.toList_pop]
          exact hrest
      · simp only [openActivations, Function.update_of_ne hne]
        exact h.onTop c

/-! ## Runs -/

theorem step_inv (w : World) (e : Event) (t : World) (h : PairInv w) (hskip : SkipsOutermost w e)
    (ht : step w e = some t) : PairInv t := by
  cases e with
  | enterContext contextHash timestamp traceId spanId =>
    cases ht
    exact enterContext_inv w contextHash timestamp traceId spanId h hskip
  | exitContext contextHash timestamp =>
    simp only [step] at ht
    split at ht
    · cases ht
    · rename_i closed rest hopens
      cases ht
      exact exitContext_inv w contextHash timestamp closed rest h hopens
  | getOrCreateCpuProfiler options =>
    cases ht
    simp only [apply, getOrCreateCpuProfiler]
    split
    · exact h.of_same _ rfl id
    · exact h.of_reset _ fun _ => rfl
  | startCpuProfiler r =>
    cases ht
    simp only [apply, startCpuProfiler]
    split
    · exact h
    · exact h.of_same _ rfl fun _ => rfl
  | start options r =>
    cases ht
    rcases apply_start_cases w.profiling options r with ⟨-, heq⟩ | ⟨-, heq⟩ <;> rw [heq]
    · exact h
    · exact h.of_reset _ fun _ => rfl
  | addTraceIdFilter traceId =>
    cases ht
    exact h.of_same _ rfl id
  | removeTraceIdFilter traceId =>
    cases ht
    exact h.of_same _ rfl id
  | collect r profile =>
    cases ht
    rcases collectProfilingData_cases w.profiling r profile with
      ⟨-, heq⟩ | ⟨-, -, heq⟩ | ⟨-, v, is, -, -, heq⟩ <;> simp only [apply, heq]
    · exact h
    · exact h.of_same _ rfl id
    · exact h.of_reset _ fun _ => rfl
  | stop profile =>
    cases ht
    rcases stopProfiling_cases w.profiling profile with ⟨-, heq⟩ | ⟨-, is, -, heq⟩ <;>
      simp only [apply, heq]
    · exact h
    · exact h.of_reset _ fun _ => rfl

theorem setup_inv (options : ProfilingOptions) :
    PairInv { profiling := setupProfiling options } where
  paired _ hpair := absurd hpair List.not_mem_nil
  stopped _ _ := rfl
  onTop _ := onTop_nil _

/-- **Pairing.** In a run in which every enter that is not recorded finds nothing open in its
context, every activation that an exit inserts carries what its own enter had. -/
theorem paired_of_skipsOutermost (options : ProfilingOptions) (es : List Event)
    (h : Along step SkipsOutermost { profiling := setupProfiling options } es) :
    Always step Paired { profiling := setupProfiling options } es :=
  always_of_along (fun _ h => h.paired) step_inv es _ (setup_inv options) h

def reentered : List Event :=
  [.startCpuProfiler ⟨0, 0, 0, 0⟩, .addTraceIdFilter "0af7651916cd43dd8448eb211c80319c",
    .enterContext 7 1 "0af7651916cd43dd8448eb211c80319c" "b7ad6b7169203331",
    .removeTraceIdFilter "0af7651916cd43dd8448eb211c80319c",
    .enterContext 7 2 "0af7651916cd43dd8448eb211c80319c" "b7ad6b7169203331", .exitContext 7 3]

/-- The inner exit inserts the activation of the outer enter. -/
theorem exit_pairs_outer_enter :
    ¬ Always step Paired { profiling := setupProfiling ⟨10000, false, true, 500000000⟩ } reentered := by
  decide

theorem paired_of_filtered_reentry :
    Always step Paired { profiling := setupProfiling ⟨10000, false, true, 500000000⟩ }
      [.startCpuProfiler ⟨0, 0, 0, 0⟩, .enterContext 7 1 "0" "0", .exitContext 7 2,
        .addTraceIdFilter "0af7651916cd43dd8448eb211c80319c",
        .enterContext 7 3 "0af7651916cd43dd8448eb211c80319c" "b7ad6b7169203331",
        .enterContext 7 4 "0af7651916cd43dd8448eb211c80319c" "00f067aa0ba902b7",
        .removeTraceIdFilter "0af7651916cd43dd8448eb211c80319c", .exitContext 7 5,
        .exitContext 7 6] := by
  apply paired_of_skipsOutermost
  refine ⟨trivial, fun _ => rfl, trivial, trivial, ?_, ?_, trivial, trivial, trivial, trivial⟩ <;>
    exact fun hskipped => absurd hskipped (by decide)

end SplunkOtel.Native.Pairing
