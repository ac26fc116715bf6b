import SplunkOtel.Native.BinRange

/-!
# The profiles that V8 records

V8 keeps what it records by title, and the two titles of a profiler take turns: a collect starts
the one before it stops the other.
-/

open Lib.Run

namespace SplunkOtel.Native.Sessions

open BinRange (World FromClock readings handedOver)

/-- `recording`: when V8 started each profile that it has not stopped, by the number in its title. -/
structure Session where
  world : World
  recording : ℕ → Option ℤ

/-- The call of `V8StartProfiling`: the number in the title, and the clock of V8. -/
def starts (p : Profiling) : Event → Option (ℕ × ℤ)
  | .startCpuProfiler r => if p.running then none else some (p.profilerSeq, r.v8Start)
  | .start _ r => if p.running then none else some (p.profilerSeq, r.v8Start)
  | .collect r _ => if p.running then some ((p.profilerSeq + 1) % 2, r.v8Start) else none
  | _ => none

/-- The call of V8's `StopProfiling`. -/
def stops (p : Profiling) : Event → Option ℕ
  | .collect _ _ => if p.running then some p.profilerSeq else none
  | .stop _ => if p.running then some p.profilerSeq else none
  | _ => none

/-- V8 ignores a start with the title of a profile that it records. -/
def startRecording (recording : ℕ → Option ℤ) : Option (ℕ × ℤ) → ℕ → Option ℤ
  | none => recording
  | some (title, start) =>
    if (recording title).isSome then recording else Function.update recording title (some start)

def stopRecording (recording : ℕ → Option ℤ) : Option ℕ → ℕ → Option ℤ
  | none => recording
  | some title => Function.update recording title none

/-- V8 hands over the profile that it records under the title it is asked for, if there is one. -/
def V8Answers (recording : ℕ → Option ℤ) (title : Option ℕ) (profile : Option V8CpuProfile) :
    Prop :=
  match title.bind recording, profile with
  | none, none => True
  | some start, some profile => FromClock start profile
  | _, _ => False

instance (recording : ℕ → Option ℤ) (title : Option ℕ) : DecidablePred (V8Answers recording title) :=
  fun profile =>
    match h : title.bind recording, profile with
    | none, none => .isTrue (by simp [V8Answers, h])
    | some start, some profile => decidable_of_iff (FromClock start profile) (by simp [V8Answers, h])
    | none, some _ => .isFalse (by simp [V8Answers, h])
    | some _, none => .isFalse (by simp [V8Answers, h])

/-- The clock never goes back. -/
def step (s : Session) (e : Event) : Option Session :=
  let p := s.world.profiling
  let recording := startRecording s.recording (starts p e)
  if List.Pairwise (· ≤ ·) (s.world.now :: readings e) ∧ V8Answers recording (stops p e) (handedOver e)
  then some {
    world := { profiling := apply p e, now := (readings e).getLastD s.world.now }
    recording := stopRecording recording (stops p e) }
  else none

def init (options : ProfilingOptions) : Session where
  world := ⟨setupProfiling options, 0⟩
  recording := fun _ => none

/-- What V8 is to record: one profile, and none while the profiler is stopped. -/
def recordingOf (p : Profiling) : ℕ → Option ℤ :=
  if p.running then Function.update (fun _ => none) p.profilerSeq (some p.v8StartTime)
  else fun _ => none

/-- The activations that are open in `p` were opened since its profile began. -/
def OpenSince (p : Profiling) (now : ℤ) : Prop :=
  ∀ c, ∀ a ∈ openActivations p c, p.startTime ≤ a.startTime ∧ a.startTime ≤ now

/-- And nothing is open in a stopped profiler. -/
structure OpenInv (p : Profiling) (now : ℤ) : Prop where
  stopped : p.running = false → ∀ c, p.spanActivations c = none
  since : OpenSince p now

structure SessionInv (s : Session) : Prop where
  recording : s.recording = recordingOf s.world.profiling
  bins : BinRange.BinInv s.world
  opened : OpenInv s.world.profiling s.world.now

/-! ## What V8 records -/

theorem next_title_ne (seq : ℕ) : (seq + 1) % 2 ≠ seq := by omega

theorem recordingOf_running {p : Profiling} (h : p.running = true) :
    recordingOf p = Function.update (fun _ => none) p.profilerSeq (some p.v8StartTime) := by
  rw [recordingOf, if_pos h]

theorem recordingOf_stopped {p : Profiling} (h : p.running = false) :
    recordingOf p = fun _ => none := by
  rw [recordingOf, if_neg (by simp [h])]

theorem isSome_recordingOf (p : Profiling) (title : ℕ) :
    (recordingOf p title).isSome ↔ p.running = true ∧ title = p.profilerSeq := by
  unfold recordingOf
  split
  · rename_i hrunning
    by_cases htitle : title = p.profilerSeq
    · simp [hrunning, htitle]
    · simp [htitle]
  · rename_i hstopped
    simp [hstopped]

theorem startRecording_stopped {p p' : Profiling} {title : ℕ} {start : ℤ}
    (h : p.running = false) (hrunning : p'.running = true) (hseq : p'.profilerSeq = title)
    (hstart : p'.v8StartTime = start) :
    startRecording (recordingOf p) (some (title, start)) = recordingOf p' := by
  rw [recordingOf_stopped h, recordingOf_running hrunning, hseq, hstart]
  rfl

theorem startRecording_collect {p : Profiling} (h : p.running = true) (start : ℤ) :
    startRecording (recordingOf p) (some ((p.profilerSeq + 1) % 2, start)) =
      Function.update (recordingOf p) ((p.profilerSeq + 1) % 2) (some start) := by
  have hnone : recordingOf p ((p.profilerSeq + 1) % 2) = none := by
    rw [recordingOf_running h, Function.update_of_ne (next_title_ne _)]
  simp [startRecording, hnone]

theorem stopRecording_collect {p p' : Profiling} {start : ℤ} (h : p.running = true)
    (hrunning : p'.running = true)
    (hseq' : p'.profilerSeq = (p.profilerSeq + 1) % 2) (hstart : p'.v8StartTime = start) :
    stopRecording (startRecording (recordingOf p) (some ((p.profilerSeq + 1) % 2, start)))
      (some p.profilerSeq) = recordingOf p' := by
  rw [startRecording_collect h, stopRecording, recordingOf_running h,
    recordingOf_running hrunning, hseq', hstart, Function.update_comm (next_title_ne _),
    Function.update_idem]
  congr 1
  exact Function.update_eq_self_iff.mpr rfl

theorem recordingOf_congr {p p' : Profiling} (hrunning : p'.running = p.running)
    (hseq : p'.profilerSeq = p.profilerSeq) (hstart : p'.v8StartTime = p.v8StartTime) :
    recordingOf p' = recordingOf p := by
  rw [recordingOf, recordingOf, hrunning, hseq, hstart]

theorem recording_getOrCreate (p : Profiling) (options : ProfilingOptions) :
    recordingOf (getOrCreateCpuProfiler p options) = recordingOf p := by
  unfold getOrCreateCpuProfiler
  simp only
  split
  · exact recordingOf_congr rfl rfl rfl
  · exact recordingOf_congr rfl rfl rfl

theorem recording_enterContext (p : Profiling) (contextHash timestamp : ℤ)
    (traceId spanId : String) :
    recordingOf (enterContext p contextHash timestamp traceId spanId) = recordingOf p := by
  rcases enterContext_cases p contextHash timestamp traceId spanId with
    ⟨-, heq⟩ | ⟨stack, -, -, heq⟩ <;> rw [heq]
  exact recordingOf_congr rfl rfl rfl

theorem recording_exitContext (p : Profiling) (contextHash timestamp : ℤ) :
    recordingOf (profilingExitContext p contextHash timestamp) = recordingOf p := by
  rcases profilingExitContext_cases p contextHash timestamp with
    ⟨-, heq⟩ | ⟨stack, a, periods, -, -, -, heq⟩ <;> rw [heq]
  exact recordingOf_congr rfl rfl rfl

theorem recording_stop (p : Profiling) (profile : Option V8CpuProfile) :
    stopRecording (recordingOf p) (stops p (.stop profile)) =
      recordingOf (stopProfiling p profile).1 := by
  rcases stopProfiling_cases p profile with ⟨hstopped, heq⟩ | ⟨hrunning, is, -, heq⟩ <;> rw [heq]
  · simp [stops, hstopped, stopRecording]
  · rw [stops, if_pos hrunning, stopRecording, recordingOf_running hrunning, Function.update_idem,
      recordingOf_stopped rfl]
    exact Function.update_eq_self_iff.mpr rfl

theorem recording_collect (p : Profiling) (r : CollectReadings) (profile : Option V8CpuProfile) :
    stopRecording (startRecording (recordingOf p) (starts p (.collect r profile)))
        (stops p (.collect r profile)) = recordingOf (collectProfilingData p r profile).1 := by
  rcases collectProfilingData_cases p r profile with
    ⟨hstopped, heq⟩ | ⟨hrunning, -, heq⟩ | ⟨hrunning, v, is, -, -, heq⟩ <;> rw [heq]
  · simp [starts, stops, hstopped, startRecording, stopRecording]
  · rw [starts, stops, if_pos hrunning, if_pos hrunning]
    exact stopRecording_collect hrunning hrunning rfl rfl
  · rw [starts, stops, if_pos hrunning, if_pos hrunning]
    exact stopRecording_collect hrunning hrunning rfl rfl

theorem recording_apply (p : Profiling) (e : Event) :
    stopRecording (startRecording (recordingOf p) (starts p e)) (stops p e) =
      recordingOf (apply p e) := by
  cases e with
  | getOrCreateCpuProfiler options => exact (recording_getOrCreate p options).symm
  | startCpuProfiler r =>
    simp only [apply, startCpuProfiler, starts]
    by_cases hrunning : p.running = true
    · rw [if_pos hrunning, if_pos hrunning]
      rfl
    · rw [if_neg hrunning, if_neg hrunning]
      exact startRecording_stopped (Bool.not_eq_true _ ▸ hrunning) rfl rfl rfl
  | start options r =>
    rcases apply_start_cases p options r with ⟨hrunning, heq⟩ | ⟨hstopped, heq⟩ <;> rw [heq]
    · simp [starts, stops, hrunning, startRecording, stopRecording]
    · rw [starts, if_neg (by simp [hstopped])]
      exact startRecording_stopped hstopped rfl rfl rfl
  | addTraceIdFilter traceId => rfl
  | removeTraceIdFilter traceId => rfl
  | enterContext contextHash timestamp traceId spanId =>
    exact (recording_enterContext p contextHash timestamp traceId spanId).symm
  | exitContext contextHash timestamp =>
    exact (recording_exitContext p contextHash timestamp).symm
  | collect r profile => exact recording_collect p r profile
  | stop profile => exact recording_stop p profile

/-- The profile that V8 is asked for is the one that it records, whatever it has just started. -/
theorem recording_stops {p : Profiling} {e : Event} {title : ℕ} (h : stops p e = some title) :
    p.running = true ∧ startRecording (recordingOf p) (starts p e) title = some p.v8StartTime := by
  cases e with
  | collect r profile =>
    simp only [stops, Option.ite_none_right_eq_some, Option.some_inj] at h
    obtain ⟨hrunning, rfl⟩ := h
    refine ⟨hrunning, ?_⟩
    rw [starts, if_pos hrunning, startRecording_collect hrunning,
      Function.update_of_ne (next_title_ne _).symm, recordingOf_running hrunning,
      Function.update_self]
  | stop profile =>
    simp only [stops, Option.ite_none_right_eq_some, Option.some_inj] at h
    obtain ⟨hrunning, rfl⟩ := h
    refine ⟨hrunning, ?_⟩
    change recordingOf p p.profilerSeq = some p.v8StartTime
    rw [recordingOf_running hrunning, Function.update_self]
  | _ => cases h

theorem V8Answers.handedOver {p : Profiling} {e : Event} {profile : Option V8CpuProfile}
    (h : V8Answers (startRecording (recordingOf p) (starts p e)) (stops p e) profile) :
    ((stops p e).isSome ↔ profile.isSome) ∧ ∀ v ∈ profile, FromClock p.v8StartTime v := by
  unfold V8Answers at h
  rcases hstops : stops p e with _ | title <;> rw [hstops] at h
  · cases profile with
    | none => simp
    | some v => exact absurd h id
  · rw [Option.bind_some, (recording_stops hstops).2] at h
    cases profile with
    | none => exact absurd h id
    | some v =>
      refine ⟨by simp, fun v' hv' => ?_⟩
      cases hv'
      exact h

/-! ## What is open -/

theorem openActivations_push {p p' : Profiling} {contextHash : ℤ} {stack : ActivationStack}
    {a : SpanActivation} (hstack : stack.toList = openActivations p contextHash ++ [a])
    (hp' : p'.spanActivations = Function.update p.spanActivations contextHash (some stack)) :
    openActivations p' = Function.update (openActivations p) contextHash
      (openActivations p contextHash ++ [a]) := by
  funext c
  rcases eq_or_ne c contextHash with rfl | hne
  · rw [Function.update_self, ← hstack]
    exact openActivations_of_some (by rw [hp', Function.update_self])
  · rw [Function.update_of_ne hne, openActivations, openActivations, hp', Function.update_of_ne hne]

theorem openActivations_pop {p p' : Profiling} {contextHash : ℤ} {stack : ActivationStack}
    (hstack : p.spanActivations contextHash = some stack)
    (hp' : p'.spanActivations = Function.update p.spanActivations contextHash
      (if stack.pop.2.count = 0 then none else some stack.pop.2)) :
    openActivations p' = Function.update (openActivations p) contextHash
      (openActivations p contextHash).dropLast := by
  funext c
  rcases eq_or_ne c contextHash with rfl | hne
  · rw [Function.update_self, openActivations_of_some hstack, ← ActivationStack.toList_pop]
    by_cases hcount : stack.pop.2.count = 0
    · rw [openActivations_of_none (by rw [hp', Function.update_self, if_pos hcount])]
      exact ((ActivationStack.toList_eq_nil _).mpr hcount).symm
    · exact openActivations_of_some (by rw [hp', Function.update_self, if_neg hcount])
  · rw [Function.update_of_ne hne, openActivations, openActivations, hp', Function.update_of_ne hne]

theorem OpenSince.of_subset {p p' : Profiling} {now now' : ℤ} (h : OpenSince p now)
    (hstart : p'.startTime = p.startTime) (hnow : now ≤ now')
    (hsub : ∀ c, openActivations p' c ⊆ openActivations p c) : OpenSince p' now' := by
  intro c a ha
  obtain ⟨hlow, hhigh⟩ := h c a (hsub c ha)
  exact ⟨hstart ▸ hlow, hhigh.trans hnow⟩

theorem OpenSince.of_none {p : Profiling} (h : ∀ c, p.spanActivations c = none) (now : ℤ) :
    OpenSince p now := by
  intro c a ha
  rw [openActivations_of_none (h c)] at ha
  exact absurd ha List.not_mem_nil

theorem readings_entered {p : Profiling} {traceId spanId : String}
    (h : entered p traceId spanId = true) (contextHash timestamp : ℤ) :
    readings (.enterContext contextHash timestamp traceId spanId) = [timestamp] := by
  simp only [entered, decide_eq_true_eq] at h
  rw [readings, if_pos ⟨h.1, h.2.1⟩]

theorem openSince_enter {p : Profiling} {now contextHash timestamp : ℤ} {traceId spanId : String}
    (h : OpenSince p now) (hstart : p.startTime ≤ now)
    (hclock : List.Pairwise (· ≤ ·)
      (now :: readings (.enterContext contextHash timestamp traceId spanId))) :
    OpenSince (enterContext p contextHash timestamp traceId spanId)
      ((readings (.enterContext contextHash timestamp traceId spanId)).getLastD now) := by
  have hnow := BinRange.now_le_enter hclock
  rcases enterContext_cases p contextHash timestamp traceId spanId with
    ⟨-, heq⟩ | ⟨stack, hentered, hstack, heq⟩
  · rw [heq]
    exact h.of_subset rfl hnow fun c => List.Subset.refl _
  · rw [readings_entered hentered] at hnow ⊢
    change now ≤ timestamp at hnow
    intro c a ha
    rw [openActivations_push hstack (by rw [heq])] at ha
    have hp : (enterContext p contextHash timestamp traceId spanId).startTime = p.startTime := by
      rw [heq]
    rw [hp]
    rcases eq_or_ne c contextHash with rfl | hne
    · rw [Function.update_self] at ha
      rcases List.mem_append.mp ha with ha | ha
      · exact ⟨(h c a ha).1, (h c a ha).2.trans hnow⟩
      · rw [List.mem_singleton.mp ha]
        exact ⟨hstart.trans hnow, le_refl _⟩
    · rw [Function.update_of_ne hne] at ha
      exact ⟨(h c a ha).1, (h c a ha).2.trans hnow⟩

theorem openSince_exit {p : Profiling} {now contextHash timestamp : ℤ} (h : OpenSince p now)
    (hnow : now ≤ timestamp) :
    OpenSince (profilingExitContext p contextHash timestamp) timestamp := by
  rcases profilingExitContext_cases p contextHash timestamp with
    ⟨-, heq⟩ | ⟨stack, a, periods, -, hstack, -, heq⟩
  · rw [heq]
    exact h.of_subset rfl hnow fun c => List.Subset.refl _
  · refine h.of_subset (by rw [heq]) hnow fun c => ?_
    rw [openActivations_pop hstack (by rw [heq])]
    rcases eq_or_ne c contextHash with rfl | hne
    · rw [Function.update_self]
      exact List.dropLast_subset _
    · rw [Function.update_of_ne hne]
      exact List.Subset.refl _

theorem OpenInv.of_none {p : Profiling} (h : ∀ c, p.spanActivations c = none) (now : ℤ) :
    OpenInv p now :=
  ⟨fun _ => h, OpenSince.of_none h now⟩

theorem OpenInv.of_same {p p' : Profiling} {now now' : ℤ} (h : OpenInv p now)
    (hopen : p'.spanActivations = p.spanActivations) (hrunning : p'.running = p.running)
    (hstart : p'.startTime = p.startTime) (hnow : now ≤ now') : OpenInv p' now' where
  stopped hstop c := by
    rw [hopen]
    exact h.stopped (hrunning ▸ hstop) c
  since := h.since.of_subset hstart hnow fun c => by
    rw [openActivations, openActivations, hopen]
    exact List.Subset.refl _

theorem openInv_enter {p : Profiling} {now contextHash timestamp : ℤ} {traceId spanId : String}
    (h : OpenInv p now) (hstart : p.startTime ≤ now)
    (hclock : List.Pairwise (· ≤ ·)
      (now :: readings (.enterContext contextHash timestamp traceId spanId))) :
    OpenInv (enterContext p contextHash timestamp traceId spanId)
      ((readings (.enterContext contextHash timestamp traceId spanId)).getLastD now) where
  stopped hstop := by
    rcases enterContext_cases p contextHash timestamp traceId spanId with
      ⟨-, heq⟩ | ⟨stack, hentered, -, heq⟩ <;> rw [heq] at hstop ⊢
    · exact h.stopped hstop
    · rw [running_of_entered hentered] at hstop
      cases hstop
  since := openSince_enter h.since hstart hclock

theorem openInv_exit {p : Profiling} {now contextHash timestamp : ℤ} (h : OpenInv p now)
    (hnow : now ≤ timestamp) :
    OpenInv (profilingExitContext p contextHash timestamp) timestamp where
  stopped hstop := by
    rcases profilingExitContext_cases p contextHash timestamp with
      ⟨-, heq⟩ | ⟨stack, a, periods, hrunning, -, -, heq⟩ <;> rw [heq] at hstop ⊢
    · exact h.stopped hstop
    · rw [hrunning] at hstop
      cases hstop
  since := openSince_exit h.since hnow

theorem openInv_apply {p : Profiling} {now : ℤ} {e : Event} (h : OpenInv p now)
    (hstart : p.startTime ≤ now) (hclock : List.Pairwise (· ≤ ·) (now :: readings e))
    (hasked : (stops p e).isSome → (handedOver e).isSome) :
    OpenInv (apply p e) ((readings e).getLastD now) := by
  cases e with
  | getOrCreateCpuProfiler options =>
    simp only [apply, getOrCreateCpuProfiler]
    split
    · exact h.of_same rfl rfl rfl (le_refl _)
    · exact OpenInv.of_none (fun _ => rfl) _
  | startCpuProfiler r =>
    simp only [readings, List.pairwise_cons, List.mem_cons, forall_eq_or_imp] at hclock
    have hnow : now ≤ r.sampleCutoffPoint := by omega
    simp only [apply, startCpuProfiler]
    split
    · exact h.of_same rfl rfl rfl hnow
    · rename_i hrunning
      exact OpenInv.of_none (p := beginProfile p r) (h.stopped (Bool.not_eq_true _ ▸ hrunning)) _
  | start options r =>
    simp only [readings, List.pairwise_cons, List.mem_cons, forall_eq_or_imp] at hclock
    have hnow : now ≤ r.sampleCutoffPoint := by omega
    rcases apply_start_cases p options r with ⟨-, heq⟩ | ⟨-, heq⟩ <;> rw [heq]
    · exact h.of_same rfl rfl rfl hnow
    · exact OpenInv.of_none (fun _ => rfl) _
  | addTraceIdFilter traceId => exact h.of_same rfl rfl rfl (le_refl _)
  | removeTraceIdFilter traceId => exact h.of_same rfl rfl rfl (le_refl _)
  | enterContext contextHash timestamp traceId spanId =>
    exact openInv_enter h hstart hclock
  | exitContext contextHash timestamp =>
    have hnow : now ≤ timestamp := by simpa [readings] using hclock
    exact openInv_exit h hnow
  | collect r profile =>
    simp only [readings, List.pairwise_cons, List.mem_cons, forall_eq_or_imp] at hclock
    have hnow : now ≤ r.sampleCutoffPoint := by omega
    rcases collectProfilingData_cases p r profile with
      ⟨-, heq⟩ | ⟨hrunning, hnone, -⟩ | ⟨-, v, is, -, -, heq⟩
    · rw [apply, heq]
      exact h.of_same rfl rfl rfl hnow
    · have hsome := hasked (by simp [stops, hrunning])
      rw [handedOver, hnone] at hsome
      cases hsome
    · rw [apply, heq]
      exact OpenInv.of_none (fun _ => rfl) _
  | stop profile =>
    rcases stopProfiling_cases p profile with ⟨-, heq⟩ | ⟨-, is, -, heq⟩ <;> rw [apply, heq]
    · exact h
    · exact OpenInv.of_none (fun _ => rfl) _

/-! ## Runs -/

theorem step_eq_some {s t : Session} {e : Event} (h : step s e = some t) :
    List.Pairwise (· ≤ ·) (s.world.now :: readings e) ∧
      V8Answers (startRecording s.recording (starts s.world.profiling e))
        (stops s.world.profiling e) (handedOver e) ∧
      t = { world := ⟨apply s.world.profiling e, (readings e).getLastD s.world.now⟩
            recording := stopRecording
              (startRecording s.recording (starts s.world.profiling e))
              (stops s.world.profiling e) } := by
  unfold step at h
  simp only [Option.ite_none_right_eq_some, Option.some_inj] at h
  exact ⟨h.1.1, h.1.2, h.2.symm⟩

theorem OpenInv.closesRecent {w : World} (h : OpenInv w.profiling w.now) (e : Event) :
    BinRange.ClosesRecent w e := by
  cases e with
  | exitContext contextHash timestamp =>
    intro _ stack hstack a ha
    have hopen : a ∈ openActivations w.profiling contextHash := by
      rw [openActivations_of_some hstack]
      exact List.mem_of_getLast? ha
    have hsince := (h.since contextHash a hopen).1
    unfold kActivationBinWidth
    omega
  | _ => trivial

/-- A step of the session is a step of the profiler with its clock. -/
theorem world_step {s t : Session} {e : Event} (h : SessionInv s) (ht : step s e = some t) :
    BinRange.step s.world e = some t.world ∧
      ((stops s.world.profiling e).isSome ↔ (handedOver e).isSome) := by
  obtain ⟨hclock, hanswers, rfl⟩ := step_eq_some ht
  rw [h.recording] at hanswers
  obtain ⟨hasked, hprofile⟩ := hanswers.handedOver
  refine ⟨?_, hasked⟩
  rw [BinRange.step, if_pos ⟨hclock, hprofile⟩]

theorem step_inv (s : Session) (e : Event) (t : Session) (h : SessionInv s)
    (ht : step s e = some t) : SessionInv t := by
  obtain ⟨hworld, hasked⟩ := world_step h ht
  have hbins := BinRange.step_inv s.world e t.world h.bins (h.opened.closesRecent e) hworld
  obtain ⟨hclock, -, rfl⟩ := step_eq_some ht
  exact {
    recording := by rw [h.recording, recording_apply]
    bins := hbins
    opened := openInv_apply h.opened h.bins.2.1 hclock hasked.mp }

theorem init_inv (options : ProfilingOptions) : SessionInv (init options) where
  recording := rfl
  bins := BinRange.setup_inv options
  opened := OpenInv.of_none (fun _ => rfl) 0

/-- V8 records the profile of the current title while the profiler runs, and none else. -/
def RecordsCurrent (s : Session) : Prop :=
  ∀ title, (s.recording title).isSome ↔
    s.world.profiling.running = true ∧ title = s.world.profiling.profilerSeq

/-- V8 has a profile for each request, and hands it over. -/
def HandsOver (s : Session) (e : Event) : Prop :=
  (stops s.world.profiling e).isSome → (handedOver e).isSome

/-- **V8's profiles.** If V8 records what it is asked to, exactly one profile is being recorded
while the profiler runs, none when it is stopped, and no collect or stop comes away without one. -/
theorem one_profile_recorded (options : ProfilingOptions) (es : List Event) :
    Always step RecordsCurrent (init options) es ∧ Along step HandsOver (init options) es := by
  refine ⟨?_, ?_⟩
  · refine (always_of_step step_inv es _ (init_inv options)).imp fun s h title => ?_
    rw [h.recording]
    exact isSome_recordingOf _ _
  · exact along_of_along (C := fun _ _ => True)
      (fun s e t h _ ht => ⟨step_inv s e t h ht, (world_step h ht).2.mp⟩) es _ (init_inv options)
      (along_of_forall_mem es _ fun _ _ => trivial)

/-- **Bin indices.** Then every bin index is in range. -/
theorem session_bins_in_range (options : ProfilingOptions) (es : List Event) :
    Always step (fun s => BinRange.BinsInRange s.world) (init options) es :=
  (always_of_step step_inv es _ (init_inv options)).imp fun _ h => h.bins.inRange

/-- A context that is entered before a collect and left after it. -/
example :
    ([.startCpuProfiler ⟨1000, 5, 2000, 3000⟩,
      .enterContext 7 4000 "0af7651916cd43dd8448eb211c80319c" "b7ad6b7169203331",
      .collect ⟨100000000, 6, 110000000, 120000000, 130000000, 140000000, 150000000⟩
        (some ⟨2, []⟩),
      .exitContext 7 160000000, .stop (some ⟨110000, []⟩)].foldlM step
        (init ⟨10000, false, false, 500000000⟩)).isSome = true := by
  decide

end SplunkOtel.Native.Sessions
