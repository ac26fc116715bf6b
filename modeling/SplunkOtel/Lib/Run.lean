import Mathlib.Tactic.Common

/-!
# Runs of an event-driven system

A system is a partial step function: `step s e = none` when the event `e` cannot happen in `s`.
A run is a list of events, taken in order, and ends early at an event that cannot happen.
-/

namespace Lib.Run

variable {S E : Type*} (step : S → E → Option S)

/-- `P` holds in every state that the run reaches, the first one included. -/
def Always (P : S → Prop) : S → List E → Prop
  | s, [] => P s
  | s, e :: es => P s ∧ match step s e with
    | none => True
    | some t => Always P t es

/-- Every event that the run takes meets `C` in the state it finds. -/
def Along (C : S → E → Prop) : S → List E → Prop
  | _, [] => True
  | s, e :: es => match step s e with
    | none => True
    | some t => C s e ∧ Along C t es

instance Always.decidable (P : S → Prop) [DecidablePred P] :
    ∀ (s : S) (es : List E), Decidable (Always step P s es)
  | s, [] => inferInstanceAs (Decidable (P s))
  | s, e :: es =>
    @instDecidableAnd (P s) (match step s e with
      | none => True
      | some t => Always step P t es) _ <|
    match step s e with
    | none => inferInstanceAs (Decidable True)
    | some t => Always.decidable P t es

instance Along.decidable (C : S → E → Prop) [∀ s e, Decidable (C s e)] :
    ∀ (s : S) (es : List E), Decidable (Along step C s es)
  | _, [] => inferInstanceAs (Decidable True)
  | s, e :: es =>
    match h : step s e with
    | none => decidable_of_iff True (by rw [Along, h])
    | some t =>
      @decidable_of_iff _ (C s e ∧ Along step C t es) (by rw [Along, h])
        (@instDecidableAnd _ _ _ (Along.decidable C t es))

variable {step}

/-- The rule of invariants: what holds at the start and is kept by every event that meets `C`
holds at every state of a run whose events all meet `C`. -/
theorem always_of_along {Inv P : S → Prop} {C : S → E → Prop} (hP : ∀ s, Inv s → P s)
    (hstep : ∀ s e t, Inv s → C s e → step s e = some t → Inv t) (es : List E) (s : S)
    (hs : Inv s) (h : Along step C s es) : Always step P s es := by
  induction es generalizing s with
  | nil => exact hP s hs
  | cons e es ih =>
    rw [Always]
    refine ⟨hP s hs, ?_⟩
    cases ht : step s e with
    | none => trivial
    | some t =>
      rw [Along, ht] at h
      exact ih t (hstep s e t hs h.1 ht) h.2

theorem Always.imp {P Q : S → Prop} {s : S} {es : List E} (h : Always step P s es)
    (hPQ : ∀ s, P s → Q s) : Always step Q s es := by
  induction es generalizing s with
  | nil => exact hPQ s h
  | cons e es ih =>
    rw [Always] at h ⊢
    refine ⟨hPQ s h.1, ?_⟩
    cases ht : step s e with
    | none => trivial
    | some t =>
      rw [ht] at h
      exact ih h.2

theorem always_of_step {Inv : S → Prop} (hstep : ∀ s e t, Inv s → step s e = some t → Inv t)
    (es : List E) (s : S) (hs : Inv s) : Always step Inv s es := by
  induction es generalizing s with
  | nil => exact hs
  | cons e es ih =>
    rw [Always]
    refine ⟨hs, ?_⟩
    cases ht : step s e with
    | none => trivial
    | some t => exact ih t (hstep s e t hs ht)

/-- When an event that fails `C` breaks `P` at once, a run keeps `P` throughout only if all of
its events meet `C`. -/
theorem along_of_always {Inv P : S → Prop} {C : S → E → Prop}
    (hstep : ∀ s e t, Inv s → C s e → step s e = some t → Inv t)
    (hbreak : ∀ s e t, Inv s → ¬ C s e → step s e = some t → ¬ P t) (es : List E) (s : S)
    (hs : Inv s) (h : Always step P s es) : Along step C s es := by
  induction es generalizing s with
  | nil => trivial
  | cons e es ih =>
    rw [Along]
    cases ht : step s e with
    | none => trivial
    | some t =>
      have hrest : Always step P t es := by
        have := h.2
        rwa [ht] at this
      have hPt : P t := by
        cases es with
        | nil => exact hrest
        | cons _ _ => exact hrest.1
      have hC : C s e := by
        by_contra hC
        exact hbreak s e t hs hC ht hPt
      exact ⟨hC, ih t (hstep s e t hs hC ht) hrest⟩

/-- Both directions: a run keeps `P` throughout exactly when all of its events meet `C`. -/
theorem always_iff_along {Inv P : S → Prop} {C : S → E → Prop} (hP : ∀ s, Inv s → P s)
    (hstep : ∀ s e t, Inv s → C s e → step s e = some t → Inv t)
    (hbreak : ∀ s e t, Inv s → ¬ C s e → step s e = some t → ¬ P t) (es : List E) (s : S)
    (hs : Inv s) : Always step P s es ↔ Along step C s es :=
  ⟨along_of_always hstep hbreak es s hs, always_of_along hP hstep es s hs⟩

theorem along_of_along {Inv : S → Prop} {C D : S → E → Prop}
    (hstep : ∀ s e t, Inv s → C s e → step s e = some t → Inv t ∧ D s e) (es : List E) (s : S)
    (hs : Inv s) (h : Along step C s es) : Along step D s es := by
  induction es generalizing s with
  | nil => trivial
  | cons e es ih =>
    rw [Along] at h ⊢
    cases ht : step s e with
    | none => trivial
    | some t =>
      rw [ht] at h
      obtain ⟨hinv, hD⟩ := hstep s e t hs h.1 ht
      exact ⟨hD, ih t hinv h.2⟩

theorem along_of_forall_mem {D : E → Prop} (es : List E) (s : S) (h : ∀ e ∈ es, D e) :
    Along step (fun _ e => D e) s es := by
  induction es generalizing s with
  | nil => trivial
  | cons e es ih =>
    rw [Along]
    cases ht : step s e with
    | none => trivial
    | some t =>
      exact ⟨h e List.mem_cons_self, ih t fun e' he' => h e' (List.mem_cons_of_mem _ he')⟩

theorem along_congr_of_along {Inv : S → Prop} {C D D' : S → E → Prop}
    (hstep : ∀ s e t, Inv s → C s e → step s e = some t → Inv t)
    (h : ∀ s e t, Inv s → C s e → step s e = some t → (D s e ↔ D' s e)) (es : List E) (s : S)
    (hs : Inv s) (hC : Along step C s es) : Along step D s es ↔ Along step D' s es := by
  induction es generalizing s with
  | nil => rfl
  | cons e es ih =>
    rw [Along] at hC ⊢
    rw [Along]
    cases ht : step s e with
    | none => rfl
    | some t =>
      rw [ht] at hC
      simp only
      rw [h s e t hs hC.1 ht, ih t (hstep s e t hs hC.1 ht) hC.2]

theorem along_congr {Inv : S → Prop} {C D : S → E → Prop}
    (hstep : ∀ s e t, Inv s → step s e = some t → Inv t)
    (h : ∀ s e t, Inv s → step s e = some t → (C s e ↔ D s e)) (es : List E) (s : S) (hs : Inv s) :
    Along step C s es ↔ Along step D s es :=
  along_congr_of_along (C := fun _ _ => True) (fun s e t hs _ => hstep s e t hs)
    (fun s e t hs _ => h s e t hs) es s hs (along_of_forall_mem es s fun _ _ => trivial)

/-! ## What a run puts out -/

variable (step)

/-- The state after the run. -/
def last : S → List E → S
  | s, [] => s
  | s, e :: es => match step s e with
    | none => s
    | some t => last t es

/-- What the events of the run put out, in order. -/
def outputs {A : Type*} (out : S → E → List A) : S → List E → List A
  | _, [] => []
  | s, e :: es => match step s e with
    | none => []
    | some t => out s e ++ outputs out t es

variable {step}

/-- An invariant of the state and of what was put out so far. -/
theorem outputs_of_along {A : Type*} {out : S → E → List A} {Inv : S → List A → Prop}
    {C : S → E → Prop} (hstep : ∀ s as e t, Inv s as → C s e → step s e = some t →
      Inv t (as ++ out s e)) (es : List E) (s : S) (as : List A) (hs : Inv s as)
    (h : Along step C s es) : Inv (last step s es) (as ++ outputs step out s es) := by
  induction es generalizing s as with
  | nil =>
    rw [outputs, List.append_nil]
    exact hs
  | cons e es ih =>
    rw [Along] at h
    rw [last, outputs]
    cases ht : step s e with
    | none =>
      rw [List.append_nil]
      exact hs
    | some t =>
      rw [ht] at h
      rw [← List.append_assoc]
      exact ih t (as ++ out s e) (hstep s as e t hs h.1 ht) h.2

theorem outputs_of_step {A : Type*} {out : S → E → List A} {Inv : S → List A → Prop}
    (hstep : ∀ s as e t, Inv s as → step s e = some t → Inv t (as ++ out s e)) (es : List E)
    (s : S) (hs : Inv s []) : Inv (last step s es) (outputs step out s es) :=
  outputs_of_along (C := fun _ _ => True) (fun s as e t hs _ => hstep s as e t hs) es s [] hs
    (along_of_forall_mem es s fun _ _ => trivial)

end Lib.Run
