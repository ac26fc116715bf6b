import Mathlib.Tactic.Common

/-!
# Systems that answer

A system answers each event. It refines a simpler one when a step of the one is a step of the other
with the same answer: whole runs then get the same answers. What the steps gather about the answers,
a whole run has gathered.
-/

namespace Lib.Simulation

variable {S T E O : Type*}

/-- The state after the run and its answers, `none` when a step has no result. -/
def run (step : S → E → Option (S × O)) : S → List E → Option (S × List O)
  | s, [] => some (s, [])
  | s, e :: es => do
    let (t, o) ← step s e
    let (u, os) ← run step t es
    return (u, o :: os)

/-- The run of a system whose steps always have a result. -/
def play (step : T → E → T × O) : T → List E → T × List O
  | t, [] => (t, [])
  | t, e :: es =>
    let rest := play step (step t e).1 es
    (rest.1, (step t e).2 :: rest.2)

/-- Every event of the run meets `C` in the state it finds. -/
def Meets (step : S → E → Option (S × O)) (C : S → E → Prop) : S → List E → Prop
  | _, [] => True
  | s, e :: es => C s e ∧ match step s e with
    | none => True
    | some (t, _) => Meets step C t es

instance Meets.decidable (step : S → E → Option (S × O)) (C : S → E → Prop)
    [∀ s e, Decidable (C s e)] : ∀ (s : S) (es : List E), Decidable (Meets step C s es)
  | _, [] => inferInstanceAs (Decidable True)
  | s, e :: es =>
    @instDecidableAnd (C s e) (match step s e with
      | none => True
      | some (t, _) => Meets step C t es) _ <|
    match step s e with
    | none => inferInstanceAs (Decidable True)
    | some (t, _) => Meets.decidable step C t es

variable {step : S → E → Option (S × O)} {spec : T → E → T × O} {R : S → T → Prop}
  {C : S → E → Prop}

theorem run_cons {s t : S} {e : E} {o : O} (h : step s e = some (t, o)) (es : List E) :
    run step s (e :: es) = (run step t es).map fun r => (r.1, o :: r.2) := by
  rw [run, h]
  simp only [Option.bind_eq_bind, Option.bind_some]
  cases run step t es with
  | none => rfl
  | some r => rfl

theorem meets_cons {s t : S} {e : E} {o : O} (h : step s e = some (t, o)) (es : List E) :
    Meets step C s (e :: es) ↔ C s e ∧ Meets step C t es := by
  rw [Meets, h]

theorem Meets.and_mem {D : E → Prop} {s : S} {es : List E} (h : Meets step C s es)
    (hD : ∀ e ∈ es, D e) : Meets step (fun s e => D e ∧ C s e) s es := by
  induction es generalizing s with
  | nil => trivial
  | cons e es ih =>
    obtain ⟨he, hes⟩ := List.forall_mem_cons.mp hD
    obtain ⟨hCe, hCes⟩ := h
    refine ⟨⟨he, hCe⟩, ?_⟩
    cases hs : step s e with
    | none => trivial
    | some r =>
      rw [hs] at hCes
      exact ih hCes hes

theorem run_gathers {I : S → Prop} {F : S → E → O → Prop}
    (hstep : ∀ s e, I s → C s e → ∃ s' o, step s e = some (s', o) ∧ I s' ∧ F s' e o ∧
      ∀ e' o', F s e' o' → F s' e' o')
    (es : List E) (s : S) (hs : I s) (hC : Meets step C s es) :
    ∃ s' os, run step s es = some (s', os) ∧ I s' ∧ (∀ p ∈ es.zip os, F s' p.1 p.2) ∧
      ∀ e o, F s e o → F s' e o := by
  induction es generalizing s with
  | nil => exact ⟨s, [], rfl, hs, nofun, fun _ _ => id⟩
  | cons e es ih =>
    obtain ⟨hCe, hCes⟩ := hC
    obtain ⟨t, o, ht, hIt, hFt, hkept⟩ := hstep s e hs hCe
    rw [ht] at hCes
    obtain ⟨s', os, hrun, hIs', hall, hlater⟩ := ih t hIt hCes
    refine ⟨s', o :: os, ?_, hIs', ?_, fun e' o' h => hlater e' o' (hkept e' o' h)⟩
    · rw [run_cons ht, hrun]
      rfl
    · rw [List.zip_cons_cons, List.forall_mem_cons]
      exact ⟨hlater e o hFt, hall⟩

theorem run_eq_play
    (hstep : ∀ s t e, R s t → C s e → ∃ s', step s e = some (s', (spec t e).2) ∧ R s' (spec t e).1)
    (es : List E) (s : S) (t : T) (h : R s t) (hC : Meets step C s es) :
    ∃ s', run step s es = some (s', (play spec t es).2) ∧ R s' (play spec t es).1 := by
  induction es generalizing s t with
  | nil => exact ⟨s, rfl, h⟩
  | cons e es ih =>
    obtain ⟨hCe, hCes⟩ := hC
    obtain ⟨s₁, hs₁, hR₁⟩ := hstep s t e h hCe
    rw [hs₁] at hCes
    obtain ⟨s₂, hs₂, hR₂⟩ := ih s₁ (spec t e).1 hR₁ hCes
    refine ⟨s₂, ?_, hR₂⟩
    rw [run_cons hs₁, hs₂]
    rfl

theorem run_answers
    (hstep : ∀ s t e s' o, R s t → step s e = some (s', o) → o = (spec t e).2 ∧ R s' (spec t e).1)
    (es : List E) (s : S) (t : T) {s' : S} {os : List O} (h : R s t)
    (hrun : run step s es = some (s', os)) : os = (play spec t es).2 ∧ R s' (play spec t es).1 := by
  induction es generalizing s t os with
  | nil =>
    cases hrun
    exact ⟨rfl, h⟩
  | cons e es ih =>
    rcases hs : step s e with _ | ⟨s₁, o⟩
    · rw [run, hs] at hrun
      cases hrun
    · obtain ⟨rfl, hR₁⟩ := hstep s t e s₁ o h hs
      rw [run_cons hs, Option.map_eq_some_iff] at hrun
      obtain ⟨⟨s₂, os'⟩, hrest, heq⟩ := hrun
      cases heq
      obtain ⟨rfl, hR₂⟩ := ih s₁ _ hR₁ hrest
      exact ⟨rfl, hR₂⟩

theorem play_explained {I : List E → T → Prop} {G : List E → O → Prop}
    (hstep : ∀ past t e, I past t → I (past ++ [e]) (spec t e).1 ∧ G (past ++ [e]) (spec t e).2)
    (hmono : ∀ past later o, G past o → G (past ++ later) o) (es past : List E) (t : T)
    (h : I past t) : ∀ o ∈ (play spec t es).2, G (past ++ es) o := by
  induction es generalizing past t with
  | nil => exact fun o ho => absurd ho List.not_mem_nil
  | cons e es ih =>
    obtain ⟨hnext, hanswer⟩ := hstep past t e h
    intro o ho
    rw [List.append_cons]
    rcases List.mem_cons.mp ho with rfl | ho
    · exact hmono _ es _ hanswer
    · exact ih (past ++ [e]) _ hnext o ho

/-! ## Specifications that leave a choice -/

/-- The answers are ones that `allows` permits, one event after the other. -/
def Follows (allows : T → E → O → T → Prop) : T → List E → List O → T → Prop
  | t, [], [], t' => t' = t
  | t, e :: es, o :: os, t' => ∃ u, allows t e o u ∧ Follows allows u es os t'
  | _, _, _, _ => False

theorem run_follows {allows : T → E → O → T → Prop}
    (hstep : ∀ s t e, R s t → C s e →
      ∃ s' o t', step s e = some (s', o) ∧ allows t e o t' ∧ R s' t')
    (es : List E) (s : S) (t : T) (h : R s t) (hC : Meets step C s es) :
    ∃ s' os t', run step s es = some (s', os) ∧ Follows allows t es os t' ∧ R s' t' := by
  induction es generalizing s t with
  | nil => exact ⟨s, [], t, rfl, rfl, h⟩
  | cons e es ih =>
    obtain ⟨hCe, hCes⟩ := hC
    obtain ⟨s₁, o, t₁, hs₁, hallows, hR₁⟩ := hstep s t e h hCe
    rw [hs₁] at hCes
    obtain ⟨s₂, os, t₂, hrun, hfollows, hR₂⟩ := ih s₁ t₁ hR₁ hCes
    refine ⟨s₂, o :: os, t₂, ?_, ⟨t₁, hallows, hfollows⟩, hR₂⟩
    rw [run_cons hs₁, hrun]
    rfl

end Lib.Simulation
