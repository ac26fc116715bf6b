import Mathlib.Logic.Basic
import Mathlib.Order.Basic

/-!
# Computations that change a state and may throw

`EStateM` keeps what was done to the state before an error.
-/

namespace Lib.Effects

variable {ε σ α β : Type}

/-- From `s`, `m` returns with a result and a state as `Q` says, or it throws with an error and a
state as `E` says. -/
def Ends (m : EStateM ε σ α) (s : σ) (Q : α → σ → Prop) (E : ε → σ → Prop) : Prop :=
  match m.run s with
  | .ok a s' => Q a s'
  | .error e s' => E e s'

abbrev Returns (m : EStateM ε σ α) (s : σ) (Q : α → σ → Prop) : Prop :=
  Ends m s Q fun _ _ => False

theorem ends_of_ok {m : EStateM ε σ α} {s s' : σ} {a : α} (h : m.run s = .ok a s')
    (Q : α → σ → Prop) (E : ε → σ → Prop) : Ends m s Q E ↔ Q a s' := by
  unfold Ends
  rw [h]

theorem ends_of_error {m : EStateM ε σ α} {s s' : σ} {e : ε} (h : m.run s = .error e s')
    (Q : α → σ → Prop) (E : ε → σ → Prop) : Ends m s Q E ↔ E e s' := by
  unfold Ends
  rw [h]

instance Ends.decidable (m : EStateM ε σ α) (s : σ) (Q : α → σ → Prop) (E : ε → σ → Prop)
    [∀ a s', Decidable (Q a s')] [∀ e s', Decidable (E e s')] : Decidable (Ends m s Q E) :=
  match h : m.run s with
  | .ok _ _ => decidable_of_iff _ (ends_of_ok h Q E).symm
  | .error _ _ => decidable_of_iff _ (ends_of_error h Q E).symm

section Rules

variable {s : σ}

theorem Ends.mono {m : EStateM ε σ α} {Q Q' : α → σ → Prop} {E E' : ε → σ → Prop}
    (h : Ends m s Q E) (hQ : ∀ a s', Q a s' → Q' a s') (hE : ∀ e s', E e s' → E' e s') :
    Ends m s Q' E' := by
  unfold Ends at h ⊢
  split
  · next a s' heq =>
    rw [heq] at h
    exact hQ a s' h
  · next e s' heq =>
    rw [heq] at h
    exact hE e s' h

theorem Ends.and {m : EStateM ε σ α} {Q Q' : α → σ → Prop} {E E' : ε → σ → Prop}
    (h : Ends m s Q E) (h' : Ends m s Q' E') :
    Ends m s (fun a s' => Q a s' ∧ Q' a s') fun e s' => E e s' ∧ E' e s' := by
  unfold Ends at h h' ⊢
  split
  · next a s' heq =>
    rw [heq] at h h'
    exact ⟨h, h'⟩
  · next e s' heq =>
    rw [heq] at h h'
    exact ⟨h, h'⟩

variable (E : ε → σ → Prop)

@[simp] theorem ends_pure (a : α) (Q : α → σ → Prop) :
    Ends (pure a : EStateM ε σ α) s Q E ↔ Q a s := Iff.rfl

@[simp] theorem ends_get (Q : σ → σ → Prop) :
    Ends (get : EStateM ε σ σ) s Q E ↔ Q s s := Iff.rfl

@[simp] theorem ends_modify (f : σ → σ) (Q : PUnit → σ → Prop) :
    Ends (modify f : EStateM ε σ PUnit) s Q E ↔ Q ⟨⟩ (f s) := Iff.rfl

@[simp] theorem ends_throw (e : ε) (Q : α → σ → Prop) :
    Ends (throw e : EStateM ε σ α) s Q E ↔ E e s := Iff.rfl

@[simp] theorem ends_bind (m : EStateM ε σ α) (f : α → EStateM ε σ β) (Q : β → σ → Prop) :
    Ends (m >>= f) s Q E ↔ Ends m s (fun a s' => Ends (f a) s' Q E) E := by
  cases h : m.run s with
  | ok a s' =>
    rw [ends_of_ok h]
    unfold Ends
    rw [EStateM.run_bind, h]
  | error e s' =>
    rw [ends_of_error h]
    unfold Ends
    rw [EStateM.run_bind, h]

@[simp] theorem ends_map (f : α → β) (m : EStateM ε σ α) (Q : β → σ → Prop) :
    Ends (f <$> m) s Q E ↔ Ends m s (fun a => Q (f a)) E := by
  rw [map_eq_pure_bind, ends_bind]
  exact Iff.rfl

@[simp] theorem ends_ite (c : Prop) [Decidable c] (m m' : EStateM ε σ α) (Q : α → σ → Prop) :
    Ends (if c then m else m') s Q E ↔ if c then Ends m s Q E else Ends m' s Q E := by
  split_ifs
  · exact Iff.rfl
  · exact Iff.rfl

theorem ends_ofExcept (x : Except ε α) (Q : α → σ → Prop) :
    Ends (MonadExcept.ofExcept x : EStateM ε σ α) s Q E ↔
      (∀ a, x = .ok a → Q a s) ∧ ∀ e, x = .error e → E e s := by
  cases x with
  | error e =>
    refine ⟨fun h => ⟨?_, ?_⟩, fun h => h.2 e rfl⟩
    · rintro a ⟨⟩
    · rintro e' ⟨⟩
      exact h
  | ok a =>
    refine ⟨fun h => ⟨?_, ?_⟩, fun h => h.1 a rfl⟩
    · rintro a' ⟨⟩
      exact h
    · rintro e ⟨⟩

theorem returns_ofExcept (x : Except ε α) (Q : α → σ → Prop) :
    Returns (MonadExcept.ofExcept x : EStateM ε σ α) s Q ↔ ∃ a, x = .ok a ∧ Q a s := by
  cases x with
  | error e =>
    refine iff_of_false id ?_
    rintro ⟨a, ⟨⟩, -⟩
  | ok a =>
    refine ⟨fun h => ⟨a, rfl, h⟩, ?_⟩
    rintro ⟨a', ⟨⟩, h⟩
    exact h

theorem returns_forM {f : α → EStateM ε σ PUnit} {P : α → Prop}
    (h : ∀ x s Q, Returns (f x) s Q ↔ P x ∧ Q ⟨⟩ s) (xs : List α) (Q : PUnit → σ → Prop) :
    Returns (forM xs f) s Q ↔ (∀ x ∈ xs, P x) ∧ Q ⟨⟩ s := by
  induction xs with
  | nil => simp
  | cons x xs ih =>
    unfold Returns at h ih ⊢
    rw [List.forM_cons, ends_bind, h, ih, List.forall_mem_cons, and_assoc]

theorem forM_keeps {f : α → EStateM ε σ PUnit} {I : σ → Prop}
    (h : ∀ x s, I s → Ends (f x) s (fun _ => I) fun _ => I) (xs : List α) (hs : I s) :
    Ends (forM xs f) s (fun _ => I) fun _ => I := by
  induction xs generalizing s with
  | nil => simpa using hs
  | cons x xs ih =>
    rw [List.forM_cons, ends_bind]
    exact (h x s hs).mono (fun _ s' hs' => ih hs') fun _ _ hs' => hs'

end Rules

variable {m : EStateM ε σ α} {s : σ}

theorem returns_and {Q R : α → σ → Prop} {E : ε → σ → Prop} {P : Prop} (hm : Ends m s R E)
    (h : ∀ a s', R a s' → (Q a s' ↔ P)) :
    Returns m s Q ↔ Returns m s (fun _ _ => True) ∧ P := by
  unfold Returns
  cases hr : m.run s with
  | ok a s' =>
    rw [ends_of_ok hr] at hm
    rw [ends_of_ok hr, ends_of_ok hr, h a s' hm, true_and]
  | error e s' => rw [ends_of_error hr, ends_of_error hr, false_and]

theorem ends_iff_returns {Q : α → σ → Prop} {E : ε → σ → Prop}
    (h : Ends m s (fun _ _ => True) fun e s' => ¬ E e s') : Ends m s Q E ↔ Returns m s Q := by
  unfold Returns
  cases hr : m.run s with
  | ok a s' => rw [ends_of_ok hr, ends_of_ok hr]
  | error e s' =>
    rw [ends_of_error hr] at h
    rw [ends_of_error hr, ends_of_error hr]
    exact iff_of_false h id

end Lib.Effects
