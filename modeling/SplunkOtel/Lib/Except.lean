import Mathlib.Data.List.Forall2

/-!
# Computations that may throw
-/

namespace Lib

variable {α β : Type} {ε : Type*}

theorem ok_bind (a : α) (f : α → Except ε β) : (Except.ok a >>= f) = f a := rfl

theorem ok_map_iff (f : α → β) (x : Except ε α) :
    (∃ b, f <$> x = .ok b) ↔ ∃ a, x = .ok a := by
  rcases x with e | a
  · constructor
    · rintro ⟨b, h⟩
      cases h
    · rintro ⟨a, h⟩
      cases h
  · exact ⟨fun _ => ⟨a, rfl⟩, fun _ => ⟨f a, rfl⟩⟩

theorem bind_eq_ok {x : Except ε α} {f : α → Except ε β} {b : β} :
    x >>= f = .ok b ↔ ∃ a, x = .ok a ∧ f a = .ok b := by
  cases x with
  | error e =>
    constructor
    · intro h
      cases h
    · rintro ⟨a, h, -⟩
      cases h
  | ok a =>
    constructor
    · intro h
      exact ⟨a, rfl, h⟩
    · rintro ⟨a', h, hf⟩
      cases h
      exact hf

theorem exists_mapM_eq_ok (f : α → Except ε β) (xs : List α) :
    (∃ ys, xs.mapM f = .ok ys) ↔ ∀ x ∈ xs, ∃ y, f x = .ok y := by
  induction xs with
  | nil => simp [pure, Except.pure]
  | cons x xs ih =>
    rw [List.forall_mem_cons, ← ih]
    constructor
    · rintro ⟨ys, h⟩
      rw [List.mapM_cons, bind_eq_ok] at h
      obtain ⟨y, hy, h⟩ := h
      rw [bind_eq_ok] at h
      obtain ⟨ys', hys, -⟩ := h
      exact ⟨⟨y, hy⟩, ys', hys⟩
    · rintro ⟨⟨y, hy⟩, ys, hys⟩
      refine ⟨y :: ys, ?_⟩
      rw [List.mapM_cons, hy, hys]
      rfl

theorem mapM_congr_of_forall₂ {f : α → Except ε β} {xs ys : List α}
    (h : List.Forall₂ (fun x y => f x = f y) xs ys) : xs.mapM f = ys.mapM f := by
  induction h with
  | nil => rfl
  | cons hxy _ ih => rw [List.mapM_cons, List.mapM_cons, hxy, ih]

theorem filterM_eq_ok {f : α → Except ε Bool} {p : α → Bool} {xs : List α}
    (h : ∀ x ∈ xs, f x = .ok (p x)) : xs.filterM f = .ok (xs.filter p) := by
  have haux (ys : List α) : xs.filterAuxM f ys = .ok ((xs.filter p).reverse ++ ys) := by
    induction xs generalizing ys with
    | nil => rfl
    | cons x xs ih =>
      have hrest := ih fun x' hx' => h x' (List.mem_cons_of_mem x hx')
      rw [List.filterAuxM, h x List.mem_cons_self, ok_bind]
      cases hp : p x with
      | true => simp [hrest, hp]
      | false => simp [hrest, hp]
  unfold List.filterM
  rw [haux, ok_bind, List.append_nil, List.reverse_reverse]
  rfl

theorem filter_eq_filter_iff {p q : α → Bool} {xs : List α} :
    xs.filter p = xs.filter q ↔ ∀ x ∈ xs, p x = q x := by
  constructor
  · intro h x hx
    have hmem : x ∈ xs.filter p ↔ x ∈ xs.filter q := by rw [h]
    simpa [List.mem_filter, hx, ← Bool.eq_iff_iff] using hmem
  · exact List.filter_congr

end Lib
