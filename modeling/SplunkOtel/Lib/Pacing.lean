import Mathlib.Data.Int.Notation
import Mathlib.Data.List.Sublists
import Mathlib.Tactic.Common
import Mathlib.Tactic.Linarith

/-!
# Pacing

A filter that lets an element through only after a threshold, and moves the threshold by one
interval each time. However the elements come, no more get through than one for each interval.
-/

namespace Lib.Pacing

variable {α : Type*} (accept : α → Bool) (time : α → ℤ) (interval : ℤ)

/-- `next` is the threshold. -/
def letThrough : ℤ → List α → List α
  | _, [] => []
  | next, a :: as =>
    if accept a ∧ next ≤ time a then a :: letThrough (next + interval) as else letThrough next as

/-- The `k`-th element comes `k` intervals after the start, or later. -/
def Paced (start : ℤ) (l : List α) : Prop :=
  ∀ (k : ℕ) (h : k < l.length), start + k * interval ≤ time l[k]

variable {accept time interval}

theorem letThrough_sublist (next : ℤ) (l : List α) :
    (letThrough accept time interval next l).Sublist l := by
  induction l generalizing next with
  | nil => exact List.Sublist.refl _
  | cons a as ih =>
    unfold letThrough
    split
    · exact (ih _).cons_cons a
    · exact (ih _).cons a

theorem accept_of_mem_letThrough (next : ℤ) (l : List α) :
    ∀ a ∈ letThrough accept time interval next l, accept a = true := by
  induction l generalizing next with
  | nil => exact nofun
  | cons a as ih =>
    unfold letThrough
    split
    · rename_i hthrough
      exact List.forall_mem_cons.mpr ⟨hthrough.1, ih _⟩
    · exact ih _

theorem paced_letThrough (next : ℤ) (l : List α) :
    Paced time interval next (letThrough accept time interval next l) := by
  induction l generalizing next with
  | nil => exact fun k hk => absurd hk (Nat.not_lt_zero k)
  | cons a as ih =>
    unfold letThrough
    split
    · rename_i hthrough
      rintro (_ | k) hk
      · simpa using hthrough.2
      · have hrest := ih (next + interval) k (by simpa using hk)
        simp only [List.getElem_cons_succ]
        push_cast
        linarith
    · exact ih _

/-! ## Counting -/

variable {start : ℤ} {l : List α}

theorem Paced.length_filter_le (h : Paced time interval start l) (hinterval : 0 < interval) {T : ℤ}
    (hT : start ≤ T) :
    ((l.filter (time · ≤ T)).length : ℤ) ≤ (T - start) / interval + 1 := by
  have helapsed : 0 ≤ (T - start) / interval := Int.ediv_nonneg (by omega) hinterval.le
  obtain ⟨n, hn⟩ := Int.eq_ofNat_of_zero_le helapsed
  have hlate : (l.drop (n + 1)).filter (time · ≤ T) = [] := by
    rw [List.filter_eq_nil_iff]
    intro a ha
    obtain ⟨i, hi, rfl⟩ := List.getElem_of_mem ha
    rw [List.length_drop] at hi
    have hpaced := h (n + 1 + i) (by omega)
    have hend : T - start < (n + 1) * interval := by
      have := Int.lt_ediv_add_one_mul_self (T - start) hinterval
      rwa [hn] at this
    rw [List.getElem_drop]
    simp only [decide_eq_true_eq, not_le]
    push_cast at hpaced
    nlinarith
  rw [hn]
  calc ((l.filter (time · ≤ T)).length : ℤ)
      = ((l.take (n + 1)).filter (time · ≤ T)).length := by
        conv_lhs => rw [← List.take_append_drop (n + 1) l]
        rw [List.filter_append, hlate, List.append_nil]
    _ ≤ (l.take (n + 1)).length := by exact_mod_cast List.length_filter_le _ _
    _ ≤ n + 1 := by exact_mod_cast List.length_take_le _ _

theorem Paced.filter_eq_nil (h : Paced time interval start l) (hinterval : 0 ≤ interval) {T : ℤ}
    (hT : T < start) : l.filter (time · ≤ T) = [] := by
  rw [List.filter_eq_nil_iff]
  intro a ha
  obtain ⟨k, hk, rfl⟩ := List.getElem_of_mem ha
  have hpaced := h k hk
  have hnonneg : 0 ≤ (k : ℤ) * interval := mul_nonneg (Int.natCast_nonneg k) hinterval
  simp only [decide_eq_true_eq, not_le]
  omega

end Lib.Pacing
