import Mathlib.Order.Lattice
import Mathlib.Order.Monotone.Defs
import Mathlib.Data.List.Induction
import Mathlib.Tactic.Common

/-!
# Stabbing queries on intervals

A query asks for the interval that contains a point and begins last. A scan answers it, and so does
a scan of one bucket, when every interval lies in all the buckets that it meets.
-/

namespace Lib.Stabbing

variable {ι α β : Type*} [LinearOrder α]

/-- The interval from `lo i` to `hi i` contains `x`. -/
def Stabs (lo hi : ι → α) (x : α) (i : ι) : Prop := lo i ≤ x ∧ x ≤ hi i

instance (lo hi : ι → α) (x : α) : DecidablePred (Stabs lo hi x) :=
  fun _ => inferInstanceAs (Decidable (_ ∧ _))

/-- The answer to the query of `x` among the intervals in `l`. -/
def IsInnermost (lo hi : ι → α) (x : α) (l : List ι) : Option ι → Prop
  | none => ∀ i ∈ l, ¬ Stabs lo hi x i
  | some i => i ∈ l ∧ Stabs lo hi x i ∧ ∀ j ∈ l, Stabs lo hi x j → lo j ≤ lo i

/-- One step of a scan: the best so far is kept unless `i` begins later. -/
def closest (lo hi : ι → α) (x : α) (t : Option ι) (i : ι) : Option ι :=
  if Stabs lo hi x i then
    match t with
    | none => some i
    | some b => if lo b < lo i then some i else some b
  else t

variable {lo hi : ι → α} {x : α}

theorem isInnermost_skip {l : List ι} {i : ι} {t : Option ι} (hi' : ¬ Stabs lo hi x i)
    (h : IsInnermost lo hi x l t) : IsInnermost lo hi x (l ++ [i]) t := by
  rcases t with _ | b
  · intro j hj
    rcases List.mem_append.mp hj with hj | hj
    · exact h j hj
    · rwa [List.mem_singleton.mp hj]
  · obtain ⟨hb, hstabs, hmax⟩ := h
    refine ⟨List.mem_append_left _ hb, hstabs, fun j hj hjs => ?_⟩
    rcases List.mem_append.mp hj with hj | hj
    · exact hmax j hj hjs
    · rw [List.mem_singleton.mp hj] at hjs
      exact absurd hjs hi'

theorem isInnermost_closest {l : List ι} {i : ι} {t : Option ι} (h : IsInnermost lo hi x l t) :
    IsInnermost lo hi x (l ++ [i]) (closest lo hi x t i) := by
  unfold closest
  split
  · rename_i hstabs
    rcases t with _ | b
    · refine ⟨by simp, hstabs, fun j hj hjs => ?_⟩
      rcases List.mem_append.mp hj with hj | hj
      · exact absurd hjs (h j hj)
      · rw [List.mem_singleton.mp hj]
    · obtain ⟨hb, hbs, hmax⟩ := h
      simp only
      split
      · rename_i hlt
        refine ⟨by simp, hstabs, fun j hj hjs => ?_⟩
        rcases List.mem_append.mp hj with hj | hj
        · exact le_trans (hmax j hj hjs) hlt.le
        · rw [List.mem_singleton.mp hj]
      · rename_i hle
        refine ⟨List.mem_append_left _ hb, hbs, fun j hj hjs => ?_⟩
        rcases List.mem_append.mp hj with hj | hj
        · exact hmax j hj hjs
        · rw [List.mem_singleton.mp hj]
          exact not_lt.mp hle
  · rename_i hskip
    exact isInnermost_skip hskip h

theorem isInnermost_foldl (l : List ι) :
    IsInnermost lo hi x l (l.foldl (closest lo hi x) none) := by
  induction l using List.reverseRecOn with
  | nil => exact fun i hi => absurd hi List.not_mem_nil
  | append_singleton l i ih =>
    rw [List.foldl_append, List.foldl_cons, List.foldl_nil]
    exact isInnermost_closest ih

theorem IsInnermost.eq_none_iff {l : List ι} {r : Option ι} (h : IsInnermost lo hi x l r) :
    r = none ↔ ∀ i ∈ l, ¬ Stabs lo hi x i := by
  rcases r with _ | i
  · exact ⟨fun _ => h, fun _ => rfl⟩
  · obtain ⟨hmem, hstabs, _⟩ := h
    exact ⟨fun hr => absurd hr (Option.some_ne_none i), fun hno => absurd hstabs (hno i hmem)⟩

/-! ## Buckets -/

variable [Preorder β] [DecidableLE β]

/-- The intervals of `l` that meet the bucket `b`. -/
def bucketOf (lo hi : ι → α) (bucket : α → β) (b : β) (l : List ι) : List ι :=
  l.filter fun i => bucket (lo i) ≤ b ∧ b ≤ bucket (hi i)

omit [LinearOrder α] in
theorem bucketOf_append_singleton (bucket : α → β) (b : β) (l : List ι) (i : ι) :
    bucketOf lo hi bucket b (l ++ [i]) =
      if bucket (lo i) ≤ b ∧ b ≤ bucket (hi i) then bucketOf lo hi bucket b l ++ [i]
      else bucketOf lo hi bucket b l := by
  unfold bucketOf
  rw [List.filter_append]
  split <;> rename_i h <;> simp [h]

theorem mem_bucketOf {bucket : α → β} (hb : Monotone bucket) {l : List ι} {i : ι} (hi' : i ∈ l)
    (hs : Stabs lo hi x i) : i ∈ bucketOf lo hi bucket (bucket x) l := by
  rw [bucketOf, List.mem_filter]
  refine ⟨hi', ?_⟩
  simp only [decide_eq_true_eq]
  exact ⟨hb hs.1, hb hs.2⟩

theorem IsInnermost.of_bucket {bucket : α → β} (hb : Monotone bucket) {l : List ι} {r : Option ι}
    (h : IsInnermost lo hi x (bucketOf lo hi bucket (bucket x) l) r) : IsInnermost lo hi x l r := by
  rcases r with _ | i
  · intro i hmem hs
    exact h i (mem_bucketOf hb hmem hs) hs
  · obtain ⟨hmem, hs, hmax⟩ := h
    refine ⟨(List.mem_filter.mp hmem).1, hs, fun j hj hjs => ?_⟩
    exact hmax j (mem_bucketOf hb hj hjs) hjs

theorem foldl_closest_filter {keep : ι → Bool} {l : List ι}
    (h : ∀ i ∈ l, Stabs lo hi x i → keep i = true) (t : Option ι) :
    (l.filter keep).foldl (closest lo hi x) t = l.foldl (closest lo hi x) t := by
  induction l generalizing t with
  | nil => rfl
  | cons i l ih =>
    obtain ⟨hi', hl⟩ := List.forall_mem_cons.mp h
    rw [List.foldl_cons, ← ih hl]
    by_cases hkeep : keep i = true
    · rw [List.filter_cons_of_pos hkeep, List.foldl_cons]
    · have hskip : closest lo hi x t i = t := if_neg fun hs => hkeep (hi' hs)
      rw [List.filter_cons_of_neg hkeep, hskip]

theorem foldl_closest_bucketOf {bucket : α → β} (hb : Monotone bucket) (l : List ι)
    (t : Option ι) :
    (bucketOf lo hi bucket (bucket x) l).foldl (closest lo hi x) t =
      l.foldl (closest lo hi x) t := by
  refine foldl_closest_filter (fun i _ hs => ?_) t
  simp only [decide_eq_true_eq]
  exact ⟨hb hs.1, hb hs.2⟩

end Lib.Stabbing
