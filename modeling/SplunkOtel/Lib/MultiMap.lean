import Mathlib.Data.List.Basic
import Mathlib.Tactic.Common

/-!
# Lists of entries whose keys may repeat

Setting a key writes its first entry and drops the later ones. Two maps are aligned when they have
the same keys in the same order as far as the shorter one goes. Aligned maps are the same as soon
as every key has the same values in both.
-/

namespace Lib

abbrev MultiMap (K V : Type*) := List (K × V)

namespace MultiMap

variable {K V : Type*}

def Aligned : MultiMap K V → MultiMap K V → Prop
  | [], _ => True
  | _, [] => True
  | e :: m, f :: n => e.1 = f.1 ∧ Aligned m n

theorem Aligned.refl (m : MultiMap K V) : Aligned m m := by
  induction m with
  | nil => trivial
  | cons e m ih => exact ⟨rfl, ih⟩

theorem Aligned.nil_right (m : MultiMap K V) : Aligned m [] := by
  rcases m with _ | ⟨e, m⟩ <;> trivial

variable [DecidableEq K]

/-- The values of a key, in order. -/
def getAll (m : MultiMap K V) (k : K) : List V := (m.filter (·.1 = k)).map Prod.snd

def get? (m : MultiMap K V) (k : K) : Option V := (getAll m k).head?

def set : MultiMap K V → K → V → MultiMap K V
  | [], k, v => [(k, v)]
  | e :: m, k, v => if e.1 = k then (k, v) :: m.filter (·.1 ≠ k) else e :: set m k v

/-! ## The values of each key -/

@[simp] theorem getAll_nil (k : K) : getAll ([] : MultiMap K V) k = [] := rfl

theorem getAll_cons (e : K × V) (m : MultiMap K V) (k : K) :
    getAll (e :: m) k = if e.1 = k then e.2 :: getAll m k else getAll m k := by
  unfold getAll
  by_cases h : e.1 = k <;> simp [h]

theorem getAll_cons_self (k : K) (v : V) (m : MultiMap K V) :
    getAll ((k, v) :: m) k = v :: getAll m k := by
  rw [getAll_cons, if_pos rfl]

theorem getAll_cons_ne {e : K × V} {k : K} (h : e.1 ≠ k) (m : MultiMap K V) :
    getAll (e :: m) k = getAll m k := by
  rw [getAll_cons, if_neg h]

theorem getAll_filter_self (m : MultiMap K V) (k : K) : getAll (m.filter (·.1 ≠ k)) k = [] := by
  unfold getAll
  rw [List.filter_filter, List.map_eq_nil_iff, List.filter_eq_nil_iff]
  simp

theorem getAll_filter_ne {k k' : K} (h : k' ≠ k) (m : MultiMap K V) :
    getAll (m.filter (·.1 ≠ k)) k' = getAll m k' := by
  unfold getAll
  rw [List.filter_filter]
  congr 1
  apply List.filter_congr
  intro e _
  by_cases hk : e.1 = k' <;> simp [hk, h]

theorem getAll_set_self (m : MultiMap K V) (k : K) (v : V) : getAll (set m k v) k = [v] := by
  induction m with
  | nil => rw [set, getAll_cons_self, getAll_nil]
  | cons e m ih =>
    rw [set]
    split
    · rw [getAll_cons_self, getAll_filter_self]
    · rw [getAll_cons_ne ‹_›, ih]

theorem getAll_set_ne {k k' : K} (h : k' ≠ k) (m : MultiMap K V) (v : V) :
    getAll (set m k v) k' = getAll m k' := by
  induction m with
  | nil => rw [set, getAll_cons_ne h.symm]
  | cons e m ih =>
    rw [set]
    split
    · rename_i he
      rw [getAll_cons_ne h.symm, getAll_filter_ne h, getAll_cons_ne (he ▸ h.symm)]
    · rw [getAll_cons, getAll_cons, ih]

/-! ## Aligned maps -/

theorem Aligned.filter {m n : MultiMap K V} (h : Aligned m n) (k : K) :
    Aligned (m.filter (·.1 ≠ k)) (n.filter (·.1 ≠ k)) := by
  induction m generalizing n with
  | nil => trivial
  | cons e m ih =>
    rcases n with _ | ⟨f, n⟩
    · exact Aligned.nil_right _
    · obtain ⟨hkey, hrest⟩ := h
      by_cases he : e.1 = k
      · rw [List.filter_cons_of_neg (by simpa using he),
          List.filter_cons_of_neg (by simpa using hkey ▸ he)]
        exact ih hrest
      · rw [List.filter_cons_of_pos (by simpa using he),
          List.filter_cons_of_pos (by simpa using hkey ▸ he)]
        exact ⟨hkey, ih hrest⟩

theorem Aligned.set {m n : MultiMap K V} (h : Aligned m n) {k : K} (hm : getAll m k ≠ [])
    (hn : getAll n k ≠ []) (v : V) : Aligned (set m k v) (set n k v) := by
  induction m generalizing n with
  | nil => exact absurd rfl hm
  | cons e m ih =>
    rcases n with _ | ⟨f, n⟩
    · exact absurd rfl hn
    · obtain ⟨hkey, hrest⟩ := h
      unfold MultiMap.set
      by_cases he : e.1 = k
      · rw [if_pos he, if_pos (hkey ▸ he)]
        exact ⟨rfl, hrest.filter k⟩
      · have hf : f.1 ≠ k := hkey ▸ he
        rw [if_neg he, if_neg hf]
        rw [getAll_cons_ne he] at hm
        rw [getAll_cons_ne hf] at hn
        exact ⟨hkey, ih hrest hm hn⟩

theorem eq_nil_of_getAll {m : MultiMap K V} (h : ∀ k, getAll m k = []) : m = [] := by
  rcases m with _ | ⟨⟨k, v⟩, m⟩
  · rfl
  · have := h k
    rw [getAll_cons_self] at this
    exact absurd this (List.cons_ne_nil _ _)

theorem Aligned.ext {m n : MultiMap K V} (h : Aligned m n)
    (hvalues : ∀ k, getAll m k = getAll n k) : m = n := by
  induction m generalizing n with
  | nil => exact (eq_nil_of_getAll fun k => (hvalues k).symm).symm
  | cons e m ih =>
    rcases n with _ | ⟨f, n⟩
    · exact eq_nil_of_getAll hvalues
    · obtain ⟨hkey, hrest⟩ := h
      rcases e with ⟨k, v⟩
      rcases f with ⟨k', w⟩
      have hk : k = k' := hkey
      subst hk
      have hhead := hvalues k
      rw [getAll_cons_self, getAll_cons_self, List.cons.injEq] at hhead
      have htail : m = n := by
        apply ih hrest
        intro k'
        by_cases hk' : k = k'
        · exact hk' ▸ hhead.2
        · have := hvalues k'
          rwa [getAll_cons_ne hk', getAll_cons_ne hk'] at this
      rw [hhead.1, htail]

end MultiMap

end Lib
