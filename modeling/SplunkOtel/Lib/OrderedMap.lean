import Mathlib.Data.List.Nodup

/-!
# Maps that keep their insertion order

An association list whose keys are distinct. Setting a key that is there replaces its value in
place, and a new key goes to the end.
-/

namespace Lib

structure OrderedMap (K V : Type*) where
  entries : List (K × V)
  nodup : (entries.map Prod.fst).Nodup
deriving DecidableEq

namespace OrderedMap

variable {K V : Type*}

instance : EmptyCollection (OrderedMap K V) := ⟨⟨[], List.nodup_nil⟩⟩

def keys (m : OrderedMap K V) : List K := m.entries.map Prod.fst

def values (m : OrderedMap K V) : List V := m.entries.map Prod.snd

def size (m : OrderedMap K V) : ℕ := m.entries.length

theorem entries_inj {m : OrderedMap K V} {k : K} {v w : V} (hv : (k, v) ∈ m.entries)
    (hw : (k, w) ∈ m.entries) : v = w :=
  congrArg Prod.snd (List.inj_on_of_nodup_map m.nodup hv hw rfl)

variable [DecidableEq K]

def get? (m : OrderedMap K V) (k : K) : Option V := (m.entries.find? (·.1 = k)).map Prod.snd

def replace (entries : List (K × V)) (k : K) (v : V) : List (K × V) :=
  entries.map fun e => if e.1 = k then (k, v) else e

theorem replace_keys (entries : List (K × V)) (k : K) (v : V) :
    (replace entries k v).map Prod.fst = entries.map Prod.fst := by
  rw [replace, List.map_map]
  apply List.map_congr_left
  intro e _
  simp only [Function.comp_apply]
  split
  · exact Eq.symm ‹_›
  · rfl

def set (m : OrderedMap K V) (k : K) (v : V) : OrderedMap K V :=
  if h : k ∈ m.keys then ⟨replace m.entries k v, by rw [replace_keys]; exact m.nodup⟩
  else ⟨m.entries ++ [(k, v)], by
    rw [List.map_append, List.nodup_append]
    exact ⟨m.nodup, List.nodup_singleton _, by
      intro a ha b hb hab
      rw [List.map_singleton, List.mem_singleton] at hb
      rw [hab, hb] at ha
      exact h ha⟩⟩

def delete (m : OrderedMap K V) (k : K) : OrderedMap K V :=
  ⟨m.entries.filter (·.1 ≠ k), m.nodup.sublist (List.filter_sublist.map _)⟩

/-! ## Which entries there are -/

theorem get?_eq_some {m : OrderedMap K V} {k : K} {v : V} :
    m.get? k = some v ↔ (k, v) ∈ m.entries := by
  rw [get?, Option.map_eq_some_iff]
  constructor
  · rintro ⟨⟨k', v'⟩, he, rfl⟩
    have hk : k' = k := by simpa using List.find?_some he
    exact hk ▸ List.mem_of_find?_eq_some he
  · intro hm
    cases he : m.entries.find? (·.1 = k) with
    | none => exact absurd (List.find?_eq_none.mp he _ hm) (by simp)
    | some e =>
      obtain ⟨k', v'⟩ := e
      have hk : k' = k := by simpa using List.find?_some he
      refine ⟨_, rfl, ?_⟩
      exact entries_inj (hk ▸ List.mem_of_find?_eq_some he) hm

theorem get?_eq_none {m : OrderedMap K V} {k : K} : m.get? k = none ↔ k ∉ m.keys := by
  rw [get?, Option.map_eq_none_iff, List.find?_eq_none, keys, List.mem_map]
  simp only [decide_eq_true_eq, not_exists, not_and]

theorem set_new {m : OrderedMap K V} {k : K} (h : m.get? k = none) (v : V) :
    (m.set k v).entries = m.entries ++ [(k, v)] := by
  rw [set, dif_neg (get?_eq_none.mp h)]

theorem set_old {m : OrderedMap K V} {k : K} (h : m.get? k ≠ none) (v : V) :
    (m.set k v).entries = replace m.entries k v := by
  rw [set, dif_pos (by_contra fun hk => h (get?_eq_none.mpr hk))]

@[simp] theorem get?_empty (k : K) : (∅ : OrderedMap K V).get? k = none := rfl

theorem get?_set_self (m : OrderedMap K V) (k : K) (v : V) : (m.set k v).get? k = some v := by
  rw [get?_eq_some]
  by_cases h : m.get? k = none
  · rw [set_new h]
    exact List.mem_append_right _ List.mem_cons_self
  · rw [set_old h, replace, List.mem_map]
    obtain ⟨w, hw⟩ := Option.ne_none_iff_exists'.mp h
    exact ⟨(k, w), get?_eq_some.mp hw, if_pos rfl⟩

theorem get?_set_ne {k k' : K} (hk : k' ≠ k) (m : OrderedMap K V) (v : V) :
    (m.set k v).get? k' = m.get? k' := by
  apply Option.ext
  intro w
  rw [get?_eq_some, get?_eq_some]
  by_cases h : m.get? k = none
  · rw [set_new h, List.mem_append, List.mem_singleton, Prod.mk.injEq]
    simp [hk]
  · rw [set_old h, replace, List.mem_map]
    constructor
    · rintro ⟨e, he, heq⟩
      split at heq
      · exact absurd (Prod.mk.inj heq).1.symm hk
      · exact heq ▸ he
    · intro hm
      exact ⟨(k', w), hm, if_neg hk⟩

theorem get?_set (m : OrderedMap K V) (k : K) (v : V) (k' : K) :
    (m.set k v).get? k' = if k' = k then some v else m.get? k' := by
  by_cases hk : k' = k
  · rw [if_pos hk, hk, get?_set_self]
  · rw [if_neg hk, get?_set_ne hk]

theorem mem_keys_iff {m : OrderedMap K V} {k : K} : k ∈ m.keys ↔ ∃ v, m.get? k = some v := by
  rw [← not_iff_not, ← get?_eq_none, ← Option.ne_none_iff_exists', not_not]

theorem mem_keys_of_get? {m : OrderedMap K V} {k : K} {v : V} (h : m.get? k = some v) :
    k ∈ m.keys := mem_keys_iff.mpr ⟨v, h⟩

theorem mem_keys_set {m : OrderedMap K V} {k k' : K} {v : V} :
    k' ∈ (m.set k v).keys ↔ k' = k ∨ k' ∈ m.keys := by
  rw [mem_keys_iff, mem_keys_iff, get?_set]
  by_cases hk : k' = k <;> simp [hk]

theorem keys_set_old {m : OrderedMap K V} {k : K} (h : m.get? k ≠ none) (v : V) :
    (m.set k v).keys = m.keys := by
  rw [keys, set_old h, replace_keys, keys]

/-- The entries are set in turn. -/
def ofEntries (entries : List (K × V)) : OrderedMap K V :=
  entries.foldl (fun m e => m.set e.1 e.2) ∅

theorem get?_foldl_set (entries : List (K × V)) (m : OrderedMap K V) (k : K) :
    (entries.foldl (fun m e => m.set e.1 e.2) m).get? k =
      (entries.reverse.lookup k).or (m.get? k) := by
  induction entries generalizing m with
  | nil => rfl
  | cons e entries ih =>
    obtain ⟨k', v⟩ := e
    rw [List.foldl_cons, ih, List.reverse_cons, List.lookup_append, Option.or_assoc, get?_set,
      List.lookup_cons]
    congr 1
    by_cases hk : k = k'
    · simp [hk]
    · simp [beq_eq_false_iff_ne.mpr hk, hk]

theorem get?_foldl_entries (source m : OrderedMap K V) (k : K) :
    (source.entries.foldl (fun m e => m.set e.1 e.2) m).get? k = (source.get? k).or (m.get? k) := by
  rw [get?_foldl_set]
  congr 1
  apply Option.ext
  intro v
  rw [get?_eq_some, List.lookup_eq_some_iff]
  constructor
  · rintro ⟨l₁, l₂, hl, -⟩
    rw [← List.mem_reverse, hl]
    exact List.mem_append_right _ List.mem_cons_self
  · intro hv
    obtain ⟨l₁, l₂, hl⟩ := List.append_of_mem (List.mem_reverse.mpr hv)
    refine ⟨l₁, l₂, hl, fun e he => ?_⟩
    have hnd := (List.nodup_reverse.mpr source.nodup)
    rw [← List.map_reverse, hl, List.map_append, List.nodup_append] at hnd
    have hne := hnd.2.2 _ (List.mem_map_of_mem he) k List.mem_cons_self
    simpa using Ne.symm hne

theorem get?_ofEntries (entries : List (K × V)) (k : K) :
    (ofEntries entries).get? k = entries.reverse.lookup k := by
  unfold ofEntries
  rw [get?_foldl_set, get?_empty, Option.or_none]

theorem lookup_entries (m : OrderedMap K V) (k : K) : m.entries.lookup k = m.get? k := by
  unfold get?
  induction m.entries with
  | nil => rfl
  | cons e entries ih =>
    obtain ⟨k', v⟩ := e
    rw [List.lookup_cons]
    by_cases hk : k = k'
    · simp [hk]
    · rw [List.find?_cons_of_neg (by simpa using Ne.symm hk), ← ih]
      simp [beq_eq_false_iff_ne.mpr hk]

theorem entries_set_empty (k : K) (v : V) : ((∅ : OrderedMap K V).set k v).entries = [(k, v)] :=
  set_new rfl v

theorem values_set_new {m : OrderedMap K V} {k : K} (h : m.get? k = none) (v : V) :
    (m.set k v).values = m.values ++ [v] := by
  rw [values, set_new h, List.map_append, List.map_singleton, values]

theorem size_set_new {m : OrderedMap K V} {k : K} (h : m.get? k = none) (v : V) :
    (m.set k v).size = m.size + 1 := by
  rw [size, set_new h, List.length_append, List.length_singleton, size]

theorem size_set_old {m : OrderedMap K V} {k : K} (h : m.get? k ≠ none) (v : V) :
    (m.set k v).size = m.size := by
  rw [size, set_old h, replace, List.length_map, size]

theorem mem_delete {m : OrderedMap K V} {k : K} {e : K × V} :
    e ∈ (m.delete k).entries ↔ e ∈ m.entries ∧ e.1 ≠ k := by
  simp [delete]

theorem get?_delete (m : OrderedMap K V) (k k' : K) :
    (m.delete k).get? k' = if k' = k then none else m.get? k' := by
  apply Option.ext
  intro v
  rw [get?_eq_some, mem_delete, ← get?_eq_some]
  by_cases hk : k' = k <;> simp [hk]

theorem mem_values_delete {m : OrderedMap K V} {k : K} {v : V} :
    v ∈ (m.delete k).values ↔ ∃ k', (k', v) ∈ m.entries ∧ k' ≠ k := by
  simp only [values, List.mem_map, mem_delete]
  constructor
  · rintro ⟨⟨k', v'⟩, ⟨hm, hk⟩, rfl⟩
    exact ⟨k', hm, hk⟩
  · rintro ⟨k', hm, hk⟩
    exact ⟨(k', v), ⟨hm, hk⟩, rfl⟩

theorem size_delete {m : OrderedMap K V} {k : K} {v : V} (h : m.get? k = some v) :
    (m.delete k).size + 1 = m.size := by
  obtain ⟨l₁, l₂, hl⟩ := List.append_of_mem (get?_eq_some.mp h)
  have hnd := m.nodup
  rw [hl, List.map_append, List.map_cons, List.nodup_append, List.nodup_cons] at hnd
  obtain ⟨-, ⟨hl₂, -⟩, hl₁⟩ := hnd
  have hkeep₁ : l₁.filter (·.1 ≠ k) = l₁ := List.filter_eq_self.mpr fun e he => by
    simpa using hl₁ _ (List.mem_map_of_mem he) k (List.mem_cons_self ..)
  have hkeep₂ : l₂.filter (·.1 ≠ k) = l₂ := List.filter_eq_self.mpr fun e he => by
    simpa using fun hek : e.1 = k => hl₂ (List.mem_map.mpr ⟨e, he, hek⟩)
  simp only [size, delete, hl, List.filter_append, hkeep₁, List.length_append, List.length_cons]
  rw [List.filter_cons_of_neg (by simp), hkeep₂]
  omega

end OrderedMap

end Lib
