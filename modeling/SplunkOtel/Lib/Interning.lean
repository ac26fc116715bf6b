import SplunkOtel.Lib.OrderedMap
import Mathlib.Data.List.Forall2
import Mathlib.Tactic.Common

/-!
# Interning tables

A table that gives every new key the next number, and passes that are threaded through such tables:
what was interned before stays as it is.
-/

namespace Lib.OrderedMap

variable {K V : Type*} [DecidableEq K]

/-- The table grew: what was there is still there. -/
def Extends (m m' : OrderedMap K V) : Prop := ∀ k v, m.get? k = some v → m'.get? k = some v

theorem Extends.refl (m : OrderedMap K V) : Extends m m := fun _ _ h => h

theorem Extends.trans {m m' m'' : OrderedMap K V} (h : Extends m m') (h' : Extends m' m'') :
    Extends m m'' := fun k v hk => h' k v (h k v hk)

theorem get?_set_new {m : OrderedMap K V} {k : K} (h : m.get? k = none) (v : V) :
    (m.set k v).get? k = some v := by
  rw [get?_eq_some, set_new h]
  exact List.mem_append_right _ (List.mem_singleton_self _)

theorem extends_set_new {m : OrderedMap K V} {k : K} (h : m.get? k = none) (v : V) :
    Extends m (m.set k v) := by
  intro k' v' hk
  rw [get?_eq_some] at hk ⊢
  rw [set_new h]
  exact List.mem_append_left _ hk

theorem get?_set_new_cases {m : OrderedMap K V} {k k' : K} {v v' : V} (h : m.get? k = none)
    (h' : (m.set k v).get? k' = some v') : m.get? k' = some v' ∨ k' = k ∧ v' = v := by
  rw [get?_eq_some, set_new h] at h'
  rcases List.mem_append.mp h' with h' | h'
  · exact Or.inl (get?_eq_some.mpr h')
  · rw [List.mem_singleton] at h'
    cases h'
    exact Or.inr ⟨rfl, rfl⟩

theorem mem_values_of_get? {m : OrderedMap K V} {k : K} {v : V} (h : m.get? k = some v) :
    v ∈ m.values :=
  List.mem_map_of_mem (get?_eq_some.mp h)

theorem exists_get?_of_mem_values {m : OrderedMap K V} {v : V} (h : v ∈ m.values) :
    ∃ k, m.get? k = some v := by
  obtain ⟨⟨k, v'⟩, hmem, rfl⟩ := List.mem_map.mp h
  exact ⟨k, get?_eq_some.mpr hmem⟩

/-! ## Numbers -/

/-- The values are numbered from `first` on, in the order of the keys. -/
def Numbered (first : ℕ) (num : V → ℕ) (m : OrderedMap K V) : Prop :=
  m.values.map num = List.range' first m.size

variable {first : ℕ} {num : V → ℕ} {m : OrderedMap K V}

omit [DecidableEq K] in
theorem numbered_empty : Numbered first num (∅ : OrderedMap K V) := rfl

theorem Numbered.set_new (h : Numbered first num m) {k : K} {v : V} (hk : m.get? k = none)
    (hv : num v = first + m.size) : Numbered first num (m.set k v) := by
  unfold Numbered at h ⊢
  rw [values_set_new hk, size_set_new hk, List.map_append, h, List.range'_concat, Nat.one_mul,
    List.map_singleton, hv]

omit [DecidableEq K] in
theorem Numbered.nodup (h : Numbered first num m) : (m.values.map num).Nodup := by
  rw [h]
  exact List.nodup_range'

theorem Numbered.find? (h : Numbered first num m) {k : K} {v : V} (hk : m.get? k = some v) :
    m.values.find? (fun w => num w = num v) = some v := by
  have hmem := mem_values_of_get? hk
  rcases hfind : m.values.find? (fun w => num w = num v) with _ | w
  · have hnone := List.find?_eq_none.mp hfind v hmem
    simp at hnone
  · have hw := List.mem_of_find?_eq_some hfind
    have hnum : num w = num v := by simpa using List.find?_some hfind
    rw [List.inj_on_of_nodup_map h.nodup hw hmem hnum]

theorem Numbered.getElem?_keys (h : Numbered 0 num m) {k : K} {v : V} (hk : m.get? k = some v) :
    m.keys[num v]? = some k := by
  obtain ⟨i, hi, hentry⟩ := List.getElem_of_mem (get?_eq_some.mp hk)
  have hsize : i < m.size := hi
  have hnum : num v = i := by
    have hmap : (m.values.map num)[i]? = some (num v) := by
      rw [values, List.map_map, List.getElem?_map, List.getElem?_eq_getElem hi, hentry]
      rfl
    rw [h, List.getElem?_range' hsize] at hmap
    simpa using (Option.some.inj hmap).symm
  rw [hnum, keys, List.getElem?_map, List.getElem?_eq_getElem hi, hentry]
  rfl

end Lib.OrderedMap

/-! ## Passes -/

namespace Lib

variable {α β σ : Type*}

/-- Translate the items one after the other, with the tables threaded through. -/
def mapState (f : α → σ → β × σ) : List α → σ → List β × σ
  | [], s => ([], s)
  | a :: as, s =>
    let (b, s) := f a s
    let (bs, s) := mapState f as s
    (b :: bs, s)

/-- The rule of passes: what one item's translation means stays true while the tables grow, and so
it holds of all items at the end. -/
theorem mapState_spec {Inv : σ → Prop} {le : σ → σ → Prop} {Good : α → Prop} {R : σ → α → β → Prop}
    (hrefl : ∀ s, le s s) (htrans : ∀ s t u, le s t → le t u → le s u)
    (hmono : ∀ s t a b, le s t → R s a b → R t a b) {f : α → σ → β × σ}
    (hstep : ∀ a s, Good a → Inv s →
      Inv (f a s).2 ∧ le s (f a s).2 ∧ R (f a s).2 a (f a s).1)
    (as : List α) (s : σ) (has : ∀ a ∈ as, Good a) (hs : Inv s) :
    Inv (mapState f as s).2 ∧ le s (mapState f as s).2 ∧
      List.Forall₂ (R (mapState f as s).2) as (mapState f as s).1 := by
  induction as generalizing s with
  | nil => exact ⟨hs, hrefl s, List.Forall₂.nil⟩
  | cons a as ih =>
    obtain ⟨ha, has⟩ := List.forall_mem_cons.mp has
    obtain ⟨hinv, hle, hR⟩ := hstep a s ha hs
    obtain ⟨hinv', hle', hR'⟩ := ih (f a s).2 has hinv
    exact ⟨hinv', htrans _ _ _ hle hle', List.Forall₂.cons (hmono _ _ _ _ hle' hR) hR'⟩

theorem exists_left_of_forall₂ {R : α → β → Prop} {as : List α} {bs : List β}
    (h : List.Forall₂ R as bs) : ∀ b ∈ bs, ∃ a ∈ as, R a b := by
  induction h with
  | nil => simp
  | cons hab _ ih =>
    intro b hb
    rcases List.mem_cons.mp hb with rfl | hb
    · exact ⟨_, List.mem_cons_self, hab⟩
    · obtain ⟨a, ha, hR⟩ := ih b hb
      exact ⟨a, List.mem_cons_of_mem _ ha, hR⟩

theorem exists_right_of_forall₂ {R : α → β → Prop} {as : List α} {bs : List β}
    (h : List.Forall₂ R as bs) : ∀ a ∈ as, ∃ b ∈ bs, R a b :=
  exists_left_of_forall₂ h.flip

theorem exists_forall₂ {R : α → β → Prop} {as : List α} (h : ∀ a ∈ as, ∃ b, R a b) :
    ∃ bs, List.Forall₂ R as bs := by
  induction as with
  | nil => exact ⟨[], .nil⟩
  | cons a as ih =>
    obtain ⟨⟨b, hb⟩, hrest⟩ := List.forall_mem_cons.mp h
    obtain ⟨bs, hbs⟩ := ih hrest
    exact ⟨b :: bs, .cons hb hbs⟩

theorem map_of_forall₂ {f : α → σ} {g : β → σ} {as : List α} {bs : List β}
    (h : List.Forall₂ (fun a b => g b = f a) as bs) : bs.map g = as.map f := by
  induction h with
  | nil => rfl
  | cons hab _ ih => rw [List.map_cons, List.map_cons, hab, ih]

theorem mapM_of_forall₂ {f : α → σ} {g : β → Option σ} {as : List α} {bs : List β}
    (h : List.Forall₂ (fun a b => g b = some (f a)) as bs) : bs.mapM g = some (as.map f) := by
  induction h with
  | nil => rfl
  | cons hab _ ih =>
    rw [List.mapM_cons, hab, ih]
    rfl

end Lib
