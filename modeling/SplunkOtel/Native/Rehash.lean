import SplunkOtel.Native.Khash

/-!
# What a resize does to a hash table

`kh_resize` moves the entries within the arrays. At any time an entry is in a bucket that the old
flags still call live, or in one that the new flags call used, or in the hand of the kick-out
process. A bucket that is taken while it is live hands its entry on.
-/

open Lib.Probing

namespace SplunkOtel.Native.Khash

variable {K V : Type*} {hash : K → ℕ}

def Rehash.oldLive (r : Rehash K V) (i : ℕ) : Bool := !r.flags.iseither i

def Rehash.newUsed (r : Rehash K V) (i : ℕ) : Bool := !r.newFlags.isempty i

/-- Bucket `i` holds an entry, from before the resize or since. -/
def Rehash.Held (r : Rehash K V) (n k i : ℕ) : Prop :=
  i < n ∧ r.oldLive i ∨ i < 2 ^ k ∧ r.newUsed i

/-- The resize of a table with the entries of `m` from `n` buckets to `2 ^ k`. -/
structure Moving (hash : K → ℕ) (m : K → Option V) (n k size : ℕ) (r : Rehash K V)
    (hand : List (K × V)) : Prop where
  apart : ∀ i < n, r.oldLive i → r.newUsed i = false
  fresh : ∀ i, r.newFlags.isdel i = false
  distinct : ∀ i j, r.Held n k i → r.Held n k j → r.keys i = r.keys j → i = j
  handNew : ∀ e ∈ hand, ∀ i, r.Held n k i → r.keys i ≠ e.1
  handDistinct : (hand.map Prod.fst).Nodup
  content : ∀ key val, m key = some val ↔
    (∃ i, r.Held n k i ∧ r.keys i = key ∧ r.vals i = val) ∨ (key, val) ∈ hand
  reached : ∀ i < 2 ^ k, r.newUsed i → Reached hash r.newFlags.isempty k (r.keys i) i
  count : howMany r.newUsed (2 ^ k) + howMany r.oldLive n + hand.length = size

variable {m : K → Option V} {n k size : ℕ}

/-! ## One move -/

/-- The entry in hand takes bucket `i`. -/
def Rehash.settle (r : Rehash K V) (i : ℕ) (key : K) (val : V) : Rehash K V :=
  { r with
    newFlags := r.newFlags.setIsemptyFalse i
    keys := Function.update r.keys i key
    vals := Function.update r.vals i val }

/-- Bucket `j` is not live any more. -/
def Rehash.vacate (r : Rehash K V) (j : ℕ) : Rehash K V :=
  { r with flags := r.flags.setIsdelTrue j }

theorem oldLive_vacate (r : Rehash K V) (j : ℕ) :
    (r.vacate j).oldLive = Function.update r.oldLive j false := by
  funext i
  by_cases hi : i = j
  · subst hi
    simp [Rehash.oldLive, Rehash.vacate, Flags.setIsdelTrue, Flags.iseither]
  · simp [Rehash.oldLive, Rehash.vacate, Flags.setIsdelTrue, Flags.iseither, hi]

theorem newUsed_settle (r : Rehash K V) (i : ℕ) (key : K) (val : V) :
    (r.settle i key val).newUsed = Function.update r.newUsed i true := by
  funext j
  by_cases hj : j = i
  · subst hj
    simp [Rehash.newUsed, Rehash.settle, Flags.setIsemptyFalse]
  · simp [Rehash.newUsed, Rehash.settle, Flags.setIsemptyFalse, hj]

theorem Moving.pick {r : Rehash K V} {hand : List (K × V)} (h : Moving hash m n k size r hand)
    {j : ℕ} (hj : j < n) (hlive : r.oldLive j) :
    Moving hash m n k size (r.vacate j) (hand ++ [(r.keys j, r.vals j)]) := by
  have hheldj : r.Held n k j := Or.inl ⟨hj, hlive⟩
  have hheld : ∀ i, (r.vacate j).Held n k i ↔ r.Held n k i ∧ i ≠ j := by
    intro i
    by_cases hij : i = j
    · subst hij
      have hnot := h.apart i hj hlive
      simp [Rehash.Held, oldLive_vacate, show (r.vacate i).newUsed i = false from hnot]
    · have hused : (r.vacate j).newUsed i = r.newUsed i := rfl
      simp [Rehash.Held, oldLive_vacate, hused, hij]
  constructor
  · intro i hi hold
    rw [oldLive_vacate] at hold
    by_cases hij : i = j
    · simp [hij] at hold
    · exact h.apart i hi (by simpa [hij] using hold)
  · exact h.fresh
  · intro a b ha hb heq
    exact h.distinct a b ((hheld a).mp ha).1 ((hheld b).mp hb).1 heq
  · intro e he i hi
    rcases List.mem_append.mp he with he | he
    · exact h.handNew e he i ((hheld i).mp hi).1
    · obtain rfl := List.mem_singleton.mp he
      exact fun heq => ((hheld i).mp hi).2 (h.distinct i j ((hheld i).mp hi).1 hheldj heq)
  · rw [List.map_append, List.map_singleton]
    refine List.nodup_append.mpr ⟨h.handDistinct, List.nodup_singleton _, ?_⟩
    intro key hkey other hother
    obtain ⟨e, he, rfl⟩ := List.mem_map.mp hkey
    obtain rfl := List.mem_singleton.mp hother
    exact (h.handNew e he j hheldj).symm
  · intro key val
    rw [h.content, List.mem_append, List.mem_singleton, Prod.mk.injEq]
    constructor
    · rintro (⟨i, hi, rfl, rfl⟩ | hhand)
      · by_cases hij : i = j
        · subst hij
          exact Or.inr (Or.inr ⟨rfl, rfl⟩)
        · exact Or.inl ⟨i, (hheld i).mpr ⟨hi, hij⟩, rfl, rfl⟩
      · exact Or.inr (Or.inl hhand)
    · rintro (⟨i, hi, hkey, hval⟩ | hhand | ⟨rfl, rfl⟩)
      · exact Or.inl ⟨i, ((hheld i).mp hi).1, hkey, hval⟩
      · exact Or.inr hhand
      · exact Or.inl ⟨j, hheldj, rfl, rfl⟩
  · exact h.reached
  · have hcount := h.count
    have hdown := howMany_update_false (p := r.oldLive) hj hlive
    rw [← oldLive_vacate] at hdown
    have hused : (r.vacate j).newUsed = r.newUsed := rfl
    rw [hused, List.length_append, List.length_singleton]
    omega

theorem Moving.settle {r : Rehash K V} {key : K} {val : V} {hand : List (K × V)}
    (h : Moving hash m n k size r ((key, val) :: hand)) {i : ℕ} (hi : i < 2 ^ k)
    (hfree : r.newUsed i = false) (hreached : Reached hash r.newFlags.isempty k key i)
    (hnot : ¬ (i < n ∧ r.oldLive i)) : Moving hash m n k size (r.settle i key val) hand := by
  have hheldi : ¬ r.Held n k i := by
    rintro (hold | ⟨-, hused⟩)
    · exact hnot hold
    · simp [hfree] at hused
  have hheld : ∀ j, (r.settle i key val).Held n k j ↔ r.Held n k j ∨ j = i := by
    intro j
    have hold : (r.settle i key val).oldLive j = r.oldLive j := rfl
    by_cases hji : j = i
    · subst hji
      simp [Rehash.Held, newUsed_settle, hi]
    · simp [Rehash.Held, newUsed_settle, hold, hji]
  have hkey : ∀ j, r.Held n k j →
      (r.settle i key val).keys j = r.keys j ∧ (r.settle i key val).vals j = r.vals j := by
    intro j hj
    have hji : j ≠ i := fun heq => hheldi (heq ▸ hj)
    exact ⟨Function.update_of_ne hji .., Function.update_of_ne hji ..⟩
  have hkeyi : (r.settle i key val).keys i = key := Function.update_self ..
  have hvali : (r.settle i key val).vals i = val := Function.update_self ..
  have hempty : ∀ j, r.newFlags.isempty j = false →
      (r.settle i key val).newFlags.isempty j = false := by
    intro j hj
    by_cases hji : j = i
    · subst hji
      exact Function.update_self ..
    · exact (Function.update_of_ne hji ..).trans hj
  have hfirst : ∀ j, r.Held n k j → r.keys j ≠ key := h.handNew _ List.mem_cons_self
  obtain ⟨hfreshkey, hrest⟩ := List.nodup_cons.mp h.handDistinct
  constructor
  · intro j hj hold
    have hji : j ≠ i := fun heq => hnot (heq ▸ ⟨hj, hold⟩)
    rw [newUsed_settle, Function.update_of_ne hji]
    exact h.apart j hj hold
  · exact h.fresh
  · intro a b ha hb heq
    rcases (hheld a).mp ha with ha' | rfl
    · rcases (hheld b).mp hb with hb' | rfl
      · exact h.distinct a b ha' hb' (by rwa [(hkey a ha').1, (hkey b hb').1] at heq)
      · rw [(hkey a ha').1, hkeyi] at heq
        exact absurd heq (hfirst a ha')
    · rcases (hheld b).mp hb with hb' | rfl
      · rw [(hkey b hb').1, hkeyi] at heq
        exact absurd heq.symm (hfirst b hb')
      · rfl
  · intro e he j hj
    rcases (hheld j).mp hj with hj' | rfl
    · rw [(hkey j hj').1]
      exact h.handNew e (List.mem_cons_of_mem _ he) j hj'
    · rw [hkeyi]
      exact fun heq => hfreshkey (List.mem_map.mpr ⟨e, he, heq.symm⟩)
  · exact hrest
  · intro key' val'
    rw [h.content, List.mem_cons, Prod.mk.injEq]
    constructor
    · rintro (⟨j, hj, rfl, rfl⟩ | ⟨rfl, rfl⟩ | hhand)
      · exact Or.inl ⟨j, (hheld j).mpr (Or.inl hj), hkey j hj⟩
      · exact Or.inl ⟨i, (hheld i).mpr (Or.inr rfl), hkeyi, hvali⟩
      · exact Or.inr hhand
    · rintro (⟨j, hj, rfl, rfl⟩ | hhand)
      · rcases (hheld j).mp hj with hj' | rfl
        · exact Or.inl ⟨j, hj', (hkey j hj').1.symm, (hkey j hj').2.symm⟩
        · exact Or.inr (Or.inl ⟨hkeyi, hvali⟩)
      · exact Or.inr (Or.inr hhand)
  · intro j hj hused
    by_cases hji : j = i
    · subst hji
      rw [hkeyi]
      exact hreached.mono hempty
    · rw [newUsed_settle, Function.update_of_ne hji] at hused
      rw [(hkey j (Or.inr ⟨hj, hused⟩)).1]
      exact (h.reached j hj hused).mono hempty
  · have hcount := h.count
    have hup := howMany_update_true (p := r.newUsed) hi hfree
    rw [← newUsed_settle r i key val] at hup
    have hold : (r.settle i key val).oldLive = r.oldLive := rfl
    rw [hold]
    rw [List.length_cons] at hcount
    omega

/-! ## All moves -/

theorem Moving.search {r : Rehash K V} {key : K} {val : V} {hand : List (K × V)}
    (h : Moving hash m n k size r ((key, val) :: hand)) (hsize : size ≤ 2 ^ k) :
    ∃ i < 2 ^ k, r.newUsed i = false ∧ Reached hash r.newFlags.isempty k key i ∧
      walkWhile (fun i => !r.newFlags.isempty i) (fun _ => false) (fun _ s => s) (2 ^ k - 1)
        (2 ^ k - 1 + 1) (home hash k key) 0 () = some (i, false, ()) := by
  have hcount := h.count
  rw [List.length_cons] at hcount
  obtain ⟨e, he, hfree⟩ := exists_of_howMany_lt (p := r.newUsed) (n := 2 ^ k) (by omega)
  obtain ⟨s, hs⟩ := exists_stopsAt (home_lt hash k key) he hfree
  have hloop : walkWhile r.newUsed (fun _ => false) (fun _ s => s) (2 ^ k - 1) (2 ^ k - 1 + 1)
      (home hash k key) 0 () = some (walk (2 ^ k - 1) (home hash k key) s, false, ()) :=
    walkWhile_eq _ (home_lt hash k key) hs (by simp) () (by omega)
  refine ⟨_, walk_lt (home_lt hash k key) s, hs.stop, ⟨s, hs.lt, rfl, fun i hi => ?_⟩, hloop⟩
  simpa [Rehash.newUsed] using hs.passed i hi

theorem kickOut_succ {newMask fuel i : ℕ} {r : Rehash K V} {key : K} (val : V)
    (hloop : walkWhile (fun i => !r.newFlags.isempty i) (fun _ => false) (fun _ s => s) newMask
      (newMask + 1) (hash key &&& newMask) 0 () = some (i, false, ())) :
    kickOut hash n newMask (fuel + 1) key val r =
      if i < n && !r.flags.iseither i then
        kickOut hash n newMask fuel (r.keys i) (r.vals i) ((r.vacate i).settle i key val)
      else some (r.settle i key val) := by
  rw [kickOut, hloop]
  rfl

/-- The kick-out process ends: each round that goes on makes one bucket less live. -/
theorem kickOut_spec (hsize : size ≤ 2 ^ k) (fuel : ℕ) {r : Rehash K V} {key : K} {val : V}
    (h : Moving hash m n k size r [(key, val)]) (hfuel : howMany r.oldLive n < fuel) :
    ∃ r', kickOut hash n (2 ^ k - 1) fuel key val r = some r' ∧ Moving hash m n k size r' [] ∧
      ∀ j < n, r'.oldLive j → r.oldLive j := by
  induction fuel generalizing r key val with
  | zero => exact absurd hfuel (Nat.not_lt_zero _)
  | succ fuel ih =>
    obtain ⟨i, hi, hfree, hreached, hloop⟩ := h.search hsize
    rw [kickOut_succ val hloop]
    by_cases hold : i < n ∧ r.oldLive i
    · -- The entry of bucket `i` is kicked out.
      have hcond : (decide (i < n) && !r.flags.iseither i) = true := by
        simpa [Rehash.oldLive] using hold
      have hpicked := h.pick hold.1 hold.2
      have hnot : ¬ (i < n ∧ (r.vacate i).oldLive i) := by simp [oldLive_vacate]
      have hsettled := hpicked.settle hi hfree hreached hnot
      have hless : howMany ((r.vacate i).settle i key val).oldLive n < fuel := by
        have hdown := howMany_update_false (p := r.oldLive) hold.1 hold.2
        rw [← oldLive_vacate] at hdown
        change howMany (r.vacate i).oldLive n < fuel
        omega
      obtain ⟨r', hr', hmoving, hkept⟩ := ih hsettled hless
      refine ⟨r', ?_, hmoving, fun j hj hlive => ?_⟩
      · rw [if_pos hcond]
        exact hr'
      · have hvacated : (r.vacate i).oldLive j := hkept j hj hlive
        rw [oldLive_vacate] at hvacated
        by_cases hji : j = i
        · simp [hji] at hvacated
        · simpa [hji] using hvacated
    · have hcond : (decide (i < n) && !r.flags.iseither i) = false := by
        rw [← Bool.not_eq_true]
        simpa [Rehash.oldLive] using hold
      refine ⟨r.settle i key val, ?_, h.settle hi hfree hreached hold, fun _ _ hlive => hlive⟩
      rw [hcond, if_neg Bool.false_ne_true]

theorem rehashBucket_spec (hsize : size ≤ 2 ^ k) {r : Rehash K V}
    (h : Moving hash m n k size r []) {j : ℕ} (hj : j < n) :
    ∃ r', rehashBucket hash n (2 ^ k - 1) r j = some r' ∧ Moving hash m n k size r' [] ∧
      (∀ i < n, r'.oldLive i → r.oldLive i) ∧ r'.oldLive j = false := by
  unfold rehashBucket
  by_cases hlive : r.oldLive j = true
  · have hfuel : howMany (r.vacate j).oldLive n < n + 1 :=
      Nat.lt_succ_of_le ((Finset.card_filter_le _ _).trans (Finset.card_range n).le)
    obtain ⟨r', hr', hmoving, hkept⟩ := kickOut_spec hsize (n + 1) (h.pick hj hlive) hfuel
    have hvacated : ∀ i < n, r'.oldLive i → r.oldLive i ∧ i ≠ j := by
      intro i hi hlive
      have hstill := hkept i hi hlive
      rw [oldLive_vacate] at hstill
      by_cases hij : i = j
      · simp [hij] at hstill
      · exact ⟨by simpa [hij] using hstill, hij⟩
    refine ⟨r', ?_, hmoving, fun i hi hlive => (hvacated i hi hlive).1, ?_⟩
    · rw [if_neg (by simpa [Rehash.oldLive] using hlive)]
      exact hr'
    · rw [← Bool.not_eq_true]
      exact fun hlive => (hvacated j hj hlive).2 rfl
  · refine ⟨r, ?_, h, fun _ _ hlive => hlive, by simpa using hlive⟩
    rw [if_pos (by simpa [Rehash.oldLive] using hlive)]

theorem foldlM_rehashBucket (hsize : size ≤ 2 ^ k) (js : List ℕ) (hjs : ∀ j ∈ js, j < n)
    {r : Rehash K V} (h : Moving hash m n k size r []) :
    ∃ r', js.foldlM (rehashBucket hash n (2 ^ k - 1)) r = some r' ∧
      Moving hash m n k size r' [] ∧ (∀ i < n, r'.oldLive i → r.oldLive i) ∧
      ∀ j ∈ js, r'.oldLive j = false := by
  induction js generalizing r with
  | nil => exact ⟨r, rfl, h, fun _ _ hlive => hlive,
      fun j hj => absurd hj List.not_mem_nil⟩
  | cons j js ih =>
    obtain ⟨hj, hrest⟩ := List.forall_mem_cons.mp hjs
    obtain ⟨r₁, hr₁, hmoving₁, hkept₁, hdone₁⟩ := rehashBucket_spec hsize h hj
    obtain ⟨r₂, hr₂, hmoving₂, hkept₂, hdone₂⟩ := ih hrest hmoving₁
    refine ⟨r₂, by rw [List.foldlM_cons, hr₁]; exact hr₂, hmoving₂,
      fun i hi hlive => hkept₁ i hi (hkept₂ i hi hlive), List.forall_mem_cons.mpr ⟨?_, hdone₂⟩⟩
    rw [← Bool.not_eq_true]
    exact fun hlive => absurd (hkept₂ j hj hlive) (by simp [hdone₁])

theorem rehash_spec (hsize : size ≤ 2 ^ k) {r : Rehash K V} (h : Moving hash m n k size r []) :
    ∃ r', rehash hash n (2 ^ k - 1) r = some r' ∧ Moving hash m n k size r' [] ∧
      ∀ j < n, r'.oldLive j = false := by
  obtain ⟨r', hr', hmoving, -, hdone⟩ :=
    foldlM_rehashBucket hsize (List.range n) (fun _ => List.mem_range.mp) h
  exact ⟨r', hr', hmoving, fun j hj => hdone j (List.mem_range.mpr hj)⟩

end SplunkOtel.Native.Khash
