import Mathlib.Data.Nat.Bitwise
import Mathlib.Data.Nat.Choose.Basic
import Mathlib.Data.Nat.ModEq
import Mathlib.Data.Nat.Prime.Basic
import Mathlib.Data.Fintype.EquivFin
import Mathlib.Tactic.Ring

/-!
# Walks over the buckets of a hash table

A walk goes on by one bucket, then by two, then by three, and so on, around a table whose number of
buckets is a power of two. It comes to every bucket before it comes to one twice, so a search finds
the bucket that it stops at, and needs no more steps than there are buckets.
-/

namespace Lib.Probing

/-- The bucket after `n` steps. -/
def walk (mask start : ℕ) : ℕ → ℕ
  | 0 => start
  | n + 1 => (walk mask start n + (n + 1)) &&& mask

/-! ## A walk comes to every bucket -/

theorem walk_eq {k start : ℕ} (h : start < 2 ^ k) (n : ℕ) :
    walk (2 ^ k - 1) start n = (start + (n + 1) * n / 2) % 2 ^ k := by
  induction n with
  | zero => simp [walk, Nat.mod_eq_of_lt h]
  | succ n ih =>
    have htriangle : (n + 1 + 1) * (n + 1) / 2 = (n + 1) * n / 2 + (n + 1) :=
      Nat.triangle_succ (n + 1)
    rw [walk, ih, Nat.and_two_pow_sub_one_eq_mod, Nat.mod_add_mod, htriangle, Nat.add_assoc]

theorem walk_lt {k start : ℕ} (h : start < 2 ^ k) (n : ℕ) : walk (2 ^ k - 1) start n < 2 ^ k := by
  rw [walk_eq h]
  exact Nat.mod_lt _ (Nat.two_pow_pos k)

theorem two_mul_triangle (n : ℕ) : 2 * ((n + 1) * n / 2) = (n + 1) * n := by
  apply Nat.mul_div_cancel'
  rw [Nat.mul_comm]
  exact (Nat.even_mul_succ_self n).two_dvd

theorem dvd_or_dvd_of_parity {k d e : ℕ} (hparity : Odd d ∨ Odd e) (h : 2 ^ k ∣ d * e) :
    2 ^ k ∣ d ∨ 2 ^ k ∣ e := by
  rcases hparity with hodd | hodd
  · exact Or.inr (((Nat.coprime_two_left.mpr hodd).pow_left k).dvd_of_dvd_mul_left h)
  · exact Or.inl (((Nat.coprime_two_left.mpr hodd).pow_left k).dvd_of_dvd_mul_right h)

theorem walk_ne {k start : ℕ} (h : start < 2 ^ k) {a b : ℕ} (hab : a < b) (hb : b < 2 ^ k) :
    walk (2 ^ k - 1) start a ≠ walk (2 ^ k - 1) start b := by
  obtain ⟨d, rfl⟩ := Nat.exists_eq_add_of_lt hab
  rw [walk_eq h, walk_eq h]
  intro heq
  -- Twice the way between the two is a product of numbers of different parity.
  have hway : (a + d + 1 + 1) * (a + d + 1) = (a + 1) * a + (d + 1) * (2 * a + d + 2) := by ring
  have hle : (a + 1) * a / 2 ≤ (a + d + 1 + 1) * (a + d + 1) / 2 :=
    Nat.div_le_div_right (by omega)
  have hdvd : 2 ^ (k + 1) ∣ (d + 1) * (2 * a + d + 2) := by
    have hmod := (Nat.modEq_iff_dvd' (Nat.add_le_add_left hle start)).mp heq
    rw [Nat.add_sub_add_left] at hmod
    have htwo := Nat.mul_dvd_mul_left 2 hmod
    rw [Nat.mul_sub, two_mul_triangle, two_mul_triangle, hway, Nat.add_sub_cancel_left] at htwo
    rwa [Nat.pow_succ, Nat.mul_comm]
  have hparity : Odd (d + 1) ∨ Odd (2 * a + d + 2) := by
    rcases Nat.even_or_odd d with hd | hd
    · exact Or.inl hd.add_one
    · obtain ⟨m, rfl⟩ := hd
      exact Or.inr ⟨a + m + 1, by ring⟩
  have hpow : 2 ^ (k + 1) = 2 * 2 ^ k := by rw [Nat.pow_succ, Nat.mul_comm]
  rcases dvd_or_dvd_of_parity hparity hdvd with hfirst | hsecond
  · have := Nat.le_of_dvd (Nat.succ_pos d) hfirst
    omega
  · have := Nat.le_of_dvd (by omega) hsecond
    omega

theorem exists_walk {k start : ℕ} (h : start < 2 ^ k) {i : ℕ} (hi : i < 2 ^ k) :
    ∃ n < 2 ^ k, walk (2 ^ k - 1) start n = i := by
  let visit : Fin (2 ^ k) → Fin (2 ^ k) := fun n => ⟨walk (2 ^ k - 1) start n, walk_lt h n⟩
  have hinj : Function.Injective visit := by
    intro a b hab
    have heq := congrArg Fin.val hab
    rcases lt_trichotomy a.val b.val with hlt | hval | hlt
    · exact absurd heq (walk_ne h hlt b.isLt)
    · exact Fin.ext hval
    · exact absurd heq.symm (walk_ne h hlt a.isLt)
  obtain ⟨n, hn⟩ := Finite.surjective_of_injective hinj ⟨i, hi⟩
  exact ⟨n, n.isLt, congrArg Fin.val hn⟩

/-! ## Searches -/

variable {σ : Type*}

/-- The walk from bucket `i`, after `step` steps, on to the first bucket that is not passed over.
It notes what it passes, and gives up where it turns. Without fuel there is no result. -/
def walkWhile (pass turn : ℕ → Bool) (note : ℕ → σ → σ) (mask : ℕ) :
    ℕ → ℕ → ℕ → σ → Option (ℕ × Bool × σ)
  | 0, _, _, _ => none
  | fuel + 1, i, step, s =>
    if pass i then
      let s := note i s
      let i := (i + (step + 1)) &&& mask
      if turn i then some (i, true, s) else walkWhile pass turn note mask fuel i (step + 1) s
    else some (i, false, s)

/-- The walk from `start` stops at its `n`th bucket. -/
structure StopsAt (pass : ℕ → Bool) (k start n : ℕ) : Prop where
  lt : n < 2 ^ k
  stop : pass (walk (2 ^ k - 1) start n) = false
  passed : ∀ m < n, pass (walk (2 ^ k - 1) start m) = true

/-- What the first `n` buckets of a walk leave noted. -/
def noted (note : ℕ → σ → σ) (mask start n : ℕ) (s : σ) : σ :=
  (List.range n).foldl (fun s m => note (walk mask start m) s) s

theorem exists_stopsAt {pass : ℕ → Bool} {k start i : ℕ} (h : start < 2 ^ k) (hi : i < 2 ^ k)
    (hstop : pass i = false) : ∃ n, StopsAt pass k start n := by
  obtain ⟨m, hm, rfl⟩ := exists_walk h hi
  have hexists : ∃ n, pass (walk (2 ^ k - 1) start n) = false := ⟨m, hstop⟩
  refine ⟨Nat.find hexists, (Nat.find_min' hexists hstop).trans_lt hm, Nat.find_spec hexists, ?_⟩
  intro r hr
  simpa using Nat.find_min hexists hr

theorem StopsAt.unique {pass : ℕ → Bool} {k start n m : ℕ} (hn : StopsAt pass k start n)
    (hm : StopsAt pass k start m) : n = m := by
  rcases lt_trichotomy n m with hlt | heq | hlt
  · exact absurd (hm.passed n hlt) (by simp [hn.stop])
  · exact heq
  · exact absurd (hn.passed m hlt) (by simp [hm.stop])

theorem noted_succ (note : ℕ → σ → σ) (mask start n : ℕ) (s : σ) :
    noted note mask start (n + 1) s = note (walk mask start n) (noted note mask start n s) := by
  rw [noted, List.range_succ, List.foldl_append]
  rfl

theorem noted_induction {P : σ → Prop} {note : ℕ → σ → σ} {mask start n : ℕ} {s : σ} (hs : P s)
    (hnote : ∀ m < n, ∀ s, P s → P (note (walk mask start m) s)) :
    P (noted note mask start n s) := by
  induction n with
  | zero => exact hs
  | succ n ih =>
    rw [noted_succ]
    exact hnote n n.lt_succ_self _ (ih fun m hm => hnote m (Nat.lt_succ_of_lt hm))

theorem walkWhile_from {pass turn : ℕ → Bool} (note : ℕ → σ → σ) {k start n : ℕ}
    (h : start < 2 ^ k) (hn : StopsAt pass k start n) (hturn : ∀ i, turn i = true → i = start)
    (s : σ) {m : ℕ} (hm : m ≤ n) (fuel : ℕ) (hfuel : n - m < fuel) :
    walkWhile pass turn note (2 ^ k - 1) fuel (walk (2 ^ k - 1) start m) m
        (noted note (2 ^ k - 1) start m s) =
      some (walk (2 ^ k - 1) start n, false, noted note (2 ^ k - 1) start n s) := by
  induction fuel generalizing m with
  | zero => exact absurd hfuel (Nat.not_lt_zero _)
  | succ fuel ih =>
    rw [walkWhile]
    rcases Nat.eq_or_lt_of_le hm with rfl | hlt
    · simp [hn.stop]
    · have hwalk : (walk (2 ^ k - 1) start m + (m + 1)) &&& (2 ^ k - 1) =
          walk (2 ^ k - 1) start (m + 1) := rfl
      have hnot : turn (walk (2 ^ k - 1) start (m + 1)) = false := by
        rw [← Bool.not_eq_true]
        intro hback
        exact walk_ne h (Nat.succ_pos m) (Nat.lt_of_le_of_lt hlt hn.lt) (hturn _ hback).symm
      simp only [hn.passed m hlt, if_true, hwalk, hnot, Bool.false_eq_true, if_false]
      have hnext := ih hlt (by omega)
      rwa [noted_succ] at hnext

theorem walkWhile_eq {pass turn : ℕ → Bool} (note : ℕ → σ → σ) {k start n fuel : ℕ}
    (h : start < 2 ^ k) (hn : StopsAt pass k start n) (hturn : ∀ i, turn i = true → i = start)
    (s : σ) (hfuel : 2 ^ k ≤ fuel) :
    walkWhile pass turn note (2 ^ k - 1) fuel start 0 s =
      some (walk (2 ^ k - 1) start n, false, noted note (2 ^ k - 1) start n s) :=
  walkWhile_from note h hn hturn s (Nat.zero_le n) fuel (by have := hn.lt; omega)

/-! ## How many buckets -/

/-- How many of the first `n` buckets have `p`. -/
def howMany (p : ℕ → Bool) (n : ℕ) : ℕ := ((Finset.range n).filter (p ·)).card

theorem howMany_none (n : ℕ) : howMany (fun _ => false) n = 0 := by
  simp [howMany]

theorem howMany_eq_zero {p : ℕ → Bool} {n : ℕ} (h : ∀ i < n, p i = false) : howMany p n = 0 := by
  rw [howMany, Finset.card_eq_zero, Finset.filter_eq_empty_iff]
  intro i hi
  simp [h i (Finset.mem_range.mp hi)]

theorem howMany_mono {p q : ℕ → Bool} {n : ℕ} (h : ∀ i < n, p i = true → q i = true) :
    howMany p n ≤ howMany q n := by
  apply Finset.card_le_card
  intro i hi
  obtain ⟨hin, hp⟩ := Finset.mem_filter.mp hi
  exact Finset.mem_filter.mpr ⟨hin, h i (Finset.mem_range.mp hin) hp⟩

theorem howMany_update_true {p : ℕ → Bool} {n i : ℕ} (hi : i < n) (hp : p i = false) :
    howMany (Function.update p i true) n = howMany p n + 1 := by
  have hinsert : (Finset.range n).filter (Function.update p i true ·) =
      insert i ((Finset.range n).filter (p ·)) := by
    ext j
    by_cases hj : j = i
    · subst hj
      simp [hi]
    · simp [hj]
  rw [howMany, hinsert, Finset.card_insert_of_notMem (by simp [hp]), howMany]

theorem howMany_update_false {p : ℕ → Bool} {n i : ℕ} (hi : i < n) (hp : p i = true) :
    howMany (Function.update p i false) n + 1 = howMany p n := by
  have hback := howMany_update_true (p := Function.update p i false) hi (Function.update_self ..)
  rw [Function.update_idem, ← hp, Function.update_eq_self] at hback
  exact hback.symm

theorem exists_of_howMany_lt {p : ℕ → Bool} {n : ℕ} (h : howMany p n < n) :
    ∃ i < n, p i = false := by
  by_contra hall
  have hfilter : (Finset.range n).filter (p ·) = Finset.range n := by
    apply Finset.filter_true_of_mem
    intro i hi
    by_contra hp
    exact hall ⟨i, Finset.mem_range.mp hi, by simpa using hp⟩
  rw [howMany, hfilter, Finset.card_range] at h
  exact lt_irrefl n h

end Lib.Probing
