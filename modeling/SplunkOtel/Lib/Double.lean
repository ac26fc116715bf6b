import Mathlib.Data.Int.Log
import Mathlib.Data.Rat.Floor
import Mathlib.Tactic.Linarith
import Mathlib.Tactic.Positivity

/-!
# Doubles

The double that is nearest to a number, and the even one of two that are as near. The exponent has
no upper bound here: what lies beyond the largest double is left to the caller.
-/

namespace Lib.Double

/-! ## Integers -/

def roundHalfEven (x : ℚ) : ℤ :=
  if x < ⌊x⌋ + 1 / 2 ∨ x = ⌊x⌋ + 1 / 2 ∧ ⌊x⌋ % 2 = 0 then ⌊x⌋ else ⌊x⌋ + 1

theorem floor_le_roundHalfEven (x : ℚ) : ⌊x⌋ ≤ roundHalfEven x := by
  unfold roundHalfEven
  split
  · exact le_refl _
  · omega

theorem roundHalfEven_le_floor (x : ℚ) : roundHalfEven x ≤ ⌊x⌋ + 1 := by
  unfold roundHalfEven
  split
  · omega
  · exact le_refl _

theorem roundHalfEven_intCast (n : ℤ) : roundHalfEven n = n := by
  unfold roundHalfEven
  rw [Int.floor_intCast, if_pos (Or.inl (by linarith))]

theorem roundHalfEven_le {x : ℚ} {n : ℤ} (h : x ≤ n) : roundHalfEven x ≤ n := by
  rcases h.lt_or_eq with hlt | rfl
  · have hfloor : ⌊x⌋ < n := Int.floor_lt.mpr hlt
    have hle := roundHalfEven_le_floor x
    omega
  · rw [roundHalfEven_intCast]

theorem even_le_roundHalfEven_iff {x : ℚ} {n : ℤ} (hn : n % 2 = 0) :
    n ≤ roundHalfEven x ↔ n - 1 / 2 ≤ x := by
  have hlow := Int.floor_le x
  have hhigh := Int.lt_floor_add_one x
  rcases lt_trichotomy n (⌊x⌋ + 1) with hlt | rfl | hgt
  · have hle : n ≤ ⌊x⌋ := by omega
    have hcast : (n : ℚ) ≤ ⌊x⌋ := Int.cast_le.mpr hle
    exact iff_of_true (hle.trans (floor_le_roundHalfEven x)) (by linarith)
  · have hodd : ⌊x⌋ % 2 ≠ 0 := by omega
    push_cast
    unfold roundHalfEven
    split
    · rename_i hdown
      have hbelow : x < ⌊x⌋ + 1 / 2 := by
        rcases hdown with hbelow | ⟨-, heven⟩
        · exact hbelow
        · exact absurd heven hodd
      exact iff_of_false (by omega) (by linarith)
    · rename_i hup
      exact iff_of_true (le_refl _) (by linarith [not_lt.mp (fun h => hup (Or.inl h))])
  · have hcast : (⌊x⌋ : ℚ) + 1 + 1 ≤ n := by exact_mod_cast hgt
    have hle := roundHalfEven_le_floor x
    exact iff_of_false (by omega) (by linarith)

/-! ## Doubles -/

/-- How far apart the doubles are around a number: 53 bits, and the smallest subnormal at least. -/
def spacing (value : ℚ) : ℚ := 2 ^ (max (Int.log 2 |value|) (-1022) - 52)

def nearestDouble (value : ℚ) : ℚ := roundHalfEven (value / spacing value) * spacing value

example : nearestDouble (1 / 10) = 3602879701896397 / 2 ^ 55 := by decide +kernel

theorem spacing_pos (value : ℚ) : 0 < spacing value := by
  unfold spacing
  exact zpow_pos two_pos _

variable {value : ℚ} (hlow : 1 ≤ value) (hhigh : value < 2 ^ 52)

include hlow hhigh

/-- Below 2^52, the spacing goes into every integer an even number of times. -/
theorem exists_even_multiple (n : ℤ) : ∃ m : ℤ, m % 2 = 0 ∧ (n : ℚ) = m * spacing value := by
  have hpos : 0 < value := by linarith
  have hbits : 0 ≤ Int.log 2 value := by
    rw [← Int.zpow_le_iff_le_log Nat.one_lt_two hpos]
    simpa using hlow
  have hbits' : Int.log 2 value < 52 := by
    rw [← Int.lt_zpow_iff_log_lt Nat.one_lt_two hpos]
    exact_mod_cast hhigh
  have hone : (2 : ℚ) ^ ((51 - Int.log 2 value).toNat + 1) * spacing value = 1 := by
    rw [spacing, abs_of_pos hpos, max_eq_left (by omega), ← zpow_natCast, ← zpow_add₀ two_ne_zero]
    have hsum : ((51 - Int.log 2 value).toNat + 1 : ℕ) + (Int.log 2 value - 52) = (0 : ℤ) := by
      omega
    rw [hsum, zpow_zero]
  refine ⟨n * 2 ^ ((51 - Int.log 2 value).toNat + 1), ?_, ?_⟩
  · rw [pow_succ, ← mul_assoc]
    exact Int.mul_emod_left _ 2
  · push_cast
    rw [mul_assoc, hone, mul_one]

theorem intCast_le_nearestDouble_iff (n : ℤ) :
    n ≤ nearestDouble value ↔ n ≤ value + spacing value / 2 := by
  obtain ⟨m, heven, hn⟩ := exists_even_multiple hlow hhigh n
  have hpos := spacing_pos value
  calc (n : ℚ) ≤ nearestDouble value ↔ m ≤ roundHalfEven (value / spacing value) := by
        rw [nearestDouble, hn, mul_le_mul_iff_left₀ hpos, Int.cast_le]
    _ ↔ m - 1 / 2 ≤ value / spacing value := even_le_roundHalfEven_iff heven
    _ ↔ n ≤ value + spacing value / 2 := by
        rw [le_div_iff₀ hpos, sub_mul, ← hn, sub_le_iff_le_add]
        ring_nf

theorem nearestDouble_le {n : ℤ} (h : value ≤ n) : nearestDouble value ≤ n := by
  obtain ⟨m, -, hn⟩ := exists_even_multiple hlow hhigh n
  have hpos := spacing_pos value
  rw [nearestDouble, hn, mul_le_mul_iff_left₀ hpos, Int.cast_le]
  apply roundHalfEven_le
  rw [div_le_iff₀ hpos, ← hn]
  exact h

end Lib.Double
