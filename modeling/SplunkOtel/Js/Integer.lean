import SplunkOtel.Js.Number
import Mathlib.Data.Rat.Floor

/-!
# Integers of a fixed width

What the native side makes of a number: `ToInt32` wraps around, and the 64-bit conversion clamps.
-/

open Lib.Double

namespace SplunkOtel.Js

/-- Rounded toward zero. -/
def truncate (value : ℚ) : ℤ := if 0 ≤ value then ⌊value⌋ else ⌈value⌉

def toInt32 : Number → ℤ
  | .finite value => (truncate value).bmod (2 ^ 32)
  | _ => 0

def toInt64 : Number → ℤ
  | .nan => 0
  | .infinite negative => if negative then -2 ^ 63 else 2 ^ 63 - 1
  | .finite value => max (-2 ^ 63) (min (2 ^ 63 - 1) (truncate value))

/-- `Math.floor` -/
def Number.floor : Number → Number
  | finite value => finite ⌊value⌋
  | n => n

/-- `a & b`, of the two as 32-bit integers. -/
def bitAnd (a b : Number) : ℤ :=
  (BitVec.ofInt 32 (toInt32 a) &&& BitVec.ofInt 32 (toInt32 b)).toInt

/-- What an element of a `Uint8Array` keeps of an integer. -/
def toUint8 (n : ℤ) : UInt8 := UInt8.ofInt n

theorem bmod_eq_self_iff (n : ℤ) : n.bmod (2 ^ 32) = n ↔ -2 ^ 31 ≤ n ∧ n < 2 ^ 31 := by
  unfold Int.bmod
  simp only
  split
  · omega
  · omega

theorem toInt32_intCast (n : ℤ) : toInt32 (.finite n) = n.bmod (2 ^ 32) := by
  have htruncate : truncate n = n := by
    unfold truncate
    split
    · exact Int.floor_intCast n
    · exact Int.ceil_intCast n
  rw [toInt32, htruncate]

theorem toInt32_lt (n : Number) : toInt32 n < 2 ^ 31 := by
  cases n with
  | finite value => exact Int.bmod_lt (by norm_num)
  | nan => exact (by norm_num : (0 : ℤ) < 2 ^ 31)
  | infinite negative => exact (by norm_num : (0 : ℤ) < 2 ^ 31)

/-- An integer is not taken for the one below it, not even at the 32-bit limit. -/
theorem toInt32_add_one_ne (n : ℤ) : toInt32 (.finite (n + 1 : ℤ)) ≠ n := by
  rw [toInt32_intCast]
  intro h
  have hmod : (n + 1).bmod 4294967296 % 4294967296 = (n + 1) % 4294967296 := Int.bmod_emod
  norm_num at h
  omega

theorem toInt32_ofExact_iff {value : ℚ} (hlow : 1 ≤ value) (hhigh : value < 2 ^ 31) :
    toInt32 (.ofExact value) = ⌊value⌋ ↔ value + spacing value / 2 < ⌊value⌋ + 1 := by
  have hlimit : value < 2 ^ 52 := hhigh.trans (by norm_num)
  have hfloor : ⌊value⌋ < 2 ^ 31 := Int.floor_lt.mpr (by exact_mod_cast hhigh)
  have hone : 1 ≤ ⌊value⌋ := Int.le_floor.mpr (by exact_mod_cast hlow)
  have hbelow : (⌊value⌋ : ℚ) ≤ nearestDouble value := by
    rw [intCast_le_nearestDouble_iff hlow hlimit]
    linarith [Int.floor_le value, spacing_pos value]
  have habove : nearestDouble value ≤ (⌊value⌋ + 1 : ℤ) :=
    nearestDouble_le hlow hlimit (by exact_mod_cast (Int.lt_floor_add_one value).le)
  have hpos : 0 ≤ nearestDouble value :=
    le_trans (Int.cast_nonneg_iff.mpr (zero_le_one.trans hone)) hbelow
  have hdouble : Number.ofExact value = .finite (nearestDouble value) := by
    have hbound : ((⌊value⌋ + 1 : ℤ) : ℚ) ≤ 2 ^ 31 := by exact_mod_cast Int.add_one_le_iff.mpr hfloor
    have hlarge : (2 ^ 31 : ℚ) < 2 ^ 1024 := pow_lt_pow_right₀ (by norm_num) (by norm_num)
    rw [Number.ofExact, abs_of_nonneg hpos, if_pos ((habove.trans hbound).trans_lt hlarge)]
  have hreached := intCast_le_nearestDouble_iff hlow hlimit (⌊value⌋ + 1)
  push_cast at hreached
  rw [hdouble, ← not_le, ← hreached, not_le]
  constructor
  · intro heq
    by_contra hnot
    have hnext : nearestDouble value = (⌊value⌋ + 1 : ℤ) :=
      habove.antisymm (by push_cast; exact not_lt.mp hnot)
    rw [hnext] at heq
    exact toInt32_add_one_ne _ heq
  · intro hlt
    have hsame : ⌊nearestDouble value⌋ = ⌊value⌋ := Int.floor_eq_iff.mpr ⟨hbelow, hlt⟩
    rw [toInt32, truncate, if_pos hpos, hsame, bmod_eq_self_iff]
    omega

theorem toInt32_kept_iff {value : ℚ} (h : 0 < value) :
    0 < toInt32 (.ofExact value) ∧ toInt32 (.ofExact value) = truncate value ↔
      1 ≤ value ∧ value < 2 ^ 31 ∧ value + spacing value / 2 < ⌊value⌋ + 1 := by
  have htruncate : truncate value = ⌊value⌋ := if_pos h.le
  rw [htruncate]
  constructor
  · rintro ⟨hpositive, heq⟩
    have hlow : 1 ≤ ⌊value⌋ := by omega
    have hhigh : ⌊value⌋ < 2 ^ 31 := heq ▸ toInt32_lt _
    have hone : 1 ≤ value := by exact_mod_cast Int.le_floor.mp hlow
    have hlimit : value < 2 ^ 31 := by exact_mod_cast Int.floor_lt.mp hhigh
    exact ⟨hone, hlimit, (toInt32_ofExact_iff hone hlimit).mp heq⟩
  · rintro ⟨hone, hlimit, hnext⟩
    have heq := (toInt32_ofExact_iff hone hlimit).mpr hnext
    have hlow : 1 ≤ ⌊value⌋ := Int.le_floor.mpr (by exact_mod_cast hone)
    exact ⟨by omega, heq⟩

/-! ## The low byte -/

theorem bitAnd_255 (n : ℤ) : bitAnd (.finite n) 255 = n % 256 := by
  have h255 : BitVec.ofInt 32 (toInt32 255) = 255#32 := by decide
  have hmod : n.bmod 4294967296 % 4294967296 = n % 4294967296 := Int.bmod_emod
  have hnat : (BitVec.ofInt 32 (n.bmod (2 ^ 32)) &&& 255#32).toNat = (n % 256).toNat := by
    have h := Nat.and_two_pow_sub_one_eq_mod (n.bmod (2 ^ 32) % 2 ^ 32).toNat 8
    rw [BitVec.toNat_and, BitVec.toNat_ofInt]
    norm_num at h ⊢
    rw [h, hmod]
    omega
  unfold bitAnd
  rw [toInt32_intCast, h255, BitVec.toInt_eq_toNat_of_lt (by omega), hnat]
  omega

theorem toUint8_bitAnd (n : ℕ) : toUint8 (bitAnd (.finite n) 255) = UInt8.ofNat n := by
  have hmod : bitAnd (.finite n) 255 = (n : ℤ) % 256 := bitAnd_255 n
  apply UInt8.toNat_inj.mp
  unfold toUint8
  simp [hmod, UInt8.ofInt]
  omega

theorem toUint8_bitAnd_floor (n d : ℕ) :
    toUint8 (bitAnd (Number.floor (.finite (n / d))) 255) = UInt8.ofNat (n / d) := by
  have hfloor : ⌊(n / d : ℚ)⌋ = (n / d : ℕ) := by
    have h := Rat.floor_intCast_div_natCast n d
    simpa using h
  rw [Number.floor, hfloor]
  exact toUint8_bitAnd (n / d)

end SplunkOtel.Js
