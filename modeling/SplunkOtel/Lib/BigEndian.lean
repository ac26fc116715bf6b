import Mathlib.Data.Nat.Digits.Lemmas
import Mathlib.Tactic.Common

/-!
# Big-endian numbers

A list of digits, the most significant one first. Lists of one length are in the order of the
numbers that they denote.
-/

namespace Lib.BigEndian

/-- The number that the digits denote. -/
def value (base : ℕ) (digits : List ℕ) : ℕ := Nat.ofDigits base digits.reverse

variable {base : ℕ} {ds es : List ℕ}

@[simp] theorem value_singleton (d : ℕ) : value base [d] = d := Nat.ofDigits_singleton

theorem value_append :
    value base (ds ++ es) = value base ds * base ^ es.length + value base es := by
  unfold value
  rw [List.reverse_append, Nat.ofDigits_append, List.length_reverse]
  ring

theorem value_cons (d : ℕ) : value base (d :: ds) = d * base ^ ds.length + value base ds := by
  rw [← List.singleton_append, value_append, value_singleton]

@[simp] theorem value_zeros_append (n : ℕ) :
    value base (List.replicate n 0 ++ ds) = value base ds := by
  unfold value
  rw [List.reverse_append, List.reverse_replicate, Nat.ofDigits_append_replicate_zero]

theorem value_lt (hbase : 1 < base) (h : ∀ d ∈ ds, d < base) :
    value base ds < base ^ ds.length := by
  rw [← List.length_reverse]
  exact Nat.ofDigits_lt_base_pow_length hbase (by simpa using h)

theorem value_eq_zero_iff (hbase : 0 < base) : value base ds = 0 ↔ ∀ d ∈ ds, d = 0 := by
  induction ds with
  | nil => simp [value]
  | cons d ds ih =>
    have hpow : base ^ ds.length ≠ 0 := (Nat.pow_pos hbase).ne'
    rw [value_cons, Nat.add_eq_zero_iff, ih, List.forall_mem_cons, mul_eq_zero, or_iff_left hpow]

/-! ## The order of digit lists -/

section Order

variable {α : Type*} [LT α] {digit : α → ℕ} {as bs : List α}

theorem lt_of_value_lt (hbase : 1 < base) (hlt : ∀ a, digit a < base)
    (horder : ∀ a b, digit a < digit b → a < b) (hinj : Function.Injective digit)
    (hlength : as.length = bs.length)
    (h : value base (as.map digit) < value base (bs.map digit)) : as < bs := by
  induction as generalizing bs with
  | nil =>
    obtain rfl := List.length_eq_zero_iff.mp hlength.symm
    exact absurd h (lt_irrefl _)
  | cons a as ih =>
    obtain ⟨b, bs, rfl⟩ := List.exists_cons_of_length_eq_add_one hlength.symm
    have hlength : as.length = bs.length := Nat.succ.inj hlength
    have hvalue (l : List α) : value base (l.map digit) < base ^ (l.map digit).length :=
      value_lt hbase (by simp [hlt])
    have has := hvalue as
    have hbs := hvalue bs
    simp only [List.map_cons, value_cons, List.length_map, hlength] at h has hbs
    rw [List.cons_lt_cons_iff]
    rcases lt_trichotomy (digit a) (digit b) with hab | hab | hab
    · exact Or.inl (horder a b hab)
    · rw [hab] at h
      exact Or.inr ⟨hinj hab, ih hlength (by omega)⟩
    · have hstep : (digit b + 1) * base ^ bs.length ≤ digit a * base ^ bs.length :=
        Nat.mul_le_mul_right _ hab
      rw [Nat.add_mul] at hstep
      omega

theorem append_lt_append {cs ds : List α} (hlength : as.length = bs.length) (h : as < bs) :
    as ++ cs < bs ++ ds := by
  induction as generalizing bs with
  | nil =>
    obtain rfl := List.length_eq_zero_iff.mp hlength.symm
    exact absurd h (List.not_lt_nil _)
  | cons a as ih =>
    obtain ⟨b, bs, rfl⟩ := List.exists_cons_of_length_eq_add_one hlength.symm
    rw [List.cons_append, List.cons_append, List.cons_lt_cons_iff]
    rcases List.cons_lt_cons_iff.mp h with hab | ⟨hab, hlt⟩
    · exact Or.inl hab
    · exact Or.inr ⟨hab, ih (Nat.succ.inj hlength) hlt⟩

end Order

theorem bytes_lt {as bs : List UInt8} (hlength : as.length = bs.length)
    (h : value 256 (as.map UInt8.toNat) < value 256 (bs.map UInt8.toNat)) : as < bs :=
  lt_of_value_lt (by decide) UInt8.toNat_lt (fun _ _ hab => hab) (fun _ _ => UInt8.toNat_inj.mp)
    hlength h

end Lib.BigEndian
