import Mathlib.Data.Int.Notation
import Mathlib.Logic.Function.Basic
import Mathlib.Tactic.Common

/-!
# Decimal text and separators

Fields that are joined with a separator can be told apart from the last one on, when that one has
no separator in it. Decimal text never has one.
-/

namespace Lib.Text

theorem append_sep_inj {α : Type*} {sep : α} {a b c d : List α} (hb : sep ∉ b) (hd : sep ∉ d)
    (h : a ++ sep :: b = c ++ sep :: d) : a = c ∧ b = d := by
  rcases List.append_eq_append_iff.mp h with ⟨e, rfl, he⟩ | ⟨e, rfl, he⟩
  · rcases e with _ | ⟨x, e⟩
    · exact ⟨(List.append_nil a).symm, (List.cons.inj he).2⟩
    · have : sep ∈ b := by
        rw [(List.cons.inj he).2]
        exact List.mem_append_right _ List.mem_cons_self
      exact absurd this hb
  · rcases e with _ | ⟨x, e⟩
    · exact ⟨List.append_nil c, (List.cons.inj he).2.symm⟩
    · have : sep ∈ d := by
        rw [(List.cons.inj he).2]
        exact List.mem_append_right _ List.mem_cons_self
      exact absurd this hd

theorem flatMap_injective {α β : Type*} {f : α → List β} (hne : ∀ a, f a ≠ [])
    (hf : ∀ a b xs ys, f a ++ xs = f b ++ ys → a = b ∧ xs = ys) :
    Function.Injective (List.flatMap f) := by
  intro as
  induction as with
  | nil =>
    intro bs h
    rcases bs with _ | ⟨b, bs⟩
    · rfl
    · rw [List.flatMap_nil, List.flatMap_cons] at h
      exact absurd (List.append_eq_nil_iff.mp h.symm).1 (hne b)
  | cons a as ih =>
    intro bs h
    rcases bs with _ | ⟨b, bs⟩
    · rw [List.flatMap_nil, List.flatMap_cons] at h
      exact absurd (List.append_eq_nil_iff.mp h).1 (hne a)
    · rw [List.flatMap_cons, List.flatMap_cons] at h
      obtain ⟨hab, hrest⟩ := hf a b _ _ h
      rw [hab, ih hrest]

theorem isDigit_of_mem_repr {n : ℕ} {c : Char} (h : c ∈ (Nat.repr n).toList) : c.isDigit := by
  rw [Nat.toList_repr] at h
  exact Nat.isDigit_of_mem_toDigits (by decide) (by decide) h

theorem toString_negSucc (n : ℕ) : toString (Int.negSucc n) = "-" ++ Nat.repr (n + 1) := rfl

theorem repr_injective {m n : ℕ} (h : m.repr = n.repr) : m = n := by
  have hlist := congrArg String.toList h
  rw [Nat.toList_repr, Nat.toList_repr] at hlist
  rw [← Nat.ofDigitChars_ten_toDigits (n := m), hlist, Nat.ofDigitChars_ten_toDigits]

theorem repr_ne_minus (m : ℕ) (s : String) : m.repr ≠ "-" ++ s := by
  intro h
  have hmem : '-' ∈ m.repr.toList := by
    rw [h, String.toList_append]
    exact List.mem_append_left _ (by decide)
  exact absurd (isDigit_of_mem_repr hmem) (by decide)

theorem toString_injective : Function.Injective (toString : ℤ → String) := by
  intro a b h
  cases a with
  | ofNat m =>
    cases b with
    | ofNat n => exact congrArg Int.ofNat (repr_injective h)
    | negSucc n => exact absurd h (repr_ne_minus m _)
  | negSucc m =>
    cases b with
    | ofNat n => exact absurd h.symm (repr_ne_minus n _)
    | negSucc n =>
      rw [toString_negSucc, toString_negSucc, String.append_right_inj] at h
      rw [Nat.succ.inj (repr_injective h)]

theorem not_mem_toString {c : Char} (hdigit : ¬ c.isDigit) (hsign : c ≠ '-') (n : ℤ) :
    c ∉ (toString n).toList := by
  intro hc
  rcases n with n | n
  · exact hdigit (isDigit_of_mem_repr hc)
  · rw [toString_negSucc, String.toList_append] at hc
    rcases List.mem_append.mp hc with hc | hc
    · exact hsign (List.mem_singleton.mp hc)
    · exact hdigit (isDigit_of_mem_repr hc)

end Lib.Text
