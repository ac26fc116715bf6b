import SplunkOtel.Js.Digits

/-!
# Conversion of scalars (`src/configuration/substitute.ts`)

A text that starts like a number becomes one. Nothing is lost only where all of it is the number.
-/

namespace SplunkOtel.Configuration.Substitute

open Js

/-- The value of a YAML scalar. -/
inductive ScalarValue where
  | null
  | bool (b : Bool)
  | number (n : Number)
  | string (s : String)

def convertSubstitution (s : String) : ScalarValue :=
  if s = "true" then .bool true
  else if s = "false" then .bool false
  else if startsWith s "0x" then .number (parseHex s)
  else
    match s.toList.head? with
    | none => .string s
    | some firstChar =>
      if '0' ≤ firstChar ∧ firstChar ≤ '9' then .number (parseFloat s) else .string s

/-- The whole text is a decimal literal, or a hexadecimal one with `0x`, of this number: a literal
denotes the double that is nearest to what it writes. -/
def NumericLiteral (s : String) (n : Number) : Prop :=
  (∃ value, unsignedDecimal s.toList = some value ∧ n = .ofExact value) ∨
    ∃ digits value, s.toList = '0' :: 'x' :: digits ∧ radixLiteral 16 digits = some value ∧
      n = .ofExact value

/-- The value is the text, or what the text is a literal of. -/
def Denotes (s : String) : ScalarValue → Prop
  | .null => False
  | .bool b => s = toString b
  | .number n => NumericLiteral s n
  | .string t => t = s

def Lossless (s : String) : Prop := Denotes s (convertSubstitution s)

/-- A text that starts with `0x` or with another digit is a literal as a whole. -/
def WholeLiteral (s : String) : Prop :=
  match s.toList with
  | [] => True
  | '0' :: 'x' :: digits => (radixLiteral 16 digits).isSome
  | c :: _ => c.isDigit = true → (unsignedDecimal s.toList).isSome

theorem startsWith_hex {s : String} :
    startsWith s "0x" = true ↔ ∃ digits, s.toList = '0' :: 'x' :: digits := by
  unfold startsWith
  rw [List.isPrefixOf_iff_prefix]
  constructor
  · rintro ⟨digits, hdigits⟩
    exact ⟨digits, hdigits.symm⟩
  · rintro ⟨digits, hdigits⟩
    exact ⟨digits, hdigits.symm⟩

theorem parseHex_eq {s : String} {digits : List Char} {value : ℕ}
    (hs : s.toList = '0' :: 'x' :: digits) (h : radixLiteral 16 digits = some value) :
    parseHex s = .ofExact value := by
  have hall : digits.takeWhile hexDigit = digits := by
    rw [List.takeWhile_eq_self_iff]
    intro c hc
    obtain ⟨d, hd, hlt⟩ := digits_of_radixLiteral h c hc
    simp [hexDigit, hd, hlt]
  unfold parseHex
  rw [trimStart_digit hs (by decide), hs]
  simp [hall, h]

theorem unsignedDecimal_hex (digits : List Char) : unsignedDecimal ('0' :: 'x' :: digits) = none := by
  simp [unsignedDecimal, List.span_eq_takeWhile_dropWhile, exponent]

theorem lossless_hex {s : String} {digits : List Char} (hs : s.toList = '0' :: 'x' :: digits) :
    Lossless s ↔ (radixLiteral 16 digits).isSome := by
  have hconvert : convertSubstitution s = .number (parseHex s) := by
    have htrue : s ≠ "true" := by
      rintro rfl
      cases hs
    have hfalse : s ≠ "false" := by
      rintro rfl
      cases hs
    unfold convertSubstitution
    rw [if_neg htrue, if_neg hfalse, if_pos (startsWith_hex.mpr ⟨digits, hs⟩)]
  unfold Lossless
  rw [hconvert]
  constructor
  · rintro (⟨value, hvalue, -⟩ | ⟨digits', value, hdigits, hvalue, -⟩)
    · rw [hs, unsignedDecimal_hex] at hvalue
      cases hvalue
    · rw [hs] at hdigits
      cases hdigits
      simp [hvalue]
  · intro h
    obtain ⟨value, hvalue⟩ := Option.isSome_iff_exists.mp h
    exact Or.inr ⟨digits, value, hs, hvalue, parseHex_eq hs hvalue⟩

theorem lossless_digit {s : String} {c : Char} {cs : List Char} (hs : s.toList = c :: cs)
    (hc : c.isDigit = true) (hhex : startsWith s "0x" = false) :
    Lossless s ↔ (unsignedDecimal s.toList).isSome := by
  obtain ⟨value, hfloat, hvalue⟩ := parseFloat_digit hs hc
  have hrange : '0' ≤ c ∧ c ≤ '9' := by
    simpa [Char.isDigit, Char.le_def] using hc
  have hconvert : convertSubstitution s = .number (parseFloat s) := by
    have htrue : s ≠ "true" := by
      rintro rfl
      cases hs
      exact absurd hc (by decide)
    have hfalse : s ≠ "false" := by
      rintro rfl
      cases hs
      exact absurd hc (by decide)
    unfold convertSubstitution
    rw [if_neg htrue, if_neg hfalse, if_neg (by simp [hhex]), hs]
    simp only [List.head?_cons, if_pos hrange]
  unfold Lossless
  rw [hconvert, hfloat]
  constructor
  · rintro (⟨v, hv, -⟩ | ⟨digits, v, hdigits, -⟩)
    · simp [hv]
    · rw [startsWith_hex.mpr ⟨digits, hdigits⟩] at hhex
      cases hhex
  · intro h
    obtain ⟨v, hv⟩ := Option.isSome_iff_exists.mp h
    exact Or.inl ⟨v, hv, by rw [hvalue v hv]⟩

theorem lossless_other {s : String} (hhex : startsWith s "0x" = false)
    (hdigit : ∀ c ∈ s.toList.head?, c.isDigit = false) : Lossless s := by
  unfold Lossless convertSubstitution
  by_cases htrue : s = "true"
  · rw [if_pos htrue]
    exact htrue
  by_cases hfalse : s = "false"
  · rw [if_neg htrue, if_pos hfalse]
    exact hfalse
  rw [if_neg htrue, if_neg hfalse, if_neg (by simp [hhex])]
  cases hhead : s.toList.head? with
  | none => rfl
  | some c =>
    have hrange : ¬ ('0' ≤ c ∧ c ≤ '9') := by
      have hc := hdigit c hhead
      simpa [Char.isDigit, Char.le_def] using hc
    simp only [if_neg hrange]
    rfl

theorem lossless_iff (s : String) : Lossless s ↔ WholeLiteral s := by
  unfold WholeLiteral
  split
  · rename_i hs
    refine iff_of_true (lossless_other ?_ (by simp [hs])) trivial
    rw [← Bool.not_eq_true, startsWith_hex]
    rintro ⟨digits, hdigits⟩
    rw [hs] at hdigits
    cases hdigits
  · rename_i digits hs
    exact lossless_hex hs
  · rename_i c cs hnot hs
    have hhex : startsWith s "0x" = false := by
      rw [← Bool.not_eq_true, startsWith_hex]
      rintro ⟨digits, hdigits⟩
      rw [hs] at hdigits
      cases hdigits
      exact hnot digits rfl rfl
    cases hc : c.isDigit with
    | true =>
      rw [lossless_digit hs hc hhex]
      simp
    | false =>
      refine iff_of_true (lossless_other hhex ?_) (by simp)
      simp [hs, hc]

end SplunkOtel.Configuration.Substitute
