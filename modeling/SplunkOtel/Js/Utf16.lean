import SplunkOtel.Js.Encoding

/-!
# UTF-16

A string as JavaScript keeps it, and what V8 hands over of it to native code. A surrogate without
its other half has no UTF-8.
-/

namespace SplunkOtel.Js

/-- The UTF-16 units of a string. -/
abbrev CodeUnits := List UInt16

def isHighSurrogate (u : UInt16) : Bool := 0xD800 ≤ u.toNat ∧ u.toNat ≤ 0xDBFF

def isLowSurrogate (u : UInt16) : Bool := 0xDC00 ≤ u.toNat ∧ u.toNat ≤ 0xDFFF

def surrogatePair (high low : UInt16) : Char :=
  Char.ofNat (0x10000 + (high.toNat - 0xD800) * 0x400 + (low.toNat - 0xDC00))

section

variable (unpaired : UInt16 → List UInt8)

def unitBytes (u : UInt16) : List UInt8 :=
  if isHighSurrogate u ∨ isLowSurrogate u then unpaired u
  else String.utf8EncodeChar (Char.ofNat u.toNat)

/-- `v8::String::Utf8Value`. Versions differ in what they write for an unpaired surrogate. -/
def utf8Value : CodeUnits → List UInt8
  | [] => []
  | [u] => unitBytes unpaired u
  | u :: v :: us =>
    if isHighSurrogate u ∧ isLowSurrogate v then
      String.utf8EncodeChar (surrogatePair u v) ++ utf8Value us
    else unitBytes unpaired u ++ utf8Value (v :: us)

end

/-! ## Strings of characters -/

def charUnits (c : Char) : CodeUnits :=
  if c.toNat < 0x10000 then [UInt16.ofNat c.toNat]
  else
    [UInt16.ofNat (0xD800 + (c.toNat - 0x10000) / 0x400),
      UInt16.ofNat (0xDC00 + (c.toNat - 0x10000) % 0x400)]

/-- A string without unpaired surrogates. -/
def unitsOf (s : String) : CodeUnits := s.toList.flatMap charUnits

variable {unpaired : UInt16 → List UInt8}

theorem utf8Value_cons {u : UInt16} (h : isHighSurrogate u = false) (us : CodeUnits) :
    utf8Value unpaired (u :: us) = unitBytes unpaired u ++ utf8Value unpaired us := by
  cases us with
  | nil => simp [utf8Value]
  | cons v us =>
    rw [utf8Value, if_neg]
    simp [h]

theorem char_range (c : Char) :
    c.toNat < 0xD800 ∨ 0xDFFF < c.toNat ∧ c.toNat < 0x110000 := c.valid

theorem toNat_unit {n : ℕ} (h : n < 0x10000) : (UInt16.ofNat n).toNat = n := by
  rw [UInt16.toNat_ofNat', Nat.mod_eq_of_lt h]

theorem utf8Value_charUnits (c : Char) (us : CodeUnits) :
    utf8Value unpaired (charUnits c ++ us) =
      String.utf8EncodeChar c ++ utf8Value unpaired us := by
  have hrange := char_range c
  unfold charUnits
  split
  · rename_i hsmall
    have hnat : (UInt16.ofNat c.toNat).toNat = c.toNat := toNat_unit hsmall
    have hhigh : isHighSurrogate (UInt16.ofNat c.toNat) = false := by
      simp only [isHighSurrogate, hnat, decide_eq_false_iff_not]
      omega
    have hlow : isLowSurrogate (UInt16.ofNat c.toNat) = false := by
      simp only [isLowSurrogate, hnat, decide_eq_false_iff_not]
      omega
    rw [List.singleton_append, utf8Value_cons hhigh, unitBytes, hnat, Char.ofNat_toNat]
    simp [hhigh, hlow]
  · rename_i hbig
    have hhighNat : (UInt16.ofNat (0xD800 + (c.toNat - 0x10000) / 0x400)).toNat =
        0xD800 + (c.toNat - 0x10000) / 0x400 := toNat_unit (by omega)
    have hlowNat : (UInt16.ofNat (0xDC00 + (c.toNat - 0x10000) % 0x400)).toNat =
        0xDC00 + (c.toNat - 0x10000) % 0x400 := toNat_unit (by omega)
    have hpair : surrogatePair (UInt16.ofNat (0xD800 + (c.toNat - 0x10000) / 0x400))
        (UInt16.ofNat (0xDC00 + (c.toNat - 0x10000) % 0x400)) = c := by
      unfold surrogatePair
      rw [hhighNat, hlowNat]
      have hsum : 0x10000 + (0xD800 + (c.toNat - 0x10000) / 0x400 - 0xD800) * 0x400 +
          (0xDC00 + (c.toNat - 0x10000) % 0x400 - 0xDC00) = c.toNat := by
        omega
      rw [hsum, Char.ofNat_toNat]
    rw [List.cons_append, List.singleton_append, utf8Value, if_pos, hpair]
    simp only [isHighSurrogate, isLowSurrogate, hhighNat, hlowNat, decide_eq_true_eq]
    omega

theorem utf8Value_unitsOf (s : String) : utf8Value unpaired (unitsOf s) = encodeText s := by
  unfold unitsOf encodeText
  induction s.toList with
  | nil => rfl
  | cons c cs ih => rw [List.flatMap_cons, List.flatMap_cons, utf8Value_charUnits, ih]

end SplunkOtel.Js
