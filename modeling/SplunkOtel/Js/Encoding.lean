import Mathlib.Tactic.Common

/-!
# UTF-8 (`TextEncoder` and `TextDecoder`)

The decoder is the one of the Encoding Standard: each byte sequence that is not UTF-8 gives
U+FFFD, and a byte order mark at the start is left out.
-/

namespace SplunkOtel.Js

/-- `new TextEncoder().encode(s)` -/
def encodeText (s : String) : List UInt8 := s.toList.flatMap String.utf8EncodeChar

/-- A sequence that has begun: the continuation bytes to come, the bits so far, and the range that
the next byte must be in. -/
structure Utf8Pending where
  needed : ℕ
  codePoint : ℕ
  lower : ℕ := 0x80
  upper : ℕ := 0xBF

def replacement : Char := '\uFFFD'

/-- What a byte at the start of a sequence gives: a character, or a sequence that it begins. -/
def utf8Start (byte : ℕ) : Char ⊕ Utf8Pending :=
  if byte ≤ 0x7F then .inl (Char.ofNat byte)
  else if 0xC2 ≤ byte ∧ byte ≤ 0xDF then .inr { needed := 1, codePoint := byte % 0x20 }
  else if 0xE0 ≤ byte ∧ byte ≤ 0xEF then
    .inr { needed := 2
           codePoint := byte % 0x10
           lower := if byte = 0xE0 then 0xA0 else 0x80
           upper := if byte = 0xED then 0x9F else 0xBF }
  else if 0xF0 ≤ byte ∧ byte ≤ 0xF4 then
    .inr { needed := 3
           codePoint := byte % 0x8
           lower := if byte = 0xF0 then 0x90 else 0x80
           upper := if byte = 0xF4 then 0x8F else 0xBF }
  else .inl replacement

def utf8Decode : Option Utf8Pending → List UInt8 → List Char
  | none, [] => []
  | some _, [] => [replacement]
  | pending, byte :: bytes =>
    let b := byte.toNat
    let start (before : List Char) : List Char :=
      match utf8Start b with
      | .inl c => before ++ c :: utf8Decode none bytes
      | .inr p => before ++ utf8Decode (some p) bytes
    match pending with
    | none => start []
    | some p =>
      -- A byte out of range ends the sequence, and is read again as the start of one.
      if b < p.lower ∨ p.upper < b then start [replacement]
      else
        let codePoint := p.codePoint * 0x40 + b % 0x40
        if p.needed = 1 then Char.ofNat codePoint :: utf8Decode none bytes
        else utf8Decode (some { needed := p.needed - 1, codePoint }) bytes

/-- `new TextDecoder().decode(bytes)` -/
def decodeText (bytes : List UInt8) : String :=
  let withoutMark := match bytes with
    | 0xEF :: 0xBB :: 0xBF :: rest => rest
    | _ => bytes
  String.ofList (utf8Decode none withoutMark)

theorem encodeText_injective : Function.Injective encodeText := by
  intro s t h
  have hlist : s.toList.utf8Encode = t.toList.utf8Encode := by
    unfold List.utf8Encode
    exact congrArg List.toByteArray h
  rw [String.utf8Encode_toList, String.utf8Encode_toList] at hlist
  exact String.toByteArray_inj.mp hlist

end SplunkOtel.Js
