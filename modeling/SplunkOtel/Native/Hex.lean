import SplunkOtel.Js.Number
import SplunkOtel.Lib.BigEndian
import SplunkOtel.Native.Profiler

/-!
# Hexadecimal ids (`src/native_ext/util/hex.cpp`)

The loop of `HexToBinary` with its indices. `none` stands for an access outside of the text or of
the buffer.
-/

open Lib

namespace SplunkOtel.Native.Hex

/-- `HexToInt(hex[i])` -/
def digitAt (hex : List Char) (i : ℤ) : Option UInt8 :=
  if 0 ≤ i then hex[i.toNat]?.map hexToInt else none

/-- `buffer[pos] = byte` -/
def writeByte (buffer : List UInt8) (pos : ℤ) (byte : UInt8) : Option (List UInt8) :=
  if 0 ≤ pos ∧ pos < buffer.length then some (buffer.set pos.toNat byte) else none

structure Cursor where
  i : ℤ
  bufferPos : ℤ
  buffer : List UInt8

/-- The loop over the pairs of digits. -/
def pairs (hex : List Char) (s : Cursor) : Option Cursor :=
  if s.i < hex.length - 1 then do
    let high ← digitAt hex s.i
    let low ← digitAt hex (s.i + 1)
    let buffer ← writeByte s.buffer s.bufferPos (high <<< 4 ||| low)
    pairs hex { i := s.i + 2, bufferPos := s.bufferPos + 1, buffer }
  else some s
termination_by (hex.length - s.i).toNat

/-- The digit that is left over after the loop, if any. -/
def finish (hex : List Char) (s : Cursor) : Option (Bool × List UInt8) :=
  if s.i = hex.length - 1 then do
    let digit ← digitAt hex s.i
    let buffer ← writeByte s.buffer s.bufferPos digit
    return (true, buffer)
  else return (true, s.buffer)

def hexToBinary (hex : List Char) (buffer : List UInt8) : Option (Bool × List UInt8) :=
  let buffer := List.replicate buffer.length 0
  if hex.length > buffer.length * 2 then some (false, buffer)
  else do
    let bufferPos : ℤ := buffer.length - (hex.length + 1) / 2
    let s ← pairs hex { i := 0, bufferPos, buffer }
    finish hex s

/-! ## What the loop writes -/

theorem digitAt_length (before : List Char) (c : Char) (after : List Char) :
    digitAt (before ++ c :: after) before.length = some (hexToInt c) := by
  unfold digitAt
  simp

theorem writeByte_length (front : List UInt8) (old : UInt8) (back : List UInt8) (byte : UInt8) :
    writeByte (front ++ old :: back) front.length byte = some (front ++ byte :: back) := by
  unfold writeByte
  simp

theorem pairs_of_end {hex : List Char} {s : Cursor} (h : (hex.length : ℤ) - 1 ≤ s.i) :
    pairs hex s = some s := by
  rw [pairs, if_neg (by omega)]

theorem pairs_finish (rest before : List Char) (front back : List UInt8)
    (h : back.length = (rest.length + 1) / 2) :
    (pairs (before ++ rest) ⟨before.length, front.length, front ++ back⟩).bind
      (finish (before ++ rest)) = some (true, front ++ hexPairs rest) := by
  induction rest using hexPairs.induct generalizing before front back with
  | case1 =>
    obtain rfl := List.length_eq_zero_iff.mp h
    rw [pairs_of_end (by simp), Option.bind_some, finish, if_neg (by simp; omega)]
    simp [hexPairs]
  | case2 c =>
    have hone : back.length = 1 := by simpa using h
    obtain ⟨old, rfl⟩ := List.length_eq_one_iff.mp hone
    rw [pairs_of_end (by simp), Option.bind_some, finish, if_pos (by simp), digitAt_length]
    simp [hexPairs, writeByte_length]
  | case3 c d cs ih =>
    simp only [List.length_cons] at h
    obtain ⟨old, back, rfl⟩ := List.exists_cons_of_length_pos (l := back) (by omega)
    have hlow : digitAt (before ++ c :: d :: cs) (before.length + 1) = some (hexToInt d) := by
      have hd := digitAt_length (before ++ [c]) d cs
      simpa using hd
    have hrest := ih (before ++ [c, d]) (front ++ [hexToInt c <<< 4 ||| hexToInt d]) back
      (by simp only [List.length_cons] at h; omega)
    unfold pairs
    simp only [List.length_append, List.length_cons]
    rw [if_pos (by push_cast; omega), digitAt_length, hlow]
    simp only [Option.bind_eq_bind, Option.bind_some, writeByte_length]
    simpa [hexPairs, add_assoc] using hrest

theorem hexToBinary_eq (hex : List Char) (buffer : List UInt8) :
    hexToBinary hex buffer =
      some (decide (hex.length ≤ buffer.length * 2),
        Native.hexToBinary (String.ofList hex) buffer.length) := by
  unfold hexToBinary Native.hexToBinary
  simp only [List.length_replicate, String.length_ofList, String.toList_ofList]
  split
  · rename_i hlong
    rw [decide_eq_false (by omega)]
  · rename_i hfits
    have hfront : (List.replicate (buffer.length - (hex.length + 1) / 2) (0 : UInt8)).length =
        (buffer.length : ℤ) - (hex.length + 1) / 2 := by
      rw [List.length_replicate]
      omega
    have hsplit : List.replicate buffer.length (0 : UInt8) =
        List.replicate (buffer.length - (hex.length + 1) / 2) 0 ++
          List.replicate ((hex.length + 1) / 2) 0 := by
      rw [List.replicate_append_replicate]
      congr 1
      omega
    have hloop := pairs_finish hex [] (List.replicate (buffer.length - (hex.length + 1) / 2) 0)
      (List.replicate ((hex.length + 1) / 2) 0) List.length_replicate
    rw [decide_eq_true (by omega), hsplit, ← hfront]
    exact hloop

/-! ## What the bytes denote -/

/-- The number that the text denotes. -/
def number (hex : List Char) : ℕ :=
  BigEndian.value 16 (hex.map fun c => (Js.digitValue c).getD 0)

def byteValue (bytes : List UInt8) : ℕ := BigEndian.value 256 (bytes.map UInt8.toNat)

theorem toNat_hexToInt {c : Char} (h : Js.hexDigit c = true) :
    (hexToInt c).toNat = (Js.digitValue c).getD 0 ∧ (hexToInt c).toNat < 16 := by
  have hle (a b : Char) : a ≤ b ↔ a.toNat ≤ b.toNat := UInt32.le_iff_toNat_le
  have hnat (n : ℕ) : n.toUInt8.toNat = n % 256 := UInt8.toNat_ofNat'
  have hchars : '0'.toNat = 48 ∧ '9'.toNat = 57 ∧ 'A'.toNat = 65 ∧ 'F'.toNat = 70 ∧
      'Z'.toNat = 90 ∧ 'a'.toNat = 97 ∧ 'f'.toNat = 102 ∧ 'z'.toNat = 122 := by decide
  obtain ⟨h0, h9, hA, hF, hZ, ha, hf, hz⟩ := hchars
  unfold Js.hexDigit Js.digitValue at h
  unfold hexToInt Js.digitValue
  simp only [hle, h0, h9, hA, hF, hZ, ha, hf, hz] at h ⊢
  split at h
  · rename_i hdigit
    rw [if_pos hdigit, if_pos hdigit, hnat, Option.getD_some]
    omega
  · rename_i hdigit
    rw [if_neg hdigit, if_neg hdigit]
    split at h
    · rename_i hlower
      have hlt : c.toNat - 97 + 10 < 16 := by simpa using h
      rw [if_pos hlower, if_neg (by omega), if_pos (by omega), hnat, Option.getD_some]
      omega
    · rename_i hlower
      rw [if_neg hlower]
      split at h
      · rename_i hupper
        have hlt : c.toNat - 65 + 10 < 16 := by simpa using h
        rw [if_pos hupper, if_pos (by omega), hnat, Option.getD_some]
        omega
      · exact absurd h (by simp)

theorem toNat_pair {a b : UInt8} (ha : a.toNat < 16) (hb : b.toNat < 16) :
    (a <<< 4 ||| b).toNat = a.toNat * 16 + b.toNat := by
  have hshift : (a <<< 4).toNat = 2 ^ 4 * a.toNat := by
    rw [UInt8.toNat_shiftLeft, Nat.shiftLeft_eq, show UInt8.toNat 4 % 8 = 4 from rfl]
    omega
  rw [UInt8.toNat_or, hshift, ← Nat.two_pow_add_eq_or_of_lt (by omega)]
  omega

theorem length_hexPairs (hex : List Char) : (hexPairs hex).length = (hex.length + 1) / 2 := by
  induction hex using hexPairs.induct with
  | case1 => rfl
  | case2 c => simp [hexPairs]
  | case3 c d cs ih =>
    simp only [hexPairs, List.length_cons, ih]
    omega

theorem hexPairs_append {front : List Char} (h : Even front.length) (back : List Char) :
    hexPairs (front ++ back) = hexPairs front ++ hexPairs back := by
  induction front using hexPairs.induct with
  | case1 => rfl
  | case2 c => exact absurd h (by simp)
  | case3 c d cs ih =>
    have hcs : Even cs.length := by simpa [Nat.even_add_one] using h
    simp [hexPairs, ih hcs]

theorem byteValue_hexPairs {hex : List Char} (hdigits : ∀ c ∈ hex, Js.hexDigit c = true)
    (heven : Even hex.length) : byteValue (hexPairs hex) = number hex := by
  induction hex using hexPairs.induct with
  | case1 => rfl
  | case2 c => exact absurd heven (by simp)
  | case3 c d cs ih =>
    have hcs : Even cs.length := by simpa [Nat.even_add_one] using heven
    obtain ⟨hc, hd, hrest⟩ : Js.hexDigit c = true ∧ Js.hexDigit d = true ∧
        ∀ c ∈ cs, Js.hexDigit c = true := by simpa using hdigits
    have hpow : 256 ^ (hexPairs cs).length = 16 ^ cs.length := by
      obtain ⟨n, hn⟩ := hcs
      rw [length_hexPairs, hn, show (n + n + 1) / 2 = n by omega, pow_add, ← mul_pow]
      norm_num
    have ih := ih hrest hcs
    unfold byteValue number at ih ⊢
    simp only [hexPairs, List.map_cons, BigEndian.value_cons, List.length_map, List.length_cons,
      hpow, ih, toNat_pair (toNat_hexToInt hc).2 (toNat_hexToInt hd).2, (toNat_hexToInt hc).1,
      (toNat_hexToInt hd).1]
    ring

theorem hexToBinary_fits {hex : List Char} {buffer : List UInt8}
    (h : hex.length ≤ buffer.length * 2) :
    hexToBinary hex buffer = some (true,
      List.replicate (buffer.length - (hex.length + 1) / 2) 0 ++ hexPairs hex) := by
  rw [hexToBinary_eq, decide_eq_true h, Native.hexToBinary, String.length_ofList,
    if_neg (by omega), String.toList_ofList]

theorem byteValue_zeros_append (n : ℕ) (bytes : List UInt8) :
    byteValue (List.replicate n 0 ++ bytes) = byteValue bytes := by
  unfold byteValue
  rw [List.map_append, List.map_replicate]
  exact BigEndian.value_zeros_append n

theorem byteValue_odd {front : List Char} {c : Char}
    (hdigits : ∀ d ∈ front ++ [c], Js.hexDigit d = true) (heven : Even front.length) :
    byteValue (hexPairs (front ++ [c])) = number front * 256 + (Js.digitValue c).getD 0 ∧
      number (front ++ [c]) = number front * 16 + (Js.digitValue c).getD 0 := by
  obtain ⟨hfront, hc⟩ : (∀ d ∈ front, Js.hexDigit d = true) ∧ Js.hexDigit c = true := by
    simpa [or_imp, forall_and] using hdigits
  have hvalue := byteValue_hexPairs hfront heven
  rw [hexPairs_append heven]
  unfold byteValue number at hvalue ⊢
  simp [hexPairs, BigEndian.value_append, hvalue, (toNat_hexToInt hc).1]

theorem digitValue_eq_zero_iff {c : Char} (h : Js.hexDigit c = true) :
    (Js.digitValue c).getD 0 = 0 ↔ c = '0' := by
  constructor
  · intro hzero
    unfold Js.hexDigit Js.digitValue at h
    unfold Js.digitValue at hzero
    split at hzero
    · rename_i hdigit
      have hle : '0'.toNat ≤ c.toNat := UInt32.le_iff_toNat_le.mp hdigit.1
      rw [Option.getD_some] at hzero
      exact Char.toNat_inj.mp (by omega)
    · rename_i hdigit
      rw [if_neg hdigit] at h
      split at hzero
      · exact absurd hzero (by simp)
      · rename_i hlower
        rw [if_neg hlower] at h
        split at hzero
        · exact absurd hzero (by simp)
        · rename_i hupper
          rw [if_neg hupper] at h
          exact absurd h (by simp)
  · rintro rfl
    rfl

theorem number_eq_zero_iff {hex : List Char} (h : ∀ c ∈ hex, Js.hexDigit c = true) :
    number hex = 0 ↔ ∀ c ∈ hex, c = '0' := by
  unfold number
  rw [BigEndian.value_eq_zero_iff (by decide), List.forall_mem_map]
  exact forall₂_congr fun c hc => digitValue_eq_zero_iff (h c hc)

/-! ## Decoding -/

/-- The bytes denote the number that the text denotes, and fill the buffer. -/
def Decodes (hex : List Char) (buffer : List UInt8) : Prop :=
  ∃ bytes, hexToBinary hex buffer = some (true, bytes) ∧ bytes.length = buffer.length ∧
    byteValue bytes = number hex

/-- **Hexadecimal text.** A text that fits is decoded exactly when it has an even number of digits,
or no digit but zeros before the last one. -/
theorem hex_decoded_iff (hex : List Char) (buffer : List UInt8)
    (hdigits : ∀ c ∈ hex, Js.hexDigit c = true) (hfits : hex.length ≤ buffer.length * 2) :
    Decodes hex buffer ↔ Even hex.length ∨ ∀ c ∈ hex.dropLast, c = '0' := by
  have hlength : (List.replicate (buffer.length - (hex.length + 1) / 2) 0 ++
      hexPairs hex).length = buffer.length := by
    rw [List.length_append, List.length_replicate, length_hexPairs]
    omega
  have hdecodes : Decodes hex buffer ↔ byteValue (hexPairs hex) = number hex := by
    unfold Decodes
    rw [hexToBinary_fits hfits]
    constructor
    · rintro ⟨bytes, hbytes, _, hvalue⟩
      obtain rfl : _ = bytes := congrArg Prod.snd (Option.some.inj hbytes)
      rwa [byteValue_zeros_append] at hvalue
    · intro hvalue
      exact ⟨_, rfl, hlength, by rw [byteValue_zeros_append, hvalue]⟩
  rw [hdecodes]
  by_cases heven : Even hex.length
  · exact iff_of_true (byteValue_hexPairs hdigits heven) (Or.inl heven)
  · have hne : hex ≠ [] := by
      rintro rfl
      exact heven Even.zero
    obtain ⟨front, c, rfl⟩ : ∃ front c, hex = front ++ [c] :=
      ⟨hex.dropLast, hex.getLast hne, (List.dropLast_append_getLast hne).symm⟩
    have hfront : Even front.length := by simpa [Nat.even_add_one] using heven
    obtain ⟨hbytes, hnumber⟩ := byteValue_odd hdigits hfront
    rw [hbytes, hnumber, or_iff_right heven, List.dropLast_concat,
      ← number_eq_zero_iff fun d hd => hdigits d (List.mem_append_left _ hd)]
    omega

theorem trace_id_decoded :
    Decodes "10192d1c807161471aD2011522853770".toList (List.replicate 16 0) :=
  (hex_decoded_iff _ _ (List.all_eq_true.mp (by decide)) (by decide)).mpr (Or.inl (by decide))

/-- `abc` in two bytes gives `ab 0c`, which is the number 0xab0c. -/
theorem odd_text_not_decoded : ¬ Decodes "abc".toList [0, 0] := by
  rintro ⟨bytes, hbytes, _, hvalue⟩
  rw [hexToBinary_fits (by decide)] at hbytes
  obtain rfl : _ = bytes := congrArg Prod.snd (Option.some.inj hbytes)
  exact absurd hvalue (by decide)

end SplunkOtel.Native.Hex
