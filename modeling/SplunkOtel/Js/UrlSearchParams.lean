import SplunkOtel.Js.Encoding
import SplunkOtel.Js.Text
import SplunkOtel.Lib.MultiMap
import SplunkOtel.Lib.Text

/-!
# `URLSearchParams`

The parser and the serializer of `application/x-www-form-urlencoded`. Two lists of parameters are
written in the same way only when they are the same.
-/

open Lib

namespace SplunkOtel.Js

abbrev URLSearchParams := MultiMap String String

/-! ## Parsing -/

def hexValue (byte : UInt8) : Option ℕ :=
  if 0x30 ≤ byte ∧ byte ≤ 0x39 then some (byte.toNat - 0x30)
  else if 0x41 ≤ byte ∧ byte ≤ 0x46 then some (byte.toNat - 0x41 + 10)
  else if 0x61 ≤ byte ∧ byte ≤ 0x66 then some (byte.toNat - 0x61 + 10)
  else none

/-- A `%` that two hexadecimal digits do not follow stays. -/
def percentDecode : List UInt8 → List UInt8
  | [] => []
  | 0x25 :: high :: low :: bytes =>
    match hexValue high, hexValue low with
    | some h, some l => UInt8.ofNat (16 * h + l) :: percentDecode bytes
    | _, _ => 0x25 :: percentDecode (high :: low :: bytes)
  | byte :: bytes => byte :: percentDecode bytes

def plusToSpace (byte : UInt8) : UInt8 := if byte = 0x2B then 0x20 else byte

def decodeComponent (component : List Char) : String :=
  let bytes := (encodeText (String.ofList component)).map plusToSpace
  String.ofList (utf8Decode none (percentDecode bytes))

/-- The name before the first `=`, and the value after it. -/
def parseParam (part : List Char) : String × String :=
  (decodeComponent (part.takeWhile (· ≠ '=')), decodeComponent ((part.dropWhile (· ≠ '=')).drop 1))

def parseQuery (query : List Char) : URLSearchParams :=
  ((query.splitOn '&').filter (· ≠ [])).map parseParam

/-- `new URLSearchParams(init)` -/
def URLSearchParams.new (init : String) : URLSearchParams :=
  match init.toList with
  | '?' :: query => parseQuery query
  | query => parseQuery query

/-! ## Serializing -/

/-- The characters that stay as they are. -/
def plainChar (c : Char) : Bool := c.isAlphanum ∨ c ∈ ['*', '-', '.', '_']

def hexDigits : List Char :=
  ['0', '1', '2', '3', '4', '5', '6', '7', '8', '9', 'A', 'B', 'C', 'D', 'E', 'F']

def encodeByte (byte : UInt8) : List Char :=
  let c := Char.ofNat byte.toNat
  if byte = 0x20 then ['+']
  else if plainChar c then [c]
  else ['%', hexDigits.getD (byte.toNat / 16) '0', hexDigits.getD (byte.toNat % 16) '0']

def encodeComponent (component : String) : List Char := (encodeText component).flatMap encodeByte

def serializeParam (param : String × String) : List Char :=
  encodeComponent param.1 ++ '=' :: encodeComponent param.2

/-- `searchParams.toString()` -/
def URLSearchParams.toString (params : URLSearchParams) : String :=
  String.ofList (['&'].intercalate (params.map serializeParam))

/-! ## The serializer is injective -/

theorem hexDigits_injective {i j : ℕ} (hi : i < 16) (hj : j < 16)
    (h : hexDigits.getD i '0' = hexDigits.getD j '0') : i = j := by
  have hall : ∀ i j : Fin 16, hexDigits.getD i '0' = hexDigits.getD j '0' → i = j := by decide
  exact congrArg Fin.val (hall ⟨i, hi⟩ ⟨j, hj⟩ h)

theorem byte_of_digits {a b : UInt8} (hhigh : a.toNat / 16 = b.toNat / 16)
    (hlow : a.toNat % 16 = b.toNat % 16) : a = b := by
  apply UInt8.toNat_inj.mp
  omega

theorem toNat_byteChar (byte : UInt8) : (Char.ofNat byte.toNat).toNat = byte.toNat := by
  have hbyte : byte.toNat < 256 := byte.toNat_lt
  have hvalid : byte.toNat.isValidChar := Or.inl (by omega)
  unfold Char.ofNat
  rw [dif_pos hvalid]
  rfl

theorem byte_of_char {a b : UInt8} (h : Char.ofNat a.toNat = Char.ofNat b.toNat) : a = b := by
  have hchar := congrArg Char.toNat h
  rw [toNat_byteChar, toNat_byteChar] at hchar
  exact UInt8.toNat_inj.mp hchar

theorem encodeByte_cases (byte : UInt8) :
    (byte = 0x20 ∧ encodeByte byte = ['+']) ∨
      (plainChar (Char.ofNat byte.toNat) ∧ encodeByte byte = [Char.ofNat byte.toNat]) ∨
      encodeByte byte =
        ['%', hexDigits.getD (byte.toNat / 16) '0', hexDigits.getD (byte.toNat % 16) '0'] := by
  unfold encodeByte
  by_cases hspace : byte = 0x20
  · exact Or.inl ⟨hspace, if_pos hspace⟩
  · rw [if_neg hspace]
    by_cases hplain : plainChar (Char.ofNat byte.toNat)
    · exact Or.inr (Or.inl ⟨hplain, if_pos hplain⟩)
    · exact Or.inr (Or.inr (if_neg hplain))

theorem encodeByte_ne_nil (byte : UInt8) : encodeByte byte ≠ [] := by
  rcases encodeByte_cases byte with ⟨-, h⟩ | ⟨-, h⟩ | h <;> rw [h] <;> exact List.cons_ne_nil _ _

theorem plainChar_ne {c : Char} (h : plainChar c) :
    c ≠ '+' ∧ c ≠ '%' ∧ c ≠ '&' ∧ c ≠ '=' := by
  refine ⟨?_, ?_, ?_, ?_⟩ <;> rintro rfl <;> exact absurd h (by decide)

theorem encodeByte_append_inj (a b : UInt8) (xs ys : List Char)
    (h : encodeByte a ++ xs = encodeByte b ++ ys) : a = b ∧ xs = ys := by
  rcases encodeByte_cases a with ⟨ha, hea⟩ | ⟨ha, hea⟩ | hea <;>
    rcases encodeByte_cases b with ⟨hb, heb⟩ | ⟨hb, heb⟩ | heb <;>
    rw [hea, heb] at h <;>
    simp only [List.cons_append, List.nil_append, List.cons.injEq] at h
  · exact ⟨ha.trans hb.symm, h.2⟩
  · exact absurd h.1.symm (plainChar_ne hb).1
  · exact absurd h.1 (by decide)
  · exact absurd h.1 (plainChar_ne ha).1
  · exact ⟨byte_of_char h.1, h.2⟩
  · exact absurd h.1 (plainChar_ne ha).2.1
  · exact absurd h.1 (by decide)
  · exact absurd h.1.symm (plainChar_ne hb).2.1
  · obtain ⟨-, hhigh, hlow, hrest⟩ := h
    have ha : a.toNat < 256 := a.toNat_lt
    have hb : b.toNat < 256 := b.toNat_lt
    refine ⟨byte_of_digits ?_ ?_, hrest⟩
    · exact hexDigits_injective (by omega) (by omega) hhigh
    · exact hexDigits_injective (by omega) (by omega) hlow

theorem encodeComponent_injective : Function.Injective encodeComponent := by
  intro s t h
  apply encodeText_injective
  exact Text.flatMap_injective encodeByte_ne_nil encodeByte_append_inj h

theorem mem_encodeByte {byte : UInt8} {c : Char} (h : c ∈ encodeByte byte) : c ≠ '&' ∧ c ≠ '=' := by
  have hdigit (i : ℕ) : hexDigits.getD i '0' ≠ '&' ∧ hexDigits.getD i '0' ≠ '=' := by
    have hmem : hexDigits.getD i '0' ∈ hexDigits := by
      rw [List.getD_eq_getElem?_getD]
      rcases hi : hexDigits[i]? with _ | d
      · exact List.mem_cons_self
      · exact List.mem_of_getElem? hi
    constructor
    · exact fun hd => absurd (hd ▸ hmem) (by decide)
    · exact fun hd => absurd (hd ▸ hmem) (by decide)
  rcases encodeByte_cases byte with ⟨-, he⟩ | ⟨hplain, he⟩ | he <;>
    rw [he] at h <;> simp only [List.mem_cons, List.not_mem_nil, or_false] at h
  · rw [h]
    decide
  · rw [h]
    exact (plainChar_ne hplain).2.2
  · rcases h with rfl | rfl | rfl
    · decide
    · exact hdigit _
    · exact hdigit _

theorem not_mem_encodeComponent (s : String) : '&' ∉ encodeComponent s ∧ '=' ∉ encodeComponent s := by
  unfold encodeComponent
  simp only [List.mem_flatMap, not_exists, not_and]
  constructor
  · intro byte _ hmem
    exact (mem_encodeByte hmem).1 rfl
  · intro byte _ hmem
    exact (mem_encodeByte hmem).2 rfl

theorem serializeParam_injective : Function.Injective serializeParam := by
  rintro ⟨name, value⟩ ⟨name', value'⟩ h
  obtain ⟨hname, hvalue⟩ := Text.append_sep_inj (not_mem_encodeComponent value).2
    (not_mem_encodeComponent value').2 h
  exact Prod.ext (encodeComponent_injective hname) (encodeComponent_injective hvalue)

theorem not_mem_serializeParam (param : String × String) : '&' ∉ serializeParam param := by
  unfold serializeParam
  simp only [List.mem_append, List.mem_cons, not_or]
  exact ⟨(not_mem_encodeComponent _).1, by decide, (not_mem_encodeComponent _).1⟩

theorem serializeParam_ne_nil (param : String × String) : serializeParam param ≠ [] := by
  unfold serializeParam
  simp

theorem URLSearchParams.toString_injective : Function.Injective URLSearchParams.toString := by
  have hsplit (params : URLSearchParams) (hne : params ≠ []) :
      (['&'].intercalate (params.map serializeParam)).splitOn '&' = params.map serializeParam := by
    apply List.splitOn_intercalate
    · intro part hpart
      obtain ⟨param, -, rfl⟩ := List.mem_map.mp hpart
      exact not_mem_serializeParam param
    · simpa using hne
  have hempty (params : URLSearchParams) (hne : params ≠ []) :
      ['&'].intercalate (params.map serializeParam) ≠ [] := by
    intro h
    have hparts := hsplit params hne
    rw [h, List.splitOn_nil] at hparts
    rcases params with _ | ⟨param, params⟩
    · exact hne rfl
    · exact serializeParam_ne_nil param (List.cons.inj hparts).1.symm
  intro p q h
  have hlist := String.ofList_injective h
  by_cases hp : p = []
  · by_contra hq
    rw [hp] at hlist hq
    exact hempty q (Ne.symm hq) hlist.symm
  · by_cases hq : q = []
    · rw [hq] at hlist
      exact absurd hlist (hempty p hp)
    · have hparts := congrArg (List.splitOn '&') hlist
      rw [hsplit p hp, hsplit q hq] at hparts
      exact List.map_injective_iff.mpr serializeParam_injective hparts

end SplunkOtel.Js
