import SplunkOtel.Js.Integer
import SplunkOtel.Lib.BigEndian

/-!
# Ids of version 7 (`src/opamp/uuid.ts`)

The random bytes and the clock are inputs.
-/

open Lib SplunkOtel.Js

namespace SplunkOtel.OpAMP

/-- `ms` is `Date.now()`. -/
def uuid7 (randomBytes : Vector UInt8 16) (ms : ℕ) : Vector UInt8 16 :=
  let bytes := randomBytes
  -- Bytes 0-5: Unix timestamp in milliseconds, big-endian
  let bytes := bytes.set 0 (toUint8 (bitAnd (Number.floor (.finite (ms / 0x10000000000))) 0xff))
  let bytes := bytes.set 1 (toUint8 (bitAnd (Number.floor (.finite (ms / 0x100000000))) 0xff))
  let bytes := bytes.set 2 (toUint8 (bitAnd (Number.floor (.finite (ms / 0x1000000))) 0xff))
  let bytes := bytes.set 3 (toUint8 (bitAnd (Number.floor (.finite (ms / 0x10000))) 0xff))
  let bytes := bytes.set 4 (toUint8 (bitAnd (Number.floor (.finite (ms / 0x100))) 0xff))
  let bytes := bytes.set 5 (toUint8 (bitAnd (.finite ms) 0xff))
  -- Version 7 in the high nibble of byte 6
  let bytes := bytes.set 6 (bytes[6] &&& 0x0f ||| 0x70)
  -- Variant 10xx in the high 2 bits of byte 8
  bytes.set 8 (bytes[8] &&& 0x3f ||| 0x80)

/-- The layout of version 7. -/
structure Layout (ms : ℕ) (randomBytes bytes : Vector UInt8 16) : Prop where
  timestamp : BigEndian.value 256 ((bytes.toList.take 6).map UInt8.toNat) = ms
  version : bytes[6] >>> 4 = 7
  variant : bytes[8] >>> 6 = 2
  besideVersion : bytes[6] &&& (0x0f : UInt8) = randomBytes[6] &&& 0x0f
  besideVariant : bytes[8] &&& (0x3f : UInt8) = randomBytes[8] &&& 0x3f
  rest : ∀ i (h : i < 16), 6 < i → i ≠ 8 → bytes[i] = randomBytes[i]

/-! ## The bytes -/

theorem take_toList (bytes : Vector UInt8 16) :
    bytes.toList.take 6 = [bytes[0], bytes[1], bytes[2], bytes[3], bytes[4], bytes[5]] := by
  apply List.ext_getElem (by simp)
  intro i hi _
  have hlt : i < 6 := by simpa using hi
  interval_cases i <;> simp

section

variable (randomBytes : Vector UInt8 16) (ms : ℕ)

theorem take_uuid7 :
    (uuid7 randomBytes ms).toList.take 6 =
      [UInt8.ofNat (ms / 0x10000000000), UInt8.ofNat (ms / 0x100000000),
        UInt8.ofNat (ms / 0x1000000), UInt8.ofNat (ms / 0x10000), UInt8.ofNat (ms / 0x100),
        UInt8.ofNat ms] := by
  have h5 := toUint8_bitAnd_floor ms 0x10000000000
  have h4 := toUint8_bitAnd_floor ms 0x100000000
  have h3 := toUint8_bitAnd_floor ms 0x1000000
  have h2 := toUint8_bitAnd_floor ms 0x10000
  have h1 := toUint8_bitAnd_floor ms 0x100
  have h0 := toUint8_bitAnd ms
  rw [take_toList]
  unfold uuid7
  simp only [Nat.cast_ofNat] at h1 h2 h3 h4 h5
  simp [h0, h1, h2, h3, h4, h5]

theorem uuid7_six : (uuid7 randomBytes ms)[6] = randomBytes[6] &&& 0x0f ||| 0x70 := by
  unfold uuid7
  simp

theorem uuid7_eight : (uuid7 randomBytes ms)[8] = randomBytes[8] &&& 0x3f ||| 0x80 := by
  unfold uuid7
  simp

theorem uuid7_rest {i : ℕ} (h : i < 16) (hsix : 6 < i) (height : i ≠ 8) :
    (uuid7 randomBytes ms)[i] = randomBytes[i] := by
  unfold uuid7
  rw [Vector.getElem_set_ne _ _ height.symm]
  repeat rw [Vector.getElem_set_ne _ _ (by omega)]

end

/-! ## Layout and order -/

theorem byte_ext {a b : UInt8} (h : ∀ i < 8, a.toBitVec.getLsbD i = b.toBitVec.getLsbD i) :
    a = b :=
  UInt8.toBitVec_inj.mp (BitVec.eq_of_getLsbD_eq h)

theorem version_bits (b : UInt8) :
    (b &&& 0x0f ||| 0x70) >>> 4 = 7 ∧ (b &&& 0x0f ||| 0x70) &&& 0x0f = b &&& 0x0f := by
  constructor
  · apply byte_ext
    intro i hi
    interval_cases i <;> simp
  · apply byte_ext
    intro i hi
    interval_cases i <;> simp

theorem variant_bits (b : UInt8) :
    (b &&& 0x3f ||| 0x80) >>> 6 = 2 ∧ (b &&& 0x3f ||| 0x80) &&& 0x3f = b &&& 0x3f := by
  constructor
  · apply byte_ext
    intro i hi
    interval_cases i <;> simp
  · apply byte_ext
    intro i hi
    interval_cases i <;> simp

theorem layout_uuid7 (randomBytes : Vector UInt8 16) {ms : ℕ} (h : ms < 0x1000000000000) :
    Layout ms randomBytes (uuid7 randomBytes ms) where
  timestamp := by
    rw [take_uuid7]
    simp [BigEndian.value, Nat.ofDigits]
    omega
  version := by rw [uuid7_six, (version_bits _).1]
  variant := by rw [uuid7_eight, (variant_bits _).1]
  besideVersion := by rw [uuid7_six, (version_bits _).2]
  besideVariant := by rw [uuid7_eight, (variant_bits _).2]
  rest _ hi hsix height := uuid7_rest randomBytes ms hi hsix height

theorem Layout.lt {ms ms' : ℕ} {randomBytes randomBytes' bytes bytes' : Vector UInt8 16}
    (h : Layout ms randomBytes bytes) (h' : Layout ms' randomBytes' bytes') (hlt : ms < ms') :
    bytes.toList < bytes'.toList := by
  have hlength : (bytes.toList.take 6).length = (bytes'.toList.take 6).length := by simp
  have hfirst : bytes.toList.take 6 < bytes'.toList.take 6 := by
    apply BigEndian.bytes_lt hlength
    rwa [h.timestamp, h'.timestamp]
  rw [← List.take_append_drop 6 bytes.toList, ← List.take_append_drop 6 bytes'.toList]
  exact BigEndian.append_lt_append hlength hfirst

/-- **Time-ordered ids.** An id has the layout of version 7, and precedes every id of a later
millisecond. -/
theorem uuid7_time_ordered (randomBytes : Vector UInt8 16) (ms : ℕ) (h : ms < 0x1000000000000) :
    Layout ms randomBytes (uuid7 randomBytes ms) ∧
      ∀ (randomBytes' : Vector UInt8 16) (ms' : ℕ), ms < ms' → ms' < 0x1000000000000 →
        (uuid7 randomBytes ms).toList < (uuid7 randomBytes' ms').toList :=
  ⟨layout_uuid7 randomBytes h, fun randomBytes' _ hlt h' =>
    (layout_uuid7 randomBytes h).lt (layout_uuid7 randomBytes' h') hlt⟩

theorem uuid7_wrap_ordered :
    (uuid7 (Vector.replicate 16 0xff) 0x18fffffffff).toList <
      (uuid7 (Vector.replicate 16 0) 0x19000000000).toList :=
  (uuid7_time_ordered (Vector.replicate 16 0xff) 0x18fffffffff (by decide)).2
    (Vector.replicate 16 0) 0x19000000000 (by decide) (by decide)

end SplunkOtel.OpAMP
