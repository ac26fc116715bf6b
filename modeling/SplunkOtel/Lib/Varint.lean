import SplunkOtel.Lib.Wire

/-!
# Numbers in base 128

The digits of a number come with the low ones first, seven bits in a byte, and every byte but the
last is marked. With them, all values of the wire format have their coding.
-/

namespace Lib.Wire

/-- A number of at most `k + 1` digits. -/
def writeVarint : ℕ → ℕ → Bytes
  | 0, n => [UInt8.ofNat n]
  | k + 1, n =>
    if n < 128 then [UInt8.ofNat n] else UInt8.ofNat (n % 128 + 128) :: writeVarint k (n / 128)

def readVarint : ℕ → Bytes → Option (ℕ × Bytes)
  | _, [] => none
  | 0, b :: rest => some (b.toNat, rest)
  | k + 1, b :: rest =>
    if b.toNat < 128 then some (b.toNat, rest)
    else (readVarint k rest).map fun r => (b.toNat - 128 + 128 * r.1, r.2)

theorem writeVarint_ne_nil (k n : ℕ) : writeVarint k n ≠ [] := by
  cases k with
  | zero => exact List.cons_ne_nil _ _
  | succ k =>
    rw [writeVarint]
    split
    · exact List.cons_ne_nil _ _
    · exact List.cons_ne_nil _ _

theorem length_writeVarint_le (k n : ℕ) : (writeVarint k n).length ≤ k + 1 := by
  induction k generalizing n with
  | zero => exact le_refl _
  | succ k ih =>
    rw [writeVarint]
    split
    · exact Nat.succ_le_succ (Nat.zero_le _)
    · exact Nat.succ_le_succ (ih _)

theorem toNat_byte {n : ℕ} (h : n < 256) : (UInt8.ofNat n).toNat = n := by
  rw [UInt8.toNat_ofNat']
  omega

theorem readVarint_writeVarint (k n : ℕ) (h : n < 128 ^ (k + 1)) (rest : Bytes) :
    readVarint k (writeVarint k n ++ rest) = some (n, rest) := by
  induction k generalizing n with
  | zero =>
    rw [writeVarint, List.singleton_append, readVarint, toNat_byte (by omega)]
  | succ k ih =>
    rw [writeVarint]
    split
    · rename_i hsmall
      rw [List.singleton_append, readVarint, toNat_byte (by omega), if_pos hsmall]
    · have hdigits : n / 128 < 128 ^ (k + 1) := by
        rw [Nat.div_lt_iff_lt_mul (by decide), ← Nat.pow_succ]
        exact h
      rw [List.cons_append, readVarint, toNat_byte (by omega), if_neg (by omega), ih _ hdigits, Option.map_some]
      simp only [Option.some_inj, Prod.mk.injEq, and_true]
      omega

/-- The coding of a type whose values have a number of at most `k + 1` digits. -/
def varint {α : Type} (k : ℕ) (toNat : α → ℕ) (ofNat : ℕ → α) (hlt : ∀ a, toNat a < 128 ^ (k + 1))
    (h : ∀ a, ofNat (toNat a) = a) : Coding α where
  write a := writeVarint k (toNat a)
  read input := (readVarint k input).map fun r => (ofNat r.1, r.2)
  read_write a rest _ := by
    rw [readVarint_writeVarint k _ (hlt a), Option.map_some, h]
  write_ne_nil a := writeVarint_ne_nil k _

def varintUInt32 : Coding UInt32 :=
  varint 4 UInt32.toNat UInt32.ofNat (fun v => lt_trans v.toNat_lt (by decide))
    fun v => UInt32.ofNat_toNat

def varintUInt64 : Coding UInt64 :=
  varint 9 UInt64.toNat UInt64.ofNat (fun v => lt_trans v.toNat_lt (by decide))
    fun v => UInt64.ofNat_toNat

/-- In two's complement, so that a negative number has all ten digits. -/
def varintInt64 : Coding Int64 :=
  varint 9 (fun v => v.toUInt64.toNat) (fun n => (UInt64.ofNat n).toInt64)
    (fun v => lt_trans v.toUInt64.toNat_lt (by decide)) fun v => by
    rw [UInt64.ofNat_toNat, Int64.toInt64_toUInt64]

def varintBool : Coding Bool :=
  varint 0 Bool.toNat (· ≠ 0) (fun b => by cases b <;> decide) fun b => by cases b <;> rfl

/-- The UTF-8 bytes of a text, with their number before them. -/
def utf8String : Coding String where
  write s := varintUInt32.write s.toUTF8.data.toList.length.toUInt32 ++ s.toUTF8.data.toList
  read input :=
    (varintUInt32.read input).bind fun r =>
      (String.fromUTF8? ⟨(r.2.take r.1.toNat).toArray⟩).map (·, r.2.drop r.1.toNat)
  read_write s rest hlength := by
    rw [List.length_append] at hlength
    have htext : s.toUTF8.data.toList.length < 2 ^ 32 := by omega
    rw [List.append_assoc, varintUInt32.read_write _ _ (by omega), Option.bind_some,
      toNat_length htext, List.take_left, List.drop_left]
    have hbytes : (⟨s.toUTF8.data.toList.toArray⟩ : ByteArray) = s.toUTF8 := rfl
    have hvalid : s.toUTF8.IsValidUTF8 := s.isValidUTF8
    rw [hbytes, String.fromUTF8?, dif_pos hvalid]
    rfl
  write_ne_nil s := List.append_ne_nil_of_left_ne_nil (varintUInt32.write_ne_nil _) _

/-! ## Skipping -/

def dropBytes (n : ℕ) (input : Bytes) : Option Bytes :=
  if n ≤ input.length then some (input.drop n) else none

/-- What comes after a value. The fuel is for the fields of a group, which may be groups again. -/
def skipValue : ℕ → UInt32 → Bytes → Option Bytes
  | 0, _, _ => none
  | fuel + 1, wireType, input =>
    if wireType = 0 then (readVarint 9 input).map Prod.snd
    else if wireType = 1 then dropBytes 8 input
    else if wireType = 2 then (varintUInt32.read input).bind fun r => dropBytes r.1.toNat r.2
    else if wireType = 3 then
      (varintUInt32.read input).bind fun r =>
        if r.1 &&& 7 = 4 then some r.2
        else (skipValue fuel (r.1 &&& 7) r.2).bind (skipValue fuel 3)
    else if wireType = 5 then dropBytes 4 input
    else none

theorem dropBytes_append (content rest : Bytes) :
    dropBytes content.length (content ++ rest) = some rest := by
  rw [dropBytes, if_pos (by rw [List.length_append]; omega), List.drop_left]

theorem length_of_dropBytes {n : ℕ} {input rest : Bytes} (h : dropBytes n input = some rest) :
    rest.length ≤ input.length := by
  unfold dropBytes at h
  split at h
  · cases h
    rw [List.length_drop]
    omega
  · cases h

theorem length_of_readVarint {k n : ℕ} {input rest : Bytes}
    (h : readVarint k input = some (n, rest)) : rest.length < input.length := by
  induction k generalizing n input with
  | zero =>
    cases input with
    | nil => cases h
    | cons b input =>
      cases h
      exact Nat.lt_succ_self _
  | succ k ih =>
    cases input with
    | nil => cases h
    | cons b input =>
      rw [readVarint] at h
      split at h
      · cases h
        exact Nat.lt_succ_self _
      · obtain ⟨r, hr, heq⟩ := Option.map_eq_some_iff.mp h
        cases heq
        exact (ih hr).trans (Nat.lt_succ_self _)

theorem length_of_readUInt32 {v : UInt32} {input rest : Bytes}
    (h : varintUInt32.read input = some (v, rest)) : rest.length < input.length := by
  obtain ⟨r, hr, heq⟩ := Option.map_eq_some_iff.mp h
  cases heq
  exact length_of_readVarint hr

theorem length_of_skipValue {fuel : ℕ} {wireType : UInt32} {input rest : Bytes}
    (h : skipValue fuel wireType input = some rest) : rest.length ≤ input.length := by
  induction fuel generalizing wireType input rest with
  | zero => cases h
  | succ fuel ih =>
    rw [skipValue] at h
    split at h
    · obtain ⟨r, hr, rfl⟩ := Option.map_eq_some_iff.mp h
      exact (length_of_readVarint hr).le
    split at h
    · exact length_of_dropBytes h
    split at h
    · obtain ⟨r, hr, hdrop⟩ := Option.bind_eq_some_iff.mp h
      exact (length_of_dropBytes hdrop).trans (length_of_readUInt32 hr).le
    split at h
    · obtain ⟨r, hr, h⟩ := Option.bind_eq_some_iff.mp h
      have hread := length_of_readUInt32 hr
      split at h
      · cases h
        exact hread.le
      · obtain ⟨more, hmore, hrest⟩ := Option.bind_eq_some_iff.mp h
        exact ((ih hrest).trans (ih hmore)).trans hread.le
    split at h
    · exact length_of_dropBytes h
    · cases h

theorem skipValue_group (fuel : ℕ) (input : Bytes) :
    skipValue (fuel + 1) 3 input =
      (varintUInt32.read input).bind fun r =>
        if r.1 &&& 7 = 4 then some r.2
        else (skipValue fuel (r.1 &&& 7) r.2).bind (skipValue fuel 3) := rfl

theorem skipValue_mono {fuel fuel' : ℕ} (hle : fuel ≤ fuel') {wireType : UInt32}
    {input rest : Bytes} (h : skipValue fuel wireType input = some rest) :
    skipValue fuel' wireType input = some rest := by
  induction fuel generalizing fuel' wireType input rest with
  | zero => cases h
  | succ fuel ih =>
    obtain ⟨fuel', rfl⟩ := Nat.exists_eq_succ_of_ne_zero (Nat.ne_zero_of_lt hle)
    have hle' : fuel ≤ fuel' := Nat.le_of_succ_le_succ hle
    by_cases hgroup : wireType = 3
    · subst hgroup
      rw [skipValue_group] at h ⊢
      obtain ⟨r, hr, h⟩ := Option.bind_eq_some_iff.mp h
      rw [hr, Option.bind_some]
      split at h
      · rename_i hend
        rw [if_pos hend]
        exact h
      · rename_i hfield
        obtain ⟨more, hmore, hrest⟩ := Option.bind_eq_some_iff.mp h
        rw [if_neg hfield, ih hle' hmore, Option.bind_some]
        exact ih hle' hrest
    · rw [skipValue, if_neg hgroup] at h ⊢
      exact h

theorem length_writeUInt32 (v : UInt32) : (varintUInt32.write v).length < 2 ^ 32 :=
  lt_of_le_of_lt (length_writeVarint_le 4 _) (by decide)

/-- The format of protocol buffers. -/
def protobuf : Format where
  uint32 := varintUInt32
  uint64 := varintUInt64
  int64 := varintInt64
  bool := varintBool
  string := utf8String
  skipType wireType input := skipValue (input.length + 1) wireType input
  skip_uint64 v rest := by
    have hread := readVarint_writeVarint 9 v.toNat (lt_trans v.toNat_lt (by decide)) rest
    change (readVarint 9 (writeVarint 9 v.toNat ++ rest)).map Prod.snd = some rest
    rw [hread]
    rfl
  skip_fixed64 content rest h := by
    change dropBytes 8 (content ++ rest) = some rest
    rw [← h]
    exact dropBytes_append content rest
  skip_delimited content rest h := by
    change ((varintUInt32.read (varintUInt32.write content.length.toUInt32 ++ content ++ rest)).bind
      fun r => dropBytes r.1.toNat r.2) = some rest
    rw [List.append_assoc, varintUInt32.read_write _ _ (length_writeUInt32 _), Option.bind_some,
      toNat_length h]
    exact dropBytes_append content rest
  skip_endGroup tag rest h := by
    rw [skipValue_group, varintUInt32.read_write _ _ (length_writeUInt32 tag), Option.bind_some,
      if_pos h]
  skip_group tag input more rest h hmore hrest := by
    have htag := List.length_pos_iff.mpr (varintUInt32.write_ne_nil tag)
    have hshorter := length_of_skipValue hmore
    rw [skipValue_group, varintUInt32.read_write _ _ (length_writeUInt32 tag), Option.bind_some,
      if_neg h, List.length_append, skipValue_mono (by omega) hmore, Option.bind_some]
    exact skipValue_mono (by omega) hrest
  skip_fixed32 content rest h := by
    change dropBytes 4 (content ++ rest) = some rest
    rw [← h]
    exact dropBytes_append content rest

end Lib.Wire
