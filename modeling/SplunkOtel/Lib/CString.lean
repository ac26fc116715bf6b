import Mathlib.Data.List.TakeWhile
import Mathlib.Tactic.Common

/-!
# C strings

Bytes that are copied into a buffer of a fixed size, and the text that ends at the first zero byte.
-/

namespace Lib.CString

/-- `memcpy`, `none` when it writes outside of the buffer. -/
def memcpy (buffer bytes : List UInt8) : Option (List UInt8) :=
  if bytes.length ≤ buffer.length then some (bytes ++ buffer.drop bytes.length) else none

/-- The text before the terminator. -/
def text (buffer : List UInt8) : List UInt8 := buffer.takeWhile (· ≠ 0)

/-- The argument of `%.*s`: it ends after `precision` bytes, or at a terminator. -/
def upTo (precision : ℕ) (s : List UInt8) : List UInt8 := text (s.take precision)

/-- `snprintf(buffer, size, "%s", s)`, which makes room for the terminator. -/
def snprintf (buffer : List UInt8) (size : ℕ) (s : List UInt8) : Option (List UInt8) :=
  if size = 0 then some buffer else memcpy buffer (s.take (size - 1) ++ [0])

theorem memcpy_eq {buffer bytes : List UInt8} (h : bytes.length ≤ buffer.length) :
    memcpy buffer bytes = some (bytes ++ buffer.drop bytes.length) := if_pos h

theorem length_memcpy {buffer bytes copied : List UInt8} (h : memcpy buffer bytes = some copied) :
    copied.length = buffer.length := by
  unfold memcpy at h
  split at h
  · cases h
    rw [List.length_append, List.length_drop]
    omega
  · cases h

theorem text_of_not_mem {s : List UInt8} (h : 0 ∉ s) (rest : List UInt8) :
    text (s ++ 0 :: rest) = s := by
  unfold text
  rw [List.takeWhile_append_of_pos]
  · simp
  · intro b hb
    simpa using ne_of_mem_of_not_mem hb h

theorem not_mem_text (s : List UInt8) : 0 ∉ text s := by
  intro h
  simpa using List.mem_takeWhile_imp h

theorem exists_snprintf {buffer s : List UInt8} {size : ℕ} (hsize : 0 < size)
    (hbuffer : size ≤ buffer.length) (h : 0 ∉ s) :
    ∃ written, snprintf buffer size s = some written ∧ written.length = buffer.length ∧
      text written = s.take (size - 1) := by
  have hfits : (s.take (size - 1) ++ [0]).length ≤ buffer.length := by
    rw [List.length_append, List.length_take, List.length_singleton]
    omega
  have hcopy := memcpy_eq hfits
  have hcut : 0 ∉ s.take (size - 1) := fun hmem => h (List.mem_of_mem_take hmem)
  refine ⟨_, ?_, length_memcpy hcopy, ?_⟩
  · rw [snprintf, if_neg (Nat.pos_iff_ne_zero.mp hsize), hcopy]
  · rw [List.append_assoc, List.singleton_append, text_of_not_mem hcut]

end Lib.CString
