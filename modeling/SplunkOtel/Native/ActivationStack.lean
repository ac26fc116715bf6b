import Mathlib.Data.Int.Notation
import Mathlib.Data.List.Basic
import Mathlib.Order.Lattice.Nat
import Mathlib.Tactic.Common

/-!
# The activation stack (`src/native_ext/profiling.cpp`)

Two inline slots, then an overflow buffer of eight, then buffers half as large again. Arena memory
is zeroed, and the allocations succeed. The stack is the list of the slots below `count`.
-/

namespace SplunkOtel.Native

/-- A trace id and a span id are hexadecimal text of 32 and 16 digits. -/
structure SpanActivation where
  traceId : String
  spanId : String
  startTime : ℤ
  endTime : ℤ
deriving DecidableEq

def SpanActivation.zero : SpanActivation := ⟨"", "", 0, 0⟩

def kMaxActivations : ℕ := 2

/-- `capacity` is the size of the buffer in use: the inline slots or `extra`. -/
structure ActivationStack where
  count : ℕ
  capacity : ℕ
  activations : List SpanActivation
  extra : Option (List SpanActivation)
  count_le : count ≤ capacity
  inline_length : activations.length = kMaxActivations
  buffer_length : (extra.getD activations).length = capacity
  capacity_ge : kMaxActivations ≤ capacity

namespace ActivationStack

def init : ActivationStack where
  count := 0
  capacity := kMaxActivations
  activations := List.replicate kMaxActivations .zero
  extra := none
  count_le := Nat.zero_le _
  inline_length := List.length_replicate
  buffer_length := List.length_replicate
  capacity_ge := le_refl _

def buffer (s : ActivationStack) : List SpanActivation := s.extra.getD s.activations

def toList (s : ActivationStack) : List SpanActivation := s.buffer.take s.count

/-- A new buffer from the arena, with the slots in use copied over. -/
def grow (s : ActivationStack) (newCapacity : ℕ) (h : s.capacity ≤ newCapacity) :
    ActivationStack where
  count := s.count
  capacity := newCapacity
  activations := s.activations
  extra := some (s.toList ++ List.replicate (newCapacity - s.count) .zero)
  count_le := le_trans s.count_le h
  inline_length := s.inline_length
  buffer_length := by
    have hc := s.count_le
    have hb : s.buffer.length = s.capacity := s.buffer_length
    rw [Option.getD_some, List.length_append, List.length_replicate, toList, List.length_take, hb]
    omega
  capacity_ge := le_trans s.capacity_ge h

def put (s : ActivationStack) (h : s.count < s.capacity) (a : SpanActivation) :
    ActivationStack where
  count := s.count + 1
  capacity := s.capacity
  activations := if s.extra = none then s.activations.set s.count a else s.activations
  extra := s.extra.map (·.set s.count a)
  count_le := h
  inline_length := by split <;> simp [s.inline_length]
  buffer_length := by
    have := s.buffer_length
    cases he : s.extra <;> simp_all
  capacity_ge := s.capacity_ge

theorem capacity_inline (s : ActivationStack) (h : s.extra = none) :
    s.capacity = kMaxActivations := by
  rw [← s.buffer_length, h, Option.getD_none, s.inline_length]

/-- The first overflow buffer takes the place of the inline slots once these are full. -/
def spill (s : ActivationStack) : ActivationStack :=
  if h : s.extra = none ∧ ¬ s.count < kMaxActivations then
    s.grow (kMaxActivations * 4) (by rw [s.capacity_inline h.1]; omega)
  else s

/-- `ActivationStackPush`, and the write of the slot that it returns. -/
def push (s : ActivationStack) (a : SpanActivation) : ActivationStack :=
  let s := s.spill
  if h : s.count < s.capacity then s.put h a
  else
    (s.grow (s.capacity * 3 / 2) (by omega)).put (by
      have := s.capacity_ge
      have := s.count_le
      simp only [grow, kMaxActivations] at *
      omega) a

def pop (s : ActivationStack) : Option SpanActivation × ActivationStack :=
  if s.count = 0 then (none, s)
  else
    (s.buffer[s.count - 1]?,
      { s with count := s.count - 1, count_le := le_trans (Nat.sub_le _ _) s.count_le })

/-! ## The stack as a list -/

theorem length_buffer (s : ActivationStack) : s.buffer.length = s.capacity := s.buffer_length

theorem length_toList (s : ActivationStack) : s.toList.length = s.count := by
  rw [toList, List.length_take, length_buffer, min_eq_left s.count_le]

theorem toList_grow (s : ActivationStack) (n : ℕ) (h : s.capacity ≤ n) :
    (s.grow n h).toList = s.toList := by
  have hlen := length_toList s
  simp only [toList, buffer, grow, Option.getD_some] at hlen ⊢
  rw [List.take_append_of_le_length (by omega), List.take_of_length_le (by omega)]

theorem toList_spill (s : ActivationStack) : s.spill.toList = s.toList := by
  unfold spill
  split
  · exact toList_grow s _ _
  · rfl

theorem buffer_put (s : ActivationStack) (h : s.count < s.capacity) (a : SpanActivation) :
    (s.put h a).buffer = s.buffer.set s.count a := by
  cases he : s.extra <;> simp [buffer, put, he]

theorem toList_put (s : ActivationStack) (h : s.count < s.capacity) (a : SpanActivation) :
    (s.put h a).toList = s.toList ++ [a] := by
  have hlt : s.count < (s.buffer.set s.count a).length := by rw [List.length_set, length_buffer]; exact h
  have hcount : (s.put h a).count = s.count + 1 := rfl
  rw [toList, buffer_put, hcount, List.take_add_one, List.getElem?_eq_getElem hlt,
    List.getElem_set_self, List.take_set_of_le (le_refl _)]
  rfl

theorem toList_push (s : ActivationStack) (a : SpanActivation) :
    (s.push a).toList = s.toList ++ [a] := by
  unfold push
  simp only
  split
  · rw [toList_put, toList_spill]
  · rw [toList_put, toList_grow, toList_spill]

theorem toList_eq_nil (s : ActivationStack) : s.toList = [] ↔ s.count = 0 := by
  rw [← List.length_eq_zero_iff, length_toList]

theorem pop_fst (s : ActivationStack) : s.pop.1 = s.toList.getLast? := by
  unfold pop
  split <;> rename_i h
  · rw [(toList_eq_nil s).mpr h, List.getLast?_nil]
  · rw [List.getLast?_eq_getElem?, length_toList, toList, List.getElem?_take_of_lt (by omega)]

theorem toList_pop (s : ActivationStack) : s.pop.2.toList = s.toList.dropLast := by
  unfold pop
  split <;> rename_i h
  · rw [(toList_eq_nil s).mpr h, List.dropLast_nil]
  · rw [List.dropLast_eq_take, length_toList, toList, toList, List.take_take,
      min_eq_left (Nat.sub_le _ _)]
    rfl

end ActivationStack

end SplunkOtel.Native
