import Mathlib.Data.List.Nodup
import Mathlib.Tactic.Common

/-!
# Singly linked lists

A pointer to the first node and the `next` pointer of each node. A list that ends has no cycle.
-/

namespace Lib.LinkedList

variable {A : Type*}

/-- The nodes that following `next` from `head` goes through, up to the null pointer. -/
def Chain (next : A → Option A) : Option A → List A → Prop
  | head, [] => head = none
  | head, a :: as => head = some a ∧ Chain next (next a) as

variable {next next' : A → Option A}

theorem Chain.of_none {as : List A} (h : Chain next none as) : as = [] := by
  cases as with
  | nil => rfl
  | cons a as => cases h.1

theorem Chain.of_some {a : A} {as : List A} (h : Chain next (some a) as) :
    ∃ rest, as = a :: rest ∧ Chain next (next a) rest := by
  cases as with
  | nil => cases h
  | cons b rest =>
    obtain ⟨hb, hrest⟩ := h
    cases hb
    exact ⟨rest, rfl, hrest⟩

theorem Chain.unique {head : Option A} {as bs : List A} (ha : Chain next head as)
    (hb : Chain next head bs) : as = bs := by
  induction as generalizing head bs with
  | nil =>
    cases ha
    exact hb.of_none.symm
  | cons a as ih =>
    obtain ⟨rfl, ha⟩ := ha
    obtain ⟨rest, rfl, hrest⟩ := hb.of_some
    rw [ih ha hrest]

theorem Chain.drop {head : Option A} {before after : List A} (h : Chain next head (before ++ after)) :
    ∃ rest, Chain next rest after := by
  induction before generalizing head with
  | nil => exact ⟨head, h⟩
  | cons a before ih => exact ih h.2

theorem Chain.nodup {head : Option A} {as : List A} (h : Chain next head as) : as.Nodup := by
  induction as generalizing head with
  | nil => exact List.nodup_nil
  | cons a as ih =>
    refine List.nodup_cons.mpr ⟨fun hmem => ?_, ih h.2⟩
    obtain ⟨before, after, rfl⟩ := List.append_of_mem hmem
    obtain ⟨rest, hrest⟩ := Chain.drop h.2
    obtain ⟨rfl, hafter⟩ := hrest
    have hlong : Chain next (some a) (a :: (before ++ a :: after)) := ⟨rfl, h.2⟩
    have hshort : Chain next (some a) (a :: after) := ⟨rfl, hafter⟩
    have hlength := congrArg List.length (hlong.unique hshort)
    simp only [List.length_cons, List.length_append] at hlength
    omega

theorem Chain.congr {head : Option A} {as : List A} (h : Chain next head as)
    (heq : ∀ a ∈ as, next' a = next a) : Chain next' head as := by
  induction as generalizing head with
  | nil => exact h
  | cons a as ih =>
    refine ⟨h.1, ?_⟩
    rw [heq a List.mem_cons_self]
    exact ih h.2 fun b hb => heq b (List.mem_cons_of_mem a hb)

theorem Chain.push {head : Option A} {as : List A} {a : A} (h : Chain next head as)
    (hnext : next' a = head) (hkeep : ∀ b ∈ as, next' b = next b) :
    Chain next' (some a) (a :: as) := by
  refine ⟨rfl, ?_⟩
  rw [hnext]
  exact h.congr hkeep

end Lib.LinkedList
