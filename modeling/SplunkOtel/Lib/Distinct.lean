import Mathlib.Data.List.Induction
import Mathlib.Data.List.Nodup
import Mathlib.Data.Set.Function
import Mathlib.Tactic.Common

/-!
# Each element once

A list without its repetitions, in the order in which its elements first appear. A function that is
applied to the elements afterwards may bring repetitions back.
-/

namespace Lib.Distinct

variable {α β : Type*} [DecidableEq α] [DecidableEq β]

/-- `result` has each of the `entries` once, in order of first appearance. -/
structure EachOnce (entries result : List α) : Prop where
  nodup : result.Nodup
  mem_iff : ∀ a, a ∈ result ↔ a ∈ entries
  ordered : result.Pairwise (entries.idxOf · < entries.idxOf ·)

namespace EachOnce

variable {entries result : List α} {a : α}

theorem idxOf_append (h : EachOnce entries result) {b : α} (hb : b ∈ result) :
    (entries ++ [a]).idxOf b = entries.idxOf b := by
  rw [List.idxOf_append, if_pos ((h.mem_iff b).mp hb)]

theorem repeated (h : EachOnce entries result) (ha : a ∈ entries) :
    EachOnce (entries ++ [a]) result where
  nodup := h.nodup
  mem_iff b := by
    rw [h.mem_iff, List.mem_append, List.mem_singleton]
    constructor
    · exact Or.inl
    · rintro (hb | rfl)
      · exact hb
      · exact ha
  ordered := h.ordered.imp_of_mem fun hb hc hlt => by
    rwa [h.idxOf_append hb, h.idxOf_append hc]

theorem fresh (h : EachOnce entries result) (ha : a ∉ entries) :
    EachOnce (entries ++ [a]) (result ++ [a]) where
  nodup := by
    rw [List.nodup_append]
    refine ⟨h.nodup, List.nodup_singleton a, fun b hb c hc => ?_⟩
    rw [List.mem_singleton.mp hc]
    exact ne_of_mem_of_not_mem ((h.mem_iff b).mp hb) ha
  mem_iff b := by rw [List.mem_append, List.mem_append, h.mem_iff]
  ordered := by
    have hlast : (entries ++ [a]).idxOf a = entries.length := by
      rw [List.idxOf_append, if_neg ha, List.idxOf_cons_self, Nat.zero_add]
    rw [List.pairwise_append]
    refine ⟨h.ordered.imp_of_mem fun hb hc hlt => ?_, List.pairwise_singleton _ _, ?_⟩
    · rwa [h.idxOf_append hb, h.idxOf_append hc]
    · intro b hb c hc
      rw [List.mem_singleton.mp hc, hlast, h.idxOf_append hb]
      exact List.idxOf_lt_length_of_mem ((h.mem_iff b).mp hb)

end EachOnce

theorem eachOnce_eraseDups (entries : List α) : EachOnce entries entries.eraseDups := by
  induction entries using List.reverseRecOn with
  | nil => exact ⟨List.nodup_nil, fun _ => Iff.rfl, List.Pairwise.nil⟩
  | append_singleton entries a ih =>
    rw [List.eraseDups_append]
    by_cases ha : a ∈ entries
    · have hnothing : [a].removeAll entries = [] := by simp [List.removeAll, ha]
      rw [hnothing, List.eraseDups_nil, List.append_nil]
      exact ih.repeated ha
    · have hnew : ([a].removeAll entries).eraseDups = [a] := by
        simp [List.removeAll, ha, List.eraseDups_cons]
      rw [hnew]
      exact ih.fresh ha

/-! ## Functions on the elements -/

theorem idxOf_map {f : α → β} {entries : List α} {a : α} (hinj : ∀ b ∈ entries, f b = f a → b = a) :
    (entries.map f).idxOf (f a) = entries.idxOf a := by
  induction entries with
  | nil => rfl
  | cons b entries ih =>
    obtain ⟨hb, hentries⟩ := List.forall_mem_cons.mp hinj
    rw [List.map_cons, List.idxOf_cons, List.idxOf_cons, ih hentries]
    by_cases hba : b = a
    · simp [hba]
    · have hne : f b ≠ f a := fun heq => hba (hb heq)
      rw [beq_false_of_ne hba, beq_false_of_ne hne]

theorem eachOnce_map_iff {f : α → β} {entries result : List α} (h : EachOnce entries result) :
    EachOnce (entries.map f) (result.map f) ↔
      ∀ a ∈ entries, ∀ b ∈ entries, f a = f b → a = b := by
  constructor
  · intro hmap a ha b hb heq
    exact List.inj_on_of_nodup_map hmap.nodup ((h.mem_iff a).mpr ha) ((h.mem_iff b).mpr hb) heq
  · intro hinj
    have hidx {a : α} (ha : a ∈ result) : (entries.map f).idxOf (f a) = entries.idxOf a :=
      idxOf_map fun b hb heq => hinj b hb a ((h.mem_iff a).mp ha) heq
    refine ⟨?_, fun b => ?_, ?_⟩
    · refine h.nodup.map_on fun a ha b hb heq => ?_
      exact hinj a ((h.mem_iff a).mp ha) b ((h.mem_iff b).mp hb) heq
    · simp only [List.mem_map, h.mem_iff]
    · rw [List.pairwise_map]
      refine h.ordered.imp_of_mem fun ha hb hlt => ?_
      rwa [hidx ha, hidx hb]

end Lib.Distinct
