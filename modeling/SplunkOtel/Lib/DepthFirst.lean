import Mathlib.Data.Finset.Card
import Mathlib.Data.List.Infix
import Mathlib.Logic.Relation
import Mathlib.Tactic.Common

/-!
# Depth-first search in post order

A node is put out after the nodes that it points to, unless the search is in the middle of them. The
search ends on every finite graph, puts out what can be reached, each node once, and sorts the
graph topologically where it has no cycle.
-/

open Relation

namespace Lib.DepthFirst

variable {α : Type*}

structure State (α : Type*) where
  visited : Finset α
  /-- The nodes that the search is in the middle of. -/
  visiting : Finset α
  sorted : List α

section Search

variable [DecidableEq α] (next : α → List α)

/-- There is no result without fuel. -/
def visit : ℕ → State α → α → Option (State α)
  | 0, _, _ => none
  | fuel + 1, s, a =>
    if a ∈ s.visited then some s
    else if a ∈ s.visiting then some s
    else do
      let s ← (next a).foldlM (visit fuel) { s with visiting := insert a s.visiting }
      return {
        visited := insert a s.visited
        visiting := s.visiting.erase a
        sorted := s.sorted ++ [a] }

/-- A search from each of the roots in turn. -/
def sort (fuel : ℕ) (roots : List α) : Option (List α) :=
  (roots.foldlM (visit next fuel) ⟨∅, ∅, []⟩).map (·.sorted)

variable {next}

theorem visit_cases {fuel : ℕ} {s s' : State α} {a : α}
    (h : visit next (fuel + 1) s a = some s') :
    ((a ∈ s.visited ∨ a ∈ s.visiting) ∧ s' = s) ∨
      (a ∉ s.visited ∧ a ∉ s.visiting ∧ ∃ t,
        (next a).foldlM (visit next fuel) { s with visiting := insert a s.visiting } = some t ∧
          s' = ⟨insert a t.visited, t.visiting.erase a, t.sorted ++ [a]⟩) := by
  unfold visit at h
  split at h
  · rename_i hvisited
    exact Or.inl ⟨Or.inl hvisited, (Option.some.inj h).symm⟩
  · rename_i hvisited
    split at h
    · rename_i hvisiting
      exact Or.inl ⟨Or.inr hvisiting, (Option.some.inj h).symm⟩
    · rename_i hvisiting
      obtain ⟨t, ht, hdone⟩ := Option.bind_eq_some_iff.mp h
      exact Or.inr ⟨hvisited, hvisiting, t, ht, (Option.some.inj hdone).symm⟩

end Search

/-! ## What a search keeps -/

section Keeps

variable (next : α → List α) (roots : List α)

def Reached (a : α) : Prop := ∃ r ∈ roots, ReflTransGen (fun a b => b ∈ next a) r a

structure Inv (s : State α) : Prop where
  nodup : s.sorted.Nodup
  visited : ∀ a, a ∈ s.visited ↔ a ∈ s.sorted
  apart : ∀ a ∈ s.visiting, a ∉ s.sorted
  closed : ∀ a ∈ s.sorted, ∀ b ∈ next a, b ∈ s.sorted ∨ b ∈ s.visiting
  reached : ∀ a ∈ s.sorted, Reached next roots a

/-- A search from `l` has led from `s` to `s'`. -/
structure Searched (s s' : State α) (l : List α) : Prop where
  visiting : s'.visiting = s.visiting
  grows : ∀ a ∈ s.sorted, a ∈ s'.sorted
  there : ∀ a ∈ l, a ∈ s'.sorted ∨ a ∈ s'.visiting

variable {next roots}

theorem Searched.refl (s : State α) : Searched s s [] := ⟨rfl, fun _ => id, nofun⟩

theorem Searched.cons {s s' s'' : State α} {a : α} {l : List α} (h : Searched s s' [a])
    (h' : Searched s' s'' l) : Searched s s'' (a :: l) where
  visiting := h'.visiting.trans h.visiting
  grows b hb := h'.grows b (h.grows b hb)
  there := by
    rw [List.forall_mem_cons]
    refine ⟨?_, h'.there⟩
    rw [h'.visiting]
    exact (h.there a List.mem_cons_self).imp_left (h'.grows a)

theorem searched_self {s : State α} {a : α} (h : a ∈ s.sorted ∨ a ∈ s.visiting) :
    Searched s s [a] := ⟨rfl, fun _ => id, fun b hb => by rwa [List.mem_singleton.mp hb]⟩

variable [DecidableEq α]

theorem Inv.enter {s : State α} {a : α} (h : Inv next roots s) (ha : a ∉ s.sorted) :
    Inv next roots { s with visiting := insert a s.visiting } where
  nodup := h.nodup
  visited := h.visited
  apart b hb := by
    rcases Finset.mem_insert.mp hb with rfl | hb
    · exact ha
    · exact h.apart b hb
  closed b hb c hc := (h.closed b hb c hc).imp_right Finset.mem_insert_of_mem
  reached := h.reached

theorem Inv.put {s s' : State α} {a : α} (hvisiting : a ∉ s.visiting)
    (hreached : Reached next roots a)
    (hsearched : Searched { s with visiting := insert a s.visiting } s' (next a))
    (h : Inv next roots s') :
    Inv next roots ⟨insert a s'.visited, s'.visiting.erase a, s'.sorted ++ [a]⟩ ∧
      Searched s ⟨insert a s'.visited, s'.visiting.erase a, s'.sorted ++ [a]⟩ [a] := by
  have hmid : a ∈ s'.visiting := by
    rw [hsearched.visiting]
    exact Finset.mem_insert_self _ _
  have hfresh : a ∉ s'.sorted := h.apart a hmid
  have herase : s'.visiting.erase a = s.visiting := by
    rw [hsearched.visiting, Finset.erase_insert hvisiting]
  have hthere {b : α} (hb : b ∈ s'.sorted ∨ b ∈ s'.visiting) :
      b ∈ s'.sorted ++ [a] ∨ b ∈ s'.visiting.erase a := by
    by_cases hba : b = a
    · left
      simp [hba]
    · exact hb.imp (List.mem_append_left _) fun hb => Finset.mem_erase.mpr ⟨hba, hb⟩
  constructor
  · constructor
    case nodup => exact h.nodup.append (List.nodup_singleton a) (by simpa using hfresh)
    case visited => simp [h.visited, or_comm]
    case apart =>
      intro b hb
      obtain ⟨hne, hb⟩ := Finset.mem_erase.mp hb
      simp [hne, h.apart b hb]
    case closed =>
      intro b hb c hc
      rcases List.mem_append.mp hb with hb | hb
      · exact hthere (h.closed b hb c hc)
      · rw [List.mem_singleton.mp hb] at hc
        exact hthere (hsearched.there c hc)
    case reached =>
      intro b hb
      rcases List.mem_append.mp hb with hb | hb
      · exact h.reached b hb
      · rwa [List.mem_singleton.mp hb]
  · refine ⟨herase, fun b hb => ?_, by simp⟩
    exact List.mem_append_left _ (hsearched.grows b hb)

theorem foldlM_searched {fuel : ℕ}
    (hvisit : ∀ s s' a, Inv next roots s → Reached next roots a →
      visit next fuel s a = some s' → Inv next roots s' ∧ Searched s s' [a])
    (l : List α) {s s' : State α} (h : Inv next roots s) (hl : ∀ a ∈ l, Reached next roots a)
    (hrun : l.foldlM (visit next fuel) s = some s') : Inv next roots s' ∧ Searched s s' l := by
  induction l generalizing s with
  | nil =>
    cases hrun
    exact ⟨h, Searched.refl _⟩
  | cons a l ih =>
    obtain ⟨ha, hl⟩ := List.forall_mem_cons.mp hl
    obtain ⟨t, hfirst, hrest⟩ := Option.bind_eq_some_iff.mp hrun
    obtain ⟨ht, hone⟩ := hvisit s t a h ha hfirst
    obtain ⟨hs', hmany⟩ := ih ht hl hrest
    exact ⟨hs', hone.cons hmany⟩

theorem visit_searched (fuel : ℕ) (s s' : State α) (a : α) (h : Inv next roots s)
    (ha : Reached next roots a) (hrun : visit next fuel s a = some s') :
    Inv next roots s' ∧ Searched s s' [a] := by
  induction fuel generalizing s s' a with
  | zero => cases hrun
  | succ fuel ih =>
    rcases visit_cases hrun with ⟨hthere, rfl⟩ | ⟨hvisited, hvisiting, t, ht, rfl⟩
    · exact ⟨h, searched_self (hthere.imp_left (h.visited a).mp)⟩
    · have hnew : a ∉ s.sorted := fun hmem => hvisited ((h.visited a).mpr hmem)
      have hnext : ∀ b ∈ next a, Reached next roots b := by
        obtain ⟨r, hr, hpath⟩ := ha
        exact fun b hb => ⟨r, hr, hpath.tail hb⟩
      obtain ⟨hinv, hsearched⟩ := foldlM_searched ih (next a) (h.enter hnew) hnext ht
      exact Inv.put hvisiting ha hsearched hinv

end Keeps

/-! ## The order -/

section Order

variable (next : α → List α)

/-- No node can be reached from itself. -/
def Acyclic : Prop := ∀ a, ¬ TransGen (fun a b => b ∈ next a) a a

/-- Every node comes after the nodes that it points to. -/
def Topological (sorted : List α) : Prop :=
  ∀ before a after, sorted = before ++ a :: after → ∀ b ∈ next a, b ∈ before

/-- The search has come to `a` through the nodes that it is in the middle of. -/
def OnPath (s : State α) (a : α) : Prop :=
  ∀ v ∈ s.visiting, TransGen (fun a b => b ∈ next a) v a

variable {next}

theorem topological_nil : Topological next [] := by
  intro before a after h
  simp at h

theorem Topological.concat {sorted : List α} {a : α} (h : Topological next sorted)
    (ha : ∀ b ∈ next a, b ∈ sorted) : Topological next (sorted ++ [a]) := by
  intro before c after heq b hb
  rcases List.eq_nil_or_concat after with rfl | ⟨after, d, rfl⟩
  · obtain ⟨rfl, hac⟩ := List.append_inj' heq rfl
    rw [(List.cons.inj hac).1] at ha
    exact ha b hb
  · have hsplit : sorted ++ [a] = (before ++ c :: after) ++ [d] := by
      rw [heq, List.append_assoc, List.cons_append, List.concat_eq_append]
    obtain ⟨hsorted, -⟩ := List.append_inj' hsplit rfl
    exact h before c after hsorted b hb

variable {roots : List α}

theorem Searched.put_out {s s' : State α} {l : List α} (hacyclic : Acyclic next)
    (hpath : ∀ a ∈ l, OnPath next s a) (h : Searched s s' l) : ∀ a ∈ l, a ∈ s'.sorted := by
  intro a ha
  refine (h.there a ha).resolve_right fun hvisiting => ?_
  rw [h.visiting] at hvisiting
  exact hacyclic a (hpath a ha a hvisiting)

variable [DecidableEq α]

theorem foldlM_topological {fuel : ℕ}
    (hvisit : ∀ s s' a, Inv next roots s → Reached next roots a → OnPath next s a →
      Topological next s.sorted → visit next fuel s a = some s' → Topological next s'.sorted)
    (l : List α) {s s' : State α} (h : Inv next roots s) (hl : ∀ a ∈ l, Reached next roots a)
    (hpath : ∀ a ∈ l, OnPath next s a) (htop : Topological next s.sorted)
    (hrun : l.foldlM (visit next fuel) s = some s') : Topological next s'.sorted := by
  induction l generalizing s with
  | nil =>
    cases hrun
    exact htop
  | cons a l ih =>
    obtain ⟨ha, hl⟩ := List.forall_mem_cons.mp hl
    obtain ⟨hapath, hpath⟩ := List.forall_mem_cons.mp hpath
    obtain ⟨t, hfirst, hrest⟩ := Option.bind_eq_some_iff.mp hrun
    obtain ⟨ht, hsearched⟩ := visit_searched fuel s t a h ha hfirst
    refine ih ht hl (fun b hb v hv => hpath b hb v ?_) (hvisit s t a h ha hapath htop hfirst) hrest
    rwa [← hsearched.visiting]

theorem visit_topological (hacyclic : Acyclic next) (fuel : ℕ) (s s' : State α) (a : α)
    (h : Inv next roots s) (ha : Reached next roots a) (hpath : OnPath next s a)
    (htop : Topological next s.sorted) (hrun : visit next fuel s a = some s') :
    Topological next s'.sorted := by
  induction fuel generalizing s s' a with
  | zero => cases hrun
  | succ fuel ih =>
    rcases visit_cases hrun with ⟨-, rfl⟩ | ⟨hvisited, -, t, ht, rfl⟩
    · exact htop
    · have hnew : a ∉ s.sorted := fun hmem => hvisited ((h.visited a).mpr hmem)
      have hnext : ∀ b ∈ next a, Reached next roots b := by
        obtain ⟨r, hr, hreach⟩ := ha
        exact fun b hb => ⟨r, hr, hreach.tail hb⟩
      have hnextPath : ∀ b ∈ next a, OnPath next { s with visiting := insert a s.visiting } b := by
        intro b hb v hv
        rcases Finset.mem_insert.mp hv with rfl | hv
        · exact TransGen.single hb
        · exact (hpath v hv).tail hb
      obtain ⟨-, hsearched⟩ :=
        foldlM_searched (visit_searched fuel) (next a) (h.enter hnew) hnext ht
      have hbefore : Topological next t.sorted :=
        foldlM_topological ih (next a) (h.enter hnew) hnext hnextPath htop ht
      exact hbefore.concat (hsearched.put_out hacyclic hnextPath)

end Order

/-! ## Termination -/

section Termination

variable [DecidableEq α] {next : α → List α} {nodes : Finset α}

theorem exists_foldlM {fuel : ℕ}
    (hvisit : ∀ (s : State α) (a : α), a ∈ nodes → (nodes \ s.visiting).card < fuel →
      ∃ s', visit next fuel s a = some s' ∧ s'.visiting = s.visiting)
    (l : List α) (s : State α) (hl : ∀ a ∈ l, a ∈ nodes)
    (hfuel : (nodes \ s.visiting).card < fuel) :
    ∃ s', l.foldlM (visit next fuel) s = some s' ∧ s'.visiting = s.visiting := by
  induction l generalizing s with
  | nil => exact ⟨s, rfl, rfl⟩
  | cons a l ih =>
    obtain ⟨ha, hl⟩ := List.forall_mem_cons.mp hl
    obtain ⟨t, ht, htv⟩ := hvisit s a ha hfuel
    obtain ⟨s', hs', hs'v⟩ := ih t hl (by rwa [htv])
    refine ⟨s', ?_, hs'v.trans htv⟩
    rw [List.foldlM_cons, ht]
    exact hs'

theorem exists_visit (hnodes : ∀ a ∈ nodes, ∀ b ∈ next a, b ∈ nodes) (fuel : ℕ) (s : State α)
    (a : α) (ha : a ∈ nodes) (hfuel : (nodes \ s.visiting).card < fuel) :
    ∃ s', visit next fuel s a = some s' ∧ s'.visiting = s.visiting := by
  induction fuel generalizing s a with
  | zero => omega
  | succ fuel ih =>
    unfold visit
    split
    · exact ⟨s, rfl, rfl⟩
    · split
      · exact ⟨s, rfl, rfl⟩
      · rename_i hvisiting
        have hsubset : nodes \ insert a s.visiting ⊆ nodes \ s.visiting :=
          Finset.sdiff_subset_sdiff subset_rfl (Finset.subset_insert a s.visiting)
        have hsmaller : (nodes \ insert a s.visiting).card < (nodes \ s.visiting).card := by
          apply Finset.card_lt_card
          rw [Finset.ssubset_iff_of_subset hsubset]
          exact ⟨a, by simp [ha, hvisiting], by simp⟩
        obtain ⟨t, ht, htv⟩ := exists_foldlM ih (next a)
          { s with visiting := insert a s.visiting } (hnodes a ha) (by simp only; omega)
        rw [ht]
        refine ⟨_, rfl, ?_⟩
        simp only [htv, Finset.erase_insert hvisiting]

theorem exists_sort (hnodes : ∀ a ∈ nodes, ∀ b ∈ next a, b ∈ nodes) {roots : List α}
    (hroots : ∀ r ∈ roots, r ∈ nodes) :
    ∃ sorted, sort next (nodes.card + 1) roots = some sorted := by
  obtain ⟨s, hs, -⟩ := exists_foldlM (exists_visit hnodes (nodes.card + 1)) roots ⟨∅, ∅, []⟩ hroots
    (by simp)
  exact ⟨s.sorted, by rw [sort, hs]; rfl⟩

end Termination

/-! ## The result -/

variable {next : α → List α} {roots sorted : List α} {fuel : ℕ}

theorem inv_empty : Inv next roots ⟨∅, ∅, []⟩ :=
  ⟨List.nodup_nil, by simp, by simp, by simp, by simp⟩

theorem reached_root : ∀ r ∈ roots, Reached next roots r := fun r hr => ⟨r, hr, ReflTransGen.refl⟩

variable [DecidableEq α]

/-- Each node that can be reached from a root is put out once. -/
theorem sort_reached (h : sort next fuel roots = some sorted) :
    sorted.Nodup ∧ ∀ a, a ∈ sorted ↔ Reached next roots a := by
  obtain ⟨s, hs, rfl⟩ := Option.map_eq_some_iff.mp h
  obtain ⟨hinv, hsearched⟩ := foldlM_searched (visit_searched fuel) roots inv_empty reached_root hs
  have hall {a : α} (ha : a ∈ s.sorted ∨ a ∈ s.visiting) : a ∈ s.sorted :=
    ha.resolve_right (by simp [hsearched.visiting])
  refine ⟨hinv.nodup, fun a => ⟨hinv.reached a, ?_⟩⟩
  rintro ⟨r, hr, hpath⟩
  induction hpath with
  | refl => exact hall (hsearched.there r hr)
  | tail _ hedge ih => exact hall (hinv.closed _ ih _ hedge)

theorem sort_topological (hacyclic : Acyclic next) (h : sort next fuel roots = some sorted) :
    Topological next sorted := by
  obtain ⟨s, hs, rfl⟩ := Option.map_eq_some_iff.mp h
  exact foldlM_topological (visit_topological hacyclic fuel) roots inv_empty reached_root
    (fun _ _ => by simp [OnPath]) topological_nil hs

end Lib.DepthFirst
