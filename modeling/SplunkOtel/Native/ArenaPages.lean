import SplunkOtel.Native.Arena

/-!
# Every page of the arena is reachable

A reset makes the pages behind the current one the free list, and forgets the free list of before.
-/

open Lib Lib.Run Lib.LinkedList

namespace SplunkOtel.Native.Arena.Pages

/-- No page is lost, the two lists end and share no page, and there are no more pages than were
needed at some time. -/
structure NothingLost (s : State) : Prop where
  reachable : ∃ active free, Chain (nextOf s.pages) s.arena.nodes active ∧
    Chain (nextOf s.pages) s.arena.freeNodes free ∧ active.Nodup ∧ free.Nodup ∧
    active.Disjoint free ∧ ∀ page ∈ s.pages.keys, page ∈ active ∨ page ∈ free
  bounded : s.pages.size ≤ s.mostNeeded

/-- A reset finds every page in use. -/
def ResetsFullLists (s : State) : Event → Prop
  | .reset => s.arena.freeNodes = none
  | _ => True

structure Inv (s : State) (active free : List ℕ) : Prop where
  lists : Lists s active free
  reachable : ∀ page ∈ s.pages.keys, page ∈ active ++ free
  mostNeeded : s.needed ≤ s.mostNeeded
  bounded : s.pages.size ≤ s.mostNeeded

theorem Inv.nothingLost {s : State} {active free : List ℕ} (h : Inv s active free) :
    NothingLost s where
  reachable := ⟨active, free, h.lists.inUse, h.lists.unused, h.lists.inUse.nodup,
    h.lists.unused.nodup, h.lists.disjoint, fun page hpage => List.mem_append.mp (h.reachable page hpage)⟩
  bounded := h.bounded

theorem size_set_le (pages : OrderedMap ℕ ArenaNode) (address : ℕ) (node : ArenaNode) :
    (pages.set address node).size ≤ pages.size + 1 := by
  by_cases h : pages.get? address = none
  · have hsize := OrderedMap.size_set_new h node
    omega
  · have hsize := OrderedMap.size_set_old h node
    omega

theorem Inv.current {s : State} {active free : List ℕ} (h : Inv s active free) {address : ℕ}
    {node : ArenaNode} (hnode : s.pages.get? address = some node) (size : ℕ) :
    Inv (allocIn s address node size) active free := by
  have hold : s.pages.get? address ≠ none := by simp [hnode]
  refine ⟨allocIn_lists h.lists hnode size, fun page hpage => ?_, h.mostNeeded, ?_⟩
  · rw [allocIn_pages, OrderedMap.keys_set_old hold] at hpage
    exact h.reachable page hpage
  · rw [allocIn_pages, OrderedMap.size_set_old hold]
    exact h.bounded

theorem Inv.recycled {s : State} {active free : List ℕ} (h : Inv s active free) {address : ℕ}
    {node : ArenaNode} (hfree : s.arena.freeNodes = some address)
    (hnode : s.pages.get? address = some node) :
    ∃ rest, Inv (usePage { s with arena := { s.arena with freeNodes := node.next } } address node)
      (address :: active) rest := by
  have hold : s.pages.get? address ≠ none := by simp [hnode]
  obtain ⟨rest, rfl, hlists⟩ := recycled_lists h.lists hfree hnode
  refine ⟨rest, hlists, fun page hpage => ?_, Nat.le_max_right _ _, ?_⟩
  · have hpage : page ∈ s.pages.keys := by rwa [usePage, OrderedMap.keys_set_old hold] at hpage
    have hlisted := h.reachable page hpage
    simp only [List.mem_append, List.mem_cons] at hlisted ⊢
    tauto
  · rw [usePage, OrderedMap.size_set_old hold]
    exact Nat.le_trans h.bounded (Nat.le_max_left _ _)

theorem Inv.fresh {s : State} {active free : List ℕ} (h : Inv s active free) {mem : ℕ}
    (hfree : s.arena.freeNodes = none) (hnew : mem ∉ s.pages.keys) (node : ArenaNode) :
    Inv (usePage s mem node) (mem :: active) [] := by
  have hchain := h.lists.unused
  rw [hfree] at hchain
  obtain rfl := hchain.of_none
  have hsize : s.pages.size ≤ active.length := by
    have hsub : s.pages.keys ⊆ active := fun page hpage => by simpa using h.reachable page hpage
    have hle := (List.subperm_of_subset s.pages.nodup hsub).length_le
    rwa [List.length_map] at hle
  refine ⟨fresh_lists h.lists hnew node, fun page hpage => ?_, Nat.le_max_right _ _, ?_⟩
  · rw [usePage, OrderedMap.mem_keys_set] at hpage
    rcases hpage with rfl | hpage
    · exact List.mem_cons_self
    · exact List.mem_cons_of_mem _ (h.reachable page hpage)
  · have hneeded := h.lists.needed
    have hle := size_set_le s.pages mem { node with next := s.arena.nodes }
    refine Nat.le_trans hle (Nat.le_trans ?_ (Nat.le_max_right s.mostNeeded (s.needed + 1)))
    omega

theorem init_inv {s : State} {active free : List ℕ} (h : Inv s active free) (pageSize : ℕ)
    (granted : Option ℕ) (hnodes : s.arena.nodes = none) :
    Inv (pagedArenaInit s pageSize granted) granted.toList [] := by
  have hlists := init_lists h.lists pageSize granted hnodes
  have hempty := h.lists.started hnodes
  cases granted with
  | none =>
    refine ⟨hlists, fun page hpage => ?_, h.mostNeeded, h.bounded⟩
    change page ∈ s.pages.keys at hpage
    rw [hempty] at hpage
    cases hpage
  | some mem =>
    refine ⟨hlists, fun page hpage => ?_, Nat.le_refl _, ?_⟩
    · rw [init_pages hempty, mem_keys_single] at hpage
      simpa using hpage
    · rw [init_pages hempty]
      exact size_set_le ∅ mem _

theorem step_inv (s : State) (e : Event) (t : State) (h : ∃ active free, Inv s active free)
    (hc : ResetsFullLists s e) (hs : step s e = some t) : ∃ active free, Inv t active free := by
  obtain ⟨active, free, h⟩ := h
  cases step_acts hs with
  | init pageSize granted hnodes hgrant =>
    exact ⟨granted.toList, [], init_inv h pageSize granted hnodes⟩
  | current size granted address node hsize hnodes hnode hfits =>
    exact ⟨active, free, h.current hnode size⟩
  | recycled size granted current address full node hsize hnodes hcurrent hfull hfree hnode =>
    obtain ⟨rest, hnext⟩ := h.recycled hfree hnode
    exact ⟨address :: active, rest, hnext.current (usePage_get? _ _ _) size⟩
  | fresh size mem current full hsize hnodes hcurrent hfull hfree hgrant =>
    have hnext := h.fresh hfree (grant_new hgrant) (pagedArenaNewNode mem s.arena.pageSize)
    exact ⟨mem :: active, [], hnext.current (usePage_get? _ _ _) size⟩
  | refused =>
    exact ⟨active, free,
      ⟨⟨h.lists.inUse, h.lists.unused, h.lists.disjoint, h.lists.known, h.lists.needed,
        h.lists.started⟩, h.reachable, h.mostNeeded, h.bounded⟩⟩
  | reset pages current node hpages hnodes hnode =>
    obtain ⟨rest, rfl, hkeys, hlists⟩ := reset_lists h.lists hpages hnodes hnode
    have hchain := h.lists.unused
    rw [hc] at hchain
    obtain rfl := hchain.of_none
    have hneeded := h.lists.needed
    refine ⟨[current], rest, hlists, fun page hpage => ?_, ?_, ?_⟩
    · rw [hkeys] at hpage
      simpa using h.reachable page hpage
    · have hmost := h.mostNeeded
      rw [List.length_cons] at hneeded
      change 1 ≤ s.mostNeeded
      omega
    · have hsize := congrArg List.length hkeys
      simp only [OrderedMap.keys, List.length_map] at hsize
      exact Nat.le_trans (Nat.le_of_eq hsize) h.bounded
  | write address value =>
    exact ⟨active, free,
      ⟨⟨h.lists.inUse, h.lists.unused, h.lists.disjoint, h.lists.known, h.lists.needed,
        h.lists.started⟩, h.reachable, h.mostNeeded, h.bounded⟩⟩

theorem reset_breaks (s : State) (e : Event) (t : State) (h : ∃ active free, Inv s active free)
    (hc : ¬ ResetsFullLists s e) (hs : step s e = some t) : ¬ NothingLost t := by
  obtain ⟨active, free, h⟩ := h
  cases step_acts hs with
  | reset pages current node hpages hnodes hnode =>
    obtain ⟨lost, hlost⟩ := Option.ne_none_iff_exists'.mp hc
    have hchain := h.lists.unused
    rw [hlost] at hchain
    obtain ⟨more, rfl, _⟩ := hchain.of_some
    obtain ⟨rest, rfl, hkeys, hlists⟩ := reset_lists h.lists hpages hnodes hnode
    rintro ⟨⟨active', free', hactive, hfree, -, -, -, hreachable⟩, -⟩
    rw [hactive.unique hlists.inUse, hfree.unique hlists.unused] at hreachable
    have hknown : lost ∈ s.pages.keys :=
      h.lists.known lost (List.mem_append_right _ List.mem_cons_self)
    rw [hkeys] at hreachable
    have hdisjoint := List.disjoint_cons_right.mp h.lists.disjoint
    have hlisted := hreachable lost hknown
    rw [List.mem_singleton, ← List.mem_cons] at hlisted
    exact hdisjoint.1 hlisted
  | init => exact absurd trivial hc
  | current => exact absurd trivial hc
  | recycled => exact absurd trivial hc
  | fresh => exact absurd trivial hc
  | refused => exact absurd trivial hc
  | write => exact absurd trivial hc

theorem initial_inv : Inv {} [] [] where
  lists := ⟨rfl, rfl, List.disjoint_nil_left _, nofun, rfl, fun _ => rfl⟩
  reachable := nofun
  mostNeeded := Nat.le_refl _
  bounded := Nat.le_refl _

theorem nothingLost_of_inv {s : State} (h : ∃ active free, Inv s active free) : NothingLost s := by
  obtain ⟨active, free, h⟩ := h
  exact h.nothingLost

/-- **No page is lost.** A run keeps all of its pages in the two lists, and has no more pages than
were needed at some time, exactly when each of its resets finds every page in use. -/
theorem pages_kept_iff (es : List Event) :
    Always step NothingLost {} es ↔ Along step ResetsFullLists {} es :=
  always_iff_along (fun _ => nothingLost_of_inv) step_inv reset_breaks es {} ⟨[], [], initial_inv⟩

/-- Two pages of 64 MB are in use, then a reset frees the second, and the next reset forgets it. -/
theorem second_reset_loses_page : ¬ Always step NothingLost {}
    [.init 0x4000000 (some 0x1000), .alloc 0x2800000 none, .alloc 0x2800000 (some 0x100000000),
      .reset, .reset] := by
  intro h
  have hfull := along_of_always step_inv reset_breaks _ _ ⟨[], [], initial_inv⟩ h
  cases hfull.2.2.2.2.1

end SplunkOtel.Native.Arena.Pages
