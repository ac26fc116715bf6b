import SplunkOtel.Native.Arena

/-!
# The blocks of the arena

A block lies in one page, begins at a multiple of 16, shares no byte with another block and holds
zeroes, as long as the sum of its offset and its size does not wrap around.
-/

open Lib Lib.Run Lib.LinkedList

namespace SplunkOtel.Native.Arena.Blocks

/-! ## Alignment -/

theorem align_spec {ptr : ℕ} (h : ptr < uintptrEnd) :
    ∃ gap, gap < kAlignment ∧ align ptr kAlignment = (ptr + gap) % uintptrEnd ∧
      (ptr + gap) % kAlignment = 0 := by
  have hmask : ptr &&& (kAlignment - 1) = ptr % 16 := Nat.and_two_pow_sub_one_eq_mod ptr 4
  unfold align
  rw [hmask]
  unfold uintptrEnd kAlignment at *
  by_cases hm : ptr % 16 = 0
  · exact ⟨0, by omega, by simp only [hm, ↓reduceIte]; omega, by omega⟩
  · exact ⟨16 - ptr % 16, by omega, by simp only [hm, ↓reduceIte], by omega⟩

theorem alignedOffset_spec {arena : MemArena} (hpos : 0 < arena.memory)
    (hend : arena.memory + arena.offset < uintptrEnd) :
    arena.offset ≤ alignedOffset arena ∧ alignedOffset arena < arena.offset + kAlignment ∧
      (arena.memory + alignedOffset arena) % kAlignment = 0 := by
  obtain ⟨gap, hgap, halign, hmod⟩ := align_spec hend
  have hcursor : (arena.memory + arena.offset) % uintptrEnd = arena.memory + arena.offset :=
    Nat.mod_eq_of_lt hend
  have hoffset : alignedOffset arena = arena.offset + gap := by
    unfold alignedOffset
    simp only [hcursor, halign]
    unfold uintptrEnd kAlignment at *
    omega
  rw [hoffset]
  refine ⟨by omega, by omega, ?_⟩
  rw [← Nat.add_assoc]
  exact hmod

/-! ## What is proved -/

def Block.Disjoint (a b : Block) : Prop := a.start + a.size ≤ b.start ∨ b.start + b.size ≤ a.start

/-- The memory behind the node at an address. -/
def InPage (pageSize address : ℕ) (b : Block) : Prop :=
  address + sizeofArenaNode ≤ b.start ∧ b.start + b.size ≤ address + sizeofArenaNode + pageSize

structure Sound (s : State) : Prop where
  inPage : ∀ b ∈ s.blocks, ∃ address ∈ s.pages.keys, InPage s.arena.pageSize address b
  aligned : ∀ b ∈ s.blocks, b.start % kAlignment = 0
  disjoint : s.blocks.Pairwise Block.Disjoint
  zeroed : ∀ b ∈ s.returned, b ∈ s.blocks ∧ ∀ a, b.start ≤ a → a < b.start + b.size → s.memory a = 0

/-- The sum of offset and size wraps around to a place in the page. -/
def Wraps (arena : MemArena) (size : ℕ) : Prop :=
  uintptrEnd ≤ alignedOffset arena + size ∧
    (alignedOffset arena + size) % uintptrEnd ≤ arena.capacity

/-- The page that is asked when the current one is full. -/
def nextPage (s : State) (granted : Option ℕ) : Option ArenaNode :=
  match s.arena.freeNodes with
  | some free => s.pages.get? free
  | none => granted.map (pagedArenaNewNode · s.arena.pageSize)

/-- The sum does not wrap around in the current page, nor in the next one if that is asked. -/
def SizeFits (s : State) : Event → Prop
  | .alloc size granted => ∀ address ∈ s.arena.nodes, ∀ node ∈ s.pages.get? address,
    ¬ Wraps node.arena size ∧ ((memArenaAlloc node.arena s.memory size).2.2 = none →
      ∀ next ∈ nextPage s granted, ¬ Wraps next.arena size)
  | _ => True

/-! ## One page -/

theorem memset_inside {memory : Memory} {start size address : ℕ} {value : UInt8}
    (hlow : start ≤ address) (hhigh : address < start + size) :
    memset memory start size value address = value := if_pos ⟨hlow, hhigh⟩

theorem memArenaAlloc_cases {arena : MemArena} {size : ℕ} (memory : Memory)
    (h : ¬ Wraps arena size) :
    memArenaAlloc arena memory size = (arena, memory, none) ∨
      alignedOffset arena + size ≤ arena.capacity ∧
        memArenaAlloc arena memory size =
          ({ arena with offset := alignedOffset arena + size },
            memset memory (arena.memory + alignedOffset arena) size 0,
            some (arena.memory + alignedOffset arena)) := by
  unfold memArenaAlloc
  simp only
  split
  · rename_i hle
    have hlt : alignedOffset arena + size < uintptrEnd := by
      by_contra hge
      exact h ⟨Nat.le_of_not_lt hge, hle⟩
    rw [Nat.mod_eq_of_lt hlt] at hle ⊢
    exact Or.inr ⟨hle, rfl⟩
  · exact Or.inl rfl

structure LaidOut (pageSize address : ℕ) (node : ArenaNode) : Prop where
  memory : node.arena.memory = address + sizeofArenaNode
  capacity : node.arena.capacity = pageSize
  offset : node.arena.offset ≤ pageSize
  inSpace : address + sizeofArenaNode + pageSize < uintptrEnd

theorem LaidOut.alignedOffset_spec {pageSize address : ℕ} {node : ArenaNode}
    (h : LaidOut pageSize address node) :
    node.arena.offset ≤ alignedOffset node.arena ∧
      alignedOffset node.arena < node.arena.offset + kAlignment ∧
      (node.arena.memory + alignedOffset node.arena) % kAlignment = 0 := by
  have hmemory := h.memory
  have hoffset := h.offset
  have hspace := h.inSpace
  apply Blocks.alignedOffset_spec
  · unfold sizeofArenaNode at hmemory
    omega
  · omega

/-- The block ends before the part of the page that is still to be given away. -/
def Before (address : ℕ) (node : ArenaNode) (b : Block) : Prop :=
  address + sizeofArenaNode ≤ b.start ∧ b.start + b.size ≤ address + sizeofArenaNode + node.arena.offset

/-! ## The invariant -/

structure Inv (s : State) (active free : List ℕ) : Prop where
  lists : Lists s active free
  pages : ∀ address node, s.pages.get? address = some node → LaidOut s.arena.pageSize address node
  apart : ∀ a ∈ s.pages.keys, ∀ b ∈ s.pages.keys, a ≠ b →
    a + sizeofArenaNode + s.arena.pageSize ≤ b ∨ b + sizeofArenaNode + s.arena.pageSize ≤ a
  fresh : ∀ address ∈ free, ∀ node ∈ s.pages.get? address, node.arena.offset = 0
  blocks : ∀ b ∈ s.blocks, ∃ address ∈ active, ∃ node, s.pages.get? address = some node ∧
    Before address node b
  aligned : ∀ b ∈ s.blocks, b.start % kAlignment = 0
  disjoint : s.blocks.Pairwise Block.Disjoint
  zeroed : ∀ b ∈ s.returned, b ∈ s.blocks ∧ ∀ a, b.start ≤ a → a < b.start + b.size → s.memory a = 0

theorem Inv.sound {s : State} {active free : List ℕ} (h : Inv s active free) : Sound s where
  inPage b hb := by
    obtain ⟨address, _, node, hnode, hlow, hhigh⟩ := h.blocks b hb
    have hoffset := (h.pages address node hnode).offset
    exact ⟨address, OrderedMap.mem_keys_of_get? hnode, hlow, by omega⟩
  aligned := h.aligned
  disjoint := h.disjoint
  zeroed := h.zeroed

theorem allocIn_full {s : State} {node : ArenaNode} {size : ℕ} (address : ℕ)
    (h : memArenaAlloc node.arena s.memory size = (node.arena, s.memory, none)) :
    allocIn s address node size =
      { s with pages := s.pages.set address node, returned := none } := by
  unfold allocIn
  rw [h]
  rfl

/-- The node once the block is given away. -/
def given (node : ArenaNode) (size : ℕ) : ArenaNode :=
  { node with arena := { node.arena with offset := alignedOffset node.arena + size } }

def blockOf (node : ArenaNode) (size : ℕ) : Block :=
  ⟨node.arena.memory + alignedOffset node.arena, size⟩

theorem allocIn_taken {s : State} {node : ArenaNode} {size : ℕ} (address : ℕ)
    (h : memArenaAlloc node.arena s.memory size =
      ({ node.arena with offset := alignedOffset node.arena + size },
        memset s.memory (node.arena.memory + alignedOffset node.arena) size 0,
        some (node.arena.memory + alignedOffset node.arena))) :
    allocIn s address node size =
      { s with
        pages := s.pages.set address (given node size)
        memory := memset s.memory (blockOf node size).start size 0
        blocks := blockOf node size :: s.blocks
        returned := some (blockOf node size) } := by
  unfold allocIn
  rw [h]
  rfl

/-- A node is stored again, with as much given away as before or more. -/
structure Grown (s : State) (active : List ℕ) (address : ℕ) (old node : ArenaNode) : Prop where
  active : address ∈ active
  stored : s.pages.get? address = some old
  laidOut : LaidOut s.arena.pageSize address node
  offset : old.arena.offset ≤ node.arena.offset

section

variable {s : State} {active free : List ℕ} {address : ℕ} {old node : ArenaNode}

theorem Grown.keys (hg : Grown s active address old node) :
    (s.pages.set address node).keys = s.pages.keys :=
  OrderedMap.keys_set_old (by simp [hg.stored]) node

theorem Grown.pages (hg : Grown s active address old node) (h : Inv s active free) (a : ℕ)
    (n : ArenaNode) (hn : (s.pages.set address node).get? a = some n) :
    LaidOut s.arena.pageSize a n := by
  rw [OrderedMap.get?_set] at hn
  split at hn
  · rename_i ha
    cases hn
    rw [ha]
    exact hg.laidOut
  · exact h.pages a n hn

theorem Grown.apart (hg : Grown s active address old node) (h : Inv s active free) (a : ℕ)
    (ha : a ∈ (s.pages.set address node).keys) (b : ℕ) (hb : b ∈ (s.pages.set address node).keys)
    (hab : a ≠ b) :
    a + sizeofArenaNode + s.arena.pageSize ≤ b ∨ b + sizeofArenaNode + s.arena.pageSize ≤ a := by
  rw [hg.keys] at ha hb
  exact h.apart a ha b hb hab

theorem Grown.fresh (hg : Grown s active address old node) (h : Inv s active free) (a : ℕ)
    (ha : a ∈ free) (n : ArenaNode) (hn : n ∈ (s.pages.set address node).get? a) :
    n.arena.offset = 0 := by
  have hne : a ≠ address := by
    rintro rfl
    exact h.lists.disjoint hg.active ha
  rw [OrderedMap.get?_set_ne hne] at hn
  exact h.fresh a ha n hn

theorem Grown.blocks (hg : Grown s active address old node) (h : Inv s active free) (b : Block)
    (hb : b ∈ s.blocks) :
    ∃ a ∈ active, ∃ n, (s.pages.set address node).get? a = some n ∧ Before a n b := by
  obtain ⟨a, ha, n, hn, hlow, hhigh⟩ := h.blocks b hb
  by_cases hsame : a = address
  · subst hsame
    rw [hg.stored] at hn
    cases hn
    have hoffset := hg.offset
    exact ⟨a, ha, node, OrderedMap.get?_set_self _ _ _, hlow, by omega⟩
  · exact ⟨a, ha, n, by rw [OrderedMap.get?_set_ne hsame]; exact hn, hlow, hhigh⟩

theorem Inv.disjoint_new (h : Inv s active free) (hnode : s.pages.get? address = some node)
    {size : ℕ} (hfits : alignedOffset node.arena + size ≤ node.arena.capacity) (b : Block)
    (hb : b ∈ s.blocks) : Block.Disjoint (blockOf node size) b := by
  have hlaid := h.pages address node hnode
  have hmemory := hlaid.memory
  have hcapacity := hlaid.capacity
  have hlow := hlaid.alignedOffset_spec.1
  obtain ⟨a, _, n, hn, hstart, hend⟩ := h.blocks b hb
  change node.arena.memory + alignedOffset node.arena + size ≤ b.start ∨
    b.start + b.size ≤ node.arena.memory + alignedOffset node.arena
  by_cases hsame : a = address
  · subst hsame
    rw [hnode] at hn
    cases hn
    omega
  · have hoffset := (h.pages a n hn).offset
    have hapart := h.apart a (OrderedMap.mem_keys_of_get? hn) address
      (OrderedMap.mem_keys_of_get? hnode) hsame
    omega

theorem Inv.full (h : Inv s active free) (hactive : address ∈ active)
    (hnode : s.pages.get? address = some node) {size : ℕ}
    (hfull : memArenaAlloc node.arena s.memory size = (node.arena, s.memory, none)) :
    Inv (allocIn s address node size) active free := by
  have hg : Grown s active address node node :=
    ⟨hactive, hnode, h.pages address node hnode, Nat.le_refl _⟩
  have hlists := allocIn_lists h.lists hnode size
  rw [allocIn_full address hfull] at hlists ⊢
  exact ⟨hlists, hg.pages h, hg.apart h, hg.fresh h, hg.blocks h, h.aligned, h.disjoint, nofun⟩

theorem Inv.taken (h : Inv s active free) (hactive : address ∈ active)
    (hnode : s.pages.get? address = some node) {size : ℕ}
    (hfits : alignedOffset node.arena + size ≤ node.arena.capacity)
    (hblock : memArenaAlloc node.arena s.memory size =
      ({ node.arena with offset := alignedOffset node.arena + size },
        memset s.memory (node.arena.memory + alignedOffset node.arena) size 0,
        some (node.arena.memory + alignedOffset node.arena))) :
    Inv (allocIn s address node size) active free := by
  have hlaid := h.pages address node hnode
  have hmemory := hlaid.memory
  obtain ⟨hlow, _, hmod⟩ := hlaid.alignedOffset_spec
  have hgrown : LaidOut s.arena.pageSize address (given node size) :=
    ⟨hmemory, hlaid.capacity, by rw [← hlaid.capacity]; exact hfits, hlaid.inSpace⟩
  have hg : Grown s active address node (given node size) :=
    ⟨hactive, hnode, hgrown, Nat.le_trans hlow (Nat.le_add_right _ _)⟩
  have hlists := allocIn_lists h.lists hnode size
  rw [allocIn_taken address hblock] at hlists ⊢
  refine ⟨hlists, hg.pages h, hg.apart h, hg.fresh h, fun b hb => ?_, fun b hb => ?_,
    List.pairwise_cons.mpr ⟨h.disjoint_new hnode hfits, h.disjoint⟩, ?_⟩
  · rcases List.mem_cons.mp hb with rfl | hb
    · refine ⟨address, hactive, given node size, OrderedMap.get?_set_self _ _ _, ?_, ?_⟩
      · change address + sizeofArenaNode ≤ node.arena.memory + alignedOffset node.arena
        omega
      · change node.arena.memory + alignedOffset node.arena + size ≤
          address + sizeofArenaNode + (alignedOffset node.arena + size)
        omega
    · exact hg.blocks h b hb
  · rcases List.mem_cons.mp hb with rfl | hb
    · exact hmod
    · exact h.aligned b hb
  · rintro b ⟨⟩
    exact ⟨List.mem_cons_self, fun a hstart hend => memset_inside hstart hend⟩

theorem Inv.alloc (h : Inv s active free) (hactive : address ∈ active)
    (hnode : s.pages.get? address = some node) {size : ℕ} (hwrap : ¬ Wraps node.arena size) :
    Inv (allocIn s address node size) active free := by
  rcases memArenaAlloc_cases s.memory hwrap with hfull | ⟨hfits, hblock⟩
  · exact h.full hactive hnode hfull
  · exact h.taken hactive hnode hfits hblock

end

/-! ## The lists -/

theorem Inv.usePage {s : State} {active free rest : List ℕ} {address : ℕ} {node : ArenaNode}
    (h : Inv s active free) (freeNodes : Option ℕ)
    (hlists : Lists (usePage { s with arena := { s.arena with freeNodes } } address node)
      (address :: active) rest) (hrest : ∀ a ∈ rest, a ∈ free) (hlaid : LaidOut s.arena.pageSize address node)
    (hfresh : node.arena.offset = 0) (hactive : address ∉ active)
    (hapart : ∀ a ∈ s.pages.keys, a ≠ address →
      a + sizeofArenaNode + s.arena.pageSize ≤ address ∨
        address + sizeofArenaNode + s.arena.pageSize ≤ a) :
    Inv (usePage { s with arena := { s.arena with freeNodes } } address node)
      (address :: active) rest := by
  refine ⟨hlists, fun a n hn => ?_, fun a ha b hb hab => ?_, fun a ha n hn => ?_, fun b hb => ?_,
    h.aligned, h.disjoint, h.zeroed⟩
  · unfold Arena.usePage at hn
    rw [OrderedMap.get?_set] at hn
    split at hn
    · rename_i ha
      cases hn
      rw [ha]
      exact ⟨hlaid.memory, hlaid.capacity, hlaid.offset, hlaid.inSpace⟩
    · exact h.pages a n hn
  · unfold Arena.usePage at ha hb
    rw [OrderedMap.mem_keys_set] at ha hb
    change a + sizeofArenaNode + s.arena.pageSize ≤ b ∨ b + sizeofArenaNode + s.arena.pageSize ≤ a
    rcases ha with rfl | ha
    · rcases hb with rfl | hb
      · exact absurd rfl hab
      · exact (hapart b hb (Ne.symm hab)).symm
    · rcases hb with rfl | hb
      · exact hapart a ha hab
      · exact h.apart a ha b hb hab
  · unfold Arena.usePage at hn
    rw [OrderedMap.get?_set] at hn
    split at hn
    · cases hn
      exact hfresh
    · exact h.fresh a (hrest a ha) n hn
  · obtain ⟨a, ha, n, hn, hbefore⟩ := h.blocks b hb
    refine ⟨a, List.mem_cons_of_mem _ ha, n, ?_, hbefore⟩
    unfold Arena.usePage
    rw [OrderedMap.get?_set_ne (ne_of_mem_of_not_mem ha hactive)]
    exact hn

theorem Inv.forget {s : State} {active free : List ℕ} (h : Inv s active free) (memory : Memory) :
    Inv { s with memory, returned := none } active free :=
  ⟨⟨h.lists.inUse, h.lists.unused, h.lists.disjoint, h.lists.known, h.lists.needed, h.lists.started⟩,
    h.pages, h.apart, h.fresh, h.blocks, h.aligned, h.disjoint, nofun⟩

theorem laidOut_new {s : State} {pageSize mem : ℕ} (h : CanGrant s pageSize mem) :
    LaidOut pageSize mem (pagedArenaNewNode mem pageSize) :=
  ⟨rfl, rfl, Nat.zero_le _, h.2.1⟩

theorem Inv.recycled {s : State} {active free : List ℕ} (h : Inv s active free) {address : ℕ}
    {node : ArenaNode} (hfree : s.arena.freeNodes = some address)
    (hnode : s.pages.get? address = some node) :
    ∃ rest, Inv (Arena.usePage { s with arena := { s.arena with freeNodes := node.next } } address node)
      (address :: active) rest := by
  obtain ⟨rest, rfl, hlists⟩ := recycled_lists h.lists hfree hnode
  have hdisjoint := List.disjoint_cons_right.mp h.lists.disjoint
  have hkey := OrderedMap.mem_keys_of_get? hnode
  exact ⟨rest, h.usePage node.next hlists (fun a ha => List.mem_cons_of_mem _ ha) (h.pages address node hnode)
    (h.fresh address List.mem_cons_self node hnode) hdisjoint.1
    fun a ha hne => h.apart a ha address hkey hne⟩

theorem Inv.granted {s : State} {active free : List ℕ} (h : Inv s active free) {mem : ℕ}
    (hgrant : CanGrant s s.arena.pageSize mem) :
    Inv (Arena.usePage s mem (pagedArenaNewNode mem s.arena.pageSize)) (mem :: active) free := by
  have hnew := grant_new hgrant
  refine h.usePage s.arena.freeNodes (fresh_lists h.lists hnew _) (fun a ha => ha)
    (laidOut_new hgrant) rfl (fun hmem => hnew (h.lists.known mem (List.mem_append_left _ hmem)))
    fun a ha _ => hgrant.2.2 a ha

theorem init_inv {s : State} {active free : List ℕ} (h : Inv s active free) (pageSize : ℕ)
    (granted : Option ℕ) (hnodes : s.arena.nodes = none)
    (hgrant : ∀ mem ∈ granted, CanGrant s pageSize mem) :
    Inv (pagedArenaInit s pageSize granted) granted.toList [] := by
  have hlists := init_lists h.lists pageSize granted hnodes
  have hempty := h.lists.started hnodes
  have hblocks : s.blocks = [] := by
    have hchain := h.lists.inUse
    rw [hnodes] at hchain
    rw [List.eq_nil_iff_forall_not_mem]
    intro b hb
    obtain ⟨a, ha, -⟩ := h.blocks b hb
    rw [hchain.of_none] at ha
    cases ha
  cases granted with
  | none =>
    have hnone (a : ℕ) (n : ArenaNode) : ¬ s.pages.get? a = some n := by simp [hempty]
    refine ⟨hlists, fun a n hn => absurd hn (hnone a n), fun a ha => ?_, by simp, fun b hb => ?_,
      h.aligned, h.disjoint, fun b hb => by cases hb⟩
    · obtain ⟨n, hn⟩ := OrderedMap.mem_keys_iff.mp ha
      exact absurd hn (hnone a n)
    · change b ∈ s.blocks at hb
      rw [hblocks] at hb
      cases hb
  | some mem =>
    have hpages := init_pages hempty pageSize mem
    refine ⟨hlists, fun a n hn => ?_, fun a ha b hb hab => ?_, by simp, fun b hb => ?_, h.aligned,
      h.disjoint, fun b hb => by cases hb⟩
    · rw [hpages, OrderedMap.get?_set, OrderedMap.get?_empty] at hn
      split at hn
      · rename_i ha
        cases hn
        rw [ha]
        exact laidOut_new (hgrant mem rfl)
      · cases hn
    · rw [hpages, mem_keys_single] at ha hb
      exact absurd (ha.trans hb.symm) hab
    · change b ∈ s.blocks at hb
      rw [hblocks] at hb
      cases hb

theorem reset_inv {s : State} {active free : List ℕ} (h : Inv s active free)
    {pages : OrderedMap ℕ ArenaNode} {current : ℕ} {node : ArenaNode}
    (hpages : resetNodes s.pages.size s.pages s.arena.nodes = some pages)
    (hnodes : s.arena.nodes = some current) (hnode : pages.get? current = some node) :
    ∃ rest, Inv
      { s with
        pages := pages.set current { node with next := none }
        arena := { s.arena with freeNodes := node.next }
        blocks := []
        returned := none
        needed := 1 }
      [current] rest := by
  obtain ⟨after, hafter, _, hget⟩ := resetNodes_spec h.lists.inUse h.lists.length_le
    fun a ha => h.lists.known a (List.mem_append_left _ ha)
  obtain rfl := Option.some_inj.mp (hpages.symm.trans hafter)
  obtain ⟨rest, rfl, hkeys, hlists⟩ := reset_lists h.lists hpages hnodes hnode
  have hlaid (a : ℕ) (n : ArenaNode) (hn : pages.get? a = some n) :
      LaidOut s.arena.pageSize a n := by
    rw [hget, Option.map_eq_some_iff] at hn
    obtain ⟨old, hold, rfl⟩ := hn
    obtain ⟨hmemory, hcapacity, hoffset, hspace⟩ := h.pages a old hold
    split
    · exact ⟨hmemory, hcapacity, Nat.zero_le _, hspace⟩
    · exact ⟨hmemory, hcapacity, hoffset, hspace⟩
  refine ⟨rest, hlists, fun a n hn => ?_, fun a ha b hb hab => ?_, fun a ha n hn => ?_, nofun, nofun,
    List.Pairwise.nil, nofun⟩
  · rw [OrderedMap.get?_set] at hn
    split at hn
    · rename_i ha
      cases hn
      rw [ha]
      obtain ⟨hmemory, hcapacity, hoffset, hspace⟩ := hlaid current node hnode
      exact ⟨hmemory, hcapacity, hoffset, hspace⟩
    · exact hlaid a n hn
  · rw [hkeys] at ha hb
    exact h.apart a ha b hb hab
  · have hne : a ≠ current := by
      rintro rfl
      exact (List.nodup_cons.mp h.lists.inUse.nodup).1 ha
    rw [OrderedMap.get?_set_ne hne, hget] at hn
    obtain ⟨old, _, rfl⟩ := Option.map_eq_some_iff.mp hn
    rw [if_pos (List.mem_cons_of_mem _ ha)]
    rfl

/-! ## Runs -/

theorem step_inv (s : State) (e : Event) (t : State) (h : ∃ active free, Inv s active free)
    (hc : SizeFits s e) (hs : step s e = some t) : ∃ active free, Inv t active free := by
  obtain ⟨active, free, h⟩ := h
  cases step_acts hs with
  | init pageSize granted hnodes hgrant =>
    exact ⟨granted.toList, [], init_inv h pageSize granted hnodes hgrant⟩
  | current size granted address node hsize hnodes hnode hfits =>
    have hchain := h.lists.inUse
    rw [hnodes] at hchain
    obtain ⟨rest, rfl, _⟩ := hchain.of_some
    exact ⟨address :: rest, free,
      h.alloc List.mem_cons_self hnode (hc address hnodes node hnode).1⟩
  | recycled size granted current address full node hsize hnodes hcurrent hfull hfree hnode =>
    obtain ⟨rest, hnext⟩ := h.recycled hfree hnode
    have hwrap := (hc current hnodes full hcurrent).2 hfull node (by simp [nextPage, hfree, hnode])
    exact ⟨address :: active, rest, hnext.alloc List.mem_cons_self (usePage_get? _ _ _) hwrap⟩
  | fresh size mem current full hsize hnodes hcurrent hfull hfree hgrant =>
    have hwrap := (hc current hnodes full hcurrent).2 hfull
      (pagedArenaNewNode mem s.arena.pageSize) (by simp [nextPage, hfree])
    exact ⟨mem :: active, free,
      (h.granted hgrant).alloc List.mem_cons_self (usePage_get? _ _ _) hwrap⟩
  | refused => exact ⟨active, free, h.forget s.memory⟩
  | reset pages current node hpages hnodes hnode =>
    exact ⟨[current], reset_inv h hpages hnodes hnode⟩
  | write address value => exact ⟨active, free, h.forget (memset s.memory address 1 value)⟩

theorem wraps_unsound {s : State} {active free : List ℕ} (h : Inv s active free) {address : ℕ}
    {node : ArenaNode} (hnode : s.pages.get? address = some node) {size : ℕ}
    (hwrap : Wraps node.arena size) : ¬ Sound (allocIn s address node size) := by
  intro hsound
  have hmem : blockOf node size ∈ (allocIn s address node size).blocks := by
    unfold allocIn memArenaAlloc
    simp only [if_pos hwrap.2]
    exact List.mem_cons_self
  obtain ⟨a, ha, _, hend⟩ := hsound.inPage _ hmem
  change node.arena.memory + alignedOffset node.arena + size ≤
    a + sizeofArenaNode + s.arena.pageSize at hend
  rw [allocIn_pages, OrderedMap.keys_set_old (by simp [hnode])] at ha
  obtain ⟨n, hn⟩ := OrderedMap.mem_keys_iff.mp ha
  have hspace := (h.pages a n hn).inSpace
  have hover := hwrap.1
  omega

theorem sizeFits_of {s : State} {size current : ℕ} {granted : Option ℕ} {node : ArenaNode}
    (hnodes : s.arena.nodes = some current) (hnode : s.pages.get? current = some node)
    (hwrap : ¬ Wraps node.arena size)
    (hnext : (memArenaAlloc node.arena s.memory size).2.2 = none →
      ∀ next ∈ nextPage s granted, ¬ Wraps next.arena size) :
    SizeFits s (.alloc size granted) := by
  intro a ha n hn
  rw [hnodes] at ha
  cases ha
  rw [hnode] at hn
  cases hn
  exact ⟨hwrap, hnext⟩

theorem not_wraps_of_full {arena : MemArena} {memory : Memory} {size : ℕ}
    (h : (memArenaAlloc arena memory size).2.2 = none) : ¬ Wraps arena size := by
  intro hwrap
  unfold memArenaAlloc at h
  simp only [if_pos hwrap.2] at h
  cases h

theorem size_breaks (s : State) (e : Event) (t : State) (h : ∃ active free, Inv s active free)
    (hc : ¬ SizeFits s e) (hs : step s e = some t) : ¬ Sound t := by
  obtain ⟨active, free, h⟩ := h
  cases step_acts hs with
  | current size granted address node hsize hnodes hnode hfits =>
    apply wraps_unsound h hnode
    by_contra hwrap
    refine hc (sizeFits_of hnodes hnode hwrap fun hfull => ?_)
    rw [hfull] at hfits
    cases hfits
  | recycled size granted current address full node hsize hnodes hcurrent hfull hfree hnode =>
    obtain ⟨rest, hnext⟩ := h.recycled hfree hnode
    apply wraps_unsound hnext (usePage_get? _ _ _)
    by_contra hwrap
    refine hc (sizeFits_of hnodes hcurrent (not_wraps_of_full hfull) fun _ next hpage => ?_)
    simp only [nextPage, hfree, hnode] at hpage
    cases hpage
    exact hwrap
  | fresh size mem current full hsize hnodes hcurrent hfull hfree hgrant =>
    apply wraps_unsound (h.granted hgrant) (usePage_get? _ _ _)
    by_contra hwrap
    refine hc (sizeFits_of hnodes hcurrent (not_wraps_of_full hfull) fun _ next hpage => ?_)
    simp only [nextPage, hfree] at hpage
    cases hpage
    exact hwrap
  | refused size current full hnodes hcurrent hfull hfree =>
    refine absurd (sizeFits_of hnodes hcurrent (not_wraps_of_full hfull) fun _ next hpage => ?_) hc
    simp only [nextPage, hfree] at hpage
    cases hpage
  | init => exact absurd trivial hc
  | reset => exact absurd trivial hc
  | write => exact absurd trivial hc

theorem initial_inv : Inv {} [] [] where
  lists := ⟨rfl, rfl, List.disjoint_nil_left _, nofun, rfl, fun _ => rfl⟩
  pages _ _ hn := by cases hn
  apart := nofun
  fresh := nofun
  blocks := nofun
  aligned := nofun
  disjoint := List.Pairwise.nil
  zeroed := nofun

theorem sound_of_inv {s : State} (h : ∃ active free, Inv s active free) : Sound s := by
  obtain ⟨active, free, h⟩ := h
  exact h.sound

/-- **Blocks are sound.** In every state of a run the blocks lie in one page each, aligned, apart
and zeroed, exactly when no sum of an offset and a size wraps around. -/
theorem blocks_sound_iff (es : List Event) :
    Always step Sound {} es ↔ Along step SizeFits {} es :=
  always_iff_along (fun _ => sound_of_inv) step_inv size_breaks es {} ⟨[], [], initial_inv⟩

/-- The largest size is added to the offset 8 and gives 7, which every page has room for. -/
theorem largest_size_overruns : ¬ Always step Sound {}
    [.init 0x4000000 (some 0x1000), .alloc 0xFFFFFFFFFFFFFFFF none] := by
  intro h
  have hfits := along_of_always step_inv size_breaks _ _ ⟨[], [], initial_inv⟩ h
  exact (hfits.2.1 0x1000 rfl _ rfl).1 ⟨by decide, by decide⟩

end SplunkOtel.Native.Arena.Blocks
