import Mathlib.Data.List.Perm.Subperm
import SplunkOtel.Lib.LinkedList
import SplunkOtel.Lib.OrderedMap
import SplunkOtel.Lib.Run

/-!
# The paged arena (`src/native_ext/util/arena.cpp`)

Pages move between two linked lists: the ones in use, the current page first, and the free ones. A
page is known by its address, and pointers are 64 bits wide.
-/

open Lib Lib.Run Lib.LinkedList

namespace SplunkOtel.Native.Arena

/-! ## One page -/

def uintptrEnd : ℕ := 0x10000000000000000

/-- `2 * sizeof(void*)` -/
def kAlignment : ℕ := 16

/-- `sizeof(ArenaNode)` -/
def sizeofArenaNode : ℕ := 40

def align (ptr alignment : ℕ) : ℕ :=
  let m := ptr &&& (alignment - 1)
  if m = 0 then ptr else (ptr + (alignment - m)) % uintptrEnd

structure MemArena where
  memory : ℕ
  offset : ℕ
  capacity : ℕ
deriving DecidableEq

def memArenaInit (mem capacity : ℕ) : MemArena := { memory := mem, offset := 0, capacity }

/-- Where the next block would begin, from the start of the page's memory. -/
def alignedOffset (arena : MemArena) : ℕ :=
  let cursor := (arena.memory + arena.offset) % uintptrEnd
  (align cursor kAlignment + uintptrEnd - arena.memory) % uintptrEnd

abbrev Memory := ℕ → UInt8

def memset (memory : Memory) (start size : ℕ) (value : UInt8) : Memory := fun address =>
  if start ≤ address ∧ address < start + size then value else memory address

/-- The block that is returned, `none` when the page is full. The sum of offset and size can wrap
around. -/
def memArenaAlloc (arena : MemArena) (memory : Memory) (size : ℕ) :
    MemArena × Memory × Option ℕ :=
  let offset := alignedOffset arena
  if (offset + size) % uintptrEnd ≤ arena.capacity then
    let allocMem := arena.memory + offset
    ({ arena with offset := (offset + size) % uintptrEnd }, memset memory allocMem size 0,
      some allocMem)
  else (arena, memory, none)

def memArenaReset (arena : MemArena) : MemArena := { arena with offset := 0 }

structure ArenaNode where
  memory : ℕ
  arena : MemArena
  next : Option ℕ
deriving DecidableEq

/-- The node at the start of the memory that `calloc` returned. -/
def pagedArenaNewNode (mem capacity : ℕ) : ArenaNode :=
  { memory := mem + sizeofArenaNode
    arena := memArenaInit (mem + sizeofArenaNode) capacity
    next := none }

/-! ## All pages -/

structure PagedArena where
  nodes : Option ℕ := none
  freeNodes : Option ℕ := none
  pageSize : ℕ := 0
deriving DecidableEq

structure Block where
  start : ℕ
  size : ℕ
deriving DecidableEq

structure State where
  arena : PagedArena := {}
  /-- Every page that was obtained from the system, by its address. -/
  pages : OrderedMap ℕ ArenaNode := ∅
  memory : Memory := fun _ => 0
  /-- The blocks returned since the last reset. -/
  blocks : List Block := []
  /-- The block that the last event returned. -/
  returned : Option Block := none
  /-- The pages taken since the last reset, with the one that was kept. -/
  needed : ℕ := 0
  mostNeeded : ℕ := 0

/-- `calloc` returns memory that nothing else lies in, and that does not reach the end of the
address space. -/
def CanGrant (s : State) (pageSize mem : ℕ) : Prop :=
  mem ≠ 0 ∧ mem + sizeofArenaNode + pageSize < uintptrEnd ∧
    ∀ other ∈ s.pages.keys, other + sizeofArenaNode + s.arena.pageSize ≤ mem ∨
      mem + sizeofArenaNode + pageSize ≤ other

instance (s : State) (pageSize mem : ℕ) : Decidable (CanGrant s pageSize mem) :=
  inferInstanceAs (Decidable (_ ∧ _ ∧ _))

def pagedArenaInit (s : State) (pageSize : ℕ) (granted : Option ℕ) : State :=
  let s := { s with arena := { nodes := granted, freeNodes := none, pageSize }, returned := none }
  match granted with
  | none => s
  | some mem =>
    { s with pages := s.pages.set mem (pagedArenaNewNode mem pageSize), needed := 1, mostNeeded := 1 }

/-- `MemArenaAlloc` on the page of a node. -/
def allocIn (s : State) (address : ℕ) (node : ArenaNode) (size : ℕ) : State :=
  let result := memArenaAlloc node.arena s.memory size
  let returned := result.2.2.map fun start => { start, size }
  { s with
    pages := s.pages.set address { node with arena := result.1 }
    memory := result.2.1
    blocks := returned.toList ++ s.blocks
    returned }

/-- The node becomes the current page. -/
def usePage (s : State) (address : ℕ) (node : ArenaNode) : State :=
  let needed := s.needed + 1
  { s with
    pages := s.pages.set address { node with next := s.arena.nodes }
    arena := { s.arena with nodes := some address }
    needed
    mostNeeded := max s.mostNeeded needed }

def allocInNext (s : State) (address : ℕ) (node : ArenaNode) (size : ℕ) : State :=
  allocIn (usePage s address node) address { node with next := s.arena.nodes } size

/-- There is no result where a pointer that is followed is null or dangles. -/
def pagedArenaAlloc (s : State) (size : ℕ) (granted : Option ℕ) : Option State := do
  let current ← s.arena.nodes
  let node ← s.pages.get? current
  if (memArenaAlloc node.arena s.memory size).2.2.isSome then
    return allocIn s current node size
  match s.arena.freeNodes with
  | some free =>
    let node ← s.pages.get? free
    return allocInNext { s with arena := { s.arena with freeNodes := node.next } } free node size
  | none =>
    match granted with
    | none => return { s with returned := none }
    | some mem => return allocInNext s mem (pagedArenaNewNode mem s.arena.pageSize) size

/-- The loop over the list from `node` on. -/
def resetNodes : ℕ → OrderedMap ℕ ArenaNode → Option ℕ → Option (OrderedMap ℕ ArenaNode)
  | _, pages, none => some pages
  | 0, _, some _ => none
  | fuel + 1, pages, some address => do
    let node ← pages.get? address
    resetNodes fuel (pages.set address { node with arena := memArenaReset node.arena }) node.next

/-- A list that visits more nodes than there are pages has a cycle, and the loop does not end. -/
def pagedArenaReset (s : State) : Option State := do
  let pages ← resetNodes s.pages.size s.pages s.arena.nodes
  let current ← s.arena.nodes
  let node ← pages.get? current
  return { s with
    pages := pages.set current { node with next := none }
    arena := { s.arena with freeNodes := node.next }
    blocks := []
    returned := none
    needed := 1 }

/-! ## Runs -/

inductive Event where
  | init (pageSize : ℕ) (granted : Option ℕ)
  /-- `granted` is what the system gives if it is asked for a page. -/
  | alloc (size : ℕ) (granted : Option ℕ)
  | reset
  /-- The program writes into its blocks. -/
  | write (address : ℕ) (value : UInt8)

def step (s : State) : Event → Option State
  | .init pageSize granted =>
    if s.arena.nodes = none ∧ ∀ mem ∈ granted, CanGrant s pageSize mem then
      some (pagedArenaInit s pageSize granted)
    else none
  | .alloc size granted =>
    if 0 < size ∧ size < uintptrEnd ∧ ∀ mem ∈ granted, CanGrant s s.arena.pageSize mem then
      pagedArenaAlloc s size granted
    else none
  | .reset => pagedArenaReset s
  | .write address value =>
    some { s with memory := memset s.memory address 1 value, returned := none }

/-- What an event does. -/
inductive Acts (s : State) : Event → State → Prop
  | init (pageSize : ℕ) (granted : Option ℕ) (hnodes : s.arena.nodes = none)
      (hgrant : ∀ mem ∈ granted, CanGrant s pageSize mem) :
      Acts s (.init pageSize granted) (pagedArenaInit s pageSize granted)
  | current (size : ℕ) (granted : Option ℕ) (address : ℕ) (node : ArenaNode)
      (hsize : 0 < size ∧ size < uintptrEnd) (hnodes : s.arena.nodes = some address)
      (hnode : s.pages.get? address = some node)
      (hfits : (memArenaAlloc node.arena s.memory size).2.2.isSome) :
      Acts s (.alloc size granted) (allocIn s address node size)
  | recycled (size : ℕ) (granted : Option ℕ) (current address : ℕ) (full node : ArenaNode)
      (hsize : 0 < size ∧ size < uintptrEnd) (hnodes : s.arena.nodes = some current)
      (hcurrent : s.pages.get? current = some full)
      (hfull : (memArenaAlloc full.arena s.memory size).2.2 = none)
      (hfree : s.arena.freeNodes = some address) (hnode : s.pages.get? address = some node) :
      Acts s (.alloc size granted)
        (allocInNext { s with arena := { s.arena with freeNodes := node.next } } address node size)
  | fresh (size mem current : ℕ) (full : ArenaNode) (hsize : 0 < size ∧ size < uintptrEnd)
      (hnodes : s.arena.nodes = some current) (hcurrent : s.pages.get? current = some full)
      (hfull : (memArenaAlloc full.arena s.memory size).2.2 = none)
      (hfree : s.arena.freeNodes = none) (hgrant : CanGrant s s.arena.pageSize mem) :
      Acts s (.alloc size (some mem))
        (allocInNext s mem (pagedArenaNewNode mem s.arena.pageSize) size)
  | refused (size current : ℕ) (full : ArenaNode) (hnodes : s.arena.nodes = some current)
      (hcurrent : s.pages.get? current = some full)
      (hfull : (memArenaAlloc full.arena s.memory size).2.2 = none)
      (hfree : s.arena.freeNodes = none) : Acts s (.alloc size none) { s with returned := none }
  | reset (pages : OrderedMap ℕ ArenaNode) (current : ℕ) (node : ArenaNode)
      (hpages : resetNodes s.pages.size s.pages s.arena.nodes = some pages)
      (hnodes : s.arena.nodes = some current) (hnode : pages.get? current = some node) :
      Acts s .reset
        { s with
          pages := pages.set current { node with next := none }
          arena := { s.arena with freeNodes := node.next }
          blocks := []
          returned := none
          needed := 1 }
  | write (address : ℕ) (value : UInt8) :
      Acts s (.write address value)
        { s with memory := memset s.memory address 1 value, returned := none }

theorem step_acts {s t : State} {e : Event} (h : step s e = some t) : Acts s e t := by
  cases e with
  | init pageSize granted =>
    simp only [step] at h
    split at h
    · rename_i hguard
      cases h
      exact .init pageSize granted hguard.1 hguard.2
    · cases h
  | alloc size granted =>
    simp only [step] at h
    split at h
    · rename_i hguard
      obtain ⟨hpos, hlt, hgrant⟩ := hguard
      obtain ⟨current, hnodes, h⟩ := Option.bind_eq_some_iff.mp h
      obtain ⟨full, hcurrent, h⟩ := Option.bind_eq_some_iff.mp h
      split at h
      · rename_i hfits
        cases h
        exact .current size granted current full ⟨hpos, hlt⟩ hnodes hcurrent hfits
      · rename_i hfull
        have hfull : (memArenaAlloc full.arena s.memory size).2.2 = none := by simpa using hfull
        split at h
        · rename_i free hfree
          obtain ⟨node, hnode, h⟩ := Option.bind_eq_some_iff.mp h
          cases h
          exact .recycled size granted current free full node ⟨hpos, hlt⟩ hnodes hcurrent hfull hfree
            hnode
        · rename_i hfree
          cases granted with
          | none =>
            cases h
            exact .refused size current full hnodes hcurrent hfull hfree
          | some mem =>
            cases h
            exact .fresh size mem current full ⟨hpos, hlt⟩ hnodes hcurrent hfull hfree
              (hgrant mem rfl)
    · cases h
  | reset =>
    obtain ⟨pages, hpages, h⟩ := Option.bind_eq_some_iff.mp h
    obtain ⟨current, hnodes, h⟩ := Option.bind_eq_some_iff.mp h
    obtain ⟨node, hnode, h⟩ := Option.bind_eq_some_iff.mp h
    cases h
    exact .reset pages current node hpages hnodes hnode
  | write address value =>
    cases h
    exact .write address value

/-! ## The two lists -/

def nextOf (pages : OrderedMap ℕ ArenaNode) (address : ℕ) : Option ℕ :=
  (pages.get? address).bind (·.next)

/-- The pages in use and the free ones. -/
structure Lists (s : State) (active free : List ℕ) : Prop where
  inUse : Chain (nextOf s.pages) s.arena.nodes active
  unused : Chain (nextOf s.pages) s.arena.freeNodes free
  disjoint : active.Disjoint free
  known : ∀ address ∈ active ++ free, address ∈ s.pages.keys
  needed : s.needed = active.length
  started : s.arena.nodes = none → s.pages = ∅

theorem nextOf_of_get? {pages : OrderedMap ℕ ArenaNode} {address : ℕ} {node : ArenaNode}
    (h : pages.get? address = some node) : nextOf pages address = node.next := by
  rw [nextOf, h]
  rfl

theorem nextOf_set_self (pages : OrderedMap ℕ ArenaNode) (address : ℕ) (node : ArenaNode) :
    nextOf (pages.set address node) address = node.next :=
  nextOf_of_get? (OrderedMap.get?_set_self _ _ _)

theorem nextOf_set_ne {address other : ℕ} (h : other ≠ address) (pages : OrderedMap ℕ ArenaNode)
    (node : ArenaNode) : nextOf (pages.set address node) other = nextOf pages other := by
  rw [nextOf, OrderedMap.get?_set_ne h, nextOf]

theorem nextOf_set_old {pages : OrderedMap ℕ ArenaNode} {address : ℕ} {old node : ArenaNode}
    (hold : pages.get? address = some old) (hnext : node.next = old.next) (other : ℕ) :
    nextOf (pages.set address node) other = nextOf pages other := by
  by_cases h : other = address
  · rw [h, nextOf_set_self, nextOf_of_get? hold, hnext]
  · exact nextOf_set_ne h pages node

theorem allocIn_pages (s : State) (address : ℕ) (node : ArenaNode) (size : ℕ) :
    (allocIn s address node size).pages =
      s.pages.set address { node with arena := (memArenaAlloc node.arena s.memory size).1 } := rfl

theorem allocIn_lists {s : State} {active free : List ℕ} (h : Lists s active free) {address : ℕ}
    {node : ArenaNode} (hnode : s.pages.get? address = some node) (size : ℕ) :
    Lists (allocIn s address node size) active free := by
  have hnext (other : ℕ) : nextOf (allocIn s address node size).pages other = nextOf s.pages other := by
    rw [allocIn_pages]
    exact nextOf_set_old hnode (by rfl) other
  refine ⟨h.inUse.congr fun a _ => hnext a, h.unused.congr fun a _ => hnext a, h.disjoint, ?_,
    h.needed, fun hnone => ?_⟩
  · intro a ha
    rw [allocIn_pages, OrderedMap.mem_keys_set]
    exact Or.inr (h.known a ha)
  · rw [h.started hnone] at hnode
    cases hnode

theorem usePage_get? (s : State) (address : ℕ) (node : ArenaNode) :
    (usePage s address node).pages.get? address = some { node with next := s.arena.nodes } :=
  OrderedMap.get?_set_self _ _ _

theorem usePage_lists {s : State} {active free : List ℕ} {address : ℕ}
    (hactive : Chain (nextOf s.pages) s.arena.nodes active)
    (hfree : Chain (nextOf s.pages) s.arena.freeNodes free) (hdisjoint : active.Disjoint free)
    (hknown : ∀ a ∈ active ++ free, a ∈ s.pages.keys) (hneeded : s.needed = active.length)
    (hnew : address ∉ active ++ free) (node : ArenaNode) :
    Lists (usePage s address node) (address :: active) free := by
  rw [List.mem_append, not_or] at hnew
  have hother {other : ℕ} (h : other ≠ address) :
      nextOf (usePage s address node).pages other = nextOf s.pages other :=
    nextOf_set_ne h _ _
  refine ⟨hactive.push (nextOf_set_self _ _ _) fun a ha => hother (ne_of_mem_of_not_mem ha hnew.1),
    hfree.congr fun a ha => hother (ne_of_mem_of_not_mem ha hnew.2), ?_, fun a ha => ?_, ?_, nofun⟩
  · exact List.disjoint_cons_left.mpr ⟨hnew.2, hdisjoint⟩
  · unfold usePage
    rw [OrderedMap.mem_keys_set]
    rcases List.mem_cons.mp ha with rfl | ha
    · exact Or.inl rfl
    · exact Or.inr (hknown a ha)
  · exact congrArg (· + 1) hneeded

theorem recycled_lists {s : State} {active free : List ℕ} (h : Lists s active free) {address : ℕ}
    {node : ArenaNode} (hfree : s.arena.freeNodes = some address)
    (hnode : s.pages.get? address = some node) :
    ∃ rest, free = address :: rest ∧ Lists
      (usePage { s with arena := { s.arena with freeNodes := node.next } } address node)
      (address :: active) rest := by
  have hchain := h.unused
  rw [hfree] at hchain
  obtain ⟨rest, rfl, hrest⟩ := hchain.of_some
  rw [nextOf_of_get? hnode] at hrest
  have hnodup := List.nodup_cons.mp h.unused.nodup
  have hdisjoint := List.disjoint_cons_right.mp h.disjoint
  have hknown (a : ℕ) (ha : a ∈ active ++ rest) : a ∈ s.pages.keys := by
    refine h.known a ?_
    rcases List.mem_append.mp ha with ha | ha
    · exact List.mem_append_left _ ha
    · exact List.mem_append_right _ (List.mem_cons_of_mem _ ha)
  have hnew : address ∉ active ++ rest := by
    rw [List.mem_append, not_or]
    exact ⟨hdisjoint.1, hnodup.1⟩
  exact ⟨rest, rfl, usePage_lists
    (s := { s with arena := { s.arena with freeNodes := node.next } }) h.inUse hrest hdisjoint.2
    hknown h.needed hnew node⟩

theorem fresh_lists {s : State} {active free : List ℕ} (h : Lists s active free) {mem : ℕ}
    (hnew : mem ∉ s.pages.keys) (node : ArenaNode) :
    Lists (usePage s mem node) (mem :: active) free :=
  usePage_lists h.inUse h.unused h.disjoint h.known h.needed (fun hmem => hnew (h.known mem hmem))
    node

theorem init_pages {s : State} (h : s.pages = ∅) (pageSize mem : ℕ) :
    (pagedArenaInit s pageSize (some mem)).pages =
      (∅ : OrderedMap ℕ ArenaNode).set mem (pagedArenaNewNode mem pageSize) := by
  rw [← h]
  rfl

theorem mem_keys_single {mem page : ℕ} {node : ArenaNode} :
    page ∈ ((∅ : OrderedMap ℕ ArenaNode).set mem node).keys ↔ page = mem := by
  rw [OrderedMap.mem_keys_set]
  simp [OrderedMap.keys, EmptyCollection.emptyCollection]

theorem init_lists {s : State} {active free : List ℕ} (h : Lists s active free) (pageSize : ℕ)
    (granted : Option ℕ) (hnodes : s.arena.nodes = none) :
    Lists (pagedArenaInit s pageSize granted) granted.toList [] := by
  have hempty := h.started hnodes
  have hchain := h.inUse
  rw [hnodes] at hchain
  obtain rfl := hchain.of_none
  cases granted with
  | none => exact ⟨rfl, rfl, List.disjoint_nil_left _, nofun, h.needed, fun _ => hempty⟩
  | some mem =>
    refine ⟨⟨rfl, ?_⟩, rfl, List.disjoint_nil_right _, fun page hpage => ?_, rfl, nofun⟩
    · rw [init_pages hempty]
      exact nextOf_set_self _ _ _
    · rw [init_pages hempty, mem_keys_single]
      simpa using hpage

theorem resetNodes_spec {fuel : ℕ} {pages : OrderedMap ℕ ArenaNode} {head : Option ℕ}
    {as : List ℕ} (h : Chain (nextOf pages) head as) (hfuel : as.length ≤ fuel)
    (hknown : ∀ a ∈ as, a ∈ pages.keys) :
    ∃ after, resetNodes fuel pages head = some after ∧ after.keys = pages.keys ∧
      ∀ a, after.get? a = (pages.get? a).map fun node =>
        if a ∈ as then { node with arena := memArenaReset node.arena } else node := by
  induction as generalizing fuel pages head with
  | nil =>
    cases h
    refine ⟨pages, by cases fuel <;> rfl, rfl, fun a => ?_⟩
    simp
  | cons b as ih =>
    have hnodup := h.nodup
    obtain ⟨rfl, hrest⟩ := h
    obtain ⟨node, hnode⟩ := OrderedMap.mem_keys_iff.mp (hknown b List.mem_cons_self)
    obtain ⟨fuel, rfl⟩ : ∃ n, fuel = n + 1 := ⟨fuel - 1, by rw [List.length_cons] at hfuel; omega⟩
    have hne : pages.get? b ≠ none := by simp [hnode]
    have hkeys := OrderedMap.keys_set_old hne { node with arena := memArenaReset node.arena }
    have hchain : Chain
        (nextOf (pages.set b { node with arena := memArenaReset node.arena })) node.next as := by
      rw [nextOf_of_get? hnode] at hrest
      exact hrest.congr fun a _ => nextOf_set_old hnode (by rfl) a
    obtain ⟨after, hafter, hsame, hget⟩ := ih hchain (Nat.le_of_succ_le_succ hfuel) fun a ha => by
      rw [hkeys]
      exact hknown a (List.mem_cons_of_mem b ha)
    refine ⟨after, ?_, hsame.trans hkeys, fun a => ?_⟩
    · rw [resetNodes, hnode]
      exact hafter
    · rw [hget, OrderedMap.get?_set]
      by_cases hab : a = b
      · simp [hab, hnode, (List.nodup_cons.mp hnodup).1]
      · simp [hab]

theorem Lists.length_le {s : State} {active free : List ℕ} (h : Lists s active free) :
    active.length ≤ s.pages.size := by
  have hsub : active ⊆ s.pages.keys := fun a ha => h.known a (List.mem_append_left _ ha)
  have hle := (List.subperm_of_subset h.inUse.nodup hsub).length_le
  rwa [OrderedMap.keys, List.length_map] at hle

theorem reset_lists {s : State} {active free : List ℕ} (h : Lists s active free)
    {pages : OrderedMap ℕ ArenaNode} {current : ℕ} {node : ArenaNode}
    (hpages : resetNodes s.pages.size s.pages s.arena.nodes = some pages)
    (hnodes : s.arena.nodes = some current) (hnode : pages.get? current = some node) :
    ∃ rest, active = current :: rest ∧
      (pages.set current { node with next := none }).keys = s.pages.keys ∧
      Lists
        { s with
          pages := pages.set current { node with next := none }
          arena := { s.arena with freeNodes := node.next }
          blocks := []
          returned := none
          needed := 1 }
        [current] rest := by
  obtain ⟨after, hafter, hkeys, hget⟩ := resetNodes_spec h.inUse h.length_le
    fun a ha => h.known a (List.mem_append_left _ ha)
  obtain rfl := Option.some_inj.mp (hpages.symm.trans hafter)
  have hchain := h.inUse
  rw [hnodes] at hchain
  obtain ⟨rest, rfl, hrest⟩ := hchain.of_some
  have hnodup := List.nodup_cons.mp h.inUse.nodup
  -- The pointers are those of before, except for the one of the current page.
  have hnext (a : ℕ) : nextOf pages a = nextOf s.pages a := by
    unfold nextOf
    rw [hget, Option.bind_map]
    congr 1
    funext old
    simp only [Function.comp_apply]
    split <;> rfl
  have hset : (pages.set current { node with next := none }).keys = s.pages.keys := by
    rw [OrderedMap.keys_set_old (by simp [hnode]), hkeys]
  refine ⟨rest, rfl, hset, ⟨⟨hnodes, ?_⟩, ?_, ?_, ?_, rfl, ?_⟩⟩
  · exact nextOf_set_self _ _ _
  · rw [← nextOf_of_get? hnode, hnext]
    refine hrest.congr fun a ha => ?_
    rw [nextOf_set_ne (ne_of_mem_of_not_mem ha hnodup.1), hnext]
  · exact List.disjoint_cons_left.mpr ⟨hnodup.1, List.disjoint_nil_left rest⟩
  · intro a ha
    rw [hset]
    exact h.known a (List.mem_append_left _ ha)
  · intro hnone
    rw [hnodes] at hnone
    cases hnone

theorem grant_new {s : State} {pageSize mem : ℕ} (h : CanGrant s pageSize mem) :
    mem ∉ s.pages.keys := by
  intro hmem
  rcases h.2.2 mem hmem with h | h
  · unfold sizeofArenaNode at h
    omega
  · unfold sizeofArenaNode at h
    omega

end SplunkOtel.Native.Arena
