import SplunkOtel.Lib.LinkedList
import SplunkOtel.Native.HeapProfiling
import SplunkOtel.Profiling.Serializer

/-!
# The stacks of a heap profile (`src/profiling/utils.ts`)

The native extension flattens the allocation tree of V8 into a map from node ids to nodes that know
their parent's id. The serializer walks up from the node of each sample, until a parent is missing.
-/

open Lib Lib.LinkedList SplunkOtel.Native SplunkOtel.Native.HeapProfiling

namespace SplunkOtel.Profiling

/-! ## `Serializer.serializeHeapProfile` -/

namespace Serializer

def heapNodeLocation (node : HeapProfileNode) (s : Serializer) : ℕ × Serializer :=
  let (location, s) := s.getLocation node.scriptName node.name node.lineNumber
  (location.id, s)

/-- The loop from `node` on. -/
def heapPath (treeMap : OrderedMap ℕ HeapProfileNode) :
    ℕ → Option HeapProfileNode → Serializer → Option (List ℕ × Serializer)
  | _, none, s => some ([], s)
  | 0, some _, _ => none
  | fuel + 1, some node, s => do
    let (id, s) := heapNodeLocation node s
    let (path, s) ← heapPath treeMap fuel (treeMap.get? node.parentId) s
    return (id :: path, s)

/-- A walk through more nodes than the map has comes back to a node, and does not end. -/
def serializeHeapSamples (treeMap : OrderedMap ℕ HeapProfileNode) (label : List Label) :
    List HeapProfileSample → Serializer → Option (List Sample × Serializer)
  | [], s => some ([], s)
  | sample :: samples, s => do
    let (locationId, s) ← heapPath treeMap treeMap.size (treeMap.get? sample.nodeId) s
    let (rest, s) ← serializeHeapSamples treeMap label samples s
    return ({ locationId, value := [(sample.size : ℤ)], label } :: rest, s)

def serializeHeapProfile (s : Serializer) (profile : HeapProfile) : Option Profile := do
  let (sourceEventTime, s) := s.getIndex "source.event.time"
  let label : List Label := [{ key := sourceEventTime, num := profile.timestamp }]
  let (sample, s) ← serializeHeapSamples profile.treeMap label profile.samples s
  return { sample
           location := s.locationsMap.values
           function := s.functionsMap.values
           stringTable := s.stringTable.serialize }

end Serializer

/-! ## Stacks in the tree -/

/-- The way up from a node to the root, which is left out. -/
inductive Below (root : Node) : Node → List Node → Prop
  | child (node : Node) (h : node ∈ root.children) : Below root node [node]
  | step (node child : Node) (path : List Node) (h : Below root node path)
      (hchild : child ∈ node.children) : Below root child (child :: path)

/-- The stack of the node with this id. That of the root is empty. -/
def StackOf (root : Node) (id : ℕ) (path : List Node) : Prop :=
  id = root.nodeId ∧ path = [] ∨ ∃ node, node.nodeId = id ∧ Below root node path

mutual

/-- A node and all nodes below it, each with the id of its parent. -/
def edges (parentId : ℕ) : Node → List (Node × ℕ)
  | .node name scriptName lineNumber nodeId children =>
    (.node name scriptName lineNumber nodeId children, parentId) :: edgesAll nodeId children

def edgesAll (parentId : ℕ) : List Node → List (Node × ℕ)
  | [] => []
  | node :: nodes => edges parentId node ++ edgesAll parentId nodes

end

/-- The nodes below the root. -/
def edgesBelow (root : Node) : List (Node × ℕ) := edgesAll root.nodeId root.children

/-- Every node has an id of its own. -/
def DistinctIds (root : Node) : Prop :=
  (root.nodeId :: (edgesBelow root).map (·.1.nodeId)).Nodup

instance (root : Node) : Decidable (DistinctIds root) := inferInstanceAs (Decidable (List.Nodup _))

def jsNode (edge : Node × ℕ) : HeapProfileNode :=
  { name := edge.1.name
    scriptName := edge.1.scriptName
    lineNumber := edge.1.lineNumber
    parentId := edge.2 }

def frameLocationOf (node : Node) (s : Serializer) : ℕ × Serializer :=
  let (location, s) := s.getLocation node.scriptName node.name node.lineNumber
  (location.id, s)

/-- A sample with its stack. Each frame has the location that `getLocation` gives it, in order. -/
def stackSample (label : List Label) (stack : HeapProfileSample × List Node) (s : Serializer) :
    Sample × Serializer :=
  let (locationId, s) := mapState frameLocationOf stack.2 s
  ({ locationId, value := [(stack.1.size : ℤ)], label }, s)

/-- What a serializer should make of the samples and their stacks. -/
def serializeWithStacks (profile : HeapProfile) (paths : List (List Node)) : Profile :=
  let (sourceEventTime, s) := Serializer.getIndex {} "source.event.time"
  let label : List Label := [{ key := sourceEventTime, num := profile.timestamp }]
  let (sample, s) := mapState (stackSample label) (profile.samples.zip paths) s
  { sample
    location := s.locationsMap.values
    function := s.functionsMap.values
    stringTable := s.stringTable.serialize }

/-! ## The tree in the map -/

theorem edgesAll_eq (parentId : ℕ) (nodes : List Node) :
    edgesAll parentId nodes = nodes.flatMap (edges parentId) := by
  induction nodes with
  | nil => rfl
  | cons node nodes ih => rw [edgesAll, ih, List.flatMap_cons]

theorem edges_eq (parentId : ℕ) (node : Node) :
    edges parentId node = (node, parentId) :: edgesBelow node := by
  rcases node with ⟨_, _, _, _, _⟩
  rfl

def entryOf (edge : Node × ℕ) : ℕ × HeapProfileNode := (edge.1.nodeId, jsNode edge)

/-- The edges of the trees on the stack. -/
def edgesOf (stack : List (Node × ℕ)) : List (Node × ℕ) := stack.flatMap fun e => edges e.2 e.1

theorem edgesOf_cons (node : Node) (parentId : ℕ) (stack : List (Node × ℕ)) :
    edgesOf ((node, parentId) :: stack) = (node, parentId) :: (edgesBelow node ++ edgesOf stack) := by
  rw [edgesOf, List.flatMap_cons, edges_eq, List.cons_append, edgesOf]

theorem edgesOf_append (before after : List (Node × ℕ)) :
    edgesOf (before ++ after) = edgesOf before ++ edgesOf after := List.flatMap_append

theorem edgesOf_children (node : Node) :
    (edgesOf (node.children.map (·, node.nodeId)).reverse).Perm (edgesBelow node) := by
  have hchildren : edgesOf (node.children.map (·, node.nodeId)) = edgesBelow node := by
    rw [edgesOf, edgesBelow, edgesAll_eq, List.flatMap_map]
  rw [← hchildren]
  exact (List.reverse_perm _).flatMap_right _

theorem walk_perm (stack : List (Node × ℕ)) (jsNodeTree : OrderedMap ℕ HeapProfileNode)
    (hnodup : (jsNodeTree.keys ++ (edgesOf stack).map (·.1.nodeId)).Nodup) :
    (walk stack jsNodeTree).entries.Perm (jsNodeTree.entries ++ (edgesOf stack).map entryOf) := by
  induction stack, jsNodeTree using walk.induct with
  | case1 jsNodeTree =>
    rw [walk]
    simp [edgesOf]
  | case2 jsNodeTree node parentId stack jsNode' ih =>
    have hnew : node.nodeId ∉ jsNodeTree.keys := by
      rw [edgesOf_cons] at hnodup
      intro hmem
      exact (List.disjoint_of_nodup_append hnodup) hmem List.mem_cons_self
    have hset := OrderedMap.set_new (OrderedMap.get?_eq_none.mpr hnew) jsNode'
    have hkeys : (jsNodeTree.set node.nodeId jsNode').keys = jsNodeTree.keys ++ [node.nodeId] := by
      rw [OrderedMap.keys, hset, List.map_append, OrderedMap.keys]
      rfl
    -- The children take the place of their parent on the stack.
    have hperm : ((node, parentId) ::
        edgesOf ((node.children.map (·, node.nodeId)).reverse ++ stack)).Perm
          (edgesOf ((node, parentId) :: stack)) := by
      rw [edgesOf_cons, edgesOf_append]
      exact ((edgesOf_children node).append_right _).cons _
    have hnext : ((jsNodeTree.set node.nodeId jsNode').keys ++
        (edgesOf ((node.children.map (·, node.nodeId)).reverse ++ stack)).map (·.1.nodeId)).Nodup := by
      rw [hkeys, List.append_assoc]
      exact (((hperm.map (·.1.nodeId)).append_left _).nodup_iff).mpr hnodup
    rw [walk]
    refine (ih hnext).trans ?_
    rw [hset, List.append_assoc]
    exact (hperm.map entryOf).append_left _

/-- **One entry for each node** but the root. -/
theorem treeMap_perm {allocation : AllocationProfile} (h : DistinctIds allocation.root) :
    (treeMap allocation).entries.Perm ((edgesBelow allocation.root).map entryOf) := by
  have hroot := edgesOf_children allocation.root
  have hnodup := (List.nodup_cons.mp h).2
  have hids := ((hroot.map (·.1.nodeId)).nodup_iff).mpr hnodup
  have hwalk := walk_perm (allocation.root.children.map (·, allocation.root.nodeId)).reverse ∅ hids
  exact hwalk.trans (hroot.map entryOf)

theorem get?_treeMap {allocation : AllocationProfile} (h : DistinctIds allocation.root)
    {edge : Node × ℕ} (hedge : edge ∈ edgesBelow allocation.root) :
    (treeMap allocation).get? edge.1.nodeId = some (jsNode edge) := by
  rw [OrderedMap.get?_eq_some, (treeMap_perm h).mem_iff]
  exact List.mem_map_of_mem (f := entryOf) hedge

theorem get?_treeMap_root {allocation : AllocationProfile} (h : DistinctIds allocation.root) :
    (treeMap allocation).get? allocation.root.nodeId = none := by
  rw [OrderedMap.get?_eq_none, OrderedMap.keys, ((treeMap_perm h).map Prod.fst).mem_iff,
    List.map_map]
  exact (List.nodup_cons.mp h).1

/-! ## The way up -/

theorem mem_edges_self (parentId : ℕ) (node : Node) : (node, parentId) ∈ edges parentId node := by
  rw [edges_eq]
  exact List.mem_cons_self

theorem mem_edgesAll_of_mem {parentId : ℕ} {node : Node} {nodes : List Node} (h : node ∈ nodes) :
    (node, parentId) ∈ edgesAll parentId nodes := by
  rw [edgesAll_eq, List.mem_flatMap]
  exact ⟨node, h, mem_edges_self parentId node⟩

mutual

theorem mem_edges_child {node child : Node} {p : ℕ} (hchild : child ∈ node.children) :
    ∀ {q : ℕ} {top : Node}, (node, p) ∈ edges q top → (child, node.nodeId) ∈ edges q top
  | q, .node name scriptName lineNumber nodeId children, h => by
    rcases List.mem_cons.mp h with heq | h
    · cases heq
      refine List.mem_cons_of_mem _ ?_
      exact mem_edgesAll_of_mem hchild
    · exact List.mem_cons_of_mem _ (mem_edgesAll_child hchild h)

theorem mem_edgesAll_child {node child : Node} {p : ℕ} (hchild : child ∈ node.children) :
    ∀ {q : ℕ} {nodes : List Node}, (node, p) ∈ edgesAll q nodes →
      (child, node.nodeId) ∈ edgesAll q nodes
  | _, [], h => by cases h
  | q, top :: nodes, h => by
    rcases List.mem_append.mp h with h | h
    · exact List.mem_append_left _ (mem_edges_child hchild h)
    · exact List.mem_append_right _ (mem_edgesAll_child hchild h)

end

theorem Below.edge {root node : Node} {path : List Node} (h : Below root node path) :
    ∃ rest, path = node :: rest ∧
      (node, (rest.head?.map Node.nodeId).getD root.nodeId) ∈ edgesBelow root := by
  induction h with
  | child node hnode => exact ⟨[], rfl, mem_edgesAll_of_mem hnode⟩
  | step node child path _ hchild ih =>
    obtain ⟨rest, rfl, hedge⟩ := ih
    exact ⟨node :: rest, rfl, mem_edgesAll_child hchild hedge⟩

/-- The parent of an id, where the map has it. -/
def nextUp (treeMap : OrderedMap ℕ HeapProfileNode) (id : ℕ) : Option ℕ :=
  (treeMap.get? id).bind fun node =>
    if (treeMap.get? node.parentId).isSome then some node.parentId else none

section

variable {allocation : AllocationProfile} (h : DistinctIds allocation.root)

include h in
theorem nextUp_edge {edge : Node × ℕ} (hedge : edge ∈ edgesBelow allocation.root) :
    nextUp (treeMap allocation) edge.1.nodeId =
      if ((treeMap allocation).get? edge.2).isSome then some edge.2 else none := by
  rw [nextUp, get?_treeMap h hedge]
  rfl

include h in
theorem Below.chain {node : Node} {path : List Node} (hbelow : Below allocation.root node path) :
    Chain (nextUp (treeMap allocation)) (some node.nodeId) (path.map Node.nodeId) := by
  induction hbelow with
  | child node hnode =>
    refine ⟨rfl, ?_⟩
    change nextUp (treeMap allocation) node.nodeId = none
    rw [nextUp_edge h (mem_edgesAll_of_mem hnode), get?_treeMap_root h]
    rfl
  | step node child path hbelow hchild ih =>
    obtain ⟨rest, rfl, hedge⟩ := hbelow.edge
    refine ⟨rfl, ?_⟩
    rw [nextUp_edge h (mem_edgesAll_child hchild hedge), get?_treeMap h hedge]
    exact ih

include h in
theorem Below.length_le {node : Node} {path : List Node} (hbelow : Below allocation.root node path) :
    path.length ≤ (treeMap allocation).size := by
  have hnodup := (hbelow.chain h).nodup
  have hsub : path.map Node.nodeId ⊆ (treeMap allocation).keys := by
    clear hnodup
    induction hbelow with
    | child node hnode =>
      intro id hid
      rw [List.map_singleton, List.mem_singleton] at hid
      rw [hid]
      exact OrderedMap.mem_keys_of_get? (get?_treeMap h (mem_edgesAll_of_mem hnode))
    | step node child path hbelow hchild ih =>
      obtain ⟨rest, rfl, hedge⟩ := hbelow.edge
      intro id hid
      rcases List.mem_cons.mp hid with rfl | hid
      · exact OrderedMap.mem_keys_of_get? (get?_treeMap h (mem_edgesAll_child hchild hedge))
      · exact ih hid
  have hle := (List.subperm_of_subset hnodup hsub).length_le
  rwa [List.length_map, OrderedMap.keys, List.length_map] at hle

include h in
theorem heapPath_eq {node : Node} {path : List Node} (hbelow : Below allocation.root node path)
    {fuel : ℕ} (hfuel : path.length ≤ fuel) (s : Serializer) :
    Serializer.heapPath (treeMap allocation) fuel ((treeMap allocation).get? node.nodeId) s =
      some (mapState frameLocationOf path s) := by
  induction hbelow generalizing fuel s with
  | child node hnode =>
    obtain ⟨fuel, rfl⟩ : ∃ n, fuel = n + 1 := ⟨fuel - 1, by rw [List.length_singleton] at hfuel; omega⟩
    rw [get?_treeMap h (mem_edgesAll_of_mem hnode), Serializer.heapPath]
    change ((Serializer.heapPath (treeMap allocation) fuel
      ((treeMap allocation).get? allocation.root.nodeId) (frameLocationOf node s).2).bind _) = _
    rw [get?_treeMap_root h]
    cases fuel <;> rfl
  | step node child path hbelow hchild ih =>
    obtain ⟨rest, rfl, hedge⟩ := hbelow.edge
    obtain ⟨fuel, rfl⟩ : ∃ n, fuel = n + 1 := ⟨fuel - 1, by rw [List.length_cons] at hfuel; omega⟩
    rw [get?_treeMap h (mem_edgesAll_child hchild hedge), Serializer.heapPath]
    change ((Serializer.heapPath (treeMap allocation) fuel ((treeMap allocation).get? node.nodeId)
      (frameLocationOf child s).2).bind _) = _
    rw [ih (Nat.le_of_succ_le_succ hfuel)]
    rfl

include h in
theorem heapPath_stack {id : ℕ} {path : List Node} (hstack : StackOf allocation.root id path)
    (s : Serializer) :
    Serializer.heapPath (treeMap allocation) (treeMap allocation).size
      ((treeMap allocation).get? id) s = some (mapState frameLocationOf path s) := by
  rcases hstack with ⟨rfl, rfl⟩ | ⟨node, rfl, hbelow⟩
  · rw [get?_treeMap_root h]
    cases (treeMap allocation).size <;> rfl
  · exact heapPath_eq h hbelow (hbelow.length_le h) s

include h in
theorem serializeHeapSamples_eq (label : List Label) {samples : List HeapProfileSample}
    {paths : List (List Node)}
    (hpaths : List.Forall₂ (fun sample path => StackOf allocation.root sample.nodeId path) samples paths)
    (s : Serializer) :
    Serializer.serializeHeapSamples (treeMap allocation) label samples s =
      some (mapState (stackSample label) (samples.zip paths) s) := by
  induction hpaths generalizing s with
  | nil => rfl
  | cons hstack _ ih =>
    rw [Serializer.serializeHeapSamples, heapPath_stack h hstack]
    change (Serializer.serializeHeapSamples (treeMap allocation) label _ _).bind _ = _
    rw [ih]
    rfl

end

/-! ## Every node has a stack -/

theorem sizeOf_child {node child : Node} (h : child ∈ node.children) :
    sizeOf child < sizeOf node := by
  cases node with
  | node name scriptName lineNumber nodeId children =>
    have hsize : sizeOf child < sizeOf children := List.sizeOf_lt_of_mem h
    simp only [Node.node.sizeOf_spec]
    omega

theorem exists_below {root node : Node} {p q : ℕ} {top : Node} {path : List Node}
    (hbelow : Below root top path) (h : (node, p) ∈ edges q top) : ∃ path, Below root node path := by
  rw [edges_eq, edgesBelow, edgesAll_eq] at h
  rcases List.mem_cons.mp h with heq | h
  · cases heq
    exact ⟨path, hbelow⟩
  · obtain ⟨child, hchild, h⟩ := List.mem_flatMap.mp h
    have hsize := sizeOf_child hchild
    exact exists_below (.step top child path hbelow hchild) h
termination_by sizeOf top

/-- The id is that of the root or of a node below it. -/
def IdOf (root : Node) (id : ℕ) : Prop := id ∈ root.nodeId :: (edgesBelow root).map (·.1.nodeId)

instance (root : Node) (id : ℕ) : Decidable (IdOf root id) := inferInstanceAs (Decidable (id ∈ _))

theorem exists_stack {root : Node} {id : ℕ} (h : IdOf root id) : ∃ path, StackOf root id path := by
  rcases List.mem_cons.mp h with rfl | h
  · exact ⟨[], Or.inl ⟨rfl, rfl⟩⟩
  · obtain ⟨⟨node, p⟩, hedge, rfl⟩ := List.mem_map.mp h
    rw [edgesBelow, edgesAll_eq] at hedge
    obtain ⟨top, htop, hedge⟩ := List.mem_flatMap.mp hedge
    obtain ⟨path, hbelow⟩ := exists_below (.child top htop) hedge
    exact ⟨path, Or.inr ⟨node, rfl, hbelow⟩⟩

/-- **Heap profiles keep the stacks.** The map has one entry for each node but the root, and the
serializer ends and gives each sample the locations of its stack. -/
theorem heap_stacks_kept (allocation : AllocationProfile) (profile : HeapProfile)
    (hflat : profile.treeMap = treeMap allocation) (hids : DistinctIds allocation.root)
    (hsamples : ∀ sample ∈ profile.samples, IdOf allocation.root sample.nodeId) :
    profile.treeMap.entries.Perm ((edgesBelow allocation.root).map entryOf) ∧
      ∃ paths, List.Forall₂ (fun sample path => StackOf allocation.root sample.nodeId path)
          profile.samples paths ∧
        Serializer.serializeHeapProfile {} profile = some (serializeWithStacks profile paths) := by
  rw [hflat]
  refine ⟨treeMap_perm hids, ?_⟩
  obtain ⟨paths, hpaths⟩ := exists_forall₂ fun sample hsample => exists_stack (hsamples sample hsample)
  refine ⟨paths, hpaths, ?_⟩
  unfold Serializer.serializeHeapProfile serializeWithStacks
  simp only [hflat, serializeHeapSamples_eq hids _ hpaths]
  rfl

theorem heap_stacks_of_three_nodes :
    let leaf : Node := .node "leaf" "app.js" 3 4 []
    let between : Node := .node "between" "app.js" 2 2 [leaf, .node "other" "lib.js" 0 7 []]
    let allocation : AllocationProfile := ⟨.node "(root)" "" 0 1 [between], []⟩
    let profile : HeapProfile := ⟨treeMap allocation, [⟨4, 16⟩, ⟨1, 24⟩, ⟨2, 64⟩], 1700000000000, 10, 20⟩
    profile.treeMap.entries.Perm ((edgesBelow allocation.root).map entryOf) ∧
      ∃ paths, List.Forall₂ (fun sample path => StackOf allocation.root sample.nodeId path)
          profile.samples paths ∧
        Serializer.serializeHeapProfile {} profile = some (serializeWithStacks profile paths) := by
  intro leaf between allocation profile
  refine heap_stacks_kept allocation profile rfl (by decide) fun sample hsample => ?_
  simp only [profile, List.mem_cons, List.not_mem_nil, or_false] at hsample
  rcases hsample with rfl | rfl | rfl <;> decide

end SplunkOtel.Profiling
