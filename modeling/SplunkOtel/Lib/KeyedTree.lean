import Mathlib.Data.Nat.Notation
import Mathlib.Tactic.Common

/-!
# Trees of maps and sequences

A walk over a tree changes its scalars, each by its role in the node that it is in. Two walks give
the same exactly when they agree on every scalar of the tree.
-/

namespace Lib

/-- What a node is in its parent. -/
inductive Role where
  | root
  | key
  | value
  | index (i : ℕ)
deriving DecidableEq

inductive KeyedTree (S : Type*) where
  | scalar (s : S)
  | map (pairs : List (KeyedTree S × KeyedTree S))
  | seq (items : List (KeyedTree S))
  /-- A reference to a node elsewhere. -/
  | link (source : String)
  /-- The value of a key that has none. -/
  | absent

namespace KeyedTree

variable {S T U : Type*}

mutual

def walk (f : Role → S → T) : Role → KeyedTree S → KeyedTree T
  | role, scalar s => scalar (f role s)
  | _, map pairs => map (walkPairs f pairs)
  | _, seq items => seq (walkItems f 0 items)
  | _, link source => link source
  | _, absent => absent

def walkPairs (f : Role → S → T) :
    List (KeyedTree S × KeyedTree S) → List (KeyedTree T × KeyedTree T)
  | [] => []
  | (k, v) :: pairs => (walk f .key k, walk f .value v) :: walkPairs f pairs

def walkItems (f : Role → S → T) : ℕ → List (KeyedTree S) → List (KeyedTree T)
  | _, [] => []
  | i, item :: items => walk f (.index i) item :: walkItems f (i + 1) items

end

mutual

/-- The scalars of a tree with their roles. -/
def scalars : Role → KeyedTree S → List (Role × S)
  | role, scalar s => [(role, s)]
  | _, map pairs => scalarsOfPairs pairs
  | _, seq items => scalarsOfItems 0 items
  | _, link _ => []
  | _, absent => []

def scalarsOfPairs : List (KeyedTree S × KeyedTree S) → List (Role × S)
  | [] => []
  | (k, v) :: pairs => scalars .key k ++ (scalars .value v ++ scalarsOfPairs pairs)

def scalarsOfItems : ℕ → List (KeyedTree S) → List (Role × S)
  | _, [] => []
  | i, item :: items => scalars (.index i) item ++ scalarsOfItems (i + 1) items

end

/-- The tree without what its scalars are. -/
def shape (tree : KeyedTree S) : KeyedTree Unit := tree.walk (fun _ _ => ()) .root

mutual

theorem walk_eq_iff (f g : Role → S → T) : ∀ (role : Role) (tree : KeyedTree S),
    walk f role tree = walk g role tree ↔ ∀ e ∈ scalars role tree, f e.1 e.2 = g e.1 e.2
  | role, scalar s => by simp [walk, scalars]
  | _, map pairs => by simpa [walk, scalars] using walkPairs_eq_iff f g pairs
  | _, seq items => by simpa [walk, scalars] using walkItems_eq_iff f g 0 items
  | _, link source => by simp [walk, scalars]
  | _, absent => by simp [walk, scalars]

theorem walkPairs_eq_iff (f g : Role → S → T) : ∀ pairs : List (KeyedTree S × KeyedTree S),
    walkPairs f pairs = walkPairs g pairs ↔ ∀ e ∈ scalarsOfPairs pairs, f e.1 e.2 = g e.1 e.2
  | [] => by simp [walkPairs, scalarsOfPairs]
  | (k, v) :: pairs => by
    rw [walkPairs, walkPairs, scalarsOfPairs, List.forall_mem_append, List.forall_mem_append,
      List.cons.injEq, Prod.mk.injEq, walk_eq_iff f g .key k, walk_eq_iff f g .value v,
      walkPairs_eq_iff f g pairs, and_assoc]

theorem walkItems_eq_iff (f g : Role → S → T) : ∀ (i : ℕ) (items : List (KeyedTree S)),
    walkItems f i items = walkItems g i items ↔ ∀ e ∈ scalarsOfItems i items, f e.1 e.2 = g e.1 e.2
  | _, [] => by simp [walkItems, scalarsOfItems]
  | i, item :: items => by
    rw [walkItems, walkItems, scalarsOfItems, List.forall_mem_append, List.cons.injEq,
      walk_eq_iff f g (.index i) item, walkItems_eq_iff f g (i + 1) items]

end

mutual

theorem walk_walk (f : Role → S → T) (g : Role → T → U) : ∀ (role : Role) (tree : KeyedTree S),
    walk g role (walk f role tree) = walk (fun role s => g role (f role s)) role tree
  | role, scalar s => by simp [walk]
  | _, map pairs => by simp [walk, walkPairs_walkPairs f g pairs]
  | _, seq items => by simp [walk, walkItems_walkItems f g 0 items]
  | _, link source => by simp [walk]
  | _, absent => by simp [walk]

theorem walkPairs_walkPairs (f : Role → S → T) (g : Role → T → U) :
    ∀ pairs : List (KeyedTree S × KeyedTree S),
      walkPairs g (walkPairs f pairs) = walkPairs (fun role s => g role (f role s)) pairs
  | [] => by simp [walkPairs]
  | (k, v) :: pairs => by
    rw [walkPairs, walkPairs, walkPairs, walk_walk f g .key k, walk_walk f g .value v,
      walkPairs_walkPairs f g pairs]

theorem walkItems_walkItems (f : Role → S → T) (g : Role → T → U) :
    ∀ (i : ℕ) (items : List (KeyedTree S)),
      walkItems g i (walkItems f i items) = walkItems (fun role s => g role (f role s)) i items
  | _, [] => by simp [walkItems]
  | i, item :: items => by
    rw [walkItems, walkItems, walkItems, walk_walk f g (.index i) item,
      walkItems_walkItems f g (i + 1) items]

end

mutual

theorem scalars_walk (f : Role → S → T) : ∀ (role : Role) (tree : KeyedTree S),
    scalars role (walk f role tree) = (scalars role tree).map fun e => (e.1, f e.1 e.2)
  | role, scalar s => by simp [walk, scalars]
  | _, map pairs => by simpa [walk, scalars] using scalars_walkPairs f pairs
  | _, seq items => by simpa [walk, scalars] using scalars_walkItems f 0 items
  | _, link source => by simp [walk, scalars]
  | _, absent => by simp [walk, scalars]

theorem scalars_walkPairs (f : Role → S → T) : ∀ pairs : List (KeyedTree S × KeyedTree S),
    scalarsOfPairs (walkPairs f pairs) = (scalarsOfPairs pairs).map fun e => (e.1, f e.1 e.2)
  | [] => by simp [walkPairs, scalarsOfPairs]
  | (k, v) :: pairs => by
    rw [walkPairs, scalarsOfPairs, scalarsOfPairs, List.map_append, List.map_append,
      scalars_walk f .key k, scalars_walk f .value v, scalars_walkPairs f pairs]

theorem scalars_walkItems (f : Role → S → T) : ∀ (i : ℕ) (items : List (KeyedTree S)),
    scalarsOfItems i (walkItems f i items) = (scalarsOfItems i items).map fun e => (e.1, f e.1 e.2)
  | _, [] => by simp [walkItems, scalarsOfItems]
  | i, item :: items => by
    rw [walkItems, scalarsOfItems, scalarsOfItems, List.map_append,
      scalars_walk f (.index i) item, scalars_walkItems f (i + 1) items]

end

theorem shape_walk (f : Role → S → T) (tree : KeyedTree S) :
    (tree.walk f .root).shape = tree.shape := walk_walk f _ .root tree

end KeyedTree

end Lib
