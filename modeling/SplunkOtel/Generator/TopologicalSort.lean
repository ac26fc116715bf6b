import SplunkOtel.Js.PlainObject
import SplunkOtel.Js.Text
import SplunkOtel.Js.Value
import SplunkOtel.Lib.DepthFirst

/-!
# The order of the generated types (`packages/jsonschema-to-typescript/src/generate.ts`)

`topologicalSort` over the definitions of a schema, in the order of `Object.keys`.
-/

open Lib SplunkOtel.Js Relation

namespace SplunkOtel.Generator

/-- The properties of a schema. -/
abbrev Schema := List (String × Value)

/-! ## References -/

/-- `ref.replace('#/$defs/', '')` -/
def refName (ref : String) : String := removeFirst ref "#/$defs/"

/-- `refs.add(ref)` -/
def addRef (refs : List String) (ref : String) : List String :=
  if ref ∈ refs then refs else refs ++ [ref]

mutual

/-- The loop over `Object.values` and the one over an array are the two functions below. -/
def collectRefs : Value → List String → List String
  | .object properties, refs =>
    collectRefsOfProperties properties
      (match (Value.object properties).property "$ref" with
        | .string ref => addRef refs (refName ref)
        | _ => refs)
  | .array items, refs => collectRefsOfItems items refs
  | _, refs => refs

def collectRefsOfProperties : List (String × Value) → List String → List String
  | [], refs => refs
  | (_, value) :: properties, refs => collectRefsOfProperties properties (collectRefs value refs)

def collectRefsOfItems : List Value → List String → List String
  | [], refs => refs
  | value :: items, refs => collectRefsOfItems items (collectRefs value refs)

end

/-- A reference of the value itself, or of one that it holds. -/
inductive RefersTo : Value → String → Prop where
  | ref {properties : List (String × Value)} {ref : String}
      (h : (Value.object properties).property "$ref" = .string ref) :
      RefersTo (.object properties) (refName ref)
  | property {properties : List (String × Value)} {key name : String} {value : Value}
      (hmem : (key, value) ∈ properties) (h : RefersTo value name) :
      RefersTo (.object properties) name
  | item {items : List Value} {value : Value} {name : String} (hmem : value ∈ items)
      (h : RefersTo value name) : RefersTo (.array items) name

/-! ## The sort -/

/-- `definitions[name]`. What comes from `Object.prototype` has no values: it is a function, or the
prototype itself. -/
def lookup (definitions : OrderedMap String Schema) (name : String) : Option Schema :=
  (definitions.get? name).or (if name ∈ objectPrototype then some [] else none)

/-- The names that `visit` goes on to. -/
def refsOf (definitions : OrderedMap String Schema) (name : String) : List String :=
  match lookup definitions name with
  | none => []
  | some definition =>
    (collectRefs (.object definition) []).filter fun ref => (lookup definitions ref).isSome

/-- `visit` of the source is `DepthFirst.visit`, with the fuel for its recursion. -/
def topologicalSort (fuel : ℕ) (definitions : OrderedMap String Schema) : Option (List String) :=
  DepthFirst.sort (refsOf definitions) fuel definitions.keys

/-! ## What a definition refers to -/

def Refers (definitions : OrderedMap String Schema) (name other : String) : Prop :=
  ∃ definition, definitions.get? name = some definition ∧ RefersTo (.object definition) other

theorem refName_defs (name : String) : refName ("#/$defs/" ++ name) = name :=
  removeFirst_append (by decide) name

theorem mem_addRef {refs : List String} {name ref : String} :
    name ∈ addRef refs ref ↔ name ∈ refs ∨ name = ref := by
  unfold addRef
  split
  · rename_i hmem
    constructor
    · exact Or.inl
    · rintro (h | rfl)
      · exact h
      · exact hmem
  · rw [List.mem_append, List.mem_singleton]

theorem refersTo_object {properties : List (String × Value)} {name : String} :
    RefersTo (.object properties) name ↔
      (∃ ref, (Value.object properties).property "$ref" = .string ref ∧ name = refName ref) ∨
        ∃ entry ∈ properties, RefersTo entry.2 name := by
  constructor
  · intro h
    cases h with
    | ref h => exact Or.inl ⟨_, h, rfl⟩
    | property hmem h => exact Or.inr ⟨_, hmem, h⟩
  · rintro (⟨ref, h, rfl⟩ | ⟨⟨key, value⟩, hmem, h⟩)
    · exact RefersTo.ref h
    · exact RefersTo.property hmem h

theorem refersTo_array {items : List Value} {name : String} :
    RefersTo (.array items) name ↔ ∃ value ∈ items, RefersTo value name := by
  constructor
  · intro h
    cases h with
    | item hmem h => exact ⟨_, hmem, h⟩
  · rintro ⟨value, hmem, h⟩
    exact RefersTo.item hmem h

theorem not_refersTo {value : Value} (h : value.isObject = false) (name : String) :
    ¬ RefersTo value name := by
  intro hrefers
  cases hrefers with
  | ref _ => cases h
  | property _ _ => cases h
  | item _ _ => cases h

mutual

theorem mem_collectRefs (name : String) : ∀ (value : Value) (refs : List String),
    name ∈ collectRefs value refs ↔ name ∈ refs ∨ RefersTo value name
  | .object properties, refs => by
    rw [collectRefs, mem_collectRefsOfProperties name properties, refersTo_object, ← or_assoc]
    refine or_congr_left ?_
    split
    · rename_i ref href
      simp [mem_addRef, href]
    · rename_i hno
      have hnone : ¬ ∃ ref, (Value.object properties).property "$ref" = .string ref ∧
          name = refName ref := fun ⟨ref, href, _⟩ => hno ref href
      simp [hnone]
  | .array items, refs => by
    rw [collectRefs, mem_collectRefsOfItems name items, refersTo_array]
  | .undefined, _ => (or_iff_left (not_refersTo rfl name)).symm
  | .null, _ => (or_iff_left (not_refersTo rfl name)).symm
  | .bool _, _ => (or_iff_left (not_refersTo rfl name)).symm
  | .number _, _ => (or_iff_left (not_refersTo rfl name)).symm
  | .string _, _ => (or_iff_left (not_refersTo rfl name)).symm

theorem mem_collectRefsOfProperties (name : String) :
    ∀ (properties : List (String × Value)) (refs : List String),
      name ∈ collectRefsOfProperties properties refs ↔
        name ∈ refs ∨ ∃ entry ∈ properties, RefersTo entry.2 name
  | [], refs => by simp [collectRefsOfProperties]
  | (key, value) :: properties, refs => by
    rw [collectRefsOfProperties, mem_collectRefsOfProperties name properties,
      mem_collectRefs name value]
    simp [or_assoc]

theorem mem_collectRefsOfItems (name : String) : ∀ (items : List Value) (refs : List String),
    name ∈ collectRefsOfItems items refs ↔ name ∈ refs ∨ ∃ value ∈ items, RefersTo value name
  | [], refs => by simp [collectRefsOfItems]
  | value :: items, refs => by
    rw [collectRefsOfItems, mem_collectRefsOfItems name items, mem_collectRefs name value]
    simp [or_assoc]

end

/-! ## The graph of the search -/

section

variable {definitions : OrderedMap String Schema} {name other : String}

theorem lookup_isSome :
    (lookup definitions name).isSome ↔ name ∈ definitions.keys ∨ name ∈ objectPrototype := by
  unfold lookup
  rw [Option.isSome_or, Bool.or_eq_true, Option.isSome_iff_ne_none, ne_eq,
    OrderedMap.get?_eq_none, not_not]
  refine or_congr_right ?_
  split
  · rename_i h
    exact iff_of_true rfl h
  · rename_i h
    exact iff_of_false Bool.false_ne_true h

theorem Refers.mem_keys (h : Refers definitions name other) : name ∈ definitions.keys := by
  obtain ⟨definition, hget, -⟩ := h
  by_contra hnot
  rw [OrderedMap.get?_eq_none.mpr hnot] at hget
  cases hget

theorem refersTo_lookup_iff :
    (∃ definition, lookup definitions name = some definition ∧ RefersTo (.object definition) other) ↔
      Refers definitions name other := by
  unfold lookup Refers
  cases hget : definitions.get? name with
  | some definition => simp
  | none =>
    refine iff_of_false ?_ (by simp)
    rintro ⟨definition, hdefinition, hrefers⟩
    rw [Option.none_or] at hdefinition
    split at hdefinition
    · cases hdefinition
      rcases refersTo_object.mp hrefers with ⟨ref, href, -⟩ | ⟨entry, hentry, -⟩
      · cases href
      · cases hentry
    · cases hdefinition

theorem mem_refsOf :
    other ∈ refsOf definitions name ↔
      Refers definitions name other ∧ (other ∈ definitions.keys ∨ other ∈ objectPrototype) := by
  rw [← refersTo_lookup_iff, ← lookup_isSome]
  unfold refsOf
  cases hlookup : lookup definitions name with
  | none => simp
  | some definition => simp [mem_collectRefs]

end

/-! ## The sort -/

/-- The references among the definitions. -/
def RefersWithin (definitions : OrderedMap String Schema) (name other : String) : Prop :=
  Refers definitions name other ∧ other ∈ definitions.keys

structure Sorted (definitions : OrderedMap String Schema) (sorted : List String) : Prop where
  nodup : sorted.Nodup
  mem_iff : ∀ name, name ∈ sorted ↔ name ∈ definitions.keys
  ordered : (∀ name, ¬ TransGen (RefersWithin definitions) name name) →
    ∀ before name after, sorted = before ++ name :: after →
      ∀ other, RefersWithin definitions name other → other ∈ before

section

variable {definitions : OrderedMap String Schema}

theorem refersWithin_of_path {name other : String}
    (h : TransGen (fun a b => b ∈ refsOf definitions a) name other)
    (hother : other ∈ definitions.keys) : TransGen (RefersWithin definitions) name other := by
  induction h with
  | single hedge => exact TransGen.single ⟨(mem_refsOf.mp hedge).1, hother⟩
  | tail _ hedge ih =>
    have hrefers := (mem_refsOf.mp hedge).1
    exact (ih hrefers.mem_keys).tail ⟨hrefers, hother⟩

theorem acyclic_refsOf (h : ∀ name, ¬ TransGen (RefersWithin definitions) name name) :
    DepthFirst.Acyclic (refsOf definitions) := by
  intro name hpath
  have hmem : name ∈ definitions.keys := by
    obtain ⟨next, hedge, -⟩ := TransGen.head'_iff.mp hpath
    exact (mem_refsOf.mp hedge).1.mem_keys
  exact h name (refersWithin_of_path hpath hmem)

theorem exists_topologicalSort (definitions : OrderedMap String Schema) :
    ∃ fuel sorted, topologicalSort fuel definitions = some sorted := by
  have hclosed : ∀ name ∈ (definitions.keys ++ objectPrototype).toFinset,
      ∀ other ∈ refsOf definitions name, other ∈ (definitions.keys ++ objectPrototype).toFinset := by
    intro name _ other hedge
    simpa using (mem_refsOf.mp hedge).2
  have hroots : ∀ name ∈ definitions.keys,
      name ∈ (definitions.keys ++ objectPrototype).toFinset := by
    intro name hname
    simp [hname]
  exact ⟨_, DepthFirst.exists_sort hclosed hroots⟩

theorem reached_iff {name : String} :
    DepthFirst.Reached (refsOf definitions) definitions.keys name ↔
      name ∈ definitions.keys ∨
        name ∈ objectPrototype ∧ ∃ a, Refers definitions a name := by
  constructor
  · rintro ⟨root, hroot, hpath⟩
    cases hpath with
    | refl => exact Or.inl hroot
    | tail _ hedge =>
      obtain ⟨hrefers, hname⟩ := mem_refsOf.mp hedge
      exact hname.imp_right fun hinherited => ⟨hinherited, _, hrefers⟩
  · rintro (hname | ⟨hinherited, a, hrefers⟩)
    · exact DepthFirst.reached_root name hname
    · have hedge := mem_refsOf.mpr ⟨hrefers, Or.inr hinherited⟩
      exact ⟨a, hrefers.mem_keys, ReflTransGen.single hedge⟩

end

/-- **The definitions are sorted topologically.** The sort ends and puts out the definitions, each
once and after those that it refers to, just when no definition refers to a name that objects
inherit and that is not defined. -/
theorem topological_sort_iff (definitions : OrderedMap String Schema) :
    ((∃ fuel sorted, topologicalSort fuel definitions = some sorted) ∧
        ∀ fuel sorted, topologicalSort fuel definitions = some sorted →
          Sorted definitions sorted) ↔
      ∀ name other, Refers definitions name other → other ∈ objectPrototype →
        other ∈ definitions.keys := by
  constructor
  · rintro ⟨⟨fuel, sorted, hsort⟩, hsorted⟩ name other hrefers hinherited
    obtain ⟨-, hreached⟩ := DepthFirst.sort_reached hsort
    rw [← (hsorted fuel sorted hsort).mem_iff, hreached, reached_iff]
    exact Or.inr ⟨hinherited, name, hrefers⟩
  · intro hdefined
    refine ⟨exists_topologicalSort definitions, fun fuel sorted hsort => ?_⟩
    obtain ⟨hnodup, hreached⟩ := DepthFirst.sort_reached hsort
    refine ⟨hnodup, fun name => ?_, fun hacyclic before name after heq other hrefers => ?_⟩
    · rw [hreached, reached_iff, or_iff_left_of_imp]
      rintro ⟨hinherited, a, hrefers⟩
      exact hdefined a name hrefers hinherited
    · have htopological := DepthFirst.sort_topological (acyclic_refsOf hacyclic) hsort
      exact htopological before name after heq other (mem_refsOf.mpr ⟨hrefers.1, Or.inl hrefers.2⟩)

/-- A definition that refers to `toString`. -/
def inheritedReference : OrderedMap String Schema where
  entries := [("A", [("$ref", .string "#/$defs/toString")])]
  nodup := List.nodup_singleton _

theorem inherited_name_sorted :
    topologicalSort 2 inheritedReference = some ["toString", "A"] ∧
      ¬ Sorted inheritedReference ["toString", "A"] := by
  refine ⟨by decide +kernel, fun h => ?_⟩
  have hmem := (h.mem_iff "toString").mp List.mem_cons_self
  exact absurd hmem (by decide +kernel)

end SplunkOtel.Generator
