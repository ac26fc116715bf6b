import SplunkOtel.Js.PlainObject

/-!
# The attributes of a metric view (`src/metrics/index.ts`)

The `attribute_keys` of a view become a processor that builds the attributes of a stream from the
list of included keys, and takes the excluded ones out again.
-/

open Lib

namespace SplunkOtel.Metrics

open Js

structure IncludeExclude where
  included : Option (List String) := none
  excluded : Option (List String) := none

/-- The attributes of a measurement. A property may be `undefined`. -/
abbrev Attributes (V : Type*) := OrderedMap String (Option V)

/-- What is found under a name: an attribute, or a property of `Object.prototype`. -/
inductive Found (V : Type*) where
  | value (v : V)
  | builtIn (name : String)
deriving DecidableEq

variable {V : Type*}

/-- `incoming[name]` -/
def lookUp (incoming : Attributes V) (name : String) : Option (Found V) :=
  match incoming.get? name with
  | some value => value.map .value
  | none => if name ∈ objectPrototype then some (.builtIn name) else none

def process (included excluded : List String) (incoming : Attributes V) :
    OrderedMap String (Found V) :=
  let newAttributes := included.foldl (fun newAttributes key =>
    match lookUp incoming key with
    | some value => assignProperty newAttributes key value
    | none => newAttributes) ∅
  excluded.foldl (fun newAttributes key =>
    match lookUp incoming key with
    | some _ => newAttributes.delete key
    | none => newAttributes) newAttributes

/-- The processor, where the view has a node `attribute_keys`. -/
def toAttributesProcessor (includeExclude : Option IncludeExclude) :
    Option (Attributes V → OrderedMap String (Found V)) :=
  match includeExclude with
  | none => none
  | some includeExclude =>
    some (process (includeExclude.included.getD []) (includeExclude.excluded.getD []))

/-! ## What is proved of a processor -/

/-- The key is not excluded, and is included where there is a list of included keys. -/
def Keeps (keys : IncludeExclude) (key : String) : Prop :=
  key ∉ keys.excluded.getD [] ∧ ∀ included ∈ keys.included, key ∈ included

def ownAttribute (incoming : Attributes V) (key : String) : Option V := (incoming.get? key).join

/-- The processor keeps just these attributes, with their values. -/
def Filters (keys : IncludeExclude) (incoming : Attributes V) : Prop :=
  ∀ processor, toAttributesProcessor (some keys) = some processor → ∀ key,
    (Keeps keys key → (processor incoming).get? key = (ownAttribute incoming key).map .value) ∧
      (¬ Keeps keys key → (processor incoming).get? key = none)

/-- A key that is kept and has the name of a property of `Object.prototype` is there as well, and
`__proto__` is not. -/
def NoBuiltIns (keys : IncludeExclude) (incoming : Attributes V) : Prop :=
  ∀ key ∈ objectPrototype, Keeps keys key →
    if key = "__proto__" then ownAttribute incoming key = none else key ∈ incoming.keys

/-! ## The loops -/

theorem get?_included (incoming : Attributes V) (included : List String)
    (newAttributes : OrderedMap String (Found V)) (key : String) :
    (included.foldl (fun newAttributes key =>
        match lookUp incoming key with
        | some value => assignProperty newAttributes key value
        | none => newAttributes) newAttributes).get? key =
      if key ∈ included ∧ key ≠ "__proto__" then (lookUp incoming key).or (newAttributes.get? key)
      else newAttributes.get? key := by
  induction included generalizing newAttributes with
  | nil => simp
  | cons first included ih =>
    rw [List.foldl_cons, ih]
    by_cases hfirst : key = first
    · subst hfirst
      cases hvalue : lookUp incoming key with
      | none => simp
      | some value =>
        by_cases hproto : key = "__proto__"
        · simp [hproto, assignProperty]
        · simp [hproto, get?_assignProperty]
    · have hsame : (match lookUp incoming first with
          | some value => assignProperty newAttributes first value
          | none => newAttributes).get? key = newAttributes.get? key := by
        split
        · rw [get?_assignProperty, if_neg (by simp [hfirst])]
        · rfl
      rw [hsame]
      simp [hfirst]

theorem get?_excluded (incoming : Attributes V) (excluded : List String)
    (newAttributes : OrderedMap String (Found V)) (key : String) :
    (excluded.foldl (fun newAttributes key =>
        match lookUp incoming key with
        | some _ => newAttributes.delete key
        | none => newAttributes) newAttributes).get? key =
      if key ∈ excluded ∧ (lookUp incoming key).isSome then none else newAttributes.get? key := by
  induction excluded generalizing newAttributes with
  | nil => simp
  | cons first excluded ih =>
    rw [List.foldl_cons, ih]
    by_cases hfirst : key = first
    · subst hfirst
      cases hvalue : lookUp incoming key with
      | none => simp
      | some value => simp [OrderedMap.get?_delete]
    · have hsame : (match lookUp incoming first with
          | some _ => newAttributes.delete first
          | none => newAttributes).get? key = newAttributes.get? key := by
        split
        · rw [OrderedMap.get?_delete, if_neg hfirst]
        · rfl
      rw [hsame]
      simp [hfirst]

theorem get?_process (included excluded : List String) (incoming : Attributes V) (key : String) :
    (process included excluded incoming).get? key =
      if key ∈ included ∧ key ∉ excluded ∧ key ≠ "__proto__" then lookUp incoming key else none := by
  unfold process
  rw [get?_excluded, get?_included]
  cases hvalue : lookUp incoming key with
  | none => simp
  | some value =>
    by_cases hexcluded : key ∈ excluded
    · simp [hexcluded]
    · simp [hexcluded]

theorem lookUp_eq_iff (incoming : Attributes V) (key : String) :
    lookUp incoming key = (ownAttribute incoming key).map .value ↔
      (key ∈ objectPrototype → key ∈ incoming.keys) := by
  unfold lookUp ownAttribute
  cases hvalue : incoming.get? key with
  | none =>
    rw [← not_iff_not, Classical.not_imp, ← OrderedMap.get?_eq_none]
    by_cases hproto : key ∈ objectPrototype
    · simp [hproto, hvalue]
    · simp [hproto]
  | some value =>
    have hkey := OrderedMap.mem_keys_of_get? hvalue
    cases value <;> simp [hkey]

theorem filters_omitted_iff {keys : IncludeExclude} (h : keys.included = none)
    (incoming : Attributes V) :
    Filters keys incoming ↔
      ∀ key, key ∉ keys.excluded.getD [] → ownAttribute incoming key = none := by
  have hkeeps (key : String) : Keeps keys key ↔ key ∉ keys.excluded.getD [] := by simp [Keeps, h]
  have hprocess (key : String) :
      (process [] (keys.excluded.getD []) incoming).get? key = none := by
    rw [get?_process, if_neg (by simp)]
  unfold Filters
  simp only [toAttributesProcessor, h, Option.some.injEq, forall_eq', Option.getD_none, hkeeps,
    hprocess]
  constructor
  · intro hall key hkey
    have hnone := (hall key).1 hkey
    cases hown : ownAttribute incoming key with
    | none => rfl
    | some value =>
      rw [hown] at hnone
      cases hnone
  · intro hall key
    refine ⟨fun hkey => ?_, fun _ => trivial⟩
    rw [hall key hkey]
    rfl

theorem filters_included_iff {keys : IncludeExclude} {included : List String}
    (h : keys.included = some included) (incoming : Attributes V) :
    Filters keys incoming ↔ NoBuiltIns keys incoming := by
  have hkeeps (key : String) : Keeps keys key ↔ key ∈ included ∧ key ∉ keys.excluded.getD [] := by
    simp [Keeps, h, and_comm]
  unfold Filters NoBuiltIns
  simp only [toAttributesProcessor, h, Option.some.injEq, forall_eq', Option.getD_some, get?_process]
  constructor
  · intro hall key hbuiltIn hkey
    have hkept := (hall key).1 hkey
    rw [hkeeps] at hkey
    split
    · rename_i hproto
      rw [if_neg (by simp [hproto])] at hkept
      cases hown : ownAttribute incoming key with
      | none => rfl
      | some value =>
        rw [hown] at hkept
        cases hkept
    · rename_i hproto
      rw [if_pos ⟨hkey.1, hkey.2, hproto⟩, lookUp_eq_iff] at hkept
      exact hkept hbuiltIn
  · intro hall key
    constructor
    · intro hkey
      have hbuiltIn := fun hmem => hall key hmem hkey
      rw [hkeeps] at hkey
      by_cases hproto : key = "__proto__"
      · have hown := hbuiltIn (by rw [hproto]; decide)
        rw [if_pos hproto] at hown
        rw [if_neg (by simp [hproto]), hown]
        rfl
      · rw [if_pos ⟨hkey.1, hkey.2, hproto⟩, lookUp_eq_iff]
        intro hmem
        have hown := hbuiltIn hmem
        rwa [if_neg hproto] at hown
    · intro hkey
      rw [hkeeps, not_and] at hkey
      rw [if_neg]
      rintro ⟨hincluded, hexcluded, _⟩
      exact hkey hincluded hexcluded

/-- **The attributes of a view.** With a list of included keys the processor keeps the right
attributes, built-in names apart; without one it keeps none, and so only where none is to be kept. -/
theorem attributes_filtered_iff (keys : IncludeExclude) (incoming : Attributes V) :
    Filters keys incoming ↔
      (keys.included = none →
        ∀ key, key ∉ keys.excluded.getD [] → ownAttribute incoming key = none) ∧
      (keys.included ≠ none → NoBuiltIns keys incoming) := by
  cases h : keys.included with
  | none => simp [filters_omitted_iff h]
  | some included => simp [filters_included_iff h]

/-- Only `key3` is excluded, and yet `key1` is dropped as well. -/
theorem excluded_only_drops_all : ¬ Filters { excluded := some ["key3"] }
    (OrderedMap.ofEntries [("key1", some "a"), ("key3", some "b")]) := by
  intro h
  have hkept := (h _ rfl "key1").1 ⟨by decide, by simp⟩
  revert hkept
  decide

end SplunkOtel.Metrics
