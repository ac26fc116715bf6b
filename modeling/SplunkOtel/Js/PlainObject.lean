import SplunkOtel.Lib.OrderedMap

/-!
# Plain objects with any keys

An object literal that is filled with keys from outside. A name that it lacks is looked up in
`Object.prototype`, and `__proto__` cannot be assigned as a property of its own.
-/

open Lib

namespace SplunkOtel.Js

/-- The properties of `Object.prototype`. -/
def objectPrototype : List String :=
  ["constructor", "__defineGetter__", "__defineSetter__", "hasOwnProperty", "__lookupGetter__",
    "__lookupSetter__", "isPrototypeOf", "propertyIsEnumerable", "toString", "valueOf", "__proto__",
    "toLocaleString"]

/-- `object[name] = value` -/
def assignProperty {V : Type*} (object : OrderedMap String V) (name : String) (value : V) :
    OrderedMap String V :=
  if name = "__proto__" then object else object.set name value

theorem get?_assignProperty {V : Type*} (object : OrderedMap String V) (name : String) (value : V)
    (other : String) :
    (assignProperty object name value).get? other =
      if other = name ∧ other ≠ "__proto__" then some value else object.get? other := by
  unfold assignProperty
  split
  · rename_i hproto
    rw [if_neg]
    rintro ⟨rfl, hne⟩
    exact hne hproto
  · rename_i hproto
    rw [OrderedMap.get?_set]
    by_cases h : other = name
    · simp [h, hproto]
    · simp [h]

/-- An object that the entries are assigned to in turn. -/
def objectOf {V : Type*} (entries : List (String × V)) : OrderedMap String V :=
  entries.foldl (fun object entry => assignProperty object entry.1 entry.2) ∅

theorem get?_foldl_assign {V : Type*} (entries : List (String × V)) (object : OrderedMap String V)
    (name : String) :
    (entries.foldl (fun object entry => assignProperty object entry.1 entry.2) object).get? name =
      if name = "__proto__" then object.get? name
      else (entries.reverse.lookup name).or (object.get? name) := by
  induction entries generalizing object with
  | nil => simp
  | cons entry entries ih =>
    obtain ⟨other, value⟩ := entry
    rw [List.foldl_cons, ih, List.reverse_cons, List.lookup_append, Option.or_assoc,
      get?_assignProperty, List.lookup_cons]
    by_cases hproto : name = "__proto__"
    · simp [hproto]
    · rw [if_neg hproto, if_neg hproto]
      congr 1
      by_cases h : name = other
      · simp [h, h ▸ hproto]
      · simp [beq_eq_false_iff_ne.mpr h, h]

theorem get?_objectOf {V : Type*} (entries : List (String × V)) (name : String) :
    (objectOf entries).get? name =
      if name = "__proto__" then none else entries.reverse.lookup name := by
  unfold objectOf
  rw [get?_foldl_assign, OrderedMap.get?_empty, Option.or_none]

end SplunkOtel.Js
