import SplunkOtel.Configuration.Fetch
import SplunkOtel.Js.PlainObject
import SplunkOtel.Lib.Except

/-!
# The resource of the config file (`src/configuration.ts`)
-/

namespace SplunkOtel.Configuration

open Lib Js

/-- The resources of the OpenTelemetry SDK. -/
structure ResourceSdk where
  Resource : Type
  resourceFromAttributes : OrderedMap String Value → Resource
  /-- `resource.merge(other)` -/
  merge : Resource → Resource → Resource
  getRawAttributes : Resource → List (String × Value)
  /-- `resource.attributes[key]` -/
  attributes : Resource → String → Value
  raw_fromAttributes : ∀ a, getRawAttributes (resourceFromAttributes a) = a.entries
  /-- The attributes of the argument win. -/
  lookup_merge : ∀ resource other key, (getRawAttributes (merge resource other)).lookup key =
    ((getRawAttributes other).lookup key).or ((getRawAttributes resource).lookup key)
  attributes_merge : ∀ resource other key text,
    (getRawAttributes other).lookup key = some (.string text) →
      attributes (merge resource other) key = .string text

section Resource

variable (sdk : ResourceSdk) (numberToString : Number → String)

def emptyResource : sdk.Resource := sdk.resourceFromAttributes ∅

def assignment (s : String) : Option (String × Value) :=
  match split (trim s) '=' with
  | [k, v] => some (k, .string v)
  | _ => none

def resourceFromString (resourceString : String) : sdk.Resource :=
  sdk.resourceFromAttributes (objectOf ((split resourceString ',').filterMap assignment))

/-- A value that does not fit its type becomes a text. -/
def valueFromConfigAttributeNameValue (attr : Value) : Value :=
  match attr.property "type", attr.property "value" with
  | .string "string", .string s => .string s
  | .string "int", .number n => .number n
  | .string "double", .number n => .number n
  | .string "bool", .bool b => .bool b
  | .string "string_array", .array items =>
    .array (items.map fun v => .string (v.toText numberToString))
  | .string "double_array", .array items =>
    .array (items.map fun v => .number (v.toNumber numberToString))
  | .string "int_array", .array items =>
    .array (items.map fun v => .number (v.toNumber numberToString))
  | .string "bool_array", .array items => .array (items.map fun v => .bool v.truthy)
  | _, value => .string (value.toText numberToString)

def configAttribute (attr : Value) : Except Thrown (String × Value) := do
  let name ← attr.read "name"
  return (name.toText numberToString, valueFromConfigAttributeNameValue numberToString attr)

def resourceFromConfigAttributes (configAttributes : Value) : Except Thrown sdk.Resource :=
  match configAttributes with
  | .undefined => .ok (emptyResource sdk)
  | .null => .ok (emptyResource sdk)
  | configAttributes => do
    let attributes ← (← configAttributes.items).mapM (configAttribute numberToString)
    return sdk.resourceFromAttributes (objectOf attributes)

/-- `value || ''` where a text is expected. -/
def textOrEmpty (value : Value) : Except Thrown String :=
  match value.or (.string "") with
  | .string s => .ok s
  | _ => .error ⟨"TypeError", "resourceString.split is not a function"⟩

def configGetResource (globalConfiguration : Option Value) : Except Thrown sdk.Resource :=
  match globalConfiguration with
  | none => .ok (emptyResource sdk)
  | some config =>
    match config.property "resource" with
    | .undefined => .ok (emptyResource sdk)
    | .null => .ok (emptyResource sdk)
    | configResource => do
      let attributesListResource :=
        resourceFromString sdk (← textOrEmpty (configResource.property "attributes_list"))
      let attributesResource ←
        resourceFromConfigAttributes sdk numberToString (configResource.property "attributes")
      return sdk.merge attributesListResource attributesResource

/-! ## The attributes of the config resource -/

/-- The attributes that the list or the entries name, in turn. -/
def attributeEntries (configAttributes : Value) : List (String × Value) :=
  match configAttributes with
  | .array items => items.map fun attr =>
    ((attr.property "name").toText numberToString,
      valueFromConfigAttributeNameValue numberToString attr)
  | _ => []

def listEntries (attributesList : Value) : List (String × Value) :=
  match attributesList with
  | .string s => (split s ',').filterMap assignment
  | _ => []

/-- What the config file gives for an attribute: the last entry for it, else the last one in the
list. -/
def configuredAttribute (globalConfiguration : Option Value) (key : String) : Option Value :=
  match globalConfiguration with
  | none => none
  | some config =>
    let configResource := config.property "resource"
    ((attributeEntries numberToString (configResource.property "attributes")).reverse.lookup key).or
      ((listEntries (configResource.property "attributes_list")).reverse.lookup key)

omit numberToString in
theorem lookup_emptyResource (key : String) :
    (sdk.getRawAttributes (emptyResource sdk)).lookup key = none := by
  unfold emptyResource
  rw [sdk.raw_fromAttributes]
  rfl

omit numberToString in
theorem lookup_fromAttributes (entries : List (String × Value)) (key : String) :
    (sdk.getRawAttributes (sdk.resourceFromAttributes (OrderedMap.ofEntries entries))).lookup key =
      entries.reverse.lookup key := by
  rw [sdk.raw_fromAttributes, OrderedMap.lookup_entries, OrderedMap.get?_ofEntries]

omit numberToString in
theorem lookup_fromObject (entries : List (String × Value)) (key : String) :
    (sdk.getRawAttributes (sdk.resourceFromAttributes (objectOf entries))).lookup key =
      if key = "__proto__" then none else entries.reverse.lookup key := by
  rw [sdk.raw_fromAttributes, OrderedMap.lookup_entries, get?_objectOf]

theorem mapM_configAttribute {items : List Value} {attributes : List (String × Value)}
    (h : items.mapM (configAttribute numberToString) = .ok attributes) :
    attributes = attributeEntries numberToString (.array items) := by
  induction items generalizing attributes with
  | nil =>
    cases h
    rfl
  | cons attr items ih =>
    rw [List.mapM_cons, bind_eq_ok] at h
    obtain ⟨e, he, h⟩ := h
    obtain ⟨rest, hrest, h⟩ := bind_eq_ok.mp h
    cases h
    obtain ⟨name, hname, he⟩ := bind_eq_ok.mp he
    cases he
    have hread : name = attr.property "name" := by
      cases attr <;> cases hname <;> rfl
    rw [hread, ih hrest]
    rfl

theorem mapM_characters (cs : List Char) {attributes : List (String × Value)}
    (h : (cs.map fun c => Value.string (String.singleton c)).mapM (configAttribute numberToString) =
      .ok attributes) {key : String} (hkey : key ≠ "undefined") :
    attributes.reverse.lookup key = none := by
  have hentries := mapM_configAttribute numberToString h
  rw [hentries, attributeEntries, List.map_map, ← List.map_reverse]
  induction cs.reverse with
  | nil => rfl
  | cons c cs ih =>
    rw [List.map_cons, List.lookup_cons]
    have hne : (key == "undefined") = false := beq_eq_false_iff_ne.mpr hkey
    simp only [Function.comp_apply, Value.property, Value.toText, hne]
    exact ih

theorem lookup_resourceFromConfigAttributes {configAttributes : Value} {resource : sdk.Resource}
    (h : resourceFromConfigAttributes sdk numberToString configAttributes = .ok resource)
    {key : String} (hkey : key ≠ "undefined") (hproto : key ≠ "__proto__") :
    (sdk.getRawAttributes resource).lookup key =
      (attributeEntries numberToString configAttributes).reverse.lookup key := by
  unfold resourceFromConfigAttributes at h
  cases configAttributes with
  | undefined =>
    cases h
    exact lookup_emptyResource sdk key
  | null =>
    cases h
    exact lookup_emptyResource sdk key
  | array items =>
    obtain ⟨items', hitems, hloop⟩ := bind_eq_ok.mp h
    obtain ⟨attributes, hattributes, hresource⟩ := bind_eq_ok.mp hloop
    cases hresource
    cases hitems
    rw [lookup_fromObject, if_neg hproto, mapM_configAttribute numberToString hattributes]
  | string s =>
    obtain ⟨items', hitems, hloop⟩ := bind_eq_ok.mp h
    obtain ⟨attributes, hattributes, hresource⟩ := bind_eq_ok.mp hloop
    cases hresource
    cases hitems
    rw [lookup_fromObject, if_neg hproto,
      mapM_characters numberToString s.toList hattributes hkey]
    rfl
  | bool b => cases h
  | number n => cases h
  | object properties => cases h

theorem textOrEmpty_eq_ok {value : Value} {text : String} (h : textOrEmpty value = .ok text) :
    value = .string text ∨ text = "" ∧ ∀ s, value = .string s → s = "" := by
  unfold textOrEmpty Value.or at h
  by_cases htruthy : value.truthy = true
  · rw [if_pos htruthy] at h
    split at h
    · cases h
      exact Or.inl rfl
    · cases h
  · rw [if_neg htruthy] at h
    cases h
    refine Or.inr ⟨rfl, ?_⟩
    rintro s rfl
    simpa [Value.truthy] using htruthy

omit numberToString in
theorem lookup_textOrEmpty {attributesList : Value} {text : String}
    (h : textOrEmpty attributesList = .ok text) {key : String} (hproto : key ≠ "__proto__") :
    (sdk.getRawAttributes (resourceFromString sdk text)).lookup key =
      (listEntries attributesList).reverse.lookup key := by
  unfold resourceFromString
  rw [lookup_fromObject, if_neg hproto]
  rcases textOrEmpty_eq_ok h with rfl | ⟨rfl, hlist⟩
  · rfl
  · have hempty : (split "" ',').filterMap assignment = [] := by decide
    unfold listEntries
    rw [hempty]
    split
    · rename_i s
      rw [hlist s rfl, hempty]
    · rfl

theorem lookup_configGetResource {globalConfiguration : Option Value} {resource : sdk.Resource}
    (h : configGetResource sdk numberToString globalConfiguration = .ok resource) {key : String}
    (hkey : key ≠ "undefined") (hproto : key ≠ "__proto__") :
    (sdk.getRawAttributes resource).lookup key =
      configuredAttribute numberToString globalConfiguration key := by
  unfold configGetResource at h
  unfold configuredAttribute
  cases globalConfiguration with
  | none =>
    cases h
    exact lookup_emptyResource sdk key
  | some config =>
    simp only at h ⊢
    split at h
    · rename_i hresource
      cases h
      rw [hresource]
      exact lookup_emptyResource sdk key
    · rename_i hresource
      cases h
      rw [hresource]
      exact lookup_emptyResource sdk key
    · obtain ⟨text, htext, h⟩ := bind_eq_ok.mp h
      obtain ⟨attributes, hattributes, h⟩ := bind_eq_ok.mp h
      cases h
      rw [sdk.lookup_merge, lookup_textOrEmpty sdk htext hproto,
        lookup_resourceFromConfigAttributes sdk numberToString hattributes hkey hproto]

end Resource

/-! ## Resources as lists -/

/-- The first entry of a key counts. -/
def listResources : ResourceSdk where
  Resource := List (String × Value)
  resourceFromAttributes a := a.entries
  merge resource other := other ++ resource
  getRawAttributes := id
  attributes resource key := (resource.lookup key).getD .undefined
  raw_fromAttributes _ := rfl
  lookup_merge _ _ _ := List.lookup_append
  attributes_merge resource other key text h := by
    have hfirst : other.lookup key = some (.string text) := h
    rw [List.lookup_append, hfirst]
    rfl

end SplunkOtel.Configuration
