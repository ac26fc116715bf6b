import SplunkOtel.Generator.TopologicalSort
import SplunkOtel.Js.TypeScript

/-!
# The types of properties (`packages/jsonschema-to-typescript/src/generate.ts`)

`resolveType` gives the text of the type for a schema. What the type `Schema` of the source has no
place for is read as if it was not there.
-/

open SplunkOtel.Js SplunkOtel.Js.TypeScript

namespace SplunkOtel.Generator

/-! ## Reading a schema -/

/-- The text of `$ref`, which counts when it is not empty. -/
def refOf (propSchema : Value) : Option String :=
  match propSchema.property "$ref" with
  | .string ref => if ref = "" then none else some ref
  | _ => none

/-- The texts of an `enum`. -/
def texts : Value → List String
  | .array items => items.filterMap fun
    | .string s => some s
    | _ => none
  | _ => []

/-- `Object.entries(value ?? {})` -/
def entries : Value → List (String × Value)
  | .object properties => properties
  | _ => []

/-- `Array.isArray(type) && type.includes(name)` -/
def typeIncludes (type : Value) (name : String) : Bool :=
  match type with
  | .array types => types.any (·.isString name)
  | _ => false

/-- `minItems && minItems > 0` -/
def hasMinItems (propSchema : Value) : Bool :=
  (propSchema.property "minItems").asNumber.any Number.positive

theorem sizeOf_property {value : Value} {name : String}
    (h : (value.property name).isUndefined = false) : sizeOf (value.property name) < sizeOf value := by
  unfold Value.property at h ⊢
  split
  · rename_i properties
    cases hfind : properties.reverse.find? (·.1 = name) with
    | none => simp [hfind, Value.isUndefined] at h
    | some entry =>
      have hmem := List.mem_reverse.mp (List.mem_of_find?_eq_some hfind)
      have hsize := List.sizeOf_lt_of_mem hmem
      obtain ⟨key, child⟩ := entry
      simp only [Option.map_some, Option.getD_some, Value.object.sizeOf_spec, Prod.mk.sizeOf_spec]
        at hsize ⊢
      omega
  · simp [Value.isUndefined] at h

theorem isUndefined_of_truthy {value : Value} (h : value.truthy = true) :
    value.isUndefined = false := by
  cases value with
  | undefined => cases h
  | _ => rfl

theorem isUndefined_of_isObject {value : Value} (h : value.isObject = true) :
    value.isUndefined = false := by
  cases value with
  | undefined => cases h
  | _ => rfl

/-! ## The text of a type -/

def mapPrimitive (type : Value) : String :=
  if type.isString "string" then "string"
  else if type.isString "integer" ∨ type.isString "number" then "number"
  else if type.isString "boolean" then "boolean"
  else if type.isString "null" then "null"
  else if type.isString "object" then "object"
  else "unknown"

/-- `propSchema.enum.map((v) => quoted v).join(' | ')` -/
def unionOf (members : List String) : String :=
  join (members.map fun v => "'" ++ v ++ "'") " | "

def wrapNullable (typeStr : String) (schemaType : Value) : String :=
  if typeIncludes schemaType "null" then "(" ++ typeStr ++ ") | null" else typeStr

def orNull (isNullable : Bool) (type : String) : String :=
  if isNullable then type ++ " | null" else type

def nonNull (types : List Value) : List Value := types.filter fun t => !t.isString "null"

def resolveType (propSchema : Value) : String :=
  match refOf propSchema with
  | some ref => refName ref
  | none =>
    let type := propSchema.property "type"
    let additionalProperties := propSchema.property "additionalProperties"
    if (propSchema.property "enum").truthy then
      wrapNullable (unionOf (texts (propSchema.property "enum"))) type
    else match type with
      | .array types =>
        let isNullable := types.any (·.isString "null")
        let baseType := match nonNull types with
          | [t] => mapPrimitive t
          | _ => "unknown"
        if (nonNull types).head?.any (·.isString "object") ∧
            ¬ (propSchema.property "properties").truthy then
          if additionalProperties.isTrue then orNull isNullable "Record<string, unknown>"
          else if _h : (propSchema.property "additionalProperties").truthy then
            orNull isNullable
              ("Record<string, " ++ resolveType (propSchema.property "additionalProperties") ++ ">")
          else orNull isNullable "object"
        else orNull isNullable baseType
      | type =>
        if type.isString "array" then
          let itemType := if _h : (propSchema.property "items").truthy then
            resolveType (propSchema.property "items") else "unknown"
          if hasMinItems propSchema then "[" ++ itemType ++ ", ..." ++ itemType ++ "[]]"
          else itemType ++ "[]"
        else if type.isString "object" then
          if additionalProperties.isTrue ∧ ¬ (propSchema.property "properties").truthy then
            "Record<string, unknown>"
          else if _h : (propSchema.property "additionalProperties").isObject ∧
              ¬ (propSchema.property "properties").truthy then
            "Record<string, " ++ resolveType (propSchema.property "additionalProperties") ++ ">"
          else "object"
        else mapPrimitive type
termination_by sizeOf propSchema
decreasing_by
  · exact sizeOf_property (isUndefined_of_truthy _h)
  · exact sizeOf_property (isUndefined_of_truthy _h)
  · exact sizeOf_property (isUndefined_of_isObject _h.1)

/-! ## The type that is meant -/

def primitive (type : Value) : Ty :=
  if type.isString "string" then .string
  else if type.isString "integer" ∨ type.isString "number" then .number
  else if type.isString "boolean" then .boolean
  else if type.isString "null" then .null
  else if type.isString "object" then .object
  else .unknown

def literals : List String → Ty
  | [] => .never
  | [s] => .literal s
  | s :: members => .union (.literal s) (literals members)

def optional (isNullable : Bool) (t : Ty) : Ty := if isNullable then .union t .null else t

def typeOf (propSchema : Value) : Ty :=
  match refOf propSchema with
  | some ref => .reference (refName ref)
  | none =>
    let type := propSchema.property "type"
    let additionalProperties := propSchema.property "additionalProperties"
    if (propSchema.property "enum").truthy then
      optional (typeIncludes type "null") (literals (texts (propSchema.property "enum")))
    else match type with
      | .array types =>
        let isNullable := types.any (·.isString "null")
        if (nonNull types).head?.any (·.isString "object") ∧
            ¬ (propSchema.property "properties").truthy then
          if additionalProperties.isTrue then optional isNullable (.record .unknown)
          else if _h : (propSchema.property "additionalProperties").truthy then
            optional isNullable (.record (typeOf (propSchema.property "additionalProperties")))
          else optional isNullable .object
        else optional isNullable (match nonNull types with
          | [t] => primitive t
          | _ => .unknown)
      | type =>
        if type.isString "array" then
          let itemType := if _h : (propSchema.property "items").truthy then
            typeOf (propSchema.property "items") else .unknown
          if hasMinItems propSchema then .nonEmpty itemType itemType else .array itemType
        else if type.isString "object" then
          if additionalProperties.isTrue ∧ ¬ (propSchema.property "properties").truthy then
            .record .unknown
          else if _h : (propSchema.property "additionalProperties").isObject ∧
              ¬ (propSchema.property "properties").truthy then
            .record (typeOf (propSchema.property "additionalProperties"))
          else .object
        else primitive type
termination_by sizeOf propSchema
decreasing_by
  · exact sizeOf_property (isUndefined_of_truthy _h)
  · exact sizeOf_property (isUndefined_of_truthy _h)
  · exact sizeOf_property (isUndefined_of_isObject _h.1)

/-! ## The text reads as the type -/

def level : Ty → Level
  | .union _ _ => .union
  | _ => .operand

/-- `t | u`, where `t` may be a union itself. -/
def joined : Ty → Ty → Ty
  | .union t u, v => .union t (joined u v)
  | t, v => .union t v

/-- The text reads as the type, also in front of a bar. -/
def Spells (text : String) (t : Ty) : Prop :=
  Reads (level t) text.toList t ∧ ∀ ds u, Reads .union ds u →
    Reads .union (text.toList ++ " | ".toList ++ ds) (joined t u)

/-- A list of texts that can stand between quotes. -/
def PlainEnum (enum : Value) : Prop :=
  ∃ items, enum = .array items ∧ items ≠ [] ∧
    ∀ item ∈ items, ∃ s, item = .string s ∧ ∀ c ∈ s.toList, literalChar c = true

/-- The references name definitions, no item of an array has a type that needs parentheses, and
where a list of types begins with objects that have no named properties, there is nothing else in
it besides null. -/
inductive Supported (names : List String) : Value → Prop
  | intro {schema : Value}
    (href : ∀ ref, refOf schema = some ref →
      ∃ name ∈ names, ref = "#/$defs/" ++ name ∧ IsTypeName name)
    (henum : (schema.property "enum").truthy = true → PlainEnum (schema.property "enum"))
    (hobject : ∀ types, schema.property "type" = .array types →
      (nonNull types).head?.any (·.isString "object") = true →
        ∀ t ∈ types, t.isString "object" = true ∨ t.isString "null" = true)
    (hitems : (schema.property "items").truthy = true → Supported names (schema.property "items"))
    (hoperand : (schema.property "items").truthy = true →
      level (typeOf (schema.property "items")) = .operand)
    (hadditional : (schema.property "additionalProperties").truthy = true →
      (schema.property "additionalProperties").isTrue = false →
        Supported names (schema.property "additionalProperties")) :
    Supported names schema

section

variable {names : List String} {schema : Value}

theorem Supported.items (h : Supported names schema)
    (hit : (schema.property "items").truthy = true) : Supported names (schema.property "items") := by
  cases h with
  | intro _ _ _ hitems _ _ => exact hitems hit

theorem Supported.additional (h : Supported names schema)
    (hadd : (schema.property "additionalProperties").truthy = true)
    (htrue : (schema.property "additionalProperties").isTrue = false) :
    Supported names (schema.property "additionalProperties") := by
  cases h with
  | intro _ _ _ _ _ hadditional => exact hadditional hadd htrue

end

theorem Spells.reads {text : String} {t : Ty} (h : Spells text t) : Reads .union text.toList t := by
  cases hlevel : level t with
  | operand => exact .operand (hlevel ▸ h.1)
  | union => exact hlevel ▸ h.1

theorem spells_operand {text : String} {t : Ty} (h : Reads .operand text.toList t)
    (hlevel : level t = .operand) : Spells text t := by
  refine ⟨hlevel ▸ h, fun ds u hu => ?_⟩
  have hjoined : joined t u = .union t u := by
    cases t with
    | union _ _ => cases hlevel
    | _ => rfl
  rw [hjoined]
  exact h.union hu

theorem spells_union {left right : String} {t u : Ty} (h : Reads .operand left.toList t)
    (hright : Spells right u) : Spells (left ++ " | " ++ right) (.union t u) := by
  rw [Spells, String.toList_append, String.toList_append]
  refine ⟨h.union hright.reads, fun ds v hv => ?_⟩
  have hrest := h.union (hright.2 ds v hv)
  simpa only [List.append_assoc, joined] using hrest

theorem spells_mapPrimitive (type : Value) : Spells (mapPrimitive type) (primitive type) := by
  unfold mapPrimitive primitive
  split_ifs <;> exact spells_operand (.keyword (by decide)) rfl

theorem spells_null : Spells "null" .null := spells_operand (.keyword (by decide)) rfl

theorem spells_unknown : Spells "unknown" .unknown := spells_operand (.keyword (by decide)) rfl

theorem spells_orNull {text : String} {t : Ty} (h : Spells text t) (hlevel : level t = .operand)
    (isNullable : Bool) : Spells (orNull isNullable text) (optional isNullable t) := by
  cases isNullable with
  | false => exact h
  | true =>
    have htext : text ++ " | null" = text ++ " | " ++ "null" := by
      rw [String.append_assoc]
      rfl
    rw [orNull, optional, if_pos rfl, if_pos rfl, htext]
    exact spells_union (hlevel ▸ h.1) spells_null

theorem spells_unionOf {members : List String} (hne : members ≠ [])
    (h : ∀ s ∈ members, ∀ c ∈ s.toList, literalChar c = true) :
    Spells (unionOf members) (literals members) := by
  have hquoted (s : String) (hs : ∀ c ∈ s.toList, literalChar c = true) :
      Reads .operand ("'" ++ s ++ "'").toList (.literal s) := by
    rw [String.toList_append, String.toList_append]
    exact .literal hs
  induction members with
  | nil => exact absurd rfl hne
  | cons s members ih =>
    have hs := hquoted s (h s List.mem_cons_self)
    cases members with
    | nil => exact spells_operand hs rfl
    | cons s' members =>
      have hrest := ih (List.cons_ne_nil _ _) fun s hs => h s (List.mem_cons_of_mem _ hs)
      have htext : unionOf (s :: s' :: members) =
          "'" ++ s ++ "'" ++ " | " ++ unionOf (s' :: members) := by
        simp only [unionOf, join, List.map_cons, String.intercalate_cons_cons]
      rw [htext]
      exact spells_union hs hrest

theorem spells_wrapNullable {text : String} {t : Ty} (h : Spells text t) (schemaType : Value) :
    Spells (wrapNullable text schemaType) (optional (typeIncludes schemaType "null") t) := by
  cases hnull : typeIncludes schemaType "null" with
  | false =>
    rw [wrapNullable, hnull]
    exact h
  | true =>
    have htext : "(" ++ text ++ ") | null" = "(" ++ text ++ ")" ++ " | " ++ "null" := by
      simp only [String.append_assoc]
      rfl
    have hparentheses : Reads .operand ("(" ++ text ++ ")").toList t := by
      rw [String.toList_append, String.toList_append]
      exact .parentheses h.reads
    rw [wrapNullable, hnull, if_pos rfl, htext]
    exact spells_union hparentheses spells_null

theorem spells_record {text : String} {t : Ty} (h : Reads .union text.toList t) :
    Spells ("Record<string, " ++ text ++ ">") (.record t) := by
  refine spells_operand ?_ rfl
  rw [String.toList_append, String.toList_append]
  exact .record h

theorem spells_array {text : String} {t : Ty} (h : Reads .operand text.toList t) :
    Spells (text ++ "[]") (.array t) := by
  refine spells_operand ?_ rfl
  rw [String.toList_append]
  exact .array h

theorem spells_nonEmpty {text : String} {t : Ty} (h : Reads .operand text.toList t) :
    Spells ("[" ++ text ++ ", ..." ++ text ++ "[]]") (.nonEmpty t t) := by
  have hrest : Reads .union (text.toList ++ "[]".toList) (.array t) := .operand (.array h)
  have htext : ("[" ++ text ++ ", ..." ++ text ++ "[]]").toList =
      ['['] ++ text.toList ++ ", ...".toList ++ (text.toList ++ "[]".toList) ++ [']'] := by
    simp
  refine spells_operand ?_ rfl
  rw [htext]
  exact .nonEmpty (.operand h) hrest

theorem truthy_of_isObject {value : Value} (h : value.isObject = true) : value.truthy = true := by
  cases value with
  | array _ => rfl
  | object _ => rfl
  | _ => cases h

theorem isTrue_of_isObject {value : Value} (h : value.isObject = true) : value.isTrue = false := by
  cases value with
  | array _ => rfl
  | object _ => rfl
  | _ => cases h

theorem level_primitive (type : Value) : level (primitive type) = .operand := by
  unfold primitive
  split_ifs <;> rfl

theorem texts_plain {enum : Value} (h : PlainEnum enum) :
    texts enum ≠ [] ∧ ∀ s ∈ texts enum, ∀ c ∈ s.toList, literalChar c = true := by
  obtain ⟨items, rfl, hne, hitems⟩ := h
  refine ⟨?_, fun s hs => ?_⟩
  · obtain ⟨item, items, rfl⟩ := List.exists_cons_of_ne_nil hne
    obtain ⟨s, rfl, -⟩ := hitems item List.mem_cons_self
    exact List.cons_ne_nil s _
  · simp only [texts, List.mem_filterMap] at hs
    obtain ⟨item, hitem, hs⟩ := hs
    obtain ⟨s', rfl, hplain⟩ := hitems item hitem
    cases hs
    exact hplain

theorem names_primitive (type : Value) : (primitive type).names = [] := by
  unfold primitive
  split_ifs <;> rfl

theorem names_literals (members : List String) : (literals members).names = [] := by
  induction members with
  | nil => rfl
  | cons s members ih =>
    cases members with
    | nil => rfl
    | cons s' members => exact ih

theorem names_optional (isNullable : Bool) (t : Ty) : (optional isNullable t).names = t.names := by
  cases isNullable with
  | false => rfl
  | true => exact List.append_nil _

theorem names_joined (t u : Ty) : (joined t u).names = t.names ++ u.names := by
  induction t with
  | union t t' _ ih =>
    rw [joined, Ty.names, Ty.names, ih]
    exact (List.append_assoc _ _ _).symm
  | _ => rfl

theorem names_typeOf {names : List String} {schema : Value} (h : Supported names schema) :
    ∀ name ∈ (typeOf schema).names, name ∈ names := by
  induction h with
  | @intro schema href henum hobject hitems hoperand hadditional ihitems ihadditional =>
    have hnone {t : Ty} (ht : t.names = []) : ∀ name ∈ t.names, name ∈ names := by
      intro name hname
      rw [ht] at hname
      cases hname
    rw [typeOf]
    cases href' : refOf schema with
    | some ref =>
      obtain ⟨name, hname, rfl, -⟩ := href ref href'
      simp only [refName_defs, Ty.names, List.mem_singleton]
      rintro other rfl
      exact hname
    | none =>
      simp only
      by_cases hen : (schema.property "enum").truthy = true
      · rw [if_pos hen, names_optional]
        exact hnone (names_literals _)
      rw [if_neg hen]
      cases schema.property "type" with
      | array types =>
        simp only
        split_ifs with _ htrue hadd
        · rw [names_optional]
          exact hnone rfl
        · rw [names_optional]
          exact ihadditional hadd (by simpa using htrue)
        · rw [names_optional]
          exact hnone rfl
        · rw [names_optional]
          split
          · exact hnone (names_primitive _)
          · exact hnone rfl
      | _ =>
        simp only
        split_ifs with _ _ hit hit _ _ hadd
        · simpa only [Ty.names, List.mem_append, or_self] using ihitems hit
        · exact hnone rfl
        · exact ihitems ‹_›
        · exact hnone rfl
        · exact hnone rfl
        · exact ihadditional (truthy_of_isObject hadd.1) (isTrue_of_isObject hadd.1)
        · exact hnone rfl
        · exact hnone (names_primitive _)

/-- The text of a type reads as the type that is meant. -/
theorem spells_resolveType {names : List String} {schema : Value} (h : Supported names schema) :
    Spells (resolveType schema) (typeOf schema) := by
  induction h with
  | @intro schema href henum hobject hitems hoperand hadditional ihitems ihadditional =>
    have hrecord (hadd : (schema.property "additionalProperties").truthy = true)
        (htrue : (schema.property "additionalProperties").isTrue = false) :=
      spells_record (ihadditional hadd htrue).reads
    have hitem (hit : (schema.property "items").truthy = true) :
        Reads .operand (resolveType (schema.property "items")).toList
          (typeOf (schema.property "items")) := hoperand hit ▸ (ihitems hit).1
    have hopen : Spells "Record<string, unknown>" (.record .unknown) :=
      spells_record spells_unknown.reads
    have hobjects : Spells "object" .object := spells_operand (.keyword (by decide)) rfl
    rw [resolveType, typeOf]
    cases href' : refOf schema with
    | some ref =>
      obtain ⟨name, -, rfl, hname⟩ := href ref href'
      simp only [refName_defs]
      exact spells_operand (.reference hname) rfl
    | none =>
      simp only
      by_cases hen : (schema.property "enum").truthy = true
      · obtain ⟨hne, hplain⟩ := texts_plain (henum hen)
        rw [if_pos hen, if_pos hen]
        exact spells_wrapNullable (spells_unionOf hne hplain) _
      rw [if_neg hen, if_neg hen]
      cases htype : schema.property "type" with
      | array types =>
        simp only
        split
        · by_cases htrue : (schema.property "additionalProperties").isTrue = true
          · rw [if_pos htrue, if_pos htrue]
            exact spells_orNull hopen rfl _
          rw [if_neg htrue, if_neg htrue]
          by_cases hadd : (schema.property "additionalProperties").truthy = true
          · rw [dif_pos hadd, dif_pos hadd]
            exact spells_orNull (hrecord hadd (by simpa using htrue)) rfl _
          · rw [dif_neg hadd, dif_neg hadd]
            exact spells_orNull hobjects rfl _
        · split
          · exact spells_orNull (spells_mapPrimitive _) (level_primitive _) _
          · exact spells_orNull spells_unknown rfl _
      | _ =>
        simp only
        split_ifs with _ _ hit hit _ _ hadd
        · exact spells_nonEmpty (hitem hit)
        · exact spells_nonEmpty spells_unknown.1
        · exact spells_array (hitem ‹_›)
        · exact spells_array spells_unknown.1
        · exact hopen
        · exact hrecord (truthy_of_isObject hadd.1) (isTrue_of_isObject hadd.1)
        · exact hobjects
        · exact spells_mapPrimitive _

end SplunkOtel.Generator
