import SplunkOtel.Js.TypeScript

/-!
# Values that are valid for a JSON schema

The keywords that types are made of. Bounds of numbers, patterns and numbers of properties are left
out, so what is proved of the values that are valid here holds of those that a schema admits.
-/

open SplunkOtel.Js.TypeScript

namespace SplunkOtel.Js.JsonSchema

def HasJsonType (name : String) : Value → Prop
  | .undefined => False
  | .null => name = "null"
  | .bool _ => name = "boolean"
  | .number _ => name = "number" ∨ name = "integer"
  | .string _ => name = "string"
  | .array _ => name = "array"
  | .object _ => name = "object"

def TypeAdmits (type value : Value) : Prop :=
  match type with
  | .string name => HasJsonType name value
  | .array types => ∃ name, .string name ∈ types ∧ HasJsonType name value
  | _ => True

theorem eq_null {value : Value} (h : HasJsonType "null" value) : value = .null := by
  cases value with
  | null => rfl
  | _ => simp [HasJsonType] at h

theorem eq_array {value : Value} (h : HasJsonType "array" value) :
    ∃ items, value = .array items := by
  cases value with
  | array items => exact ⟨items, rfl⟩
  | _ => simp [HasJsonType] at h

theorem eq_object {value : Value} (h : HasJsonType "object" value) :
    ∃ fields, value = .object fields := by
  cases value with
  | object fields => exact ⟨fields, rfl⟩
  | _ => simp [HasJsonType] at h

/-- The schema is a reference to this definition. -/
def IsReference (schema : Value) (name : String) : Prop :=
  schema.property "$ref" = .string ("#/$defs/" ++ name)

/-- `also` is asked besides of a value that stands for a definition. -/
inductive Valid (definitions : String → Option Value) (also : Value → Value → Prop) :
    Value → Value → Prop
  | intro {schema value : Value} (hadmits : schema ≠ .bool false)
    (hdefined : ∀ name, IsReference schema name → (definitions name).isSome)
    (href : ∀ name definition, IsReference schema name → definitions name = some definition →
      Valid definitions also definition value)
    (halso : ∀ name definition, IsReference schema name → definitions name = some definition →
      also definition value)
    (htype : TypeAdmits (schema.property "type") value)
    (henum : ∀ members, schema.property "enum" = .array members → value ∈ members)
    (hitems : ∀ items, value = .array items → (schema.property "items").isUndefined = false →
      ∀ item ∈ items, Valid definitions also (schema.property "items") item)
    (hminItems : ∀ items, value = .array items →
      (schema.property "minItems").asNumber.any Number.positive = true → items ≠ [])
    (hrequired : ∀ fields names, value = .object fields →
      schema.property "required" = .array names → ∀ name, .string name ∈ names → name ∈ keys fields)
    (hproperties : ∀ fields named, value = .object fields →
      schema.property "properties" = .object named → ∀ key ∈ keys fields, key ∈ keys named →
        Valid definitions also ((Value.object named).property key)
          ((Value.object fields).property key))
    (hadditional : ∀ fields, value = .object fields →
      (schema.property "additionalProperties").isUndefined = false → ∀ key ∈ keys fields,
        (∀ named, schema.property "properties" = .object named → key ∉ keys named) →
          Valid definitions also (schema.property "additionalProperties")
            ((Value.object fields).property key)) :
    Valid definitions also schema value

end SplunkOtel.Js.JsonSchema
