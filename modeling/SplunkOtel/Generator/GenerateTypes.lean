import SplunkOtel.Generator.ResolveType

/-!
# The declarations (`packages/jsonschema-to-typescript/src/generate.ts`)

`generateTypes` as the list of the lines that it emits, which are joined with line breaks.
-/

open Lib SplunkOtel.Js SplunkOtel.Js.TypeScript

namespace SplunkOtel.Generator

/-! ## Comments -/

def spaces (indentLevel : ℕ) : String := String.ofList (List.replicate (2 * indentLevel) ' ')

/-- `description.replace(/\n+$/, '')` -/
def cleaned (description : String) : String :=
  String.ofList (description.toList.rdropWhile (· = '\n'))

def docLine (indentLevel : ℕ) (line : String) : String :=
  if trim line ≠ "" then spaces indentLevel ++ " * " ++ line else spaces indentLevel ++ " *"

def emitJSDoc (description : Value) (indentLevel : ℕ) : List String :=
  match description with
  | .string text =>
    if text = "" then []
    else [spaces indentLevel ++ "/**"] ++
      (split (cleaned text) '\n').map (docLine indentLevel) ++ [spaces indentLevel ++ " */"]
  | _ => []

/-! ## Interfaces -/

/-- `/^[a-zA-Z_$][a-zA-Z0-9_$]*$/` -/
def isIdentifier (name : String) : Bool :=
  name.toList.all identifierChar && name.toList.head?.any fun c => !c.isDigit

def quotePropName (name : String) : String :=
  if isIdentifier name then name else "'" ++ name ++ "'"

def indexSignatureType (additionalProperties : Value) (hasNamedProps : Bool) : Option String :=
  if additionalProperties.isTrue then some "unknown"
  else if additionalProperties.isObject then
    let valueType := resolveType additionalProperties
    some (if hasNamedProps then valueType ++ " | undefined" else valueType)
  else none

/-- One property. `required` has the names of the properties that are not optional. -/
def emitProperty (required : List String) (prop : String × Value) : List String :=
  let optional := if prop.1 ∈ required then "" else "?"
  emitJSDoc (prop.2.property "description") 1 ++
    ["  " ++ quotePropName prop.1 ++ optional ++ ": " ++ resolveType prop.2 ++ ";"]

def emitIndex (idxType : Option String) : List String :=
  match idxType with
  | some type => ["  [key: string]: " ++ type ++ ";"]
  | none => []

/-- What the three functions below have in common. -/
def emitInterface (name : String) (definition : Value) (required : List String)
    (hasNamedProps : Bool) : List String :=
  ["export interface " ++ name ++ " \x7b"] ++
    (entries (definition.property "properties")).flatMap (emitProperty required) ++
    emitIndex (indexSignatureType (definition.property "additionalProperties") hasNamedProps) ++
    ["\x7d"]

def emitObjectInterface (name : String) (definition : Value) : List String :=
  emitInterface name definition (texts (definition.property "required"))
    (0 < (entries (definition.property "properties")).length)

def emitNullableObjectType (name : String) (definition : Value) : List String :=
  emitInterface name definition (texts (definition.property "required"))
    (0 < (entries (definition.property "properties")).length)

def emitDiscriminatedUnion (name : String) (definition : Value) : List String :=
  emitInterface name definition [] true

/-! ## Other types -/

def emitType (name type : String) : List String := ["export type " ++ name ++ " = " ++ type ++ ";"]

def emitEnumType (name : String) (definition : Value) : List String :=
  let members := unionOf (texts (definition.property "enum"))
  if typeIncludes (definition.property "type") "null" then
    emitType name ("(" ++ members ++ ") | null")
  else emitType name members

def emitMarkerType (name : String) : List String := emitType name "Record<string, never> | null"

def emitOpenMap (name : String) (definition : Value) : List String :=
  let additionalProperties := definition.property "additionalProperties"
  let valueType := if additionalProperties.isTrue then "unknown"
    else if additionalProperties.truthy then resolveType additionalProperties
    else "unknown"
  emitType name ("Record<string, " ++ valueType ++ ">")

/-! ## Kinds of definitions -/

inductive DefinitionKind where
  | enumeration
  | marker
  | discriminatedUnion
  | openMap
  | nullableObject
  | object
  | stringAlias
  | unknown
deriving DecidableEq

def isDiscriminatedUnion (definition : Value) : Bool :=
  (definition.property "minProperties").asNumber = some 1 ∧
    (definition.property "maxProperties").asNumber = some 1 ∧
      (definition.property "properties").truthy ∧
        1 < (entries (definition.property "properties")).length

/-- `additionalProperties === false` -/
def isFalse : Value → Bool
  | .bool b => !b
  | _ => false

def isMarkerType (definition : Value) : Bool :=
  let type := definition.property "type"
  typeIncludes type "object" ∧ typeIncludes type "null" ∧
    ¬ (definition.property "properties").truthy ∧ ¬ (definition.property "enum").truthy ∧
      isFalse (definition.property "additionalProperties")

def isNullableObjectWithProps (definition : Value) : Bool :=
  let type := definition.property "type"
  typeIncludes type "object" ∧ typeIncludes type "null" ∧
    (definition.property "properties").truthy

def classifyDef (definition : Value) : DefinitionKind :=
  let type := definition.property "type"
  let additional := (definition.property "additionalProperties").truthy
  let named := (definition.property "properties").truthy
  if (definition.property "enum").truthy then .enumeration
  else if isMarkerType definition then .marker
  else if isDiscriminatedUnion definition then .discriminatedUnion
  else if type.isString "object" ∧ additional ∧ ¬ named then .openMap
  else if typeIncludes type "object" ∧ additional ∧ ¬ named then .openMap
  else if isNullableObjectWithProps definition then .nullableObject
  else if type.isString "object" ∨ typeIncludes type "object" then .object
  else if typeIncludes type "string" ∧ ¬ (definition.property "enum").truthy then .stringAlias
  else .unknown

def emitDefinition (name : String) (definition : Value) : List String :=
  match classifyDef definition with
  | .enumeration => emitEnumType name definition
  | .marker => emitMarkerType name
  | .discriminatedUnion => emitDiscriminatedUnion name definition
  | .nullableObject => emitNullableObjectType name definition
  | .object => emitObjectInterface name definition
  | .openMap => emitOpenMap name definition
  | .stringAlias =>
    let isNullable := typeIncludes (definition.property "type") "null"
    emitType name (orNull isNullable "string")
  | .unknown =>
    ["// WARNING: Could not classify $def '" ++ name ++ "'"] ++ emitType name "unknown"

/-! ## The file -/

/-- The definitions of `schema.$defs`. -/
def definitionsOf (schema : Value) : OrderedMap String Schema :=
  .ofEntries ((entries (schema.property "$defs")).map fun entry => (entry.1, entries entry.2))

def header : String :=
  "/* This file is auto-generated by packages/generate-config-types.ts. Do not edit. */"

def configurationName : String := "OpenTelemetryConfiguration"

/-- `defs[name]`, for a name that is sorted. -/
def definitionAt (definitions : OrderedMap String Schema) (name : String) : Value :=
  .object ((lookup definitions name).getD [])

def emitSorted (definitions : OrderedMap String Schema) (name : String) : List String :=
  let definition := definitionAt definitions name
  emitJSDoc (definition.property "description") 0 ++ emitDefinition name definition ++ [""]

/-- The fuel is the one of the sort. -/
def generateTypes (fuel : ℕ) (schema : Value) : Option (List String) := do
  let sortedNames ← topologicalSort fuel (definitionsOf schema)
  let description := (schema.property "description").orElse (schema.property "title")
  return [header, ""] ++ sortedNames.flatMap (emitSorted (definitionsOf schema)) ++
    emitJSDoc description 0 ++ emitObjectInterface configurationName schema ++ [""]

end SplunkOtel.Generator
