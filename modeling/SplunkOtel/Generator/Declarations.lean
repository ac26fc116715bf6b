import Mathlib.Data.List.Chain
import SplunkOtel.Generator.GenerateTypes

/-!
# What the generated lines declare

The declarations that are meant for a definition, and that its lines are read back as.
-/

open SplunkOtel.Js SplunkOtel.Js.TypeScript

namespace SplunkOtel.Generator

/-! ## Reading declarations -/

/-- The line does not end a comment. -/
def KeepsOpen (line : String) : Prop := line.toList.IsChain fun a b => ¬ (a = '*' ∧ b = '/')

instance : DecidablePred KeepsOpen := fun _ => inferInstanceAs (Decidable (List.IsChain _ _))

inductive Comment : List String → Prop
  | doc {body : List String} (indentLevel : ℕ) (h : ∀ line ∈ body, KeepsOpen line) :
    Comment ([spaces indentLevel ++ "/**"] ++ body ++ [spaces indentLevel ++ " */"])
  | block {text : String} (h : KeepsOpen text) : Comment ["/*" ++ text ++ "*/"]
  | line (text : String) : Comment ["//" ++ text]

inductive SpellsKey : String → String → Prop
  | identifier {name : String} (h : isIdentifier name = true) : SpellsKey name name
  | quoted {name : String} (h : ∀ c ∈ name.toList, literalChar c = true) :
    SpellsKey ("'" ++ name ++ "'") name

inductive ReadsMembers : List String → List Member → Option Ty → Prop
  | done : ReadsMembers [] [] none
  | index {text : String} {t : Ty} (h : readType text = some t) :
    ReadsMembers ["  [key: string]: " ++ text ++ ";"] [] (some t)
  | comment {comment lines : List String} {members : List Member} {index : Option Ty}
    (hcomment : Comment comment) (h : ReadsMembers lines members index) :
    ReadsMembers (comment ++ lines) members index
  | member {key name text : String} {t : Ty} {lines : List String} {members : List Member}
    {index : Option Ty} (optional : Bool) (hkey : SpellsKey key name) (ht : readType text = some t)
    (h : ReadsMembers lines members index) :
    ReadsMembers (["  " ++ key ++ (if optional then "?" else "") ++ ": " ++ text ++ ";"] ++ lines)
      (⟨name, optional, t⟩ :: members) index

/-- The lines are those of a file with these declarations. -/
inductive Declares : List String → List (String × Declaration) → Prop
  | done : Declares [] []
  | blank {lines : List String} {declarations : List (String × Declaration)}
    (h : Declares lines declarations) : Declares ([""] ++ lines) declarations
  | comment {comment lines : List String} {declarations : List (String × Declaration)}
    (hcomment : Comment comment) (h : Declares lines declarations) :
    Declares (comment ++ lines) declarations
  | type {name text : String} {t : Ty} {lines : List String}
    {declarations : List (String × Declaration)} (hname : IsTypeName name)
    (ht : readType text = some t) (h : Declares lines declarations) :
    Declares (["export type " ++ name ++ " = " ++ text ++ ";"] ++ lines)
      ((name, .type t) :: declarations)
  | interface {name : String} {body lines : List String} {members : List Member}
    {index : Option Ty} {declarations : List (String × Declaration)} (hname : IsTypeName name)
    (hbody : ReadsMembers body members index) (h : Declares lines declarations) :
    Declares (["export interface " ++ name ++ " \x7b"] ++ body ++ ["\x7d"] ++ lines)
      ((name, .interface members index) :: declarations)

/-! ## The declarations that are meant -/

def memberOf (required : List String) (prop : String × Value) : Member where
  name := prop.1
  optional := prop.1 ∉ required
  type := typeOf prop.2

def indexOf (additionalProperties : Value) (hasNamedProps : Bool) : Option Ty :=
  if additionalProperties.isTrue then some .unknown
  else if additionalProperties.isObject then
    some (if hasNamedProps then joined (typeOf additionalProperties) .undefined
      else typeOf additionalProperties)
  else none

def interfaceOf (definition : Value) (required : List String) (hasNamedProps : Bool) :
    Declaration :=
  .interface ((entries (definition.property "properties")).map (memberOf required))
    (indexOf (definition.property "additionalProperties") hasNamedProps)

/-- The interface of an object. -/
def objectInterface (definition : Value) : Declaration :=
  interfaceOf definition (texts (definition.property "required"))
    (0 < (entries (definition.property "properties")).length)

def valueTypeOf (additionalProperties : Value) : Ty :=
  if additionalProperties.isTrue then .unknown
  else if additionalProperties.truthy then typeOf additionalProperties
  else .unknown

def declarationOf (definition : Value) : Declaration :=
  let isNullable := typeIncludes (definition.property "type") "null"
  match classifyDef definition with
  | .enumeration => .type (optional isNullable (literals (texts (definition.property "enum"))))
  | .marker => .type (.union (.record .never) .null)
  | .discriminatedUnion => interfaceOf definition [] true
  | .nullableObject => objectInterface definition
  | .object => objectInterface definition
  | .openMap => .type (.record (valueTypeOf (definition.property "additionalProperties")))
  | .stringAlias => .type (optional isNullable .string)
  | .unknown => .type .unknown

/-! ## Schemas whose types can be read -/

/-- No line of a description ends the comment that it is written into. -/
def PlainDescription (description : Value) : Prop :=
  ∀ text, description = .string text → ∀ line ∈ split (cleaned text) '\n', KeepsOpen line

/-- Only values of this type, and null. -/
def OnlyType (name : String) (definition : Value) : Prop :=
  definition.property "type" = .string name ∨
    ∃ types, definition.property "type" = .array types ∧
      ∀ t ∈ types, t = .string name ∨ t = .string "null"

/-- The type of the values that the declaration has a place for. -/
def mainType : DefinitionKind → Option String
  | .enumeration => none
  | .unknown => none
  | .stringAlias => some "string"
  | _ => some "object"

structure SupportedObject (names : List String) (definition : Value) : Prop where
  properties : ∀ prop ∈ entries (definition.property "properties"),
    Supported names prop.2 ∧ PlainDescription (prop.2.property "description") ∧
      ∀ c ∈ prop.1.toList, literalChar c = true
  distinct : (keys (entries (definition.property "properties"))).Nodup
  additional : (definition.property "additionalProperties").truthy = true →
    (definition.property "additionalProperties").isTrue = false →
      Supported names (definition.property "additionalProperties")

structure SupportedDefinition (names : List String) (definition : Value) : Prop extends
    SupportedObject names definition where
  description : PlainDescription (definition.property "description")
  enum : (definition.property "enum").truthy = true → PlainEnum (definition.property "enum")
  type : ∀ name ∈ mainType (classifyDef definition), OnlyType name definition

theorem names_interfaceOf {names : List String} {definition : Value}
    (h : SupportedObject names definition) (required : List String) (hasNamedProps : Bool) :
    ∀ name ∈ (interfaceOf definition required hasNamedProps).names, name ∈ names := by
  intro name hname
  rcases List.mem_append.mp hname with hname | hname
  · obtain ⟨m, hm, hname⟩ := List.mem_flatMap.mp hname
    obtain ⟨prop, hprop, rfl⟩ := List.mem_map.mp hm
    exact names_typeOf (h.properties prop hprop).1 name hname
  · obtain ⟨t, ht, hname⟩ := List.mem_flatMap.mp hname
    have hadditional (hobject : (definition.property "additionalProperties").isObject = true) :=
      names_typeOf (h.additional (truthy_of_isObject hobject) (isTrue_of_isObject hobject))
    unfold indexOf at ht
    split_ifs at ht with _ hobject
    · cases List.mem_singleton.mp ht
      cases hname
    · cases List.mem_singleton.mp ht
      rw [names_joined] at hname
      rcases List.mem_append.mp hname with hname | hname
      · exact hadditional hobject name hname
      · cases hname
    · cases List.mem_singleton.mp ht
      exact hadditional hobject name hname
    · cases ht

theorem names_declarationOf {names : List String} {definition : Value}
    (h : SupportedObject names definition) :
    ∀ name ∈ (declarationOf definition).names, name ∈ names := by
  unfold declarationOf
  cases classifyDef definition with
  | enumeration =>
    rintro name hname
    simp only [Declaration.names, names_optional, names_literals] at hname
    cases hname
  | marker => rintro name ⟨⟩
  | discriminatedUnion => exact names_interfaceOf h _ _
  | nullableObject => exact names_interfaceOf h _ _
  | object => exact names_interfaceOf h _ _
  | openMap =>
    rintro name hname
    simp only [Declaration.names, Ty.names, valueTypeOf] at hname
    split_ifs at hname with htrue hadd
    · cases hname
    · exact names_typeOf (h.additional hadd (by simpa using htrue)) name hname
    · cases hname
  | stringAlias =>
    rintro name hname
    simp only [Declaration.names, names_optional] at hname
    cases hname
  | unknown => rintro name ⟨⟩

/-! ## The lines -/

theorem keepsOpen_append {front line : String} (hfront : KeepsOpen front) (hline : KeepsOpen line)
    (hlast : front.toList.getLast? ≠ some '*') : KeepsOpen (front ++ line) := by
  rw [KeepsOpen, String.toList_append]
  refine List.IsChain.append hfront hline fun a ha b _ hstar => hlast ?_
  rw [← hstar.1]
  exact ha

theorem keepsOpen_docLine {line : String} (h : KeepsOpen line) (indentLevel : ℕ) :
    KeepsOpen (docLine indentLevel line) := by
  have hspaces : KeepsOpen (spaces indentLevel) := by
    rw [KeepsOpen, spaces, String.toList_ofList]
    exact List.isChain_replicate_of_rel _ (by decide)
  have hlast : (spaces indentLevel).toList.getLast? ≠ some '*' := by
    rw [spaces, String.toList_ofList, List.getLast?_replicate]
    split <;> decide
  unfold docLine
  split
  · refine keepsOpen_append (keepsOpen_append hspaces (by decide) hlast) h ?_
    rw [String.toList_append, List.getLast?_append_of_ne_nil _ (by decide)]
    decide
  · exact keepsOpen_append hspaces (by decide) hlast

theorem comment_emitJSDoc {description : Value} (h : PlainDescription description)
    (indentLevel : ℕ) :
    emitJSDoc description indentLevel = [] ∨ Comment (emitJSDoc description indentLevel) := by
  unfold emitJSDoc
  split
  · rename_i text
    split
    · exact Or.inl rfl
    · refine Or.inr (.doc indentLevel fun line hline => ?_)
      obtain ⟨part, hpart, rfl⟩ := List.mem_map.mp hline
      exact keepsOpen_docLine (h text rfl part hpart) indentLevel
  · exact Or.inl rfl

theorem spellsKey_quotePropName {name : String} (h : ∀ c ∈ name.toList, literalChar c = true) :
    SpellsKey (quotePropName name) name := by
  unfold quotePropName
  split
  · exact .identifier ‹_›
  · exact .quoted h

theorem readsMembers_emitIndex {names : List String} {additionalProperties : Value}
    (h : additionalProperties.truthy = true → additionalProperties.isTrue = false →
      Supported names additionalProperties) (hasNamedProps : Bool) :
    ReadsMembers (emitIndex (indexSignatureType additionalProperties hasNamedProps)) []
      (indexOf additionalProperties hasNamedProps) := by
  unfold indexSignatureType indexOf
  split
  · exact .index spells_unknown.reads.readType_eq
  split
  · rename_i hobject
    have hspells := spells_resolveType (h (truthy_of_isObject hobject) (isTrue_of_isObject hobject))
    cases hasNamedProps with
    | false => exact .index hspells.reads.readType_eq
    | true =>
      have hundefined : Reads .union "undefined".toList .undefined := .operand (.keyword (by decide))
      have htext : (resolveType additionalProperties ++ " | undefined").toList =
          (resolveType additionalProperties).toList ++ " | ".toList ++ "undefined".toList := by
        rw [String.toList_append, List.append_assoc]
        rfl
      refine .index (Reads.readType_eq ?_)
      rw [if_pos rfl, if_pos rfl, htext]
      exact hspells.2 _ _ hundefined
  · exact .done

theorem readsMembers_append {comment lines : List String} {members : List Member} {index : Option Ty}
    (hcomment : comment = [] ∨ Comment comment) (h : ReadsMembers lines members index) :
    ReadsMembers (comment ++ lines) members index := by
  rcases hcomment with rfl | hcomment
  · exact h
  · exact .comment hcomment h

theorem readsMembers_emitProperty {names : List String} {props : List (String × Value)}
    (h : ∀ prop ∈ props, Supported names prop.2 ∧ PlainDescription (prop.2.property "description") ∧
      ∀ c ∈ prop.1.toList, literalChar c = true)
    (required : List String) {lines : List String} {index : Option Ty}
    (hlines : ReadsMembers lines [] index) :
    ReadsMembers (props.flatMap (emitProperty required) ++ lines) (props.map (memberOf required))
      index := by
  induction props with
  | nil => exact hlines
  | cons prop props ih =>
    obtain ⟨hsupported, hdescription, hname⟩ := h prop List.mem_cons_self
    have hrest := ih fun prop hprop => h prop (List.mem_cons_of_mem _ hprop)
    have hmember := ReadsMembers.member (decide (prop.1 ∉ required)) (spellsKey_quotePropName hname)
      (spells_resolveType hsupported).reads.readType_eq hrest
    have hdoc := readsMembers_append (comment_emitJSDoc hdescription 1) hmember
    have hoptional : (if decide (prop.1 ∉ required) then "?" else "") =
        if prop.1 ∈ required then "" else "?" := by
      by_cases hmem : prop.1 ∈ required <;> simp [hmem]
    rw [hoptional] at hdoc
    simpa only [List.flatMap_cons, emitProperty, List.append_assoc, List.map_cons, memberOf]
      using hdoc

theorem declares_append {comment lines : List String} {declarations : List (String × Declaration)}
    (hcomment : comment = [] ∨ Comment comment) (h : Declares lines declarations) :
    Declares (comment ++ lines) declarations := by
  rcases hcomment with rfl | hcomment
  · exact h
  · exact .comment hcomment h

theorem declares_emitInterface {names : List String} {definition : Value}
    (h : SupportedObject names definition) (required : List String) (hasNamedProps : Bool)
    {name : String} (hname : IsTypeName name) {lines : List String}
    {declarations : List (String × Declaration)} (hlines : Declares lines declarations) :
    Declares (emitInterface name definition required hasNamedProps ++ lines)
      ((name, interfaceOf definition required hasNamedProps) :: declarations) := by
  have hbody := readsMembers_emitProperty h.properties required
    (readsMembers_emitIndex h.additional hasNamedProps)
  have hdeclares := Declares.interface hname hbody hlines
  simpa only [emitInterface, interfaceOf, List.append_assoc] using hdeclares

theorem declares_emitType {name type : String} {t : Ty} (hname : IsTypeName name)
    (ht : Reads .union type.toList t) {lines : List String}
    {declarations : List (String × Declaration)} (hlines : Declares lines declarations) :
    Declares (emitType name type ++ lines) ((name, .type t) :: declarations) :=
  .type hname ht.readType_eq hlines

theorem reads_never_record : Reads .union "Record<string, never> | null".toList
    (.union (.record .never) .null) := by
  have hnever := spells_record (.operand (.keyword (show ("never", Ty.never) ∈ keywords by decide)))
  exact (spells_union hnever.1 spells_null).reads

theorem truthy_of_enumeration {definition : Value} (h : classifyDef definition = .enumeration) :
    (definition.property "enum").truthy = true := by
  unfold classifyDef at h
  dsimp only at h
  split_ifs at h with henum
  exact henum

theorem declares_emitDefinition {names : List String} {definition : Value}
    (h : SupportedDefinition names definition) {name : String} (hname : IsTypeName name)
    {lines : List String} {declarations : List (String × Declaration)}
    (hlines : Declares lines declarations) :
    Declares (emitDefinition name definition ++ lines)
      ((name, declarationOf definition) :: declarations) := by
  unfold emitDefinition declarationOf
  cases hkind : classifyDef definition with
  | enumeration =>
    obtain ⟨hne, hplain⟩ := texts_plain (h.enum (truthy_of_enumeration hkind))
    have hspells := spells_wrapNullable (spells_unionOf hne hplain) (definition.property "type")
    have hemit : emitEnumType name definition = emitType name
        (wrapNullable (unionOf (texts (definition.property "enum"))) (definition.property "type")) := by
      unfold emitEnumType wrapNullable
      split <;> rfl
    simp only [hemit]
    exact declares_emitType hname hspells.reads hlines
  | marker => exact declares_emitType hname reads_never_record hlines
  | discriminatedUnion => exact declares_emitInterface h.toSupportedObject [] true hname hlines
  | nullableObject => exact declares_emitInterface h.toSupportedObject _ _ hname hlines
  | object => exact declares_emitInterface h.toSupportedObject _ _ hname hlines
  | openMap =>
    refine declares_emitType hname (spells_record ?_).reads hlines
    unfold valueTypeOf
    split_ifs with htrue hadd
    · exact spells_unknown.reads
    · exact (spells_resolveType (h.additional hadd (by simpa using htrue))).reads
    · exact spells_unknown.reads
  | stringAlias =>
    have hstring : Spells "string" .string := spells_operand (.keyword (by decide)) rfl
    exact declares_emitType hname (spells_orNull hstring rfl _).reads hlines
  | unknown =>
    have htext : "// WARNING: Could not classify $def '" ++ name ++ "'" =
        "//" ++ (" WARNING: Could not classify $def '" ++ name ++ "'") := by
      rw [← String.append_assoc, ← String.append_assoc]
      rfl
    have hcomment := Comment.line (" WARNING: Could not classify $def '" ++ name ++ "'")
    rw [← htext] at hcomment
    have hdeclares := declares_append (.inr hcomment)
      (declares_emitType hname spells_unknown.reads hlines)
    simpa only [List.append_assoc] using hdeclares

end SplunkOtel.Generator
