import SplunkOtel.Generator.Declarations
import SplunkOtel.Js.JsonSchema

/-!
# What the generated types say

Every value that is valid for the schema has its type.
-/

open Lib SplunkOtel.Js SplunkOtel.Js.TypeScript SplunkOtel.Js.JsonSchema

namespace SplunkOtel.Generator

/-- The types of these definitions are objects only, where the schema has null as well. -/
def losesNull (definition : Value) : Bool :=
  classifyDef definition ∈
    [.discriminatedUnion, .openMap, .nullableObject, DefinitionKind.object]

def NonNull (definition value : Value) : Prop := losesNull definition = true → value ≠ .null

/-! ## Valid values have their types -/

section Sound

variable {declared : String → Option Declaration} {t u : Ty} {v : Value}

theorem has_optional (isNullable : Bool) (h : Has declared t v) :
    Has declared (optional isNullable t) v := by
  cases isNullable with
  | false => exact h
  | true => exact .left h

theorem has_optional_null {isNullable : Bool} (h : isNullable = true) :
    Has declared (optional isNullable t) .null := by
  rw [optional, if_pos h]
  exact .right .null

theorem has_joined (h : Has declared t v) : Has declared (joined t u) v := by
  induction t with
  | union t t' _ ih =>
    cases h with
    | left h => exact .left h
    | right h => exact .right (ih h)
  | _ => exact .left h

theorem has_literals {s : String} {members : List String} (h : s ∈ members) :
    Has declared (literals members) (.string s) := by
  induction members with
  | nil => cases h
  | cons s' members ih =>
    cases members with
    | nil =>
      obtain rfl := List.mem_singleton.mp h
      exact .literal s
    | cons s'' members =>
      rcases List.mem_cons.mp h with rfl | h
      · exact .left (.literal s)
      · exact .right (ih h)

theorem has_primitive {name : String} (h : HasJsonType name v) :
    Has declared (primitive (.string name)) v := by
  cases v with
  | undefined => cases h
  | null =>
    obtain rfl : name = "null" := h
    exact .null
  | bool b =>
    obtain rfl : name = "boolean" := h
    exact .boolean b
  | number n =>
    obtain rfl | rfl : name = "number" ∨ name = "integer" := h
    · exact .number n
    · exact .number n
  | string s =>
    obtain rfl : name = "string" := h
    exact .string s
  | array items =>
    obtain rfl : name = "array" := h
    exact .unknown _
  | object fields =>
    obtain rfl : name = "object" := h
    exact .object rfl

theorem has_nonEmpty {items : List Value} (hne : items ≠ []) (h : ∀ item ∈ items, Has declared t item) :
    Has declared (.nonEmpty t t) (.array items) := by
  obtain ⟨first, items, rfl⟩ := List.exists_cons_of_ne_nil hne
  exact .nonEmpty (h first List.mem_cons_self) fun item hitem => h item (List.mem_cons_of_mem _ hitem)

theorem property_of_mem {fields : List (String × Value)} (hnodup : (keys fields).Nodup)
    {name : String} (h : (name, v) ∈ fields) : (Value.object fields).property name = v := by
  have hsome : (fields.reverse.find? (·.1 = name)).isSome := by
    rw [List.find?_isSome]
    exact ⟨_, List.mem_reverse.mpr h, decide_eq_true rfl⟩
  obtain ⟨entry, hentry⟩ := Option.isSome_iff_exists.mp hsome
  have hname : entry.1 = name := by simpa using List.find?_some hentry
  have hmem := List.mem_reverse.mp (List.mem_of_find?_eq_some hentry)
  have hsame : entry = (name, v) := List.inj_on_of_nodup_map hnodup hmem h hname
  rw [Value.property, hentry, hsame]
  rfl

theorem texts_of_mem {enum : Value} (h : PlainEnum enum) {v : Value}
    (hv : ∀ members, enum = .array members → v ∈ members) : ∃ s ∈ texts enum, v = .string s := by
  obtain ⟨items, rfl, -, hitems⟩ := h
  have hmem := hv items rfl
  obtain ⟨s, rfl, -⟩ := hitems v hmem
  exact ⟨s, List.mem_filterMap.mpr ⟨_, hmem, rfl⟩, rfl⟩

theorem eq_string_of_isString {v : Value} {s : String} (h : v.isString s = true) :
    v = .string s := by
  cases v with
  | string t =>
    obtain rfl : t = s := of_decide_eq_true h
    rfl
  | _ => cases h

theorem any_isString {types : List Value} {s : String} (h : .string s ∈ types) :
    types.any (·.isString s) = true :=
  List.any_eq_true.mpr ⟨_, h, decide_eq_true rfl⟩

theorem refersTo_of_refOf {schema : Value} {name : String}
    (h : refOf schema = some ("#/$defs/" ++ name)) : IsReference schema name := by
  unfold refOf at h
  unfold IsReference
  split at h
  · rename_i hproperty
    split at h
    · cases h
    · rw [hproperty, Option.some_inj.mp h]
  · cases h

/-- The value is as its schema says, where the values inside of it have their types. -/
theorem has_typeOf {names : List String} {schema v : Value} (hsupported : Supported names schema)
    (href : ∀ name ∈ names, IsReference schema name → Has declared (.reference name) v)
    (htype : TypeAdmits (schema.property "type") v)
    (henum : ∀ members, schema.property "enum" = .array members → v ∈ members)
    (hitems : ∀ items, v = .array items → (schema.property "items").truthy = true →
      ∀ item ∈ items, Has declared (typeOf (schema.property "items")) item)
    (hminItems : ∀ items, v = .array items → hasMinItems schema = true → items ≠ [])
    (hadditional : ∀ fields, v = .object fields → (schema.property "properties").truthy = false →
      (schema.property "additionalProperties").truthy = true →
        (schema.property "additionalProperties").isTrue = false → ∀ key ∈ keys fields,
          Has declared (typeOf (schema.property "additionalProperties"))
            ((Value.object fields).property key)) : Has declared (typeOf schema) v := by
  cases hsupported with
  | intro hrefs henums hobject _ _ _ =>
  rw [typeOf]
  cases href' : refOf schema with
  | some ref =>
    obtain ⟨name, hname, rfl, -⟩ := hrefs ref href'
    simp only [refName_defs]
    exact href name hname (refersTo_of_refOf href')
  | none =>
    simp only
    by_cases hen : (schema.property "enum").truthy = true
    · obtain ⟨s, hs, rfl⟩ := texts_of_mem (henums hen) henum
      rw [if_pos hen]
      exact has_optional _ (has_literals hs)
    rw [if_neg hen]
    cases hschema : schema.property "type" with
    | array types =>
      rw [hschema] at htype
      obtain ⟨name, hname, hjson⟩ := htype
      simp only
      split
      · rename_i hfirst
        have hprops : (schema.property "properties").truthy = false := by simpa using hfirst.2
        rcases hobject types hschema hfirst.1 _ hname with h | h
        · obtain rfl : name = "object" := of_decide_eq_true h
          obtain ⟨fields, rfl⟩ := eq_object hjson
          have hadded := hadditional fields rfl hprops
          split_ifs with htrue hadd
          · exact has_optional _ (.record fun key _ => .unknown _)
          · exact has_optional _ (.record (hadded hadd (by simpa using htrue)))
          · exact has_optional _ (.object rfl)
        · obtain rfl : name = "null" := of_decide_eq_true h
          rw [eq_null hjson]
          split_ifs <;> exact has_optional_null (any_isString hname)
      · by_cases hnull : name = "null"
        · subst hnull
          rw [eq_null hjson]
          exact has_optional_null (any_isString hname)
        · refine has_optional _ ?_
          have hmem : Value.string name ∈ nonNull types :=
            List.mem_filter.mpr ⟨hname, by simp [Value.isString, hnull]⟩
          split
          · rename_i t hone
            rw [hone, List.mem_singleton] at hmem
            rw [← hmem]
            exact has_primitive hjson
          · exact .unknown _
    | string name =>
      rw [hschema] at htype
      simp only [Value.isString, decide_eq_true_eq]
      split_ifs with harray hmin hit hit hobjects hopen hadd
      · subst harray
        obtain ⟨items, rfl⟩ := eq_array htype
        exact has_nonEmpty (hminItems items rfl hmin) (hitems items rfl hit)
      · subst harray
        obtain ⟨items, rfl⟩ := eq_array htype
        exact has_nonEmpty (hminItems items rfl hmin) fun item _ => .unknown item
      · subst harray
        obtain ⟨items, rfl⟩ := eq_array htype
        exact .array (hitems items rfl ‹_›)
      · subst harray
        obtain ⟨items, rfl⟩ := eq_array htype
        exact .array fun item _ => .unknown item
      · subst hobjects
        obtain ⟨fields, rfl⟩ := eq_object htype
        exact .record fun key _ => .unknown _
      · subst hobjects
        obtain ⟨fields, rfl⟩ := eq_object htype
        exact .record (hadditional fields rfl (by simpa using hadd.2) (truthy_of_isObject hadd.1)
          (isTrue_of_isObject hadd.1))
      · subst hobjects
        obtain ⟨fields, rfl⟩ := eq_object htype
        exact .object rfl
      · exact has_primitive htype
    | _ => exact .unknown _

/-! ## Definitions -/

def definitionNamed (definitions : OrderedMap String Schema) (name : String) : Option Value :=
  (definitions.get? name).map Value.object

theorem onlyType_cases {name : String} {definition : Value} (h : OnlyType name definition)
    (htype : TypeAdmits (definition.property "type") v) :
    HasJsonType name v ∨ v = .null ∧ typeIncludes (definition.property "type") "null" = true := by
  rcases h with h | ⟨types, h, honly⟩
  · rw [h] at htype
    exact Or.inl htype
  · rw [h] at htype
    obtain ⟨name', hname, hjson⟩ := htype
    rcases honly _ hname with h' | h'
    · cases h'
      exact Or.inl hjson
    · cases h'
      rw [h]
      exact Or.inr ⟨eq_null hjson, any_isString hname⟩

theorem properties_of_openMap {definition : Value} (h : classifyDef definition = .openMap) :
    (definition.property "properties").truthy = false := by
  unfold classifyDef at h
  dsimp only at h
  split_ifs at h with _ _ _ hobject hlist
  · simpa using hobject.2.2
  · simpa using hlist.2.2

theorem marker_of_classify {definition : Value} (h : classifyDef definition = .marker) :
    (definition.property "properties").truthy = false ∧
      definition.property "additionalProperties" = .bool false := by
  unfold classifyDef at h
  dsimp only at h
  split_ifs at h with _ hmarker
  simp only [isMarkerType, decide_eq_true_eq, Bool.not_eq_true] at hmarker
  obtain ⟨-, -, hprops, -, hfalse⟩ := hmarker
  refine ⟨hprops, ?_⟩
  cases hadd : definition.property "additionalProperties" with
  | bool b =>
    rw [hadd] at hfalse
    cases b with
    | false => rfl
    | true => cases hfalse
  | _ =>
    rw [hadd] at hfalse
    cases hfalse

theorem not_keys_of_falsy {schema : Value} {key : String}
    (h : (schema.property "properties").truthy = false) :
    ∀ named, schema.property "properties" = .object named → key ∉ keys named := by
  intro named hnamed
  rw [hnamed] at h
  cases h

theorem mem_texts {list : Value} {s : String} (h : s ∈ texts list) :
    ∃ items, list = .array items ∧ .string s ∈ items := by
  unfold texts at h
  split at h
  · rename_i items
    obtain ⟨item, hitem, hs⟩ := List.mem_filterMap.mp h
    refine ⟨items, rfl, ?_⟩
    split at hs
    · cases hs
      exact hitem
    · cases hs
  · cases h

theorem mem_entries {value : Value} {prop : String × Value} (h : prop ∈ entries value) :
    ∃ named, value = .object named ∧ prop ∈ named := by
  unfold entries at h
  split at h
  · exact ⟨_, rfl, h⟩
  · cases h

theorem not_valid_false {definitions : String → Option Value} {also : Value → Value → Prop} :
    ¬ Valid definitions also (.bool false) v := by
  intro h
  cases h with
  | intro hadmits => exact hadmits rfl

/-- The members of the interfaces are within their index signatures. -/
def MembersWithin (declared : String → Option Declaration) : Prop :=
  ∀ name members t, declared name = some (.interface members (some t)) →
    ∀ m ∈ members, Assignable declared m.readAs t

/-- What is declared, and what is asked of the definitions. -/
structure Declared (definitions : OrderedMap String Schema)
    (declared : String → Option Declaration) : Prop where
  within : MembersWithin declared
  declared : ∀ name definition, definitionNamed definitions name = some definition →
    declared name = some (declarationOf definition)
  supported : ∀ name definition, definitionNamed definitions name = some definition →
    SupportedDefinition definitions.keys definition

/-- The values of these fields have the types of their schemas. -/
structure FieldsHave (declared : String → Option Declaration) (names : List String) (schema : Value)
    (fields : List (String × Value)) : Prop where
  properties : ∀ named, schema.property "properties" = .object named → ∀ key ∈ keys fields,
    key ∈ keys named → Supported names ((Value.object named).property key) →
      Has declared (typeOf ((Value.object named).property key)) ((Value.object fields).property key)
  additional : (schema.property "additionalProperties").isUndefined = false → ∀ key ∈ keys fields,
    (∀ named, schema.property "properties" = .object named → key ∉ keys named) →
      Supported names (schema.property "additionalProperties") →
        Has declared (typeOf (schema.property "additionalProperties"))
          ((Value.object fields).property key)

theorem FieldsHave.member {names : List String} {schema : Value} {fields : List (String × Value)}
    (h : FieldsHave declared names schema fields) (hobject : SupportedObject names schema)
    (required : List String) :
    ∀ m ∈ (entries (schema.property "properties")).map (memberOf required),
      m.name ∈ keys fields → Has declared m.type ((Value.object fields).property m.name) := by
  intro m hm hkey
  obtain ⟨prop, hprop, rfl⟩ := List.mem_map.mp hm
  obtain ⟨hsupported, -, -⟩ := hobject.properties prop hprop
  obtain ⟨named, hnamed, hmem⟩ := mem_entries hprop
  have hdistinct : (keys named).Nodup := by
    have hdistinct := hobject.distinct
    rwa [hnamed] at hdistinct
  have hvalue := property_of_mem hdistinct (show (prop.1, prop.2) ∈ named from hmem)
  have hhas := h.properties named hnamed prop.1 hkey (List.mem_map_of_mem hmem)
  rw [hvalue] at hhas
  exact hhas hsupported

/-- A field that no member names is as `additionalProperties` says. -/
theorem FieldsHave.index {names : List String} {schema : Value} {fields : List (String × Value)}
    (h : FieldsHave declared names schema fields) (hobject : SupportedObject names schema)
    {required : List String} {hasNamedProps : Bool}
    (ht : t ∈ indexOf (schema.property "additionalProperties") hasNamedProps) {key : String}
    (hkey : key ∈ keys fields)
    (hother : ∀ m ∈ (entries (schema.property "properties")).map (memberOf required), m.name ≠ key) :
    Has declared t ((Value.object fields).property key) := by
  have hnot : ∀ named, schema.property "properties" = .object named → key ∉ keys named := by
    intro named hnamed hmem
    obtain ⟨prop, hprop, rfl⟩ := List.mem_map.mp hmem
    refine hother (memberOf required prop) (List.mem_map_of_mem ?_) rfl
    rw [hnamed]
    exact hprop
  unfold indexOf at ht
  split_ifs at ht with htrue hisObject hnamed
  · cases ht
    exact .unknown _
  · cases ht
    exact has_joined (h.additional (isUndefined_of_isObject hisObject) key hkey hnot
      (hobject.additional (truthy_of_isObject hisObject) (by simpa using htrue)))
  · cases ht
    exact h.additional (isUndefined_of_isObject hisObject) key hkey hnot
      (hobject.additional (truthy_of_isObject hisObject) (by simpa using htrue))
  · cases ht

theorem FieldsHave.interface {names : List String} {schema : Value}
    {fields : List (String × Value)} (h : FieldsHave declared names schema fields)
    (hobject : SupportedObject names schema) (hwithin : MembersWithin declared)
    {required : List String} (hrequired : ∀ n ∈ required, n ∈ keys fields) {hasNamedProps : Bool}
    {name : String} (hname : declared name = some (interfaceOf schema required hasNamedProps)) :
    Has declared (.reference name) (.object fields) := by
  have hmembers := h.member hobject required
  refine .interface hname (fun m hm hoptional => ?_) hmembers fun t ht key hkey => ?_
  · obtain ⟨prop, -, rfl⟩ := List.mem_map.mp hm
    exact hrequired prop.1 (by simpa [memberOf] using hoptional)
  · -- a member is within the index signature
    by_cases hother : ∃ m ∈ (entries (schema.property "properties")).map (memberOf required),
      m.name = key
    · obtain ⟨m, hm, rfl⟩ := hother
      rw [interfaceOf, Option.mem_def.mp ht] at hname
      exact (hwithin name _ t hname m hm).has (Member.has_readAs (hmembers m hm hkey))
    · push Not at hother
      exact h.index hobject ht hkey hother

/-- A value of a definition is of what is declared for it. -/
theorem has_declarationOf {names : List String} {definition : Value}
    (hsupported : SupportedDefinition names definition) (hwithin : MembersWithin declared)
    (hnonNull : NonNull definition v) (htype : TypeAdmits (definition.property "type") v)
    (henum : ∀ members, definition.property "enum" = .array members → v ∈ members)
    (hfields : ∀ fields, v = .object fields → FieldsHave declared names definition fields)
    (hrequired : ∀ fields, v = .object fields →
      ∀ n ∈ texts (definition.property "required"), n ∈ keys fields)
    (hmarker : ∀ fields, v = .object fields → classifyDef definition = .marker → keys fields = [])
    {name : String} (hname : declared name = some (declarationOf definition)) :
    Has declared (.reference name) v := by
  have hobjectOf (hmain : mainType (classifyDef definition) = some "object")
      (hloses : losesNull definition = true) : ∃ fields, v = .object fields := by
    rcases onlyType_cases (hsupported.type "object" hmain) htype with hjson | ⟨hnull, -⟩
    · exact eq_object hjson
    · exact absurd hnull (hnonNull hloses)
  cases hkind : classifyDef definition with
  | enumeration =>
    rw [declarationOf, hkind] at hname
    obtain ⟨s, hs, rfl⟩ := texts_of_mem (hsupported.enum (truthy_of_enumeration hkind)) henum
    exact .type hname (has_optional _ (has_literals hs))
  | marker =>
    rw [declarationOf, hkind] at hname
    rcases onlyType_cases (hsupported.type "object" (by rw [hkind]; rfl)) htype with
      hjson | ⟨rfl, -⟩
    · obtain ⟨fields, rfl⟩ := eq_object hjson
      refine .type hname (.left (.record fun key hkey => ?_))
      rw [hmarker fields rfl hkind] at hkey
      cases hkey
    · exact .type hname (.right .null)
  | discriminatedUnion =>
    obtain ⟨fields, rfl⟩ := hobjectOf (by rw [hkind]; rfl) (by simp [losesNull, hkind])
    rw [declarationOf, hkind] at hname
    exact (hfields fields rfl).interface hsupported.toSupportedObject hwithin (by simp) hname
  | nullableObject =>
    obtain ⟨fields, rfl⟩ := hobjectOf (by rw [hkind]; rfl) (by simp [losesNull, hkind])
    rw [declarationOf, hkind] at hname
    exact (hfields fields rfl).interface hsupported.toSupportedObject hwithin
      (hrequired fields rfl) hname
  | object =>
    obtain ⟨fields, rfl⟩ := hobjectOf (by rw [hkind]; rfl) (by simp [losesNull, hkind])
    rw [declarationOf, hkind] at hname
    exact (hfields fields rfl).interface hsupported.toSupportedObject hwithin
      (hrequired fields rfl) hname
  | openMap =>
    obtain ⟨fields, rfl⟩ := hobjectOf (by rw [hkind]; rfl) (by simp [losesNull, hkind])
    rw [declarationOf, hkind] at hname
    refine .type hname (.record fun key hkey => ?_)
    unfold valueTypeOf
    split_ifs with htrue hadd
    · exact .unknown _
    · exact (hfields fields rfl).additional (isUndefined_of_truthy hadd) key hkey
        (not_keys_of_falsy (properties_of_openMap hkind))
        (hsupported.additional hadd (by simpa using htrue))
    · exact .unknown _
  | stringAlias =>
    rw [declarationOf, hkind] at hname
    refine .type hname ?_
    rcases onlyType_cases (hsupported.type "string" (by rw [hkind]; rfl)) htype with
      hjson | ⟨rfl, hnullable⟩
    · exact has_optional _ (has_primitive hjson)
    · exact has_optional_null hnullable
  | unknown =>
    rw [declarationOf, hkind] at hname
    exact .type hname (.unknown _)

theorem valid_has {definitions : OrderedMap String Schema} (hdeclared : Declared definitions declared)
    {schema v : Value} (h : Valid (definitionNamed definitions) NonNull schema v) :
    (Supported definitions.keys schema → Has declared (typeOf schema) v) ∧
      (SupportedObject definitions.keys schema → ∀ fields, v = .object fields →
        ∀ name required hasNamedProps,
          (∀ n ∈ required, n ∈ texts (schema.property "required")) →
            declared name = some (interfaceOf schema required hasNamedProps) →
              Has declared (.reference name) v) ∧
      (SupportedDefinition definitions.keys schema → NonNull schema v → ∀ name,
        declared name = some (declarationOf schema) → Has declared (.reference name) v) := by
  induction h with
  | @intro schema v hadmits hdefined href halso htype henum hitems hminItems hrequired hproperties
      hadditional ihref ihitems ihproperties ihadditional =>
    have hfields (fields) (hv : v = .object fields) :
        FieldsHave declared definitions.keys schema fields := by
      constructor
      · intro named hnamed key hkey hmem
        exact (ihproperties fields named hv hnamed key hkey hmem).1
      · intro hthere key hkey hnot
        exact (ihadditional fields hv hthere key hkey hnot).1
    have hpresent (fields) (hv : v = .object fields) :
        ∀ n ∈ texts (schema.property "required"), n ∈ keys fields := by
      intro n hn
      obtain ⟨names, hnames, hstring⟩ := mem_texts hn
      exact hrequired fields names hv hnames n hstring
    refine ⟨fun hsupported => ?_, ?_, fun hsupported hnonNull name hname => ?_⟩
    · refine has_typeOf hsupported (fun name hname hreference => ?_) htype henum ?_ hminItems ?_
      · obtain ⟨definition, hdefinition⟩ := Option.isSome_iff_exists.mp (hdefined name hreference)
        exact (ihref name definition hreference hdefinition).2.2
          (hdeclared.supported name definition hdefinition)
          (halso name definition hreference hdefinition) name
          (hdeclared.declared name definition hdefinition)
      · intro items hv hit item hitem
        exact (ihitems items hv (isUndefined_of_truthy hit) item hitem).1 (hsupported.items hit)
      · intro fields hv hprops hadd htrue key hkey
        exact (hfields fields hv).additional (isUndefined_of_truthy hadd) key hkey
          (not_keys_of_falsy hprops) (hsupported.additional hadd htrue)
    · rintro hobject fields rfl name required hasNamedProps hsubset hname
      exact (hfields fields rfl).interface hobject hdeclared.within
        (fun n hn => hpresent fields rfl n (hsubset n hn)) hname
    · refine has_declarationOf hsupported hdeclared.within hnonNull htype henum hfields hpresent
        (fun fields hv hkind => ?_) hname
      obtain ⟨hprops, hfalse⟩ := marker_of_classify hkind
      rw [List.eq_nil_iff_forall_not_mem]
      intro key hkey
      have hvalid := hadditional fields hv (by rw [hfalse]; rfl) key hkey (not_keys_of_falsy hprops)
      rw [hfalse] at hvalid
      exact not_valid_false hvalid

end Sound

/-! ## The file -/

theorem lookup_map {names : List String} {name : String} (h : name ∈ names)
    (f : String → Declaration) (declarations : List (String × Declaration)) :
    (names.map (fun n => (n, f n)) ++ declarations).lookup name = some (f name) := by
  induction names with
  | nil => cases h
  | cons n names ih =>
    rw [List.map_cons, List.cons_append, List.lookup_cons]
    by_cases hn : name = n
    · subst hn
      rw [beq_self_eq_true]
    · rw [beq_false_of_ne hn]
      exact ih ((List.mem_cons.mp h).resolve_left hn)

theorem lookup_map_of_not_mem {names : List String} {name : String} (h : name ∉ names)
    (f : String → Declaration) (declarations : List (String × Declaration)) :
    (names.map (fun n => (n, f n)) ++ declarations).lookup name = declarations.lookup name := by
  induction names with
  | nil => rfl
  | cons n names ih =>
    obtain ⟨hn, hnames⟩ := not_or.mp (mt List.mem_cons.mpr h)
    rw [List.map_cons, List.cons_append, List.lookup_cons, beq_false_of_ne hn]
    exact ih hnames

/-- The declaration that a name stands for in the file. -/
def declarationNamed (declarations : List (String × Declaration)) (name : String) :
    Option Declaration := declarations.lookup name

/-- The declaration that is meant for a name. -/
def intended (schema : Value) (name : String) : Option Declaration :=
  if name = configurationName then some (objectInterface schema)
  else (definitionNamed (definitionsOf schema) name).map declarationOf

/-- Besides what is said of the parts: the members of an object are within the type of its other
properties, and no map is made of itself. -/
structure SupportedSchema (schema : Value) : Prop where
  names : ∀ name ∈ (definitionsOf schema).keys, IsTypeName name ∧ name ≠ configurationName
  definitions : ∀ name definition, definitionNamed (definitionsOf schema) name = some definition →
    SupportedDefinition (definitionsOf schema).keys definition
  inherited : ∀ name other, Refers (definitionsOf schema) name other → other ∈ objectPrototype →
    other ∈ (definitionsOf schema).keys
  root : SupportedObject (definitionsOf schema).keys schema
  description : PlainDescription
    ((schema.property "description").orElse (schema.property "title"))
  type : OnlyType "object" schema
  within : MembersWithin (intended schema)
  aliases : ∀ name, ¬ Relation.TransGen (Mentions (intended schema)) name name

def sortedDeclarations (definitions : OrderedMap String Schema) (sortedNames : List String) :
    List (String × Declaration) :=
  sortedNames.map fun name => (name, declarationOf (definitionAt definitions name))

theorem definitionNamed_of_mem {definitions : OrderedMap String Schema} {name : String}
    (h : name ∈ definitions.keys) :
    definitionNamed definitions name = some (definitionAt definitions name) := by
  obtain ⟨definition, hget⟩ := OrderedMap.mem_keys_iff.mp h
  rw [definitionNamed, definitionAt, lookup, hget]
  rfl

theorem mem_of_definitionNamed {definitions : OrderedMap String Schema} {name : String}
    {definition : Value} (h : definitionNamed definitions name = some definition) :
    name ∈ definitions.keys := by
  obtain ⟨properties, hget, -⟩ := Option.map_eq_some_iff.mp h
  exact OrderedMap.mem_keys_of_get? hget

theorem declares_emitSorted {names : List String} {definitions : OrderedMap String Schema}
    {sortedNames : List String} (h : ∀ name ∈ sortedNames, IsTypeName name ∧
      SupportedDefinition names (definitionAt definitions name)) {lines : List String}
    {declarations : List (String × Declaration)} (hlines : Declares lines declarations) :
    Declares (sortedNames.flatMap (emitSorted definitions) ++ lines)
      (sortedDeclarations definitions sortedNames ++ declarations) := by
  induction sortedNames with
  | nil => exact hlines
  | cons name sortedNames ih =>
    obtain ⟨hname, hsupported⟩ := h name List.mem_cons_self
    have hrest := ih fun name hname => h name (List.mem_cons_of_mem _ hname)
    have hdeclares := declares_append (comment_emitJSDoc hsupported.description 0)
      (declares_emitDefinition hsupported hname hrest.blank)
    simpa only [List.flatMap_cons, emitSorted, List.append_assoc, sortedDeclarations, List.map_cons,
      List.cons_append] using hdeclares

theorem header_comment : Comment [header] := by
  have htext : header = "/*" ++
      " This file is auto-generated by packages/generate-config-types.ts. Do not edit. " ++ "*/" := by
    decide +kernel
  rw [htext]
  exact .block (by decide +kernel)

/-- The types of a file have the values that are valid for the schema. -/
structure Generated (schema : Value) (declarations : List (String × Declaration)) : Prop where
  nodup : (declarations.map Prod.fst).Nodup
  compiles : Compiles (declarationNamed declarations)
  root : ∀ v, Valid (definitionNamed (definitionsOf schema)) NonNull schema v → v ≠ .null →
    Has (declarationNamed declarations) (.reference configurationName) v
  definition : ∀ name definition v, definitionNamed (definitionsOf schema) name = some definition →
    Valid (definitionNamed (definitionsOf schema)) NonNull definition v → NonNull definition v →
      Has (declarationNamed declarations) (.reference name) v
  null : ∀ name definition, definitionNamed (definitionsOf schema) name = some definition →
    losesNull definition = true → ¬ Has (declarationNamed declarations) (.reference name) .null

theorem not_has_null {declared : String → Option Declaration} {name : String} {definition : Value}
    (hdeclared : declared name = some (declarationOf definition))
    (h : losesNull definition = true) : ¬ Has declared (.reference name) .null := by
  intro hnull
  cases hnull with
  | type htype hhas =>
    rw [hdeclared] at htype
    unfold declarationOf at htype
    dsimp only at htype
    split at htype
    · simp_all [losesNull]
    · simp_all [losesNull]
    · cases htype
    · cases htype
    · cases htype
    · cases htype
      cases hhas
    · simp_all [losesNull]
    · simp_all [losesNull]

theorem distinct_interfaceOf {names : List String} {definition : Value}
    (h : SupportedObject names definition) {required : List String} {hasNamedProps : Bool}
    {members : List Member} {index : Option Ty}
    (hinterface : interfaceOf definition required hasNamedProps = .interface members index) :
    (members.map Member.name).Nodup := by
  cases hinterface
  have hnames : Member.name ∘ memberOf required = Prod.fst := rfl
  rw [List.map_map, hnames]
  exact h.distinct

theorem distinct_declarationOf {names : List String} {definition : Value}
    (h : SupportedObject names definition) {members : List Member} {index : Option Ty}
    (hinterface : declarationOf definition = .interface members index) :
    (members.map Member.name).Nodup := by
  unfold declarationOf at hinterface
  cases hkind : classifyDef definition with
  | discriminatedUnion =>
    rw [hkind] at hinterface
    exact distinct_interfaceOf h hinterface
  | nullableObject =>
    rw [hkind] at hinterface
    exact distinct_interfaceOf h hinterface
  | object =>
    rw [hkind] at hinterface
    exact distinct_interfaceOf h hinterface
  | _ =>
    rw [hkind] at hinterface
    cases hinterface

theorem intended_cases {schema : Value} {name : String} {d : Declaration}
    (h : intended schema name = some d) : d = objectInterface schema ∨
      ∃ definition, definitionNamed (definitionsOf schema) name = some definition ∧
        d = declarationOf definition := by
  unfold intended at h
  split at h
  · cases h
    exact Or.inl rfl
  · obtain ⟨definition, hdefinition, rfl⟩ := Option.map_eq_some_iff.mp h
    exact Or.inr ⟨definition, hdefinition, rfl⟩

theorem intended_definition {schema : Value} (h : SupportedSchema schema) {name : String}
    {definition : Value} (hdefinition : definitionNamed (definitionsOf schema) name = some definition) :
    intended schema name = some (declarationOf definition) := by
  rw [intended, if_neg (h.names name (mem_of_definitionNamed hdefinition)).2, hdefinition]
  rfl

theorem compiles_intended {schema : Value} (h : SupportedSchema schema) :
    Compiles (intended schema) where
  named := by
    intro name d hd other hother
    have hkey : other ∈ (definitionsOf schema).keys := by
      obtain rfl | ⟨definition, hdefinition, rfl⟩ := intended_cases hd
      · exact names_interfaceOf h.root _ _ other hother
      · exact names_declarationOf (h.definitions name definition hdefinition).toSupportedObject other
          hother
    rw [intended_definition h (definitionNamed_of_mem hkey)]
    rfl
  distinct := by
    intro name members index hd
    obtain hroot | ⟨definition, hdefinition, hdeclaration⟩ := intended_cases hd
    · exact distinct_interfaceOf h.root hroot.symm
    · exact distinct_declarationOf (h.definitions name definition hdefinition).toSupportedObject
        hdeclaration.symm
  within := h.within
  aliases := h.aliases

theorem declarationNamed_sorted {schema : Value} (h : SupportedSchema schema)
    {sortedNames : List String}
    (hsorted : ∀ name, name ∈ sortedNames ↔ name ∈ (definitionsOf schema).keys) :
    declarationNamed (sortedDeclarations (definitionsOf schema) sortedNames ++
      [(configurationName, objectInterface schema)]) = intended schema := by
  funext name
  rw [declarationNamed, sortedDeclarations]
  by_cases hmem : name ∈ sortedNames
  · have hdefinition := definitionNamed_of_mem ((hsorted name).mp hmem)
    rw [lookup_map hmem, intended_definition h hdefinition]
  · rw [lookup_map_of_not_mem hmem, List.lookup_cons, intended]
    by_cases hname : name = configurationName
    · rw [if_pos hname, hname, beq_self_eq_true]
    · have hnone : definitionNamed (definitionsOf schema) name = none := by
        by_contra hsome
        obtain ⟨definition, hdefinition⟩ := Option.ne_none_iff_exists'.mp hsome
        exact hmem ((hsorted name).mpr (mem_of_definitionNamed hdefinition))
      rw [if_neg hname, beq_false_of_ne hname, hnone]
      rfl

theorem generated_of_sorted {schema : Value} (h : SupportedSchema schema) {sortedNames : List String}
    (hsorted : ∀ name, name ∈ sortedNames ↔ name ∈ (definitionsOf schema).keys)
    (hnodup : sortedNames.Nodup) :
    Generated schema (sortedDeclarations (definitionsOf schema) sortedNames ++
      [(configurationName, objectInterface schema)]) := by
  have hroot : configurationName ∉ sortedNames := fun hmem =>
    (h.names _ ((hsorted _).mp hmem)).2 rfl
  have hlookup (name : String) (definition : Value)
      (hdefinition : definitionNamed (definitionsOf schema) name = some definition) :=
    intended_definition h hdefinition
  have hdeclared : Declared (definitionsOf schema) (intended schema) :=
    ⟨h.within, hlookup, h.definitions⟩
  have hnamed := declarationNamed_sorted h hsorted
  refine ⟨?_, hnamed ▸ compiles_intended h, fun v hvalid hnonNull => ?_,
    fun name definition v hdefinition hvalid hnonNull => ?_, fun name definition hdefinition =>
      hnamed ▸ not_has_null (hlookup name definition hdefinition)⟩
  · rw [List.map_append, sortedDeclarations, List.map_map]
    have hnames : (Prod.fst ∘ fun name => (name, declarationOf (definitionAt (definitionsOf schema)
        name))) = (id : String → String) := rfl
    rw [hnames, List.map_id, List.nodup_append]
    refine ⟨hnodup, List.nodup_singleton _, fun a ha b hb hab => ?_⟩
    rw [hab, List.mem_singleton.mp hb] at ha
    exact hroot ha
  · have hlast : intended schema configurationName = some (objectInterface schema) := if_pos rfl
    have hobject : ∃ fields, v = .object fields := by
      cases hvalid with
      | intro _ _ _ _ htype =>
        rcases onlyType_cases h.type htype with hjson | ⟨hnull, -⟩
        · exact eq_object hjson
        · exact absurd hnull hnonNull
    obtain ⟨fields, hfields⟩ := hobject
    rw [hnamed]
    exact (valid_has hdeclared hvalid).2.1 h.root fields hfields _ _ _ (fun _ hn => hn) hlast
  · rw [hnamed]
    exact (valid_has hdeclared hvalid).2.2 (h.definitions name definition hdefinition) hnonNull name
      (hlookup name definition hdefinition)

def textSchema : Value := .object [("type", .string "string")]

def samplerDefinition : Value := .object [
  ("type", .array [.string "object", .string "null"]),
  ("additionalProperties", .object [("type", .array [.string "object", .string "null"])]),
  ("properties", .object [("always_on", .object [("$ref", .string "#/$defs/AlwaysOn")])])]

def alwaysOnDefinition : Value := .object [
  ("type", .array [.string "object", .string "null"]), ("additionalProperties", .bool false)]

def samplingSchema : Value := .object [
  ("title", .string "Sampling"), ("type", .string "object"),
  ("properties", .object [
    ("sampler", .object [("$ref", .string "#/$defs/Sampler")]),
    ("names", .object [("type", .string "array"), ("items", textSchema)])]),
  ("required", .array [.string "sampler"]),
  ("$defs", .object [("Sampler", samplerDefinition), ("AlwaysOn", alwaysOnDefinition)])]

example : generateTypes 3 samplingSchema = some [header, "",
    "export type AlwaysOn = Record<string, never> | null;", "",
    "export interface Sampler \x7b", "  always_on?: AlwaysOn;",
    "  [key: string]: object | null | undefined;", "\x7d", "",
    "/**", " * Sampling", " */",
    "export interface OpenTelemetryConfiguration \x7b", "  sampler: Sampler;", "  names?: string[];",
    "\x7d", ""] := by decide +kernel

theorem supported_textSchema (names : List String) : Supported names textSchema := by
  refine .intro (fun ref h => ?_) (fun h => ?_) (fun types h => ?_) (fun h => ?_) (fun h => ?_)
    fun h => ?_ <;> cases h

theorem supported_reference {names : List String} {name ref : String} (h : name ∈ names)
    (hname : IsTypeName name) (href : ref = "#/$defs/" ++ name) :
    Supported names (.object [("$ref", .string ref)]) := by
  refine .intro (fun ref' h' => ⟨name, h, ?_, hname⟩) (fun h => ?_) (fun types h => ?_)
    (fun h => ?_) (fun h => ?_) fun h => ?_
  · have hrefOf : refOf (.object [("$ref", .string ref)]) = if ref = "" then none else some ref := rfl
    rw [hrefOf] at h'
    split at h'
    · cases h'
    · rw [← href, Option.some_inj.mp h']
  all_goals cases h

theorem supported_names (names : List String) :
    Supported names (.object [("type", .string "array"), ("items", textSchema)]) := by
  refine .intro (fun ref h => ?_) (fun h => ?_) (fun types h => ?_)
    (fun _ => supported_textSchema names) (fun _ => by decide +kernel) fun h => ?_ <;> cases h

theorem supported_nullable (names : List String) :
    Supported names (.object [("type", .array [.string "object", .string "null"])]) := by
  refine .intro (fun ref h => ?_) (fun h => ?_) (fun types h _ t ht => ?_) (fun h => ?_)
    (fun h => ?_) fun h => ?_
  case refine_3 =>
    cases h
    obtain rfl | rfl : t = .string "object" ∨ t = .string "null" := by simpa using ht
    · exact Or.inl rfl
    · exact Or.inr rfl
  all_goals cases h

theorem definition_cases {name : String} {definition : Value}
    (h : definitionNamed (definitionsOf samplingSchema) name = some definition) :
    definition = samplerDefinition ∨ definition = alwaysOnDefinition := by
  obtain ⟨properties, hget, rfl⟩ := Option.map_eq_some_iff.mp h
  have hentries : (definitionsOf samplingSchema).entries =
      [("Sampler", entries samplerDefinition), ("AlwaysOn", entries alwaysOnDefinition)] := rfl
  have hmem := OrderedMap.get?_eq_some.mp hget
  simp only [hentries, List.mem_cons, Prod.mk.injEq, List.not_mem_nil, or_false] at hmem
  obtain ⟨-, rfl⟩ | ⟨-, rfl⟩ := hmem
  · exact Or.inl rfl
  · exact Or.inr rfl

theorem onlyType_nullable {definition : Value}
    (h : definition.property "type" = .array [.string "object", .string "null"]) :
    OnlyType "object" definition := by
  refine Or.inr ⟨_, h, fun t ht => ?_⟩
  simpa using ht

theorem supported_sampler : SupportedDefinition ["Sampler", "AlwaysOn"] samplerDefinition where
  properties := by
    intro prop hprop
    obtain rfl := List.mem_singleton.mp hprop
    have hname : "AlwaysOn" ∈ ["Sampler", "AlwaysOn"] := by decide
    refine ⟨supported_reference hname (by decide) (by decide), ?_, List.all_eq_true.mp (by decide)⟩
    rintro text ⟨⟩
  distinct := by decide
  additional := fun _ _ => supported_nullable _
  description := by
    rintro text ⟨⟩
  enum := by
    rintro ⟨⟩
  type := by
    rintro name ⟨⟩
    exact onlyType_nullable rfl

theorem supported_alwaysOn : SupportedDefinition ["Sampler", "AlwaysOn"] alwaysOnDefinition where
  properties := by
    intro prop hprop
    cases hprop
  distinct := by decide
  additional := by
    rintro ⟨⟩
  description := by
    rintro text ⟨⟩
  enum := by
    rintro ⟨⟩
  type := by
    rintro name ⟨⟩
    exact onlyType_nullable rfl

theorem declaration_sampler : declarationOf samplerDefinition =
    .interface [⟨"always_on", true, .reference "AlwaysOn"⟩]
      (some (.union .object (.union .null .undefined))) := by
  decide +kernel

theorem declaration_alwaysOn :
    declarationOf alwaysOnDefinition = .type (.union (.record .never) .null) := by
  decide +kernel

theorem declaration_cases {name : String} {d : Declaration}
    (h : intended samplingSchema name = some d) : d = objectInterface samplingSchema ∨
      d = declarationOf samplerDefinition ∨ d = declarationOf alwaysOnDefinition := by
  obtain rfl | ⟨definition, hdefinition, rfl⟩ := intended_cases h
  · exact Or.inl rfl
  · rcases definition_cases hdefinition with rfl | rfl
    · exact Or.inr (Or.inl rfl)
    · exact Or.inr (Or.inr rfl)

theorem intended_alwaysOn : intended samplingSchema "AlwaysOn" =
    some (.type (.union (.record .never) .null)) := by
  decide +kernel

theorem within_sampling : MembersWithin (intended samplingSchema) := by
  intro name members t hname m hm
  obtain hroot | hsampler | halwaysOn := declaration_cases hname
  · cases hroot
  · rw [declaration_sampler] at hsampler
    cases hsampler
    obtain rfl := List.mem_singleton.mp hm
    refine .cases (.type intended_alwaysOn (.cases ?_ ?_)) ?_
    · exact .left (.record .never)
    · exact .right (.left (.refl .null))
    · exact .right (.right (.refl .undefined))
  · rw [declaration_alwaysOn] at halwaysOn
    cases halwaysOn

theorem not_mentions_sampling (name other : String) :
    ¬ Mentions (intended samplingSchema) name other := by
  rintro ⟨t, hname, hother⟩
  obtain hroot | hsampler | halwaysOn := declaration_cases hname
  · cases hroot
  · rw [declaration_sampler] at hsampler
    cases hsampler
  · rw [declaration_alwaysOn] at halwaysOn
    cases halwaysOn
    cases hother

theorem supported_samplingSchema : SupportedSchema samplingSchema where
  names := by decide +kernel
  definitions := by
    intro name definition h
    rcases definition_cases h with rfl | rfl
    · exact supported_sampler
    · exact supported_alwaysOn
  inherited := by
    intro name other hrefers hother
    obtain ⟨properties, hget, hrefersTo⟩ := hrefers
    have hcollected := (mem_collectRefs other (.object properties) []).mpr (Or.inr hrefersTo)
    rcases definition_cases (congrArg (Option.map Value.object) hget) with h | h
    · rw [h] at hcollected
      obtain rfl : other = "AlwaysOn" := List.mem_singleton.mp hcollected
      decide +kernel
    · rw [h] at hcollected
      cases hcollected
  root := {
    properties := by
      intro prop hprop
      obtain rfl | rfl : prop = ("sampler", .object [("$ref", .string "#/$defs/Sampler")]) ∨
          prop = ("names", .object [("type", .string "array"), ("items", textSchema)]) := by
        simpa [samplingSchema, entries, Value.property] using hprop
      · have hname : "Sampler" ∈ ["Sampler", "AlwaysOn"] := by decide
        refine ⟨supported_reference hname (by decide) (by decide), ?_, List.all_eq_true.mp (by decide)⟩
        rintro text ⟨⟩
      · refine ⟨supported_names _, ?_, List.all_eq_true.mp (by decide)⟩
        rintro text ⟨⟩
    distinct := by decide
    additional := by
      rintro ⟨⟩ }
  description := by
    rintro text ⟨⟩
    decide +kernel
  type := Or.inl rfl
  within := within_sampling
  aliases := by
    intro name hround
    obtain ⟨other, hmentions, -⟩ := Relation.TransGen.head'_iff.mp hround
    exact not_mentions_sampling name other hmentions

end SplunkOtel.Generator
