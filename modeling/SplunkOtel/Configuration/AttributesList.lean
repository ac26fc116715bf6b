import SplunkOtel.Configuration.Resource
import SplunkOtel.Js.Encoding

/-!
# The attributes list of the resource (`src/configuration.ts`)

The list has the format of `OTEL_RESOURCE_ATTRIBUTES`. What is written in that format is compared
with what the config resource has for it.
-/

open Lib

namespace SplunkOtel.Configuration

open Js

/-! ## The format -/

/-- Printable ASCII characters that the format does not reserve. -/
def baggageOctet (c : Char) : Prop :=
  c.toNat = 0x21 ∨ 0x23 ≤ c.toNat ∧ c.toNat ≤ 0x2B ∨ 0x2D ≤ c.toNat ∧ c.toNat ≤ 0x3A ∨
    0x3C ≤ c.toNat ∧ c.toNat ≤ 0x5B ∨ 0x5D ≤ c.toNat ∧ c.toNat ≤ 0x7E

/-- Each byte is written as `%` and two hexadecimal digits. -/
inductive WritesBytes : List UInt8 → List Char → Prop
  | nil : WritesBytes [] []
  | cons {byte : UInt8} {bytes : List UInt8} {high low : Char} {h l : ℕ} {text : List Char}
      (hhigh : digitValue high = some h) (hlow : digitValue low = some l) (hh : h < 16)
      (hl : l < 16) (hbyte : byte.toNat = 16 * h + l) (rest : WritesBytes bytes text) :
      WritesBytes (byte :: bytes) ('%' :: high :: low :: text)

/-- A character is written as itself or by the bytes of its UTF-8 code. -/
inductive PercentEncodes : List Char → List Char → Prop
  | nil : PercentEncodes [] []
  | plain {c : Char} {value encoded : List Char} (hc : baggageOctet c) (hpercent : c ≠ '%')
      (rest : PercentEncodes value encoded) : PercentEncodes (c :: value) (c :: encoded)
  | percent {c : Char} {digits value encoded : List Char}
      (hdigits : WritesBytes (String.utf8EncodeChar c) digits)
      (rest : PercentEncodes value encoded) : PercentEncodes (c :: value) (digits ++ encoded)

/-- An attribute as it stands in the list, with white space around its key and its value. -/
structure WrittenAttribute where
  key : String
  value : String
  encoded : String
  beforeKey : List Char := []
  afterKey : List Char := []
  beforeValue : List Char := []
  afterValue : List Char := []
  key_ne : key ≠ ""
  key_plain : ∀ c ∈ key.toList, isWhiteSpace c = false ∧ c ≠ ',' ∧ c ≠ '='
  spaces : ∀ c ∈ beforeKey ++ afterKey ++ beforeValue ++ afterValue, c = ' ' ∨ c = '\t'
  encodes : PercentEncodes value.toList encoded.toList

def WrittenAttribute.text (attr : WrittenAttribute) : String :=
  String.ofList (attr.beforeKey ++ attr.key.toList ++ attr.afterKey ++
    '=' :: (attr.beforeValue ++ attr.encoded.toList ++ attr.afterValue))

/-- Attributes with different keys. -/
structure AttributesList where
  attributes : List WrittenAttribute
  distinct : (attributes.map (·.key)).Nodup

def AttributesList.text (list : AttributesList) : String :=
  join (list.attributes.map (·.text)) ","

/-- The node `attributes`, as the schema has it. -/
def AttributesNode (node : Value) : Prop :=
  node = .undefined ∨ node = .null ∨
    ∃ items, node = .array items ∧ ∀ item ∈ items, ∃ name, item.property "name" = .string name

/-! ## What the format gives -/

section Decoding

variable (sdk : ResourceSdk) (numberToString : Number → String)

/-- Each attribute has the value of the node `attributes`, where there is one, or else the one in
the list. -/
def Decodes (list : AttributesList) (config : Value) : Prop :=
  ∃ resource, configGetResource sdk numberToString (some config) = .ok resource ∧
    ∀ attr ∈ list.attributes,
      (sdk.getRawAttributes resource).lookup attr.key =
        some (((attributeEntries numberToString
          ((config.property "resource").property "attributes")).reverse.lookup
            attr.key).getD (.string attr.value))

/-- Nothing is percent-encoded, and there is no white space around the `=`, and no second `=`. -/
def WrittenPlainly (attr : WrittenAttribute) : Prop :=
  '%' ∉ attr.encoded.toList ∧ '=' ∉ attr.encoded.toList ∧ attr.afterKey = [] ∧
    (attr.beforeValue = [] ∨ attr.encoded = "")

end Decoding

/-! ## Encoded values -/

theorem baggageOctet_of_digitValue {c : Char} {n : ℕ} (h : digitValue c = some n) :
    baggageOctet c := by
  unfold digitValue at h
  simp only [Char.le_def, UInt32.le_iff_toNat_le] at h
  unfold baggageOctet Char.toNat
  split at h
  · rename_i hc
    have := hc.1
    have := hc.2
    simp at *
    omega
  · split at h
    · rename_i hc
      simp at *
      omega
    · split at h
      · rename_i hc
        simp at *
        omega
      · cases h

theorem WritesBytes.baggageOctet {bytes : List UInt8} {text : List Char}
    (h : WritesBytes bytes text) : ∀ c ∈ text, baggageOctet c := by
  induction h with
  | nil => simp
  | cons hhigh hlow _ _ _ _ ih =>
    intro c hc
    rcases List.mem_cons.mp hc with rfl | hc
    · exact Or.inr (Or.inl (by decide))
    rcases List.mem_cons.mp hc with rfl | hc
    · exact baggageOctet_of_digitValue hhigh
    rcases List.mem_cons.mp hc with rfl | hc
    · exact baggageOctet_of_digitValue hlow
    · exact ih c hc

theorem WritesBytes.length {bytes : List UInt8} {text : List Char} (h : WritesBytes bytes text) :
    text.length = 3 * bytes.length := by
  induction h with
  | nil => rfl
  | cons _ _ _ _ _ _ ih =>
    simp only [List.length_cons, ih]
    omega

theorem WritesBytes.mem_percent {bytes : List UInt8} {text : List Char}
    (h : WritesBytes bytes text) (hne : bytes ≠ []) : '%' ∈ text := by
  cases h with
  | nil => exact absurd rfl hne
  | cons => exact List.mem_cons_self

theorem PercentEncodes.baggageOctet {value encoded : List Char} (h : PercentEncodes value encoded) :
    ∀ c ∈ encoded, baggageOctet c := by
  induction h with
  | nil => simp
  | plain hc _ _ ih =>
    intro c hmem
    rcases List.mem_cons.mp hmem with rfl | hmem
    · exact hc
    · exact ih c hmem
  | percent hdigits _ ih =>
    intro c hmem
    rcases List.mem_append.mp hmem with hmem | hmem
    · exact hdigits.baggageOctet c hmem
    · exact ih c hmem

theorem PercentEncodes.length_le {value encoded : List Char} (h : PercentEncodes value encoded) :
    value.length ≤ encoded.length := by
  induction h with
  | nil => exact Nat.le_refl _
  | plain _ _ _ ih => simpa using ih
  | @percent c _ _ _ hdigits _ ih =>
    have hlen := hdigits.length
    have hpos := List.length_pos_iff.mpr (String.utf8EncodeChar_ne_nil (c := c))
    simp only [List.length_cons, List.length_append]
    omega

theorem PercentEncodes.eq_iff {value encoded : List Char} (h : PercentEncodes value encoded) :
    encoded = value ↔ '%' ∉ encoded := by
  induction h with
  | nil => simp
  | plain _ hpercent _ ih => simp [ih, Ne.symm hpercent]
  | @percent c digits value encoded hdigits hrest ih =>
    have hne := String.utf8EncodeChar_ne_nil (c := c)
    refine iff_of_false (fun heq => ?_) (fun hnot => ?_)
    · have hlen := congrArg List.length heq
      have hdigitsLength := hdigits.length
      have hpos := List.length_pos_iff.mpr hne
      have hle := hrest.length_le
      simp only [List.length_cons, List.length_append] at hlen
      omega
    · exact hnot (List.mem_append_left _ (hdigits.mem_percent hne))

/-! ## Reading what is written -/

theorem isWhiteSpace_of_baggageOctet {c : Char} (h : baggageOctet c) : isWhiteSpace c = false := by
  unfold baggageOctet at h
  unfold isWhiteSpace
  simp only [List.mem_cons, List.not_mem_nil, or_false, decide_eq_false_iff_not]
  omega

namespace WrittenAttribute

variable (attr : WrittenAttribute)

theorem isWhiteSpace_of_mem {c : Char}
    (h : c ∈ attr.beforeKey ++ attr.afterKey ++ attr.beforeValue ++ attr.afterValue) :
    isWhiteSpace c = true := by
  rcases attr.spaces c h with rfl | rfl
  · decide
  · decide

/-- The part after the first `=`, as it is read. -/
def rest : List Char :=
  if attr.encoded = "" then [] else attr.beforeValue ++ attr.encoded.toList

/-- The white space after the text that is read. -/
def padding : List Char :=
  if attr.encoded = "" then attr.beforeValue ++ attr.afterValue else attr.afterValue

theorem rest_padding :
    attr.rest ++ attr.padding = attr.beforeValue ++ attr.encoded.toList ++ attr.afterValue := by
  unfold rest padding
  split
  · rename_i h
    simp [h]
  · rfl

theorem isWhiteSpace_padding : ∀ c ∈ attr.padding, isWhiteSpace c = true := by
  intro c hc
  apply attr.isWhiteSpace_of_mem
  unfold padding at hc
  split at hc
  · rcases List.mem_append.mp hc with hc | hc <;> simp [hc]
  · simp [hc]

theorem key_toList_ne : attr.key.toList ≠ [] := mt String.toList_eq_nil_iff.mp attr.key_ne

theorem isWhiteSpace_getLast (hne : attr.rest ≠ []) :
    isWhiteSpace (attr.rest.getLast hne) = false := by
  have hencoded : attr.encoded ≠ "" := by
    intro h
    exact hne (if_pos h)
  have hlist : attr.encoded.toList ≠ [] := mt String.toList_eq_nil_iff.mp hencoded
  have hrest : attr.rest = attr.beforeValue ++ attr.encoded.toList := if_neg hencoded
  apply isWhiteSpace_of_baggageOctet
  apply attr.encodes.baggageOctet
  simp only [hrest, List.getLast_append_of_ne_nil _ hlist]
  exact List.getLast_mem hlist

theorem trim_text :
    trim attr.text = String.ofList (attr.key.toList ++ attr.afterKey ++ '=' :: attr.rest) := by
  have htext : attr.text = String.ofList (attr.beforeKey ++
      (attr.key.toList ++ attr.afterKey ++ '=' :: attr.rest) ++ attr.padding) := by
    unfold text
    rw [← attr.rest_padding]
    simp
  obtain ⟨c, cs, hkey⟩ := List.exists_cons_of_ne_nil attr.key_toList_ne
  rw [htext]
  refine trim_padded (fun c hc => attr.isWhiteSpace_of_mem (by simp [hc]))
    attr.isWhiteSpace_padding (by simp) ?_ ?_
  · simp only [hkey, List.cons_append, List.head_cons]
    exact (attr.key_plain c (by simp [hkey])).1
  · rw [List.getLast_append_of_ne_nil _ (List.cons_ne_nil _ _)]
    by_cases hne : attr.rest = []
    · simp only [hne, List.getLast_singleton]
      decide
    · rw [List.getLast_cons hne]
      exact attr.isWhiteSpace_getLast hne

theorem equals_not_mem_key : '=' ∉ attr.key.toList ++ attr.afterKey := by
  intro h
  rcases List.mem_append.mp h with h | h
  · exact (attr.key_plain _ h).2.2 rfl
  · exact absurd (attr.isWhiteSpace_of_mem (c := '=') (by simp [h])) (by decide)

theorem mem_rest_equals : '=' ∈ attr.rest ↔ '=' ∈ attr.encoded.toList := by
  have hspaces : '=' ∉ attr.beforeValue := by
    intro h
    exact absurd (attr.isWhiteSpace_of_mem (c := '=') (by simp [h])) (by decide)
  unfold rest
  split
  · rename_i h
    simp [h]
  · simp [hspaces]

theorem assignment_text :
    assignment attr.text =
      if '=' ∈ attr.encoded.toList then none
      else some (String.ofList (attr.key.toList ++ attr.afterKey),
        .string (String.ofList attr.rest)) := by
  unfold assignment
  rw [attr.trim_text, split_cons attr.equals_not_mem_key]
  simp only [← attr.mem_rest_equals]
  by_cases h : '=' ∈ attr.rest
  · have htwo := two_le_length_split (s := String.ofList attr.rest) (by simpa using h)
    rw [if_pos h]
    generalize split (String.ofList attr.rest) '=' = parts at htwo
    cases parts with
    | nil => simp at htwo
    | cons part parts =>
      cases parts with
      | nil => simp at htwo
      | cons => rfl
  · rw [if_neg h, split_of_not_mem (by simpa using h)]

theorem key_of_assignment {name : String} {value : Value}
    (hname : ∀ c ∈ name.toList, isWhiteSpace c = false)
    (h : assignment attr.text = some (name, value)) : attr.key = name := by
  rw [attr.assignment_text] at h
  split at h
  · cases h
  · cases h
    cases hafter : attr.afterKey with
    | nil => simp
    | cons c cs =>
      have hwhite := attr.isWhiteSpace_of_mem (c := c) (by simp [hafter])
      rw [hname c (by simp [hafter])] at hwhite
      cases hwhite

theorem rest_eq_iff : attr.rest = attr.value.toList ↔
    '%' ∉ attr.encoded.toList ∧ (attr.beforeValue = [] ∨ attr.encoded = "") := by
  have hle := attr.encodes.length_le
  rw [← attr.encodes.eq_iff]
  unfold rest
  by_cases hempty : attr.encoded = ""
  · have hvalue : attr.value.toList = [] := by
      apply List.eq_nil_of_length_eq_zero
      simpa [hempty] using hle
    simp [hempty, hvalue]
  · rw [if_neg hempty]
    constructor
    · intro h
      have hlength := congrArg List.length h
      rw [List.length_append] at hlength
      have hbefore : attr.beforeValue = [] := List.eq_nil_of_length_eq_zero (by omega)
      rw [hbefore, List.nil_append] at h
      exact ⟨h, Or.inl hbefore⟩
    · rintro ⟨h, hbefore⟩
      rw [hbefore.resolve_right hempty, h, List.nil_append]

theorem assignment_eq_iff :
    assignment attr.text = some (attr.key, .string attr.value) ↔ WrittenPlainly attr := by
  have hkey : String.ofList (attr.key.toList ++ attr.afterKey) = attr.key ↔
      attr.afterKey = [] := by
    rw [← String.toList_inj, String.toList_ofList]
    simp
  have hvalue : String.ofList attr.rest = attr.value ↔ attr.rest = attr.value.toList := by
    rw [← String.toList_inj, String.toList_ofList]
  rw [attr.assignment_text]
  unfold WrittenPlainly
  by_cases h : '=' ∈ attr.encoded.toList
  · simp [h]
  · rw [if_neg h, Option.some.injEq, Prod.mk.injEq, Value.string.injEq, hkey, hvalue,
      attr.rest_eq_iff]
    tauto

theorem mem_text {c : Char} (h : c ∈ attr.text.toList) :
    isWhiteSpace c = true ∨ c ∈ attr.key.toList ∨ c = '=' ∨ c ∈ attr.encoded.toList := by
  have hwhite := attr.isWhiteSpace_of_mem (c := c)
  unfold text at h
  rw [String.toList_ofList] at h
  simp only [List.mem_append, List.mem_cons] at h hwhite
  tauto

theorem comma_not_mem_text : ',' ∉ attr.text.toList := by
  intro h
  rcases attr.mem_text h with h | h | h | h
  · exact absurd h (by decide)
  · exact (attr.key_plain _ h).2.1 rfl
  · exact absurd h (by decide)
  · exact absurd (attr.encodes.baggageOctet _ h) (by unfold baggageOctet; decide)

end WrittenAttribute

/-! ## The list -/

theorem split_text {attrs : List WrittenAttribute} (hne : attrs ≠ []) :
    split (join (attrs.map (·.text)) ",") ',' = attrs.map (·.text) := by
  have hcomma : String.singleton ',' = "," := rfl
  rw [← hcomma]
  apply split_join
  · simpa using hne
  · simp [WrittenAttribute.comma_not_mem_text]

theorem listEntries_text (list : AttributesList) :
    listEntries (.string list.text) =
      list.attributes.filterMap fun attr => assignment attr.text := by
  unfold listEntries AttributesList.text
  by_cases hne : list.attributes = []
  · have hempty : (split "" ',').filterMap assignment = [] := by decide
    rw [hne]
    exact hempty
  · simp only
    rw [split_text hne, List.filterMap_map]
    simp only [Function.comp_def]

theorem lookup_filterMap {A K V : Type*} [DecidableEq K] {l : List A} {f : A → Option (K × V)}
    {a : A} {k : K} (ha : a ∈ l) (h : ∀ b ∈ l, ∀ v, f b = some (k, v) → b = a) (v : V) :
    (l.filterMap f).reverse.lookup k = some v ↔ f a = some (k, v) := by
  have hfound (w : V) (hw : (l.filterMap f).reverse.lookup k = some w) : f a = some (k, w) := by
    obtain ⟨before, after, heq, -⟩ := List.lookup_eq_some_iff.mp hw
    have hmem : (k, w) ∈ l.filterMap f := by
      rw [← List.mem_reverse, heq]
      exact List.mem_append_right _ List.mem_cons_self
    obtain ⟨b, hb, hfb⟩ := List.mem_filterMap.mp hmem
    rw [← h b hb w hfb]
    exact hfb
  refine ⟨hfound v, fun hv => ?_⟩
  have hmem : (k, v) ∈ (l.filterMap f).reverse :=
    List.mem_reverse.mpr (List.mem_filterMap.mpr ⟨a, ha, hv⟩)
  cases hlookup : (l.filterMap f).reverse.lookup k with
  | none =>
    rw [List.lookup_eq_none_iff] at hlookup
    exact absurd (hlookup _ hmem) (by simp)
  | some w =>
    have hw := hfound w hlookup
    rw [hv] at hw
    cases hw
    rfl

theorem lookup_listEntries (list : AttributesList) {attr : WrittenAttribute}
    (hattr : attr ∈ list.attributes) :
    (listEntries (.string list.text)).reverse.lookup attr.key = some (.string attr.value) ↔
      WrittenPlainly attr := by
  rw [listEntries_text, lookup_filterMap hattr, attr.assignment_eq_iff]
  intro other hother value hvalue
  apply List.inj_on_of_nodup_map list.distinct hother hattr
  exact other.key_of_assignment (fun c hc => (attr.key_plain c hc).1) hvalue

section Decoding

variable (sdk : ResourceSdk) (numberToString : Number → String)

theorem resourceFromConfigAttributes_eq {node : Value} (h : AttributesNode node) :
    ∃ resource, resourceFromConfigAttributes sdk numberToString node = .ok resource ∧
      ∀ key, (sdk.getRawAttributes resource).lookup key =
        if key = "__proto__" then none
        else (attributeEntries numberToString node).reverse.lookup key := by
  rcases h with rfl | rfl | ⟨items, rfl, hitems⟩
  · exact ⟨_, rfl, fun key => by rw [lookup_emptyResource]; simp [attributeEntries]⟩
  · exact ⟨_, rfl, fun key => by rw [lookup_emptyResource]; simp [attributeEntries]⟩
  · have hok : ∀ item ∈ items, ∃ entry, configAttribute numberToString item = .ok entry := by
      intro item hitem
      obtain ⟨name, hname⟩ := hitems item hitem
      unfold configAttribute
      cases item with
      | undefined => cases hname
      | null => cases hname
      | _ => exact ⟨_, rfl⟩
    obtain ⟨attributes, hattributes⟩ := (exists_mapM_eq_ok _ _).mpr hok
    refine ⟨sdk.resourceFromAttributes (objectOf attributes), ?_, fun key => ?_⟩
    · simp only [resourceFromConfigAttributes, Value.items, ok_bind, hattributes]
      rfl
    · rw [lookup_fromObject, mapM_configAttribute numberToString hattributes]

theorem textOrEmpty_string (s : String) : textOrEmpty (.string s) = .ok s := by
  unfold textOrEmpty Value.or
  by_cases h : s = ""
  · simp [Value.truthy, h]
  · simp [Value.truthy, h]

/-- **The attributes list.** Every attribute has its value exactly when none is called `__proto__`,
and each is either written plainly or given by the node `attributes` as well. -/
theorem attributes_list_decoded_iff (list : AttributesList) {config : Value}
    (hlist : (config.property "resource").property "attributes_list" = .string list.text)
    (hnode : AttributesNode ((config.property "resource").property "attributes")) :
    Decodes sdk numberToString list config ↔
      ∀ attr ∈ list.attributes, attr.key ≠ "__proto__" ∧
        (WrittenPlainly attr ∨
          ((attributeEntries numberToString ((config.property "resource").property
            "attributes")).reverse.lookup attr.key).isSome) := by
  obtain ⟨fromNode, hfromNode, hlookup⟩ :=
    resourceFromConfigAttributes_eq sdk numberToString hnode
  have hresource : configGetResource sdk numberToString (some config) =
      .ok (sdk.merge (resourceFromString sdk list.text) fromNode) := by
    unfold configGetResource
    simp only
    split
    · rename_i hundefined
      rw [hundefined] at hlist
      cases hlist
    · rename_i hnull
      rw [hnull] at hlist
      cases hlist
    · rw [hlist, textOrEmpty_string, ok_bind, hfromNode]
      rfl
  unfold Decodes
  rw [hresource]
  simp only [Except.ok.injEq, exists_eq_left', sdk.lookup_merge, hlookup]
  refine forall₂_congr fun attr hattr => ?_
  have hread := lookup_listEntries list hattr
  unfold listEntries at hread
  unfold resourceFromString
  rw [lookup_fromObject]
  by_cases hproto : attr.key = "__proto__"
  · simp [hproto]
  · rw [if_neg hproto, if_neg hproto]
    cases hentry : (attributeEntries numberToString ((config.property "resource").property
        "attributes")).reverse.lookup attr.key with
    | none => simpa [hproto] using hread
    | some value => simp [hproto]

end Decoding

/-- A config file with nothing but the list. -/
def configWithList (text : String) : Value :=
  .object [("resource", .object [("attributes_list", .string text)])]

theorem encodes_space : PercentEncodes "a b".toList "a%20b".toList := by
  have hspace : WritesBytes (String.utf8EncodeChar ' ') ['%', '2', '0'] :=
    .cons (h := 2) (l := 0) rfl rfl (by decide) (by decide) rfl .nil
  have hletter {c : Char} (hc : c = 'a' ∨ c = 'b') : baggageOctet c ∧ c ≠ '%' := by
    unfold baggageOctet
    rcases hc with rfl | rfl
    · decide
    · decide
  have hb := hletter (Or.inr rfl)
  have ha := hletter (Or.inl rfl)
  exact .plain ha.1 ha.2 (.percent hspace (.plain hb.1 hb.2 .nil))

/-- Two plain attributes, and one that is not. -/
def mixedList : AttributesList where
  attributes := [
    { key := "shop"
      value := "1"
      encoded := "1"
      beforeKey := [' ']
      key_ne := by decide
      key_plain := List.forall_iff_forall_mem.mp (by decide)
      spaces := by simp
      encodes := .plain (by unfold baggageOctet; decide) (by decide) .nil },
    { key := "region"
      value := "2"
      encoded := "2"
      afterValue := ['\t']
      key_ne := by decide
      key_plain := List.forall_iff_forall_mem.mp (by decide)
      spaces := by simp
      encodes := .plain (by unfold baggageOctet; decide) (by decide) .nil },
    { key := "note"
      value := "a b"
      encoded := "a%20b"
      key_ne := by decide
      key_plain := List.forall_iff_forall_mem.mp (by decide)
      spaces := by simp
      encodes := encodes_space }]
  distinct := by decide

/-- The node gives the note, and an attribute of its own. -/
def configWithNode (text : String) : Value :=
  .object [("resource", .object [
    ("attributes_list", .string text),
    ("attributes", .array [
      .object [("name", .string "note"), ("value", .string "c")],
      .object [("name", .string "zone"), ("value", .number 3)]])])]

theorem mixed_list_decoded :
    Decodes listResources (fun _ => "") mixedList (configWithNode mixedList.text) := by
  have hnode : AttributesNode
      (((configWithNode mixedList.text).property "resource").property "attributes") := by
    refine Or.inr (Or.inr ⟨_, rfl, fun item hitem => ?_⟩)
    simp only [List.mem_cons, List.not_mem_nil, or_false] at hitem
    obtain rfl | rfl := hitem
    · exact ⟨"note", rfl⟩
    · exact ⟨"zone", rfl⟩
  rw [attributes_list_decoded_iff listResources (fun _ => "") mixedList rfl hnode]
  intro attr hattr
  simp only [mixedList, List.mem_cons, List.not_mem_nil, or_false] at hattr
  obtain rfl | rfl | rfl := hattr
  · exact ⟨by decide, Or.inl ⟨by decide, by decide, rfl, Or.inl rfl⟩⟩
  · exact ⟨by decide, Or.inl ⟨by decide, by decide, rfl, Or.inl rfl⟩⟩
  · exact ⟨by decide, Or.inr (by decide)⟩

/-- The value `a b`. -/
def spacedList : AttributesList where
  attributes := [{
    key := "note"
    value := "a b"
    encoded := "a%20b"
    key_ne := by decide
    key_plain := by
      simp
      decide
    spaces := by simp
    encodes := encodes_space }]
  distinct := by decide

/-- The value is read as `a%20b`. -/
theorem percent_encoding_kept :
    ¬ Decodes listResources (fun _ => "") spacedList (configWithList spacedList.text) := by
  have htext : spacedList.text = "note=a%20b" := by decide
  rw [htext]
  rintro ⟨resource, hresource, hlookup⟩
  cases hresource
  have hvalue := hlookup _ List.mem_cons_self
  have hread : Value.string "a%20b" = .string "a b" := Option.some.inj hvalue
  exact absurd (Value.string.inj hread) (by decide)

end SplunkOtel.Configuration
