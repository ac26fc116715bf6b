import SplunkOtel.Configuration.Schema
import SplunkOtel.Lib.Except

/-!
# Null for an empty object

YAML reads a bare `otlp_http:` as null, and the schema admits null where an empty object is meant.
A builder is exact about nulls when it is known where it throws, and elsewhere it does not tell null
from an empty object.
-/

namespace SplunkOtel.Configuration

open Js Lib Schema

/-- The second value is the first one with empty objects in place of some of its nulls. -/
inductive NullAsEmpty : Value → Value → Prop
  | same (v : Value) : NullAsEmpty v v
  | empty : NullAsEmpty .null (.object [])
  | array {xs ys : List Value} (items : List.Forall₂ NullAsEmpty xs ys) :
    NullAsEmpty (.array xs) (.array ys)
  | object {ps qs : List (String × Value)} (names : ps.map Prod.fst = qs.map Prod.fst)
    (values : List.Forall₂ NullAsEmpty (ps.map Prod.snd) (qs.map Prod.snd)) :
    NullAsEmpty (.object ps) (.object qs)

/-- A value without values in it. -/
def Scalar : Value → Prop
  | .array _ => False
  | .object _ => False
  | _ => True

/-! ## Reading related values -/

theorem forall₂_properties {ps qs : List (String × Value)}
    (names : ps.map Prod.fst = qs.map Prod.fst)
    (values : List.Forall₂ NullAsEmpty (ps.map Prod.snd) (qs.map Prod.snd)) :
    List.Forall₂ (fun p q => p.1 = q.1 ∧ NullAsEmpty p.2 q.2) ps qs := by
  induction ps generalizing qs with
  | nil =>
    rw [List.map_nil] at names
    rw [List.map_eq_nil_iff.mp names.symm]
    exact List.Forall₂.nil
  | cons p ps ih =>
    rcases qs with _ | ⟨q, qs⟩
    · cases names
    · rw [List.map_cons, List.map_cons, List.cons.injEq] at names
      rw [List.map_cons, List.map_cons, List.forall₂_cons] at values
      exact List.Forall₂.cons ⟨names.1, values.1⟩ (ih names.2 values.2)

theorem find_properties {ps qs : List (String × Value)} (name : String)
    (h : List.Forall₂ (fun p q => p.1 = q.1 ∧ NullAsEmpty p.2 q.2) ps qs) :
    NullAsEmpty (((ps.find? (·.1 = name)).map Prod.snd).getD .undefined)
      (((qs.find? (·.1 = name)).map Prod.snd).getD .undefined) := by
  induction h with
  | nil => exact NullAsEmpty.same _
  | @cons p q ps qs hpq _ ih =>
    by_cases hname : p.1 = name
    · rw [List.find?_cons_of_pos (by simpa using hname),
        List.find?_cons_of_pos (by simpa [← hpq.1] using hname)]
      exact hpq.2
    · rw [List.find?_cons_of_neg (by simpa using hname),
        List.find?_cons_of_neg (by simpa [← hpq.1] using hname)]
      exact ih

namespace NullAsEmpty

theorem property {v w : Value} (h : NullAsEmpty v w) (name : String) :
    NullAsEmpty (v.property name) (w.property name) := by
  cases h with
  | same => exact same _
  | empty => exact same _
  | array => exact same _
  | object names values =>
    exact find_properties name (List.rel_reverse (forall₂_properties names values))

theorem isUndefined_eq {v w : Value} (h : NullAsEmpty v w) : v.isUndefined = w.isUndefined := by
  cases h <;> rfl

theorem eq_of_scalar {v w : Value} (h : NullAsEmpty v w) (hw : Scalar w) : v = w := by
  cases h with
  | same => rfl
  | empty => exact absurd hw id
  | array => exact absurd hw id
  | object => exact absurd hw id

theorem anyObject {v w : Value} (h : NullAsEmpty v w) (hv : anyObject v) : anyObject w := by
  obtain ⟨ps, rfl⟩ := hv
  cases h with
  | same => exact ⟨_, rfl⟩
  | object => exact ⟨_, rfl⟩

end NullAsEmpty

/-! ## Values that are valid -/

theorem scalar_of_text {v : Value} (h : v = .undefined ∨ nullable text v) : Scalar v := by
  rcases h with rfl | rfl | ⟨s, rfl⟩ <;> trivial

theorem scalar_of_number {v : Value} (h : v = .undefined ∨ nullable number v) : Scalar v := by
  rcases h with rfl | rfl | ⟨n, rfl⟩ <;> trivial

theorem read_of_anyObject {v : Value} (h : anyObject v) (name : String) :
    v.read name = .ok (v.property name) := by
  obtain ⟨properties, rfl⟩ := h
  rfl

theorem record_optional {required optional : List (String × Definition)} {v : Value}
    (h : v = .null ∨ record required optional v) (name : String) (valid : Definition)
    (hname : (name, valid) ∈ optional) :
    v.property name = .undefined ∨ valid (v.property name) := by
  rcases h with rfl | h
  · exact Or.inl rfl
  · exact h.2.2 _ hname

theorem oneOf_anyObject {alternatives : List (String × Definition)} {v : Value}
    (h : oneOf alternatives v) : anyObject v := by
  obtain ⟨name, node, rfl, -⟩ := h
  exact ⟨_, rfl⟩

theorem oneOf_property {alternatives : List (String × Definition)} {v : Value}
    (h : oneOf alternatives v) (name : String) (valid : Definition)
    (hname : (name, valid) ∈ alternatives) :
    v.property name = .undefined ∨ valid (v.property name) := by
  obtain ⟨name', node, rfl, -, halternatives⟩ := h
  by_cases heq : name' = name
  · subst heq
    rw [Value.property_single]
    exact Or.inr (halternatives _ hname rfl)
  · exact Or.inl (Value.property_single_ne node heq)

theorem oneOf_other {alternatives : List (String × Definition)} {v : Value}
    (h : oneOf alternatives v) {name other : String} (hne : name ≠ other)
    (hname : (v.property name).isUndefined = false) : v.property other = .undefined := by
  obtain ⟨name', node, rfl, -⟩ := h
  by_cases hother : name' = other
  · subst hother
    rw [Value.property_single_ne node (Ne.symm hne)] at hname
    cases hname
  · exact Value.property_single_ne node hother

/-! ## Builders -/

/-- On the values of a definition, the builder throws exactly where it is said to fail. Elsewhere it
builds the same with empty objects for nulls. -/
structure NullExact {α : Type} (valid : Definition) (fails : Value → Bool)
    (build : Value → Except Thrown α) : Prop where
  returns : ∀ v, valid v → ((∃ a, build v = .ok a) ↔ fails v = false)
  same : ∀ v w, valid v → valid w → NullAsEmpty v w → fails v = false → build v = build w

namespace NullExact

variable {α β : Type} {valid : Definition} {fails : Value → Bool}
  {build : Value → Except Thrown α}

theorem map (h : NullExact valid fails build) (f : α → β) :
    NullExact valid fails fun v => build v >>= fun a => .ok (f a) where
  returns v hv := by
    rw [← h.returns v hv]
    constructor
    · rintro ⟨b, hb⟩
      obtain ⟨a, ha, -⟩ := bind_eq_ok.mp hb
      exact ⟨a, ha⟩
    · rintro ⟨a, ha⟩
      exact ⟨f a, bind_eq_ok.mpr ⟨a, ha, rfl⟩⟩
  same v w hv hw hvw hfails := by
    rw [h.same v w hv hw hvw hfails]

theorem congr {build' : Value → Except Thrown α} (h : NullExact valid fails build)
    (hbuild : ∀ v, valid v → build v = build' v) : NullExact valid fails build' where
  returns v hv := by
    rw [← hbuild v hv]
    exact h.returns v hv
  same v w hv hw hvw hfails := by
    rw [← hbuild v hv, ← hbuild w hw]
    exact h.same v w hv hw hvw hfails

theorem andThen {fails' : Value → Bool} {build' : Value → Except Thrown β}
    (h : NullExact valid fails build) (h' : NullExact valid fails' build') :
    NullExact valid (fun v => fails v || fails' v)
      fun v => build v >>= fun a => build' v >>= fun b => .ok (a, b) where
  returns v hv := by
    rw [Bool.or_eq_false_iff, ← h.returns v hv, ← h'.returns v hv]
    constructor
    · rintro ⟨ab, hab⟩
      obtain ⟨a, ha, hab⟩ := bind_eq_ok.mp hab
      obtain ⟨b, hb, -⟩ := bind_eq_ok.mp hab
      exact ⟨⟨a, ha⟩, b, hb⟩
    · rintro ⟨⟨a, ha⟩, b, hb⟩
      exact ⟨(a, b), bind_eq_ok.mpr ⟨a, ha, bind_eq_ok.mpr ⟨b, hb, rfl⟩⟩⟩
  same v w hv hw hvw hfails := by
    obtain ⟨hfirst, hsecond⟩ := Bool.or_eq_false_iff.mp hfails
    rw [h.same v w hv hw hvw hfirst, h'.same v w hv hw hvw hsecond]

end NullExact

/-- The elements of a list. -/
def listed (value : Value) : List Value :=
  match value with
  | .array items => items
  | _ => []

theorem NullExact.each {α : Type} {valid : Definition} {fails : Value → Bool}
    {build : Value → Except Thrown α} (h : NullExact valid fails build) :
    NullExact (arrayOf valid) (fun v => (listed v).any fails)
      fun v => v.items >>= fun items => items.mapM build where
  returns := by
    rintro _ ⟨items, rfl, hitems⟩
    rw [List.any_eq_false]
    refine (exists_mapM_eq_ok build items).trans ?_
    constructor
    · intro hok item hitem
      rw [(h.returns item (hitems item hitem)).mp (hok item hitem)]
      exact Bool.false_ne_true
    · intro hfails item hitem
      exact (h.returns item (hitems item hitem)).mpr (Bool.eq_false_iff.mpr (hfails item hitem))
  same := by
    rintro _ _ ⟨items, rfl, hitems⟩ ⟨items', rfl, hitems'⟩ hvw hfails
    rw [List.any_eq_false] at hfails
    cases hvw with
    | same => rfl
    | array hrelated =>
      apply mapM_congr_of_forall₂
      rw [List.forall₂_iff_get] at hrelated ⊢
      refine ⟨hrelated.1, ?_⟩
      intro i hi hi'
      exact h.same _ _ (hitems _ (List.get_mem _ _)) (hitems' _ (List.get_mem _ _))
        (hrelated.2 i hi hi') (Bool.eq_false_iff.mpr (hfails _ (List.get_mem _ _)))

theorem eq_undefined {v : Value} (h : v.isUndefined = true) : v = .undefined := by
  cases v with
  | undefined => rfl
  | _ => cases h

theorem isNull_of_isUndefined {v : Value} (h : v.isUndefined = true) : v.isNull = false := by
  rw [eq_undefined h]
  rfl

theorem valid_of_present {valid : Definition} {v : Value} (h : v = .undefined ∨ valid v)
    (hpresent : v.isUndefined = false) : valid v := by
  rcases h with rfl | h
  · cases hpresent
  · exact h

theorem NullExact.same_property {α : Type} {valid : Definition} {fails : Value → Bool}
    {build : Value → Except Thrown α} (h : NullExact valid fails build) {v w : Value}
    (hvw : NullAsEmpty v w) (name : String)
    (hv : v.property name = .undefined ∨ valid (v.property name))
    (hw : w.property name = .undefined ∨ valid (w.property name))
    (hpresent : (v.property name).isUndefined = false) (hfails : fails (v.property name) = false) :
    build (v.property name) = build (w.property name) := by
  have hpresent' : (w.property name).isUndefined = false := by
    rw [← (hvw.property name).isUndefined_eq]
    exact hpresent
  exact h.same _ _ (valid_of_present hv hpresent) (valid_of_present hw hpresent')
    (hvw.property name) hfails

theorem NullExact.required {α : Type} {valid : Definition} {fails : Value → Bool}
    {build : Value → Except Thrown α} (h : NullExact valid fails build) {name : String}
    {object : Definition} (hobject : ∀ v, object v → valid (v.property name)) :
    NullExact object (fun v => fails (v.property name)) fun v => build (v.property name) where
  returns v hv := h.returns _ (hobject v hv)
  same v w hv hw hvw hfails :=
    h.same _ _ (hobject v hv) (hobject w hw) (hvw.property name) hfails

end SplunkOtel.Configuration
