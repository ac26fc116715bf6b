import Mathlib.Logic.Relation
import SplunkOtel.Js.Access

/-!
# Types of TypeScript

The types that JSON values have, the grammar of their texts, and a reader that goes by it. The
brackets of an array bind closer than the bar of a union.
-/

namespace SplunkOtel.Js.TypeScript

inductive Ty where
  | unknown
  | string
  | number
  | boolean
  | null
  | undefined
  | never
  | object
  | literal (s : String)
  | reference (name : String)
  | array (element : Ty)
  /-- `[first, ...rest[]]` -/
  | nonEmpty (first rest : Ty)
  /-- `Record<string, value>` -/
  | record (value : Ty)
  | union (left right : Ty)
deriving DecidableEq

/-! ## What has a type -/

structure Member where
  name : String
  optional : Bool
  type : Ty
deriving DecidableEq

inductive Declaration where
  | type (t : Ty)
  | interface (members : List Member) (index : Option Ty)
deriving DecidableEq

/-- The names that an object has properties for. -/
def keys (fields : List (String × Value)) : List String := fields.map Prod.fst

inductive Has (declared : String → Option Declaration) : Ty → Value → Prop
  | unknown (v : Value) : Has declared .unknown v
  | string (s : String) : Has declared .string (.string s)
  | number (n : Number) : Has declared .number (.number n)
  | boolean (b : Bool) : Has declared .boolean (.bool b)
  | null : Has declared .null .null
  | undefined : Has declared .undefined .undefined
  | object {v : Value} (h : v.isObject = true) : Has declared .object v
  | literal (s : String) : Has declared (.literal s) (.string s)
  | type {name : String} {t : Ty} {v : Value} (h : declared name = some (.type t))
    (ht : Has declared t v) : Has declared (.reference name) v
  | interface {name : String} {members : List Member} {index : Option Ty}
    {fields : List (String × Value)} (h : declared name = some (.interface members index))
    (hrequired : ∀ m ∈ members, m.optional = false → m.name ∈ keys fields)
    (hmembers : ∀ m ∈ members, m.name ∈ keys fields →
      Has declared m.type ((Value.object fields).property m.name))
    (hindex : ∀ t ∈ index, ∀ key ∈ keys fields,
      Has declared t ((Value.object fields).property key)) :
    Has declared (.reference name) (.object fields)
  | array {t : Ty} {items : List Value} (h : ∀ item ∈ items, Has declared t item) :
    Has declared (.array t) (.array items)
  | nonEmpty {t u : Ty} {first : Value} {items : List Value} (h : Has declared t first)
    (hrest : ∀ item ∈ items, Has declared u item) :
    Has declared (.nonEmpty t u) (.array (first :: items))
  | record {t : Ty} {fields : List (String × Value)}
    (h : ∀ key ∈ keys fields, Has declared t ((Value.object fields).property key)) :
    Has declared (.record t) (.object fields)
  | left {t u : Ty} {v : Value} (h : Has declared t v) : Has declared (.union t u) v
  | right {t u : Ty} {v : Value} (h : Has declared u v) : Has declared (.union t u) v

/-! ## Declarations that compile -/

/-- Part of what TypeScript lets a value of the first type be taken for one of the second. -/
inductive Assignable (declared : String → Option Declaration) : Ty → Ty → Prop
  | refl (t : Ty) : Assignable declared t t
  | unknown (t : Ty) : Assignable declared t .unknown
  | never (t : Ty) : Assignable declared .never t
  | literal (s : String) : Assignable declared (.literal s) .string
  | interface {name : String} {members : List Member} {index : Option Ty}
    (h : declared name = some (.interface members index)) :
    Assignable declared (.reference name) .object
  | array (t : Ty) : Assignable declared (.array t) .object
  | nonEmpty (t u : Ty) : Assignable declared (.nonEmpty t u) .object
  | record (t : Ty) : Assignable declared (.record t) .object
  | type {name : String} {t u : Ty} (h : declared name = some (.type t))
    (ht : Assignable declared t u) : Assignable declared (.reference name) u
  | cases {t t' u : Ty} (h : Assignable declared t u) (h' : Assignable declared t' u) :
    Assignable declared (.union t t') u
  | left {t u u' : Ty} (h : Assignable declared t u) : Assignable declared t (.union u u')
  | right {t u u' : Ty} (h : Assignable declared t u') : Assignable declared t (.union u u')

/-- What reading a member gives, whether it is there or not. -/
def Member.readAs (m : Member) : Ty := if m.optional then .union m.type .undefined else m.type

/-- The declarations that a type names. -/
def Ty.names : Ty → List String
  | .reference name => [name]
  | .array t => t.names
  | .nonEmpty t u => t.names ++ u.names
  | .record t => t.names
  | .union t u => t.names ++ u.names
  | _ => []

def Declaration.names : Declaration → List String
  | .type t => t.names
  | .interface members index => members.flatMap (·.type.names) ++ index.toList.flatMap Ty.names

def Mentions (declared : String → Option Declaration) (name other : String) : Prop :=
  ∃ t, declared name = some (.type t) ∧ other ∈ t.names

/-- Names are declared, members are within the index signature, and no alias goes round. -/
structure Compiles (declared : String → Option Declaration) : Prop where
  named : ∀ name d, declared name = some d → ∀ other ∈ d.names, (declared other).isSome
  distinct : ∀ name members index, declared name = some (.interface members index) →
    (members.map Member.name).Nodup
  within : ∀ name members t, declared name = some (.interface members (some t)) →
    ∀ m ∈ members, Assignable declared m.readAs t
  aliases : ∀ name, ¬ Relation.TransGen (Mentions declared) name name

section

variable {declared : String → Option Declaration} {t u : Ty} {v : Value}

theorem Assignable.has (h : Assignable declared t u) (hv : Has declared t v) : Has declared u v := by
  induction h with
  | refl => exact hv
  | unknown => exact .unknown v
  | never => cases hv
  | literal s =>
    cases hv
    exact .string s
  | interface h =>
    cases hv with
    | type h' => rw [h] at h'; cases h'
    | interface => exact .object rfl
  | array =>
    cases hv
    exact .object rfl
  | nonEmpty =>
    cases hv
    exact .object rfl
  | record =>
    cases hv
    exact .object rfl
  | type h _ ih =>
    cases hv with
    | type h' ht =>
      rw [h] at h'
      cases h'
      exact ih ht
    | interface h' => rw [h] at h'; cases h'
  | cases _ _ ih ih' =>
    cases hv with
    | left hv => exact ih hv
    | right hv => exact ih' hv
  | left _ ih => exact .left (ih hv)
  | right _ ih => exact .right (ih hv)

theorem Member.has_readAs {m : Member} (h : Has declared m.type v) : Has declared m.readAs v := by
  unfold Member.readAs
  split
  · exact .left h
  · exact h

end

/-! ## The grammar -/

def keywords : List (String × Ty) :=
  [("unknown", .unknown), ("string", .string), ("number", .number), ("boolean", .boolean),
    ("null", .null), ("undefined", .undefined), ("never", .never), ("object", .object)]

def identifierChar (c : Char) : Bool := c.isAlphanum ∨ c = '_' ∨ c = '$'

/-- The characters between quotes that stand for themselves. -/
def literalChar (c : Char) : Bool := c ∉ ['\'', '\\', '\n', '\r']

/-- A name of a type that is declared. The types of the language itself start with a small letter,
or are `Record`. -/
def IsTypeName (name : String) : Prop :=
  (∀ c ∈ name.toList.head?, c.isUpper = true) ∧ (∀ c ∈ name.toList, identifierChar c = true) ∧
    name ≠ "" ∧ name ≠ "Record"

instance (name : String) : Decidable (IsTypeName name) :=
  decidable_of_iff (name.toList.head?.all Char.isUpper = true ∧
      name.toList.all identifierChar = true ∧ name ≠ "" ∧ name ≠ "Record")
    (and_congr (Option.all_eq_true _ _) (and_congr_left' List.all_eq_true))

/-- An operand of `|`, or any type. -/
inductive Level where
  | operand
  | union
deriving DecidableEq

inductive Reads : Level → List Char → Ty → Prop
  | keyword {word : String} {t : Ty} (h : (word, t) ∈ keywords) : Reads .operand word.toList t
  | reference {name : String} (h : IsTypeName name) : Reads .operand name.toList (.reference name)
  | literal {s : String} (h : ∀ c ∈ s.toList, literalChar c = true) :
    Reads .operand (['\''] ++ s.toList ++ ['\'']) (.literal s)
  | parentheses {cs : List Char} {t : Ty} (h : Reads .union cs t) :
    Reads .operand (['('] ++ cs ++ [')']) t
  | record {cs : List Char} {t : Ty} (h : Reads .union cs t) :
    Reads .operand ("Record".toList ++ "<string, ".toList ++ cs ++ ['>']) (.record t)
  | nonEmpty {cs ds : List Char} {t u : Ty} (h : Reads .union cs t)
    (hrest : Reads .union ds (.array u)) :
    Reads .operand (['['] ++ cs ++ ", ...".toList ++ ds ++ [']']) (.nonEmpty t u)
  | array {cs : List Char} {t : Ty} (h : Reads .operand cs t) :
    Reads .operand (cs ++ ['[', ']']) (.array t)
  | operand {cs : List Char} {t : Ty} (h : Reads .operand cs t) : Reads .union cs t
  | union {cs ds : List Char} {t u : Ty} (h : Reads .operand cs t) (hright : Reads .union ds u) :
    Reads .union (cs ++ " | ".toList ++ ds) (.union t u)

/-! ## The reader -/

def expect (text cs : List Char) : Option (List Char) :=
  if text.isPrefixOf cs then some (cs.drop text.length) else none

/-- A type without brackets after it. -/
def readPrimary (read : List Char → Option (Ty × List Char)) : List Char → Option (Ty × List Char)
  | '(' :: cs => do
    let (t, rest) ← read cs
    return (t, ← expect [')'] rest)
  | '\'' :: cs => do
    let rest ← expect ['\''] (cs.dropWhile literalChar)
    return (.literal (String.ofList (cs.takeWhile literalChar)), rest)
  | '[' :: cs => do
    let (first, rest) ← read cs
    let (second, rest) ← read (← expect ", ...".toList rest)
    let rest ← expect [']'] rest
    match second with
    | .array t => return (.nonEmpty first t, rest)
    | _ => none
  | cs =>
    let word := String.ofList (cs.takeWhile identifierChar)
    let rest := cs.dropWhile identifierChar
    if word = "Record" then do
      let (t, rest) ← read (← expect "<string, ".toList rest)
      return (.record t, ← expect ['>'] rest)
    else match keywords.lookup word with
      | some t => some (t, rest)
      | none => if IsTypeName word then some (.reference word, rest) else none

def readSuffix : Ty → List Char → Ty × List Char
  | t, '[' :: ']' :: cs => readSuffix (.array t) cs
  | t, cs => (t, cs)

def readOperand (read : List Char → Option (Ty × List Char)) (cs : List Char) :
    Option (Ty × List Char) :=
  (readPrimary read cs).map fun r => readSuffix r.1 r.2

/-- The fuel bounds how deep types nest. -/
def readUnion : ℕ → List Char → Option (Ty × List Char)
  | 0, _ => none
  | fuel + 1, cs => do
    let (t, rest) ← readOperand (readUnion fuel) cs
    match expect " | ".toList rest with
    | none => return (t, rest)
    | some rest =>
      let (u, rest) ← readUnion fuel rest
      return (.union t u, rest)

def readType (text : String) : Option Ty := do
  let (t, rest) ← readUnion (text.length + 1) text.toList
  if rest = [] then some t else none

example : readType "string | null[]" = some (.union .string (.array .null)) := by decide

example : readType "[Entry, ...Entry[]]" = some (.nonEmpty (.reference "Entry") (.reference "Entry")) := by
  decide

/-! ## What the reader makes of a text of the grammar -/

theorem expect_append (text rest : List Char) : expect text (text ++ rest) = some rest := by
  rw [expect, if_pos (by simp), List.drop_left]

/-- What comes after a type inside of another one. -/
def Stops (rest : List Char) : Prop := ∀ c ∈ rest.head?, c ∈ [')', '>', ']', ',']

theorem Stops.expect_bar {rest : List Char} (h : Stops rest) :
    expect " | ".toList rest = none := by
  cases rest with
  | nil => rfl
  | cons c rest =>
    have hc := h c rfl
    rw [expect, if_neg]
    intro hbar
    have hspace : ' ' = c := by
      simpa using (List.isPrefixOf_iff_prefix.mp hbar).head (by simp)
    subst hspace
    exact absurd hc (by decide)

theorem Stops.readSuffix_eq {rest : List Char} (h : Stops rest) (t : Ty) :
    readSuffix t rest = (t, rest) := by
  unfold readSuffix
  split
  · exact absurd (h '[' rfl) (by decide)
  · rfl

theorem takeWhile_dropWhile {p : Char → Bool} {cs rest : List Char} (h : ∀ c ∈ cs, p c = true)
    (hrest : ∀ c ∈ rest.head?, p c = false) :
    (cs ++ rest).takeWhile p = cs ∧ (cs ++ rest).dropWhile p = rest := by
  rw [List.takeWhile_append_of_pos h, List.dropWhile_append_of_pos h]
  cases rest with
  | nil => simp
  | cons c rest => simp [hrest c rfl]

/-- What cannot go on a word. -/
def EndsWord (rest : List Char) : Prop := ∀ c ∈ rest.head?, identifierChar c = false

theorem Stops.endsWord {rest : List Char} (h : Stops rest) : EndsWord rest := by
  intro c hc
  have hmem := h c hc
  simp only [List.mem_cons, List.not_mem_nil, or_false] at hmem
  obtain rfl | rfl | rfl | rfl := hmem <;> rfl

theorem readPrimary_word (read : List Char → Option (Ty × List Char)) {word : String}
    (hne : word ≠ "") (h : ∀ c ∈ word.toList, identifierChar c = true) {rest : List Char}
    (hrest : EndsWord rest) :
    readPrimary read (word.toList ++ rest) =
      if word = "Record" then do
        let (t, rest) ← read (← expect "<string, ".toList rest)
        return (.record t, ← expect ['>'] rest)
      else match keywords.lookup word with
        | some t => some (t, rest)
        | none => if IsTypeName word then some (.reference word, rest) else none := by
  obtain ⟨htake, hdrop⟩ := takeWhile_dropWhile h hrest
  have hhead (c : Char) (cs : List Char) (hcs : word.toList ++ rest = c :: cs) :
      identifierChar c = true := by
    obtain ⟨d, ds, hds⟩ := List.exists_cons_of_ne_nil (show word.toList ≠ [] by simpa using hne)
    rw [hds, List.cons_append, List.cons.injEq] at hcs
    rw [← hcs.1]
    exact h d (by simp [hds])
  unfold readPrimary
  split
  · exact absurd (hhead _ _ ‹_›) (by decide)
  · exact absurd (hhead _ _ ‹_›) (by decide)
  · exact absurd (hhead _ _ ‹_›) (by decide)
  · simp only [htake, hdrop, String.ofList_toList]

theorem keyword_word {word : String} {t : Ty} (h : (word, t) ∈ keywords) :
    word ≠ "" ∧ word ≠ "Record" ∧ (∀ c ∈ word.toList, identifierChar c = true) ∧
      keywords.lookup word = some t := by
  rw [← List.all_eq_true]
  simp only [keywords, List.mem_cons, Prod.mk.injEq, List.not_mem_nil, or_false] at h
  obtain ⟨rfl, rfl⟩ | ⟨rfl, rfl⟩ | ⟨rfl, rfl⟩ | ⟨rfl, rfl⟩ | ⟨rfl, rfl⟩ | ⟨rfl, rfl⟩ | ⟨rfl, rfl⟩ |
    ⟨rfl, rfl⟩ := h <;> decide

theorem lookup_typeName {name : String} (h : IsTypeName name) : keywords.lookup name = none := by
  have hsmall : ∀ p ∈ keywords, p.1.toList.head?.all Char.isUpper = false := by decide
  rw [List.lookup_eq_none_iff]
  rintro ⟨word, t⟩ hword
  rw [bne_iff_ne]
  rintro rfl
  exact Bool.eq_false_iff.mp (hsmall _ hword) ((Option.all_eq_true _ _).mpr h.1)

/-- What the reader gives for a text of the grammar, whatever stops it. -/
def ReadBack (cs : List Char) (t : Ty) : Level → Prop
  | .operand => ∀ n rest, cs.length ≤ n → EndsWord rest →
      readOperand (readUnion n) (cs ++ rest) = some (readSuffix t rest)
  | .union => ∀ n rest, cs.length < n → Stops rest → readUnion n (cs ++ rest) = some (t, rest)

theorem readBack_primary {cs : List Char} {t : Ty}
    (h : ∀ n rest, cs.length ≤ n → EndsWord rest →
      readPrimary (readUnion n) (cs ++ rest) = some (t, rest)) : ReadBack cs t .operand := by
  intro n rest hn hrest
  rw [readOperand, h n rest hn hrest]
  rfl

theorem stops_cons {c : Char} (rest : List Char) (h : c ∈ [')', '>', ']', ',']) :
    Stops (c :: rest) := by
  rintro d hd
  obtain rfl : c = d := by simpa using hd
  exact h

theorem Reads.readBack {level : Level} {cs : List Char} {t : Ty} (h : Reads level cs t) :
    ReadBack cs t level := by
  induction h with
  | keyword h =>
    obtain ⟨hne, hrecord, hchars, hlookup⟩ := keyword_word h
    refine readBack_primary fun n rest _ hrest => ?_
    rw [readPrimary_word _ hne hchars hrest, if_neg hrecord, hlookup]
  | reference h =>
    refine readBack_primary fun n rest _ hrest => ?_
    rw [readPrimary_word _ h.2.2.1 h.2.1 hrest, if_neg h.2.2.2, lookup_typeName h]
    exact if_pos h
  | @literal s h =>
    refine readBack_primary fun n rest _ _ => ?_
    have hquote : ∀ c ∈ ('\'' :: rest).head?, literalChar c = false := by
      rintro c ⟨⟩
      rfl
    obtain ⟨htake, hdrop⟩ := takeWhile_dropWhile h hquote
    simp only [List.cons_append, List.append_assoc, List.nil_append, readPrimary, htake, hdrop]
    rw [show expect ['\''] ('\'' :: rest) = some rest from expect_append ['\''] rest]
    simp
  | @parentheses cs t h ih =>
    refine readBack_primary fun n rest hn _ => ?_
    simp only [List.length_append, List.length_singleton] at hn
    simp only [List.cons_append, List.append_assoc, List.nil_append, readPrimary]
    rw [ih n _ (by omega) (stops_cons rest (by decide))]
    rfl
  | @record cs t h ih =>
    refine readBack_primary fun n rest hn _ => ?_
    simp only [List.length_append, List.length_singleton] at hn
    have hinner := ih n (['>'] ++ rest) (by omega) (stops_cons rest (by decide))
    rw [List.append_assoc, List.append_assoc, List.append_assoc,
      readPrimary_word _ (by decide) (List.all_eq_true.mp (by decide)) (by rintro c ⟨⟩; rfl),
      if_pos rfl, expect_append]
    simp only [Option.bind_eq_bind, Option.bind_some, hinner]
    rfl
  | @nonEmpty cs ds t u h hrest ih ih' =>
    refine readBack_primary fun n rest hn _ => ?_
    simp only [List.length_append, List.length_singleton] at hn
    have hfirst := ih n (", ...".toList ++ (ds ++ ([']'] ++ rest))) (by omega)
      (stops_cons _ (by decide))
    have hsecond := ih' n ([']'] ++ rest) (by omega) (stops_cons rest (by decide))
    simp only [List.append_assoc]
    rw [List.singleton_append, readPrimary, hfirst]
    simp only [Option.bind_eq_bind, Option.bind_some, expect_append, hsecond]
    rfl
  | @array cs t h ih =>
    intro n rest hn hrest
    simp only [List.length_append] at hn
    rw [List.append_assoc, ih n _ (by omega) (by rintro c ⟨⟩; rfl)]
    rfl
  | @operand cs t h ih =>
    intro n rest hn hrest
    obtain _ | n := n
    · exact absurd hn (Nat.not_lt_zero _)
    · rw [readUnion, ih n rest (by omega) hrest.endsWord, hrest.readSuffix_eq]
      simp only [Option.bind_eq_bind, Option.bind_some, hrest.expect_bar]
      rfl
  | @union cs ds t u h hright ih ih' =>
    intro n rest hn hrest
    have hbar : " | ".toList.length = 3 := rfl
    simp only [List.length_append] at hn
    obtain _ | n := n
    · exact absurd hn (Nat.not_lt_zero _)
    · have hleft : readOperand (readUnion n) (cs ++ (" | ".toList ++ (ds ++ rest))) =
          some (t, " | ".toList ++ (ds ++ rest)) := ih n _ (by omega) (by rintro c ⟨⟩; rfl)
      rw [List.append_assoc, List.append_assoc, readUnion, hleft]
      simp only [Option.bind_eq_bind, Option.bind_some, expect_append, ih' n rest (by omega) hrest]
      rfl

/-- A text of the grammar has one reading. -/
theorem Reads.readType_eq {text : String} {t : Ty} (h : Reads .union text.toList t) :
    readType text = some t := by
  have hlength : text.toList.length < text.length + 1 := by
    rw [String.length_toList]
    exact Nat.lt_succ_self _
  have hread := h.readBack (text.length + 1) [] hlength fun c hc => by cases hc
  rw [List.append_nil] at hread
  rw [readType, hread]
  rfl

end SplunkOtel.Js.TypeScript
