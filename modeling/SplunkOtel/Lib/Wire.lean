import Mathlib.Algebra.Order.Group.Int
import Mathlib.Algebra.Ring.Nat

/-!
# The wire format of protocol buffers

A message is a sequence of fields, and a field is a tag, which has its number and wire type, with a
value. A reader takes one field after the other until the message ends, each as its number says.
-/

namespace Lib.Wire

abbrev Bytes := List UInt8

/-- How the values of a type are written, such that a reader finds them at the start of any input.
The bound is that of a length on the wire. -/
structure Coding (α : Type) where
  write : α → Bytes
  read : Bytes → Option (α × Bytes)
  read_write : ∀ a rest, (write a).length < 2 ^ 32 → read (write a ++ rest) = some (a, rest)
  write_ne_nil : ∀ a, write a ≠ []

/-! ## Loops of a reader -/

section Loop

variable {σ : Type} (step : σ → Bytes → Option (σ × Bytes))

/-- `while (reader.pos < end)`, where `stop` bytes come after the end. -/
def loop (stop : ℤ) : ℕ → σ → Bytes → Option (σ × Bytes)
  | 0, _, _ => none
  | fuel + 1, s, input =>
    if (input.length : ℤ) ≤ stop then some (s, input)
    else (step s input).bind fun r => loop stop fuel r.1 r.2

/-- The loop over the `length` bytes at the start of the input. -/
def loopOver (length : ℕ) (s : σ) (input : Bytes) : Option (σ × Bytes) :=
  loop step (input.length - length) (input.length + 1) s input

/-- Turns of the loop, each of which takes something from the input. -/
inductive Steps : σ → Bytes → σ → Bytes → Prop
  | refl (s : σ) (input : Bytes) : Steps s input s input
  | cons {s s' t : σ} {input input' rest : Bytes} (first : step s input = some (s', input'))
    (shorter : input'.length < input.length) (later : Steps s' input' t rest) :
    Steps s input t rest

variable {step}

theorem Steps.trans {s s' t : σ} {input input' rest : Bytes} (h : Steps step s input s' input')
    (h' : Steps step s' input' t rest) : Steps step s input t rest := by
  induction h with
  | refl => exact h'
  | cons first shorter _ ih => exact .cons first shorter (ih h')

theorem Steps.length_le {s t : σ} {input rest : Bytes} (h : Steps step s input t rest) :
    rest.length ≤ input.length := by
  induction h with
  | refl => exact le_refl _
  | cons _ shorter _ ih => exact ih.trans shorter.le

theorem Steps.loop_eq {s t : σ} {input rest : Bytes} (h : Steps step s input t rest) {fuel : ℕ}
    (hfuel : input.length < fuel) : loop step rest.length fuel s input = some (t, rest) := by
  induction h generalizing fuel with
  | refl s input =>
    obtain _ | fuel := fuel
    · exact absurd hfuel (Nat.not_lt_zero _)
    · rw [loop, if_pos (le_refl _)]
  | cons first shorter later ih =>
    obtain _ | fuel := fuel
    · exact absurd hfuel (Nat.not_lt_zero _)
    · have hle := later.length_le
      rw [loop, if_neg (by omega), first, Option.bind_some]
      exact ih (by omega)

/-- The loop takes the bytes from the start of any input, and does `u` to its state. -/
def Takes (step : σ → Bytes → Option (σ × Bytes)) (bytes : Bytes) (u : σ → σ) : Prop :=
  bytes.length < 2 ^ 32 → ∀ s rest, Steps step s (bytes ++ rest) (u s) rest

theorem Takes.nil : Takes step [] id := fun _ s rest => .refl s rest

theorem Takes.append {bytes bytes' : Bytes} {u u' : σ → σ} (h : Takes step bytes u)
    (h' : Takes step bytes' u') : Takes step (bytes ++ bytes') (u' ∘ u) := by
  intro hlength s rest
  rw [List.length_append] at hlength
  rw [List.append_assoc]
  exact (h (by omega) s _).trans (h' (by omega) (u s) rest)

theorem Takes.turn {bytes : Bytes} {u : σ → σ} (hne : bytes ≠ [])
    (h : bytes.length < 2 ^ 32 → ∀ s rest, step s (bytes ++ rest) = some (u s, rest)) :
    Takes step bytes u := by
  intro hlength s rest
  have hpos := List.length_pos_iff.mpr hne
  exact .cons (h hlength s rest) (by rw [List.length_append]; omega) (.refl _ _)

theorem Takes.optional {α : Type} {w : α → Bytes} (get : σ → Option α) (set : Option α → σ → σ)
    (hset : ∀ s, set (get s) s = s) (o : Option α) (h : ∀ a, Takes step (w a) (set (some a))) :
    Takes step (o.elim [] w) fun s => set (o.or (get s)) s := by
  cases o with
  | none =>
    have hid : (fun s => set (none.or (get s)) s) = id := funext hset
    rw [Option.elim_none, hid]
    exact .nil
  | some a => exact h a

theorem Takes.elements {α : Type} {w : α → Bytes} (get : σ → List α) (set : List α → σ → σ)
    (hset : ∀ s, set (get s) s = s) (hget : ∀ l s, get (set l s) = l)
    (htwice : ∀ l l' s, set l (set l' s) = set l s)
    (h : ∀ a, Takes step (w a) fun s => set (get s ++ [a]) s) (l : List α) :
    Takes step (l.flatMap w) fun s => set (get s ++ l) s := by
  induction l with
  | nil =>
    have hid : (fun s => set (get s ++ []) s) = id := by
      funext s
      rw [List.append_nil]
      exact hset s
    rw [List.flatMap_nil, hid]
    exact .nil
  | cons a l ih =>
    rw [List.flatMap_cons]
    have happend := (h a).append ih
    have hsame : ((fun s => set (get s ++ l) s) ∘ fun s => set (get s ++ [a]) s) =
        fun s => set (get s ++ a :: l) s := by
      funext s
      simp only [Function.comp_apply, hget, htwice, List.append_assoc, List.singleton_append]
    rwa [hsame] at happend

theorem Takes.loopOver_eq {bytes : Bytes} {u : σ → σ} (h : Takes step bytes u)
    (hlength : bytes.length < 2 ^ 32) (s : σ) (rest : Bytes) :
    loopOver step bytes.length s (bytes ++ rest) = some (u s, rest) := by
  have hstop : (((bytes ++ rest).length : ℕ) : ℤ) - (bytes.length : ℕ) = (rest.length : ℕ) := by
    rw [List.length_append]
    omega
  rw [loopOver, hstop]
  exact (h hlength s rest).loop_eq (Nat.lt_succ_self _)

end Loop

/-! ## Fields -/

/-- The values that a writer and a reader share. `skipType` is given the wire type of a value. -/
structure Format where
  uint32 : Coding UInt32
  uint64 : Coding UInt64
  int64 : Coding Int64
  bool : Coding Bool
  string : Coding String
  skipType : UInt32 → Bytes → Option Bytes
  skip_uint64 : ∀ v rest, skipType 0 (uint64.write v ++ rest) = some rest
  skip_fixed64 : ∀ content rest, content.length = 8 → skipType 1 (content ++ rest) = some rest
  skip_delimited : ∀ content rest, content.length < 2 ^ 32 →
    skipType 2 (uint32.write content.length.toUInt32 ++ content ++ rest) = some rest
  skip_endGroup : ∀ tag rest, tag &&& 7 = 4 → skipType 3 (uint32.write tag ++ rest) = some rest
  skip_group : ∀ tag input more rest, tag &&& 7 ≠ 4 → skipType (tag &&& 7) input = some more →
    skipType 3 more = some rest → skipType 3 (uint32.write tag ++ input) = some rest
  skip_fixed32 : ∀ content rest, content.length = 4 → skipType 5 (content ++ rest) = some rest

variable (F : Format)

/-- What is written between `fork` and `ldelim`, with its length before it. -/
def fork (content : Bytes) : Bytes := F.uint32.write content.length.toUInt32 ++ content

/-- `decode(reader, reader.uint32())` -/
def readDelimited {α : Type} (decode : ℕ → Bytes → Option (α × Bytes)) (input : Bytes) :
    Option (α × Bytes) :=
  (F.uint32.read input).bind fun r => decode r.1.toNat r.2

theorem toNat_length {content : Bytes} (h : content.length < 2 ^ 32) :
    content.length.toUInt32.toNat = content.length := by
  rw [Nat.toUInt32, UInt32.toNat_ofNat']
  exact Nat.mod_eq_of_lt h

/-- A message within another one. -/
def delimited {α : Type} (encode : α → Bytes) (decode : ℕ → Bytes → Option (α × Bytes))
    (h : ∀ a rest, (encode a).length < 2 ^ 32 →
      decode (encode a).length (encode a ++ rest) = some (a, rest)) : Coding α where
  write a := fork F (encode a)
  read := readDelimited F decode
  read_write a rest hlength := by
    rw [fork, List.length_append] at hlength
    have hcontent : (encode a).length < 2 ^ 32 := by omega
    rw [fork, readDelimited, List.append_assoc, F.uint32.read_write _ _ (by omega),
      Option.bind_some, toNat_length hcontent]
    exact h a rest hcontent
  write_ne_nil a := by
    rw [fork]
    exact List.append_ne_nil_of_left_ne_nil (F.uint32.write_ne_nil _) _

/-- `while (reader.pos < end2) message.xs.push(read(reader))` -/
def pushNext {α : Type} (c : Coding α) (l : List α) (input : Bytes) : Option (List α × Bytes) :=
  (c.read input).map fun r => (l ++ [r.1], r.2)

theorem takes_pushNext {α : Type} (c : Coding α) (l : List α) :
    Takes (pushNext c) (l.flatMap c.write) (· ++ l) := by
  refine Takes.elements id (fun l _ => l) (fun _ => rfl) (fun _ _ => rfl) (fun _ _ _ => rfl)
    (fun a => ?_) l
  refine Takes.turn (c.write_ne_nil a) fun hlength s rest => ?_
  rw [pushNext, c.read_write a rest hlength]
  rfl

/-- A list of numbers in one field. -/
def packed {α : Type} (c : Coding α) : Coding (List α) :=
  delimited F (fun l => l.flatMap c.write) (fun length input => loopOver (pushNext c) length [] input)
    fun l rest hlength => (takes_pushNext c l).loopOver_eq hlength [] rest

/-- The bytes are a value of the wire type. A group is a sequence of fields up to an end tag. -/
inductive ValueOf : UInt32 → Bytes → Prop
  | varint (v : UInt64) : ValueOf 0 (F.uint64.write v)
  | fixed64 (content : Bytes) (h : content.length = 8) : ValueOf 1 content
  | delimited (content : Bytes) : ValueOf 2 (fork F content)
  | endGroup (tag : UInt32) (h : tag &&& 7 = 4) : ValueOf 3 (F.uint32.write tag)
  | group (tag : UInt32) {content more : Bytes} (h : tag &&& 7 ≠ 4)
    (hfirst : ValueOf (tag &&& 7) content) (hmore : ValueOf 3 more) :
    ValueOf 3 (F.uint32.write tag ++ (content ++ more))
  | fixed32 (content : Bytes) (h : content.length = 4) : ValueOf 5 content

variable {F} in
theorem ValueOf.skip_eq {wireType : UInt32} {content : Bytes} (h : ValueOf F wireType content)
    (hlength : content.length < 2 ^ 32) (rest : Bytes) :
    F.skipType wireType (content ++ rest) = some rest := by
  induction h generalizing rest with
  | varint v => exact F.skip_uint64 v rest
  | fixed64 _ h => exact F.skip_fixed64 _ rest h
  | delimited content =>
    rw [fork, List.length_append] at hlength
    exact F.skip_delimited content rest (by omega)
  | endGroup _ h => exact F.skip_endGroup _ rest h
  | group _ h _ _ ihfirst ihmore =>
    rw [List.length_append, List.length_append] at hlength
    rw [List.append_assoc, List.append_assoc]
    exact F.skip_group _ _ _ rest h (ihfirst (by omega) _) (ihmore (by omega) rest)
  | fixed32 _ h => exact F.skip_fixed32 _ rest h

/-- One turn of the loop over the fields of a message. `onField` is given the number and the wire
type of the field. -/
def fieldStep {σ : Type} (onField : ℕ → UInt32 → σ → Bytes → Option (σ × Bytes)) (s : σ)
    (input : Bytes) : Option (σ × Bytes) :=
  (F.uint32.read input).bind fun r => onField (r.1 >>> 3).toNat (r.1 &&& 7) s r.2

/-- The value that comes next goes into the message. -/
def assign {σ α : Type} (c : Coding α) (set : α → σ → σ) (s : σ) (input : Bytes) :
    Option (σ × Bytes) :=
  (c.read input).map fun r => (set r.1 s, r.2)

/-- `message.x = decode(reader, reader.uint32())` -/
def assignMessage {σ α : Type} (decode : ℕ → Bytes → Option (α × Bytes)) (set : α → σ → σ) (s : σ)
    (input : Bytes) : Option (σ × Bytes) :=
  (readDelimited F decode input).map fun r => (set r.1 s, r.2)

/-- The reader takes a list of numbers in one field, and a number in a field of its own. -/
def assignPacked {σ α : Type} (c : Coding α) (append : List α → σ → σ) (wireType : UInt32) :
    σ → Bytes → Option (σ × Bytes) :=
  if wireType = 2 then assign (packed F c) append else assign c fun a => append [a]

def skip {σ : Type} (wireType : UInt32) (s : σ) (input : Bytes) : Option (σ × Bytes) :=
  (F.skipType wireType input).map (s, ·)

/-- `if (message.x != null) writer.uint32(tag).write(message.x)` -/
def field {α : Type} (tag : UInt32) (write : α → Bytes) (o : Option α) : Bytes :=
  o.elim [] fun a => F.uint32.write tag ++ write a

/-- The same for each element of a list. -/
def fields {α : Type} (tag : UInt32) (write : α → Bytes) (l : List α) : Bytes :=
  l.flatMap fun a => F.uint32.write tag ++ write a

/-- A list of numbers in one field, if it is not empty. -/
def packedField {α : Type} (tag : UInt32) (c : Coding α) (l : List α) : Bytes :=
  if l = [] then [] else F.uint32.write tag ++ (packed F c).write l

variable {σ α : Type} (onField : ℕ → UInt32 → σ → Bytes → Option (σ × Bytes))

theorem takes_one (tag : UInt32) (c : Coding α) (set : α → σ → σ)
    (h : onField (tag >>> 3).toNat (tag &&& 7) = assign c set) (a : α) :
    Takes (fieldStep F onField) (F.uint32.write tag ++ c.write a) (set a) := by
  refine Takes.turn (List.append_ne_nil_of_left_ne_nil (F.uint32.write_ne_nil tag) _)
    fun hlength s rest => ?_
  rw [List.length_append] at hlength
  rw [fieldStep, List.append_assoc, F.uint32.read_write tag _ (by omega), Option.bind_some, h,
    assign, c.read_write a rest (by omega)]
  rfl

theorem takes_field (get : σ → Option α) (set : Option α → σ → σ) (hset : ∀ s, set (get s) s = s)
    (tag : UInt32) (c : Coding α)
    (h : onField (tag >>> 3).toNat (tag &&& 7) = assign c fun a => set (some a)) (o : Option α) :
    Takes (fieldStep F onField) (field F tag c.write o) fun s => set (o.or (get s)) s :=
  Takes.optional get set hset o fun a => takes_one F onField tag c _ h a

theorem takes_fields (get : σ → List α) (set : List α → σ → σ) (hset : ∀ s, set (get s) s = s)
    (hget : ∀ l s, get (set l s) = l) (htwice : ∀ l l' s, set l (set l' s) = set l s)
    (tag : UInt32) (c : Coding α)
    (h : onField (tag >>> 3).toNat (tag &&& 7) = assign c fun a s => set (get s ++ [a]) s)
    (l : List α) :
    Takes (fieldStep F onField) (fields F tag c.write l) fun s => set (get s ++ l) s :=
  Takes.elements get set hset hget htwice (fun a => takes_one F onField tag c _ h a) l

theorem takes_packedField (get : σ → List α) (set : List α → σ → σ)
    (hset : ∀ s, set (get s) s = s) (tag : UInt32) (c : Coding α)
    (h : onField (tag >>> 3).toNat (tag &&& 7) = assign (packed F c) fun l s => set (get s ++ l) s)
    (l : List α) :
    Takes (fieldStep F onField) (packedField F tag c l) fun s => set (get s ++ l) s := by
  unfold packedField
  split
  · rename_i hempty
    have hid : (fun s => set (get s ++ l) s) = id := by
      funext s
      rw [hempty, List.append_nil]
      exact hset s
    rw [hid]
    exact .nil
  · exact takes_one F onField tag (packed F c) _ h l

theorem takes_unknown (tag : UInt32) {content : Bytes}
    (h : onField (tag >>> 3).toNat (tag &&& 7) = skip F (tag &&& 7))
    (hcontent : ValueOf F (tag &&& 7) content) :
    Takes (fieldStep F onField) (F.uint32.write tag ++ content) id := by
  refine Takes.turn (List.append_ne_nil_of_left_ne_nil (F.uint32.write_ne_nil tag) _)
    fun hlength s rest => ?_
  rw [List.length_append] at hlength
  rw [fieldStep, List.append_assoc, F.uint32.read_write tag _ (by omega), Option.bind_some, h, skip,
    hcontent.skip_eq (by omega)]
  rfl

end Lib.Wire
