import SplunkOtel.Lib.Simulation
import SplunkOtel.Native.Activations
import SplunkOtel.Native.ArenaBlocks

/-!
# The slots of the activation stack (`src/native_ext/profiling.cpp`)

The stack as it lies in memory: the functions hand out slots, and the caller reads and writes them.
A block of the arena is apart from all others and zeroed (`Arena.Blocks.blocks_sound_iff`).
-/

open Lib.Simulation

namespace SplunkOtel.Native.StackSlots

/-- A slot of the inline array, or of a block of the arena. -/
structure Slot where
  extra : Option ℕ
  index : ℤ
deriving DecidableEq

/-- `extra` is the number of a block, and `blocks` are all that the arena has given. -/
structure Memory where
  count : ℤ
  capacity : ℤ
  activations : List SpanActivation
  extra : Option ℕ
  blocks : List (List SpanActivation)
deriving DecidableEq

def activationStackInit : Memory where
  count := 0
  capacity := kMaxActivations
  activations := List.replicate kMaxActivations .zero
  extra := none
  blocks := []

/-! ## Slots -/

def contents (m : Memory) : Option ℕ → Option (List SpanActivation)
  | none => some m.activations
  | some block => m.blocks[block]?

def setContents (m : Memory) (buffer : List SpanActivation) : Option ℕ → Memory
  | none => { m with activations := buffer }
  | some block => { m with blocks := m.blocks.set block buffer }

/-- `none` outside of the memory. -/
def readSlot (m : Memory) (slot : Slot) : Option SpanActivation :=
  if 0 ≤ slot.index then (contents m slot.extra).bind (·[slot.index.toNat]?) else none

def writeSlot (m : Memory) (slot : Slot) (a : SpanActivation) : Option Memory := do
  let buffer ← contents m slot.extra
  if 0 ≤ slot.index ∧ slot.index < buffer.length then
    return setContents m (buffer.set slot.index.toNat a) slot.extra
  else none

/-- The slot lies in the buffer that the stack uses now. -/
def Inside (m : Memory) (slot : Slot) : Prop :=
  slot.extra = m.extra ∧ 0 ≤ slot.index ∧ slot.index < m.capacity

instance (m : Memory) (slot : Slot) : Decidable (Inside m slot) :=
  inferInstanceAs (Decidable (_ ∧ _ ∧ _))

/-- `for (int32_t i = 0; i < count; i++) dst[i] = src[i];` -/
def copySlots (src dst : Option ℕ) (count : ℕ) (m : Memory) : Option Memory :=
  (List.range count).foldlM (fun m (i : ℕ) => do
    let a ← readSlot m ⟨src, i⟩
    writeSlot m ⟨dst, i⟩ a) m

/-! ## Push and pop -/

def sizeofSpanActivation : ℕ := 64

def kArenaPageSize : ℕ := 1024 * 1024 * 64

/-- The arena never gives a block that is larger than a page. -/
def CanGrant (newCapacity : ℤ) : Prop := sizeofSpanActivation * newCapacity ≤ kArenaPageSize

instance (newCapacity : ℤ) : Decidable (CanGrant newCapacity) := inferInstanceAs (Decidable (_ ≤ _))

/-- `PagedArenaAlloc`. `granted` says whether there is memory. -/
def arenaAlloc (granted : Bool) (newCapacity : ℤ) (m : Memory) : Option ℕ × Memory :=
  if granted ∧ CanGrant newCapacity then
    (some m.blocks.length,
      { m with blocks := m.blocks ++ [List.replicate newCapacity.toNat .zero] })
  else (none, m)

/-- A block of `newCapacity` slots takes the place of the buffer. There is no slot when the arena
has no memory. -/
def growTo (granted : Bool) (newCapacity : ℤ) (m : Memory) : Option (Bool × Memory) :=
  match arenaAlloc granted newCapacity m with
  | (none, m) => some (false, m)
  | (some block, m) => do
    let m ← copySlots m.extra (some block) m.count.toNat m
    return (true, { m with extra := some block, capacity := newCapacity })

def takeSlot (m : Memory) : Slot × Memory := (⟨m.extra, m.count⟩, { m with count := m.count + 1 })

/-- `capacity * 1.5`, rounded toward zero. -/
def half (capacity : ℤ) : ℤ := (capacity * 3).tdiv 2

/-- From the overflow buffer. -/
def pushExtra (granted : Bool) (m : Memory) : Option (Option Slot × Memory) := do
  if m.count < m.capacity then
    return (some (takeSlot m).1, (takeSlot m).2)
  let (grown, m) ← growTo granted (half m.capacity) m
  if ¬ grown then return (none, m)
  return (some (takeSlot m).1, (takeSlot m).2)

def activationStackPush (granted : Bool) (m : Memory) : Option (Option Slot × Memory) := do
  if m.extra.isSome then
    pushExtra granted m
  else if m.count < kMaxActivations then
    return (some (takeSlot m).1, (takeSlot m).2)
  else
    let (grown, m) ← growTo granted (kMaxActivations * 4) m
    if ¬ grown then return (none, m)
    pushExtra granted m

def activationStackPop (m : Memory) : Option Slot × Memory :=
  if m.count = 0 then (none, m)
  else (some ⟨m.extra, m.count - 1⟩, { m with count := m.count - 1 })

/-! ## Runs -/

inductive Event where
  /-- The caller writes the activation into the slot that it gets. -/
  | push (activation : SpanActivation) (granted : Bool)
  | pop

inductive Answer where
  | pushed
  | refused
  | popped (activation : Option SpanActivation)
deriving DecidableEq

/-- There is no result when a slot lies outside of the buffer. -/
def step (m : Memory) : Event → Option (Memory × Answer)
  | .push activation granted => do
    let (slot, m) ← activationStackPush granted m
    match slot with
    | none => return (m, .refused)
    | some slot =>
      if ¬ Inside m slot then none
      let m ← writeSlot m slot activation
      return (m, .pushed)
  | .pop =>
    match activationStackPop m with
    | (none, m) => some (m, .popped none)
    | (some slot, m) => do
      if ¬ Inside m slot then none
      let activation ← readSlot m slot
      return (m, .popped (some activation))

/-- The capacity that a push asks the arena for. -/
def asks (m : Memory) : Option ℤ :=
  if m.count < m.capacity then none
  else if m.extra.isSome then some (half m.capacity) else some (kMaxActivations * 4)

/-- The allocation that the event needs succeeds. -/
def AllocSucceeds (m : Memory) : Event → Prop
  | .push _ granted => ∀ newCapacity ∈ asks m, granted = true ∧ CanGrant newCapacity
  | .pop => True

instance (m : Memory) : ∀ e, Decidable (AllocSucceeds m e)
  | .push _ granted =>
    inferInstanceAs (Decidable (∀ newCapacity ∈ asks m, granted = true ∧ CanGrant newCapacity))
  | .pop => inferInstanceAs (Decidable True)

/-- A stack as a list, the last element on top. -/
def listStep (l : List SpanActivation) : Event → List SpanActivation × Answer
  | .push activation _ => (l ++ [activation], .pushed)
  | .pop => (l.dropLast, .popped l.getLast?)

/-! ## Buffers -/

section Buffers

variable {m : Memory} {src dst : Option ℕ} {buffer : List SpanActivation}

theorem contents_count (m : Memory) (n : ℤ) (extra : Option ℕ) :
    contents { m with count := n } extra = contents m extra := by
  cases extra with
  | none => rfl
  | some block => rfl

theorem lt_of_contents {block : ℕ} (h : contents m (some block) = some buffer) :
    block < m.blocks.length := (List.getElem?_eq_some_iff.mp h).1

theorem contents_alloc (h : contents m src = some buffer) (new : List SpanActivation) :
    contents { m with blocks := m.blocks ++ [new] } src = some buffer := by
  cases src with
  | none => exact h
  | some block =>
    rw [← h]
    exact List.getElem?_append_left (lt_of_contents h)

theorem contents_setContents (h : (contents m dst).isSome) :
    contents (setContents m buffer dst) dst = some buffer := by
  cases dst with
  | none => rfl
  | some block =>
    have hlt : block < m.blocks.length := by simpa [contents] using h
    simp [contents, setContents, hlt]

theorem contents_setContents_ne (h : src ≠ dst) :
    contents (setContents m buffer dst) src = contents m src := by
  cases dst with
  | none =>
    obtain ⟨block, rfl⟩ := Option.ne_none_iff_exists'.mp h
    rfl
  | some block =>
    cases src with
    | none => rfl
    | some other =>
      have hne : block ≠ other := fun heq => h (by rw [heq])
      simp [contents, setContents, List.getElem?_set_ne hne]

theorem setContents_setContents (other : List SpanActivation) :
    setContents (setContents m other dst) buffer dst = setContents m buffer dst := by
  cases dst with
  | none => rfl
  | some block => simp [setContents]

theorem setContents_self (h : contents m dst = some buffer) : setContents m buffer dst = m := by
  cases dst with
  | none =>
    cases h
    rfl
  | some block =>
    obtain ⟨hlt, hblock⟩ := List.getElem?_eq_some_iff.mp h
    simp [setContents, ← hblock]

theorem readSlot_of_lt (h : contents m src = some buffer) {i : ℕ} (hi : i < buffer.length) :
    readSlot m ⟨src, i⟩ = some buffer[i] := by
  simp [readSlot, h, hi]

theorem writeSlot_of_lt (h : contents m dst = some buffer) {i : ℕ} (hi : i < buffer.length)
    (a : SpanActivation) :
    writeSlot m ⟨dst, i⟩ a = some (setContents m (buffer.set i a) dst) := by
  simp [writeSlot, h, hi]

theorem set_take_append {l old : List SpanActivation} {n : ℕ} (hl : n < l.length)
    (hold : n < old.length) :
    (l.take n ++ old.drop n).set n l[n] = l.take (n + 1) ++ old.drop (n + 1) := by
  have hlength : (l.take n).length = n := by
    rw [List.length_take]
    omega
  rw [List.set_append_right _ _ hlength.le, hlength, Nat.sub_self, List.drop_eq_getElem_cons hold,
    List.set_cons_zero, List.take_add_one, List.getElem?_eq_getElem hl, List.append_assoc]
  rfl

theorem copySlots_eq {old : List SpanActivation} (hsrc : contents m src = some buffer)
    (hdst : contents m dst = some old) (hne : src ≠ dst) (n : ℕ) (hn : n ≤ buffer.length)
    (hold : n ≤ old.length) :
    copySlots src dst n m = some (setContents m (buffer.take n ++ old.drop n) dst) := by
  induction n with
  | zero => simp [copySlots, setContents_self hdst]
  | succ n ih =>
    have hbefore := ih (by omega) (by omega)
    unfold copySlots at hbefore ⊢
    rw [List.range_succ, List.foldlM_append, hbefore]
    have hread : readSlot (setContents m (buffer.take n ++ old.drop n) dst) ⟨src, n⟩ =
        some buffer[n] := by
      rw [readSlot_of_lt ((contents_setContents_ne hne).trans hsrc)]
    have hwrite : writeSlot (setContents m (buffer.take n ++ old.drop n) dst) ⟨dst, n⟩ buffer[n] =
        some (setContents m (buffer.take (n + 1) ++ old.drop (n + 1)) dst) := by
      rw [writeSlot_of_lt (contents_setContents (by simp [hdst])) (by simp; omega),
        setContents_setContents]
      rw [set_take_append (by omega) (by omega)]
    simp [hread, hwrite]

end Buffers

/-! ## The memory of a stack -/

/-- The memory is laid out as the stack says. -/
structure Holds (m : Memory) (s : ActivationStack) : Prop where
  count : m.count = s.count
  capacity : m.capacity = s.capacity
  activations : m.activations = s.activations
  buffer : contents m m.extra = some s.buffer
  inline : m.extra = none ↔ s.extra = none

theorem holds_init : Holds activationStackInit .init where
  count := rfl
  capacity := rfl
  activations := rfl
  buffer := rfl
  inline := by decide

section Steps

variable {m : Memory} {s : ActivationStack}

theorem Holds.put (h : Holds m s) (hlt : s.count < s.capacity) (a : SpanActivation) :
    Inside (takeSlot m).2 (takeSlot m).1 ∧
      ∃ m', writeSlot (takeSlot m).2 (takeSlot m).1 a = some m' ∧ Holds m' (s.put hlt a) := by
  have hcontents : contents (takeSlot m).2 m.extra = some s.buffer :=
    (contents_count m _ _).trans h.buffer
  have hslot : (takeSlot m).1 = ⟨m.extra, s.count⟩ := by rw [takeSlot, h.count]
  have hwrite := writeSlot_of_lt hcontents (i := s.count) (by rwa [s.length_buffer]) a
  constructor
  · have hcount := h.count
    have hcapacity := h.capacity
    refine ⟨rfl, ?_, ?_⟩
    · change 0 ≤ m.count
      omega
    · change m.count < m.capacity
      omega
  · refine ⟨_, by rw [hslot, hwrite], ?_⟩
    have hcount : m.count + 1 = ((s.count + 1 : ℕ) : ℤ) := by
      rw [h.count]
      rfl
    have hsome : (contents (takeSlot m).2 m.extra).isSome := by
      rw [hcontents]
      rfl
    cases hextra : m.extra with
    | none =>
      have hnone := h.inline.mp hextra
      have hactivations : s.buffer.set s.count a = (s.put hlt a).activations := by
        simp [ActivationStack.put, ActivationStack.buffer, hnone]
      refine ⟨hcount, h.capacity, hactivations, ?_, ?_⟩
      · rw [s.buffer_put]
        exact (congrArg (contents _) hextra).trans rfl
      · exact iff_of_true hextra (by simp [ActivationStack.put, hnone])
    | some block =>
      have hsomeExtra : s.extra ≠ none := fun hnone => by simp [h.inline.mpr hnone] at hextra
      have hactivations : m.activations = (s.put hlt a).activations := by
        simp [ActivationStack.put, hsomeExtra, h.activations]
      refine ⟨hcount, h.capacity, hactivations, ?_, ?_⟩
      · rw [hextra] at hsome
        rw [s.buffer_put]
        exact (congrArg (contents _) hextra).trans (contents_setContents hsome)
      · have hput : (s.put hlt a).extra ≠ none := by simpa [ActivationStack.put] using hsomeExtra
        exact iff_of_false (fun hnone => by simp [setContents, takeSlot, hextra] at hnone) hput

theorem Holds.grow (h : Holds m s) {n : ℕ} (hn : s.capacity ≤ n) (hgrant : CanGrant n) :
    ∃ m', growTo true n m = some (true, m') ∧ Holds m' (s.grow n hn) := by
  have hcapacity := s.count_le
  have hlength : s.count ≤ s.buffer.length := by rwa [s.length_buffer]
  let fresh : Memory := { m with blocks := m.blocks ++ [List.replicate n .zero] }
  have halloc : arenaAlloc true n m = (some m.blocks.length, fresh) := by
    unfold arenaAlloc
    rw [if_pos ⟨rfl, hgrant⟩, Int.toNat_natCast]
  have hnew : contents fresh (some m.blocks.length) = some (List.replicate n .zero) := by
    simp [contents, fresh]
  have hold : contents fresh m.extra = some s.buffer := contents_alloc h.buffer _
  have hne : m.extra ≠ some m.blocks.length := by
    intro hextra
    have hbuffer := h.buffer
    rw [hextra] at hbuffer
    exact lt_irrefl _ (lt_of_contents hbuffer)
  have hcopy := copySlots_eq hold hnew hne s.count hlength (by rw [List.length_replicate]; omega)
  have htoNat : m.count.toNat = s.count := by
    rw [h.count]
    exact Int.toNat_natCast _
  have hcontents : s.buffer.take s.count ++ (List.replicate n SpanActivation.zero).drop s.count =
      (s.grow n hn).buffer := by
    rw [List.drop_replicate]
    rfl
  rw [hcontents] at hcopy
  let grown : Memory :=
    { setContents fresh (s.grow n hn).buffer (some m.blocks.length) with
      extra := some m.blocks.length
      capacity := n }
  refine ⟨grown, ?_, ?_⟩
  · rw [← htoNat] at hcopy
    unfold growTo
    rw [halloc]
    change (copySlots m.extra (some m.blocks.length) m.count.toNat fresh).bind _ = _
    rw [hcopy]
    rfl
  · refine ⟨h.count, rfl, h.activations, ?_, ?_⟩
    · exact contents_setContents (by rw [hnew]; rfl)
    · exact iff_of_false nofun nofun

theorem push_of_room (h : s.count < s.capacity) (a : SpanActivation) : s.push a = s.put h a := by
  have hspill : s.spill = s := by
    refine dif_neg fun hfull => hfull.2 ?_
    rwa [← s.capacity_inline hfull.1]
  unfold ActivationStack.push
  simp only [hspill]
  exact dif_pos h

theorem push_inline_full (hextra : s.extra = none) (hfull : ¬ s.count < s.capacity)
    (hn : s.capacity ≤ kMaxActivations * 4)
    (hroom : (s.grow _ hn).count < (s.grow _ hn).capacity) (a : SpanActivation) :
    s.push a = (s.grow _ hn).put hroom a := by
  have hspill : s.spill = s.grow _ hn := by
    refine dif_pos ⟨hextra, fun hlt => hfull ?_⟩
    rwa [s.capacity_inline hextra]
  unfold ActivationStack.push
  simp only [hspill]
  exact dif_pos hroom

theorem push_extra_full (hextra : s.extra ≠ none) (hfull : ¬ s.count < s.capacity)
    (hn : s.capacity ≤ s.capacity * 3 / 2)
    (hroom : (s.grow _ hn).count < (s.grow _ hn).capacity) (a : SpanActivation) :
    s.push a = (s.grow _ hn).put hroom a := by
  have hspill : s.spill = s := dif_neg fun h => hextra h.1
  unfold ActivationStack.push
  simp only [hspill]
  exact dif_neg hfull

section Branches

variable {granted : Bool} {m' : Memory}

theorem pushExtra_room (h : m.count < m.capacity) :
    pushExtra granted m = some (some (takeSlot m).1, (takeSlot m).2) := if_pos h

theorem pushExtra_full (h : ¬ m.count < m.capacity)
    (hgrow : growTo granted (half m.capacity) m = some (true, m')) :
    pushExtra granted m = some (some (takeSlot m').1, (takeSlot m').2) := by
  unfold pushExtra
  rw [if_neg h, hgrow]
  rfl

theorem push_extra (h : m.extra ≠ none) : activationStackPush granted m = pushExtra granted m :=
  if_pos (Option.isSome_iff_ne_none.mpr h)

theorem push_inline (h : m.extra = none) (hroom : m.count < kMaxActivations) :
    activationStackPush granted m = some (some (takeSlot m).1, (takeSlot m).2) := by
  unfold activationStackPush
  rw [h, if_neg (by decide), if_pos hroom]
  rfl

theorem push_spill (h : m.extra = none) (hfull : ¬ m.count < kMaxActivations)
    (hgrow : growTo granted (kMaxActivations * 4) m = some (true, m')) :
    activationStackPush granted m = pushExtra granted m' := by
  unfold activationStackPush
  rw [h, if_neg (by decide), if_neg hfull, hgrow]
  rfl

end Branches

/-- The push returns a slot, and the write to it gives the stack `t`. -/
def Gives (result : Option (Option Slot × Memory)) (a : SpanActivation) (t : ActivationStack) :
    Prop :=
  ∃ slot m' m'', result = some (some slot, m') ∧ Inside m' slot ∧ writeSlot m' slot a = some m'' ∧
    Holds m'' t

theorem Holds.takeSlot (h : Holds m s) (hlt : s.count < s.capacity) (a : SpanActivation) :
    Gives (some (some (takeSlot m).1, (takeSlot m).2)) a (s.put hlt a) := by
  obtain ⟨hinside, m', hwrite, hholds⟩ := h.put hlt a
  exact ⟨_, _, m', rfl, hinside, hwrite, hholds⟩

theorem Holds.push (h : Holds m s) (a : SpanActivation) {granted : Bool}
    (halloc : AllocSucceeds m (.push a granted)) :
    Gives (activationStackPush granted m) a (s.push a) := by
  have hcount := h.count
  have hcapacity := h.capacity
  have hle := s.count_le
  have hge := s.capacity_ge
  by_cases hroom : s.count < s.capacity
  · have hlt : m.count < m.capacity := by omega
    have hgives := h.takeSlot hroom a
    rw [push_of_room hroom]
    by_cases hextra : m.extra = none
    · have hinline := s.capacity_inline (h.inline.mp hextra)
      rw [push_inline hextra (by omega)]
      exact hgives
    · rw [push_extra hextra, pushExtra_room hlt]
      exact hgives
  · have hfull : ¬ m.count < m.capacity := by omega
    unfold AllocSucceeds asks at halloc
    rw [if_neg hfull] at halloc
    by_cases hextra : m.extra = none
    · have hnone := h.inline.mp hextra
      have hinline := s.capacity_inline hnone
      have hn : s.capacity ≤ kMaxActivations * 4 := by omega
      have hroom' : (s.grow _ hn).count < (s.grow _ hn).capacity := by
        change s.count < kMaxActivations * 4
        unfold kMaxActivations at *
        omega
      rw [hextra] at halloc
      obtain ⟨rfl, hgrant⟩ := halloc _ rfl
      obtain ⟨m', hgrow, hholds⟩ := h.grow hn hgrant
      have hlt' : m'.count < m'.capacity := by
        rw [hholds.count, hholds.capacity]
        exact_mod_cast hroom'
      rw [push_inline_full hnone hroom hn hroom', push_spill hextra (by omega) hgrow,
        pushExtra_room hlt']
      exact hholds.takeSlot hroom' a
    · have hsome : s.extra ≠ none := fun hnone => hextra (h.inline.mpr hnone)
      have hn : s.capacity ≤ s.capacity * 3 / 2 := by omega
      have hroom' : (s.grow _ hn).count < (s.grow _ hn).capacity := by
        change s.count < s.capacity * 3 / 2
        unfold kMaxActivations at hge
        omega
      have hhalf : half m.capacity = (s.capacity * 3 / 2 : ℕ) := by
        rw [half, hcapacity, Int.tdiv_eq_ediv_of_nonneg (by omega)]
        omega
      rw [if_pos (Option.isSome_iff_ne_none.mpr hextra)] at halloc
      obtain ⟨rfl, hgrant⟩ := halloc _ rfl
      rw [hhalf] at hgrant
      obtain ⟨m', hgrow, hholds⟩ := h.grow hn hgrant
      rw [← hhalf] at hgrow
      rw [push_extra_full hsome hroom hn hroom', push_extra hextra, pushExtra_full hfull hgrow]
      exact hholds.takeSlot hroom' a

theorem Holds.pop (h : Holds m s) :
    ∃ m', step m .pop = some (m', .popped s.pop.1) ∧ Holds m' s.pop.2 := by
  have hcount := h.count
  have hcapacity := h.capacity
  have hle := s.count_le
  by_cases hempty : s.count = 0
  · have hpop : s.pop = (none, s) := if_pos hempty
    have hslot : activationStackPop m = (none, m) := if_pos (by omega)
    rw [hpop]
    refine ⟨m, ?_, h⟩
    simp only [step, hslot]
  · have hlast : s.count - 1 < s.buffer.length := by
      rw [s.length_buffer]
      omega
    have hslot : activationStackPop m =
        (some ⟨m.extra, (s.count - 1 : ℕ)⟩, { m with count := m.count - 1 }) := by
      have hindex : m.count - 1 = ((s.count - 1 : ℕ) : ℤ) := by omega
      unfold activationStackPop
      rw [if_neg (by omega), hindex]
    have hinside : Inside { m with count := m.count - 1 } ⟨m.extra, (s.count - 1 : ℕ)⟩ := by
      refine ⟨rfl, Int.natCast_nonneg _, ?_⟩
      change ((s.count - 1 : ℕ) : ℤ) < m.capacity
      omega
    have hbuffer : contents { m with count := m.count - 1 } m.extra = some s.buffer :=
      (contents_count m _ _).trans h.buffer
    have htop : s.pop.1 = some s.buffer[s.count - 1] := by
      unfold ActivationStack.pop
      rw [if_neg hempty, List.getElem?_eq_getElem hlast]
    refine ⟨{ m with count := m.count - 1 }, ?_, ?_⟩
    · simp only [step, hslot, not_not.mpr hinside, readSlot_of_lt hbuffer hlast, htop, if_false]
      rfl
    · unfold ActivationStack.pop
      rw [if_neg hempty]
      exact ⟨by simp only; omega, hcapacity, h.activations, hbuffer, h.inline⟩

end Steps

/-! ## Runs -/

/-- The memory is that of a stack whose elements are `l`. -/
def Models (m : Memory) (l : List SpanActivation) : Prop := ∃ s, Holds m s ∧ s.toList = l

theorem step_refines (m : Memory) (l : List SpanActivation) (e : Event) (h : Models m l)
    (halloc : AllocSucceeds m e) :
    ∃ m', step m e = some (m', (listStep l e).2) ∧ Models m' (listStep l e).1 := by
  obtain ⟨s, h, rfl⟩ := h
  cases e with
  | push a granted =>
    obtain ⟨slot, m', m'', hpush, hinside, hwrite, hholds⟩ := h.push a halloc
    refine ⟨m'', ?_, s.push a, hholds, s.toList_push a⟩
    simp only [step, hpush, Option.bind_eq_bind, Option.bind_some, not_not.mpr hinside, if_false,
      hwrite]
    rfl
  | pop =>
    obtain ⟨m', hpop, hholds⟩ := h.pop
    refine ⟨m', ?_, s.pop.2, hholds, s.toList_pop⟩
    rw [hpop, s.pop_fst]
    rfl

/-- **The stack refines a list.** Every run whose allocations succeed has a result, so that no slot
lies outside of the buffer, and the answers are those of a list. -/
theorem activation_stack_refines (es : List Event)
    (h : Meets step AllocSucceeds activationStackInit es) :
    ∃ m, run step activationStackInit es = some (m, (play listStep [] es).2) := by
  have hinit : Models activationStackInit [] := ⟨.init, holds_init, rfl⟩
  obtain ⟨m, hrun, _⟩ := run_eq_play step_refines es activationStackInit [] hinit h
  exact ⟨m, hrun⟩

theorem third_push_spills :
    ∃ m, run step activationStackInit
      [.push outerSpan false, .push nestedSpan false, .push outerSpan true, .pop, .pop, .pop, .pop] =
        some (m, [.pushed, .pushed, .pushed, .popped (some outerSpan), .popped (some nestedSpan),
          .popped (some outerSpan), .popped none]) :=
  activation_stack_refines _ (by decide)

end SplunkOtel.Native.StackSlots
