import SplunkOtel.Lib.Probing

/-!
# Hash tables (`src/native_ext/khash.h`)

What `KHASH_INIT` makes for a type of keys and one of values; a set has values of no content. An
array is a function of the index, and the words of `flags` are pairs of bits. A loop that has no
end, or comes to none, has no result. `khint_t` wraps where the source can come near to 2^32.
-/

open Lib.Probing

namespace SplunkOtel.Native.Khash

/-- The two bits of each bucket. -/
structure Flags where
  isempty : ℕ → Bool
  isdel : ℕ → Bool

namespace Flags

def iseither (f : Flags) (i : ℕ) : Bool := f.isempty i || f.isdel i

def setIsdelTrue (f : Flags) (i : ℕ) : Flags := { f with isdel := Function.update f.isdel i true }

def setIsemptyFalse (f : Flags) (i : ℕ) : Flags :=
  { f with isempty := Function.update f.isempty i false }

def setIsbothFalse (f : Flags) (i : ℕ) : Flags where
  isempty := Function.update f.isempty i false
  isdel := Function.update f.isdel i false

/-- Words of 0xaaaaaaaa. -/
def allEmpty : Flags where
  isempty := fun _ => true
  isdel := fun _ => false

end Flags

structure Table (K V : Type*) where
  nBuckets : ℕ
  size : ℕ
  nOccupied : ℕ
  upperBound : ℕ
  flags : Flags
  keys : ℕ → K
  vals : ℕ → V

/-- Whether the allocator grants what a resize asks for. -/
structure Memory where
  flags : Bool
  keys : Bool
  vals : Bool
deriving DecidableEq

def Memory.granted : Memory := { flags := true, keys := true, vals := true }

/-- `(khint32_t)(key)` of a signed key. -/
def khIntHashFunc (key : ℤ) : ℕ := (key % 2 ^ 32).toNat

/-- `(khint32_t)((key)>>33^(key)^(key)<<11)` -/
def khInt64HashFunc (key : BitVec 64) : ℕ := ((key >>> 33 ^^^ key ^^^ key <<< 11).setWidth 32).toNat

def kroundup32 (x : ℕ) : ℕ :=
  let x := BitVec.ofNat 32 x - 1
  let x := x ||| x >>> 1
  let x := x ||| x >>> 2
  let x := x ||| x >>> 4
  let x := x ||| x >>> 8
  let x := x ||| x >>> 16
  (x + 1).toNat

/-- `(khint_t)(n * __ac_HASH_UPPER + 0.5)`. The double next to 0.77 gives the same whole number for
the powers of two below 2^32. -/
def upperBoundOf (n : ℕ) : ℕ := (77 * n + 50) / 100

variable {K V : Type*}

/-- `kh_init`: the arrays are null, so what they hold is never read. -/
def khInit (keys : ℕ → K) (vals : ℕ → V) : Table K V where
  nBuckets := 0
  size := 0
  nOccupied := 0
  upperBound := 0
  flags := .allEmpty
  keys
  vals

def khClear (h : Table K V) : Table K V :=
  if h.nBuckets = 0 then h else { h with flags := .allEmpty, size := 0, nOccupied := 0 }

section Code

variable [DecidableEq K] (hash : K → ℕ)

/-- The condition of the loops in `kh_get` and `kh_put`. -/
def Table.passes (h : Table K V) (key : K) (i : ℕ) : Bool :=
  !h.flags.isempty i && (h.flags.isdel i || h.keys i ≠ key)

def khGet (h : Table K V) (key : K) : Option ℕ :=
  if h.nBuckets = 0 then some 0
  else
    let mask := h.nBuckets - 1
    let last := hash key &&& mask
    match walkWhile (h.passes key) (· = last) (fun _ s => s) mask (2 * h.nBuckets) last 0 () with
    | none => none
    | some (i, turned, _) =>
      if turned || h.flags.iseither i then some h.nBuckets else some i

/-! ## Resizing -/

/-- The arrays in the course of `kh_resize`. -/
structure Rehash (K V : Type*) where
  flags : Flags
  newFlags : Flags
  keys : ℕ → K
  vals : ℕ → V

/-- The kick-out process for one entry. -/
def kickOut (nBuckets newMask : ℕ) : ℕ → K → V → Rehash K V → Option (Rehash K V)
  | 0, _, _, _ => none
  | fuel + 1, key, val, r =>
    match walkWhile (fun i => !r.newFlags.isempty i) (fun _ => false) (fun _ s => s) newMask
        (newMask + 1) (hash key &&& newMask) 0 () with
    | none => none
    | some (i, _, _) =>
      let moved : Rehash K V :=
        { r with
          newFlags := r.newFlags.setIsemptyFalse i
          keys := Function.update r.keys i key
          vals := Function.update r.vals i val }
      if i < nBuckets && !r.flags.iseither i then
        kickOut nBuckets newMask fuel (r.keys i) (r.vals i)
          { moved with flags := r.flags.setIsdelTrue i }
      else some moved

/-- The round of the loop for bucket `j`. -/
def rehashBucket (nBuckets newMask : ℕ) (r : Rehash K V) (j : ℕ) : Option (Rehash K V) :=
  if r.flags.iseither j then some r
  else kickOut hash nBuckets newMask (nBuckets + 1) (r.keys j) (r.vals j)
    { r with flags := r.flags.setIsdelTrue j }

def rehash (nBuckets newMask : ℕ) (r : Rehash K V) : Option (Rehash K V) :=
  (List.range nBuckets).foldlM (rehashBucket hash nBuckets newMask) r

/-- The table, and whether it is not for lack of memory that nothing was done. There is no result
when a table that shrinks loses an array. -/
def khResize (h : Table K V) (newNBuckets : ℕ) (mem : Memory) : Option (Table K V × Bool) :=
  let newNBuckets := max (kroundup32 newNBuckets) 4
  if upperBoundOf newNBuckets ≤ h.size then some (h, true)
  else if !mem.flags then some (h, false)
  else if h.nBuckets < newNBuckets && !(mem.keys && mem.vals) then some (h, false)
  -- The `krealloc` of the shrink is not checked: it leaves a null array.
  else if newNBuckets < h.nBuckets && !(mem.keys && mem.vals) then none
  else
    match rehash hash h.nBuckets (newNBuckets - 1)
        { flags := h.flags, newFlags := .allEmpty, keys := h.keys, vals := h.vals } with
    | none => none
    | some r => some
      ({ nBuckets := newNBuckets
         size := h.size
         nOccupied := h.size
         upperBound := upperBoundOf newNBuckets
         flags := r.newFlags
         keys := r.keys
         vals := r.vals }, true)

/-! ## Insertion and deletion -/

/-- The resize that `kh_put` begins with. -/
def makeRoom (h : Table K V) (mem : Memory) : Option (Table K V × Bool) :=
  if h.upperBound ≤ h.nOccupied then
    if h.size * 2 % 2 ^ 32 < h.nBuckets then khResize hash h (h.nBuckets - 1) mem
    else khResize hash h (h.nBuckets + 1) mem
  else some (h, true)

/-- The bucket for a key: where it is, else one that it can take. -/
def findSite (h : Table K V) (key : K) : Option ℕ :=
  let mask := h.nBuckets - 1
  let last := hash key &&& mask
  if h.flags.isempty last then some last
  else
    match walkWhile (h.passes key) (· = last) (fun i site => if h.flags.isdel i then i else site)
        mask (2 * h.nBuckets) last 0 h.nBuckets with
    | none => none
    | some (i, turned, site) =>
      let x := if turned then site else h.nBuckets
      some (if x = h.nBuckets then
        if h.flags.isempty i && site ≠ h.nBuckets then site else i
      else x)

/-- The table, the bucket and `ret`. -/
def khPut (h : Table K V) (key : K) (mem : Memory) : Option (Table K V × ℕ × ℤ) :=
  match makeRoom hash h mem with
  | none => none
  | some (h, false) => some (h, h.nBuckets, -1)
  | some (h, true) =>
    match findSite hash h key with
    | none => none
    | some x =>
      if h.flags.isempty x then some
        ({ h with
           keys := Function.update h.keys x key
           flags := h.flags.setIsbothFalse x
           size := h.size + 1
           nOccupied := h.nOccupied + 1 }, x, 1)
      else if h.flags.isdel x then some
        ({ h with
           keys := Function.update h.keys x key
           flags := h.flags.setIsbothFalse x
           size := h.size + 1 }, x, 2)
      else some (h, x, 0)

def khDel (h : Table K V) (x : ℕ) : Table K V :=
  if x ≠ h.nBuckets && !h.flags.iseither x then
    { h with flags := h.flags.setIsdelTrue x, size := h.size - 1 }
  else h

/-- `kh_value(h, x) = val` -/
def Table.setValue (h : Table K V) (x : ℕ) (val : V) : Table K V :=
  { h with vals := Function.update h.vals x val }

end Code

/-! ## Sound tables -/

section Sound

variable (hash : K → ℕ)

/-- Where the walk for a key starts. -/
def home (k : ℕ) (key : K) : ℕ := hash key &&& (2 ^ k - 1)

theorem home_lt (k : ℕ) (key : K) : home hash k key < 2 ^ k := by
  rw [home, Nat.and_two_pow_sub_one_eq_mod]
  exact Nat.mod_lt _ (Nat.two_pow_pos k)

/-- The walk for a key comes to bucket `i` over buckets that are not empty. -/
def Reached (isempty : ℕ → Bool) (k : ℕ) (key : K) (i : ℕ) : Prop :=
  ∃ n < 2 ^ k, walk (2 ^ k - 1) (home hash k key) n = i ∧
    ∀ m < n, isempty (walk (2 ^ k - 1) (home hash k key) m) = false

/-- Bucket `i` holds an entry. -/
def Table.live (h : Table K V) (i : ℕ) : Bool := !h.flags.iseither i

/-- A table of `2 ^ k` buckets that searches can rely on. -/
structure Sound (h : Table K V) (k : ℕ) : Prop where
  nBuckets : h.nBuckets = 2 ^ k
  two_le : 2 ≤ k
  le : k ≤ 31
  upperBound : h.upperBound = upperBoundOf h.nBuckets
  nOccupied : h.nOccupied = howMany (fun i => !h.flags.isempty i) h.nBuckets
  size : h.size = howMany h.live h.nBuckets
  room : h.nOccupied ≤ h.upperBound
  distinct : ∀ i < h.nBuckets, ∀ j < h.nBuckets, h.live i → h.live j → h.keys i = h.keys j → i = j
  reached : ∀ i < h.nBuckets, h.live i → Reached hash h.flags.isempty k (h.keys i) i

/-- A table that nothing was put in yet. -/
structure Blank (h : Table K V) : Prop where
  nBuckets : h.nBuckets = 0
  size : h.size = 0
  nOccupied : h.nOccupied = 0
  upperBound : h.upperBound = 0

def Inv (h : Table K V) : Prop := Blank h ∨ ∃ k, Sound hash h k

/-- The table has the entries of the map. -/
def Represents (h : Table K V) (m : K → Option V) : Prop :=
  ∀ key val, m key = some val ↔ ∃ i < h.nBuckets, h.live i ∧ h.keys i = key ∧ h.vals i = val

end Sound

variable {hash : K → ℕ}

theorem Reached.mono {isempty isempty' : ℕ → Bool} {k : ℕ} {key : K} {i : ℕ}
    (h : Reached hash isempty k key i)
    (hused : ∀ j, isempty j = false → isempty' j = false) : Reached hash isempty' k key i := by
  obtain ⟨n, hn, hwalk, hbefore⟩ := h
  exact ⟨n, hn, hwalk, fun m hm => hused _ (hbefore m hm)⟩

theorem live_eq_true {h : Table K V} {i : ℕ} :
    h.live i = true ↔ h.flags.isempty i = false ∧ h.flags.isdel i = false := by
  simp [Table.live, Flags.iseither]

theorem upperBoundOf_lt {k : ℕ} (hk : 2 ≤ k) : upperBoundOf (2 ^ k) < 2 ^ k := by
  have hfour : 2 ^ 2 ≤ 2 ^ k := Nat.pow_le_pow_right (by decide) hk
  unfold upperBoundOf
  omega

theorem Sound.exists_isempty {h : Table K V} {k : ℕ} (hs : Sound hash h k) :
    ∃ i < 2 ^ k, h.flags.isempty i = true := by
  have hlt := upperBoundOf_lt hs.two_le
  have hroom := hs.room
  rw [hs.upperBound, hs.nOccupied, hs.nBuckets] at hroom
  obtain ⟨i, hi, hempty⟩ := exists_of_howMany_lt (hroom.trans_lt hlt)
  exact ⟨i, hi, by simpa using hempty⟩

theorem Sound.nBuckets_ne {h : Table K V} {k : ℕ} (hs : Sound hash h k) : h.nBuckets ≠ 0 := by
  rw [hs.nBuckets]
  exact (Nat.two_pow_pos k).ne'

theorem Sound.mask {h : Table K V} {k : ℕ} (hs : Sound hash h k) : h.nBuckets - 1 = 2 ^ k - 1 := by
  rw [hs.nBuckets]

theorem Sound.start {h : Table K V} {k : ℕ} (hs : Sound hash h k) (key : K) :
    hash key &&& (h.nBuckets - 1) = home hash k key := by
  rw [hs.mask, home]

theorem Sound.fuel {h : Table K V} {k : ℕ} (hs : Sound hash h k) : 2 ^ k ≤ 2 * h.nBuckets := by
  rw [hs.nBuckets]
  exact Nat.le_mul_of_pos_left (2 ^ k) two_pos

variable [DecidableEq K]

theorem Sound.search {h : Table K V} {k : ℕ} (hs : Sound hash h k) (key : K) :
    ∃ n i, StopsAt (h.passes key) k (home hash k key) n ∧
      walk (2 ^ k - 1) (home hash k key) n = i ∧ i < h.nBuckets ∧
      (h.live i ∧ h.keys i = key ∨
        h.flags.isempty i = true ∧ ∀ j < h.nBuckets, h.live j → h.keys j ≠ key) := by
  obtain ⟨e, he, hempty⟩ := hs.exists_isempty
  obtain ⟨n, hn⟩ : ∃ n, StopsAt (h.passes key) k (home hash k key) n :=
    exists_stopsAt (home_lt hash k key) he (by simp [Table.passes, hempty])
  refine ⟨n, _, hn, rfl, hs.nBuckets ▸ walk_lt (home_lt hash k key) n, ?_⟩
  have hstop := hn.stop
  generalize hi : walk (2 ^ k - 1) (home hash k key) n = i at hstop
  by_cases hemptyi : h.flags.isempty i = true
  · refine Or.inr ⟨hemptyi, ?_⟩
    rintro j hj hlive rfl
    obtain ⟨m, -, hm, hbefore⟩ := hs.reached j hj hlive
    obtain ⟨husedj, hdelj⟩ := live_eq_true.mp hlive
    rcases lt_trichotomy m n with hlt | rfl | hlt
    · have hpass := hn.passed m hlt
      simp [hm, Table.passes, hdelj] at hpass
    · rw [← hm, hi, hemptyi] at husedj
      cases husedj
    · have hused := hbefore n hlt
      rw [hi, hemptyi] at hused
      cases hused
  · rw [Bool.not_eq_true] at hemptyi
    simp only [Table.passes, hemptyi, Bool.not_false, Bool.true_and, Bool.or_eq_false_iff,
      decide_eq_false_iff_not, not_not] at hstop
    exact Or.inl ⟨live_eq_true.mpr ⟨hemptyi, hstop.1⟩, hstop.2⟩

/-! ## Looking a key up -/

theorem khGet_spec {h : Table K V} (hinv : Inv hash h) (key : K) :
    (∃ i < h.nBuckets, h.live i ∧ h.keys i = key ∧ khGet hash h key = some i) ∨
      (∀ j < h.nBuckets, h.live j → h.keys j ≠ key) ∧ khGet hash h key = some h.nBuckets := by
  rcases hinv with hblank | ⟨k, hs⟩
  · refine Or.inr ⟨?_, by simp [khGet, hblank.nBuckets]⟩
    intro j hj
    rw [hblank.nBuckets] at hj
    exact absurd hj (Nat.not_lt_zero j)
  · obtain ⟨n, i, hn, hwalk, hi, hfound⟩ := hs.search key
    have hget : khGet hash h key =
        if h.flags.iseither i then some h.nBuckets else some i := by
      unfold khGet
      rw [if_neg hs.nBuckets_ne]
      simp only [hs.start]
      rw [hs.mask, walkWhile_eq (fun _ s => s) (home_lt hash k key) hn (by simp) () hs.fuel]
      simp [hwalk]
    rcases hfound with ⟨hlive, hkey⟩ | ⟨hempty, hnone⟩
    · refine Or.inl ⟨i, hi, hlive, hkey, ?_⟩
      rw [hget, if_neg (by simpa [Table.live] using hlive)]
    · exact Or.inr ⟨hnone, by rw [hget, if_pos (by simp [Flags.iseither, hempty])]⟩

end SplunkOtel.Native.Khash
