import SplunkOtel.Lib.Run
import SplunkOtel.Lib.Simulation
import SplunkOtel.Native.Rehash

/-!
# A hash table is a map

What the operations of `khash.h` do to the entries of a table, as its users call them: a lookup goes
on to the value or to `kh_del`, an insertion to the value.
-/

open Lib Lib.Probing

namespace SplunkOtel.Native.Khash

variable {K V : Type*} {hash : K → ℕ} {h : Table K V} {m : K → Option V} {k : ℕ}

/-! ## Rounding up -/

theorem kroundup32_pred (hk : 2 ≤ k) (hle : k ≤ 31) : kroundup32 (2 ^ k - 1) = 2 ^ k := by
  have hall : ∀ k ∈ List.range 32, 2 ≤ k → kroundup32 (2 ^ k - 1) = 2 ^ k := by decide
  exact hall k (List.mem_range.mpr (by omega)) hk

theorem kroundup32_succ (hk : 2 ≤ k) (hle : k ≤ 30) : kroundup32 (2 ^ k + 1) = 2 ^ (k + 1) := by
  have hall : ∀ k ∈ List.range 31, 2 ≤ k → kroundup32 (2 ^ k + 1) = 2 ^ (k + 1) := by decide
  exact hall k (List.mem_range.mpr (by omega)) hk

/-! ## Resizing -/

theorem represents_blank (hblank : Blank h) (hm : Represents h m) (key : K) : m key = none := by
  cases hval : m key with
  | none => rfl
  | some val =>
    obtain ⟨i, hi, -⟩ := (hm key val).mp hval
    rw [hblank.nBuckets] at hi
    exact absurd hi (Nat.not_lt_zero i)

theorem Inv.size_eq (hinv : Inv hash h) : h.size = howMany h.live h.nBuckets := by
  rcases hinv with hblank | ⟨_, hs⟩
  · rw [hblank.size, hblank.nBuckets]
    rfl
  · exact hs.size

theorem Inv.distinct (hinv : Inv hash h) {i j : ℕ} (hi : i < h.nBuckets) (hj : j < h.nBuckets)
    (hlivei : h.live i) (hlivej : h.live j) (heq : h.keys i = h.keys j) : i = j := by
  rcases hinv with hblank | ⟨_, hs⟩
  · rw [hblank.nBuckets] at hi
    exact absurd hi (Nat.not_lt_zero i)
  · exact hs.distinct i hi j hj hlivei hlivej heq

/-- The arrays when a resize begins. -/
def Table.toRehash (h : Table K V) : Rehash K V where
  flags := h.flags
  newFlags := .allEmpty
  keys := h.keys
  vals := h.vals

theorem moving_toRehash (hinv : Inv hash h) (hm : Represents h m) :
    Moving hash m h.nBuckets k h.size h.toRehash [] := by
  have hheld : ∀ i, h.toRehash.Held h.nBuckets k i ↔ i < h.nBuckets ∧ h.live i := by
    intro i
    simp [Rehash.Held, Rehash.newUsed, Rehash.oldLive, Table.toRehash, Flags.allEmpty, Table.live]
  constructor
  · exact fun _ _ _ => rfl
  · exact fun _ => rfl
  · intro i j hi hj heq
    obtain ⟨hi, hlivei⟩ := (hheld i).mp hi
    obtain ⟨hj, hlivej⟩ := (hheld j).mp hj
    exact hinv.distinct hi hj hlivei hlivej heq
  · exact fun e he => absurd he List.not_mem_nil
  · exact List.nodup_nil
  · intro key val
    rw [hm key val]
    simp only [hheld, List.not_mem_nil, or_false, and_assoc]
    rfl
  · exact fun _ _ hused => absurd hused Bool.false_ne_true
  · have hlive : h.toRehash.oldLive = h.live := rfl
    have hused : h.toRehash.newUsed = fun _ => false := rfl
    rw [hlive, hused, howMany_none, hinv.size_eq]
    simp

/-- The table when a resize ends. -/
def Rehash.toTable (r : Rehash K V) (newNBuckets size : ℕ) : Table K V where
  nBuckets := newNBuckets
  size := size
  nOccupied := size
  upperBound := upperBoundOf newNBuckets
  flags := r.newFlags
  keys := r.keys
  vals := r.vals

theorem sound_toTable {r : Rehash K V} {n size : ℕ} (h : Moving hash m n k size r [])
    (hdone : ∀ j < n, r.oldLive j = false) (hk : 2 ≤ k) (hle : k ≤ 31)
    (hroom : size ≤ upperBoundOf (2 ^ k)) :
    Sound hash (r.toTable (2 ^ k) size) k ∧ Represents (r.toTable (2 ^ k) size) m := by
  have hlive : (r.toTable (2 ^ k) size).live = r.newUsed := by
    funext i
    simp [Table.live, Rehash.newUsed, Rehash.toTable, Flags.iseither, h.fresh]
  have hheld : ∀ i, r.Held n k i ↔ i < 2 ^ k ∧ r.newUsed i := by
    intro i
    constructor
    · rintro (⟨hi, hold⟩ | hnew)
      · simp [hdone i hi] at hold
      · exact hnew
    · exact Or.inr
  have hcount := h.count
  rw [howMany_eq_zero hdone, List.length_nil] at hcount
  refine ⟨⟨rfl, hk, hle, rfl, hcount.symm, ?_, hroom, ?_, ?_⟩, ?_⟩
  · rw [hlive]
    exact hcount.symm
  · intro i hi j hj hlivei hlivej heq
    rw [hlive] at hlivei hlivej
    exact h.distinct i j (Or.inr ⟨hi, hlivei⟩) (Or.inr ⟨hj, hlivej⟩) heq
  · intro i hi hlivei
    rw [hlive] at hlivei
    exact h.reached i hi hlivei
  · intro key val
    rw [h.content]
    simp only [hheld, List.not_mem_nil, or_false, hlive, and_assoc]
    rfl

/-- A resize to `2 ^ k` buckets, which hold the entries and are not fewer: it keeps the entries, or
does nothing for lack of memory. -/
theorem khResize_spec (hinv : Inv hash h) (hm : Represents h m) {newNBuckets : ℕ}
    (hround : max (kroundup32 newNBuckets) 4 = 2 ^ k) (hk : 2 ≤ k) (hle : k ≤ 31)
    (hgrow : h.nBuckets ≤ 2 ^ k) (hroom : h.size < upperBoundOf (2 ^ k)) (mem : Memory) :
    (∃ h', khResize hash h newNBuckets mem = some (h', true) ∧ Sound hash h' k ∧
      h'.size = h.size ∧ h'.nOccupied = h.size ∧ Represents h' m) ∨
    khResize hash h newNBuckets mem = some (h, false) ∧ mem ≠ .granted := by
  have hsize : h.size ≤ 2 ^ k := (hroom.trans (upperBoundOf_lt hk)).le
  obtain ⟨r, hr, hmoving, hdone⟩ := rehash_spec hsize (moving_toRehash hinv hm)
  obtain ⟨hsound, hrepresents⟩ := sound_toTable hmoving hdone hk hle hroom.le
  unfold khResize
  have hshrink : decide (2 ^ k < h.nBuckets) = false := decide_eq_false (Nat.not_lt.mpr hgrow)
  simp only [hround, if_neg (Nat.not_le.mpr hroom), hshrink, Bool.false_and, Bool.false_eq_true,
    if_false]
  split
  · rename_i hflags
    exact Or.inr ⟨rfl, fun heq => by simp [heq, Memory.granted] at hflags⟩
  split
  · rename_i hexpand
    exact Or.inr ⟨rfl, fun heq => by simp [heq, Memory.granted] at hexpand⟩
  · refine Or.inl ⟨_, ?_, hsound, rfl, rfl, hrepresents⟩
    simp only [Table.toRehash] at hr
    rw [hr]
    rfl

theorem makeRoom_spec (hinv : Inv hash h) (hm : Represents h m) (hsize : h.size < 2 ^ 30)
    (mem : Memory) :
    (∃ h' k, makeRoom hash h mem = some (h', true) ∧ Sound hash h' k ∧ h'.size = h.size ∧
      h'.nOccupied < h'.upperBound ∧ Represents h' m ∧
      (h'.nBuckets = h.nBuckets ∨ h'.nBuckets ≤ max 4 (4 * h.size))) ∨
    makeRoom hash h mem = some (h, false) ∧ mem ≠ .granted := by
  unfold makeRoom
  rcases hinv with hblank | ⟨k, hs⟩
  · have hcond : h.upperBound ≤ h.nOccupied := by rw [hblank.upperBound, hblank.nOccupied]
    have hsmall : ¬ h.size * 2 % 2 ^ 32 < h.nBuckets := by simp [hblank.nBuckets]
    rw [if_pos hcond, if_neg hsmall, hblank.nBuckets]
    have hround : max (kroundup32 (0 + 1)) 4 = 2 ^ 2 := by decide
    have hlt : h.size < upperBoundOf (2 ^ 2) := by
      rw [hblank.size]
      decide
    rcases khResize_spec (Or.inl hblank) hm hround le_rfl (by decide)
      (hblank.nBuckets ▸ Nat.zero_le _) hlt mem with ⟨h', hr, hs', hsize', hocc', hm'⟩ | hrefused
    · refine Or.inl ⟨h', 2, hr, hs', hsize', ?_, hm', Or.inr ?_⟩
      · rw [hocc', hs'.upperBound, hs'.nBuckets, hblank.size]
        decide
      · rw [hs'.nBuckets]
        exact le_max_left _ _
    · exact Or.inr hrefused
  · split
    · have hbuckets := hs.nBuckets
      have hoccupied : h.size ≤ h.nOccupied := by
        rw [hs.size, hs.nOccupied]
        apply howMany_mono
        intro i _ hlive
        simpa using (live_eq_true.mp hlive).1
      have hroom := hs.room
      have hfour : 2 ^ 2 ≤ 2 ^ k := Nat.pow_le_pow_right (by decide) hs.two_le
      rw [hs.upperBound, hs.nBuckets, upperBoundOf] at hroom
      rw [Nat.mod_eq_of_lt (by omega)]
      split
      · -- Less than half of the buckets hold entries, so the deleted ones are cleared.
        rename_i hhalf
        have hlt : h.size < upperBoundOf (2 ^ k) := by
          unfold upperBoundOf
          omega
        have hround : max (kroundup32 (h.nBuckets - 1)) 4 = 2 ^ k := by
          rw [hbuckets, kroundup32_pred hs.two_le hs.le]
          exact max_eq_left hfour
        rcases khResize_spec (Or.inr ⟨k, hs⟩) hm hround hs.two_le hs.le hbuckets.le hlt mem with
          ⟨h', hr, hs', hsize', hocc', hm'⟩ | hrefused
        · refine Or.inl ⟨h', k, hr, hs', hsize', ?_, hm', Or.inl (by rw [hs'.nBuckets, hbuckets])⟩
          rw [hocc', hs'.upperBound, hs'.nBuckets]
          exact hlt
        · exact Or.inr hrefused
      · rename_i hhalf
        have hk : k ≤ 30 := by
          by_contra hbig
          have hpow : 2 ^ 31 ≤ 2 ^ k := Nat.pow_le_pow_right (by decide) (by omega)
          omega
        have hdouble : 2 ^ (k + 1) = 2 * 2 ^ k := by rw [Nat.pow_succ, Nat.mul_comm]
        have hlt : h.size < upperBoundOf (2 ^ (k + 1)) := by
          unfold upperBoundOf
          omega
        have hround : max (kroundup32 (h.nBuckets + 1)) 4 = 2 ^ (k + 1) := by
          rw [hbuckets, kroundup32_succ hs.two_le hk]
          exact max_eq_left (by omega)
        rcases khResize_spec (Or.inr ⟨k, hs⟩) hm hround (Nat.le_succ_of_le hs.two_le)
          (Nat.succ_le_succ hk) (by omega) hlt mem with ⟨h', hr, hs', hsize', hocc', hm'⟩ | hrefused
        · refine Or.inl ⟨h', k + 1, hr, hs', hsize', ?_, hm', Or.inr ?_⟩
          · rw [hocc', hs'.upperBound, hs'.nBuckets]
            exact hlt
          · rw [hs'.nBuckets]
            apply le_max_of_le_right
            omega
        · exact Or.inr hrefused
    · rename_i hroom
      exact Or.inl ⟨h, k, rfl, hs, rfl, Nat.not_le.mp hroom, hm, Or.inl rfl⟩

/-! ## Finding a bucket -/

/-- The entry for a key takes bucket `x`, which holds none. -/
def Table.insert (h : Table K V) (x : ℕ) (key : K) : Table K V :=
  { h with
    keys := Function.update h.keys x key
    flags := h.flags.setIsbothFalse x
    size := h.size + 1
    nOccupied := if h.flags.isempty x then h.nOccupied + 1 else h.nOccupied }

theorem live_insert (h : Table K V) (x : ℕ) (key : K) :
    (h.insert x key).live = Function.update h.live x true := by
  funext i
  by_cases hi : i = x
  · subst hi
    simp [Table.live, Table.insert, Flags.iseither, Flags.setIsbothFalse]
  · simp [Table.live, Table.insert, Flags.iseither, Flags.setIsbothFalse, hi]

theorem not_isempty_insert (h : Table K V) (x : ℕ) (key : K) :
    (fun i => !(h.insert x key).flags.isempty i) =
      Function.update (fun i => !h.flags.isempty i) x true := by
  funext i
  by_cases hi : i = x
  · subst hi
    simp [Table.insert, Flags.setIsbothFalse]
  · simp [Table.insert, Flags.setIsbothFalse, hi]

variable [DecidableEq K]

theorem Sound.insert (hs : Sound hash h k) (hm : Represents h m) {x : ℕ} {key : K}
    (hx : x < h.nBuckets) (hdead : h.live x = false)
    (hreached : Reached hash h.flags.isempty k key x)
    (hnew : ∀ j < h.nBuckets, h.live j → h.keys j ≠ key) (hroom : h.nOccupied < h.upperBound) :
    Sound hash (h.insert x key) k ∧
      Represents (h.insert x key) (Function.update m key (some (h.vals x))) := by
  have hlive : ∀ j, (h.insert x key).live j = true ↔ j = x ∨ h.live j = true := by
    intro j
    by_cases hj : j = x
    · subst hj
      simp [live_insert]
    · simp [live_insert, hj]
  have hne : ∀ j, h.live j → j ≠ x := by
    rintro j hj rfl
    simp [hdead] at hj
  have hkeyx : (h.insert x key).keys x = key := Function.update_self ..
  have hkey : ∀ j, h.live j → (h.insert x key).keys j = h.keys j := fun j hj =>
    Function.update_of_ne (hne j hj) ..
  have hempty : ∀ j, h.flags.isempty j = false → (h.insert x key).flags.isempty j = false := by
    intro j hj
    by_cases hjx : j = x
    · subst hjx
      exact Function.update_self ..
    · exact (Function.update_of_ne hjx ..).trans hj
  refine ⟨⟨hs.nBuckets, hs.two_le, hs.le, hs.upperBound, ?_, ?_, ?_, ?_, ?_⟩, ?_⟩
  · rw [not_isempty_insert]
    change (if h.flags.isempty x then h.nOccupied + 1 else h.nOccupied) =
      howMany _ h.nBuckets
    by_cases hx' : h.flags.isempty x = true
    · rw [if_pos hx', howMany_update_true hx (by simp [hx']), hs.nOccupied]
    · have hsame : Function.update (fun i => !h.flags.isempty i) x true =
          fun i => !h.flags.isempty i := by
        rw [Function.update_eq_self_iff]
        simpa using hx'
      rw [if_neg hx', hsame, hs.nOccupied]
  · change h.size + 1 = howMany _ h.nBuckets
    rw [live_insert, howMany_update_true hx hdead, hs.size]
  · change (if h.flags.isempty x then h.nOccupied + 1 else h.nOccupied) ≤ h.upperBound
    split
    · exact hroom
    · exact hroom.le
  · intro i hi j hj hlivei hlivej heq
    rcases (hlive i).mp hlivei with rfl | hi'
    · rcases (hlive j).mp hlivej with rfl | hj'
      · rfl
      · rw [hkeyx, hkey j hj'] at heq
        exact absurd heq.symm (hnew j hj hj')
    · rcases (hlive j).mp hlivej with rfl | hj'
      · rw [hkeyx, hkey i hi'] at heq
        exact absurd heq (hnew i hi hi')
      · rw [hkey i hi', hkey j hj'] at heq
        exact hs.distinct i hi j hj hi' hj' heq
  · intro i hi hlivei
    rcases (hlive i).mp hlivei with rfl | hi'
    · rw [hkeyx]
      exact hreached.mono hempty
    · rw [hkey i hi']
      exact (hs.reached i hi hi').mono hempty
  · intro key' val
    constructor
    · intro hval
      by_cases hkey' : key' = key
      · subst hkey'
        rw [Function.update_self, Option.some_inj] at hval
        exact ⟨x, hx, (hlive x).mpr (Or.inl rfl), hkeyx, hval⟩
      · rw [Function.update_of_ne hkey'] at hval
        obtain ⟨i, hi, hlivei, hkeyi, hvali⟩ := (hm key' val).mp hval
        exact ⟨i, hi, (hlive i).mpr (Or.inr hlivei), (hkey i hlivei).trans hkeyi, hvali⟩
    · rintro ⟨i, hi, hlivei, hkeyi, hvali⟩
      rcases (hlive i).mp hlivei with rfl | hi'
      · rw [hkeyx] at hkeyi
        rw [← hkeyi, Function.update_self, ← hvali]
        rfl
      · rw [hkey i hi'] at hkeyi
        have hkey' : key' ≠ key := fun heq => hnew i hi hi' (hkeyi.trans heq)
        rw [Function.update_of_ne hkey']
        exact (hm key' val).mpr ⟨i, hi, hi', hkeyi, hvali⟩

theorem findSite_spec (hs : Sound hash h k) (key : K) :
    ∃ x < h.nBuckets, findSite hash h key = some x ∧ (h.live x ∧ h.keys x = key ∨
      h.live x = false ∧ Reached hash h.flags.isempty k key x ∧
        ∀ j < h.nBuckets, h.live j → h.keys j ≠ key) := by
  obtain ⟨n, i, hn, hwalk, hi, hfound⟩ := hs.search key
  have hused : ∀ r < n, h.flags.isempty (walk (2 ^ k - 1) (home hash k key) r) = false := by
    intro r hr
    have hpass := hn.passed r hr
    simp only [Table.passes, Bool.and_eq_true, Bool.not_eq_true'] at hpass
    exact hpass.1
  have hdead : ∀ j, h.flags.isempty j = true → h.live j = false := by
    intro j hj
    simp [Table.live, Flags.iseither, hj]
  unfold findSite
  simp only [hs.start]
  split
  · rename_i hempty
    have hstart : StopsAt (h.passes key) k (home hash k key) 0 :=
      ⟨Nat.two_pow_pos k, by simp [Table.passes, walk, hempty],
        fun j hj => absurd hj (Nat.not_lt_zero j)⟩
    obtain rfl := hn.unique hstart
    obtain rfl : home hash k key = i := hwalk
    refine ⟨_, hi, rfl, ?_⟩
    rcases hfound with ⟨hlive, -⟩ | ⟨-, hnone⟩
    · simp [hdead _ hempty] at hlive
    · exact Or.inr ⟨hdead _ hempty, ⟨0, Nat.two_pow_pos k, rfl,
        fun j hj => absurd hj (Nat.not_lt_zero j)⟩, hnone⟩
  · rw [hs.mask, walkWhile_eq _ (home_lt hash k key) hn (by simp) _ hs.fuel]
    simp only [hwalk, Bool.false_eq_true, if_false, if_true]
    generalize hsite : noted _ _ _ n h.nBuckets = site
    -- The site is the last deleted bucket that the walk passed, if any.
    have hdeleted : site = h.nBuckets ∨
        ∃ r < n, walk (2 ^ k - 1) (home hash k key) r = site ∧ h.flags.isdel site = true := by
      rw [← hsite]
      refine noted_induction (P := fun site => site = h.nBuckets ∨
        ∃ r < n, walk (2 ^ k - 1) (home hash k key) r = site ∧ h.flags.isdel site = true)
        (Or.inl rfl) ?_
      intro r hr site hsite
      split
      · rename_i hdel
        exact Or.inr ⟨r, hr, rfl, hdel⟩
      · exact hsite
    split
    · rename_i htaken
      simp only [Bool.and_eq_true, decide_eq_true_eq] at htaken
      obtain ⟨hempty, hne⟩ := htaken
      obtain ⟨r, hr, hrsite, hdel⟩ := hdeleted.resolve_left hne
      have hsitelt : site < h.nBuckets := by
        rw [← hrsite, hs.nBuckets]
        exact walk_lt (home_lt hash k key) r
      refine ⟨site, hsitelt, rfl, Or.inr ⟨by simp [Table.live, Flags.iseither, hdel],
        ⟨r, hr.trans hn.lt, hrsite, fun q hq => hused q (hq.trans hr)⟩, ?_⟩⟩
      rcases hfound with ⟨hlive, -⟩ | ⟨-, hnone⟩
      · simp [hdead i hempty] at hlive
      · exact hnone
    · refine ⟨i, hi, rfl, ?_⟩
      rcases hfound with hhere | ⟨hempty, hnone⟩
      · exact Or.inl hhere
      · exact Or.inr ⟨hdead i hempty, ⟨n, hn.lt, hwalk, hused⟩, hnone⟩

/-! ## The operations -/

/-- An insertion leaves the key with its bucket, or is refused for lack of memory. -/
theorem khPut_spec (hinv : Inv hash h) (hm : Represents h m) (hsize : h.size < 2 ^ 30) (key : K)
    (mem : Memory) :
    (∃ h' x ret, khPut hash h key mem = some (h', x, ret) ∧ ret ≠ -1 ∧ Inv hash h' ∧
      x < h'.nBuckets ∧ h'.live x ∧ h'.keys x = key ∧ (ret = 0 ↔ (m key).isSome) ∧
      Represents h' (Function.update m key (some (h'.vals x))) ∧ h'.size ≤ h.size + 1 ∧
      (h'.nBuckets = h.nBuckets ∨ h'.nBuckets ≤ max 4 (4 * h.size))) ∨
    khPut hash h key mem = some (h, h.nBuckets, -1) ∧ mem ≠ .granted := by
  unfold khPut
  rcases makeRoom_spec hinv hm hsize mem with
    ⟨h₁, k, hroomy, hs, hsize₁, hroom, hm₁, hgrown⟩ | ⟨hrefused, hmem⟩
  · refine Or.inl ?_
    obtain ⟨x, hx, hfind, hcase⟩ := findSite_spec hs key
    simp only [hroomy, hfind]
    rcases hcase with ⟨hlive, hkey⟩ | ⟨hdead, hreached, hnew⟩
    · obtain ⟨hused, hdel⟩ := live_eq_true.mp hlive
      have hval : m key = some (h₁.vals x) := (hm₁ key _).mpr ⟨x, hx, hlive, hkey, rfl⟩
      have hsame : Function.update m key (some (h₁.vals x)) = m := by
        rw [← hval, Function.update_eq_self]
      rw [hused, hdel]
      simp only [Bool.false_eq_true, if_false]
      refine ⟨h₁, x, 0, rfl, by decide, Or.inr ⟨k, hs⟩, hx, hlive, hkey, by simp [hval], ?_,
        hsize₁.le.trans (Nat.le_succ _), hgrown⟩
      rwa [hsame]
    · obtain ⟨hs', hm'⟩ := hs.insert hm₁ hx hdead hreached hnew hroom
      have hnone : m key = none := by
        cases hval : m key with
        | none => rfl
        | some val =>
          obtain ⟨j, hj, hlivej, hkeyj, -⟩ := (hm₁ key val).mp hval
          exact absurd hkeyj (hnew j hj hlivej)
      have hlive' : (h₁.insert x key).live x := by simp [live_insert]
      have hkey' : (h₁.insert x key).keys x = key := Function.update_self ..
      by_cases hempty : h₁.flags.isempty x = true
      · refine ⟨h₁.insert x key, x, 1, ?_, by decide, Or.inr ⟨k, hs'⟩, hx, hlive', hkey',
          by simp [hnone], hm', (congrArg Nat.succ hsize₁).le, hgrown⟩
        simp only [hempty, if_true, Table.insert]
      · have hdel : h₁.flags.isdel x = true := by
          simpa [Table.live, Flags.iseither, hempty] using hdead
        refine ⟨h₁.insert x key, x, 2, ?_, by decide, Or.inr ⟨k, hs'⟩, hx, hlive', hkey',
          by simp [hnone], hm', (congrArg Nat.succ hsize₁).le, hgrown⟩
        simp only [hempty, hdel, if_true, if_false, Table.insert, Bool.false_eq_true]
  · refine Or.inr ⟨?_, hmem⟩
    rw [hrefused]

theorem setValue_spec (hinv : Inv hash h) (hm : Represents h m) {x : ℕ} (hx : x < h.nBuckets)
    (hlive : h.live x) (val : V) :
    Inv hash (h.setValue x val) ∧
      Represents (h.setValue x val) (Function.update m (h.keys x) (some val)) := by
  constructor
  · rcases hinv with hblank | ⟨k, hs⟩
    · exact Or.inl ⟨hblank.nBuckets, hblank.size, hblank.nOccupied, hblank.upperBound⟩
    · exact Or.inr ⟨k, hs.nBuckets, hs.two_le, hs.le, hs.upperBound, hs.nOccupied, hs.size, hs.room,
        hs.distinct, hs.reached⟩
  · intro key val'
    by_cases hkey : key = h.keys x
    · subst hkey
      rw [Function.update_self, Option.some_inj]
      constructor
      · rintro rfl
        exact ⟨x, hx, hlive, rfl, Function.update_self ..⟩
      · rintro ⟨i, hi, hlivei, hkeyi, hvali⟩
        obtain rfl := hinv.distinct hi hx hlivei hlive hkeyi
        simpa [Table.setValue] using hvali
    · rw [Function.update_of_ne hkey, hm]
      refine exists_congr fun i => and_congr_right fun _ => and_congr_right fun _ =>
        and_congr_right fun hkeyi => ?_
      have hix : i ≠ x := by
        rintro rfl
        exact hkey hkeyi.symm
      change _ ↔ Function.update h.vals x val i = val'
      rw [Function.update_of_ne hix]

omit [DecidableEq K] in
theorem khDel_eq {x : ℕ} (hx : x < h.nBuckets) (hlive : h.live x) :
    khDel h x = { h with flags := h.flags.setIsdelTrue x, size := h.size - 1 } := by
  have hcond : (decide (x ≠ h.nBuckets) && !h.flags.iseither x) = true := by
    simpa [Table.live, hx.ne] using hlive
  rw [khDel, if_pos hcond]

omit [DecidableEq K] in
theorem live_khDel {x : ℕ} (hx : x < h.nBuckets) (hlive : h.live x) :
    (khDel h x).live = Function.update h.live x false := by
  rw [khDel_eq hx hlive]
  funext i
  by_cases hi : i = x
  · subst hi
    simp [Table.live, Flags.setIsdelTrue, Flags.iseither]
  · simp [Table.live, Flags.setIsdelTrue, Flags.iseither, hi]

omit [DecidableEq K] in
theorem live_khDel_iff {x : ℕ} (hx : x < h.nBuckets) (hlive : h.live x) (i : ℕ) :
    (khDel h x).live i = true ↔ i ≠ x ∧ h.live i = true := by
  by_cases hi : i = x
  · simp [live_khDel hx hlive, hi]
  · simp [live_khDel hx hlive, hi]

omit [DecidableEq K] in
theorem Inv.khDel (hinv : Inv hash h) {x : ℕ} (hx : x < h.nBuckets) (hlive : h.live x) :
    Inv hash (khDel h x) := by
  have hstill := live_khDel_iff hx hlive
  have hlive' := live_khDel hx hlive
  rw [khDel_eq hx hlive] at hstill hlive' ⊢
  rcases hinv with hblank | ⟨k, hs⟩
  · rw [hblank.nBuckets] at hx
    exact absurd hx (Nat.not_lt_zero x)
  · refine Or.inr ⟨k, hs.nBuckets, hs.two_le, hs.le, hs.upperBound, hs.nOccupied, ?_, hs.room, ?_, ?_⟩
    · have hdown := howMany_update_false (p := h.live) hx hlive
      rw [← hs.size] at hdown
      change h.size - 1 = howMany _ h.nBuckets
      rw [hlive']
      omega
    · intro i hi j hj hlivei hlivej heq
      exact hs.distinct i hi j hj ((hstill i).mp hlivei).2 ((hstill j).mp hlivej).2 heq
    · intro i hi hlivei
      exact hs.reached i hi ((hstill i).mp hlivei).2

theorem Represents.khDel (hinv : Inv hash h) (hm : Represents h m) {x : ℕ} (hx : x < h.nBuckets)
    (hlive : h.live x) : Represents (khDel h x) (Function.update m (h.keys x) none) := by
  have hstill := live_khDel_iff hx hlive
  rw [khDel_eq hx hlive] at hstill ⊢
  intro key val
  by_cases hkey : key = h.keys x
  · subst hkey
    rw [Function.update_self]
    refine ⟨fun hnone => absurd hnone (Option.some_ne_none _).symm, ?_⟩
    rintro ⟨i, hi, hlivei, hkeyi, -⟩
    obtain ⟨hne, hlivei⟩ := (hstill i).mp hlivei
    exact absurd (hinv.distinct hi hx hlivei hlive hkeyi) hne
  · rw [Function.update_of_ne hkey, hm]
    refine exists_congr fun i => and_congr_right fun _ => ?_
    constructor
    · rintro ⟨hlivei, hkeyi, hvali⟩
      have hne : i ≠ x := by
        rintro rfl
        exact hkey hkeyi.symm
      exact ⟨(hstill i).mpr ⟨hne, hlivei⟩, hkeyi, hvali⟩
    · rintro ⟨hlivei, hkeyi, hvali⟩
      exact ⟨((hstill i).mp hlivei).2, hkeyi, hvali⟩

omit [DecidableEq K] in
theorem khClear_spec (hinv : Inv hash h) (hm : Represents h m) :
    Inv hash (khClear h) ∧ Represents (khClear h) (fun _ => none) ∧
      (khClear h).nBuckets = h.nBuckets := by
  unfold khClear
  rcases hinv with hblank | ⟨k, hs⟩
  · rw [if_pos hblank.nBuckets]
    refine ⟨Or.inl hblank, ?_, rfl⟩
    intro key val
    rw [← represents_blank hblank hm key]
    exact hm key val
  · rw [if_neg hs.nBuckets_ne]
    have hdead : ∀ i, Table.live { h with flags := .allEmpty, size := 0, nOccupied := 0 } i = false :=
      fun _ => rfl
    refine ⟨Or.inr ⟨k, hs.nBuckets, hs.two_le, hs.le, hs.upperBound, (howMany_none _).symm,
      (howMany_none _).symm, Nat.zero_le _, ?_, ?_⟩, ?_, rfl⟩
    · intro i _ j _ hlive
      simp [hdead] at hlive
    · intro i _ hlive
      simp [hdead] at hlive
    · intro key val
      refine ⟨fun hnone => absurd hnone (Option.some_ne_none _).symm, ?_⟩
      rintro ⟨i, _, hlive, _⟩
      simp [hdead] at hlive

/-! ## Runs -/

/-- What the native code does with its tables. -/
inductive Op (K V : Type*) where
  | get (key : K)
  /-- `kh_put`, and the value if it is not refused. -/
  | put (key : K) (val : V) (mem : Memory)
  /-- `kh_get`, and `kh_del` of what it finds. -/
  | del (key : K)
  | clear

inductive Answer (V : Type*) where
  | value (val : Option V)
  /-- The key was there. -/
  | existed (there : Bool)
  | refused
  | cleared
deriving DecidableEq

def step (hash : K → ℕ) (h : Table K V) : Op K V → Option (Table K V × Answer V)
  | .get key =>
    (khGet hash h key).map fun x =>
      (h, .value (if x = h.nBuckets then none else some (h.vals x)))
  | .put key val mem =>
    (khPut hash h key mem).map fun (h, x, ret) =>
      if ret = -1 then (h, .refused) else (h.setValue x val, .existed (ret = 0))
  | .del key =>
    (khGet hash h key).map fun x => (khDel h x, .existed (x ≠ h.nBuckets))
  | .clear => some (khClear h, .cleared)

/-- What a map does. It may refuse an entry when memory is short, and is then as before. -/
inductive Allows : (K → Option V) → Op K V → Answer V → (K → Option V) → Prop
  | get (m : K → Option V) (key : K) : Allows m (.get key) (.value (m key)) m
  | put (m : K → Option V) (key : K) (val : V) (mem : Memory) :
      Allows m (.put key val mem) (.existed (m key).isSome) (Function.update m key (some val))
  | refuse (m : K → Option V) (key : K) (val : V) (mem : Memory) (h : mem ≠ .granted) :
      Allows m (.put key val mem) .refused m
  | del (m : K → Option V) (key : K) :
      Allows m (.del key) (.existed (m key).isSome) (Function.update m key none)
  | clear (m : K → Option V) : Allows m .clear .cleared fun _ => none

/-- An insertion finds less than 2^30 entries. -/
def Fits (h : Table K V) : Op K V → Prop
  | .put _ _ _ => h.size < 2 ^ 30
  | _ => True

instance (h : Table K V) (op : Op K V) : Decidable (Fits h op) :=
  match op with
  | .put _ _ _ => inferInstanceAs (Decidable (h.size < 2 ^ 30))
  | .get _ | .del _ | .clear => inferInstanceAs (Decidable True)

theorem lookup_of_khGet (hinv : Inv hash h) (hm : Represents h m) (key : K) :
    (∃ x < h.nBuckets, khGet hash h key = some x ∧ h.live x ∧ h.keys x = key ∧
      m key = some (h.vals x)) ∨
    khGet hash h key = some h.nBuckets ∧ m key = none := by
  rcases khGet_spec hinv key with ⟨x, hx, hlive, hkey, hget⟩ | ⟨hnone, hget⟩
  · exact Or.inl ⟨x, hx, hget, hlive, hkey, (hm key _).mpr ⟨x, hx, hlive, hkey, rfl⟩⟩
  · refine Or.inr ⟨hget, ?_⟩
    cases hval : m key with
    | none => rfl
    | some val =>
      obtain ⟨j, hj, hlive, hkey, -⟩ := (hm key val).mp hval
      exact absurd hkey (hnone j hj hlive)

theorem step_refines (h : Table K V) (m : K → Option V) (op : Op K V)
    (hrefines : Inv hash h ∧ Represents h m) (hfits : Fits h op) :
    ∃ h' answer m', step hash h op = some (h', answer) ∧ Allows m op answer m' ∧
      Inv hash h' ∧ Represents h' m' := by
  obtain ⟨hinv, hm⟩ := hrefines
  cases op with
  | get key =>
    rcases lookup_of_khGet hinv hm key with ⟨x, hx, hget, -, -, hval⟩ | ⟨hget, hval⟩
    · refine ⟨h, _, m, ?_, .get m key, hinv, hm⟩
      simp [step, hget, hx.ne, hval]
    · refine ⟨h, _, m, ?_, .get m key, hinv, hm⟩
      simp [step, hget, hval]
  | put key val mem =>
    rcases khPut_spec hinv hm hfits key mem with
      ⟨h', x, ret, hput, hret, hinv', hx, hlive, hkey, hthere, hm', -, -⟩ | ⟨hput, hmem⟩
    · obtain ⟨hinv'', hm''⟩ := setValue_spec hinv' hm' hx hlive val
      rw [hkey, Function.update_idem] at hm''
      refine ⟨_, _, _, ?_, .put m key val mem, hinv'', hm''⟩
      simp only [step, hput, Option.map_some, if_neg hret, decide_eq_decide.mpr hthere,
        Bool.decide_eq_true]
    · exact ⟨h, _, m, by simp [step, hput], .refuse m key val mem hmem, hinv, hm⟩
  | del key =>
    rcases lookup_of_khGet hinv hm key with ⟨x, hx, hget, hlive, hkey, hval⟩ | ⟨hget, hval⟩
    · have hm' := hm.khDel hinv hx hlive
      rw [hkey] at hm'
      refine ⟨khDel h x, _, _, ?_, .del m key, hinv.khDel hx hlive, hm'⟩
      simp [step, hget, hx.ne, hval]
    · refine ⟨h, _, _, ?_, .del m key, hinv, ?_⟩
      · simp [step, hget, hval, khDel]
      · rwa [← hval, Function.update_eq_self]
  | clear =>
    obtain ⟨hinv', hm', -⟩ := khClear_spec hinv hm
    exact ⟨khClear h, _, _, rfl, .clear m, hinv', hm'⟩

omit [DecidableEq K] in
theorem khInit_spec (hash : K → ℕ) (keys : ℕ → K) (vals : ℕ → V) :
    Inv hash (khInit keys vals) ∧ Represents (khInit keys vals) fun _ => none := by
  refine ⟨Or.inl ⟨rfl, rfl, rfl, rfl⟩, fun key val => ⟨fun hnone => absurd hnone (Option.some_ne_none _).symm, ?_⟩⟩
  rintro ⟨i, hi, -⟩
  exact absurd hi (Nat.not_lt_zero i)

/-- **Hash tables.** Whatever the hash function, the operations of a run all end, and the table
answers each one as a map does. -/
theorem khash_refines_map (hash : K → ℕ) (keys : ℕ → K) (vals : ℕ → V) (ops : List (Op K V))
    (hfits : Simulation.Meets (step hash) Fits (khInit keys vals) ops) :
    ∃ h answers m, Simulation.run (step hash) (khInit keys vals) ops = some (h, answers) ∧
      Simulation.Follows Allows (fun _ => none) ops answers m ∧ Represents h m := by
  obtain ⟨h, answers, m, hrun, hfollows, -, hm⟩ := Simulation.run_follows
    (R := fun h m => Inv hash h ∧ Represents h m) step_refines ops (khInit keys vals) _
    (khInit_spec hash keys vals) hfits
  exact ⟨h, answers, m, hrun, hfollows, hm⟩

theorem colliding_keys :
    ∃ h answers m, Simulation.run (step khIntHashFunc) (khInit (fun _ => 0) fun _ => 0)
        [.put 3 1 .granted, .put 7 2 .granted, .put 11 3 .granted, .del 7, .put 19 4 .granted,
          .get 11, .put 7 5 .granted, .get 7] = some (h, answers) ∧
      Simulation.Follows Allows (fun _ => none)
        [.put 3 1 .granted, .put 7 2 .granted, .put 11 3 .granted, .del 7, .put 19 4 .granted,
          .get 11, .put 7 5 .granted, .get 7] answers m ∧ Represents h m :=
  khash_refines_map khIntHashFunc (fun _ => (0 : ℤ)) (fun _ => (0 : ℕ)) _ (by decide)

/-! ## How large a table gets -/

/-- The run itself, without the answers. -/
def next (hash : K → ℕ) (h : Table K V) (op : Op K V) : Option (Table K V) :=
  (step hash h op).map Prod.fst

/-- An insertion finds at most `most` entries. -/
def FindsAtMost (most : ℕ) (h : Table K V) : Op K V → Prop
  | .put _ _ _ => h.size ≤ most
  | _ => True

instance (most : ℕ) (h : Table K V) (op : Op K V) : Decidable (FindsAtMost most h op) :=
  match op with
  | .put _ _ _ => inferInstanceAs (Decidable (h.size ≤ most))
  | .get _ | .del _ | .clear => inferInstanceAs (Decidable True)

omit [DecidableEq K] in
theorem khDel_nBuckets (h : Table K V) (x : ℕ) : (khDel h x).nBuckets = h.nBuckets := by
  unfold khDel
  split
  · rfl
  · rfl

theorem next_small {most : ℕ} (hmost : most < 2 ^ 30) (h : Table K V) (op : Op K V)
    (h' : Table K V)
    (hsmall : (Inv hash h ∧ ∃ m, Represents h m) ∧ h.nBuckets ≤ max 4 (4 * most))
    (hfinds : FindsAtMost most h op) (hnext : next hash h op = some h') :
    (Inv hash h' ∧ ∃ m, Represents h' m) ∧ h'.nBuckets ≤ max 4 (4 * most) := by
  obtain ⟨⟨hinv, m, hm⟩, hbuckets⟩ := hsmall
  have hfits : Fits h op := by
    cases op with
    | put => exact Nat.lt_of_le_of_lt hfinds hmost
    | get => trivial
    | del => trivial
    | clear => trivial
  obtain ⟨h₁, answer, m₁, hstep, -, hinv₁, hm₁⟩ := step_refines h m op ⟨hinv, hm⟩ hfits
  obtain rfl : h₁ = h' := by simpa [next, hstep] using hnext
  refine ⟨⟨hinv₁, m₁, hm₁⟩, ?_⟩
  cases op with
  | get key =>
    obtain ⟨x, -, heq⟩ := Option.map_eq_some_iff.mp hstep
    rw [← (Prod.mk.inj heq).1]
    exact hbuckets
  | put key val mem =>
    rcases khPut_spec hinv hm hfits key mem with
      ⟨h₂, x, ret, hput, hret, -, -, -, -, -, -, -, hgrown⟩ | ⟨hput, -⟩
    · simp only [step, hput, Option.map_some, if_neg hret, Option.some_inj, Prod.mk.injEq] at hstep
      rw [← hstep.1]
      change h₂.nBuckets ≤ _
      have hle : h.size ≤ most := hfinds
      omega
    · simp only [step, hput, Option.map_some, if_true, Option.some_inj, Prod.mk.injEq] at hstep
      rw [← hstep.1]
      exact hbuckets
  | del key =>
    obtain ⟨x, -, heq⟩ := Option.map_eq_some_iff.mp hstep
    rw [← (Prod.mk.inj heq).1, khDel_nBuckets]
    exact hbuckets
  | clear =>
    simp only [step, Option.some_inj, Prod.mk.injEq] at hstep
    rw [← hstep.1, (khClear_spec hinv hm).2.2]
    exact hbuckets

/-- **The size of a table.** However many keys come and go, and whatever memory is refused, a table
never has more than four buckets for each entry that it held at once. -/
theorem table_stays_small (hash : K → ℕ) (keys : ℕ → K) (vals : ℕ → V) (most : ℕ)
    (hmost : most < 2 ^ 30) (ops : List (Op K V))
    (hfinds : Run.Along (next hash) (FindsAtMost most) (khInit keys vals) ops) :
    Run.Always (next hash) (fun h => h.nBuckets ≤ max 4 (4 * most)) (khInit keys vals) ops := by
  obtain ⟨hinv, hm⟩ := khInit_spec hash keys vals
  exact Run.always_of_along (fun _ hsmall => hsmall.2) (next_small hmost) ops _
    ⟨⟨hinv, _, hm⟩, Nat.zero_le _⟩ hfinds

theorem keys_come_and_go :
    Run.Always (next khIntHashFunc) (fun h : Table ℤ ℕ => h.nBuckets ≤ max 4 (4 * 1))
      (khInit (fun _ => 0) fun _ => 0)
      [.put 1 1 .granted, .del 1, .put 2 2 .granted, .del 2, .put 3 3 .granted, .del 3,
        .put 4 4 .granted, .del 4] :=
  table_stays_small khIntHashFunc _ _ 1 (by decide) _ (by decide)

end SplunkOtel.Native.Khash
