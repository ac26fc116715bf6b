import Mathlib.Data.List.DropRight
import Mathlib.Data.List.Infix
import Mathlib.Tactic.Common

/-!
# JavaScript strings

The methods of `String.prototype` that the sources use. Indices count characters: every string that
is cut is cut at an ASCII character.
-/

namespace SplunkOtel.Js

def startsWith (s searchString : String) : Bool := searchString.toList.isPrefixOf s.toList

def endsWith (s searchString : String) : Bool := searchString.toList.isSuffixOf s.toList

def includes (s searchString : String) : Bool := searchString.toList <:+: s.toList

/-- `none` is -1. -/
def indexOf (s : String) (c : Char) (position : ℕ) : Option ℕ :=
  ((s.toList.drop position).findIdx? (· = c)).map (· + position)

def lastIndexOf (s : String) (c : Char) : Option ℕ :=
  (s.toList.reverse.findIdx? (· = c)).map (s.length - 1 - ·)

def substring (s : String) (start stop : ℕ) : String := String.ofList ((s.toList.take stop).drop start)

def substringFrom (s : String) (start : ℕ) : String := String.ofList (s.toList.drop start)

/-- There is always one part, also of the empty string. -/
def split (s : String) (separator : Char) : List String :=
  (s.toList.splitOn separator).map String.ofList

def join (parts : List String) (separator : String) : String := separator.intercalate parts

def dropFirst (pattern : List Char) : List Char → List Char
  | [] => []
  | c :: cs =>
    if pattern.isPrefixOf (c :: cs) then (c :: cs).drop pattern.length
    else c :: dropFirst pattern cs

/-- `s.replace(pattern, '')`, where the pattern is a text. -/
def removeFirst (s pattern : String) : String :=
  String.ofList (dropFirst pattern.toList s.toList)

/-- White space and line terminators of ECMAScript. -/
def isWhiteSpace (c : Char) : Bool :=
  c.toNat ∈ [0x9, 0xA, 0xB, 0xC, 0xD, 0x20, 0xA0, 0x1680, 0x2028, 0x2029, 0x202F, 0x205F, 0x3000,
    0xFEFF] ∨ 0x2000 ≤ c.toNat ∧ c.toNat ≤ 0x200A

def trimStart (s : String) : String := String.ofList (s.toList.dropWhile isWhiteSpace)

def trim (s : String) : String := String.ofList ((trimStart s).toList.rdropWhile isWhiteSpace)

theorem trim_padded {front core back : List Char} (hfront : ∀ c ∈ front, isWhiteSpace c = true)
    (hback : ∀ c ∈ back, isWhiteSpace c = true) (hne : core ≠ [])
    (hhead : isWhiteSpace (core.head hne) = false)
    (hlast : isWhiteSpace (core.getLast hne) = false) :
    trim (String.ofList (front ++ core ++ back)) = String.ofList core := by
  obtain ⟨c, cs, rfl⟩ := List.exists_cons_of_ne_nil hne
  have hstart : (front ++ (c :: cs) ++ back).dropWhile isWhiteSpace = c :: cs ++ back := by
    rw [List.append_assoc, List.dropWhile_append_of_pos hfront, List.cons_append,
      List.dropWhile_cons_of_neg (by simpa using hhead)]
  unfold trim trimStart
  rw [String.toList_ofList, String.toList_ofList, hstart, List.rdropWhile, List.reverse_append,
    List.dropWhile_append_of_pos fun c hc => hback c (List.mem_reverse.mp hc)]
  congr 1
  have hself := List.rdropWhile_eq_self_iff (p := isWhiteSpace) (l := c :: cs)
  exact hself.mpr fun _ => by simpa using hlast

theorem removeFirst_append {pattern : String} (h : pattern ≠ "") (s : String) :
    removeFirst (pattern ++ s) pattern = s := by
  obtain ⟨c, cs, hcs⟩ := List.exists_cons_of_ne_nil (mt String.toList_eq_nil_iff.mp h)
  have hbefore : pattern.toList.isPrefixOf (pattern.toList ++ s.toList) = true := by
    rw [List.isPrefixOf_iff_prefix]
    exact List.prefix_append _ _
  unfold removeFirst
  rw [String.toList_append, hcs, List.cons_append, dropFirst, ← List.cons_append, ← hcs,
    if_pos hbefore, List.drop_left, String.ofList_toList]

/-! ## Where a character is -/

theorem startsWith_append {s t u : String} (hs : s.toList = t.toList ++ u.toList) (ht : t ≠ "")
    (c : Char) : startsWith s (String.singleton c) = startsWith t (String.singleton c) := by
  unfold startsWith
  rw [hs, String.toList_singleton]
  obtain ⟨d, cs, hcs⟩ := List.exists_cons_of_ne_nil (mt String.toList_eq_nil_iff.mp ht)
  rw [hcs]
  simp [List.isPrefixOf]

theorem findIdx?_split {c : Char} {before : List Char} (h : c ∉ before) (after : List Char) :
    (before ++ c :: after).findIdx? (· = c) = some before.length := by
  have hbefore : before.findIdx? (· = c) = none := by
    rw [List.findIdx?_eq_none_iff]
    intro x hx
    simpa using ne_of_mem_of_not_mem hx h
  rw [List.findIdx?_append, hbefore]
  simp [List.findIdx?_cons]

theorem indexOf_of_not_mem {s : String} {c : Char} {position : ℕ}
    (h : c ∉ s.toList.drop position) : indexOf s c position = none := by
  unfold indexOf
  rw [Option.map_eq_none_iff, List.findIdx?_eq_none_iff]
  intro x hx
  simpa using ne_of_mem_of_not_mem hx h

theorem indexOf_split {s : String} {c : Char} {before after : List Char}
    (hs : s.toList = before ++ c :: after) (h : c ∉ before) :
    indexOf s c 0 = some before.length := by
  unfold indexOf
  rw [List.drop_zero, hs, findIdx?_split h]
  rfl

theorem lastIndexOf_of_not_mem {s : String} {c : Char} (h : c ∉ s.toList) :
    lastIndexOf s c = none := by
  unfold lastIndexOf
  rw [Option.map_eq_none_iff, List.findIdx?_eq_none_iff]
  intro x hx
  simpa using ne_of_mem_of_not_mem (List.mem_reverse.mp hx) h

theorem lastIndexOf_split {s : String} {c : Char} {before after : List Char}
    (hs : s.toList = before ++ c :: after) (h : c ∉ after) :
    lastIndexOf s c = some before.length := by
  unfold lastIndexOf
  rw [← String.length_toList, hs, List.reverse_append, List.reverse_cons, List.append_assoc,
    List.singleton_append, findIdx?_split (by simpa using h)]
  simp only [Option.map_some, List.length_append, List.length_cons, List.length_reverse]
  congr 1
  omega

theorem substring_split {s : String} {before after : List Char} (hs : s.toList = before ++ after) :
    substring s 0 before.length = String.ofList before := by
  unfold substring
  rw [hs, List.take_left, List.drop_zero]

theorem substringFrom_split {s : String} {c : Char} {before after : List Char}
    (hs : s.toList = before ++ c :: after) :
    substringFrom s (before.length + 1) = String.ofList after := by
  unfold substringFrom
  rw [hs, ← List.drop_drop, List.drop_left, List.drop_succ_cons, List.drop_zero]

/-! ## Parts -/

theorem split_ne_nil (s : String) (separator : Char) : split s separator ≠ [] := by
  unfold split
  rw [ne_eq, List.map_eq_nil_iff]
  exact List.splitOn_ne_nil _ _

theorem split_of_not_mem {s : String} {separator : Char} (h : separator ∉ s.toList) :
    split s separator = [s] := by
  unfold split
  rw [List.splitOn_eq_singleton h, List.map_singleton, String.ofList_toList]

theorem two_le_length_split {s : String} {separator : Char} (h : separator ∈ s.toList) :
    2 ≤ (split s separator).length := by
  obtain ⟨before, after, hs⟩ := List.append_of_mem h
  unfold split
  rw [List.length_map, hs, List.splitOn_append_cons_self, List.length_append]
  have hbefore := List.length_pos_iff.mpr (List.splitOn_ne_nil separator before)
  have hafter := List.length_pos_iff.mpr (List.splitOn_ne_nil separator after)
  omega

theorem join_split (s : String) (separator : Char) :
    join (split s separator) (String.singleton separator) = s := by
  unfold join split
  rw [← String.toList_inj, String.toList_intercalate, List.map_map]
  simp [Function.comp_def, List.intercalate_splitOn]

theorem split_join {parts : List String} {separator : Char} (hne : parts ≠ [])
    (h : ∀ part ∈ parts, separator ∉ part.toList) :
    split (join parts (String.singleton separator)) separator = parts := by
  unfold join split
  rw [String.toList_intercalate, String.toList_singleton, List.splitOn_intercalate]
  · simp [Function.comp_def]
  · simpa using h
  · simpa using hne

theorem split_cons {separator : Char} {before : List Char} (h : separator ∉ before)
    (after : List Char) :
    split (String.ofList (before ++ separator :: after)) separator =
      String.ofList before :: split (String.ofList after) separator := by
  unfold split
  rw [String.toList_ofList, List.splitOn_append_cons_self, List.splitOn_eq_singleton h,
    List.map_append, List.map_singleton, String.toList_ofList, List.singleton_append]

theorem split_append {s : String} {separator : Char} {before after : List Char}
    (hs : s.toList = before ++ separator :: after) (h : separator ∉ after) :
    split s separator = split (String.ofList before) separator ++ [String.ofList after] := by
  unfold split
  rw [hs, List.splitOn_append_cons_self, List.splitOn_eq_singleton h, List.map_append,
    String.toList_ofList, List.map_singleton]

theorem endsWith_append (front : List Char) (c : Char) :
    endsWith (String.ofList (front ++ [c])) (String.singleton c) = true := by
  unfold endsWith
  rw [String.toList_ofList, String.toList_singleton, List.isSuffixOf_iff_suffix]
  exact List.suffix_append front [c]

theorem getLast_split {separator c : Char} (hc : c ≠ separator) (front : List Char) :
    ∃ last, (split (String.ofList (front ++ [c])) separator).getLast? = some last ∧
      endsWith last (String.singleton c) = true := by
  by_cases h : separator ∈ front
  · obtain ⟨after, before, hfront, hafter⟩ :=
      List.eq_append_cons_of_mem (List.mem_reverse.mpr h)
    have hs : (String.ofList (front ++ [c])).toList =
        before.reverse ++ separator :: (after.reverse ++ [c]) := by
      rw [String.toList_ofList, ← List.reverse_reverse front, hfront]
      simp
    rw [split_append hs (by simp [hafter, Ne.symm hc]), List.getLast?_concat]
    exact ⟨_, rfl, endsWith_append _ _⟩
  · rw [split_of_not_mem (by simp [h, Ne.symm hc])]
    exact ⟨_, rfl, endsWith_append _ _⟩

/-! ## White space around the parts -/

theorem trim_append_left {front : List Char} (h : ∀ c ∈ front, isWhiteSpace c = true)
    (l : List Char) : trim (String.ofList (front ++ l)) = trim (String.ofList l) := by
  unfold trim trimStart
  simp only [String.toList_ofList]
  rw [List.dropWhile_append_of_pos h]

theorem trim_append_right {back : List Char} (h : ∀ c ∈ back, isWhiteSpace c = true)
    (l : List Char) : trim (String.ofList (l ++ back)) = trim (String.ofList l) := by
  have hback : back.dropWhile isWhiteSpace = [] := List.dropWhile_eq_nil_iff.mpr h
  have hreverse : ∀ c ∈ back.reverse, isWhiteSpace c = true := by simpa using h
  unfold trim trimStart
  simp only [String.toList_ofList]
  rw [List.dropWhile_append]
  split
  · rename_i hwhite
    rw [hback, List.isEmpty_iff.mp hwhite]
  · rw [List.rdropWhile, List.reverse_append, List.dropWhile_append_of_pos hreverse,
      List.rdropWhile]

theorem exists_white_trim (s : String) :
    ∃ front back, (∀ c ∈ front, isWhiteSpace c = true) ∧ (∀ c ∈ back, isWhiteSpace c = true) ∧
      s = String.ofList (front ++ ((trim s).toList ++ back)) := by
  have hback : (trim s).toList ++ (trimStart s).toList.rtakeWhile isWhiteSpace =
      (trimStart s).toList := by
    unfold trim
    rw [String.toList_ofList, List.rdropWhile, List.rtakeWhile, ← List.reverse_append,
      List.takeWhile_append_dropWhile, List.reverse_reverse]
  refine ⟨s.toList.takeWhile isWhiteSpace, (trimStart s).toList.rtakeWhile isWhiteSpace,
    fun c => List.mem_takeWhile_imp, fun c => List.mem_rtakeWhile_imp, ?_⟩
  rw [hback]
  unfold trimStart
  rw [String.toList_ofList, List.takeWhile_append_dropWhile, String.ofList_toList]

section Trimmed

variable {separator : Char} (hseparator : isWhiteSpace separator = false)
include hseparator

theorem trimmed_split_left {front : List Char} (h : ∀ c ∈ front, isWhiteSpace c = true)
    (l : List Char) :
    (split (String.ofList (front ++ l)) separator).map trim =
      (split (String.ofList l) separator).map trim := by
  have hfront : separator ∉ front := fun hmem => by simp [h _ hmem] at hseparator
  by_cases hl : separator ∈ l
  · obtain ⟨before, after, rfl, hbefore⟩ := List.eq_append_cons_of_mem hl
    rw [← List.append_assoc, split_cons (by simp [hfront, hbefore]), split_cons hbefore,
      List.map_cons, List.map_cons, trim_append_left h]
  · rw [split_of_not_mem (by simp [hfront, hl]), split_of_not_mem (by simpa using hl)]
    simp only [List.map_singleton, trim_append_left h]

theorem trimmed_split_right {back : List Char} (h : ∀ c ∈ back, isWhiteSpace c = true)
    (l : List Char) :
    (split (String.ofList (l ++ back)) separator).map trim =
      (split (String.ofList l) separator).map trim := by
  have hback : separator ∉ back := fun hmem => by simp [h _ hmem] at hseparator
  by_cases hl : separator ∈ l
  · obtain ⟨after, before, hreverse, hafter⟩ :=
      List.eq_append_cons_of_mem (List.mem_reverse.mpr hl)
    have hsplit : l = before.reverse ++ separator :: after.reverse := by
      rw [← List.reverse_reverse l, hreverse]
      simp
    have hlong : (String.ofList (l ++ back)).toList =
        before.reverse ++ separator :: (after.reverse ++ back) := by
      rw [String.toList_ofList, hsplit, List.append_assoc, List.cons_append]
    have hshort : (String.ofList l).toList = before.reverse ++ separator :: after.reverse := by
      rw [String.toList_ofList, hsplit]
    rw [split_append hlong (by simp [hafter, hback]), split_append hshort (by simp [hafter])]
    simp only [List.map_append, List.map_singleton, trim_append_right h]
  · rw [split_of_not_mem (by simp [hback, hl]), split_of_not_mem (by simpa using hl)]
    simp only [List.map_singleton, trim_append_right h]

theorem trimmed_split_trim (s : String) :
    (split (trim s) separator).map trim = (split s separator).map trim := by
  obtain ⟨front, back, hfront, hback, hs⟩ := exists_white_trim s
  conv_rhs => rw [hs]
  rw [trimmed_split_left hseparator hfront, trimmed_split_right hseparator hback,
    String.ofList_toList]

end Trimmed

end SplunkOtel.Js
