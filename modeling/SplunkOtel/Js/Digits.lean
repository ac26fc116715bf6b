import SplunkOtel.Js.Number

/-!
# Which texts are numbers

A text of digits is the number that they write, and a text with a closing bracket is none.
-/

namespace SplunkOtel.Js

/-! ## Trimming -/

theorem mem_dropWhile {α : Type} {p : α → Bool} {a : α} {l : List α} (h : a ∈ l)
    (ha : p a = false) : a ∈ l.dropWhile p := by
  rw [← List.takeWhile_append_dropWhile (p := p) (l := l), List.mem_append] at h
  rcases h with h | h
  · exact absurd (List.mem_takeWhile_imp h) (by simp [ha])
  · exact h

theorem mem_trim {s : String} {c : Char} (h : c ∈ s.toList) (hc : isWhiteSpace c = false) :
    c ∈ (trim s).toList := by
  unfold trim trimStart
  rw [String.toList_ofList, String.toList_ofList, List.rdropWhile, List.mem_reverse]
  exact mem_dropWhile (List.mem_reverse.mpr (mem_dropWhile h hc)) hc

theorem trim_eq_self {s : String} (h : ∀ c ∈ s.toList, isWhiteSpace c = false) : trim s = s := by
  have hstart : s.toList.dropWhile isWhiteSpace = s.toList := by
    rw [List.dropWhile_eq_self_iff]
    intro hl
    simpa using h _ (List.getElem_mem hl)
  unfold trim trimStart
  rw [hstart, String.ofList_toList, List.rdropWhile_eq_self_iff.mpr, String.ofList_toList]
  intro hl
  simpa using h _ (List.getLast_mem hl)

theorem isWhiteSpace_of_isDigit {c : Char} (h : c.isDigit = true) : isWhiteSpace c = false := by
  have hrange : 48 ≤ c.toNat ∧ c.toNat ≤ 57 := by
    simpa [Char.isDigit, UInt32.le_iff_toNat_le] using h
  unfold isWhiteSpace
  simp only [List.mem_cons, List.not_mem_nil, or_false, decide_eq_false_iff_not]
  omega

/-! ## Digits -/

theorem unsignedNumber_digits {cs : List Char} (hne : cs ≠ []) (h : ∀ c ∈ cs, c.isDigit = true) :
    unsignedNumber cs = .finite (Nat.ofDigitChars 10 cs 0) := by
  have hinfinity : cs ≠ "Infinity".toList := by
    rintro rfl
    exact absurd (h 'I' (by decide)) (by decide)
  have hspan : cs.span Char.isDigit = (cs, []) := by
    rw [List.span_eq_takeWhile_dropWhile, List.takeWhile_eq_self_iff.mpr h,
      List.dropWhile_eq_nil_iff.mpr h]
  unfold unsignedNumber unsignedDecimal
  rw [if_neg hinfinity, hspan]
  simp [hne, exponent]

theorem stringToNumber_digits {s : String} (hne : s ≠ "") (h : ∀ c ∈ s.toList, c.isDigit = true) :
    stringToNumber s = .finite (Nat.ofDigitChars 10 s.toList 0) := by
  have hcs : s.toList ≠ [] := mt String.toList_eq_nil_iff.mp hne
  have hnumber := unsignedNumber_digits hcs h
  unfold stringToNumber
  rw [trim_eq_self fun c hc => isWhiteSpace_of_isDigit (h c hc)]
  generalize s.toList = cs at hcs h hnumber ⊢
  simp only
  split
  · exact absurd rfl hcs
  · exact absurd (h 'x' (by simp)) (by decide)
  · exact absurd (h 'X' (by simp)) (by decide)
  · exact absurd (h 'o' (by simp)) (by decide)
  · exact absurd (h 'O' (by simp)) (by decide)
  · exact absurd (h 'b' (by simp)) (by decide)
  · exact absurd (h 'B' (by simp)) (by decide)
  · exact absurd (h '-' (by simp)) (by decide)
  · exact absurd (h '+' (by simp)) (by decide)
  · exact hnumber

/-! ## Literals from the start of a text -/

theorem trimStart_digit {s : String} {c : Char} {cs : List Char} (hs : s.toList = c :: cs)
    (hc : c.isDigit = true) : trimStart s = s := by
  unfold trimStart
  rw [hs, List.dropWhile_cons_of_neg (by simp [isWhiteSpace_of_isDigit hc]), ← hs,
    String.ofList_toList]

theorem digits_of_foldlM {base : ℕ} {cs : List Char} {start n : ℕ}
    (h : cs.foldlM (fun n c => do
      let d ← digitValue c
      if d < base then some (n * base + d) else none) start = some n) :
    ∀ c ∈ cs, ∃ d, digitValue c = some d ∧ d < base := by
  induction cs generalizing start with
  | nil => simp
  | cons c cs ih =>
    rw [List.foldlM_cons] at h
    cases hd : digitValue c with
    | none => simp [hd] at h
    | some d =>
      by_cases hlt : d < base
      · simp only [hd, Option.bind_eq_bind, Option.bind_some, if_pos hlt] at h
        intro c' hc'
        rcases List.mem_cons.mp hc' with rfl | hc'
        · exact ⟨d, hd, hlt⟩
        · exact ih h c' hc'
      · simp [hd, hlt] at h

theorem digits_of_radixLiteral {base n : ℕ} {cs : List Char} (h : radixLiteral base cs = some n) :
    ∀ c ∈ cs, ∃ d, digitValue c = some d ∧ d < base := by
  unfold radixLiteral at h
  split at h
  · cases h
  · exact digits_of_foldlM h

theorem isDigit_of_digitValue {c : Char} {d : ℕ} (h : digitValue c = some d) (hd : d < 10) :
    c.isDigit = true ∧ d = c.toNat - '0'.toNat := by
  unfold digitValue at h
  split at h
  · rename_i hrange
    refine ⟨?_, (Option.some.inj h).symm⟩
    simp only [Char.le_def] at hrange
    simpa [Char.isDigit] using hrange
  · split at h
    · have hvalue := Option.some.inj h
      omega
    · split at h
      · have hvalue := Option.some.inj h
        omega
      · cases h

theorem ofDigitChars_of_foldlM {cs : List Char} {start n : ℕ}
    (h : cs.foldlM (fun n c => do
      let d ← digitValue c
      if d < 10 then some (n * 10 + d) else none) start = some n) :
    Nat.ofDigitChars 10 cs start = n := by
  induction cs generalizing start with
  | nil => simpa using h
  | cons c cs ih =>
    rw [List.foldlM_cons] at h
    cases hd : digitValue c with
    | none => simp [hd] at h
    | some d =>
      by_cases hlt : d < 10
      · simp only [hd, Option.bind_eq_bind, Option.bind_some, if_pos hlt] at h
        rw [Nat.ofDigitChars_cons, ← (isDigit_of_digitValue hd hlt).2, Nat.mul_comm]
        exact ih h
      · simp [hd, hlt] at h

theorem radixLiteral_ten {cs : List Char} {n : ℕ} (h : radixLiteral 10 cs = some n) :
    Nat.ofDigitChars 10 (cs.takeWhile Char.isDigit) 0 = n := by
  have hdigits : cs.takeWhile Char.isDigit = cs := by
    rw [List.takeWhile_eq_self_iff]
    intro c hc
    obtain ⟨d, hd, hlt⟩ := digits_of_radixLiteral h c hc
    exact (isDigit_of_digitValue hd hlt).1
  rw [hdigits]
  unfold radixLiteral at h
  split at h
  · cases h
  · exact ofDigitChars_of_foldlM h

theorem exponentPrefix_eq {cs : List Char} {e : ℤ} (h : exponent cs = some e) :
    exponentPrefix cs = e := by
  cases cs with
  | nil => simpa [exponent, exponentPrefix] using h
  | cons c cs =>
    simp only [exponent, exponentPrefix] at h ⊢
    by_cases hc : c = 'e' ∨ c = 'E'
    · rw [if_pos hc] at h ⊢
      split at h
      · obtain ⟨m, hm, rfl⟩ := Option.map_eq_some_iff.mp h
        obtain ⟨n, hn, hcast⟩ := Option.bind_eq_some_iff.mp hm
        cases hcast
        simp [radixLiteral_ten hn]
      · obtain ⟨n, hn, rfl⟩ := Option.map_eq_some_iff.mp h
        simp [radixLiteral_ten hn]
      · obtain ⟨n, hn, rfl⟩ := Option.map_eq_some_iff.mp h
        simp [radixLiteral_ten hn]
    · rw [if_neg hc] at h
      cases h

theorem parseFloat_digit {s : String} {c : Char} {cs : List Char} (hs : s.toList = c :: cs)
    (hc : c.isDigit = true) :
    ∃ value, parseFloat s = .ofExact value ∧ ∀ v, unsignedDecimal s.toList = some v → v = value := by
  have hne (d : Char) (hd : d.isDigit = false) : c ≠ d := by
    rintro rfl
    rw [hc] at hd
    cases hd
  have hinfinity : "Infinity".toList.isPrefixOf (c :: cs) = false := by
    have hI := hne 'I' (by decide)
    simp [List.isPrefixOf, Ne.symm hI]
  have hwhole : ((c :: cs).span Char.isDigit).1 ≠ [] := by
    simp [List.span_eq_takeWhile_dropWhile, hc]
  unfold parseFloat unsignedDecimal
  rw [trimStart_digit hs hc, hs]
  split
  · rename_i hcons
    exact absurd (List.cons.inj hcons).1 (hne '-' (by decide))
  · rename_i hcons
    exact absurd (List.cons.inj hcons).1 (hne '+' (by decide))
  · simp only [hinfinity, Bool.false_eq_true, if_false]
    generalize (c :: cs).span Char.isDigit = parts at hwhole
    simp only [hwhole, false_and, if_false]
    refine ⟨_, rfl, fun v hv => ?_⟩
    obtain ⟨e, he, rfl⟩ := Option.map_eq_some_iff.mp hv
    rw [exponentPrefix_eq he]

/-! ## A closing bracket -/

theorem radixLiteral_bracket (base : ℕ) {cs : List Char} (h : ']' ∈ cs) :
    radixLiteral base cs = none := by
  have hfold (n : ℕ) : cs.foldlM (fun n c => do
      let d ← digitValue c
      if d < base then some (n * base + d) else none) n = none := by
    induction cs generalizing n with
    | nil => cases h
    | cons c cs ih =>
      rw [List.foldlM_cons]
      rcases List.mem_cons.mp h with rfl | h
      · rfl
      · cases hd : digitValue c with
        | none => rfl
        | some d =>
          by_cases hlt : d < base
          · simpa [hlt] using ih h (n * base + d)
          · simp [hlt]
  unfold radixLiteral
  rw [hfold]
  split
  · rfl
  · rfl

theorem exponent_bracket {cs : List Char} (h : ']' ∈ cs) : exponent cs = none := by
  cases cs with
  | nil => cases h
  | cons c cs =>
    simp only [exponent]
    split
    · rename_i hc
      have hcs : ']' ∈ cs := by
        refine (List.mem_cons.mp h).resolve_left ?_
        rintro rfl
        revert hc
        decide
      split
      · rw [radixLiteral_bracket 10 (by simpa using hcs)]
        rfl
      · rw [radixLiteral_bracket 10 (by simpa using hcs)]
        rfl
      · rw [radixLiteral_bracket 10 hcs]
        rfl
    · rfl

theorem unsignedDecimal_bracket {cs : List Char} (h : ']' ∈ cs) : unsignedDecimal cs = none := by
  have hrest {l : List Char} (hl : ']' ∈ l) : ']' ∈ (l.span Char.isDigit).2 := by
    rw [List.span_eq_takeWhile_dropWhile]
    exact mem_dropWhile hl (by decide)
  unfold unsignedDecimal
  have hafter := hrest h
  generalize cs.span Char.isDigit = parts at hafter
  obtain ⟨whole, rest⟩ := parts
  simp only at hafter ⊢
  split
  · rw [exponent_bracket (hrest (by simpa using hafter)), Option.map_none, ite_self]
  · rw [exponent_bracket hafter, Option.map_none, ite_self]

theorem unsignedNumber_bracket {cs : List Char} (h : ']' ∈ cs) : unsignedNumber cs = .nan := by
  have hinfinity : cs ≠ "Infinity".toList := by
    rintro rfl
    exact absurd h (by decide)
  unfold unsignedNumber
  rw [if_neg hinfinity, unsignedDecimal_bracket h]

theorem stringToNumber_bracket {s : String} (h : ']' ∈ s.toList) : stringToNumber s = .nan := by
  have hcs := mem_trim h (by decide)
  unfold stringToNumber
  generalize (trim s).toList = cs at hcs ⊢
  simp only
  split
  · cases hcs
  · rw [radixLiteral_bracket 16 (by simpa using hcs)]
  · rw [radixLiteral_bracket 16 (by simpa using hcs)]
  · rw [radixLiteral_bracket 8 (by simpa using hcs)]
  · rw [radixLiteral_bracket 8 (by simpa using hcs)]
  · rw [radixLiteral_bracket 2 (by simpa using hcs)]
  · rw [radixLiteral_bracket 2 (by simpa using hcs)]
  · rw [unsignedNumber_bracket (by simpa using hcs)]
    rfl
  · exact unsignedNumber_bracket (by simpa using hcs)
  · exact unsignedNumber_bracket hcs

end SplunkOtel.Js
