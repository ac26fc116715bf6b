import SplunkOtel.Js.Text

/-!
# Environment substitution (`src/configuration/substitute.ts`)

A scanner with an index that is moved by hand. It is first brought to a function of the characters
that are left.
-/

namespace SplunkOtel.Configuration.Substitute

open Js

inductive State where
  | normal
  | dollarSign
  | substituteBegin
  | defaultValue

/-- The variables of the loop. -/
structure Scan where
  state : State := .normal
  output : String := ""
  envVarBegin : ℤ := -1
  envVarEnd : ℤ := -1
  i : ℕ := 0

section Scanner

variable (environ : String → Option String)

/-- The body of the loop, for the character at the index. -/
def step (value : String) (s : Scan) (c : Char) : Scan :=
  match s.state with
  | .normal =>
    if c = '$' then { s with state := .dollarSign } else { s with output := s.output.push c }
  | .dollarSign =>
    if c = '$' then { s with output := s.output.push '$', state := .normal }
    else if c = '{' then { s with state := .substituteBegin, envVarBegin := s.i + 1 }
    else { s with output := (s.output.push '$').push c, state := .normal }
  | .substituteBegin =>
    if c = '}' then
      let replaced := environ (substring value s.envVarBegin.toNat s.i)
      { s with output := s.output ++ replaced.getD "", state := .normal }
    else if c = ':' then
      if substring value s.envVarBegin.toNat s.i = "env" then { s with envVarBegin := s.i + 1 }
      else if value.toList[s.i + 1]? = some '-' then
        { s with envVarEnd := s.i, i := s.i + 2, state := .defaultValue }
      else s
    else s
  | .defaultValue =>
    if c = '}' then
      let replaced := environ (substring value s.envVarBegin.toNat s.envVarEnd.toNat)
      { s with
        output := s.output ++ replaced.getD (substring value (s.envVarEnd.toNat + 2) s.i)
        state := .normal }
    else s

theorem le_step (value : String) (s : Scan) (c : Char) : s.i ≤ (step environ value s c).i := by
  unfold step
  repeat' split
  all_goals simp

def loop (value : String) (s : Scan) : String :=
  if h : s.i < value.toList.length then
    let next := step environ value s value.toList[s.i]
    loop value { next with i := next.i + 1 }
  else s.output
termination_by value.toList.length - s.i
decreasing_by
  have hle := le_step environ value s value.toList[s.i]
  omega

end Scanner

def envSubstitute (value : String) (environ : String → Option String) : String :=
  loop environ value {}

/-! ## The scanner without an index -/

/-- Where the scanner is, with what it has read of a reference. -/
inductive Mode where
  | normal
  | dollarSign
  | name (read : List Char)
  /-- Before the `-` of a default. -/
  | dash (name : List Char)
  /-- Before the first character of a default. It is not looked at. -/
  | first (name : List Char)
  | default (name text : List Char)

def scan (environ : String → Option String) : Mode → List Char → List Char
  | _, [] => []
  | .normal, c :: cs => if c = '$' then scan environ .dollarSign cs else c :: scan environ .normal cs
  | .dollarSign, c :: cs =>
    if c = '$' then '$' :: scan environ .normal cs
    else if c = '{' then scan environ (.name []) cs
    else '$' :: c :: scan environ .normal cs
  | .name read, c :: cs =>
    if c = '}' then
      ((environ (String.ofList read)).getD "").toList ++ scan environ .normal cs
    else if c = ':' then
      if read = "env".toList then scan environ (.name []) cs
      else if cs.head? = some '-' then scan environ (.dash read) cs
      else scan environ (.name (read ++ [':'])) cs
    else scan environ (.name (read ++ [c])) cs
  | .dash name, _ :: cs => scan environ (.first name) cs
  | .first name, c :: cs => scan environ (.default name [c]) cs
  | .default name text, c :: cs =>
    if c = '}' then
      ((environ (String.ofList name)).getD (String.ofList text)).toList ++ scan environ .normal cs
    else scan environ (.default name (text ++ [c])) cs

/-- The variables of the loop say where the scanner is, after what it has read. -/
def At (s : Scan) (before : List Char) : Mode → Prop
  | .normal => s.state = .normal
  | .dollarSign => s.state = .dollarSign
  | .name read =>
    s.state = .substituteBegin ∧
      ∃ front, before = front ++ read ∧ s.envVarBegin = front.length
  | .default name text =>
    s.state = .defaultValue ∧
      ∃ front, before = front ++ name ++ ':' :: '-' :: text ∧ s.envVarBegin = front.length ∧
        s.envVarEnd = front.length + name.length
  | _ => False

theorem substring_between {value : String} (front middle back : List Char)
    (h : value.toList = front ++ middle ++ back) :
    substring value front.length (front.length + middle.length) = String.ofList middle := by
  unfold substring
  rw [h, ← List.length_append, List.take_left, List.drop_left]

theorem loop_of_length_le (environ : String → Option String) {value : String} {s : Scan}
    (h : value.toList.length ≤ s.i) : loop environ value s = s.output := by
  rw [loop, dif_neg (Nat.not_lt.mpr h)]

theorem loop_cons (environ : String → Option String) {value : String} {s : Scan}
    {before cs : List Char} {c : Char} (h : value.toList = before ++ c :: cs)
    (hi : s.i = before.length) :
    loop environ value s =
      loop environ value { step environ value s c with i := (step environ value s c).i + 1 } := by
  have hlt : s.i < value.toList.length := by
    rw [h, hi]
    simp
  have hc : value.toList[s.i] = c := by simp [h, hi]
  rw [loop, dif_pos hlt, hc]

theorem substring_name {value : String} {s : Scan} {before cs read : List Char} {c : Char}
    (h : value.toList = before ++ c :: cs) (hi : s.i = before.length)
    (hat : At s before (.name read)) :
    substring value s.envVarBegin.toNat s.i = String.ofList read := by
  obtain ⟨-, front, hbefore, hbegin⟩ := hat
  rw [hbegin, hi, hbefore, List.length_append, Int.toNat_natCast]
  exact substring_between front read (c :: cs) (by rw [h, hbefore])

theorem substring_default {value : String} {s : Scan} {before cs name text : List Char} {c : Char}
    (h : value.toList = before ++ c :: cs) (hi : s.i = before.length)
    (hat : At s before (.default name text)) :
    substring value s.envVarBegin.toNat s.envVarEnd.toNat = String.ofList name ∧
      substring value (s.envVarEnd.toNat + 2) s.i = String.ofList text := by
  obtain ⟨-, front, hbefore, hbegin, hend⟩ := hat
  constructor
  · rw [hbegin, hend, ← Int.natCast_add, Int.toNat_natCast, Int.toNat_natCast]
    exact substring_between front name (':' :: '-' :: text ++ c :: cs) (by simp [h, hbefore])
  · have hparts : value.toList = front ++ name ++ [':', '-'] ++ text ++ c :: cs := by
      simp [h, hbefore]
    have hbetween := substring_between _ _ _ hparts
    rw [hi, hbefore, hend, ← Int.natCast_add, Int.toNat_natCast]
    simpa [Nat.add_assoc, Nat.add_comm, Nat.add_left_comm] using hbetween

section Loop

variable (environ : String → Option String) (value : String)

/-- The scanner with an index reads `rest` as the one without, wherever it is. -/
def ScansAlike (rest : List Char) : Prop :=
  ∀ s mode before, value.toList = before ++ rest → s.i = before.length → At s before mode →
    (loop environ value s).toList = s.output.toList ++ scan environ mode rest

variable {environ value} {s : Scan} {before cs : List Char} {c : Char}

theorem ScansAlike.next (ih : ScansAlike environ value cs) (h : value.toList = before ++ c :: cs)
    (hi : s.i = before.length) {t : Scan} (mode : Mode) (ht : t.i = s.i)
    (hat : At { t with i := t.i + 1 } (before ++ [c]) mode) :
    (loop environ value { t with i := t.i + 1 }).toList =
      t.output.toList ++ scan environ mode cs :=
  ih _ mode (before ++ [c]) (by simp [h]) (by simp [ht, hi]) hat

theorem loop_name {read : List Char}
    (ih : ∀ rest, rest.length ≤ cs.length → ScansAlike environ value rest)
    (h : value.toList = before ++ c :: cs) (hi : s.i = before.length)
    (hat : At s before (.name read)) :
    (loop environ value s).toList = s.output.toList ++ scan environ (.name read) (c :: cs) := by
  have hcs := ih cs le_rfl
  have hread := substring_name h hi hat
  obtain ⟨hstate, front, hbefore, hbegin⟩ := hat
  have hkeep (d : Char) (hd : c = d) : At { s with i := s.i + 1 } (before ++ [c])
      (.name (read ++ [d])) := ⟨hstate, front, by simp [hbefore, hd], hbegin⟩
  rw [loop_cons environ h hi]
  simp only [step, hstate, hread, scan]
  split
  · simpa using hcs.next h hi (t := { s with
      output := s.output ++ (environ (String.ofList read)).getD ""
      state := .normal }) .normal rfl rfl
  · split
    · rename_i hcolon
      have henv : String.ofList read = "env" ↔ read = "env".toList := by
        rw [← String.toList_inj, String.toList_ofList]
      have hdash : value.toList[s.i + 1]? = cs.head? := by
        rw [h, hi, List.getElem?_append_right (by omega)]
        simp [List.head?_eq_getElem?]
      simp only [henv, hdash]
      split
      · refine hcs.next h hi (.name []) rfl ⟨rfl, before ++ [c], by simp, ?_⟩
        simp [hi]
      · split
        · rename_i hhead
          obtain ⟨tail, rfl⟩ := List.head?_eq_some_iff.mp hhead
          cases tail with
          | nil =>
            rw [loop_of_length_le environ (by simp [h, hi])]
            simp [scan]
          | cons d tail =>
            simp only [scan]
            refine ih tail (by simp; omega) _ _ (before ++ [c, '-', d]) (by simp [h]) (by simp [hi])
              ⟨rfl, front, ?_, hbegin, ?_⟩
            · simp [hbefore, hcolon]
            · simp [hi, hbefore]
        · simpa [hstate] using hcs.next h hi (t := s) (.name (read ++ [':'])) rfl (hkeep ':' hcolon)
    · simpa [hstate] using hcs.next h hi (t := s) (.name (read ++ [c])) rfl (hkeep c rfl)

theorem loop_default {name text : List Char} (hcs : ScansAlike environ value cs)
    (h : value.toList = before ++ c :: cs) (hi : s.i = before.length)
    (hat : At s before (.default name text)) :
    (loop environ value s).toList =
      s.output.toList ++ scan environ (.default name text) (c :: cs) := by
  obtain ⟨hname, htext⟩ := substring_default h hi hat
  obtain ⟨hstate, front, hbefore, hbegin, hend⟩ := hat
  rw [loop_cons environ h hi]
  simp only [step, hstate, hname, htext, scan]
  split
  · simpa using hcs.next h hi (t := { s with
      output := s.output ++ (environ (String.ofList name)).getD (String.ofList text)
      state := .normal }) .normal rfl rfl
  · refine hcs.next h hi (.default name (text ++ [c])) rfl ⟨hstate, front, ?_, hbegin, hend⟩
    simp [hbefore]

theorem loop_eq_scan (rest : List Char) : ScansAlike environ value rest := by
  induction hn : rest.length using Nat.strong_induction_on generalizing rest with
  | _ n ih =>
    intro s mode before h hi hat
    cases rest with
    | nil =>
      rw [loop_of_length_le environ (by simp [h, hi])]
      simp [scan]
    | cons c cs =>
      have hshorter (rest : List Char) (hrest : rest.length ≤ cs.length) :
          ScansAlike environ value rest := ih rest.length (by simp at hn; omega) rest rfl
      have hcs := hshorter cs le_rfl
      cases mode with
      | normal =>
        simp only [At] at hat
        rw [loop_cons environ h hi]
        simp only [step, hat, scan]
        split
        · exact hcs.next h hi .dollarSign rfl rfl
        · have hstep := hcs.next h hi (t := { s with output := s.output.push c }) .normal rfl hat
          simpa [hat] using hstep
      | dollarSign =>
        simp only [At] at hat
        rw [loop_cons environ h hi]
        simp only [step, hat, scan]
        split
        · simpa using hcs.next h hi
            (t := { s with output := s.output.push '$', state := .normal }) .normal rfl rfl
        · split
          · refine hcs.next h hi (.name []) rfl ⟨rfl, before ++ [c], by simp, ?_⟩
            simp [hi]
          · simpa using hcs.next h hi
              (t := { s with output := (s.output.push '$').push c, state := .normal })
              .normal rfl rfl
      | name read => exact loop_name hshorter h hi hat
      | dash name => cases hat
      | first name => cases hat
      | default name text => exact loop_default hcs h hi hat

end Loop

theorem envSubstitute_eq (value : String) (environ : String → Option String) :
    (envSubstitute value environ).toList = scan environ .normal value.toList := by
  have hat : At {} [] .normal := rfl
  have hreads : ScansAlike environ value value.toList := loop_eq_scan value.toList
  have h := hreads {} .normal [] rfl rfl hat
  simpa [envSubstitute] using h

end SplunkOtel.Configuration.Substitute
