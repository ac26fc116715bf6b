import SplunkOtel.Configuration.Substitute

/-!
# The grammar of environment substitution

A text is cut into characters, escapes and references, from left to right. What the scanner gives is
compared with what they stand for.
-/

namespace SplunkOtel.Configuration.Substitute

open Js

/-! ## References -/

def nameChar (c : Char) : Bool := c.isAlphanum ∨ c = '_'

/-- What is between the braces: `NAME`, with `env:` before it or not, and a default after it or
not. -/
structure Reference where
  env : Bool
  name : List Char
  default : Option (List Char)
  name_valid : ∀ c ∈ name, nameChar c = true

namespace Reference

def defaultText (default : Option (List Char)) : List Char :=
  match default with
  | none => []
  | some text => ':' :: '-' :: text

def text (r : Reference) : List Char :=
  (if r.env then "env:".toList else []) ++ r.name ++ defaultText r.default

/-- The value of the variable, else the default. -/
def value (r : Reference) (environ : String → Option String) : List Char :=
  ((environ (String.ofList r.name)).getD (String.ofList (r.default.getD []))).toList

end Reference

def readReference (env : Bool) (body : List Char) : Option Reference :=
  let reference (default : Option (List Char)) : Reference :=
    { env, name := body.takeWhile nameChar, default, name_valid := fun _ => List.mem_takeWhile_imp }
  match body.dropWhile nameChar with
  | [] => some (reference none)
  | ':' :: '-' :: text => some (reference (some text))
  | _ => none

def parseReference (body : List Char) : Option Reference :=
  (readReference false body).or
    (match body with
      | 'e' :: 'n' :: 'v' :: ':' :: rest => readReference true rest
      | _ => none)

/-! ## Tokens -/

inductive Token where
  | char (c : Char)
  /-- `$$` -/
  | escape
  /-- A `$` at the end. -/
  | dollar
  | reference (body : List Char)
  /-- All that follows a `${` without a closing brace. -/
  | unterminated (body : List Char)
deriving DecidableEq

/-- What has been read of a token. -/
inductive Pending where
  | nothing
  | dollar
  | body (read : List Char)

def tokens : Pending → List Char → List Token
  | .nothing, [] => []
  | .nothing, c :: cs => if c = '$' then tokens .dollar cs else .char c :: tokens .nothing cs
  | .dollar, [] => [.dollar]
  | .dollar, c :: cs =>
    if c = '$' then .escape :: tokens .nothing cs
    else if c = '{' then tokens (.body []) cs
    else .char '$' :: .char c :: tokens .nothing cs
  | .body read, [] => [.unterminated read]
  | .body read, c :: cs =>
    if c = '}' then .reference read :: tokens .nothing cs else tokens (.body (read ++ [c])) cs

/-- What a token stands for. A body that is no reference stands for nothing. -/
def Token.meaning (environ : String → Option String) : Token → List Char
  | .char c => [c]
  | .escape => ['$']
  | .dollar => ['$']
  | .reference body => ((parseReference body).map (·.value environ)).getD []
  | .unterminated body => '$' :: '{' :: body

def meaning (environ : String → Option String) (cs : List Char) : List Char :=
  (tokens .nothing cs).flatMap (Token.meaning environ)

/-- A terminated reference is of one of the four forms. -/
def Token.Formed : Token → Prop
  | .reference body => ∃ r : Reference, r.text = body
  | _ => True

def WellFormed (cs : List Char) : Prop := ∀ token ∈ tokens .nothing cs, token.Formed

/-- The text is substituted in every environment. -/
def Substituted (s : String) : Prop :=
  ∀ environ, envSubstitute s environ = String.ofList (meaning environ s.toList)

/-- Neither a `$` at the end nor a reference that is not closed, that has an empty default or that
is called `env` and has a default. -/
def Kept : Token → Prop
  | .char _ => True
  | .escape => True
  | .dollar => False
  | .reference body =>
    ∀ r : Reference, r.text = body → ∀ text ∈ r.default, text ≠ [] ∧ r.name ≠ "env".toList
  | .unterminated _ => False

/-! ## The cut is faithful -/

theorem takeWhile_name (r : Reference) :
    (r.name ++ Reference.defaultText r.default).takeWhile nameChar = r.name ∧
      (r.name ++ Reference.defaultText r.default).dropWhile nameChar =
        Reference.defaultText r.default := by
  rw [List.takeWhile_append_of_pos r.name_valid, List.dropWhile_append_of_pos r.name_valid]
  cases r.default with
  | none => simp [Reference.defaultText]
  | some text =>
    have hcolon : nameChar ':' = false := by decide
    simp [Reference.defaultText, hcolon]

theorem readReference_text (r : Reference) :
    readReference r.env (r.name ++ Reference.defaultText r.default) = some r := by
  obtain ⟨htake, hdrop⟩ := takeWhile_name r
  obtain ⟨env, name, default, hvalid⟩ := r
  unfold readReference
  simp only at htake hdrop ⊢
  simp only [htake, hdrop]
  cases default with
  | none => rfl
  | some text => rfl

theorem readReference_env (r : Reference) :
    readReference false ("env:".toList ++ (r.name ++ Reference.defaultText r.default)) = none := by
  have hdrop : ("env:".toList ++ (r.name ++ Reference.defaultText r.default)).dropWhile nameChar =
      ':' :: (r.name ++ Reference.defaultText r.default) := by
    have hcolon : nameChar ':' = false := by decide
    rw [show "env:".toList = "env".toList ++ [':'] by decide, List.append_assoc,
      List.dropWhile_append_of_pos (List.all_eq_true.mp rfl)]
    simp [hcolon]
  have hdash : (r.name ++ Reference.defaultText r.default).head? ≠ some '-' := by
    cases hname : r.name with
    | nil =>
      cases r.default with
      | none => simp [Reference.defaultText]
      | some text => simp [Reference.defaultText]
    | cons c cs =>
      have hc := r.name_valid c (by simp [hname])
      rintro h
      cases h
      exact absurd hc (by decide)
  unfold readReference
  simp only [hdrop]
  split
  · contradiction
  · rename_i hcons
    rw [(List.cons.inj hcons).2] at hdash
    exact absurd rfl hdash
  · rfl

theorem parseReference_text (r : Reference) : parseReference r.text = some r := by
  have hread := readReference_text r
  unfold parseReference Reference.text
  cases henv : r.env with
  | false =>
    rw [henv] at hread
    simp [hread]
  | true =>
    rw [henv] at hread
    rw [if_pos rfl, List.append_assoc, readReference_env]
    exact hread

theorem text_injective : Function.Injective Reference.text := by
  intro r other h
  have hr := parseReference_text r
  rw [h, parseReference_text] at hr
  exact (Option.some.inj hr).symm

theorem meaning_reference (environ : String → Option String) (r : Reference) :
    (Token.reference r.text).meaning environ = r.value environ := by
  simp [Token.meaning, parseReference_text]

/-! ## Reading a text -/

/-- How a text is read: up to the next brace where there is a reference. -/
inductive Reads : List Char → Prop
  | nil : Reads []
  | char {c : Char} {cs : List Char} (hc : c ≠ '$') (rest : Reads cs) : Reads (c :: cs)
  | dollar : Reads ['$']
  | escape {cs : List Char} (rest : Reads cs) : Reads ('$' :: '$' :: cs)
  | lone {c : Char} {cs : List Char} (hc : c ≠ '$') (hbrace : c ≠ '{') (rest : Reads cs) :
      Reads ('$' :: c :: cs)
  | unterminated {cs : List Char} (h : '}' ∉ cs) : Reads ('$' :: '{' :: cs)
  | reference {body cs : List Char} (h : '}' ∉ body) (rest : ∀ after, after <:+ cs → Reads after) :
      Reads ('$' :: '{' :: (body ++ '}' :: cs))

theorem reads (cs : List Char) : Reads cs := by
  induction hn : cs.length using Nat.strong_induction_on generalizing cs with
  | _ n ih =>
    have hshorter {after : List Char} (h : after.length < cs.length) : Reads after :=
      ih after.length (hn ▸ h) after rfl
    cases cs with
    | nil => exact .nil
    | cons c cs =>
      by_cases hc : c = '$'
      · subst hc
        cases cs with
        | nil => exact .dollar
        | cons c cs =>
          by_cases hdollar : c = '$'
          · subst hdollar
            exact .escape (hshorter (by simp only [List.length_cons]; omega))
          by_cases hbrace : c = '{'
          · subst hbrace
            by_cases hclose : '}' ∈ cs
            · obtain ⟨body, after, rfl, hbody⟩ := List.eq_append_cons_of_mem hclose
              refine .reference hbody fun suffix hsuffix => hshorter ?_
              have hle := hsuffix.length_le
              simp only [List.length_cons, List.length_append]
              omega
            · exact .unterminated hclose
          · exact .lone hdollar hbrace (hshorter (by simp only [List.length_cons]; omega))
      · exact .char hc (hshorter (by simp))

theorem tokens_body (read body cs : List Char) (h : '}' ∉ body) :
    tokens (.body read) (body ++ '}' :: cs) = .reference (read ++ body) :: tokens .nothing cs := by
  induction body generalizing read with
  | nil => simp [tokens]
  | cons c body ih =>
    have hc : c ≠ '}' := fun hc => h (by simp [hc])
    rw [List.cons_append]
    simp only [tokens, if_neg hc]
    rw [ih _ (fun hmem => h (List.mem_cons_of_mem c hmem))]
    simp

theorem tokens_unterminated (read cs : List Char) (h : '}' ∉ cs) :
    tokens (.body read) cs = [.unterminated (read ++ cs)] := by
  induction cs generalizing read with
  | nil => simp [tokens]
  | cons c cs ih =>
    have hc : c ≠ '}' := fun hc => h (by simp [hc])
    simp only [tokens, if_neg hc]
    rw [ih _ (fun hmem => h (List.mem_cons_of_mem c hmem))]
    simp

theorem tokens_reference {body : List Char} (h : '}' ∉ body) (cs : List Char) :
    tokens .nothing ('$' :: '{' :: (body ++ '}' :: cs)) = .reference body :: tokens .nothing cs := by
  simp [tokens, tokens_body [] body cs h]

theorem tokens_after (pending : Pending) (before after : List Char) :
    ∃ front, front ≠ [] ∧
      tokens pending (before ++ '}' :: after) = front ++ tokens .nothing after := by
  induction before generalizing pending with
  | nil =>
    cases pending with
    | nothing => exact ⟨[.char '}'], by simp, by simp [tokens]⟩
    | dollar => exact ⟨[.char '$', .char '}'], by simp, by simp [tokens]⟩
    | body read => exact ⟨[.reference read], by simp, by simp [tokens]⟩
  | cons c before ih =>
    have hadd (ts : List Token) (pending : Pending) : ∃ front, front ≠ [] ∧
        ts ++ tokens pending (before ++ '}' :: after) = front ++ tokens .nothing after := by
      obtain ⟨front, hne, hfront⟩ := ih pending
      exact ⟨ts ++ front, by simp [hne], by rw [hfront, List.append_assoc]⟩
    rw [List.cons_append]
    cases pending with
    | nothing =>
      simp only [tokens]
      split
      · exact hadd [] _
      · exact hadd [.char c] _
    | dollar =>
      simp only [tokens]
      split
      · exact hadd [.escape] _
      · split
        · exact hadd [] _
        · exact hadd [.char '$', .char c] _
    | body read =>
      simp only [tokens]
      split
      · exact hadd [.reference read] _
      · exact hadd [] _

/-! ## What the scanner reads -/

section Scanning

variable (environ : String → Option String)

theorem scan_name (read name cs : List Char) (h : ∀ c ∈ name, c ≠ ':' ∧ c ≠ '}') :
    scan environ (.name read) (name ++ cs) = scan environ (.name (read ++ name)) cs := by
  induction name generalizing read with
  | nil => simp
  | cons c name ih =>
    obtain ⟨hcolon, hbrace⟩ := h c List.mem_cons_self
    rw [List.cons_append]
    simp only [scan, if_neg hcolon, if_neg hbrace]
    rw [ih _ (fun c hc => h c (List.mem_cons_of_mem _ hc))]
    simp

theorem scan_default (name text more cs : List Char) (h : '}' ∉ more) :
    scan environ (.default name text) (more ++ '}' :: cs) =
      ((environ (String.ofList name)).getD (String.ofList (text ++ more))).toList ++
        scan environ .normal cs := by
  induction more generalizing text with
  | nil => simp [scan]
  | cons c more ih =>
    have hc : c ≠ '}' := fun hc => h (by simp [hc])
    rw [List.cons_append]
    simp only [scan, if_neg hc]
    rw [ih _ (fun hmem => h (List.mem_cons_of_mem c hmem))]
    simp

theorem scan_unterminated {mode : Mode} (hnormal : mode ≠ .normal) (hdollar : mode ≠ .dollarSign)
    {cs : List Char} (h : '}' ∉ cs) : scan environ mode cs = [] := by
  induction cs generalizing mode with
  | nil => simp [scan]
  | cons c cs ih =>
    have hc : c ≠ '}' := fun hc => h (by simp [hc])
    have hcs : '}' ∉ cs := fun hmem => h (List.mem_cons_of_mem c hmem)
    cases mode with
    | normal => exact absurd rfl hnormal
    | dollarSign => exact absurd rfl hdollar
    | name read =>
      simp only [scan, if_neg hc]
      split
      · split
        · exact ih (by simp) (by simp) hcs
        · split
          · exact ih (by simp) (by simp) hcs
          · exact ih (by simp) (by simp) hcs
      · exact ih (by simp) (by simp) hcs
    | dash name =>
      simp only [scan]
      exact ih (by simp) (by simp) hcs
    | first name =>
      simp only [scan]
      exact ih (by simp) (by simp) hcs
    | default name text =>
      simp only [scan, if_neg hc]
      exact ih (by simp) (by simp) hcs

theorem name_plain (r : Reference) : ∀ c ∈ r.name, c ≠ ':' ∧ c ≠ '}' := by
  intro c hc
  have hvalid := r.name_valid c hc
  constructor
  · rintro rfl
    exact absurd hvalid (by decide)
  · rintro rfl
    exact absurd hvalid (by decide)

theorem scan_colon_dash {name : List Char} (h : name ≠ "env".toList) (cs : List Char) :
    scan environ (.name name) (':' :: '-' :: cs) = scan environ (.first name) cs := by
  simp only [scan, if_neg h]
  simp

theorem scan_env (cs : List Char) :
    scan environ (.name []) ("env:".toList ++ cs) = scan environ (.name []) cs := by
  simp [scan]

theorem scan_text (r : Reference) (cs : List Char) :
    scan environ (.name []) (r.text ++ cs) =
      scan environ (.name r.name) (Reference.defaultText r.default ++ cs) := by
  have hname := scan_name environ [] r.name (Reference.defaultText r.default ++ cs) (name_plain r)
  unfold Reference.text
  cases r.env with
  | false =>
    rw [if_neg (by decide), List.nil_append, List.append_assoc, hname, List.nil_append]
  | true =>
    rw [if_pos rfl, List.append_assoc, List.append_assoc, scan_env, hname, List.nil_append]

theorem scan_reference (r : Reference) (cs : List Char) (hbrace : '}' ∉ r.text)
    (hkept : ∀ text ∈ r.default, text ≠ [] ∧ r.name ≠ "env".toList) :
    scan environ (.name []) (r.text ++ '}' :: cs) =
      r.value environ ++ scan environ .normal cs := by
  rw [scan_text]
  unfold Reference.value
  cases hdefault : r.default with
  | none => simp [Reference.defaultText, scan]
  | some text =>
    obtain ⟨hne, henv⟩ := hkept text hdefault
    obtain ⟨c, more, rfl⟩ := List.exists_cons_of_ne_nil hne
    have hmore : '}' ∉ more := by
      intro hmem
      apply hbrace
      simp [Reference.text, hdefault, Reference.defaultText, hmem]
    simp only [Reference.defaultText, List.cons_append]
    rw [scan_colon_dash environ henv]
    simp only [scan]
    rw [scan_default environ _ _ _ _ hmore]
    rfl

/-- **Enough.** Where all tokens are kept, the scanner gives what they stand for. -/
theorem scan_eq_meaning {cs : List Char} (hformed : WellFormed cs)
    (hkept : ∀ token ∈ tokens .nothing cs, Kept token) :
    scan environ .normal cs = meaning environ cs := by
  unfold WellFormed at hformed
  unfold meaning
  induction reads cs with
  | nil => simp [scan, tokens]
  | @char c cs hc _ ih =>
    simp only [tokens, if_neg hc, List.forall_mem_cons] at hformed hkept
    simp only [scan, tokens, if_neg hc]
    rw [List.flatMap_cons, ih hformed.2 hkept.2]
    rfl
  | dollar => exact (hkept .dollar (by simp [tokens])).elim
  | @escape cs _ ih =>
    simp only [tokens, if_true, List.forall_mem_cons] at hformed hkept
    simp only [scan, tokens, if_true]
    rw [List.flatMap_cons, ih hformed.2 hkept.2]
    rfl
  | @lone c cs hc hbrace _ ih =>
    simp only [tokens, if_true, if_neg hc, if_neg hbrace, List.forall_mem_cons] at hformed hkept
    simp only [scan, tokens, if_true, if_neg hc, if_neg hbrace]
    rw [List.flatMap_cons, List.flatMap_cons, ih hformed.2.2 hkept.2.2]
    rfl
  | @unterminated cs h =>
    refine (hkept (.unterminated cs) ?_).elim
    simp [tokens, tokens_unterminated [] cs h]
  | @reference body cs h _ ih =>
    rw [tokens_reference h, List.forall_mem_cons] at hformed hkept
    obtain ⟨r, rfl⟩ := hformed.1
    have hscan := scan_reference environ r cs h (hkept.1 r rfl)
    have hrest := ih cs (List.suffix_refl cs) hformed.2 hkept.2
    rw [tokens_reference h, List.flatMap_cons, meaning_reference, ← hrest, ← hscan]
    simp [scan]

end Scanning

/-! ## What is lost

In an environment where all names are defined, with values longer than the text, the scanner gives
less than the tokens stand for as soon as one of them is not kept.
-/

/-- All names are defined, with values of this length. -/
def wide (n : ℕ) (name : String) : Option String :=
  if name.toList.all nameChar then some (String.ofList (List.replicate n 'x')) else none

theorem wide_of_valid (n : ℕ) {name : List Char} (h : ∀ c ∈ name, nameChar c = true) :
    wide n (String.ofList name) = some (String.ofList (List.replicate n 'x')) := by
  unfold wide
  rw [if_pos]
  simpa using h

theorem wide_of_not_valid (n : ℕ) {name : List Char} {c : Char} (hc : c ∈ name)
    (h : nameChar c = false) : wide n (String.ofList name) = none := by
  unfold wide
  rw [if_neg]
  intro hall
  have hvalid := List.all_eq_true.mp hall c (by simpa using hc)
  rw [h] at hvalid
  cases hvalid

theorem length_value (n : ℕ) (r : Reference) : (r.value (wide n)).length = n := by
  unfold Reference.value
  rw [wide_of_valid n r.name_valid]
  simp

theorem length_getD_le {n : ℕ} {text : List Char} (h : text.length ≤ n) (name : String) :
    ((wide n name).getD (String.ofList text)).toList.length ≤ n := by
  unfold wide
  split
  · simp
  · simpa using h

theorem meaning_pos {n : ℕ} (hn : 0 < n) {token : Token} (h : token.Formed) :
    0 < (token.meaning (wide n)).length := by
  cases token with
  | char c => exact Nat.zero_lt_one
  | escape => exact Nat.zero_lt_one
  | dollar => exact Nat.zero_lt_one
  | reference body =>
    obtain ⟨r, rfl⟩ := h
    rw [meaning_reference, length_value]
    exact hn
  | unterminated body => simp [Token.meaning]

theorem meaning_after_lt {n : ℕ} (hn : 0 < n) {before after : List Char}
    (h : WellFormed (before ++ '}' :: after)) :
    (meaning (wide n) after).length < (meaning (wide n) (before ++ '}' :: after)).length ∧
      WellFormed after := by
  obtain ⟨front, hne, hfront⟩ := tokens_after .nothing before after
  unfold WellFormed meaning at *
  rw [hfront, List.forall_mem_append] at h
  rw [hfront, List.flatMap_append, List.length_append]
  obtain ⟨token, front, rfl⟩ := List.exists_cons_of_ne_nil hne
  have hpos := meaning_pos hn (h.1 token List.mem_cons_self)
  rw [List.flatMap_cons, List.length_append]
  exact ⟨by omega, h.2⟩

/-- The scanner gives no more than the tokens stand for. -/
def AtMost (n : ℕ) (cs : List Char) : Prop :=
  (scan (wide n) .normal cs).length ≤ (meaning (wide n) cs).length

theorem swallowed_lt {n : ℕ} {cs : List Char} (hlength : cs.length < n) (hformed : WellFormed cs)
    (ih : ∀ after, after <:+ cs → WellFormed after → AtMost n after) (name : List Char) :
    (scan (wide n) (.default name ['}']) cs).length < n + (meaning (wide n) cs).length := by
  by_cases hbrace : '}' ∈ cs
  · obtain ⟨before, after, rfl, hbefore⟩ := List.eq_append_cons_of_mem hbrace
    obtain ⟨hlt, hafter⟩ := meaning_after_lt (n := n) (by omega) hformed
    have hrest := ih after ⟨before ++ ['}'], by simp⟩ hafter
    unfold AtMost at hrest
    have htext : (['}'] ++ before).length ≤ n := by
      simp only [List.length_append, List.length_cons, List.length_nil] at hlength ⊢
      omega
    have hvalue := length_getD_le htext (String.ofList name)
    rw [scan_default _ _ _ _ _ hbefore, List.length_append]
    omega
  · rw [scan_unterminated (wide n) (by simp) (by simp) hbrace]
    simp only [List.length_nil]
    omega

theorem dashed_lt {n : ℕ} {cs : List Char} (hlength : cs.length < n) (hformed : WellFormed cs)
    (ih : ∀ after, after <:+ cs → WellFormed after → AtMost n after) {read : List Char}
    (hread : '-' ∈ read) {more : List Char} (hmore : '}' ∉ more) (hlt : more.length < n) :
    (scan (wide n) (.name read) (more ++ '}' :: cs)).length <
      n + (meaning (wide n) cs).length := by
  have hrest := ih cs (List.suffix_refl cs) hformed
  unfold AtMost at hrest
  have hnone (read : List Char) (h : '-' ∈ read) : wide n (String.ofList read) = none :=
    wide_of_not_valid n h (by decide)
  induction more generalizing read with
  | nil =>
    simp only [List.nil_append, scan, if_true, hnone read hread]
    simp only [Option.getD_none, String.toList_empty, List.nil_append]
    omega
  | cons c more ihmore =>
    have hc : c ≠ '}' := fun hc => hmore (by simp [hc])
    have hmore' : '}' ∉ more := fun hmem => hmore (List.mem_cons_of_mem c hmem)
    simp only [List.length_cons] at hlt
    have hdash (d : Char) : '-' ∈ read ++ [d] := by simp [hread]
    have hlonger (d : Char) := ihmore (hdash d) hmore' (by omega)
    have henv : read ≠ "env".toList := by
      rintro rfl
      exact absurd hread (by decide)
    simp only [List.cons_append, scan, if_neg hc, if_neg henv]
    split
    · split
      · rename_i hhead
        cases more with
        | nil => exact absurd hhead (by simp)
        | cons d more =>
          rw [List.cons_append]
          simp only [scan]
          cases more with
          | nil => exact swallowed_lt hlength hformed ih read
          | cons e more =>
            simp only [List.length_cons] at hlt
            have he : '}' ∉ more := fun hmem => hmore' (by simp [hmem])
            rw [List.cons_append]
            simp only [scan]
            rw [scan_default _ _ _ _ _ he, hnone read hread, Option.getD_none,
              String.toList_ofList, List.length_append]
            simp only [List.length_append, List.length_cons, List.length_nil]
            omega
      · exact hlonger ':'
    · exact hlonger c

theorem scan_reference_lt {n : ℕ} {cs : List Char} (hlength : cs.length < n)
    (hformed : WellFormed cs) (ih : ∀ after, after <:+ cs → WellFormed after → AtMost n after)
    (r : Reference) (hbrace : '}' ∉ r.text) (hr : r.text.length < n) {text : List Char}
    (htext : r.default = some text) (hlost : text = [] ∨ r.name = "env".toList) :
    (scan (wide n) (.name []) (r.text ++ '}' :: cs)).length <
      n + (meaning (wide n) cs).length := by
  have hdefault : Reference.defaultText r.default = ':' :: '-' :: text := by
    rw [htext]
    rfl
  rw [scan_text, hdefault]
  by_cases henv : r.name = "env".toList
  · have hmore : '}' ∉ text := by
      intro hmem
      apply hbrace
      simp [Reference.text, hdefault, hmem]
    have hshort : text.length < n := by
      simp only [Reference.text, hdefault, List.length_append, List.length_cons] at hr
      omega
    have hdash : '-' ∈ ['-'] := List.mem_cons_self
    have hdashed := dashed_lt hlength hformed ih hdash hmore hshort
    rw [henv]
    simpa [scan] using hdashed
  · rw [hlost.resolve_right henv, List.cons_append, List.cons_append, scan_colon_dash _ henv]
    exact swallowed_lt hlength hformed ih r.name

theorem scan_length {n : ℕ} {cs : List Char} (hlength : cs.length < n) (hformed : WellFormed cs) :
    AtMost n cs ∧
      ((scan (wide n) .normal cs).length = (meaning (wide n) cs).length →
        ∀ token ∈ tokens .nothing cs, Kept token) := by
  unfold WellFormed at hformed
  unfold AtMost meaning
  induction reads cs with
  | nil => simp [scan, tokens]
  | @char c cs hc _ ih =>
    simp only [tokens, if_neg hc, List.forall_mem_cons] at hformed
    simp only [List.length_cons] at hlength
    obtain ⟨hle, heq⟩ := ih (by omega) hformed.2
    simp only [scan, tokens, if_neg hc, List.forall_mem_cons, List.flatMap_cons,
      List.length_append, List.length_cons, Token.meaning, List.length_nil]
    exact ⟨by omega, fun h => ⟨trivial, heq (by omega)⟩⟩
  | dollar => simp [scan, tokens, Token.meaning]
  | @escape cs _ ih =>
    simp only [tokens, if_true, List.forall_mem_cons] at hformed
    simp only [List.length_cons] at hlength
    obtain ⟨hle, heq⟩ := ih (by omega) hformed.2
    simp only [scan, tokens, if_true, List.forall_mem_cons, List.flatMap_cons,
      List.length_append, List.length_cons, Token.meaning, List.length_nil]
    exact ⟨by omega, fun h => ⟨trivial, heq (by omega)⟩⟩
  | @lone c cs hc hbrace _ ih =>
    simp only [tokens, if_true, if_neg hc, if_neg hbrace, List.forall_mem_cons] at hformed
    simp only [List.length_cons] at hlength
    obtain ⟨hle, heq⟩ := ih (by omega) hformed.2.2
    simp only [scan, tokens, if_true, if_neg hc, if_neg hbrace, List.forall_mem_cons,
      List.flatMap_cons, List.length_append, List.length_cons, Token.meaning, List.length_nil]
    exact ⟨by omega, fun h => ⟨trivial, trivial, heq (by omega)⟩⟩
  | @unterminated cs h =>
    have hlost : scan (wide n) (.name []) cs = [] :=
      scan_unterminated (wide n) (by simp) (by simp) h
    simp [scan, hlost, tokens, tokens_unterminated [] cs h, Token.meaning]
  | @reference body cs h _ ih =>
    rw [tokens_reference h, List.forall_mem_cons] at hformed
    obtain ⟨r, rfl⟩ := hformed.1
    simp only [List.length_cons, List.length_append] at hlength
    have hafter (after : List Char) (hsuffix : after <:+ cs) (hformed : WellFormed after) :
        AtMost n after := by
      have hle := hsuffix.length_le
      exact (ih after hsuffix (by omega) hformed).1
    have hscan : scan (wide n) .normal ('$' :: '{' :: (r.text ++ '}' :: cs)) =
        scan (wide n) (.name []) (r.text ++ '}' :: cs) := by simp [scan]
    rw [hscan, tokens_reference h, List.flatMap_cons, List.length_append, meaning_reference,
      length_value]
    by_cases hkept : ∀ text ∈ r.default, text ≠ [] ∧ r.name ≠ "env".toList
    · obtain ⟨hle, heq⟩ := ih cs (List.suffix_refl cs) (by omega) hformed.2
      rw [scan_reference (wide n) r cs h hkept, List.length_append, length_value]
      refine ⟨by omega, fun h => List.forall_mem_cons.mpr ⟨fun other hother => ?_, heq (by omega)⟩⟩
      rw [text_injective hother]
      exact hkept
    · obtain ⟨text, htext, hlost⟩ : ∃ text, r.default = some text ∧
          (text = [] ∨ r.name = "env".toList) := by
        by_contra hnone
        apply hkept
        intro text htext
        by_contra hboth
        exact hnone ⟨text, htext, by tauto⟩
      have hlt := scan_reference_lt (by omega) hformed.2 hafter r h (by omega) htext hlost
      unfold meaning at hlt
      exact ⟨by omega, fun h => absurd h (by omega)⟩

/-- **Environment substitution.** A text whose references are of the four forms is substituted in
every environment exactly when its tokens are kept. -/
theorem env_substitute_iff (s : String) (h : WellFormed s.toList) :
    Substituted s ↔ ∀ token ∈ tokens .nothing s.toList, Kept token := by
  unfold Substituted
  constructor
  · intro hall
    have heq := congrArg String.toList (hall (wide (s.toList.length + 1)))
    rw [envSubstitute_eq, String.toList_ofList] at heq
    exact (scan_length (by omega) h).2 (congrArg List.length heq)
  · intro hkept environ
    rw [← String.toList_inj, envSubstitute_eq, String.toList_ofList]
    exact scan_eq_meaning environ h hkept

/-- `HOST:-local` -/
def hostReference : Reference where
  env := false
  name := "HOST".toList
  default := some "local".toList
  name_valid := List.all_eq_true.mp rfl

theorem default_substituted : Substituted "${HOST:-local}$$" := by
  have htokens : tokens .nothing "${HOST:-local}$$".toList =
      [.reference hostReference.text, .escape] := by decide
  have hformed : WellFormed "${HOST:-local}$$".toList := by
    unfold WellFormed
    rw [htokens]
    intro token htoken
    rcases List.mem_pair.mp htoken with rfl | rfl
    · exact ⟨hostReference, rfl⟩
    · trivial
  rw [env_substitute_iff _ hformed, htokens]
  intro token htoken
  rcases List.mem_pair.mp htoken with rfl | rfl
  · intro r hr
    rw [text_injective hr]
    decide
  · trivial

/-- The default is empty, and the text up to the next brace is taken for it. -/
theorem empty_default_swallows : ¬ Substituted "${HOST:-}/${PATH}" := by
  intro h
  have hnone := congrArg String.toList (h fun _ => none)
  rw [envSubstitute_eq, String.toList_ofList] at hnone
  revert hnone
  decide

end SplunkOtel.Configuration.Substitute
