import SplunkOtel.Http.IncomingAttributes
import SplunkOtel.Lib.Except

/-!
# Which requests make the attribute extraction throw

The one place that can throw is the splitter of authorities, on an opening bracket.
-/

open Lib SplunkOtel.Js

namespace SplunkOtel.Http

/-- An opening bracket, with no colon after it and no closing bracket at the end. -/
def BracketLeftOpen (authority : String) : Prop :=
  startsWith authority "[" ∧ ':' ∉ authority.toList ∧ ¬ endsWith authority "]"

instance : DecidablePred BracketLeftOpen := fun _ => inferInstanceAs (Decidable (_ ∧ _ ∧ _))

/-- The authority that a request names for the server: the host of the first forwarded entry that
has one, else `x-forwarded-host`, else `host`. -/
def authority (env : Platform) (request : IncomingMessage) : Option String :=
  match (forwardedEntries env request).findSome? fun entry => nonEmpty entry.host with
  | some host => some host
  | none =>
    match request.headers.xForwardedHost with
    | .single host => some host
    | .many hosts => (nonEmpty hosts.head?).or (nonEmpty request.headers.host)
    | .absent => nonEmpty request.headers.host

/-! ## The splitter -/

theorem deref_some {α : Type} {value : Option α} {a : α} (h : value = some a) (property : String) :
    deref value property = .ok a := by
  rw [h]
  rfl

theorem arrayAt_last {α : Type} {array : List α} (h : array ≠ []) :
    arrayAt array (array.length - 1) = array.getLast? := by
  have hlen := List.length_pos_iff.mpr h
  unfold arrayAt
  rw [if_pos (by omega), List.getLast?_eq_getElem?]
  congr 1
  omega

theorem arrayAt_previous {α : Type} {array : List α} (h : 2 ≤ array.length) :
    ∃ a, arrayAt array (array.length - 2) = some a := by
  unfold arrayAt
  rw [if_pos (by omega), List.getElem?_eq_getElem (by omega)]
  exact ⟨_, rfl⟩

theorem parseHostHeader_plain (hostHeader : String) (proto : Option String)
    (h : startsWith hostHeader "[" = false) :
    ∃ address, parseHostHeader hostHeader proto = .ok address := by
  unfold parseHostHeader
  simp only [h, Bool.not_false, if_true]
  split
  · exact ⟨_, rfl⟩
  · split
    · exact ⟨_, rfl⟩
    · exact ⟨_, rfl⟩

theorem parseHostHeader_colon (hostHeader : String) (proto : Option String)
    (h : startsWith hostHeader "[" = true) (hcolon : ':' ∈ hostHeader.toList) :
    ∃ address, parseHostHeader hostHeader proto = .ok address := by
  have hlen := two_le_length_split hcolon
  obtain ⟨last, hlast⟩ := Option.ne_none_iff_exists'.mp
    (fun hnone => split_ne_nil hostHeader ':' (List.getLast?_eq_none_iff.mp hnone))
  obtain ⟨previous, hprevious⟩ := arrayAt_previous hlen
  rw [← arrayAt_last (split_ne_nil hostHeader ':')] at hlast
  unfold parseHostHeader
  simp only [h, Bool.not_true, Bool.false_eq_true, if_false, deref_some hlast, deref_some hprevious,
    ok_bind]
  split
  · exact ⟨_, rfl⟩
  · split
    · exact ⟨_, rfl⟩
    · exact ⟨_, rfl⟩

theorem parseHostHeader_bracket (hostHeader : String) (proto : Option String)
    (h : startsWith hostHeader "[" = true) (hcolon : ':' ∉ hostHeader.toList) :
    (∃ address, parseHostHeader hostHeader proto = .ok address) ↔ endsWith hostHeader "]" := by
  unfold parseHostHeader
  simp only [h, Bool.not_true, Bool.false_eq_true, if_false, split_of_not_mem hcolon]
  have hlast : arrayAt [hostHeader] (([hostHeader].length : ℤ) - 1) = some hostHeader := rfl
  have hprevious : arrayAt [hostHeader] (([hostHeader].length : ℤ) - 2) = none := rfl
  rw [deref_some hlast, ok_bind, hprevious]
  split
  · rename_i hend
    exact iff_of_true ⟨_, rfl⟩ hend
  · rename_i hend
    refine iff_of_false ?_ hend
    rintro ⟨address, h⟩
    cases h

theorem parseHostHeader_ok_iff (hostHeader : String) (proto : Option String) :
    (∃ address, parseHostHeader hostHeader proto = .ok address) ↔ ¬ BracketLeftOpen hostHeader := by
  unfold BracketLeftOpen
  rcases hstart : startsWith hostHeader "[" with _ | _
  · exact iff_of_true (parseHostHeader_plain hostHeader proto hstart) (by simp)
  · by_cases hcolon : ':' ∈ hostHeader.toList
    · exact iff_of_true (parseHostHeader_colon hostHeader proto hstart hcolon) (by simp [hcolon])
    · rw [parseHostHeader_bracket hostHeader proto hstart hcolon]
      simp [hcolon]

/-! ## Requests -/

/-- The request names no authority with a bracket that is left open. -/
def AuthorityClosed (env : Platform) (request : IncomingMessage) : Prop :=
  ∀ host ∈ authority env request, ¬ BracketLeftOpen host

theorem findSome_host (entries : List ForwardedEntry) :
    ((entries.find? fun entry => (nonEmpty entry.host).isSome) = none ∧
      (entries.findSome? fun entry => nonEmpty entry.host) = none ∧
      (entries.findSome? fun entry =>
        (nonEmpty entry.host).map fun host => parseHostHeader host entry.proto) = none) ∨
    ∃ host entry, (entries.find? fun entry => (nonEmpty entry.host).isSome) = some entry ∧
      (entries.findSome? fun entry => nonEmpty entry.host) = some host ∧
      (entries.findSome? fun entry =>
        (nonEmpty entry.host).map fun host => parseHostHeader host entry.proto) =
          some (parseHostHeader host entry.proto) := by
  induction entries with
  | nil => exact Or.inl ⟨rfl, rfl, rfl⟩
  | cons entry entries ih =>
    rcases h : nonEmpty entry.host with _ | host
    · simpa only [List.find?_cons, List.findSome?_cons, h, Option.map_none, Option.isSome_none]
        using ih
    · right
      refine ⟨host, entry, ?_, ?_, ?_⟩
      · simp only [List.find?_cons, h, Option.isSome_some]
      · simp only [List.findSome?_cons, h]
      · simp only [List.findSome?_cons, h, Option.map_some]

theorem split_ok_iff (host : String) (proto : Option String) :
    (∃ address, some <$> parseHostHeader host proto = .ok address) ↔
      ∀ h ∈ some host, ¬ BracketLeftOpen h := by
  rw [ok_map_iff, parseHostHeader_ok_iff]
  simp

theorem getServerAddress_ok_iff (env : Platform) (request : IncomingMessage) (component : String) :
    (∃ address, getServerAddress env request component = .ok address) ↔
      AuthorityClosed env request := by
  have hdefault : (∃ address, (match nonEmpty request.headers.host with
      | some host => some <$> parseHostHeader host (some component)
      | none => .ok none) = .ok address) ↔
      ∀ h ∈ nonEmpty request.headers.host, ¬ BracketLeftOpen h := by
    rcases nonEmpty request.headers.host with _ | host
    · exact iff_of_true ⟨none, rfl⟩ (by simp)
    · exact split_ok_iff host _
  unfold AuthorityClosed authority getServerAddress
  rcases findSome_host (forwardedEntries env request) with
    ⟨-, hnone, hparsed⟩ | ⟨host, entry, -, hsome, hparsed⟩
  · rw [hnone, hparsed]
    simp only
    rcases request.headers.xForwardedHost with _ | host | _ | ⟨host, hosts⟩
    · exact hdefault
    · exact split_ok_iff host _
    · exact hdefault
    · by_cases hempty : host = ""
      · subst hempty
        exact hdefault
      · have hlen : host.length > 0 :=
          Nat.pos_of_ne_zero (mt String.length_eq_zero_iff.mp hempty)
        have hhead : nonEmpty (host :: hosts).head? = some host := by simp [nonEmpty, hempty]
        simp only [if_pos hlen, hhead, Option.some_or]
        exact split_ok_iff host _
  · rw [hsome, hparsed]
    exact split_ok_iff host entry.proto

theorem getIncomingRequestAttributes_ok_iff (env : Platform) (request : IncomingMessage)
    (options : AttributeOptions) :
    (∃ attributes, getIncomingRequestAttributes env request options = .ok attributes) ↔
      AuthorityClosed env request := by
  rw [← getServerAddress_ok_iff env request (scheme request)]
  unfold getIncomingRequestAttributes
  rcases getServerAddress env request (scheme request) with e | address
  · constructor
    · rintro ⟨attributes, h⟩
      cases h
    · rintro ⟨address, h⟩
      cases h
  · refine iff_of_true ?_ ⟨address, rfl⟩
    rw [ok_bind]
    simp only
    split
    · exact ⟨_, rfl⟩
    · exact ⟨_, rfl⟩
    · exact ⟨_, rfl⟩

theorem httpServerRequestStart_ok (env : Platform) (config : InstrumentationConfig)
    (request : IncomingMessage) (h : AuthorityClosed env request) :
    ∃ span, httpServerRequestStart env config request = .ok span := by
  unfold httpServerRequestStart
  simp only
  split
  · exact ⟨_, rfl⟩
  · obtain ⟨attributes, hok⟩ := (getIncomingRequestAttributes_ok_iff env request _).mpr h
    rw [hok]
    exact ⟨_, rfl⟩

/-- **Requests that throw.** The attributes of a request are extracted, and the handler returns,
exactly when the authority that the request names has no bracket that is left open. -/
theorem incoming_returns_iff (env : Platform) (request : IncomingMessage)
    (options : AttributeOptions) (config : InstrumentationConfig) :
    ((∃ attributes, getIncomingRequestAttributes env request options = .ok attributes) ∧
        ∃ span, httpServerRequestStart env config request = .ok span) ↔
      AuthorityClosed env request := by
  constructor
  · rintro ⟨hattributes, -⟩
    exact (getIncomingRequestAttributes_ok_iff env request options).mp hattributes
  · intro h
    exact ⟨(getIncomingRequestAttributes_ok_iff env request options).mpr h,
      httpServerRequestStart_ok env config request h⟩

def bracketRequest : IncomingMessage where
  method := some "GET"
  url := some "/"
  httpVersion := "1.1"
  headers :=
    { host := some "["
      forwarded := none
      xForwardedHost := .absent
      xForwardedProto := .absent
      xForwardedFor := .absent
      userAgent := none
      contentLength := none
      contentEncoding := none }
  socket := { encrypted := false, remoteAddress := some "127.0.0.1", remotePort := some 50000 }

def bracketPlatform : Platform where
  forwardedParse _ := none
  newUrl _ _ := none
  toUpperCase := String.toUpper
  toLowerCase := String.toLower

theorem bracket_throws :
    ¬ ∃ attributes, getIncomingRequestAttributes bracketPlatform bracketRequest
      ⟨none, none, .old, false⟩ = .ok attributes := by
  rintro ⟨attributes, h⟩
  have hthrows : getServerAddress bracketPlatform bracketRequest "http" =
      .error ⟨"Cannot read properties of undefined (reading 'endsWith')"⟩ := by decide
  have hscheme : scheme bracketRequest = "http" := rfl
  rw [getIncomingRequestAttributes, hscheme, hthrows] at h
  cases h

end SplunkOtel.Http
