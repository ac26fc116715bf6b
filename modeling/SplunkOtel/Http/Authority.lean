import SplunkOtel.Http.Lookups
import SplunkOtel.Http.NoThrow
import SplunkOtel.Js.Digits

/-!
# Which host and port the attributes give

An authority is a host with or without a port. Requests carry it in a header, and each convention
cuts that header in a way of its own.
-/

open Lib SplunkOtel.Js

namespace SplunkOtel.Http

/-! ## Authorities -/

/-- A name or an IPv4 address. -/
def PlainHost (host : String) : Prop :=
  host ≠ "" ∧ startsWith host "[" = false ∧ ':' ∉ host.toList

/-- An IPv6 address in brackets. -/
def BracketedHost (host : String) : Prop :=
  startsWith host "[" = true ∧ endsWith host "]" = true ∧ ':' ∈ host.toList

instance : DecidablePred PlainHost := fun _ => inferInstanceAs (Decidable (_ ∧ _ ∧ _))

instance : DecidablePred BracketedHost := fun _ => inferInstanceAs (Decidable (_ ∧ _ ∧ _))

def portValue (port : String) : ℕ := Nat.ofDigitChars 10 port.toList 0

def ValidPort (port : String) : Prop :=
  port ≠ "" ∧ (∀ c ∈ port.toList, c.isDigit = true) ∧ portValue port ≤ 65535

instance : DecidablePred ValidPort := fun _ => inferInstanceAs (Decidable (_ ∧ _ ∧ _))

structure Authority where
  host : String
  port : Option String
  hostValid : PlainHost host ∨ BracketedHost host
  portValid : ∀ p ∈ port, ValidPort p

namespace Authority

def text (a : Authority) : String :=
  match a.port with
  | none => a.host
  | some p => a.host ++ ":" ++ p

theorem text_portless {a : Authority} (h : a.port = none) : a.text = a.host := by
  unfold text
  rw [h]

theorem text_port {a : Authority} {p : String} (h : a.port = some p) :
    a.text.toList = a.host.toList ++ ':' :: p.toList := by
  unfold text
  rw [h]
  simp [String.toList_append]

theorem colon_port {a : Authority} {p : String} (h : a.port = some p) : ':' ∉ p.toList := by
  intro hcolon
  exact absurd ((a.portValid p h).2.1 ':' hcolon) (by decide)

theorem host_ne_empty (a : Authority) : a.host ≠ "" := by
  rcases a.hostValid with h | h
  · exact h.1
  · intro hempty
    rw [hempty] at h
    exact absurd h (by decide)

theorem plain_of_not_bracket {a : Authority} (h : startsWith a.host "[" = false) :
    PlainHost a.host := by
  refine a.hostValid.resolve_right ?_
  rintro ⟨hstart, -⟩
  exact absurd hstart (by simp [h])

theorem bracketed_of_bracket {a : Authority} (h : startsWith a.host "[" = true) :
    BracketedHost a.host := by
  refine a.hostValid.resolve_left ?_
  rintro ⟨-, hstart, -⟩
  exact absurd h (by simp [hstart])

theorem startsWith_text (a : Authority) : startsWith a.text "[" = startsWith a.host "[" := by
  cases hp : a.port with
  | none => rw [text_portless hp]
  | some p =>
    refine startsWith_append (u := ":" ++ p) ?_ a.host_ne_empty '['
    rw [text_port hp]
    simp [String.toList_append]

theorem text_ne_empty (a : Authority) : a.text ≠ "" := by
  unfold text
  split
  · exact a.host_ne_empty
  · intro h
    have := congrArg String.toList h
    simp [String.toList_append] at this

theorem bracket_last {host : String} (h : BracketedHost host) :
    ∃ front, host.toList = front ++ [']'] := by
  have hsuffix := h.2.1
  unfold endsWith at hsuffix
  rw [List.isSuffixOf_iff_suffix] at hsuffix
  obtain ⟨front, hfront⟩ := hsuffix
  exact ⟨front, hfront.symm⟩

theorem last_part_of_bracketed {host : String} (h : BracketedHost host) :
    ∃ last, (split host ':').getLast? = some last ∧ endsWith last "]" = true := by
  obtain ⟨front, hfront⟩ := bracket_last h
  have hlast := getLast_split (show ']' ≠ ':' by decide) front
  rw [← hfront, String.ofList_toList] at hlast
  exact hlast

theorem port_not_bracket {a : Authority} {p : String} (h : a.port = some p) :
    endsWith p "]" = false := by
  rw [Bool.eq_false_iff]
  intro hend
  unfold endsWith at hend
  rw [List.isSuffixOf_iff_suffix] at hend
  exact absurd ((a.portValid p h).2.1 ']' (hend.subset (by decide))) (by decide)

end Authority

/-! ## The splitter -/

open Authority

theorem parseHostHeader_plain_text {a : Authority} (h : PlainHost a.host) (proto : Option String) :
    parseHostHeader a.text proto =
      .ok { host := a.host, port := a.port.or (defaultPort proto) } := by
  unfold parseHostHeader
  simp only [startsWith_text, h.2.1, Bool.not_false, if_true]
  cases hp : a.port with
  | none =>
    rw [text_portless hp, indexOf_of_not_mem (by simpa using h.2.2)]
    rfl
  | some p =>
    have htext := text_port hp
    have hafter : ':' ∉ a.text.toList.drop (a.host.toList.length + 1) := by
      rw [htext, ← List.drop_drop, List.drop_left]
      exact colon_port hp
    rw [indexOf_split htext h.2.2]
    simp only
    rw [indexOf_of_not_mem hafter, substring_split htext, substringFrom_split htext,
      String.ofList_toList, String.ofList_toList]
    rfl

theorem arrayAt_previous_concat {α : Type} {array : List α} (h : array ≠ []) (a : α) :
    arrayAt (array ++ [a]) ((array ++ [a]).length - 2) = array.getLast? := by
  have hlen := List.length_pos_iff.mpr h
  unfold arrayAt
  rw [List.length_append, List.length_singleton, if_pos (by omega), List.getLast?_eq_getElem?,
    List.getElem?_append_left (by omega)]
  congr 1
  omega

theorem parseHostHeader_bracketed_text {a : Authority} (h : BracketedHost a.host)
    (proto : Option String) :
    parseHostHeader a.text proto =
      .ok { host := a.host, port := a.port.or (defaultPort proto) } := by
  obtain ⟨last, hlast, hend⟩ := last_part_of_bracketed h
  unfold parseHostHeader
  simp only [startsWith_text, h.1, Bool.not_true, Bool.false_eq_true, if_false]
  cases hp : a.port with
  | none =>
    rw [text_portless hp, arrayAt_last (split_ne_nil _ _), hlast, deref_some rfl, ok_bind,
      if_pos hend]
    rfl
  | some p =>
    have hsplit := split_append (text_port hp) (colon_port hp)
    rw [String.ofList_toList, String.ofList_toList] at hsplit
    rw [hsplit, arrayAt_last (by simp), arrayAt_previous_concat (split_ne_nil _ _), hlast,
      List.getLast?_concat, deref_some rfl, deref_some rfl, ok_bind, port_not_bracket hp, ok_bind,
      if_neg (by simp), if_pos hend, List.dropLast_concat]
    exact congrArg (fun host => Except.ok (ServerAddress.mk host (some p))) (join_split a.host ':')

theorem parseHostHeader_text (a : Authority) (proto : Option String) :
    parseHostHeader a.text proto =
      .ok { host := a.host, port := a.port.or (defaultPort proto) } := by
  rcases a.hostValid with h | h
  · exact parseHostHeader_plain_text h proto
  · exact parseHostHeader_bracketed_text h proto

/-! ## Incoming requests -/

/-- The protocol that goes with the authority of a request. -/
def authorityProto (env : Platform) (request : IncomingMessage) : Option String :=
  match (forwardedEntries env request).find? fun entry => (nonEmpty entry.host).isSome with
  | some entry => entry.proto
  | none =>
    match request.headers.xForwardedHost with
    | .single _ => forwardedProto request
    | .many hosts =>
      if (nonEmpty hosts.head?).isSome then forwardedProto request else some (scheme request)
    | .absent => some (scheme request)

theorem getServerAddress_eq {env : Platform} {request : IncomingMessage} {host : String}
    (h : authority env request = some host) :
    getServerAddress env request (scheme request) =
      some <$> parseHostHeader host (authorityProto env request) := by
  unfold authority at h
  unfold getServerAddress authorityProto
  rcases findSome_host (forwardedEntries env request) with
    ⟨hfind, hnone, hparsed⟩ | ⟨host', entry, hfind, hsome, hparsed⟩
  · rw [hnone] at h
    rw [hfind, hparsed]
    simp only at h ⊢
    cases hx : request.headers.xForwardedHost with
    | absent =>
      rw [hx] at h
      simp only at h ⊢
      rw [h]
    | single xForwardedHost =>
      rw [hx] at h
      cases h
      rfl
    | many hosts =>
      rw [hx] at h
      rcases hosts with _ | ⟨xForwardedHost, hosts⟩
      · change nonEmpty request.headers.host = some host at h
        simp only [h]
        rfl
      · by_cases hempty : xForwardedHost = ""
        · subst hempty
          change nonEmpty request.headers.host = some host at h
          simp only [h]
          rfl
        · have hlen : xForwardedHost.length > 0 :=
            Nat.pos_of_ne_zero (mt String.length_eq_zero_iff.mp hempty)
          have hhead : nonEmpty (xForwardedHost :: hosts).head? = some xForwardedHost := by
            simp [nonEmpty, hempty]
          simp only [hhead, Option.some_or] at h ⊢
          cases h
          simp only [if_pos hlen]
          rfl
  · rw [hsome] at h
    cases h
    rw [hfind, hparsed]

/-! ## What the attributes should say -/

/-- The default port of a protocol that is known. -/
def knownPort (proto : Option String) : Option ℕ :=
  if proto = some "http" then some 80
  else if proto = some "https" then some 443
  else none

/-- The port of the authority. Without one, the default of the protocol or nothing. -/
def PortAgrees (a : Authority) (proto : Option String) (value : AttributeValue) : Prop :=
  match a.port with
  | some p => value = .number (.finite (portValue p))
  | none => value = .undefined ∨ ∃ n ∈ knownPort proto, value = .number (.finite n)

/-- The hook sets none of the attributes that the authority decides. -/
def HookSilent (options : AttributeOptions) : Prop :=
  ∀ key ∈ ["server.address", "server.port", "network.peer.port", "net.host.name"],
    (options.hookAttributes.getD ∅).get? key = none

structure IncomingAgrees (env : Platform) (request : IncomingMessage)
    (stability : SemconvStability) (attributes : Attributes) (a : Authority) : Prop where
  server : stability ≠ .old → authority env request = some a.text →
    valueAt attributes "server.address" = .string a.host ∧
      PortAgrees a (authorityProto env request) (valueAt attributes "server.port") ∧
      valueAt attributes "network.peer.port" ≠ .number .nan
  hostName : stability ≠ .stable → request.headers.host = some a.text →
    valueAt attributes "net.host.name" = .string a.host

/-- Without a port, the protocol of the stable attributes is known, and the host of the old one has
no brackets. -/
structure IncomingClear (env : Platform) (request : IncomingMessage) (stability : SemconvStability)
    (a : Authority) : Prop where
  server : stability ≠ .old → authority env request = some a.text → a.port = none →
    (knownPort (authorityProto env request)).isSome
  hostName : stability ≠ .stable → request.headers.host = some a.text → a.port = none →
    startsWith a.host "[" = false

/-- The protocol of a client request, without the colon. -/
def clientProto (request : ClientRequest) : Option String :=
  if request.protocol = some "http:" then some "http"
  else if request.protocol = some "https:" then some "https"
  else none

/-- The host has no brackets. Without a port, it reads as the number of the default port. -/
def OutgoingClear (request : ClientRequest) (a : Authority) : Prop :=
  startsWith a.host "[" = false ∧
    (a.port = none → ∃ n ∈ knownPort (clientProto request), stringToNumber a.host = .finite n)

/-! ## The ports -/

theorem stringToNumber_port {a : Authority} {p : String} (h : a.port = some p) :
    stringToNumber p = .finite (portValue p) := by
  obtain ⟨hne, hdigits, -⟩ := a.portValid p h
  unfold portValue
  exact stringToNumber_digits hne hdigits

theorem portNumber_default (proto : Option String) :
    portNumber (defaultPort proto) = match knownPort proto with
      | some n => .finite n
      | none => .nan := by
  have h80 : Nat.ofDigitChars 10 "80".toList 0 = 80 := by decide
  have h443 : Nat.ofDigitChars 10 "443".toList 0 = 443 := by decide
  unfold defaultPort knownPort portNumber
  split_ifs
  · simp only
    rw [stringToNumber_digits (by decide) (by simp), h80]
  · simp only
    rw [stringToNumber_digits (by decide) (by simp), h443]
  · rfl

theorem incoming_port_iff (a : Authority) (proto : Option String) :
    PortAgrees a proto (.number (portNumber (a.port.or (defaultPort proto)))) ↔
      (a.port = none → (knownPort proto).isSome) := by
  unfold PortAgrees
  cases hp : a.port with
  | some p =>
    simp only [Option.some_or, portNumber, stringToNumber_port hp, reduceCtorEq, false_implies]
  | none =>
    rw [Option.none_or, portNumber_default]
    cases knownPort proto with
    | none => simp
    | some n => simp

theorem text_cut {a : Authority} {before after : List Char}
    (hhost : a.host.toList = before ++ ':' :: after) :
    ∃ rest, a.text.toList = before ++ ':' :: (after ++ rest) := by
  cases hp : a.port with
  | none =>
    rw [text_portless hp, hhost]
    exact ⟨[], by simp⟩
  | some p =>
    rw [text_port hp, hhost]
    exact ⟨':' :: p.toList, by simp⟩

theorem serverPort_bracketed {a : Authority} (h : BracketedHost a.host) :
    serverPort (some (.string a.text)) = .number .nan := by
  obtain ⟨before, after, hhost, hbefore⟩ := List.eq_append_cons_of_mem h.2.2
  obtain ⟨front, hfront⟩ := bracket_last h
  have hbracket : ']' ∈ after := by
    rw [hhost] at hfront
    rcases List.eq_nil_or_concat after with rfl | ⟨inside, c, rfl⟩
    · have hlast := List.append_inj_right' hfront rfl
      exact absurd hlast (by decide)
    · rw [List.concat_eq_append, ← List.cons_append, ← List.append_assoc] at hfront
      have hlast := List.append_inj_right' hfront rfl
      simp [(List.cons.inj hlast).1]
  obtain ⟨rest, htext⟩ := text_cut hhost
  unfold serverPort
  simp only
  rw [indexOf_split htext hbefore]
  simp only
  rw [substringFrom_split htext, stringToNumber_bracket]
  rw [String.toList_ofList]
  exact List.mem_append_left _ hbracket

theorem serverPort_plain {a : Authority} (h : PlainHost a.host) :
    serverPort (some (.string a.text)) = .number (match a.port with
      | some p => .finite (portValue p)
      | none => stringToNumber a.host) := by
  unfold serverPort
  simp only
  cases hp : a.port with
  | none =>
    rw [text_portless hp, indexOf_of_not_mem (by simpa using h.2.2)]
    simp only [substringFrom, List.drop_zero, String.ofList_toList]
  | some p =>
    rw [indexOf_split (text_port hp) h.2.2]
    simp only
    rw [substringFrom_split (text_port hp), String.ofList_toList, stringToNumber_port hp]

theorem outgoing_port_iff (a : Authority) (request : ClientRequest) :
    PortAgrees a (clientProto request) (serverPort (some (.string a.text))) ↔
      OutgoingClear request a := by
  unfold OutgoingClear PortAgrees
  cases hstart : startsWith a.host "[" with
  | true =>
    rw [serverPort_bracketed (bracketed_of_bracket hstart)]
    cases a.port with
    | some p => simp
    | none => simp
  | false =>
    rw [serverPort_plain (plain_of_not_bracket hstart)]
    cases a.port with
    | some p => simp
    | none => simp

/-! ## The old host name -/

theorem hostnameOf_text_iff (a : Authority) :
    hostnameOf a.text = a.host ↔ (a.port = none → startsWith a.host "[" = false) := by
  unfold hostnameOf
  cases hp : a.port with
  | some p =>
    rw [lastIndexOf_split (text_port hp) (colon_port hp)]
    simp only
    rw [substring_split (text_port hp), String.ofList_toList]
    simp
  | none =>
    rw [text_portless hp]
    cases hstart : startsWith a.host "[" with
    | false =>
      rw [lastIndexOf_of_not_mem (plain_of_not_bracket hstart).2.2]
      simp
    | true =>
      have hcolon := (bracketed_of_bracket hstart).2.2
      obtain ⟨after, before, hreverse, hafter⟩ :=
        List.eq_append_cons_of_mem (List.mem_reverse.mpr hcolon)
      have hhost : a.host.toList = before.reverse ++ ':' :: after.reverse := by
        rw [← List.reverse_reverse a.host.toList, hreverse]
        simp
      rw [lastIndexOf_split hhost (by simpa using hafter)]
      simp only
      rw [substring_split hhost]
      refine iff_of_false ?_ (by simp)
      intro h
      rw [← h, String.toList_ofList] at hhost
      have hlength := congrArg List.length hhost
      simp at hlength

/-! ## Both sides -/

theorem getServerAddress_text {env : Platform} {request : IncomingMessage} {a : Authority}
    (h : authority env request = some a.text) :
    getServerAddress env request (scheme request) =
      .ok (some ⟨a.host, a.port.or (defaultPort (authorityProto env request))⟩) := by
  rw [getServerAddress_eq h, parseHostHeader_text]
  rfl

theorem server_iff {env : Platform} {request : IncomingMessage} {options : AttributeOptions}
    {attributes : Attributes} {a : Authority} (hhook : HookSilent options)
    (hok : getIncomingRequestAttributes env request options = .ok attributes)
    (hstability : options.semconvStability ≠ .old) (h : authority env request = some a.text) :
    (valueAt attributes "server.address" = .string a.host ∧
        PortAgrees a (authorityProto env request) (valueAt attributes "server.port") ∧
        valueAt attributes "network.peer.port" ≠ .number .nan) ↔
      (a.port = none → (knownPort (authorityProto env request)).isSome) := by
  have haddress := getServerAddress_text h
  have hhost : valueAt attributes "server.address" = .string a.host := by
    apply valueAt_stable haddress hok (hhook _ (by simp)) hstability
    rw [get?_newAttributes (by decide) (by decide) (by decide)]
    rfl
  have hport : valueAt attributes "server.port" =
      .number (portNumber (a.port.or (defaultPort (authorityProto env request)))) := by
    apply valueAt_stable haddress hok (hhook _ (by simp)) hstability
    rw [get?_newAttributes (by decide) (by decide) (by decide)]
    rfl
  have hpeer : valueAt attributes "network.peer.port" = .ofNat request.socket.remotePort := by
    apply valueAt_stable haddress hok (hhook _ (by simp)) hstability
    rw [get?_newAttributes (by decide) (by decide) (by decide)]
    rfl
  rw [hhost, hport, hpeer, incoming_port_iff]
  cases request.socket.remotePort with
  | none => simp [AttributeValue.ofNat]
  | some port => simp [AttributeValue.ofNat]

theorem hostName_iff {env : Platform} {request : IncomingMessage} {options : AttributeOptions}
    {attributes : Attributes} {a : Authority} (hhook : HookSilent options)
    (hok : getIncomingRequestAttributes env request options = .ok attributes)
    (hstability : options.semconvStability ≠ .stable) (h : request.headers.host = some a.text) :
    valueAt attributes "net.host.name" = .string a.host ↔
      (a.port = none → startsWith a.host "[" = false) := by
  obtain ⟨address, haddress⟩ := (getServerAddress_ok_iff env request (scheme request)).mpr
    ((getIncomingRequestAttributes_ok_iff env request options).mp ⟨attributes, hok⟩)
  have hname : valueAt attributes "net.host.name" = .string (hostnameOf a.text) := by
    apply valueAt_old haddress hok (hhook _ (by simp)) hstability
    · rw [get?_newAttributes (by decide) (by decide) (by decide)]
      rfl
    · have hhost : nonEmpty (some a.text) = some a.text := by simp [nonEmpty, a.text_ne_empty]
      rw [netHostName_oldAttributes, h, hhost, Option.getD_some]
  rw [hname, AttributeValue.string.injEq, hostnameOf_text_iff]

theorem incoming_agrees_iff {env : Platform} {request : IncomingMessage}
    {options : AttributeOptions} {attributes : Attributes} (a : Authority)
    (hhook : HookSilent options)
    (hok : getIncomingRequestAttributes env request options = .ok attributes) :
    IncomingAgrees env request options.semconvStability attributes a ↔
      IncomingClear env request options.semconvStability a := by
  constructor
  · rintro ⟨hserver, hname⟩
    exact ⟨fun hstability h => (server_iff hhook hok hstability h).mp (hserver hstability h),
      fun hstability h => (hostName_iff hhook hok hstability h).mp (hname hstability h)⟩
  · rintro ⟨hserver, hname⟩
    exact ⟨fun hstability h => (server_iff hhook hok hstability h).mpr (hserver hstability h),
      fun hstability h => (hostName_iff hhook hok hstability h).mpr (hname hstability h)⟩

theorem outgoing_port (env : Platform) (request : ClientRequest) {stability : SemconvStability}
    (hstability : stability ≠ .old) (names : Option (List String)) (detection : Bool) :
    valueAt (getOutgoingRequestAttributes env request stability names detection) "server.port" =
      serverPort request.hostHeader := by
  unfold getOutgoingRequestAttributes valueAt
  cases stability with
  | old => exact absurd rfl hstability
  | stable =>
    simp only
    rw [get?_new (by decide) (by decide)]
    rfl
  | duplicate =>
    simp only
    rw [get?_assign, get?_new (by decide) (by decide)]
    rfl

def incomingRequestFor (a : Authority) : IncomingMessage :=
  { bracketRequest with headers := { bracketRequest.headers with host := some a.text } }

def outgoingRequestTo (a : Authority) : ClientRequest where
  method := some "GET"
  path := "/"
  host := a.host
  protocol := some "https:"
  remotePort := none
  authorization := none
  userAgent := none
  hostHeader := some (.string a.text)

def nameWithPort : Authority where
  host := "example.com"
  port := some "8080"
  hostValid := Or.inl (by decide)
  portValid := by
    rintro p ⟨⟩
    exact ⟨by decide, by simp, by decide⟩

def loopback : Authority where
  host := "[::1]"
  port := none
  hostValid := Or.inr (by decide)
  portValid := by simp

end SplunkOtel.Http
