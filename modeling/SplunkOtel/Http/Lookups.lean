import SplunkOtel.Http.OutgoingAttributes
import SplunkOtel.Lib.Except

/-!
# What the attributes of a request are under a key

The attributes are set one after the other, some of them under a condition. What a later step sets
under another key makes no difference.
-/

open Lib SplunkOtel.Js

namespace SplunkOtel.Http

/-! ## One step -/

theorem get?_setIf {key k : String} (hk : key ≠ k) (condition : Prop) [Decidable condition]
    (value : AttributeValue) (attributes : Attributes) :
    (if condition then attributes.set k value else attributes).get? key = attributes.get? key := by
  split
  · rw [OrderedMap.get?_set_ne hk]
  · rfl

theorem get?_setSome {key k : String} (hk : key ≠ k) (value : Option AttributeValue)
    (attributes : Attributes) :
    (match value with
      | none => attributes
      | some value => attributes.set k value).get? key = attributes.get? key := by
  split
  · rfl
  · rw [OrderedMap.get?_set_ne hk]

theorem get?_setText {key k : String} (hk : key ≠ k) (text : Option String)
    (value : String → AttributeValue) (attributes : Attributes) :
    (match text with
      | none => attributes
      | some text => attributes.set k (value text)).get? key = attributes.get? key := by
  split
  · rfl
  · rw [OrderedMap.get?_set_ne hk]

theorem get?_setDetected {key k : String} (hk : key ≠ k) (detection : Bool) (text : Option String)
    (value : String → AttributeValue) (attributes : Attributes) :
    (match detection, text with
      | true, some text => attributes.set k (value text)
      | _, _ => attributes).get? key = attributes.get? key := by
  split
  · rw [OrderedMap.get?_set_ne hk]
  · rfl

theorem get?_setSingle {key k : String} (hk : key ≠ k) (header : HeaderValue)
    (value : String → AttributeValue) (attributes : Attributes) :
    (match header with
      | .single text => attributes.set k (value text)
      | _ => attributes).get? key = attributes.get? key := by
  split
  · rw [OrderedMap.get?_set_ne hk]
  · rfl

/-! ## The attributes of an incoming request -/

theorem get?_newAttributes {key : String} (hclient : key ≠ "client.address")
    (hmethod : key ≠ "http.request.method_original") (hsynthetic : key ≠ "user_agent.synthetic.type")
    (env : Platform) (request : IncomingMessage) (options : AttributeOptions) (scheme : String)
    (address : Option ServerAddress) (url : ParsedUrl) :
    (newAttributes env request options scheme address url).get? key =
      if key = "server.port" then address.map fun address => .number (portNumber address.port)
      else if key = "url.path" then some (.ofOption url.pathname)
      else if key = "user_agent.original" then some (.ofOption request.headers.userAgent)
      else if key = "network.protocol.version" then some (.string request.httpVersion)
      else if key = "network.peer.port" then some (.ofNat request.socket.remotePort)
      else if key = "network.peer.address" then some (.ofOption request.socket.remoteAddress)
      else if key = "server.address" then some (.ofOption (address.map (·.host)))
      else if key = "url.scheme" then some (.string scheme)
      else if key = "http.request.method" then
        some (.string (normalizeMethod env request.method))
      else none := by
  unfold newAttributes
  refine (get?_setDetected hsynthetic options.enableSyntheticSourceDetection
    (nonEmpty request.headers.userAgent) (getSyntheticType env) _).trans ?_
  refine (get?_setIf hmethod _ _ _).trans ?_
  cases address with
  | none =>
    simp only
    refine (get?_setSome hclient (getRemoteClientAddress env request) _).trans ?_
    by_cases hport : key = "server.port"
    · simp [OrderedMap.get?_set, hport]
    · simp only [OrderedMap.get?_set, OrderedMap.get?_empty, if_neg hport]
      rfl
  | some address =>
    simp only
    rw [OrderedMap.get?_set]
    congr 1
    refine (get?_setSome hclient (getRemoteClientAddress env request) _).trans ?_
    simp only [OrderedMap.get?_set, OrderedMap.get?_empty]
    rfl

theorem get?_setAttributesFromHttpKind {key : String} (hflavor : key ≠ "http.flavor")
    (htransport : key ≠ "net.transport") (env : Platform) (kind : String)
    (attributes : Attributes) :
    (setAttributesFromHttpKind env kind attributes).get? key = attributes.get? key := by
  unfold setAttributesFromHttpKind
  split
  · rfl
  · rw [OrderedMap.get?_set_ne htransport, OrderedMap.get?_set_ne hflavor]

theorem get?_setRequestContentLength {key : String} (hlength : key ≠ "http.request_content_length")
    (hplain : key ≠ "http.request_content_length_uncompressed") (request : IncomingMessage)
    (attributes : Attributes) :
    (setRequestContentLengthAttribute request attributes).get? key = attributes.get? key := by
  unfold setRequestContentLengthAttribute
  split
  · rfl
  · split
    · rw [OrderedMap.get?_set_ne hlength]
    · rw [OrderedMap.get?_set_ne hplain]

/-- What is before the last colon. -/
def hostnameOf (host : String) : String :=
  match lastIndexOf host ':' with
  | none => host
  | some hostnameEnd => substring host 0 hostnameEnd

theorem netHostName_oldAttributes (env : Platform) (request : IncomingMessage)
    (options : AttributeOptions) (scheme : String) (url : ParsedUrl) :
    (oldAttributes env request options scheme url).get? "net.host.name" =
      some (.string (hostnameOf ((nonEmpty request.headers.host).getD "localhost"))) := by
  unfold oldAttributes
  simp only
  rw [get?_setAttributesFromHttpKind (by decide) (by decide),
    get?_setRequestContentLength (by decide) (by decide)]
  refine (get?_setText (by decide) request.headers.userAgent .string _).trans ?_
  refine (get?_setText (by decide) (nonEmpty url.pathname) _ _).trans ?_
  refine (get?_setText (by decide) options.serverName .string _).trans ?_
  refine (get?_setSingle (by decide) request.headers.xForwardedFor _ _).trans ?_
  rw [OrderedMap.get?_set_ne (by decide), OrderedMap.get?_set_ne (by decide),
    OrderedMap.get?_set_self]
  rfl

/-! ## The result -/

section

variable {env : Platform} {request : IncomingMessage} {options : AttributeOptions}
  {address : Option ServerAddress} {attributes : Attributes} {key : String} {value : AttributeValue}

theorem valueAt_stable (haddress : getServerAddress env request (scheme request) = .ok address)
    (h : getIncomingRequestAttributes env request options = .ok attributes)
    (hkey : (options.hookAttributes.getD ∅).get? key = none)
    (hstability : options.semconvStability ≠ .old)
    (hnew : (newAttributes env request options (scheme request) address
      (getInfoFromIncomingMessage env (scheme request) request)).get? key = some value) :
    valueAt attributes key = value := by
  unfold getIncomingRequestAttributes at h
  rw [haddress, ok_bind] at h
  unfold valueAt
  split at h
  · cases h
    rw [assignOptional, get?_assign, hkey, Option.none_or, hnew, Option.getD_some]
  · exact absurd ‹_› hstability
  · cases h
    rw [assignOptional, get?_assign, hkey, Option.none_or, get?_assign, hnew, Option.some_or,
      Option.getD_some]

theorem valueAt_old (haddress : getServerAddress env request (scheme request) = .ok address)
    (h : getIncomingRequestAttributes env request options = .ok attributes)
    (hkey : (options.hookAttributes.getD ∅).get? key = none)
    (hstability : options.semconvStability ≠ .stable)
    (hnew : (newAttributes env request options (scheme request) address
      (getInfoFromIncomingMessage env (scheme request) request)).get? key = none)
    (hold : (oldAttributes env request options (scheme request)
      (getInfoFromIncomingMessage env (scheme request) request)).get? key = some value) :
    valueAt attributes key = value := by
  unfold getIncomingRequestAttributes at h
  rw [haddress, ok_bind] at h
  unfold valueAt
  split at h
  · exact absurd ‹_› hstability
  · cases h
    rw [assignOptional, get?_assign, hkey, Option.none_or, hold, Option.getD_some]
  · cases h
    rw [assignOptional, get?_assign, hkey, Option.none_or, get?_assign, hnew, Option.none_or, hold,
      Option.getD_some]

end

/-! ## The new attributes of an outgoing request -/

theorem get?_new {key : String} (hmethod : key ≠ "http.request.method_original")
    (hsynthetic : key ≠ "user_agent.synthetic.type") (env : Platform) (request : ClientRequest)
    (detection : Bool) (names : Option (List String)) :
    (getOutgoingRequestAttributesNewSemconv env request detection names).get? key =
      if key = "user_agent.original" then some (.ofHeader request.userAgent)
      else if key = "url.full" then some (.string (getAbsoluteUrl request names))
      else if key = "server.port" then some (serverPort request.hostHeader)
      else if key = "server.address" then some (.string request.host)
      else if key = "http.request.method" then
        some (.string (normalizeMethod env (some (request.method.getD "GET"))))
      else none := by
  unfold getOutgoingRequestAttributesNewSemconv
  simp only
  split
  · rw [OrderedMap.get?_set_ne hsynthetic, get?_setIf hmethod]
    simp only [OrderedMap.get?_set, OrderedMap.get?_empty]
  · rw [get?_setIf hmethod]
    simp only [OrderedMap.get?_set, OrderedMap.get?_empty]

end SplunkOtel.Http
