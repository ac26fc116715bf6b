import SplunkOtel.Js.Number
import SplunkOtel.Lib.OrderedMap

/-!
# Attributes of incoming requests (`src/instrumentations/httpdc/utils.ts`)

Code that reads a property of `undefined` throws a `TypeError`, here an error of `Except`. What is
not in the sources is a parameter: the `forwarded-parse` package, the `URL` constructor and the
case mappings of Unicode.
-/

open Lib SplunkOtel.Js

namespace SplunkOtel.Http

inductive HeaderValue where
  | absent
  | single (value : String)
  | many (values : List String)
deriving DecidableEq

/-- An element of a parsed `forwarded` header. `forwardedFor` is its `for`. -/
structure ForwardedEntry where
  host : Option String
  proto : Option String
  forwardedFor : Option String

structure Url where
  pathname : String
  search : String
  href : String

structure Platform where
  /-- `none` when it throws. -/
  forwardedParse : String → Option (List ForwardedEntry)
  /-- `new URL(url, base)`, `none` when it throws. -/
  newUrl : String → String → Option Url
  toUpperCase : String → String
  toLowerCase : String → String

structure Headers where
  host : Option String
  forwarded : Option String
  xForwardedHost : HeaderValue
  xForwardedProto : HeaderValue
  xForwardedFor : HeaderValue
  userAgent : Option String
  contentLength : Option String
  contentEncoding : Option String

structure Socket where
  encrypted : Bool
  remoteAddress : Option String
  remotePort : Option ℕ

structure IncomingMessage where
  method : Option String
  url : Option String
  httpVersion : String
  headers : Headers
  socket : Socket

inductive AttributeValue where
  | undefined
  | string (value : String)
  | number (value : Number)
  | strings (values : List String)
deriving DecidableEq

abbrev Attributes := OrderedMap String AttributeValue

def AttributeValue.ofOption : Option String → AttributeValue
  | none => .undefined
  | some value => .string value

inductive SemconvStability where
  | stable
  | old
  | duplicate
deriving DecidableEq

structure AttributeOptions where
  serverName : Option String
  hookAttributes : Option Attributes
  semconvStability : SemconvStability
  enableSyntheticSourceDetection : Bool

structure TypeError where
  message : String
deriving DecidableEq

/-- Reading a property of a value that may be `undefined`. -/
def deref {α : Type} (value : Option α) (property : String) : Except TypeError α :=
  match value with
  | some a => .ok a
  | none => .error ⟨"Cannot read properties of undefined (reading '" ++ property ++ "')"⟩

def arrayAt {α : Type} (array : List α) (index : ℤ) : Option α :=
  if 0 ≤ index then array[index.toNat]? else none

/-! ## Server and client address -/

structure ServerAddress where
  host : String
  port : Option String := none
deriving DecidableEq

def defaultPort (proto : Option String) : Option String :=
  if proto = some "http" then some "80"
  else if proto = some "https" then some "443"
  else none

def parseHostHeader (hostHeader : String) (proto : Option String) :
    Except TypeError ServerAddress :=
  let notIPv6 := !startsWith hostHeader "["
  if notIPv6 then
    match indexOf hostHeader ':' 0 with
    | none => .ok { host := hostHeader, port := defaultPort proto }
    | some firstColonIndex =>
      match indexOf hostHeader ':' (firstColonIndex + 1) with
      | none =>
        .ok {
          host := substring hostHeader 0 firstColonIndex
          port := some (substringFrom hostHeader (firstColonIndex + 1)) }
      | some _ => .ok { host := hostHeader }
  else do
    let parts := split hostHeader ':'
    let last ← deref (arrayAt parts (parts.length - 1)) "endsWith"
    if endsWith last "]" then
      .ok { host := hostHeader, port := defaultPort proto }
    else
      let previous ← deref (arrayAt parts (parts.length - 2)) "endsWith"
      if endsWith previous "]" then
        .ok { host := join parts.dropLast ":", port := some last }
      else .ok { host := hostHeader }

def parseForwardedHeader (env : Platform) (header : String) : List ForwardedEntry :=
  (env.forwardedParse header).getD []

/-- The entries of the `forwarded` header, none for a header that is absent or empty. -/
def forwardedEntries (env : Platform) (request : IncomingMessage) : List ForwardedEntry :=
  match request.headers.forwarded with
  | none => []
  | some header => if header = "" then [] else parseForwardedHeader env header

def forwardedProto (request : IncomingMessage) : Option String :=
  match request.headers.xForwardedProto with
  | .absent => none
  | .single proto => some proto
  | .many protos => protos[0]?

/-- A string that is not empty, as `if (s)` asks. -/
def nonEmpty (s : Option String) : Option String := s.filter (· ≠ "")

def getServerAddress (env : Platform) (request : IncomingMessage) (component : String) :
    Except TypeError (Option ServerAddress) :=
  let forwarded := (forwardedEntries env request).findSome? fun entry =>
    (nonEmpty entry.host).map fun host => parseHostHeader host entry.proto
  match forwarded with
  | some result => some <$> result
  | none =>
    let fromHost := match nonEmpty request.headers.host with
      | some host => some <$> parseHostHeader host (some component)
      | none => .ok none
    match request.headers.xForwardedHost with
    | .single xForwardedHost => some <$> parseHostHeader xForwardedHost (forwardedProto request)
    | .many (xForwardedHost :: _) =>
      if xForwardedHost.length > 0 then
        some <$> parseHostHeader xForwardedHost (forwardedProto request)
      else fromHost
    | _ => fromHost

/-- `none` is null. -/
def getRemoteClientAddress (env : Platform) (request : IncomingMessage) : Option AttributeValue :=
  match (forwardedEntries env request).findSome? fun entry => nonEmpty entry.forwardedFor with
  | some address => some (.string address)
  | none =>
    match request.headers.xForwardedFor with
    | .single address => some (.string address)
    | .many addresses => some (.ofOption addresses[0]?)
    | .absent => (nonEmpty request.socket.remoteAddress).map .string

/-! ## The other attributes -/

/-- What `getInfoFromIncomingMessage` returns: `{}` when the URL is not valid. -/
structure ParsedUrl where
  pathname : Option String := none
  search : Option String := none
  toString : String := "[object Object]"

def getInfoFromIncomingMessage (env : Platform) (component : String) (request : IncomingMessage) :
    ParsedUrl :=
  let url := request.url.getD "/"
  match nonEmpty request.headers.host with
  | some host =>
    match env.newUrl url (component ++ "://" ++ host) with
    | some u => { pathname := some u.pathname, search := some u.search, toString := u.href }
    | none => {}
  | none =>
    match env.newUrl url (component ++ "://localhost") with
    | some u =>
      { pathname := some u.pathname, search := some u.search, toString := u.pathname ++ u.search }
    | none => {}

def KNOWN_METHODS : List String :=
  ["GET", "HEAD", "POST", "PUT", "DELETE", "CONNECT", "OPTIONS", "TRACE", "PATCH"]

def normalizeMethod (env : Platform) (method : Option String) : String :=
  match nonEmpty method with
  | none => "GET"
  | some method =>
    let upper := env.toUpperCase method
    if upper ∈ KNOWN_METHODS then upper else "_OTHER"

def SYNTHETIC_TEST_NAMES : List String := ["alwayson"]

def SYNTHETIC_BOT_NAMES : List String := ["googlebot", "bingbot"]

def getSyntheticType (env : Platform) (userAgent : String) : AttributeValue :=
  let userAgentString := env.toLowerCase userAgent
  if SYNTHETIC_TEST_NAMES.any (includes userAgentString ·) then .string "test"
  else if SYNTHETIC_BOT_NAMES.any (includes userAgentString ·) then .string "bot"
  else .undefined

def getContentLength (headers : Headers) : Option Number :=
  match headers.contentLength with
  | none => none
  | some contentLengthHeader =>
    match parseInt contentLengthHeader with
    | .nan => none
    | contentLength => some contentLength

def isCompressed (headers : Headers) : Bool :=
  match nonEmpty headers.contentEncoding with
  | none => false
  | some encoding => encoding ≠ "identity"

def setRequestContentLengthAttribute (request : IncomingMessage) (attributes : Attributes) :
    Attributes :=
  match getContentLength request.headers with
  | none => attributes
  | some length =>
    if isCompressed request.headers then
      attributes.set "http.request_content_length" (.number length)
    else attributes.set "http.request_content_length_uncompressed" (.number length)

def setAttributesFromHttpKind (env : Platform) (kind : String) (attributes : Attributes) :
    Attributes :=
  if kind = "" then attributes
  else
    (attributes.set "http.flavor" (.string kind)).set "net.transport"
      (.string (if env.toUpperCase kind ≠ "QUIC" then "ip_tcp" else "ip_udp"))

def assign (target source : Attributes) : Attributes :=
  source.entries.foldl (fun attributes (key, value) => attributes.set key value) target

def assignOptional (target : Attributes) (source : Option Attributes) : Attributes :=
  assign target (source.getD ∅)

theorem get?_assign (target source : Attributes) (key : String) :
    (assign target source).get? key = (source.get? key).or (target.get? key) :=
  OrderedMap.get?_foldl_entries source target key

/-- `Number(port)`, and `Number(undefined)` without a port. -/
def portNumber (port : Option String) : Number :=
  match port with
  | none => .nan
  | some port => stringToNumber port

def newAttributes (env : Platform) (request : IncomingMessage) (options : AttributeOptions)
    (scheme : String) (serverAddress : Option ServerAddress) (parsedUrl : ParsedUrl) : Attributes :=
  let normalizedMethod := normalizeMethod env request.method
  let remoteClientAddress := getRemoteClientAddress env request
  let attributes : Attributes := ∅
  let attributes := attributes.set "http.request.method" (.string normalizedMethod)
  let attributes := attributes.set "url.scheme" (.string scheme)
  let attributes := attributes.set "server.address" (.ofOption (serverAddress.map (·.host)))
  let attributes := attributes.set "network.peer.address" (.ofOption request.socket.remoteAddress)
  let attributes := attributes.set "network.peer.port"
    (match request.socket.remotePort with
      | none => .undefined
      | some port => .number (.finite port))
  let attributes := attributes.set "network.protocol.version" (.string request.httpVersion)
  let attributes := attributes.set "user_agent.original" (.ofOption request.headers.userAgent)
  -- `pathname` may be undefined, but it is never null.
  let attributes := attributes.set "url.path" (.ofOption parsedUrl.pathname)
  let attributes := match remoteClientAddress with
    | none => attributes
    | some address => attributes.set "client.address" address
  let attributes := match serverAddress with
    | none => attributes
    | some address => attributes.set "server.port" (.number (portNumber address.port))
  let attributes :=
    if request.method ≠ some normalizedMethod then
      attributes.set "http.request.method_original" (.ofOption request.method)
    else attributes
  match options.enableSyntheticSourceDetection, nonEmpty request.headers.userAgent with
  | true, some userAgent => attributes.set "user_agent.synthetic.type" (getSyntheticType env userAgent)
  | _, _ => attributes

def oldAttributes (env : Platform) (request : IncomingMessage) (options : AttributeOptions)
    (scheme : String) (parsedUrl : ParsedUrl) : Attributes :=
  let host := (nonEmpty request.headers.host).getD "localhost"
  let hostname := match lastIndexOf host ':' with
    | none => host
    | some hostnameEnd => substring host 0 hostnameEnd
  let attributes : Attributes := ∅
  let attributes := attributes.set "http.url" (.string parsedUrl.toString)
  let attributes := attributes.set "http.host" (.string host)
  let attributes := attributes.set "net.host.name" (.string hostname)
  let attributes := attributes.set "http.method" (.ofOption request.method)
  let attributes := attributes.set "http.scheme" (.string scheme)
  let attributes := match request.headers.xForwardedFor with
    | .single ips => attributes.set "http.client_ip" (.ofOption (split ips ',').head?)
    | _ => attributes
  let attributes := match options.serverName with
    | none => attributes
    | some serverName => attributes.set "http.server_name" (.string serverName)
  let attributes := match nonEmpty parsedUrl.pathname with
    | none => attributes
    | some pathname =>
      attributes.set "http.target" (.string (pathname ++ parsedUrl.search.getD "undefined"))
  let attributes := match request.headers.userAgent with
    | none => attributes
    | some userAgent => attributes.set "http.user_agent" (.string userAgent)
  setAttributesFromHttpKind env request.httpVersion
    (setRequestContentLengthAttribute request attributes)

def scheme (request : IncomingMessage) : String := if request.socket.encrypted then "https" else "http"

def getIncomingRequestAttributes (env : Platform) (request : IncomingMessage)
    (options : AttributeOptions) : Except TypeError Attributes := do
  let serverAddress ← getServerAddress env request (scheme request)
  let parsedUrl := getInfoFromIncomingMessage env (scheme request) request
  let newAttributes := newAttributes env request options (scheme request) serverAddress parsedUrl
  let oldAttributes := oldAttributes env request options (scheme request) parsedUrl
  match options.semconvStability with
  | .stable => return assignOptional newAttributes options.hookAttributes
  | .old => return assignOptional oldAttributes options.hookAttributes
  | .duplicate =>
    return assignOptional (assign oldAttributes newAttributes) options.hookAttributes

/-! ## The handler of `http.server.request.start` -/

/-- A hook of the user is called in `safeExecuteInTheMiddle`, which keeps an exception from
spreading: `none` is one that throws. -/
structure InstrumentationConfig where
  enabled : Bool
  ignoreIncomingRequestHook : Option (IncomingMessage → Option Bool)
  startIncomingSpanHook : Option (IncomingMessage → Option Attributes)
  serverName : Option String
  enableSyntheticSourceDetection : Bool
  semconvStability : SemconvStability

structure ServerSpan where
  method : String
  attributes : Attributes
  oldMetricAttributes : Option Attributes
  stableMetricAttributes : Option Attributes

def truthy : AttributeValue → Bool
  | .undefined => false
  | .string value => value ≠ ""
  | .number value => value ≠ .nan ∧ value ≠ .finite 0
  | .strings _ => true

def valueAt (attributes : Attributes) (key : String) : AttributeValue :=
  (attributes.get? key).getD .undefined

def copyAttributes (attributes : Attributes) (keys : List String) : Attributes :=
  keys.foldl (fun copy key => copy.set key (valueAt attributes key)) ∅

def getIncomingRequestMetricAttributes (spanAttributes : Attributes) : Attributes :=
  copyAttributes spanAttributes ["http.scheme", "http.method", "net.host.name", "http.flavor"]

def stableMetricAttributes (spanAttributes : Attributes) : Attributes :=
  let attributes := copyAttributes spanAttributes ["http.request.method", "url.scheme"]
  let version := valueAt spanAttributes "network.protocol.version"
  if truthy version then attributes.set "network.protocol.version" version else attributes

/-- The calls into the OpenTelemetry API do not throw. -/
def httpServerRequestStart (env : Platform) (config : InstrumentationConfig)
    (request : IncomingMessage) : Except TypeError (Option ServerSpan) :=
  let ignored := (config.ignoreIncomingRequestHook.bind (· request)).getD false
  if ¬ config.enabled ∨ ignored then .ok none
  else do
    let hookAttributes := config.startIncomingSpanHook.bind (· request)
    let spanAttributes ← getIncomingRequestAttributes env request
      { serverName := config.serverName
        hookAttributes
        semconvStability := config.semconvStability
        enableSyntheticSourceDetection := config.enableSyntheticSourceDetection }
    let stability := config.semconvStability
    return some {
      method := (nonEmpty request.method).getD "GET"
      attributes := spanAttributes
      oldMetricAttributes :=
        if stability ≠ .stable then some (getIncomingRequestMetricAttributes spanAttributes)
        else none
      stableMetricAttributes :=
        if stability ≠ .old then some (stableMetricAttributes spanAttributes) else none }

end SplunkOtel.Http
