import SplunkOtel.Http.IncomingAttributes
import SplunkOtel.Js.UrlSearchParams

/-!
# Attributes of outgoing requests (`src/instrumentations/httpdc/utils.ts`)
-/

open Lib SplunkOtel.Js

namespace SplunkOtel.Http

/-- What `setHeader` was given. -/
inductive OutgoingHttpHeader where
  | string (value : String)
  | number (value : ℤ)
  | strings (values : List String)
deriving DecidableEq

def OutgoingHttpHeader.truthy : OutgoingHttpHeader → Bool
  | .string value => value ≠ ""
  | .number value => value ≠ 0
  | .strings _ => true

/-- `String(header)` -/
def OutgoingHttpHeader.toText : OutgoingHttpHeader → String
  | .string value => value
  | .number value => toString value
  | .strings values => join values ","

structure ClientRequest where
  method : Option String
  path : String
  host : String
  protocol : Option String
  /-- `socket?.remotePort` -/
  remotePort : Option ℕ
  authorization : Option OutgoingHttpHeader
  userAgent : Option OutgoingHttpHeader
  hostHeader : Option OutgoingHttpHeader
deriving DecidableEq

structure ClientResponse extends IncomingMessage where
  statusCode : Option ℕ
  statusMessage : Option String

def AttributeValue.ofHeader : Option OutgoingHttpHeader → AttributeValue
  | none => .undefined
  | some (.string value) => .string value
  | some (.number value) => .number (.finite value)
  | some (.strings values) => .strings values

def AttributeValue.ofNat : Option ℕ → AttributeValue
  | none => .undefined
  | some n => .number (.finite n)

/-! ## The URL -/

def STR_REDACTED : String := "REDACTED"

def DEFAULT_QUERY_STRINGS_TO_REDACT : List String :=
  ["sig", "Signature", "AWSAccessKeyId", "X-Goog-Signature"]

/-- The parameter is there and its first value is not empty. -/
def sensitive (searchParams : URLSearchParams) (sensitiveParam : String) : Bool :=
  match searchParams.get? sensitiveParam with
  | none => false
  | some value => value ≠ ""

def redactParam (searchParams : URLSearchParams) (sensitiveParam : String) : URLSearchParams :=
  if sensitive searchParams sensitiveParam then searchParams.set sensitiveParam STR_REDACTED
  else searchParams

def pathOf (request : ClientRequest) : String := if request.path = "" then "/" else request.path

def redactedPath (path : String) (sensitiveParamsToRedact : List String) : String :=
  match split path '?' with
  | pathname :: query :: _ =>
    let searchParams := sensitiveParamsToRedact.foldl redactParam (URLSearchParams.new query)
    pathname ++ "?" ++ searchParams.toString
  | _ => path

def isDefaultPort (port : Option ℕ) : Bool := port = some 80 ∨ port = some 443

def portText (port : Option ℕ) : String :=
  match port with
  | none => "undefined"
  | some port => toString port

/-- The URL up to the path. -/
def urlBase (request : ClientRequest) : String :=
  let hasAuth := request.authorization.any OutgoingHttpHeader.truthy
  let authPart := if hasAuth then STR_REDACTED ++ ":" ++ STR_REDACTED ++ "@" else ""
  let protocol := (nonEmpty request.protocol).getD "http:"
  let base := protocol ++ "//" ++ authPart ++ request.host
  if isDefaultPort request.remotePort then base else base ++ ":" ++ portText request.remotePort

/-- `none` asks for the default list. -/
def getAbsoluteUrl (request : ClientRequest) (redactedQueryParams : Option (List String)) : String :=
  urlBase request ++
    redactedPath (pathOf request) (redactedQueryParams.getD DEFAULT_QUERY_STRINGS_TO_REDACT)

/-! ## Attributes when the request is made -/

def getOutgoingRequestAttributesOldSemconv (request : ClientRequest)
    (redactedQueryParams : Option (List String)) : Attributes :=
  let attributes : Attributes := ∅
  let attributes := attributes.set "http.method" (.ofOption request.method)
  let attributes := attributes.set "http.target" (.string (pathOf request))
  let attributes := attributes.set "net.peer.name" (.string request.host)
  let attributes := attributes.set "http.host" (.ofHeader request.hostHeader)
  let attributes := attributes.set "http.user_agent" (.ofHeader request.userAgent)
  attributes.set "http.url" (.string (getAbsoluteUrl request redactedQueryParams))

/-- The number after the first colon of a `host` header that is a string. -/
def serverPort (hostHeader : Option OutgoingHttpHeader) : AttributeValue :=
  match hostHeader with
  | some (.string header) =>
    let portStart := match indexOf header ':' 0 with
      | none => 0
      | some colon => colon + 1
    .number (stringToNumber (substringFrom header portStart))
  | _ => .undefined

def getOutgoingRequestAttributesNewSemconv (env : Platform) (request : ClientRequest)
    (enableSyntheticSourceDetection : Bool) (redactedQueryParams : Option (List String)) :
    Attributes :=
  let method := request.method.getD "GET"
  let normalizedMethod := normalizeMethod env (some method)
  let attributes : Attributes := ∅
  let attributes := attributes.set "http.request.method" (.string normalizedMethod)
  let attributes := attributes.set "server.address" (.string request.host)
  let attributes := attributes.set "server.port" (serverPort request.hostHeader)
  let attributes := attributes.set "url.full"
    (.string (getAbsoluteUrl request redactedQueryParams))
  let attributes := attributes.set "user_agent.original" (.ofHeader request.userAgent)
  let attributes :=
    if method ≠ normalizedMethod then
      attributes.set "http.request.method_original" (.string method)
    else attributes
  match enableSyntheticSourceDetection, request.userAgent.filter OutgoingHttpHeader.truthy with
  | true, some userAgent =>
    attributes.set "user_agent.synthetic.type" (getSyntheticType env userAgent.toText)
  | _, _ => attributes

def getOutgoingRequestAttributes (env : Platform) (request : ClientRequest)
    (semconvStability : SemconvStability) (redactedQueryParams : Option (List String))
    (enableSyntheticSourceDetection : Bool) : Attributes :=
  let old := getOutgoingRequestAttributesOldSemconv request redactedQueryParams
  let new := getOutgoingRequestAttributesNewSemconv env request enableSyntheticSourceDetection
    redactedQueryParams
  match semconvStability with
  | .old => old
  | .stable => new
  | .duplicate => assign old new

/-! ## Attributes when the response is there -/

def getOutgoingRequestAttributesOnResponseOldSemconv (request : ClientRequest)
    (response : ClientResponse) (redactedQueryParams : Option (List String)) : Attributes :=
  let attributes : Attributes := ∅
  let attributes := attributes.set "http.url" (.string (getAbsoluteUrl request redactedQueryParams))
  let attributes := attributes.set "net.peer.ip" (.ofOption response.socket.remoteAddress)
  let attributes := attributes.set "net.peer.port" (.ofNat response.socket.remotePort)
  let attributes := attributes.set "http.status_code" (.ofNat response.statusCode)
  let attributes := attributes.set "http.status_text" (.string (response.statusMessage.getD ""))
  let attributes := attributes.set "http.flavor" (.string response.httpVersion)
  let attributes := attributes.set "net.transport" (.string "ip_tcp")
  match getContentLength response.headers with
  | none => attributes
  | some length =>
    if isCompressed response.headers then
      attributes.set "http.response_content_length" (.number length)
    else attributes.set "http.response_content_length_uncompressed" (.number length)

def getOutgoingRequestAttributesOnResponseNewSemconv (request : ClientRequest)
    (response : ClientResponse) (redactedQueryParams : Option (List String)) : Attributes :=
  let attributes : Attributes := ∅
  let attributes := attributes.set "url.full" (.string (getAbsoluteUrl request redactedQueryParams))
  let attributes := attributes.set "http.response.status_code" (.ofNat response.statusCode)
  let attributes := attributes.set "network.peer.address" (.ofOption response.socket.remoteAddress)
  let attributes := attributes.set "network.peer.port" (.ofNat response.socket.remotePort)
  attributes.set "network.protocol.version" (.string response.httpVersion)

def getOutgoingRequestAttributesOnResponse (request : ClientRequest) (response : ClientResponse)
    (semconvStability : SemconvStability) (redactedQueryParams : Option (List String)) :
    Attributes :=
  let old := getOutgoingRequestAttributesOnResponseOldSemconv request response redactedQueryParams
  let new := getOutgoingRequestAttributesOnResponseNewSemconv request response redactedQueryParams
  match semconvStability with
  | .old => old
  | .stable => new
  | .duplicate => assign old new

end SplunkOtel.Http
