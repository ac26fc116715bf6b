import SplunkOtel.Utils.Environment

/-!
# OTLP endpoints (`src/utils.ts`)

The `URL` constructor is a parameter: `none` is a text that it throws on.
-/

namespace SplunkOtel

open Js

/-- A URL that was parsed. -/
structure WebUrl where
  pathname : String
  /-- The text of the URL once its path is set. -/
  withPathname : String → String

abbrev UrlParser := String → Option WebUrl

def ensureResourcePath (constructUrl : UrlParser) (url : Option String) (resourcePath : String) :
    Option String :=
  match url with
  | none => none
  | some url =>
    match constructUrl url with
    | none => none
    | some validUrl =>
      if validUrl.pathname = "/" then some (validUrl.withPathname resourcePath) else some url

/-- `s.replace(/\/$/, '')` -/
def withoutTrailingSlash (s : String) : String :=
  if endsWith s "/" then String.ofList s.toList.dropLast else s

structure OtlpExporterArgs where
  endpoint : Option String
  protocol : String
  signalEndpointKey : EnvVarKey
  resourcePath : String

def resolveOtlpExporterUrl (constructUrl : UrlParser) (env : Env) (args : OtlpExporterArgs) :
    String :=
  let isHttp := args.protocol ≠ "grpc"
  match args.endpoint with
  | some endpoint =>
    if isHttp then
      (ensureResourcePath constructUrl (some endpoint) args.resourcePath).getD endpoint
    else endpoint
  | none =>
    match getNonEmptyEnvVar env args.signalEndpointKey with
    | some signalEndpoint => signalEndpoint
    | none =>
      match getNonEmptyEnvVar env .OTEL_EXPORTER_OTLP_ENDPOINT with
      | some baseEndpoint =>
        if isHttp then withoutTrailingSlash baseEndpoint ++ args.resourcePath else baseEndpoint
      | none =>
        if isHttp then "http://localhost:4318" ++ args.resourcePath else "http://localhost:4317"

end SplunkOtel
