import SplunkOtel.Configuration.Pipelines
import SplunkOtel.Lib.Except

/-!
# The endpoints that are reported

What the OTLP exporter of a signal is given (`src/tracing/options.ts`, `src/metrics/index.ts`,
`src/logging/index.ts`), and what is reported of it: the endpoint in the effective state, or its
projection into the effective declarative config (`src/configuration.ts`).
-/

open Lib SplunkOtel.Js

namespace SplunkOtel.Configuration

/-! ## Signals -/

inductive SignalName where
  | traces
  | metrics
  | logs

/-- `OTLP_SIGNAL_ENDPOINT_KEYS` -/
def SignalName.endpointKey : SignalName → EnvVarKey
  | traces => .OTEL_EXPORTER_OTLP_TRACES_ENDPOINT
  | metrics => .OTEL_EXPORTER_OTLP_METRICS_ENDPOINT
  | logs => .OTEL_EXPORTER_OTLP_LOGS_ENDPOINT

/-- `OTLP_SIGNAL_RESOURCE_PATHS` -/
def SignalName.resourcePath : SignalName → String
  | traces => "/v1/traces"
  | metrics => "/v1/metrics"
  | logs => "/v1/logs"

/-- `OTLP_HTTP_RESOURCE_PATHS` -/
def SignalName.httpResourcePath : SignalName → Option String
  | traces => some "/v1/traces"
  | metrics => some "/v1/metrics"
  | logs => none

/-- Where an exporter of the SDK sends to: the URL that it is given, else the variable of the
signal, else the base variable with the path of the signal, else the default. -/
def sdkUrl (env : Env) (isHttp : Bool) (signal : SignalName) (url : Option String) : String :=
  let base := (getNonEmptyEnvVar env .OTEL_EXPORTER_OTLP_ENDPOINT).map fun base =>
    if isHttp then withoutTrailingSlash base ++ signal.resourcePath else base
  let default :=
    if isHttp then "http://localhost:4318" ++ signal.resourcePath else "http://localhost:4317"
  (url.or ((getNonEmptyEnvVar env signal.endpointKey).or base)).getD default

/-! ## Exporters of the environment -/

/-- What an exporter of the SDK is given. -/
inductive OtlpExporter where
  | grpc (url : Option String) (metadata : List (String × String))
  | http (url : Option String) (headers : Option (List (String × String)))

structure ExporterOptions where
  endpoint : Option String
  realm : Option String
  accessToken : String

/-- Where the factories of the spans and of the metrics differ. -/
structure ExporterFactory where
  signal : SignalName
  protocolKey : EnvVarKey
  /-- The realm, where it counts as set. -/
  realm : ExporterOptions → Option String
  ingestPath : String
  unknownProtocol : String

def spanExporterFactory : ExporterFactory where
  signal := .traces
  protocolKey := .OTEL_EXPORTER_OTLP_TRACES_PROTOCOL
  realm options := options.realm
  ingestPath := "/v2/trace/otlp"
  unknownProtocol := "Expected OTLP protocol to be either grpc or http/protobuf, got "

def metricExporterFactory : ExporterFactory where
  signal := .metrics
  protocolKey := .OTEL_EXPORTER_OTLP_METRICS_PROTOCOL
  realm options := options.realm.filter (· ≠ "")
  ingestPath := "/v2/datapoint/otlp"
  unknownProtocol := "Metrics: expected OTLP protocol to be either grpc or http/protobuf, got "

section Factories

variable (constructUrl : UrlParser) (env : Env)

/-- The ingest endpoint of the realm, when nothing else names an endpoint. -/
def realmEndpoint (factory : ExporterFactory) (options : ExporterOptions) : Option String :=
  let envEndpoint :=
    getEnvValueByPrecedence env [factory.signal.endpointKey, .OTEL_EXPORTER_OTLP_ENDPOINT]
  if options.endpoint.isNone ∧ envEndpoint.isNone then
    (factory.realm options).map fun realm =>
      "https://ingest." ++ realm ++ ".observability.splunkcloud.com" ++ factory.ingestPath
  else none

def factoryEndpoint (factory : ExporterFactory) (options : ExporterOptions) : Option String :=
  (realmEndpoint env factory options).or options.endpoint

def factoryProtocol (factory : ExporterFactory) (options : ExporterOptions) : String :=
  match realmEndpoint env factory options with
  | some _ => "http/protobuf"
  | none =>
    (getEnvValueByPrecedence env [factory.protocolKey, .OTEL_EXPORTER_OTLP_PROTOCOL]).getD
      "http/protobuf"

/-- The endpoint that is recorded, and the exporter. -/
def ExporterFactory.create (factory : ExporterFactory) (options : ExporterOptions) :
    String × Except Thrown OtlpExporter :=
  let endpoint := factoryEndpoint env factory options
  let protocol := factoryProtocol env factory options
  let token := if options.accessToken = "" then [] else [("X-SF-TOKEN", options.accessToken)]
  let recorded := resolveOtlpExporterUrl constructUrl env
    { endpoint
      protocol
      signalEndpointKey := factory.signal.endpointKey
      resourcePath := factory.signal.resourcePath }
  (recorded,
    if protocol = "grpc" then .ok (.grpc endpoint token)
    else if protocol = "http/protobuf" then
      .ok (.http (ensureResourcePath constructUrl endpoint factory.signal.resourcePath)
        (if token = [] then none else some token))
    else .error ⟨"Error", factory.unknownProtocol ++ protocol ++ "."⟩)

def otlpSpanExporterFactory (options : ExporterOptions) : String × Except Thrown OtlpExporter :=
  spanExporterFactory.create constructUrl env options

def createOtlpExporter (options : ExporterOptions) : String × Except Thrown OtlpExporter :=
  metricExporterFactory.create constructUrl env options

/-- The `otlp` case of `createExporters` in `src/logging/index.ts`. -/
def createOtlpLogExporter (endpoint : Option String) : String × OtlpExporter :=
  let url := ensureResourcePath constructUrl endpoint "/v1/logs"
  (resolveOtlpExporterUrl constructUrl env
    { endpoint
      protocol := "http/protobuf"
      signalEndpointKey := .OTEL_EXPORTER_OTLP_LOGS_ENDPOINT
      resourcePath := "/v1/logs" },
    .http url none)

def OtlpExporter.usedUrl (exporter : OtlpExporter) (signal : SignalName) : String :=
  match exporter with
  | grpc url _ => sdkUrl env false signal url
  | http url _ => sdkUrl env true signal url

end Factories

/-! ## Exporters of the config file -/

structure ProjectedExporter where
  otlpHttp : Option String
  otlpGrpc : Option String

section Projection

variable (constructUrl : UrlParser) (env : Env) (signal : SignalName)

def resolvedByEnvironment (protocol : String) : String :=
  resolveOtlpExporterUrl constructUrl env
    { endpoint := none
      protocol
      signalEndpointKey := signal.endpointKey
      resourcePath := signal.resourcePath }

def projectedHttpEndpoint (configured : Option String) : String :=
  match configured with
  | some configured =>
    match signal.httpResourcePath with
    | some resourcePath =>
      (ensureResourcePath constructUrl (some configured) resourcePath).getD configured
    | none => configured
  | none => resolvedByEnvironment constructUrl env signal "http/protobuf"

def projectedGrpcEndpoint (configured : Option String) : String :=
  configured.getD (resolvedByEnvironment constructUrl env signal "grpc")

/-- `value != null` -/
def isThere (value : Value) : Bool := ¬ value.isNull ∧ ¬ value.isUndefined

def projectExporterEndpoint (exporter : Value) : Except Thrown (Option ProjectedExporter) :=
  if exporter.isUndefined then .ok none
  else do
    let otlpHttp ← exporter.read "otlp_http"
    let otlpGrpc ← exporter.read "otlp_grpc"
    let endpoint (node : Value) := optionalText (node.property "endpoint")
    let out : ProjectedExporter := {
      otlpHttp :=
        if isThere otlpHttp then
          some (projectedHttpEndpoint constructUrl env signal (endpoint otlpHttp))
        else none
      otlpGrpc :=
        if isThere otlpGrpc then
          some (projectedGrpcEndpoint constructUrl env signal (endpoint otlpGrpc))
        else none }
    return if out.otlpHttp.isSome ∨ out.otlpGrpc.isSome then some out else none

end Projection

/-! ## What is reported and what is used -/

/-- A configured URL can be parsed, or is the one that comes out without it. -/
def SameUrl (constructUrl : UrlParser) (fallback : String) (configured : Option String) : Prop :=
  ∀ url ∈ configured, (constructUrl url).isSome ∨ url = fallback

section Reports

variable (constructUrl : UrlParser) (env : Env) (signal : SignalName)

omit constructUrl in
theorem sdkUrl_eq (isHttp : Bool) (url : Option String) :
    sdkUrl env isHttp signal url = url.getD (sdkUrl env isHttp signal none) := by
  unfold sdkUrl
  cases url with
  | none => rfl
  | some url => rfl

theorem http_reported_iff (configured : Option String) (resourcePath fallback : String) :
    (match configured with
      | some url => (ensureResourcePath constructUrl (some url) resourcePath).getD url
      | none => fallback) =
        (ensureResourcePath constructUrl configured resourcePath).getD fallback ↔
      SameUrl constructUrl fallback configured := by
  unfold SameUrl ensureResourcePath
  cases configured with
  | none => simp
  | some url =>
    cases hurl : constructUrl url with
    | none => simp [hurl]
    | some validUrl =>
      simp only [Option.mem_def, Option.some.injEq, forall_eq', hurl, Option.isSome_some, true_or,
        iff_true]
      split
      · rfl
      · rfl

theorem resolve_none (protocol : String) :
    resolveOtlpExporterUrl constructUrl env
        ⟨none, protocol, signal.endpointKey, signal.resourcePath⟩ =
      sdkUrl env (protocol ≠ "grpc") signal none := by
  unfold resolveOtlpExporterUrl sdkUrl
  simp only
  cases getNonEmptyEnvVar env signal.endpointKey with
  | some url => rfl
  | none =>
    cases getNonEmptyEnvVar env .OTEL_EXPORTER_OTLP_ENDPOINT with
    | some base => simp
    | none => simp

theorem resolve_http {protocol : String} (h : protocol ≠ "grpc") (configured : Option String) :
    resolveOtlpExporterUrl constructUrl env
        ⟨configured, protocol, signal.endpointKey, signal.resourcePath⟩ =
      match configured with
      | some url => (ensureResourcePath constructUrl (some url) signal.resourcePath).getD url
      | none => sdkUrl env true signal none := by
  cases configured with
  | some url => simp [resolveOtlpExporterUrl, h]
  | none =>
    rw [resolve_none]
    simp [h]

theorem resolve_grpc (configured : Option String) :
    resolveOtlpExporterUrl constructUrl env
        ⟨configured, "grpc", signal.endpointKey, signal.resourcePath⟩ =
      sdkUrl env false signal configured := by
  cases configured with
  | some url => rfl
  | none => exact resolve_none constructUrl env signal "grpc"

theorem factory_reports_iff (factory : ExporterFactory) (options : ExporterOptions)
    {exporter : OtlpExporter} (h : (factory.create constructUrl env options).2 = .ok exporter) :
    (factory.create constructUrl env options).1 = exporter.usedUrl env factory.signal ↔
      factoryProtocol env factory options = "grpc" ∨
        SameUrl constructUrl (sdkUrl env true factory.signal none)
          (factoryEndpoint env factory options) := by
  unfold ExporterFactory.create at h ⊢
  simp only at h ⊢
  by_cases hgrpc : factoryProtocol env factory options = "grpc"
  · rw [if_pos hgrpc] at h
    cases h
    rw [hgrpc, resolve_grpc]
    simp [OtlpExporter.usedUrl]
  · rw [if_neg hgrpc] at h
    split at h
    · cases h
      unfold OtlpExporter.usedUrl
      rw [resolve_http constructUrl env factory.signal hgrpc]
      simp only [sdkUrl_eq env factory.signal true (ensureResourcePath _ _ _)]
      rw [http_reported_iff]
      simp [hgrpc]
    · cases h

theorem log_reports_iff (endpoint : Option String) :
    (createOtlpLogExporter constructUrl env endpoint).1 =
        (createOtlpLogExporter constructUrl env endpoint).2.usedUrl env .logs ↔
      SameUrl constructUrl (sdkUrl env true .logs none) endpoint := by
  have hrecorded := resolve_http constructUrl env .logs
    (show "http/protobuf" ≠ "grpc" by decide) endpoint
  unfold createOtlpLogExporter OtlpExporter.usedUrl
  simp only [SignalName.endpointKey, SignalName.resourcePath] at hrecorded ⊢
  rw [hrecorded, sdkUrl_eq env .logs true (ensureResourcePath _ _ _), http_reported_iff]

end Reports

/-! ## The exporters that a file declares -/

section Declared

variable (platform : Platform) (env : Env) (signal : SignalName) (exporter : Value)

/-- The projection names the endpoint that the exporter uses. The console has none. -/
def ProjectedAsUsed (built : Exporter) : Prop :=
  match built with
  | .otlpHttp options =>
    ∃ out, projectExporterEndpoint platform.constructUrl env signal exporter = .ok (some out) ∧
      out.otlpHttp = some (sdkUrl env true signal options.url)
  | .otlpGrpc options =>
    ∃ out, projectExporterEndpoint platform.constructUrl env signal exporter = .ok (some out) ∧
      out.otlpGrpc = some (sdkUrl env false signal (optionalText options.url))
  | .console => True

/-- The endpoint over HTTP, where the factory gives it a path. -/
def DeclaredSameUrl (built : Exporter) : Prop :=
  match built, signal.httpResourcePath with
  | .otlpHttp _, some _ =>
    SameUrl platform.constructUrl (sdkUrl env true signal none)
      (optionalText ((exporter.property "otlp_http").property "endpoint"))
  | _, _ => True

variable {platform env signal exporter}

theorem read_eq_ok {value node : Value} {name : String} (h : value.read name = .ok node) :
    isThere value = true ∧ node = value.property name := by
  cases value with
  | undefined => cases h
  | null => cases h
  | _ =>
    cases h
    exact ⟨rfl, rfl⟩

theorem read_of_isThere {value : Value} (h : isThere value = true) (name : String) :
    value.read name = .ok (value.property name) := by
  cases value with
  | undefined => cases h
  | null => cases h
  | _ => rfl

theorem project_http (env : Env) (signal : SignalName) (h : isThere exporter = true)
    (hnode : isThere (exporter.property "otlp_http") = true) (constructUrl : UrlParser) :
    ∃ out, projectExporterEndpoint constructUrl env signal exporter = .ok (some out) ∧
      out.otlpHttp = some (projectedHttpEndpoint constructUrl env signal
        (optionalText ((exporter.property "otlp_http").property "endpoint"))) := by
  have hdefined : exporter.isUndefined = false := by
    simp only [isThere, decide_eq_true_eq] at h
    simpa using h.2
  unfold projectExporterEndpoint
  simp only [hdefined, read_of_isThere h, ok_bind, hnode]
  exact ⟨_, rfl, rfl⟩

theorem project_grpc (env : Env) (signal : SignalName) (h : isThere exporter = true)
    (hnode : isThere (exporter.property "otlp_grpc") = true) (constructUrl : UrlParser) :
    ∃ out, projectExporterEndpoint constructUrl env signal exporter = .ok (some out) ∧
      out.otlpGrpc = some (projectedGrpcEndpoint constructUrl env signal
        (optionalText ((exporter.property "otlp_grpc").property "endpoint"))) := by
  have hdefined : exporter.isUndefined = false := by
    simp only [isThere, decide_eq_true_eq] at h
    simpa using h.2
  unfold projectExporterEndpoint
  simp only [hdefined, read_of_isThere h, ok_bind, hnode, if_true, Option.isSome_some, or_true]
  exact ⟨_, rfl, rfl⟩

theorem toOtlpExporter_eq_ok {resourcePath : String}
    {temporality : Value → Option AggregationTemporalityPreference} {built : Exporter}
    (h : toOtlpExporter platform resourcePath temporality exporter = .ok (some built)) :
    isThere exporter = true ∧
      match built with
      | .otlpHttp options => isThere (exporter.property "otlp_http") = true ∧
        options.url = ensureResourcePath platform.constructUrl
          (optionalText ((exporter.property "otlp_http").property "endpoint")) resourcePath
      | .otlpGrpc options => isThere (exporter.property "otlp_grpc") = true ∧
        options.url = ((exporter.property "otlp_grpc").property "endpoint").orElse .undefined
      | .console => True := by
  unfold toOtlpExporter at h
  obtain ⟨otlpHttp, hhttp, h⟩ := bind_eq_ok.mp h
  obtain ⟨otlpGrpc, hgrpc, h⟩ := bind_eq_ok.mp h
  obtain ⟨console, hconsole, h⟩ := bind_eq_ok.mp h
  obtain ⟨hthere, rfl⟩ := read_eq_ok hhttp
  obtain ⟨-, rfl⟩ := read_eq_ok hgrpc
  refine ⟨hthere, ?_⟩
  split at h
  · obtain ⟨options, hoptions, hbuilt⟩ := bind_eq_ok.mp h
    cases hbuilt
    obtain ⟨headers, hheaders, hoptions⟩ := bind_eq_ok.mp hoptions
    obtain ⟨pairs, -, hoptions⟩ := bind_eq_ok.mp hoptions
    cases hoptions
    exact ⟨(read_eq_ok hheaders).1, rfl⟩
  · split at h
    · obtain ⟨options, hoptions, hbuilt⟩ := bind_eq_ok.mp h
      cases hbuilt
      obtain ⟨headers, hheaders, hoptions⟩ := bind_eq_ok.mp hoptions
      obtain ⟨pairs, -, hoptions⟩ := bind_eq_ok.mp hoptions
      obtain ⟨credentials, -, hoptions⟩ := bind_eq_ok.mp hoptions
      cases hoptions
      exact ⟨(read_eq_ok hheaders).1, rfl⟩
    · split at h
      · cases h
        trivial
      · cases h

theorem toExporter_eq_ok {built : Exporter} (h : toExporter platform exporter = .ok built) :
    isThere exporter = true ∧
      match built with
      | .otlpHttp options => isThere (exporter.property "otlp_http") = true ∧
        options.url = optionalText ((exporter.property "otlp_http").property "endpoint")
      | .otlpGrpc _ => False
      | .console => True := by
  unfold toExporter at h
  obtain ⟨console, hconsole, h⟩ := bind_eq_ok.mp h
  obtain ⟨cxp, hcxp, h⟩ := bind_eq_ok.mp h
  obtain ⟨hthere, rfl⟩ := read_eq_ok hcxp
  refine ⟨hthere, ?_⟩
  split at h
  · cases h
    trivial
  · split at h
    · obtain ⟨endpoint, hendpoint, h⟩ := bind_eq_ok.mp h
      obtain ⟨headers, -, h⟩ := bind_eq_ok.mp h
      cases h
      obtain ⟨hnode, rfl⟩ := read_eq_ok hendpoint
      exact ⟨hnode, rfl⟩
    · cases h

theorem optionalText_orElse (value : Value) :
    optionalText (value.orElse .undefined) = optionalText value := by
  cases value <;> rfl

theorem projectedGrpcEndpoint_eq (constructUrl : UrlParser) (configured : Option String) :
    projectedGrpcEndpoint constructUrl env signal configured =
      sdkUrl env false signal configured := by
  unfold projectedGrpcEndpoint resolvedByEnvironment
  rw [resolve_grpc, sdkUrl_eq env signal false configured]

theorem projectedHttpEndpoint_iff (constructUrl : UrlParser) {resourcePath : String}
    (hpath : signal.httpResourcePath = some resourcePath) (configured : Option String) :
    projectedHttpEndpoint constructUrl env signal configured =
        sdkUrl env true signal (ensureResourcePath constructUrl configured resourcePath) ↔
      SameUrl constructUrl (sdkUrl env true signal none) configured := by
  rw [sdkUrl_eq, ← http_reported_iff constructUrl configured resourcePath]
  unfold projectedHttpEndpoint resolvedByEnvironment
  rw [resolve_none, hpath]
  rfl

theorem declared_reports_iff {resourcePath : String}
    (hpath : signal.httpResourcePath = some resourcePath)
    {temporality : Value → Option AggregationTemporalityPreference} {built : Exporter}
    (h : toOtlpExporter platform resourcePath temporality exporter = .ok (some built)) :
    ProjectedAsUsed platform env signal exporter built ↔
      DeclaredSameUrl platform env signal exporter built := by
  obtain ⟨hthere, hbuilt⟩ := toOtlpExporter_eq_ok h
  cases built with
  | otlpHttp options =>
    obtain ⟨hnode, hurl⟩ := hbuilt
    obtain ⟨out, hout, hendpoint⟩ := project_http env signal hthere hnode
      platform.constructUrl
    unfold ProjectedAsUsed DeclaredSameUrl
    simp only [hout, hpath, Except.ok.injEq, Option.some.injEq, exists_eq_left', hendpoint]
    rw [hurl, projectedHttpEndpoint_iff platform.constructUrl hpath]
  | otlpGrpc options =>
    obtain ⟨hnode, hurl⟩ := hbuilt
    obtain ⟨out, hout, hendpoint⟩ := project_grpc env signal hthere hnode
      platform.constructUrl
    refine iff_of_true ⟨out, hout, ?_⟩ trivial
    rw [hendpoint, projectedGrpcEndpoint_eq, hurl, optionalText_orElse]
  | console => exact Iff.rfl

theorem declared_log_reports {built : Exporter} (h : toExporter platform exporter = .ok built) :
    ProjectedAsUsed platform env .logs exporter built := by
  obtain ⟨hthere, hbuilt⟩ := toExporter_eq_ok h
  cases built with
  | otlpHttp options =>
    obtain ⟨hnode, hurl⟩ := hbuilt
    obtain ⟨out, hout, hendpoint⟩ := project_http env .logs hthere hnode
      platform.constructUrl
    refine ⟨out, hout, ?_⟩
    rw [hendpoint, hurl]
    unfold projectedHttpEndpoint resolvedByEnvironment
    rw [resolve_none, sdkUrl_eq env .logs true (optionalText _)]
    cases optionalText ((exporter.property "otlp_http").property "endpoint") with
    | none => rfl
    | some url => rfl
  | otlpGrpc options => exact absurd hbuilt id
  | console => trivial

end Declared

/-- **The endpoints that are reported.** The endpoint that is recorded for an exporter of the
environment, or projected for one of the config file, is the one that it uses, just when it is a URL
that is used as it is, or one that can be parsed, or the one that comes out without it. -/
theorem reported_endpoint_iff (platform : Platform) (env : Env) :
    (∀ factory ∈ [spanExporterFactory, metricExporterFactory], ∀ options exporter,
      (factory.create platform.constructUrl env options).2 = .ok exporter →
        ((factory.create platform.constructUrl env options).1 =
            exporter.usedUrl env factory.signal ↔
          factoryProtocol env factory options = "grpc" ∨
            SameUrl platform.constructUrl (sdkUrl env true factory.signal none)
              (factoryEndpoint env factory options))) ∧
      (∀ endpoint,
        (createOtlpLogExporter platform.constructUrl env endpoint).1 =
            (createOtlpLogExporter platform.constructUrl env endpoint).2.usedUrl env .logs ↔
          SameUrl platform.constructUrl (sdkUrl env true .logs none) endpoint) ∧
      (∀ exporter built, toSpanExporter platform exporter = .ok (some built) →
        (ProjectedAsUsed platform env .traces exporter built ↔
          DeclaredSameUrl platform env .traces exporter built)) ∧
      (∀ exporter built, toMetricExporter platform exporter = .ok (some built) →
        (ProjectedAsUsed platform env .metrics exporter built ↔
          DeclaredSameUrl platform env .metrics exporter built)) ∧
      ∀ exporter built, toExporter platform exporter = .ok built →
        ProjectedAsUsed platform env .logs exporter built :=
  ⟨fun factory _ options _ h => factory_reports_iff platform.constructUrl env factory options h,
    log_reports_iff platform.constructUrl env,
    fun _ _ h => declared_reports_iff rfl h,
    fun _ _ h => declared_reports_iff rfl h,
    fun _ _ h => declared_log_reports h⟩

/-- A URL parser with one answer. -/
def parsedAs (url : Option WebUrl) : Platform where
  constructUrl _ := url
  readFileSync _ := none
  numberToString _ := ""
  grpc := plainGrpc

theorem collector_reported :
    let options : ExporterOptions := ⟨some "http://collector:4318/v1/traces", none, ""⟩
    let platform := parsedAs (some ⟨"/v1/traces", fun path => "http://collector:4318" ++ path⟩)
    (otlpSpanExporterFactory platform.constructUrl (fun _ => none) options).1 =
      (OtlpExporter.http (some "http://collector:4318/v1/traces") none).usedUrl (fun _ => none)
        .traces := by
  intro options platform
  obtain ⟨hfactories, -⟩ := reported_endpoint_iff platform fun _ => none
  apply (hfactories spanExporterFactory List.mem_cons_self options _ rfl).mpr
  right
  intro url _
  exact Or.inl rfl

/-- A text that is no URL is reported, and the exporter goes to the default. -/
theorem unparsable_endpoint_reported :
    ∃ exporter, (otlpSpanExporterFactory (parsedAs none).constructUrl (fun _ => none)
        ⟨some "not a url", none, ""⟩).2 = .ok exporter ∧
      (otlpSpanExporterFactory (parsedAs none).constructUrl (fun _ => none)
        ⟨some "not a url", none, ""⟩).1 = "not a url" ∧
      exporter.usedUrl (fun _ => none) .traces = "http://localhost:4318/v1/traces" :=
  ⟨_, rfl, rfl, rfl⟩

end SplunkOtel.Configuration
