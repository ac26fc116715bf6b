import SplunkOtel.Configuration.Fetch
import SplunkOtel.Lib.OrderedMap
import SplunkOtel.Utils.Endpoint

/-!
# Pipelines of a declarative config

The sampler (`src/configuration.ts`), the span processors (`src/tracing/options.ts`), the metric
readers (`src/metrics/index.ts`) and the log record processors (`src/logging/index.ts`). What an SDK
constructor is given stands for what it constructs.
-/

namespace SplunkOtel.Configuration

open Js Lib

/-- The arguments of `createSsl`, in its order. -/
structure SslArguments where
  rootCerts : Option String
  privateKey : Option String
  certChain : Option String
deriving DecidableEq

/-- `@grpc/grpc-js`: what `metadata.set` and `credentials.createSsl` throw, if they do. -/
structure GrpcModule where
  metadataSet : Value → Value → Except Thrown Unit
  createSsl : SslArguments → Except Thrown Unit
  /-- The private key and the certificate chain come together. -/
  paired : ∀ arguments, createSsl arguments = .ok () →
    (arguments.privateKey.isSome ↔ arguments.certChain.isSome)

/-- For fixed runs: header names as in HTTP, values of ASCII, and files that are read as they are. -/
def plainGrpc : GrpcModule where
  metadataSet
    | .string name, .string value =>
      if ¬ (name ≠ "" ∧ name.toList.all fun c => c.isAlphanum || c ∈ ['_', '-', '.']) then
        .error ⟨"Error", "Metadata key \"" ++ name ++ "\" contains illegal characters"⟩
      else if "-bin".toList.isSuffixOf name.toList then
        .error ⟨"Error", "keys that end with '-bin' must have Buffer values"⟩
      else if ¬ value.toList.all fun c => ' ' ≤ c ∧ c ≤ '~' then
        .error ⟨"Error", "Metadata string value \"" ++ value ++ "\" contains illegal characters"⟩
      else .ok ()
    | _, _ => .error ⟨"TypeError", "key.toLowerCase is not a function"⟩
  createSsl arguments :=
    if arguments.privateKey.isSome ∧ ¬ arguments.certChain.isSome then
      .error ⟨"Error", "Private key must be given with accompanying certificate chain"⟩
    else if ¬ arguments.privateKey.isSome ∧ arguments.certChain.isSome then
      .error ⟨"Error", "Certificate chain must be given with accompanying private key"⟩
    else .ok ()
  paired arguments h := by
    cases hkey : arguments.privateKey <;> cases hchain : arguments.certChain <;>
      simp_all

structure Platform where
  constructUrl : UrlParser
  /-- `fs.readFileSync(path)`, `none` when it throws. -/
  readFileSync : String → Option String
  /-- How JavaScript writes a number. -/
  numberToString : Number → String
  grpc : GrpcModule

/-! ## Exporters -/

inductive CompressionAlgorithm where
  | NONE
  | GZIP
deriving DecidableEq

inductive AggregationTemporalityPreference where
  | CUMULATIVE
  | DELTA
  | LOWMEMORY
deriving DecidableEq

/-- The CA, the certificate and the key of a TLS block. -/
structure TlsFiles where
  ca : Option String
  cert : Option String
  key : Option String
deriving DecidableEq

structure OtlpHttpOptions where
  url : Option String
  headers : Option (OrderedMap String Value)
  timeoutMillis : Value
  compression : CompressionAlgorithm
  httpAgentOptions : Option TlsFiles := none
  temporalityPreference : Option AggregationTemporalityPreference := none

structure OtlpGrpcOptions where
  url : Value
  /-- The calls of `metadata.set`. -/
  metadata : List (Value × Value)
  timeoutMillis : Value
  compression : CompressionAlgorithm
  /-- What `createSsl` was given. -/
  credentials : Option SslArguments
  temporalityPreference : Option AggregationTemporalityPreference

inductive Exporter where
  | otlpHttp (options : OtlpHttpOptions)
  | otlpGrpc (options : OtlpGrpcOptions)
  | console

/-- A text that may be left out. -/
def optionalText (value : Value) : Option String :=
  match value with
  | .string s => some s
  | _ => none

def toCompression (key : Value) : CompressionAlgorithm := if key.isString "gzip" then .GZIP else .NONE

def toAggregationTemporalityPreference (preference : Value) :
    Option AggregationTemporalityPreference :=
  if preference.isString "cumulative" then some .CUMULATIVE
  else if preference.isString "delta" then some .DELTA
  else if preference.isString "low_memory" then some .LOWMEMORY
  else none

def readFileContent (env : Platform) (path : Value) : Option String :=
  (optionalText path).bind env.readFileSync

def tlsFiles (env : Platform) (tls : Value) : TlsFiles where
  ca := readFileContent env (tls.property "ca_file")
  cert := readFileContent env (tls.property "cert_file")
  key := readFileContent env (tls.property "key_file")

/-- `none` is a header whose value is null. -/
def headerPair (header : Value) : Except Thrown (Option (Value × Value)) := do
  let value ← header.read "value"
  if value.isNull then return none
  let name ← header.read "name"
  return some (name, value)

/-- The headers that have a value. -/
def headerPairs (headers : Value) : Except Thrown (List (Value × Value)) := do
  let headers ← headers.items
  return (← headers.mapM headerPair).reduceOption

def setMetadata (grpc : GrpcModule) (header : Value) :
    Except Thrown (Option (Value × Value)) := do
  match ← headerPair header with
  | none => return none
  | some (name, value) =>
    grpc.metadataSet name value
    return some (name, value)

def setAllMetadata (grpc : GrpcModule) (headers : Value) : Except Thrown (List (Value × Value)) := do
  let headers ← headers.items
  return (← headers.mapM (setMetadata grpc)).reduceOption

/-- The certificate comes first in the source, and the CA last. -/
def sslArguments (env : Platform) (tls : Value) : SslArguments where
  rootCerts := readFileContent env (tls.property "cert_file")
  privateKey := readFileContent env (tls.property "key_file")
  certChain := readFileContent env (tls.property "ca_file")

def sslCredentials (env : Platform) (tls : Value) : Except Thrown (Option SslArguments) := do
  if tls.isUndefined then return none
  else
    env.grpc.createSsl (sslArguments env tls)
    return some (sslArguments env tls)

def headerRecord (env : Platform) (pairs : List (Value × Value)) : OrderedMap String Value :=
  pairs.foldl (fun record pair => record.set (pair.1.toText env.numberToString) pair.2) ∅

section OtlpExporters

variable (env : Platform) (resourcePath : String)
  (temporality : Value → Option AggregationTemporalityPreference)

def otlpHttpExporter (otlpHttp : Value) : Except Thrown OtlpHttpOptions := do
  let configHeaders := (← otlpHttp.read "headers").or (.array [])
  let headers ← headerPairs configHeaders
  return {
    url := ensureResourcePath env.constructUrl (optionalText (otlpHttp.property "endpoint")) resourcePath
    headers := some (headerRecord env headers)
    timeoutMillis := (otlpHttp.property "timeout").orElse .undefined
    compression := toCompression (otlpHttp.property "compression")
    httpAgentOptions := some (tlsFiles env (otlpHttp.property "tls"))
    temporalityPreference := temporality (otlpHttp.property "temporality_preference") }

def otlpGrpcExporter (cfgGrpc : Value) : Except Thrown OtlpGrpcOptions := do
  let configHeaders := (← cfgGrpc.read "headers").or (.array [])
  let metadata ← setAllMetadata env.grpc configHeaders
  let credentials ← sslCredentials env (cfgGrpc.property "tls")
  return {
    url := (cfgGrpc.property "endpoint").orElse .undefined
    metadata
    timeoutMillis := (cfgGrpc.property "timeout").orElse .undefined
    compression := toCompression (cfgGrpc.property "compression")
    credentials
    temporalityPreference := temporality (cfgGrpc.property "temporality_preference") }

/-- What `toSpanExporter` and `toMetricExporter` have in common. Another exporter is not supported:
there is a warning and `none`. -/
def toOtlpExporter (configExporter : Value) : Except Thrown (Option Exporter) := do
  let otlpHttp ← configExporter.read "otlp_http"
  let otlpGrpc ← configExporter.read "otlp_grpc"
  let console ← configExporter.read "console"
  if ¬ otlpHttp.isUndefined then
    return some (.otlpHttp (← otlpHttpExporter env resourcePath temporality otlpHttp))
  else if ¬ otlpGrpc.isUndefined then
    return some (.otlpGrpc (← otlpGrpcExporter env temporality otlpGrpc))
  else if ¬ console.isUndefined then
    return some .console
  else
    return none

end OtlpExporters

def toSpanExporter (env : Platform) : Value → Except Thrown (Option Exporter) :=
  toOtlpExporter env "/v1/traces" fun _ => none

def toMetricExporter (env : Platform) : Value → Except Thrown (Option Exporter) :=
  toOtlpExporter env "/v1/metrics" toAggregationTemporalityPreference

def nameStringValuePairsToRecord (env : Platform) (pairs : Value) :
    Except Thrown (Option (OrderedMap String Value)) :=
  if pairs.isUndefined then .ok none
  else do return some (headerRecord env (← headerPairs pairs))

def firstKey (value : Value) : String :=
  match value with
  | .object ((name, _) :: _) => name
  | _ => "undefined"

/-- The log exporter, which is OTLP over HTTP or the console. -/
def toExporter (env : Platform) (configExporter : Value) : Except Thrown Exporter := do
  let console ← configExporter.read "console"
  let cxp ← configExporter.read "otlp_http"
  if ¬ console.isUndefined then return .console
  else if ¬ cxp.isUndefined then
    let url := optionalText (← cxp.read "endpoint")
    let headers ← nameStringValuePairsToRecord env (cxp.property "headers")
    return .otlpHttp {
      url
      headers
      timeoutMillis := (cxp.property "timeout").orElse .undefined
      compression := toCompression (cxp.property "compression") }
  else
    .error ⟨"Error", "Unsupported log exporter requested: " ++ firstKey configExporter⟩

/-! ## Processors and readers -/

structure BatchOptions where
  maxExportBatchSize : Value
  scheduledDelayMillis : Value
  exportTimeoutMillis : Value
  maxQueueSize : Value

inductive Processor where
  | batch (exporter : Exporter) (options : BatchOptions)
  | simple (exporter : Exporter)

structure MetricReader where
  exporter : Exporter
  exportIntervalMillis : Value
  exportTimeoutMillis : Value

def batchOptions (batch : Value) : BatchOptions where
  maxExportBatchSize := (batch.property "max_export_batch_size").orElse .undefined
  scheduledDelayMillis := (batch.property "schedule_delay").orElse .undefined
  exportTimeoutMillis := (batch.property "export_timeout").orElse .undefined
  maxQueueSize := (batch.property "max_queue_size").orElse .undefined

/-- What the loops over span and over log record processors have in common. `none` adds nothing. -/
def toProcessor (toExporter : Value → Except Thrown (Option Exporter))
    (simpleExporter : Value → Except Thrown Value) (processor : Value) :
    Except Thrown (Option Processor) := do
  let batch ← processor.read "batch"
  let simple ← processor.read "simple"
  if ¬ batch.isUndefined then
    let exporter ← toExporter (← batch.read "exporter")
    return exporter.map fun exporter => .batch exporter (batchOptions batch)
  else if ¬ simple.isUndefined then
    let exporter ← toExporter (← simpleExporter simple)
    return exporter.map .simple
  else
    return none

/-- `processor.simple?.exporter` -/
def toSpanProcessor (env : Platform) : Value → Except Thrown (Option Processor) :=
  toProcessor (toSpanExporter env) fun simple => .ok (simple.property "exporter")

def toLogRecordProcessor (env : Platform) : Value → Except Thrown (Option Processor) :=
  toProcessor (fun exporter => some <$> toExporter env exporter) (·.read "exporter")

def toMetricReader (env : Platform) (reader : Value) : Except Thrown (Option MetricReader) := do
  let pull ← reader.read "pull"
  let periodicReader ← reader.read "periodic"
  if ¬ pull.isUndefined then return none
  else if ¬ periodicReader.isUndefined then
    let exporter ← toMetricExporter env (← periodicReader.read "exporter")
    return exporter.map fun exporter => {
      exporter
      exportIntervalMillis := (periodicReader.property "interval").orElse .undefined
      exportTimeoutMillis := (periodicReader.property "timeout").orElse .undefined }
  else
    return none

/-- What is built from each element of a list, where there is a provider. -/
def buildEach {α : Type} (provider : Value) (list : String)
    (build : Value → Except Thrown (Option α)) : Except Thrown (Option (List α)) :=
  if provider.isUndefined then .ok none
  else do
    let elements ← (← provider.read list).items
    return some (← elements.mapM build).reduceOption

/-- `none` without a tracer provider: the exporters are then the ones that the environment names. -/
def defaultSpanProcessorFactory (env : Platform) (config : Value) :
    Except Thrown (Option (List Processor)) :=
  buildEach (config.property "tracer_provider") "processors" (toSpanProcessor env)

def defaultMetricReaderFactory (env : Platform) (config : Value) :
    Except Thrown (Option (List MetricReader)) :=
  let cfgMeterProvider := config.property "meter_provider"
  if cfgMeterProvider.isNull then .ok (some [])
  else buildEach cfgMeterProvider "readers" (toMetricReader env)

def defaultLogRecordProcessorFactory (env : Platform) (config : Value) :
    Except Thrown (Option (List Processor)) :=
  buildEach (config.property "logger_provider") "processors" (toLogRecordProcessor env)

/-! ## Samplers -/

inductive BasicSampler where
  | alwaysOn
  | alwaysOff
  | traceIdRatioBased (ratio : Value)

inductive Sampler where
  | basic (sampler : BasicSampler)
  | parentBased (root : BasicSampler) (remoteParentSampled remoteParentNotSampled
      localParentSampled localParentNotSampled : Option BasicSampler)

def traceIdRatioBased (ratioBased : Value) : Except Thrown BasicSampler := do
  return .traceIdRatioBased ((← ratioBased.read "ratio").orElse .undefined)

def makeSampler (sampler : Value) : Except Thrown (Option BasicSampler) :=
  let ratioBased := sampler.property "trace_id_ratio_based"
  if sampler.isNull ∨ sampler.isUndefined then .ok none
  else if ¬ (sampler.property "always_on").isUndefined then .ok (some .alwaysOn)
  else if ¬ (sampler.property "always_off").isUndefined then .ok (some .alwaysOff)
  else if ¬ ratioBased.isUndefined then some <$> traceIdRatioBased ratioBased
  else .ok none

def parentBasedSampler (parentBased : Value) : Except Thrown Sampler := do
  let root ← makeSampler (← parentBased.read "root")
  let remoteParentSampled ← makeSampler (parentBased.property "remote_parent_sampled")
  let remoteParentNotSampled ← makeSampler (parentBased.property "remote_parent_not_sampled")
  let localParentSampled ← makeSampler (parentBased.property "local_parent_sampled")
  let localParentNotSampled ← makeSampler (parentBased.property "local_parent_not_sampled")
  return .parentBased (root.getD .alwaysOn) remoteParentSampled remoteParentNotSampled
    localParentSampled localParentNotSampled

/-- `none` is a sampler that is not supported: the environment names one then. -/
def configGetSampler (config : Value) : Except Thrown (Option Sampler) := do
  let sampler := (config.property "tracer_provider").property "sampler"
  if sampler.isUndefined then return some (.basic .alwaysOn)
  let alwaysOn ← sampler.read "always_on"
  let parentBased := sampler.property "parent_based"
  let ratioBased := sampler.property "trace_id_ratio_based"
  if ¬ alwaysOn.isUndefined then return some (.basic .alwaysOn)
  else if ¬ (sampler.property "always_off").isUndefined then return some (.basic .alwaysOff)
  else if ¬ parentBased.isUndefined then return some (← parentBasedSampler parentBased)
  else if ¬ ratioBased.isUndefined then return some (.basic (← traceIdRatioBased ratioBased))
  else return none

/-! ## All of them -/

structure Pipelines where
  sampler : Option Sampler
  spanProcessors : Option (List Processor)
  metricReaders : Option (List MetricReader)
  logRecordProcessors : Option (List Processor)

def buildPipelines (env : Platform) (config : Value) : Except Thrown Pipelines := do
  return {
    sampler := ← configGetSampler config
    spanProcessors := ← defaultSpanProcessorFactory env config
    metricReaders := ← defaultMetricReaderFactory env config
    logRecordProcessors := ← defaultLogRecordProcessorFactory env config }

end SplunkOtel.Configuration
