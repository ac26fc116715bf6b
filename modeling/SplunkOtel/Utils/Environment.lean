import SplunkOtel.Js.Number

/-!
# Environment variables (`src/types.ts`, `src/utils.ts`)
-/

namespace SplunkOtel

open Js

inductive EnvVarKey where
  | OTEL_ATTRIBUTE_COUNT_LIMIT
  | OTEL_ATTRIBUTE_VALUE_LENGTH_LIMIT
  | OTEL_CONFIG_FILE
  | OTEL_EVENT_ATTRIBUTE_COUNT_LIMIT
  | OTEL_EXPERIMENTAL_CONFIG_FILE
  | OTEL_EXPORTER_OTLP_ENDPOINT
  | OTEL_EXPORTER_OTLP_LOGS_ENDPOINT
  | OTEL_EXPORTER_OTLP_METRICS_ENDPOINT
  | OTEL_EXPORTER_OTLP_METRICS_PROTOCOL
  | OTEL_EXPORTER_OTLP_PROTOCOL
  | OTEL_EXPORTER_OTLP_TRACES_ENDPOINT
  | OTEL_EXPORTER_OTLP_TRACES_PROTOCOL
  | OTEL_INSTRUMENTATION_COMMON_DEFAULT_ENABLED
  | OTEL_LINK_ATTRIBUTE_COUNT_LIMIT
  | OTEL_LOG_LEVEL
  | OTEL_LOGS_EXPORTER
  | OTEL_LOGRECORD_ATTRIBUTE_COUNT_LIMIT
  | OTEL_LOGRECORD_ATTRIBUTE_VALUE_LENGTH_LIMIT
  | OTEL_METRIC_EXPORT_INTERVAL
  | OTEL_METRICS_EXPORTER
  | OTEL_SERVICE_NAME
  | OTEL_SPAN_ATTRIBUTE_COUNT_LIMIT
  | OTEL_SPAN_ATTRIBUTE_VALUE_LENGTH_LIMIT
  | OTEL_SPAN_EVENT_COUNT_LIMIT
  | OTEL_SPAN_LINK_COUNT_LIMIT
  | OTEL_TRACES_EXPORTER
  | OTEL_TRACES_SAMPLER
  | OTEL_TRACES_SAMPLER_ARG
  | SPLUNK_ACCESS_TOKEN
  | SPLUNK_AUTOINSTRUMENT_PACKAGE_NAMES
  | SPLUNK_AUTOMATIC_LOG_COLLECTION
  | SPLUNK_DEBUG_METRICS_ENABLED
  | SPLUNK_DB_TRACE_CONTEXT_PROPAGATION_ENABLED
  | SPLUNK_GRAPHQL_RESOLVE_SPANS_ENABLED
  | SPLUNK_INSTRUMENTATION_METRICS_ENABLED
  | SPLUNK_METRICS_ENABLED
  | SPLUNK_NEXTJS_FIX_ENABLED
  | SPLUNK_OPAMP_ENABLED
  | SPLUNK_OPAMP_ENDPOINT
  | SPLUNK_OPAMP_POLLING_INTERVAL
  | SPLUNK_OPAMP_REMOTE_CONFIG
  | SPLUNK_PROFILER_CALL_STACK_INTERVAL
  | SPLUNK_PROFILER_ENABLED
  | SPLUNK_PROFILER_LOGS_ENDPOINT
  | SPLUNK_CPU_PROFILER_COLLECTION_INTERVAL
  | SPLUNK_PROFILER_MEMORY_ENABLED
  | SPLUNK_REALM
  | SPLUNK_REDIS_INCLUDE_COMMAND_ARGS
  | SPLUNK_RUNTIME_METRICS_COLLECTION_INTERVAL
  | SPLUNK_RUNTIME_METRICS_ENABLED
  | SPLUNK_SECUREAPP_AGENT_ENABLED
  | SPLUNK_SECUREAPP_DEPENDENCY_INITIAL_DELAY
  | SPLUNK_SECUREAPP_DEPENDENCY_SCAN_INTERVAL
  | SPLUNK_SECUREAPP_NO_SELF_REPORT
  | SPLUNK_SECUREAPP_RUNTIME_PACKAGES_ONLY
  | SPLUNK_SNAPSHOT_PROFILER_ENABLED
  | SPLUNK_SNAPSHOT_PROFILER_SAMPLING_INTERVAL
  | SPLUNK_SNAPSHOT_SAMPLING_INTERVAL
  | SPLUNK_SNAPSHOT_SELECTION_PROBABILITY
  | SPLUNK_SNAPSHOT_SELECTION_RATE
  | SPLUNK_TRACE_RESPONSE_HEADER_ENABLED
  | SPLUNK_TRACING_ENABLED
  /-- `OTEL_INSTRUMENTATION_<name>_ENABLED` -/
  | instrumentation (name : String)
deriving DecidableEq

/-- `process.env` -/
abbrev Env := EnvVarKey → Option String

/-- A blank variable counts as one that is not set. -/
def getNonEmptyEnvVar (env : Env) (key : EnvVarKey) : Option String :=
  ((env key).map trim).filter (· ≠ "")

def getEnvValueByPrecedence (env : Env) (keys : List EnvVarKey) : Option String :=
  keys.findSome? (getNonEmptyEnvVar env)

/-- Lower case of ASCII decides the same: no other letter has one of these in lower case. -/
def getEnvBoolean (env : Env) (key : EnvVarKey) (defaultValue : Bool) : Bool :=
  match getNonEmptyEnvVar env key with
  | none => defaultValue
  | some value => (trim value).toLower ∉ ["false", "no", "0"]

/-- What a variable says, where it is set. -/
def envChoice (env : Env) (key : EnvVarKey) : Option Bool :=
  (getNonEmptyEnvVar env key).map fun value => (trim value).toLower ∉ ["false", "no", "0"]

theorem getEnvBoolean_eq (env : Env) (key : EnvVarKey) (defaultValue : Bool) :
    getEnvBoolean env key defaultValue = (envChoice env key).getD defaultValue := by
  unfold getEnvBoolean envChoice
  cases getNonEmptyEnvVar env key with
  | none => rfl
  | some value => rfl

def getEnvNumber (env : Env) (keys : List EnvVarKey) (defaultValue : Number) : Number :=
  match getEnvValueByPrecedence env keys with
  | none => defaultValue
  | some value =>
    match parseFloat value with
    | .nan => defaultValue
    | numberValue => numberValue

/-- `[...new Set(arr)]` -/
def deduplicate (arr : List String) : List String := arr.eraseDups

def getEnvArray (env : Env) (key : EnvVarKey) : Option (List String) :=
  (getNonEmptyEnvVar env key).map fun value => (deduplicate (split value ',')).map trim

end SplunkOtel
