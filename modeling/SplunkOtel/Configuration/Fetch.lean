import SplunkOtel.Configuration.Declarative
import SplunkOtel.Instrumentations.Bundled
import SplunkOtel.Js.Access

/-!
# Settings (`src/configuration.ts`)

The setting behind a key comes from the loaded config file, or from the environment when there is
none. A loaded file is an object.
-/

namespace SplunkOtel.Configuration

open Js Instrumentations

def findAttributeValue (attributes : Value) (name : String) : Value :=
  match attributes with
  | .array attributes =>
    match attributes.find? fun attrib => (attrib.property "name").isString name with
    | none => .undefined
    | some attrib => attrib.property "value"
  | _ => .undefined

/-- An entry that is not an object has no settings, just as one that is not there. -/
def getInstrumentationConf (config : Value) (instrumentationName : String) : Value :=
  ((splunkConfig config).property "instrumentations").property instrumentationName

def ifBoolean (value : Value) : Value :=
  match value with
  | .bool b => .bool b
  | _ => .undefined

def ifString (value : Value) : Value :=
  match value with
  | .string s => .string s
  | _ => .undefined

/-- `value !== undefined` -/
def isPresent (value : Value) : Value := .bool (¬ value.isUndefined)

def fetchConfigValue (numberToString : Number → String) (key : EnvVarKey) (config : Value) : Value :=
  let spanLimits := (config.property "tracer_provider").property "limits"
  let logLimits := (config.property "logger_provider").property "limits"
  let profiling := (splunkConfig config).property "profiling"
  let cpuProfiler := (profiling.property "always_on").property "cpu_profiler"
  let opamp := (splunkConfig config).property "opamp"
  match key with
  | .OTEL_ATTRIBUTE_COUNT_LIMIT =>
    (config.property "attribute_limits").property "attribute_count_limit"
  | .OTEL_ATTRIBUTE_VALUE_LENGTH_LIMIT =>
    (config.property "attribute_limits").property "attribute_value_length_limit"
  | .OTEL_EVENT_ATTRIBUTE_COUNT_LIMIT => spanLimits.property "event_attribute_count_limit"
  | .OTEL_LINK_ATTRIBUTE_COUNT_LIMIT => spanLimits.property "link_attribute_count_limit"
  | .OTEL_LOG_LEVEL => config.property "log_level"
  | .OTEL_SERVICE_NAME =>
    findAttributeValue ((config.property "resource").property "attributes") "service.name"
  | .OTEL_SPAN_ATTRIBUTE_COUNT_LIMIT => spanLimits.property "attribute_count_limit"
  | .OTEL_SPAN_ATTRIBUTE_VALUE_LENGTH_LIMIT => spanLimits.property "attribute_value_length_limit"
  | .OTEL_SPAN_EVENT_COUNT_LIMIT => spanLimits.property "event_count_limit"
  | .OTEL_SPAN_LINK_COUNT_LIMIT => spanLimits.property "link_count_limit"
  | .SPLUNK_AUTOINSTRUMENT_PACKAGE_NAMES =>
    match (splunkConfig config).property "package_name_filter" with
    | .array filter => .array (filter.map fun v => .string (v.toText numberToString))
    | _ => .undefined
  | .SPLUNK_AUTOMATIC_LOG_COLLECTION => isPresent (config.property "logger_provider")
  | .SPLUNK_DEBUG_METRICS_ENABLED => (splunkConfig config).property "debug_metrics_enabled"
  | .SPLUNK_INSTRUMENTATION_METRICS_ENABLED => isPresent (config.property "meter_provider")
  | .SPLUNK_METRICS_ENABLED => isPresent (config.property "meter_provider")
  | .OTEL_INSTRUMENTATION_COMMON_DEFAULT_ENABLED =>
    (splunkConfig config).property "use_bundled_instrumentations"
  | .SPLUNK_PROFILER_ENABLED => .bool (cpuProfiler.isNull ∨ cpuProfiler.isObject)
  | .SPLUNK_PROFILER_LOGS_ENDPOINT =>
    ifString (((profiling.property "exporter").property "otlp_log_http").property "endpoint")
  | .SPLUNK_SNAPSHOT_PROFILER_ENABLED => isPresent (profiling.property "callgraphs")
  | .SPLUNK_PROFILER_CALL_STACK_INTERVAL => cpuProfiler.property "sampling_interval"
  | .SPLUNK_CPU_PROFILER_COLLECTION_INTERVAL => cpuProfiler.property "collection_interval"
  | .SPLUNK_PROFILER_MEMORY_ENABLED =>
    isPresent ((profiling.property "always_on").property "memory_profiler")
  | .SPLUNK_SNAPSHOT_PROFILER_SAMPLING_INTERVAL =>
    (profiling.property "callgraphs").property "sampling_interval"
  | .SPLUNK_SNAPSHOT_SELECTION_PROBABILITY =>
    (profiling.property "callgraphs").property "selection_probability"
  | .SPLUNK_SNAPSHOT_SELECTION_RATE =>
    (profiling.property "callgraphs").property "selection_probability"
  | .SPLUNK_REALM => .undefined
  | .SPLUNK_TRACE_RESPONSE_HEADER_ENABLED =>
    ifBoolean ((getInstrumentationConf config "http").property "trace_response_header_enabled")
  | .OTEL_LOGRECORD_ATTRIBUTE_COUNT_LIMIT => logLimits.property "attribute_count_limit"
  | .OTEL_LOGRECORD_ATTRIBUTE_VALUE_LENGTH_LIMIT => logLimits.property "attribute_value_length_limit"
  | .SPLUNK_TRACING_ENABLED => isPresent (config.property "tracer_provider")
  | .SPLUNK_NEXTJS_FIX_ENABLED =>
    .bool ((((splunkConfig config).property "general").property "js").property
      "nextjs_cardinality_reduction").isTrue
  | .SPLUNK_OPAMP_ENABLED => isPresent opamp
  | .SPLUNK_OPAMP_ENDPOINT => opamp.property "endpoint"
  | .SPLUNK_OPAMP_REMOTE_CONFIG => .bool ((opamp.property "features").property "remote_config").isTrue
  | .SPLUNK_ACCESS_TOKEN => .undefined
  | .SPLUNK_RUNTIME_METRICS_ENABLED => isPresent ((splunkConfig config).property "runtime_metrics")
  | .SPLUNK_RUNTIME_METRICS_COLLECTION_INTERVAL =>
    ((splunkConfig config).property "runtime_metrics").property "collection_interval"
  | .SPLUNK_REDIS_INCLUDE_COMMAND_ARGS =>
    ifBoolean ((getInstrumentationConf config "redis").property "include_command_args")
  | .SPLUNK_GRAPHQL_RESOLVE_SPANS_ENABLED =>
    ifBoolean ((getInstrumentationConf config "graphql").property "resolve_spans_enabled")
  | .instrumentation name =>
    let shortName := name.toLower
    match bundledInstrumentations.find? (·.shortName = shortName) with
    | none => .undefined
    | some instr =>
      if ((getInstrumentationConf config shortName).property "disabled").isTrue then .bool false
      else .bool (instr.disabledByDefault ≠ some true)
  | _ => .undefined

/-! ## Typed accessors -/

/-- What the accessors take from the process. -/
structure Settings where
  /-- `none` without a config file. -/
  globalConfiguration : Option Value
  env : Env
  /-- How JavaScript writes a number. -/
  numberToString : Number → String

namespace Settings

variable (settings : Settings)

def getNonEmptyConfigVar (key : EnvVarKey) : Option String :=
  match settings.globalConfiguration with
  | none => getNonEmptyEnvVar settings.env key
  | some config =>
    match fetchConfigValue settings.numberToString key config with
    | .undefined => none
    | value => some (value.toText settings.numberToString)

def getConfigBoolean (key : EnvVarKey) (defaultValue : Bool) : Except Thrown Bool :=
  match settings.globalConfiguration with
  | none => .ok (getEnvBoolean settings.env key defaultValue)
  | some config =>
    match fetchConfigValue settings.numberToString key config with
    | .undefined => .ok defaultValue
    | .bool value => .ok value
    | value => .error ⟨"Error", "Expected bool value, got " ++ value.typeof⟩

/-- The first of the keys that has a value counts. -/
def getConfigNumber (keys : List EnvVarKey) (defaultValue : Number) : Except Thrown Number :=
  match settings.globalConfiguration with
  | none => .ok (getEnvNumber settings.env keys defaultValue)
  | some config =>
    match (keys.map (fetchConfigValue settings.numberToString · config)).find? (¬ ·.isUndefined) with
    | none => .ok defaultValue
    | some (.number value) => .ok value
    | some value => .error ⟨"Error", "Expected number value, got " ++ value.typeof⟩

end Settings

end SplunkOtel.Configuration
