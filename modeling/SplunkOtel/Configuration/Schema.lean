import SplunkOtel.Js.Access

/-!
# The configuration schema (`schema/opentelemetry_configuration.json`)

The definitions that the pipelines are built from, as predicates. Bounds of numbers, lengths of
lists, enumerations and properties that nothing here reads are left out, so what is proved of the
configs that are valid here holds of those that the schema admits.
-/

namespace SplunkOtel.Configuration.Schema

open Js

/-- A definition of the schema. -/
abbrev Definition := Value → Prop

def text : Definition := fun v => ∃ s, v = .string s

def number : Definition := fun v => ∃ n, v = .number n

def anyObject : Definition := fun v => ∃ properties, v = .object properties

def nullable (schema : Definition) : Definition := fun v => v = .null ∨ schema v

def arrayOf (schema : Definition) : Definition := fun v =>
  ∃ items, v = .array items ∧ ∀ item ∈ items, schema item

/-- An object with its required properties, and with others that may be absent. -/
def record (required optional : List (String × Definition)) : Definition := fun v =>
  anyObject v ∧ (∀ p ∈ required, p.2 (v.property p.1)) ∧
    ∀ p ∈ optional, v.property p.1 = .undefined ∨ p.2 (v.property p.1)

/-- An object with exactly one property. One that is not listed is an object or null. -/
def oneOf (alternatives : List (String × Definition)) : Definition := fun v =>
  ∃ name node, v = .object [(name, node)] ∧ nullable anyObject node ∧
    ∀ p ∈ alternatives, p.1 = name → p.2 node

/-! ## Exporters -/

def NameStringValuePair : Definition := record [("name", text), ("value", nullable text)] []

def tls : Definition := nullable <| record []
  [("ca_file", nullable text), ("key_file", nullable text), ("cert_file", nullable text)]

/-- What the definitions of the OTLP exporters have in common. -/
def otlpExporter : Definition := nullable <| record []
  [("endpoint", nullable text), ("tls", tls), ("headers", arrayOf NameStringValuePair),
    ("compression", nullable text), ("timeout", nullable number),
    ("temporality_preference", nullable text)]

def ConsoleExporter : Definition := nullable anyObject

def SpanExporter : Definition := oneOf
  [("otlp_http", otlpExporter), ("otlp_grpc", otlpExporter), ("console", ConsoleExporter)]

def PushMetricExporter : Definition := SpanExporter

def LogRecordExporter : Definition := SpanExporter

/-! ## Processors and readers -/

def batchProcessor (exporter : Definition) : Definition := record [("exporter", exporter)]
  [("schedule_delay", nullable number), ("export_timeout", nullable number),
    ("max_queue_size", nullable number), ("max_export_batch_size", nullable number)]

def simpleProcessor (exporter : Definition) : Definition := record [("exporter", exporter)] []

def processor (exporter : Definition) : Definition := oneOf
  [("batch", batchProcessor exporter), ("simple", simpleProcessor exporter)]

def PeriodicMetricReader : Definition := record [("exporter", PushMetricExporter)]
  [("interval", nullable number), ("timeout", nullable number)]

def MetricReader : Definition := oneOf [("periodic", PeriodicMetricReader), ("pull", anyObject)]

/-! ## Samplers -/

def TraceIdRatioBasedSampler : Definition := nullable <| record [] [("ratio", nullable number)]

def ParentBasedSampler (sampler : Definition) : Definition := nullable <| record []
  [("root", sampler), ("remote_parent_sampled", sampler), ("remote_parent_not_sampled", sampler),
    ("local_parent_sampled", sampler), ("local_parent_not_sampled", sampler)]

/-- Valid down to a depth: samplers are nested in samplers. -/
def samplerTo : ℕ → Definition
  | 0 => nullable anyObject
  | depth + 1 => oneOf
    [("always_on", nullable anyObject), ("always_off", nullable anyObject),
      ("parent_based", ParentBasedSampler (samplerTo depth)),
      ("trace_id_ratio_based", TraceIdRatioBasedSampler)]

def Sampler : Definition := fun v => ∀ depth, samplerTo depth v

/-! ## Providers -/

def TracerProvider : Definition :=
  record [("processors", arrayOf (processor SpanExporter))] [("sampler", Sampler)]

def MeterProvider : Definition := record [("readers", arrayOf MetricReader)] []

def LoggerProvider : Definition := record [("processors", arrayOf (processor LogRecordExporter))] []

def OpenTelemetryConfiguration : Definition := record [("file_format", text)]
  [("tracer_provider", TracerProvider), ("meter_provider", MeterProvider),
    ("logger_provider", LoggerProvider)]

end SplunkOtel.Configuration.Schema
