import SplunkOtel.Configuration.ExporterEndpoints
import SplunkOtel.Lib.Distinct

/-!
# The exporters that the environment names

The lists `OTEL_TRACES_EXPORTER`, `OTEL_METRICS_EXPORTER` and `OTEL_LOGS_EXPORTER`, and what is built
from them where the config file has no provider (`src/tracing/options.ts`, `src/metrics/index.ts`,
`src/logging/index.ts`).
-/

open Lib Lib.Distinct SplunkOtel.Js

namespace SplunkOtel.Configuration

def SignalName.exporterKey : SignalName → EnvVarKey
  | traces => .OTEL_TRACES_EXPORTER
  | metrics => .OTEL_METRICS_EXPORTER
  | logs => .OTEL_LOGS_EXPORTER

namespace FromEnvironment

inductive Exporter where
  | console
  | otlp (exporter : OtlpExporter)

def Exporter.type : Exporter → String
  | console => "console"
  | otlp _ => "otlp"

/-- The same for all signals. -/
def SUPPORTED_EXPORTER_TYPES : List String := ["console", "otlp", "none"]

def areValidExporterTypes (types : List String) : Bool := types.all (· ∈ SUPPORTED_EXPORTER_TYPES)

/-- `inspected` is what `util.inspect` makes of the value. -/
def invalidExporterTypes (key inspected : String) : Thrown :=
  ⟨"Error", "Invalid value for " ++ key ++ " env variable: " ++ inspected ++
    ". Choose from [ 'console', 'otlp', 'none' ] or leave undefined."⟩

/-- The exporters of each type, one after the other. -/
def createEach (create : String → Except Thrown (List Exporter)) (types : List String) :
    Except Thrown (List Exporter) := do
  return (← types.mapM create).flatten

/-- One exporter for the type, where it is a type that has one. -/
def createOne (otlp : Except Thrown OtlpExporter) (type : String) : Except Thrown (List Exporter) :=
  if type = "otlp" then do return [.otlp (← otlp)]
  else if type = "console" then .ok [.console]
  else .ok []

section

variable (settings : Settings) (inspect : Value → String) (constructUrl : UrlParser)

/-! ## Traces -/

def containsSupportedRealmExporter (exporterTypes : List String) : Bool := "otlp" ∈ exporterTypes

def getExporterTypes (realm : Option String) : Except Thrown (List String) :=
  let traceExporters := (getEnvArray settings.env .OTEL_TRACES_EXPORTER).getD ["otlp"]
  if (realm.filter (· ≠ "")).isSome ∧ ¬ containsSupportedRealmExporter traceExporters then
    .error ⟨"Error", "Setting the Splunk realm with an explicit OTEL_TRACES_EXPORTER requires " ++
      "OTEL_TRACES_EXPORTER to be either otlp or be left undefined"⟩
  else if ¬ areValidExporterTypes traceExporters then
    .error (invalidExporterTypes "OTEL_TRACES_EXPORTER"
      (inspect (((settings.env .OTEL_TRACES_EXPORTER).map Value.string).getD .undefined)))
  else .ok traceExporters

def defaultSpanExporterFactory (realm : Option String) :
    Except Thrown (ExporterOptions → Except Thrown (List Exporter)) := do
  let exporterTypes ← getExporterTypes settings inspect realm
  return fun options =>
    createEach (createOne (otlpSpanExporterFactory constructUrl settings.env options).2)
      exporterTypes

inductive SpanProcessor where
  | nextJs
  | batch (exporter : Exporter)

def SpanProcessor.exporter : SpanProcessor → Option Exporter
  | nextJs => none
  | batch exporter => some exporter

def defaultSpanProcessorFactory (options : ExporterOptions) :
    Except Thrown (List SpanProcessor) := do
  let spanExporterFactory ← defaultSpanExporterFactory settings inspect constructUrl options.realm
  let nextJsFixEnabled ← settings.getConfigBoolean .SPLUNK_NEXTJS_FIX_ENABLED false
  let exporters ← spanExporterFactory options
  return (if nextJsFixEnabled then [.nextJs] else []) ++ exporters.map .batch

/-! ## Metrics -/

/-- `createExporters` of `src/metrics/index.ts`. -/
def createMetricExporters (options : ExporterOptions) : Except Thrown (List Exporter) :=
  let metricExporters := (getEnvArray settings.env .OTEL_METRICS_EXPORTER).getD ["otlp"]
  if ¬ areValidExporterTypes metricExporters then
    .error (invalidExporterTypes "OTEL_METRICS_EXPORTER" (inspect
      (((getNonEmptyEnvVar settings.env .OTEL_METRICS_EXPORTER).map Value.string).getD .undefined)))
  else
    createEach (createOne (createOtlpExporter constructUrl settings.env options).2) metricExporters

structure PeriodicExportingMetricReader where
  exportIntervalMillis : Number
  exporter : Exporter

def defaultMetricReaderFactory (exportIntervalMillis : Number) (options : ExporterOptions) :
    Except Thrown (List PeriodicExportingMetricReader) := do
  return (← createMetricExporters settings inspect constructUrl options).map fun exporter =>
    { exportIntervalMillis, exporter }

/-! ## Logs -/

/-- `createExporters` of `src/logging/index.ts`. -/
def createLogExporters (options : ExporterOptions) : Except Thrown (List Exporter) :=
  let logExporters := (getEnvArray settings.env .OTEL_LOGS_EXPORTER).getD ["otlp"]
  if ¬ areValidExporterTypes logExporters then
    .error (invalidExporterTypes "OTEL_LOGS_EXPORTER"
      (inspect (.array (logExporters.map Value.string))))
  else
    createEach
      (createOne (.ok (createOtlpLogExporter constructUrl settings.env options.endpoint).2))
      logExporters

structure BatchLogRecordProcessor where
  exporter : Exporter

def defaultLogRecordProcessorFactory (options : ExporterOptions) :
    Except Thrown (List BatchLogRecordProcessor) := do
  return (← createLogExporters settings inspect constructUrl options).map fun exporter =>
    { exporter }

/-! ## Each of them once -/

/-- The exporters of a signal, each with its processor or reader. -/
def signalExporters (exportIntervalMillis : Number) (options : ExporterOptions) :
    SignalName → Except Thrown (List Exporter)
  | .traces => do
    return (← defaultSpanProcessorFactory settings inspect constructUrl options).filterMap
      SpanProcessor.exporter
  | .metrics => do
    return (← defaultMetricReaderFactory settings inspect constructUrl exportIntervalMillis
      options).map (·.exporter)
  | .logs => do
    return (← defaultLogRecordProcessorFactory settings inspect constructUrl options).map
      (·.exporter)

end

/-- Of a list that is not blank. -/
def NamesEachOnce (env : Env) (key : EnvVarKey) : Prop :=
  ∀ raw, env key = some raw → trim raw ≠ "" →
    ∃ entries, getEnvArray env key = some entries ∧
      EachOnce ((split raw ',').map trim) entries

def OneOfEachType (exporters : List Exporter) : Prop := (exporters.map Exporter.type).Nodup

/-- No two entries differ only in the white space around them. -/
def TrimsApart (env : Env) (key : EnvVarKey) : Prop :=
  ∀ raw, env key = some raw →
    ∀ a ∈ split (trim raw) ',', ∀ b ∈ split (trim raw) ',', trim a = trim b → a = b

theorem getEnvArray_of_not_blank {env : Env} {key : EnvVarKey} {raw : String}
    (hraw : env key = some raw) (hblank : trim raw ≠ "") :
    getEnvArray env key = some ((split (trim raw) ',').eraseDups.map trim) := by
  unfold getEnvArray getNonEmptyEnvVar deduplicate
  simp [hraw, hblank]

theorem names_each_once_iff (env : Env) (key : EnvVarKey) :
    NamesEachOnce env key ↔ TrimsApart env key := by
  have hcomma : isWhiteSpace ',' = false := by decide
  unfold NamesEachOnce TrimsApart
  refine forall₂_congr fun raw hraw => ?_
  by_cases hblank : trim raw = ""
  · refine iff_of_true (fun h => absurd hblank h) ?_
    rw [hblank, split_of_not_mem (by simp)]
    simp
  · rw [getEnvArray_of_not_blank hraw hblank, ← trimmed_split_trim hcomma raw]
    simp only [ne_eq, hblank, not_false_eq_true, forall_const, Option.some.injEq, exists_eq_left']
    exact eachOnce_map_iff (eachOnce_eraseDups _)

theorem createOne_types {otlp : Except Thrown OtlpExporter} {type : String}
    {exporters : List Exporter} (h : createOne otlp type = .ok exporters) :
    (exporters.map Exporter.type).Sublist [type] := by
  unfold createOne at h
  split at h
  · rename_i htype
    obtain ⟨exporter, -, hexporters⟩ := bind_eq_ok.mp h
    cases hexporters
    rw [htype]
    exact List.Sublist.refl _
  · split at h
    · rename_i htype
      cases h
      rw [htype]
      exact List.Sublist.refl _
    · cases h
      exact List.nil_sublist _

theorem createEach_types {create : String → Except Thrown (List Exporter)}
    (hcreate : ∀ type exporters, create type = .ok exporters →
      (exporters.map Exporter.type).Sublist [type])
    (types : List String) {exporters : List Exporter} (h : createEach create types = .ok exporters) :
    (exporters.map Exporter.type).Sublist types := by
  induction types generalizing exporters with
  | nil =>
    cases h
    exact List.nil_sublist _
  | cons type types ih =>
    unfold createEach at h ih
    rw [List.mapM_cons] at h
    obtain ⟨lists, hlists, hexporters⟩ := bind_eq_ok.mp h
    obtain ⟨first, hfirst, hothers⟩ := bind_eq_ok.mp hlists
    obtain ⟨rest, hrest, hlist⟩ := bind_eq_ok.mp hothers
    cases hlist
    cases hexporters
    have htail : (rest.flatten.map Exporter.type).Sublist types := by
      apply ih
      rw [hrest]
      rfl
    rw [List.flatten_cons, List.map_append, ← List.singleton_append]
    exact (hcreate type first hfirst).append htail

section

variable {settings : Settings} {inspect : Value → String} {constructUrl : UrlParser}
  {options : ExporterOptions}

theorem getExporterTypes_eq_ok {realm : Option String} {types : List String}
    (h : getExporterTypes settings inspect realm = .ok types) :
    types = (getEnvArray settings.env .OTEL_TRACES_EXPORTER).getD ["otlp"] := by
  unfold getExporterTypes at h
  simp only at h
  split at h
  · cases h
  · split at h
    · cases h
    · cases h
      rfl

theorem spanExporters_types {processors : List SpanProcessor}
    (h : defaultSpanProcessorFactory settings inspect constructUrl options = .ok processors) :
    ((processors.filterMap SpanProcessor.exporter).map Exporter.type).Sublist
      ((getEnvArray settings.env .OTEL_TRACES_EXPORTER).getD ["otlp"]) := by
  obtain ⟨factory, hfactory, h⟩ := bind_eq_ok.mp h
  obtain ⟨nextJsFixEnabled, -, h⟩ := bind_eq_ok.mp h
  obtain ⟨exporters, hexporters, h⟩ := bind_eq_ok.mp h
  obtain ⟨types, htypes, hlater⟩ := bind_eq_ok.mp hfactory
  cases h
  cases hlater
  rw [← getExporterTypes_eq_ok htypes]
  have hnames : ((if nextJsFixEnabled = true then [SpanProcessor.nextJs] else []) ++
      exporters.map SpanProcessor.batch).filterMap SpanProcessor.exporter = exporters := by
    have hbatch : (exporters.map SpanProcessor.batch).filterMap SpanProcessor.exporter =
        exporters := by
      rw [List.filterMap_map]
      exact List.filterMap_some
    rw [List.filterMap_append, hbatch]
    cases nextJsFixEnabled with
    | false => rfl
    | true => rfl
  rw [hnames]
  exact createEach_types (fun _ _ => createOne_types) types hexporters

theorem metricExporters_types {exporters : List Exporter}
    (h : createMetricExporters settings inspect constructUrl options = .ok exporters) :
    (exporters.map Exporter.type).Sublist
      ((getEnvArray settings.env .OTEL_METRICS_EXPORTER).getD ["otlp"]) := by
  unfold createMetricExporters at h
  simp only at h
  split at h
  · cases h
  · exact createEach_types (fun _ _ => createOne_types) _ h

theorem logExporters_types {exporters : List Exporter}
    (h : createLogExporters settings inspect constructUrl options = .ok exporters) :
    (exporters.map Exporter.type).Sublist
      ((getEnvArray settings.env .OTEL_LOGS_EXPORTER).getD ["otlp"]) := by
  unfold createLogExporters at h
  simp only at h
  split at h
  · cases h
  · exact createEach_types (fun _ _ => createOne_types) _ h

theorem signalExporters_types {exportIntervalMillis : Number} {signal : SignalName}
    {exporters : List Exporter}
    (h : signalExporters settings inspect constructUrl exportIntervalMillis options signal =
      .ok exporters) :
    (exporters.map Exporter.type).Sublist
      ((getEnvArray settings.env signal.exporterKey).getD ["otlp"]) := by
  cases signal with
  | traces =>
    obtain ⟨processors, hprocessors, h⟩ := bind_eq_ok.mp h
    cases h
    exact spanExporters_types hprocessors
  | metrics =>
    obtain ⟨readers, hreaders, h⟩ := bind_eq_ok.mp h
    obtain ⟨created, hcreated, hwrap⟩ := bind_eq_ok.mp hreaders
    cases hwrap
    cases h
    rw [List.map_map, List.map_map]
    exact metricExporters_types hcreated
  | logs =>
    obtain ⟨processors, hprocessors, h⟩ := bind_eq_ok.mp h
    obtain ⟨created, hcreated, hwrap⟩ := bind_eq_ok.mp hprocessors
    cases hwrap
    cases h
    rw [List.map_map, List.map_map]
    exact logExporters_types hcreated

end

theorem nodup_of_trimsApart {env : Env} {key : EnvVarKey} (h : TrimsApart env key) :
    ((getEnvArray env key).getD ["otlp"]).Nodup := by
  cases hvalue : getNonEmptyEnvVar env key with
  | none =>
    rw [getEnvArray, hvalue]
    exact List.nodup_singleton _
  | some value =>
    unfold getNonEmptyEnvVar at hvalue
    obtain ⟨hsome, hblank⟩ := Option.filter_eq_some_iff.mp hvalue
    obtain ⟨raw, hraw, rfl⟩ := Option.map_eq_some_iff.mp hsome
    obtain ⟨entries, hentries, honce⟩ :=
      (names_each_once_iff env key).mpr h raw hraw (by simpa using hblank)
    rw [hentries]
    exact honce.nodup

/-- **Each exporter once.** The list has each trimmed entry once, and each type of exporter is built
once at most, just when no two entries differ only in the white space around them. -/
theorem exporters_once_iff (settings : Settings) (inspect : Value → String)
    (constructUrl : UrlParser) (exportIntervalMillis : Number) (options : ExporterOptions)
    (signal : SignalName) :
    (NamesEachOnce settings.env signal.exporterKey ∧
        ∀ exporters, signalExporters settings inspect constructUrl exportIntervalMillis options
          signal = .ok exporters → OneOfEachType exporters) ↔
      TrimsApart settings.env signal.exporterKey := by
  constructor
  · rintro ⟨hnames, -⟩
    exact (names_each_once_iff _ _).mp hnames
  · intro hapart
    refine ⟨(names_each_once_iff _ _).mpr hapart, fun exporters hexporters => ?_⟩
    exact (nodup_of_trimsApart hapart).sublist (signalExporters_types hexporters)

def spacedList : Settings where
  globalConfiguration := none
  env key := if key = .OTEL_TRACES_EXPORTER then some "otlp, otlp" else none
  numberToString _ := ""

/-- The space after the comma brings the exporter twice. -/
theorem spaced_exporter_twice :
    getEnvArray spacedList.env .OTEL_TRACES_EXPORTER = some ["otlp", "otlp"] ∧
      ¬ NamesEachOnce spacedList.env .OTEL_TRACES_EXPORTER ∧
        ∃ exporters, signalExporters spacedList (fun _ => "") (fun _ => none) .nan
          ⟨none, none, ""⟩ .traces = .ok exporters ∧
            exporters.map Exporter.type = ["otlp", "otlp"] := by
  have harray : getEnvArray spacedList.env .OTEL_TRACES_EXPORTER = some ["otlp", "otlp"] := by
    decide +kernel
  refine ⟨harray, fun h => ?_, ?_⟩
  · obtain ⟨entries, hentries, honce⟩ := h "otlp, otlp" rfl (by decide +kernel)
    cases harray.symm.trans hentries
    exact absurd honce.nodup (by decide)
  · refine ⟨_, rfl, ?_⟩
    decide +kernel

end FromEnvironment

end SplunkOtel.Configuration
