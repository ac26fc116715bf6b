import SplunkOtel.Configuration.Fetch
import SplunkOtel.Configuration.Schema

/-!
# Null in the place of a setting (`src/configuration.ts`)

What the typed accessors make of a setting that is null where it could be absent.
-/

namespace SplunkOtel.Configuration

open Js Instrumentations

/-! ## Readings -/

/-- What becomes of the value behind a key. -/
inductive Reading where
  /-- The value as it is. -/
  | value
  /-- Whether there is a value. -/
  | presence
  /-- Whether there is a node, also a bare one. -/
  | node
  | boolean
  | string
  | flag
  | texts
  | serviceName
  | disabled (shortName : String)
  | nothing

namespace Reading

def apply (numberToString : Number → String) (reading : Reading) (found : Value) : Value :=
  match reading with
  | value => found
  | presence => isPresent found
  | node => .bool (found.isNull ∨ found.isObject)
  | boolean => ifBoolean found
  | string => ifString found
  | flag => .bool found.isTrue
  | texts =>
    match found with
    | .array filter => .array (filter.map fun v => .string (v.toText numberToString))
    | _ => .undefined
  | serviceName => findAttributeValue found "service.name"
  | disabled shortName =>
    match bundledInstrumentations.find? (·.shortName = shortName) with
    | none => .undefined
    | some instr =>
      if found.isTrue then .bool false else .bool (instr.disabledByDefault ≠ some true)
  | nothing => .undefined

/-- The value is asked for its type before it is used. -/
def typeTested : Reading → Bool
  | value => false
  | presence => false
  | node => false
  | _ => true

end Reading

/-- Where a key is looked up in the config file, and what becomes of the value there. -/
def reading (key : EnvVarKey) : List String × Reading :=
  let spanLimits := ["tracer_provider", "limits"]
  let logLimits := ["logger_provider", "limits"]
  let splunk := ["distribution", "splunk"]
  let cpuProfiler := splunk ++ ["profiling", "always_on", "cpu_profiler"]
  let callgraphs := splunk ++ ["profiling", "callgraphs"]
  match key with
  | .OTEL_ATTRIBUTE_COUNT_LIMIT => (["attribute_limits", "attribute_count_limit"], .value)
  | .OTEL_ATTRIBUTE_VALUE_LENGTH_LIMIT =>
    (["attribute_limits", "attribute_value_length_limit"], .value)
  | .OTEL_EVENT_ATTRIBUTE_COUNT_LIMIT => (spanLimits ++ ["event_attribute_count_limit"], .value)
  | .OTEL_LINK_ATTRIBUTE_COUNT_LIMIT => (spanLimits ++ ["link_attribute_count_limit"], .value)
  | .OTEL_LOG_LEVEL => (["log_level"], .value)
  | .OTEL_SERVICE_NAME => (["resource", "attributes"], .serviceName)
  | .OTEL_SPAN_ATTRIBUTE_COUNT_LIMIT => (spanLimits ++ ["attribute_count_limit"], .value)
  | .OTEL_SPAN_ATTRIBUTE_VALUE_LENGTH_LIMIT =>
    (spanLimits ++ ["attribute_value_length_limit"], .value)
  | .OTEL_SPAN_EVENT_COUNT_LIMIT => (spanLimits ++ ["event_count_limit"], .value)
  | .OTEL_SPAN_LINK_COUNT_LIMIT => (spanLimits ++ ["link_count_limit"], .value)
  | .SPLUNK_AUTOINSTRUMENT_PACKAGE_NAMES => (splunk ++ ["package_name_filter"], .texts)
  | .SPLUNK_AUTOMATIC_LOG_COLLECTION => (["logger_provider"], .presence)
  | .SPLUNK_DEBUG_METRICS_ENABLED => (splunk ++ ["debug_metrics_enabled"], .value)
  | .SPLUNK_INSTRUMENTATION_METRICS_ENABLED => (["meter_provider"], .presence)
  | .SPLUNK_METRICS_ENABLED => (["meter_provider"], .presence)
  | .OTEL_INSTRUMENTATION_COMMON_DEFAULT_ENABLED =>
    (splunk ++ ["use_bundled_instrumentations"], .value)
  | .SPLUNK_PROFILER_ENABLED => (cpuProfiler, .node)
  | .SPLUNK_PROFILER_LOGS_ENDPOINT =>
    (splunk ++ ["profiling", "exporter", "otlp_log_http", "endpoint"], .string)
  | .SPLUNK_SNAPSHOT_PROFILER_ENABLED => (callgraphs, .presence)
  | .SPLUNK_PROFILER_CALL_STACK_INTERVAL => (cpuProfiler ++ ["sampling_interval"], .value)
  | .SPLUNK_CPU_PROFILER_COLLECTION_INTERVAL => (cpuProfiler ++ ["collection_interval"], .value)
  | .SPLUNK_PROFILER_MEMORY_ENABLED =>
    (splunk ++ ["profiling", "always_on", "memory_profiler"], .presence)
  | .SPLUNK_SNAPSHOT_PROFILER_SAMPLING_INTERVAL => (callgraphs ++ ["sampling_interval"], .value)
  | .SPLUNK_SNAPSHOT_SELECTION_PROBABILITY => (callgraphs ++ ["selection_probability"], .value)
  | .SPLUNK_SNAPSHOT_SELECTION_RATE => (callgraphs ++ ["selection_probability"], .value)
  | .SPLUNK_TRACE_RESPONSE_HEADER_ENABLED =>
    (splunk ++ ["instrumentations", "http", "trace_response_header_enabled"], .boolean)
  | .OTEL_LOGRECORD_ATTRIBUTE_COUNT_LIMIT => (logLimits ++ ["attribute_count_limit"], .value)
  | .OTEL_LOGRECORD_ATTRIBUTE_VALUE_LENGTH_LIMIT =>
    (logLimits ++ ["attribute_value_length_limit"], .value)
  | .SPLUNK_TRACING_ENABLED => (["tracer_provider"], .presence)
  | .SPLUNK_NEXTJS_FIX_ENABLED =>
    (splunk ++ ["general", "js", "nextjs_cardinality_reduction"], .flag)
  | .SPLUNK_OPAMP_ENABLED => (splunk ++ ["opamp"], .presence)
  | .SPLUNK_OPAMP_ENDPOINT => (splunk ++ ["opamp", "endpoint"], .value)
  | .SPLUNK_OPAMP_REMOTE_CONFIG => (splunk ++ ["opamp", "features", "remote_config"], .flag)
  | .SPLUNK_RUNTIME_METRICS_ENABLED => (splunk ++ ["runtime_metrics"], .presence)
  | .SPLUNK_RUNTIME_METRICS_COLLECTION_INTERVAL =>
    (splunk ++ ["runtime_metrics", "collection_interval"], .value)
  | .SPLUNK_REDIS_INCLUDE_COMMAND_ARGS =>
    (splunk ++ ["instrumentations", "redis", "include_command_args"], .boolean)
  | .SPLUNK_GRAPHQL_RESOLVE_SPANS_ENABLED =>
    (splunk ++ ["instrumentations", "graphql", "resolve_spans_enabled"], .boolean)
  | .instrumentation name =>
    (splunk ++ ["instrumentations", name.toLower, "disabled"], .disabled name.toLower)
  | _ => ([], .nothing)

theorem fetchConfigValue_eq (numberToString : Number → String) (key : EnvVarKey) (config : Value) :
    fetchConfigValue numberToString key config =
      (reading key).2.apply numberToString (config.path (reading key).1) := by
  cases key <;> rfl

/-! ## Null at a path -/

/-- The property is set. The last property of a name counts. -/
def withProperty (value : Value) (name : String) (child : Value) : Value :=
  match value with
  | .object properties => .object (properties ++ [(name, child)])
  | value => value

/-- The config with null at the path. -/
def withNull : List String → Value → Value
  | [], _ => .null
  | name :: path, config => withProperty config name (withNull path (config.property name))

/-- The object that the path ends in is there, and has no property there. -/
def AbsentAt : List String → Value → Prop
  | [], _ => False
  | [name], config => Schema.anyObject config ∧ config.property name = .undefined
  | name :: path, config => Schema.anyObject config ∧ AbsentAt path (config.property name)

/-- Equal, or objects both. -/
def Alike (a b : Value) : Prop := a = b ∨ Schema.anyObject a ∧ Schema.anyObject b

theorem property_withProperty {value : Value} (h : Schema.anyObject value) (name : String)
    (child : Value) (other : String) :
    (withProperty value name child).property other =
      if other = name then child else value.property other := by
  obtain ⟨properties, rfl⟩ := h
  unfold withProperty Value.property
  simp only [List.reverse_append, List.reverse_singleton, List.singleton_append, List.find?_cons]
  by_cases hname : other = name
  · simp [hname]
  · simp [hname, Ne.symm hname]

theorem withProperty_object {value : Value} (h : Schema.anyObject value) (name : String)
    (child : Value) : Schema.anyObject (withProperty value name child) := by
  obtain ⟨properties, rfl⟩ := h
  exact ⟨_, rfl⟩

theorem AbsentAt.object {path : List String} {config : Value} (h : AbsentAt path config) :
    Schema.anyObject config := by
  match path, h with
  | [_], h => exact h.1
  | _ :: _ :: _, h => exact h.1

theorem path_undefined (path : List String) : Value.undefined.path path = .undefined := by
  unfold Value.path
  induction path with
  | nil => rfl
  | cons name path ih => exact ih

theorem path_null {path : List String} (h : path ≠ []) : Value.null.path path = .undefined := by
  cases path with
  | nil => exact absurd rfl h
  | cons name path => exact path_undefined path

theorem path_cons (config : Value) (name : String) (path : List String) :
    config.path (name :: path) = (config.property name).path path := rfl

theorem path_withNull {path : List String} {config : Value} (h : AbsentAt path config)
    (other : List String) :
    other = path ∧ config.path other = .undefined ∧ (withNull path config).path other = .null ∨
      other ≠ path ∧ Alike (config.path other) ((withNull path config).path other) := by
  induction path generalizing config other with
  | nil => exact absurd h id
  | cons name path ih =>
    have hobject := h.object
    have hread := property_withProperty hobject name (withNull path (config.property name))
    cases other with
    | nil => exact Or.inr ⟨by simp, Or.inr ⟨hobject, withProperty_object hobject _ _⟩⟩
    | cons key rest =>
      rw [path_cons, path_cons, withNull, hread]
      by_cases hkey : key = name
      · subst hkey
        rw [if_pos rfl]
        cases path with
        | nil =>
          rw [h.2, path_undefined]
          cases rest with
          | nil => exact Or.inl ⟨rfl, rfl, rfl⟩
          | cons next rest =>
            refine Or.inr ⟨by simp, Or.inl ?_⟩
            rw [withNull, path_null (by simp)]
        | cons next path =>
          rcases ih h.2 rest with ⟨heq, hbefore, hafter⟩ | ⟨hne, halike⟩
          · exact Or.inl ⟨by rw [heq], hbefore, hafter⟩
          · exact Or.inr ⟨by simpa using hne, halike⟩
      · rw [if_neg hkey]
        exact Or.inr ⟨by simp [hkey], Or.inl rfl⟩

/-! ## What the accessors answer -/

/-- Every accessor answers the same for every key. -/
structure SameAnswers (a b : Settings) : Prop where
  text : ∀ key, a.getNonEmptyConfigVar key = b.getNonEmptyConfigVar key
  boolean : ∀ key defaultValue, a.getConfigBoolean key defaultValue = b.getConfigBoolean key defaultValue
  number : ∀ keys defaultValue, a.getConfigNumber keys defaultValue = b.getConfigNumber keys defaultValue

/-- Every key that is looked up at the path asks for the type of what it finds. -/
def TypeTestedAt (path : List String) : Prop :=
  ∀ key, (reading key).1 = path → (reading key).2.typeTested = true

section Answers

variable (numberToString : Number → String)

theorem apply_alike (reading : Reading) {a b : Value} (h : Alike a b) :
    Alike (reading.apply numberToString a) (reading.apply numberToString b) := by
  rcases h with rfl | ⟨ha, hb⟩
  · exact Or.inl rfl
  · obtain ⟨properties, rfl⟩ := ha
    obtain ⟨properties', rfl⟩ := hb
    cases reading with
    | value => exact Or.inr ⟨⟨_, rfl⟩, ⟨_, rfl⟩⟩
    | _ => exact Or.inl rfl

theorem apply_typeTested {reading : Reading} (h : reading.typeTested = true) :
    reading.apply numberToString .undefined = reading.apply numberToString .null := by
  cases reading with
  | value => cases h
  | presence => cases h
  | node => cases h
  | _ => rfl

theorem fetchConfigValue_alike {path : List String} {config : Value} (h : AbsentAt path config)
    (htested : TypeTestedAt path) (key : EnvVarKey) :
    Alike (fetchConfigValue numberToString key config)
      (fetchConfigValue numberToString key (withNull path config)) := by
  rw [fetchConfigValue_eq, fetchConfigValue_eq]
  rcases path_withNull h (reading key).1 with ⟨hpath, hbefore, hafter⟩ | ⟨-, halike⟩
  · rw [hbefore, hafter]
    exact Or.inl (apply_typeTested numberToString (htested key hpath))
  · exact apply_alike numberToString _ halike

variable {config config' : Value}

theorem find_alike {α : Type} {f g : α → Value} (h : ∀ x, Alike (f x) (g x)) (xs : List α) :
    (xs.map f).find? (¬ ·.isUndefined) = none ∧ (xs.map g).find? (¬ ·.isUndefined) = none ∨
      ∃ v w, (xs.map f).find? (¬ ·.isUndefined) = some v ∧
        (xs.map g).find? (¬ ·.isUndefined) = some w ∧ Alike v w := by
  induction xs with
  | nil => exact Or.inl ⟨rfl, rfl⟩
  | cons x xs ih =>
    have hsame : (f x).isUndefined = (g x).isUndefined := by
      rcases h x with heq | ⟨⟨_, hf⟩, ⟨_, hg⟩⟩
      · rw [heq]
      · rw [hf, hg]
        rfl
    rw [List.map_cons, List.map_cons, List.find?_cons, List.find?_cons, ← hsame]
    cases hundefined : (f x).isUndefined with
    | true => simpa using ih
    | false => exact Or.inr ⟨f x, g x, by simp, by simp, h x⟩

theorem sameAnswers_of_alike (env : Env)
    (h : ∀ key, Alike (fetchConfigValue numberToString key config)
      (fetchConfigValue numberToString key config')) :
    SameAnswers ⟨some config, env, numberToString⟩ ⟨some config', env, numberToString⟩ := by
  constructor
  · intro key
    simp only [Settings.getNonEmptyConfigVar]
    rcases h key with heq | ⟨⟨_, hf⟩, ⟨_, hg⟩⟩
    · rw [heq]
    · rw [hf, hg]
      rfl
  · intro key defaultValue
    simp only [Settings.getConfigBoolean]
    rcases h key with heq | ⟨⟨_, hf⟩, ⟨_, hg⟩⟩
    · rw [heq]
    · rw [hf, hg]
      rfl
  · intro keys defaultValue
    simp only [Settings.getConfigNumber]
    rcases find_alike h keys with ⟨hf, hg⟩ | ⟨v, w, hf, hg, heq | ⟨⟨_, hv⟩, ⟨_, hw⟩⟩⟩
    · rw [hf, hg]
    · rw [hf, hg, heq]
    · rw [hf, hg, hv, hw]
      rfl

theorem text_changes {path : List String} (h : AbsentAt path config) (env : Env) (key : EnvVarKey)
    (hpath : (reading key).1 = path) (huntested : (reading key).2.typeTested = false) :
    (⟨some config, env, numberToString⟩ : Settings).getNonEmptyConfigVar key ≠
      (⟨some (withNull path config), env, numberToString⟩ : Settings).getNonEmptyConfigVar key := by
  simp only [Settings.getNonEmptyConfigVar]
  rw [fetchConfigValue_eq, fetchConfigValue_eq]
  rcases path_withNull h (reading key).1 with ⟨-, hbefore, hafter⟩ | ⟨hne, -⟩
  · rw [hbefore, hafter]
    cases hreading : (reading key).2 with
    | value => simp [Reading.apply]
    | presence => simp [Reading.apply, isPresent, Value.isUndefined, Value.toText]
    | node => simp [Reading.apply, Value.isNull, Value.isObject, Value.toText]
    | _ => simp [hreading, Reading.typeTested] at huntested
  · exact absurd hpath hne

/-- **Null in the place of an absent setting.** The answers stay the same just when every key that
is looked up there asks for the type of what it finds. -/
theorem null_is_absent_iff (env : Env) {path : List String} (h : AbsentAt path config) :
    SameAnswers ⟨some config, env, numberToString⟩ ⟨some (withNull path config), env, numberToString⟩ ↔
      TypeTestedAt path := by
  constructor
  · intro hsame key hpath
    by_contra huntested
    exact text_changes numberToString h env key hpath (Bool.eq_false_iff.mpr huntested) (hsame.text key)
  · intro htested
    exact sameAnswers_of_alike numberToString env (fetchConfigValue_alike numberToString h htested)

end Answers

theorem null_command_args_ignored :
    let redis := .object [("distribution", .object [("splunk",
      .object [("instrumentations", .object [("redis", .object [])])])])]
    let path := ["distribution", "splunk", "instrumentations", "redis", "include_command_args"]
    SameAnswers ⟨some redis, fun _ => none, fun _ => ""⟩
      ⟨some (withNull path redis), fun _ => none, fun _ => ""⟩ := by
  intro redis path
  have habsent : AbsentAt path redis := ⟨⟨_, rfl⟩, ⟨_, rfl⟩, ⟨_, rfl⟩, ⟨_, rfl⟩, ⟨_, rfl⟩, rfl⟩
  apply (null_is_absent_iff (fun _ => "") (fun _ => none) habsent).mpr
  intro key hpath
  cases key with
  | SPLUNK_REDIS_INCLUDE_COMMAND_ARGS => rfl
  | «instrumentation» name => rfl
  | _ => exact absurd hpath (by decide)

def emptyLimits : Value :=
  .object [("file_format", .string "1.0"), ("attribute_limits", .object [])]

/-- A null limit becomes a text, in configs that the schema admits. -/
theorem null_limit_is_read :
    Schema.OpenTelemetryConfiguration emptyLimits ∧
      Schema.OpenTelemetryConfiguration
        (withNull ["attribute_limits", "attribute_count_limit"] emptyLimits) ∧
      AbsentAt ["attribute_limits", "attribute_count_limit"] emptyLimits ∧
      ¬ SameAnswers ⟨some emptyLimits, fun _ => none, fun _ => ""⟩
        ⟨some (withNull ["attribute_limits", "attribute_count_limit"] emptyLimits), fun _ => none,
          fun _ => ""⟩ := by
  have habsent : AbsentAt ["attribute_limits", "attribute_count_limit"] emptyLimits :=
    ⟨⟨_, rfl⟩, ⟨_, rfl⟩, rfl⟩
  refine ⟨?_, ?_, habsent, ?_⟩
  · refine ⟨⟨_, rfl⟩, ?_, ?_⟩
    · simp [emptyLimits, Value.property, Schema.text]
    · simp [emptyLimits, Value.property]
  · refine ⟨⟨_, rfl⟩, ?_, ?_⟩
    · simp [withNull, withProperty, emptyLimits, Value.property, Schema.text]
    · simp [withNull, withProperty, emptyLimits, Value.property]
  · intro hsame
    exact text_changes (fun _ => "") habsent (fun _ => none) .OTEL_ATTRIBUTE_COUNT_LIMIT rfl rfl
      (hsame.text _)

end SplunkOtel.Configuration
