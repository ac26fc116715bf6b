import SplunkOtel.Configuration.Resource

/-!
# The service name of the signals

The resource that `_setDefaultOptions` builds in `src/tracing/options.ts`, `src/metrics/index.ts`,
`src/logging/index.ts` and `src/profiling/index.ts`.
-/

open Lib SplunkOtel.Js SplunkOtel.Configuration

namespace SplunkOtel.Start

/-- What a process brings along. -/
structure Detected (sdk : ResourceSdk) where
  /-- `getDetectedResource()` -/
  envResource : sdk.Resource
  /-- The name in `package.json`. -/
  packageName : Option String

structure ResourceOptions (sdk : ResourceSdk) where
  serviceName : Option String := none
  resourceFactory : Option (sdk.Resource → sdk.Resource) := none

section Signals

variable (sdk : ResourceSdk) (settings : Settings) (detected : Detected sdk)
  (options : ResourceOptions sdk)

def optional (text : Option String) : Value :=
  match text with
  | none => .undefined
  | some s => .string s

def findAttribute (resource : sdk.Resource) (key : String) : Value :=
  ((sdk.getRawAttributes resource).lookup key).getD .undefined

def defaultServiceName (packageName : Option String) : Value :=
  (optional packageName).or (.string "unnamed-node-service")

/-- The first of the names that is not empty, where `resource` is asked before the default. -/
def serviceName (resource : sdk.Resource) : String :=
  let configured := optional (settings.getNonEmptyConfigVar .OTEL_SERVICE_NAME)
  let found := findAttribute sdk resource "service.name"
  ((optional options.serviceName).or
    (configured.or (found.or (defaultServiceName detected.packageName)))).toText
      settings.numberToString

/-- The detected resource with the one of the config file. -/
def configuredResource : Except Thrown sdk.Resource := do
  let configResource ←
    configGetResource sdk settings.numberToString settings.globalConfiguration
  return (options.resourceFactory.getD id) (sdk.merge detected.envResource configResource)

def withServiceName (resource : sdk.Resource) (name : String) : sdk.Resource :=
  sdk.merge resource (sdk.resourceFromAttributes (OrderedMap.ofEntries [("service.name", .string name)]))

/-- Tracing looks for the name in the resource with the one of the config file. -/
def tracingResource : Except Thrown sdk.Resource := do
  let resource ← configuredResource sdk settings detected options
  return withServiceName sdk resource (serviceName sdk settings detected options resource)

/-- The other signals look for it in the detected resource. -/
def detectedNameResource : Except Thrown sdk.Resource := do
  let name := serviceName sdk settings detected options detected.envResource
  let resource ← configuredResource sdk settings detected options
  return withServiceName sdk resource name

def metricsResource : Except Thrown sdk.Resource := detectedNameResource sdk settings detected options

def loggingResource : Except Thrown sdk.Resource := detectedNameResource sdk settings detected options

def profilingResource : Except Thrown sdk.Resource :=
  detectedNameResource sdk settings detected options

/-- `resource.attributes['service.name']` -/
def nameOf (resource : Except Thrown sdk.Resource) : Except Thrown Value :=
  (sdk.attributes · "service.name") <$> resource

/-- The four resources have one service name. -/
def SameServiceName : Prop :=
  nameOf sdk (tracingResource sdk settings detected options) =
      nameOf sdk (metricsResource sdk settings detected options) ∧
    nameOf sdk (metricsResource sdk settings detected options) =
      nameOf sdk (loggingResource sdk settings detected options) ∧
    nameOf sdk (loggingResource sdk settings detected options) =
      nameOf sdk (profilingResource sdk settings detected options)

/-! ## When the names agree -/

/-- The name that a found one gives, or the default without it. -/
def nameFrom (found : Value) : String :=
  (found.or (defaultServiceName detected.packageName)).toText settings.numberToString

/-- The setting has a name, or the config file has none, or it is the one that comes out without
the file. -/
def NamedAlike : Prop :=
  (optional (settings.getNonEmptyConfigVar .OTEL_SERVICE_NAME)).truthy = true ∨
    ∀ value ∈ configuredAttribute settings.numberToString settings.globalConfiguration
      "service.name",
      nameFrom sdk settings detected value =
        nameFrom sdk settings detected (findAttribute sdk detected.envResource "service.name")

/-- The resource of the config file can be read. -/
def ResourceReadable : Prop :=
  ∃ resource, configGetResource sdk settings.numberToString settings.globalConfiguration =
    .ok resource

theorem attributes_withServiceName (resource : sdk.Resource) (name : String) :
    sdk.attributes (withServiceName sdk resource name) "service.name" = .string name := by
  apply sdk.attributes_merge
  rw [lookup_fromAttributes]
  rfl

theorem nameOf_ok {resource : sdk.Resource} (name : String) :
    nameOf sdk (.ok (withServiceName sdk resource name)) = .ok (.string name) :=
  congrArg Except.ok (attributes_withServiceName sdk resource name)

theorem serviceName_configured (resource : sdk.Resource)
    (h : (optional (settings.getNonEmptyConfigVar .OTEL_SERVICE_NAME)).truthy = true) :
    serviceName sdk settings detected {} resource =
      (optional (settings.getNonEmptyConfigVar .OTEL_SERVICE_NAME)).toText
        settings.numberToString := by
  have hnone : (optional (none : Option String)).truthy = false := rfl
  simp only [serviceName]
  rw [Value.or_of_falsy hnone, Value.or_of_truthy h]

theorem serviceName_found (resource : sdk.Resource)
    (h : (optional (settings.getNonEmptyConfigVar .OTEL_SERVICE_NAME)).truthy = false) :
    serviceName sdk settings detected {} resource =
      nameFrom sdk settings detected (findAttribute sdk resource "service.name") := by
  have hnone : (optional (none : Option String)).truthy = false := rfl
  simp only [serviceName, nameFrom]
  rw [Value.or_of_falsy hnone, Value.or_of_falsy h]

theorem findAttribute_merge {configResource : sdk.Resource}
    (h : configGetResource sdk settings.numberToString settings.globalConfiguration =
      .ok configResource) :
    findAttribute sdk (sdk.merge detected.envResource configResource) "service.name" =
      (configuredAttribute settings.numberToString settings.globalConfiguration
        "service.name").getD (findAttribute sdk detected.envResource "service.name") := by
  unfold findAttribute
  rw [sdk.lookup_merge, lookup_configGetResource sdk _ h (by decide) (by decide)]
  cases configuredAttribute settings.numberToString settings.globalConfiguration "service.name" with
  | none => rfl
  | some value => rfl

theorem serviceName_eq_iff {configResource : sdk.Resource}
    (h : configGetResource sdk settings.numberToString settings.globalConfiguration =
      .ok configResource) :
    serviceName sdk settings detected {} (sdk.merge detected.envResource configResource) =
        serviceName sdk settings detected {} detected.envResource ↔
      NamedAlike sdk settings detected := by
  unfold NamedAlike
  cases hvar : (optional (settings.getNonEmptyConfigVar .OTEL_SERVICE_NAME)).truthy with
  | true =>
    rw [serviceName_configured sdk settings detected _ hvar,
      serviceName_configured sdk settings detected _ hvar]
    simp
  | false =>
    rw [serviceName_found sdk settings detected _ hvar,
      serviceName_found sdk settings detected _ hvar, findAttribute_merge sdk settings detected h]
    cases configuredAttribute settings.numberToString settings.globalConfiguration
      "service.name" with
    | none => simp
    | some value => simp

theorem nameOf_signals {configResource : sdk.Resource}
    (h : configGetResource sdk settings.numberToString settings.globalConfiguration =
      .ok configResource) :
    nameOf sdk (tracingResource sdk settings detected {}) =
        .ok (.string (serviceName sdk settings detected {}
          (sdk.merge detected.envResource configResource))) ∧
      nameOf sdk (detectedNameResource sdk settings detected {}) =
        .ok (.string (serviceName sdk settings detected {} detected.envResource)) := by
  have hresource : configuredResource sdk settings detected {} =
      .ok (sdk.merge detected.envResource configResource) := by
    unfold configuredResource
    rw [h]
    rfl
  unfold tracingResource detectedNameResource
  rw [hresource]
  exact ⟨nameOf_ok sdk _, nameOf_ok sdk _⟩

/-- **One service name.** Without options the resources of the four signals have one service name
just when the setting has a name, or the config file has none in its resource, or has the one that
comes out without it. -/
theorem service_names_agree_iff :
    SameServiceName sdk settings detected {} ↔
      (ResourceReadable sdk settings → NamedAlike sdk settings detected) := by
  unfold SameServiceName ResourceReadable metricsResource loggingResource profilingResource
  simp only [and_true]
  cases hconfig : configGetResource sdk settings.numberToString settings.globalConfiguration with
  | error e =>
    unfold tracingResource detectedNameResource configuredResource
    rw [hconfig]
    refine iff_of_true rfl ?_
    rintro ⟨resource, h⟩
    cases h
  | ok configResource =>
    obtain ⟨htracing, hothers⟩ := nameOf_signals sdk settings detected hconfig
    rw [htracing, hothers, ← serviceName_eq_iff sdk settings detected hconfig, Except.ok.injEq,
      Value.string.injEq]
    exact ⟨fun h _ => h, fun h => h ⟨_, rfl⟩⟩

end Signals

/-- The attributes list of the config file names the service. -/
def listedName : Settings where
  globalConfiguration :=
    some (.object [("resource", .object [("attributes_list", .string "service.name=shop")])])
  env _ := none
  numberToString _ := ""

theorem listed_name_only_traced :
    ¬ SameServiceName listResources listedName ⟨[], none⟩ {} := by
  rintro ⟨h, -⟩
  have hnames : Value.string "shop" = Value.string "unnamed-node-service" := Except.ok.inj h
  exact absurd (Value.string.inj hnames) (by decide)

end SplunkOtel.Start
