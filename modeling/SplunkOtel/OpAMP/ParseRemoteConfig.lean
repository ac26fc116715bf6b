import SplunkOtel.Js.Encoding
import SplunkOtel.Js.Value
import SplunkOtel.OpAMP.Proto

/-!
# Reading a remote configuration (`src/opamp/OpAMPClient.ts`)

`_remoteConfigBody` and `_parseRemoteConfig`. The YAML parser is the parameter `parseYaml`: it gives
a value, or the message of the error that it throws.
-/

open Lib

namespace SplunkOtel.OpAMP

open Js

/-- A feature of `RemoteProfilingConfig` that can have its own interval. -/
structure SampledFeature where
  enabled : Bool
  samplingInterval : Option Number := none
deriving DecidableEq

structure MemoryProfilerFeature where
  enabled : Bool
deriving DecidableEq

structure RemoteProfilingConfig where
  cpuProfiler : SampledFeature
  memoryProfiler : MemoryProfilerFeature
  callgraphs : SampledFeature
deriving DecidableEq

def REMOTE_CONFIG_KEY : String := "splunk.remote.config"

namespace AgentRemoteConfig

/-- `remoteConfig.config?.configMap?.[REMOTE_CONFIG_KEY]`, without `null`. -/
def file (remoteConfig : AgentRemoteConfig) : Option AgentConfigFile :=
  remoteConfig.config.bind fun config => (config.configMap.get? REMOTE_CONFIG_KEY).join

/-- `_remoteConfigBody` -/
def body (remoteConfig : AgentRemoteConfig) : String :=
  match remoteConfig.file with
  | none => ""
  | some file => decodeText file.body

end AgentRemoteConfig

def allOff : RemoteProfilingConfig where
  cpuProfiler := { enabled := false }
  memoryProfiler := { enabled := false }
  callgraphs := { enabled := false }

/-- Only the base type matters, and a file without a content type is taken as it is. -/
def supportedContentType (contentType : String) : Bool :=
  contentType = "" ∨
    startsWith (trim ((split contentType ';').headD "")) "application/yaml"

/-- The flags and intervals of the block `distribution.splunk.profiling`. A key that is there, even
with the value `null`, means that the feature is on. -/
def profilingFeatures (parsed : Value) : RemoteProfilingConfig :=
  let profiling := ((parsed.property "distribution").property "splunk").property "profiling"
  if ¬ profiling.isObject then allOff
  else
    let alwaysOn := profiling.property "always_on"
    let cpuProfiler := alwaysOn.property "cpu_profiler"
    let callgraphs := profiling.property "callgraphs"
    { cpuProfiler :=
        { enabled := ¬ cpuProfiler.isUndefined
          samplingInterval := (cpuProfiler.property "sampling_interval").asNumber }
      memoryProfiler := { enabled := ¬ (alwaysOn.property "memory_profiler").isUndefined }
      callgraphs :=
        { enabled := ¬ callgraphs.isUndefined
          samplingInterval := (callgraphs.property "sampling_interval").asNumber } }

/-- `_parseRemoteConfig`. The error is the message of the exception. -/
def parseRemoteConfig (parseYaml : String → Except String Value)
    (remoteConfig : AgentRemoteConfig) : Except String RemoteProfilingConfig :=
  match remoteConfig.file with
  | none => .ok allOff
  | some file =>
    if ¬ supportedContentType file.contentType then
      .error s!"Unsupported remote config content type: {file.contentType}"
    else
      let body := decodeText file.body
      if trim body = "" then .ok allOff
      else (parseYaml body).map profilingFeatures

end SplunkOtel.OpAMP
