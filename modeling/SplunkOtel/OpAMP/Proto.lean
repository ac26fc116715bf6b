import SplunkOtel.Js.Number
import SplunkOtel.Lib.OrderedMap

/-!
# OpAMP messages (`src/opamp/proto/opamp.js`)

The parts of the messages that the client reads or writes, with the defaults of the prototypes.
A `decode` folds over the fields that the reader finds in a message, in wire order: a field that
is there twice counts the second time, and a field that is not there keeps its default.
-/

open Lib

namespace SplunkOtel.OpAMP

abbrev Bytes := List UInt8

/-! ## Remote configuration -/

structure AgentConfigFile where
  body : Bytes := []
  contentType : String := ""
deriving DecidableEq

inductive AgentConfigFile.Field where
  | body (bytes : Bytes)
  | contentType (text : String)
  | skipped (number : ℕ)

def AgentConfigFile.decode (fields : List AgentConfigFile.Field) : AgentConfigFile :=
  fields.foldl (fun message field => match field with
    | .body bytes => { message with body := bytes }
    | .contentType text => { message with contentType := text }
    | .skipped _ => message) {}

structure AgentConfigMap where
  configMap : OrderedMap String (Option AgentConfigFile) := ∅
deriving DecidableEq

inductive AgentConfigMap.EntryField where
  | key (text : String)
  | value (fields : List AgentConfigFile.Field)
  | skipped (number : ℕ)

/-- The key and value of one entry. An entry without a value gets `null`. -/
def AgentConfigMap.decodeEntry (fields : List AgentConfigMap.EntryField) :
    String × Option AgentConfigFile :=
  fields.foldl (fun entry field => match field with
    | .key text => (text, entry.2)
    | .value fields => (entry.1, some (AgentConfigFile.decode fields))
    | .skipped _ => entry) ("", none)

inductive AgentConfigMap.Field where
  | configMap (entry : List AgentConfigMap.EntryField)
  | skipped (number : ℕ)

def AgentConfigMap.decode (fields : List AgentConfigMap.Field) : AgentConfigMap :=
  fields.foldl (fun message field => match field with
    | .configMap entry =>
      let (key, value) := decodeEntry entry
      { configMap := message.configMap.set key value }
    | .skipped _ => message) {}

/-- A hash as the client may find it in a message: not there, bytes, or a value that
`new Uint8Array` throws on. The decoder makes bytes only. -/
inductive ConfigHash where
  | absent
  | bytes (bytes : Bytes)
  | unreadable (error : String)
deriving DecidableEq

structure AgentRemoteConfig where
  config : Option AgentConfigMap := none
  configHash : ConfigHash := .bytes []

inductive AgentRemoteConfig.Field where
  | config (fields : List AgentConfigMap.Field)
  | configHash (bytes : Bytes)
  | skipped (number : ℕ)

def AgentRemoteConfig.decode (fields : List AgentRemoteConfig.Field) : AgentRemoteConfig :=
  fields.foldl (fun message field => match field with
    | .config fields => { message with config := some (AgentConfigMap.decode fields) }
    | .configHash bytes => { message with configHash := .bytes bytes }
    | .skipped _ => message) {}

inductive RemoteConfigStatuses where
  | UNSET
  | APPLIED
  | APPLYING
  | FAILED
deriving DecidableEq

structure RemoteConfigStatus where
  lastRemoteConfigHash : Bytes
  status : RemoteConfigStatuses
  errorMessage : String
deriving DecidableEq

/-! ## From the server -/

structure ServerErrorResponse where
  /-- `retryInfo.retryAfterNanoseconds`, where there is a `retryInfo`. -/
  retryAfterNanoseconds : Option ℕ := none

structure ServerToAgent where
  errorResponse : Option ServerErrorResponse := none
  remoteConfig : Option AgentRemoteConfig := none
  flags : ℕ := 0
  /-- `agentIdentification.newInstanceUid`, empty without an `agentIdentification`. -/
  newInstanceUid : Bytes := []

/-- `Number(flags) & ServerToAgentFlags_ReportFullState`: the lowest bit of the flags. From 2^53 on
the nearest double is even. -/
def ServerToAgent.reportFullState (response : ServerToAgent) : Bool :=
  response.flags < 2 ^ 53 ∧ response.flags % 2 = 1

/-! ## To the server -/

inductive AnyValue where
  | stringValue (s : String)
  | boolValue (b : Bool)
  | intValue (n : ℚ)
  | doubleValue (n : Js.Number)
  | arrayValue (values : List AnyValue)

structure ComponentHealth where
  healthy : Bool
  startTimeUnixNano : ℕ
  status : String
  statusTimeUnixNano : ℕ
deriving DecidableEq

structure AgentToServer where
  instanceUid : Bytes
  sequenceNum : ℕ
  capabilities : ℕ
  health : Option ComponentHealth := none
  /-- `identifyingAttributes` -/
  agentDescription : Option (List (String × AnyValue)) := none
  remoteConfigStatus : Option RemoteConfigStatus := none
  /-- `effectiveConfig.configMap` -/
  effectiveConfig : Option AgentConfigMap := none
  agentDisconnect : Bool := false

end SplunkOtel.OpAMP
