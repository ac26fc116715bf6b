import SplunkOtel.Js.Number

/-!
# The effective state holder (`src/opamp/effective-state.ts`)

A module-level record that each component patches with what it ended up with. A field that nothing
has reported yet is `none`.
-/

namespace SplunkOtel

open Js

/-- `Partial<EffectiveState>`. An endpoint can be reported as `null`, hence the second option. -/
structure EffectiveState where
  tracingEnabled : Option Bool := none
  metricsEnabled : Option Bool := none
  loggingEnabled : Option Bool := none
  tracesEndpoint : Option (Option String) := none
  metricsEndpoint : Option (Option String) := none
  logsEndpoint : Option (Option String) := none
  profilerEnabled : Option Bool := none
  memoryProfilerEnabled : Option Bool := none
  callStackInterval : Option Number := none
  snapshotProfilerEnabled : Option Bool := none
  snapshotSamplingInterval : Option Number := none
deriving DecidableEq

/-- `{ ...state, ...patch }`: a field of the patch wins where it is there. -/
def recordEffectiveState (state patch : EffectiveState) : EffectiveState where
  tracingEnabled := patch.tracingEnabled <|> state.tracingEnabled
  metricsEnabled := patch.metricsEnabled <|> state.metricsEnabled
  loggingEnabled := patch.loggingEnabled <|> state.loggingEnabled
  tracesEndpoint := patch.tracesEndpoint <|> state.tracesEndpoint
  metricsEndpoint := patch.metricsEndpoint <|> state.metricsEndpoint
  logsEndpoint := patch.logsEndpoint <|> state.logsEndpoint
  profilerEnabled := patch.profilerEnabled <|> state.profilerEnabled
  memoryProfilerEnabled := patch.memoryProfilerEnabled <|> state.memoryProfilerEnabled
  callStackInterval := patch.callStackInterval <|> state.callStackInterval
  snapshotProfilerEnabled := patch.snapshotProfilerEnabled <|> state.snapshotProfilerEnabled
  snapshotSamplingInterval := patch.snapshotSamplingInterval <|> state.snapshotSamplingInterval

end SplunkOtel
