import SplunkOtel.OpAMP.Backoff
import SplunkOtel.OpAMP.ParseRemoteConfig

/-!
# The OpAMP client (`src/opamp/OpAMPClient.ts`)

The client with what the event loop holds for it: armed timers, polls that await the answer to
their message, and calls of `applyRemoteConfig` that have not settled. Times are readings of
`nowNano`. Logging is left out.
-/

open Lib

namespace SplunkOtel.OpAMP

open Js

inductive ConfigType where
  | yaml
  | env
deriving DecidableEq

structure EffectiveConfig where
  type : ConfigType
  name : String
  content : String
deriving DecidableEq

def contentType : ConfigType → String
  | .yaml => "application/yaml; vendor=splunk; v=1.0.0"
  | .env => "text/plain; format=properties; vendor=splunk; v=1.0.0"

/-- The effective config as a message carries it. -/
def EffectiveConfig.toConfigMap (c : EffectiveConfig) : AgentConfigMap where
  configMap := (∅ : OrderedMap String (Option AgentConfigFile)).set c.name
    (some { contentType := contentType c.type, body := encodeText c.content })

structure Timer where
  id : ℕ
  delay : ℚ
deriving DecidableEq

/-- One attempt at a remote config: a call of `applyRemoteConfig` with what it was parsed to, or
the message of the parse error. -/
structure Attempt where
  remoteConfig : AgentRemoteConfig
  parsed : Except String RemoteProfilingConfig

structure OpAMPClient where
  pollingIntervalMs : ℚ
  /-- Whether the options have an `applyRemoteConfig`. -/
  optedIn : Bool
  instanceUid : Bytes
  sequenceNum : ℕ := 0
  backoff : ExponentialBackoff := { baseMs := 1000, maxMs := 60000 }
  pollingTimer : Option ℕ := none
  stopping : Bool := false
  polling : Bool := false
  pollAgainImmediately : Bool := false
  lastSentEffectiveConfig : Option EffectiveConfig := none
  pendingEffectiveConfig : Option EffectiveConfig := none
  currentHealth : ComponentHealth
  agentDescription : Option (List (String × AnyValue)) := none
  lastRemoteConfigHash : Option Bytes := none
  lastHashlessConfig : Option String := none
  applyInFlight : Bool := false
  remoteConfigStatus : Option RemoteConfigStatus := none
  /-- What `getEffectiveConfig` returns at this time. -/
  effectiveConfig : EffectiveConfig
  /-- `start` awaits the attributes of the resource. -/
  starting : Bool := false
  timers : List Timer := []
  nextTimer : ℕ := 0
  /-- The messages of the polls in flight. -/
  polls : List AgentToServer := []
  /-- The hashes of the configs whose apply is in flight. -/
  applies : List (Option Bytes) := []
  attempts : List Attempt := []
  sent : List AgentToServer := []

/-! ## Values in messages -/

mutual
def toAnyValue : Value → AnyValue
  | .string s => .stringValue s
  | .bool b => .boolValue b
  | .number (.finite x) => if x.den = 1 then .intValue x else .doubleValue (.finite x)
  | .number n => .doubleValue n
  | .array values => .arrayValue (toAnyValues values)
  | .undefined => .stringValue "undefined"
  | .null => .stringValue "null"
  | .object _ => .stringValue "[object Object]"
def toAnyValues : List Value → List AnyValue
  | [] => []
  | value :: values => toAnyValue value :: toAnyValues values
end

/-- ReportsStatus, ReportsHealth, ReportsEffectiveConfig and ReportsHeartbeat. -/
def DEFAULT_CAPABILITIES : ℕ := 1 ||| 2048 ||| 4 ||| 8192

/-- AcceptsRemoteConfig and ReportsRemoteConfig. -/
def REMOTE_CONFIG_CAPABILITIES : ℕ := 2 ||| 4096

def AgentRemoteConfig.hashlessBody (remoteConfig : AgentRemoteConfig) :
    Option Bytes → Option String
  | some _ => none
  | none => some remoteConfig.body

namespace OpAMPClient

def new (pollingIntervalMs : ℚ) (optedIn : Bool) (uuid : Bytes) (now : ℕ)
    (effectiveConfig : EffectiveConfig) : OpAMPClient where
  pollingIntervalMs
  optedIn
  instanceUid := uuid
  effectiveConfig
  currentHealth :=
    { healthy := true
      startTimeUnixNano := now
      status := "StatusStarting"
      statusTimeUnixNano := now }

def capabilities (s : OpAMPClient) : ℕ :=
  DEFAULT_CAPABILITIES ||| if s.optedIn then REMOTE_CONFIG_CAPABILITIES else 0

def buildAgentToServerMessage (s : OpAMPClient) : OpAMPClient × AgentToServer :=
  let msg : AgentToServer :=
    { instanceUid := s.instanceUid
      sequenceNum := s.sequenceNum
      capabilities := s.capabilities
      health := some s.currentHealth
      agentDescription := s.agentDescription
      remoteConfigStatus := s.remoteConfigStatus }
  let s := { s with sequenceNum := s.sequenceNum + 1 }
  if some s.effectiveConfig = s.lastSentEffectiveConfig then (s, msg)
  else
    ({ s with pendingEffectiveConfig := some s.effectiveConfig },
      { msg with effectiveConfig := some s.effectiveConfig.toConfigMap })

/-! ## Polling -/

def clearPollingTimer (s : OpAMPClient) : OpAMPClient :=
  { s with
    timers := s.timers.filter (s.pollingTimer ≠ some ·.id)
    pollingTimer := none }

/-- `delayMs` is `none` for a poll after the delay that the backoff gives. -/
def scheduleNextPoll (s : OpAMPClient) (delayMs : Option ℚ) (random : ℚ) : OpAMPClient :=
  if s.stopping then s
  else
    let s := s.clearPollingTimer
    let (backoff, delay) := match delayMs with
      | some delay => (s.backoff, delay)
      | none => s.backoff.nextDelay s.pollingIntervalMs random
    { s with
      backoff
      timers := s.timers ++ [{ id := s.nextTimer, delay }]
      pollingTimer := some s.nextTimer
      nextTimer := s.nextTimer + 1 }

def triggerPoll (s : OpAMPClient) : OpAMPClient :=
  if s.stopping then s
  else if s.polling then { s with pollAgainImmediately := true }
  else s.scheduleNextPoll (some 0) 0

/-- `_poll` up to the answer. -/
def poll (s : OpAMPClient) (now : ℕ) : OpAMPClient :=
  if s.stopping then s
  else
    let s := { s with
      polling := true
      pollAgainImmediately := false
      currentHealth := { s.currentHealth with statusTimeUnixNano := now } }
    let (s, msg) := s.buildAgentToServerMessage
    { s with polls := s.polls ++ [msg], sent := s.sent ++ [msg] }

/-! ## Remote configuration -/

def setRemoteConfigStatus (s : OpAMPClient) (status : RemoteConfigStatuses)
    (lastRemoteConfigHash : Option Bytes) (errorMessage : String) : OpAMPClient :=
  { s with
    remoteConfigStatus := some
      { lastRemoteConfigHash := lastRemoteConfigHash.getD []
        status
        errorMessage } }

def reportRemoteConfigFailure (s : OpAMPClient) (configHash : Option Bytes) (err : String) :
    OpAMPClient :=
  s.setRemoteConfigStatus .FAILED configHash err

/-- The hash that the client goes by, `none` without one, or the error of reading it. -/
def readHash : ConfigHash → Except String (Option Bytes)
  | .absent => .ok none
  | .bytes bytes => .ok (some bytes)
  | .unreadable err => .error err

/-- The config with this hash, or without a hash the one with this body, is the last attempted. -/
def alreadyAttempted (s : OpAMPClient) (configHash : Option Bytes) (hashlessBody : Option String) :
    Bool :=
  match configHash with
  | some hash => s.lastRemoteConfigHash = some hash
  | none => s.lastHashlessConfig = hashlessBody

variable (parseYaml : String → Except String Value)

/-- The attempt at a config that was not seen before, up to the await of `applyRemoteConfig`. -/
def attemptRemoteConfig (s : OpAMPClient) (remoteConfig : AgentRemoteConfig)
    (configHash : Option Bytes) : OpAMPClient :=
  let s := (s.setRemoteConfigStatus .APPLYING configHash "").triggerPoll
  let parsed := parseRemoteConfig parseYaml remoteConfig
  let s := { s with attempts := s.attempts ++ [Attempt.mk remoteConfig parsed] }
  match parsed with
  | .error err =>
    { (s.reportRemoteConfigFailure configHash err).triggerPoll with applyInFlight := false }
  | .ok _ => { s with applies := s.applies ++ [configHash] }

/-- `_handleRemoteConfig`, of a client that is opted in. -/
def handleRemoteConfig (s : OpAMPClient) (remoteConfig : AgentRemoteConfig) : OpAMPClient :=
  if s.stopping then s
  else match readHash remoteConfig.configHash with
    | .error err =>
      let body := remoteConfig.body
      if s.lastHashlessConfig = some body then s
      else
        let s := { s with lastHashlessConfig := some body, lastRemoteConfigHash := none }
        (s.reportRemoteConfigFailure none err).triggerPoll
    | .ok configHash =>
      let hashlessBody := remoteConfig.hashlessBody configHash
      if s.alreadyAttempted configHash hashlessBody then s
      else if s.applyInFlight then s
      else
        let s := { s with
          applyInFlight := true
          lastRemoteConfigHash := configHash
          lastHashlessConfig := hashlessBody }
        s.attemptRemoteConfig parseYaml remoteConfig configHash

/-- The rest of `_handleRemoteConfig`, once `applyRemoteConfig` has settled. -/
def applySettled (s : OpAMPClient) (configHash : Option Bytes) (outcome : Except String Unit) :
    OpAMPClient :=
  let s := match outcome with
    | .ok _ => s.setRemoteConfigStatus .APPLIED configHash ""
    | .error err => s.reportRemoteConfigFailure configHash err
  { s.triggerPoll with applyInFlight := false }

/-! ## Answers -/

def processServerResponse (s : OpAMPClient) (response : ServerToAgent) : OpAMPClient :=
  match response.errorResponse with
  | some err => match err.retryAfterNanoseconds with
    | none => s
    | some n => { s with backoff := s.backoff.setMinDelay ((n : ℚ) / 1000000) }
  | none =>
    let s := { s with backoff := s.backoff.reset }
    let s := if response.reportFullState then { s with lastSentEffectiveConfig := none } else s
    let s := if response.newInstanceUid ≠ [] then { s with instanceUid := response.newInstanceUid }
      else s
    match response.remoteConfig with
    | none => s
    | some remoteConfig =>
      if s.optedIn then s.handleRemoteConfig parseYaml remoteConfig else s

def resetStates (s : OpAMPClient) : OpAMPClient :=
  { s with lastSentEffectiveConfig := none, pendingEffectiveConfig := none }

/-- The answer asks for the full state. An answer that reports an error asks for nothing else. -/
def resets : Option ServerToAgent → Bool
  | none => false
  | some response => response.errorResponse.isNone && response.reportFullState

/-- What the transport gives for a message. The body of an answer is what `ServerToAgent.decode`
makes of it, `none` where it throws. -/
inductive TransportResult where
  | response (statusCode : ℕ) (body : Option ServerToAgent)
  | error

def commitPending (s : OpAMPClient) : OpAMPClient :=
  match s.pendingEffectiveConfig with
  | none => s
  | some c => { s with lastSentEffectiveConfig := some c, pendingEffectiveConfig := none }

/-- The answer inside the `try` block of `_poll`. -/
def handleAnswer (s : OpAMPClient) : TransportResult → OpAMPClient
  | .response 200 body =>
    let s := s.commitPending
    match body with
    | none => s
    | some serverMsg =>
      let s := s.processServerResponse parseYaml serverMsg
      { s with backoff := s.backoff.reset }
  | .response 409 _ => s.resetStates
  | _ => s

/-- `_poll` from the answer on. -/
def pollAnswered (s : OpAMPClient) (result : TransportResult) (random : ℚ) : OpAMPClient :=
  let s := { s.handleAnswer parseYaml result with polling := false }
  s.scheduleNextPoll (if s.pollAgainImmediately then some 0 else none) random

/-! ## Start and stop -/

/-- `start` up to the attributes of the resource. -/
def start (s : OpAMPClient) (now : ℕ) : OpAMPClient :=
  { s with
    stopping := false
    sequenceNum := 0
    currentHealth :=
      { s.currentHealth with healthy := true, status := "StatusOK", statusTimeUnixNano := now }
    starting := true }

def attributesReady (s : OpAMPClient) (attributes : List (String × Value)) (now : ℕ) :
    OpAMPClient :=
  { s with
    agentDescription := some (attributes.map fun (key, value) => (key, toAnyValue value))
    starting := false }.poll now

def sendDisconnect (s : OpAMPClient) : OpAMPClient :=
  let msg : AgentToServer :=
    { instanceUid := s.instanceUid
      sequenceNum := s.sequenceNum
      capabilities := s.capabilities
      agentDisconnect := true }
  { s with sequenceNum := s.sequenceNum + 1, sent := s.sent ++ [msg] }

def stop (s : OpAMPClient) : OpAMPClient :=
  let s := { s with stopping := true }.clearPollingTimer
  { s with pollAgainImmediately := false }.sendDisconnect

/-! ## The event loop -/

inductive Event where
  | attributesReady (attributes : List (String × Value)) (now : ℕ)
  | timerFires (id now : ℕ)
  /-- The answer to the `i`th poll in flight, or the failure of its transport. -/
  | pollDone (i : ℕ) (result : TransportResult) (random : ℚ)
  | applyDone (i : ℕ) (outcome : Except String Unit)
  | effectiveConfigChanges (c : EffectiveConfig)
  | stop

def step (s : OpAMPClient) : Event → Option OpAMPClient
  | .attributesReady attributes now =>
    if s.starting then some (s.attributesReady attributes now) else none
  | .timerFires id now =>
    if s.timers.any (·.id = id) then
      some ({ s with timers := s.timers.filter (·.id ≠ id) }.poll now)
    else none
  | .pollDone i result random =>
    if s.polls[i]?.isSome ∧ 0 ≤ random ∧ random < 1 then
      some ({ s with polls := s.polls.eraseIdx i }.pollAnswered parseYaml result random)
    else none
  | .applyDone i outcome => match s.applies[i]? with
    | none => none
    | some configHash =>
      some ({ s with applies := s.applies.eraseIdx i }.applySettled configHash outcome)
  | .effectiveConfigChanges c => some { s with effectiveConfig := c }
  | .stop => some s.stop

/-! ## What an operation can change

In a poll, triggers leave the timers alone.
-/

theorem triggerPoll_eq (s : OpAMPClient) : ∃ timers pollingTimer nextTimer pollAgainImmediately,
    s.triggerPoll = { s with timers, pollingTimer, nextTimer, pollAgainImmediately } ∧
      (s.polling = true → timers = s.timers) := by
  unfold triggerPoll scheduleNextPoll clearPollingTimer
  split
  · exact ⟨_, _, _, _, rfl, fun _ => rfl⟩
  split
  · exact ⟨_, _, _, _, rfl, fun _ => rfl⟩
  · exact ⟨_, _, _, _, rfl, fun h => absurd h ‹_›⟩

theorem applySettled_eq (s : OpAMPClient) (configHash : Option Bytes)
    (outcome : Except String Unit) :
    ∃ status, status.lastRemoteConfigHash = configHash.getD [] ∧
      s.applySettled configHash outcome =
        { { s with remoteConfigStatus := some status }.triggerPoll with applyInFlight := false } := by
  unfold applySettled
  rcases outcome with err | _
  · exact ⟨_, rfl, rfl⟩
  · exact ⟨_, rfl, rfl⟩

theorem attemptRemoteConfig_eq (s : OpAMPClient) (remoteConfig : AgentRemoteConfig)
    (configHash : Option Bytes) :
    ∃ timers pollingTimer nextTimer pollAgainImmediately remoteConfigStatus applyInFlight applies,
      s.attemptRemoteConfig parseYaml remoteConfig configHash =
        { s with
          timers, pollingTimer, nextTimer, pollAgainImmediately, remoteConfigStatus
          applyInFlight, applies
          attempts := s.attempts ++ [⟨remoteConfig, parseRemoteConfig parseYaml remoteConfig⟩] } ∧
      (s.polling = true → timers = s.timers) ∧
      (applies = s.applies ∧ applyInFlight = false ∨
        applies = s.applies ++ [configHash] ∧ applyInFlight = s.applyInFlight) := by
  unfold attemptRemoteConfig
  obtain ⟨_, _, _, _, happlying, htimers⟩ :=
    triggerPoll_eq (s.setRemoteConfigStatus .APPLYING configHash "")
  simp only [happlying]
  rcases parseRemoteConfig parseYaml remoteConfig with err | parsed
  · simp only
    generalize hs' : reportRemoteConfigFailure _ configHash err = s'
    obtain ⟨_, _, _, _, hfailed, htimers'⟩ := triggerPoll_eq s'
    rw [hfailed]
    rw [← hs'] at htimers' ⊢
    refine ⟨_, _, _, _, _, _, _, rfl, ?_, Or.inl ⟨rfl, rfl⟩⟩
    intro h
    exact (htimers' h).trans (htimers h)
  · exact ⟨_, _, _, _, _, _, _, rfl, htimers, Or.inr ⟨rfl, rfl⟩⟩

theorem handleRemoteConfig_eq (s : OpAMPClient) (remoteConfig : AgentRemoteConfig) :
    ∃ timers pollingTimer nextTimer pollAgainImmediately remoteConfigStatus applyInFlight applies
      attempts lastRemoteConfigHash lastHashlessConfig,
      s.handleRemoteConfig parseYaml remoteConfig =
        { s with
          timers, pollingTimer, nextTimer, pollAgainImmediately, remoteConfigStatus
          applyInFlight, applies, attempts, lastRemoteConfigHash, lastHashlessConfig } ∧
      (s.polling = true → timers = s.timers) := by
  unfold handleRemoteConfig
  split
  · exact ⟨_, _, _, _, _, _, _, _, _, _, rfl, fun _ => rfl⟩
  rcases readHash remoteConfig.configHash with err | configHash
  · simp only
    split
    · exact ⟨_, _, _, _, _, _, _, _, _, _, rfl, fun _ => rfl⟩
    · generalize hs' : reportRemoteConfigFailure _ none err = s'
      obtain ⟨_, _, _, _, hfailed, htimers⟩ := triggerPoll_eq s'
      rw [hfailed]
      rw [← hs'] at htimers ⊢
      exact ⟨_, _, _, _, _, _, _, _, _, _, rfl, htimers⟩
  · simp only
    split
    · exact ⟨_, _, _, _, _, _, _, _, _, _, rfl, fun _ => rfl⟩
    split
    · exact ⟨_, _, _, _, _, _, _, _, _, _, rfl, fun _ => rfl⟩
    · generalize hs' : OpAMPClient.mk .. = s'
      obtain ⟨_, _, _, _, _, _, _, hattempt, htimers, _⟩ :=
        attemptRemoteConfig_eq parseYaml s' remoteConfig configHash
      rw [hattempt]
      rw [← hs'] at htimers ⊢
      exact ⟨_, _, _, _, _, _, _, _, _, _, rfl, htimers⟩

theorem processServerResponse_eq (s : OpAMPClient) (response : ServerToAgent)
    (h : response.errorResponse = none) :
    ∃ backoff instanceUid, s.processServerResponse parseYaml response =
      let s' := { s with
        backoff, instanceUid
        lastSentEffectiveConfig :=
          if response.reportFullState then none else s.lastSentEffectiveConfig }
      match response.remoteConfig with
      | none => s'
      | some remoteConfig =>
        if s.optedIn then s'.handleRemoteConfig parseYaml remoteConfig else s' := by
  unfold processServerResponse
  rw [h]
  by_cases hfull : response.reportFullState = true
  · by_cases huid : response.newInstanceUid = []
    · simp only [hfull, huid, ↓reduceIte, ne_eq, not_true_eq_false]
      exact ⟨_, _, rfl⟩
    · simp only [hfull, huid, ↓reduceIte, ne_eq, not_false_eq_true]
      exact ⟨_, _, rfl⟩
  · by_cases huid : response.newInstanceUid = []
    · simp only [hfull, huid, ↓reduceIte, ne_eq, not_true_eq_false, Bool.false_eq_true]
      exact ⟨_, _, rfl⟩
    · simp only [hfull, huid, ↓reduceIte, ne_eq, not_false_eq_true, Bool.false_eq_true]
      exact ⟨_, _, rfl⟩

theorem processServerResponse_error (s : OpAMPClient) {response : ServerToAgent}
    {err : ServerErrorResponse} (h : response.errorResponse = some err) :
    ∃ backoff, s.processServerResponse parseYaml response = { s with backoff } := by
  unfold processServerResponse
  simp only [h]
  split
  · exact ⟨_, rfl⟩
  · exact ⟨_, rfl⟩

theorem scheduleNextPoll_eq (s : OpAMPClient) (delayMs : Option ℚ) (random : ℚ) :
    ∃ backoff timers pollingTimer nextTimer, s.scheduleNextPoll delayMs random =
      { s with backoff, timers, pollingTimer, nextTimer } := by
  unfold scheduleNextPoll clearPollingTimer
  split
  · exact ⟨_, _, _, _, rfl⟩
  · exact ⟨_, _, _, _, rfl⟩

end OpAMPClient

end SplunkOtel.OpAMP
