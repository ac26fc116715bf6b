import SplunkOtel.Http.NoThrow
import SplunkOtel.Http.OutgoingAttributes
import SplunkOtel.Lib.Run

/-!
# The span of a request (`src/instrumentations/httpdc/httpdc.ts`)

What belongs to a request is kept on the server response or on the client request under a symbol,
until one of the handlers closes the span. Times are in milliseconds.
-/

open Lib Lib.Run SplunkOtel.Js

namespace SplunkOtel.Http

structure HttpDcInstrumentationConfig extends InstrumentationConfig where
  ignoreOutgoingRequestHook : Option (ClientRequest → Option Bool)
  startOutgoingSpanHook : Option (ClientRequest → Option Attributes)
  redactedQueryParams : Option (List String)

structure SpanDetails where
  startTime : ℕ
  oldMetricAttributes : Option Attributes
  stableMetricAttributes : Option Attributes

structure Duration where
  duration : ℚ
  attributes : Attributes

/-- A server response or a client request, with what was done to its span and what was recorded of
it. -/
structure Traced where
  spanDetails : Option SpanDetails := none
  /-- A span was started. -/
  hasSpan : Bool := false
  /-- The calls of `end` on the span. -/
  ends : ℕ := 0
  /-- The records in the old histogram, in milliseconds. -/
  oldDurations : List Duration := []
  /-- The records in the stable histogram, in seconds. -/
  stableDurations : List Duration := []
  /-- The start of the request was published. -/
  begun : Bool := false
  /-- The request ended, failed or was closed. -/
  terminated : Bool := false

namespace SemconvStability

/-- `stability & SemconvStability.OLD` -/
def hasOld (stability : SemconvStability) : Bool := stability ≠ .stable

/-- `stability & SemconvStability.STABLE` -/
def hasStable (stability : SemconvStability) : Bool := stability ≠ .old

end SemconvStability

/-! ## Metric attributes -/

def getOutgoingRequestMetricAttributes (spanAttributes : Attributes) : Attributes :=
  copyAttributes spanAttributes ["http.method", "net.peer.name"]

/-- The attribute is copied where it is truthy. -/
def copyTruthy (attributes spanAttributes : Attributes) (key : String) : Attributes :=
  let value := valueAt spanAttributes key
  if truthy value then attributes.set key value else attributes

def stableClientMetricAttributes (spanAttributes : Attributes) : Attributes :=
  let attributes :=
    copyAttributes spanAttributes ["http.request.method", "server.address", "server.port"]
  copyTruthy (copyTruthy attributes spanAttributes "http.response.status_code") spanAttributes
    "network.protocol.version"

/-- The route is copied where there is one. -/
def copyRoute (attributes spanAttributes : Attributes) : Attributes :=
  match valueAt spanAttributes "http.route" with
  | .undefined => attributes
  | route => attributes.set "http.route" route

def getIncomingRequestMetricAttributesOnResponse (spanAttributes : Attributes) : Attributes :=
  copyRoute (copyAttributes spanAttributes ["http.status_code", "net.host.port"]) spanAttributes

def getIncomingStableRequestMetricAttributesOnResponse (spanAttributes : Attributes) : Attributes :=
  copyTruthy (copyRoute ∅ spanAttributes) spanAttributes "http.response.status_code"

def getOutgoingRequestMetricAttributesOnResponse (spanAttributes : Attributes) : Attributes :=
  copyAttributes spanAttributes ["net.peer.port", "http.status_code", "http.flavor"]

def getOutgoingStableRequestMetricAttributesOnResponse (spanAttributes : Attributes) : Attributes :=
  copyTruthy (copyTruthy ∅ spanAttributes "network.protocol.version") spanAttributes
    "http.response.status_code"

/-! ## Closing the span -/

/-- The record in one histogram: none without attributes, or when its convention is not in use. -/
def recorded (inUse : Bool) (attributes : Option Attributes) (duration : ℚ) : List Duration :=
  if inUse then attributes.toList.map (⟨duration, ·⟩) else []

/-- `_recordServerDuration` and `_recordClientDuration`. -/
def recordDuration (stability : SemconvStability) (durationMs : ℚ)
    (oldAttributes stableAttributes : Option Attributes) (traced : Traced) : Traced :=
  { traced with
    oldDurations := traced.oldDurations ++ recorded stability.hasOld oldAttributes durationMs
    stableDurations :=
      traced.stableDurations ++ recorded stability.hasStable stableAttributes (durationMs / 1000) }

def closeHttpSpan (stability : SemconvStability) (now : ℕ) (traced : Traced) : Traced :=
  match traced.spanDetails with
  | none => traced
  | some details =>
    let traced := { traced with spanDetails := none, ends := traced.ends + 1 }
    if details.oldMetricAttributes.isNone ∧ details.stableMetricAttributes.isNone then traced
    else
      recordDuration stability (now - details.startTime) details.oldMetricAttributes
        details.stableMetricAttributes traced

def SpanDetails.withErrorType (details : SpanDetails) (name : String) : SpanDetails :=
  let attributes := (details.stableMetricAttributes.getD ∅).set "error.type" (.string name)
  { details with stableMetricAttributes := some attributes }

/-- What the response adds to the metric attributes. -/
def SpanDetails.onResponse (details : SpanDetails) (stability : SemconvStability)
    (old stable : Attributes) : SpanDetails :=
  { details with
    oldMetricAttributes :=
      if stability.hasOld then some (assign (details.oldMetricAttributes.getD ∅) old)
      else details.oldMetricAttributes
    stableMetricAttributes :=
      if stability.hasStable then some (assign (details.stableMetricAttributes.getD ∅) stable)
      else details.stableMetricAttributes }

/-- The details are changed and then the span is closed, if there is one. -/
def closeWith (stability : SemconvStability) (now : ℕ) (change : SpanDetails → SpanDetails)
    (traced : Traced) : Traced :=
  match traced.spanDetails with
  | none => traced
  | some details => closeHttpSpan stability now { traced with spanDetails := some (change details) }

/-! ## Handlers -/

section Handlers

variable (env : Platform) (config : HttpDcInstrumentationConfig)

def startSpan (traced : Traced) (now : ℕ) (oldMetricAttributes stableMetricAttributes : Option Attributes) :
    Traced :=
  { traced with
    spanDetails := some ⟨now, oldMetricAttributes, stableMetricAttributes⟩
    hasSpan := true }

/-- A request that is ignored has no span, and neither has one whose handler throws. -/
def onHttpServerRequestStart (traced : Traced) (now : ℕ) (request : IncomingMessage) : Traced :=
  match httpServerRequestStart env config.toInstrumentationConfig request with
  | .ok (some span) => startSpan traced now span.oldMetricAttributes span.stableMetricAttributes
  | _ => traced

def httpServerResponseFinished (traced : Traced) (now : ℕ) (attributes : Attributes) : Traced :=
  if ¬ config.enabled then traced
  else
    closeWith config.semconvStability now
      (·.onResponse config.semconvStability (getIncomingRequestMetricAttributesOnResponse attributes)
        (getIncomingStableRequestMetricAttributesOnResponse attributes)) traced

/-- The listener of `response.on(errorMonitor, ..)`. -/
def onResponseError (traced : Traced) (now : ℕ) (name : String) : Traced :=
  closeWith config.semconvStability now (·.withErrorType name) traced

/-- `tracingSuppressed` is read from the active context. -/
def httpClientRequestCreated (traced : Traced) (now : ℕ) (request : ClientRequest)
    (tracingSuppressed : Bool) : Traced :=
  let stability := config.semconvStability
  let ignored := (config.ignoreOutgoingRequestHook.bind (· request)).getD false
  if ¬ config.enabled ∨ tracingSuppressed ∨ ignored then traced
  else
    let attributes := getOutgoingRequestAttributes env request stability config.redactedQueryParams
      config.enableSyntheticSourceDetection
    let attributes := assignOptional attributes (config.startOutgoingSpanHook.bind (· request))
    startSpan traced now
      (if stability.hasOld then some (getOutgoingRequestMetricAttributes attributes) else none)
      (if stability.hasStable then some (stableClientMetricAttributes attributes) else none)

def httpClientRequestError (traced : Traced) (now : ℕ) (name : String) : Traced :=
  if ¬ config.enabled then traced
  else closeWith config.semconvStability now (·.withErrorType name) traced

def httpClientResponseFinished (traced : Traced) (now : ℕ) (attributes : Attributes) : Traced :=
  if ¬ config.enabled then traced
  else
    closeWith config.semconvStability now
      (·.onResponse config.semconvStability (getOutgoingRequestMetricAttributesOnResponse attributes)
        (getOutgoingStableRequestMetricAttributesOnResponse attributes)) traced

/-- The listener of `request.on('close', ..)`. -/
def onRequestClose (traced : Traced) (now : ℕ) : Traced :=
  closeHttpSpan config.semconvStability now traced

/-! ## Events of one request -/

inductive ServerEvent where
  | requestStart (now : ℕ) (request : IncomingMessage)
  | responseFinish (now : ℕ) (attributes : Attributes)
  | responseError (now : ℕ) (name : String)
  | responseClose

inductive ClientEvent where
  | requestCreated (now : ℕ) (request : ClientRequest) (tracingSuppressed : Bool)
  | responseFinish (now : ℕ) (attributes : Attributes)
  | requestError (now : ℕ) (name : String)
  | requestClose (now : ℕ)

/-- A terminal event was handled. It counts where a span was started before it. -/
def Traced.terminal (traced : Traced) : Traced :=
  { traced with terminated := traced.terminated || traced.hasSpan }

/-- The start of a request is published once. -/
def serverStep (traced : Traced) : ServerEvent → Option Traced
  | .requestStart now request =>
    if traced.begun then none
    else some (onHttpServerRequestStart env config { traced with begun := true } now request)
  | .responseFinish now attributes =>
    some (httpServerResponseFinished config traced now attributes).terminal
  | .responseError now name => some (onResponseError config traced now name).terminal
  -- Nothing listens to the close of a response.
  | .responseClose => some traced.terminal

def clientStep (traced : Traced) : ClientEvent → Option Traced
  | .requestCreated now request tracingSuppressed =>
    if traced.begun then none
    else
      some (httpClientRequestCreated env config { traced with begun := true } now request
        tracingSuppressed)
  | .responseFinish now attributes =>
    some (httpClientResponseFinished config traced now attributes).terminal
  | .requestError now name => some (httpClientRequestError config traced now name).terminal
  | .requestClose now => some (onRequestClose config traced now).terminal

end Handlers

/-- The span is ended at most once and each histogram in use has at most one record, and exactly
one once the request has terminated. -/
def MeasuredOnce (stability : SemconvStability) (traced : Traced) : Prop :=
  traced.ends ≤ 1 ∧ traced.oldDurations.length ≤ 1 ∧ traced.stableDurations.length ≤ 1 ∧
    (traced.terminated = true → traced.ends = 1 ∧
      traced.oldDurations.length = stability.hasOld.toNat ∧
      traced.stableDurations.length = stability.hasStable.toNat)

/-! ## Where the span of a request stands -/

/-- Every convention in use has its metric attributes. -/
def SpanDetails.Complete (stability : SemconvStability) (details : SpanDetails) : Prop :=
  (stability.hasOld = true → details.oldMetricAttributes.isSome) ∧
    (stability.hasStable = true → details.stableMetricAttributes.isSome)

/-- Nothing was done to the span yet. -/
structure Fresh (traced : Traced) : Prop where
  ends : traced.ends = 0
  old : traced.oldDurations = []
  stable : traced.stableDurations = []
  terminated : traced.terminated = false

/-- There is no span. -/
structure Untraced (traced : Traced) : Prop extends Fresh traced where
  details : traced.spanDetails = none
  noSpan : traced.hasSpan = false

structure Open (stability : SemconvStability) (traced : Traced) : Prop extends Fresh traced where
  details : ∃ details, traced.spanDetails = some details ∧ details.Complete stability
  span : traced.hasSpan = true
  begun : traced.begun = true

structure Closed (stability : SemconvStability) (traced : Traced) : Prop where
  details : traced.spanDetails = none
  ends : traced.ends = 1
  old : traced.oldDurations.length = stability.hasOld.toNat
  stable : traced.stableDurations.length = stability.hasStable.toNat
  terminated : traced.terminated = true
  begun : traced.begun = true

def Inv (stability : SemconvStability) (traced : Traced) : Prop :=
  Untraced traced ∨ Open stability traced ∨ Closed stability traced

theorem Inv.measuredOnce {stability : SemconvStability} {traced : Traced} (h : Inv stability traced) :
    MeasuredOnce stability traced := by
  have hnat (b : Bool) : b.toNat ≤ 1 := Bool.toNat_le b
  rcases h with h | h | h
  · exact ⟨by simp [h.ends], by simp [h.old], by simp [h.stable], by simp [h.terminated]⟩
  · exact ⟨by simp [h.ends], by simp [h.old], by simp [h.stable], by simp [h.terminated]⟩
  · exact ⟨le_of_eq h.ends, h.old ▸ hnat _, h.stable ▸ hnat _, fun _ => ⟨h.ends, h.old, h.stable⟩⟩

/-! ## What the handlers do -/

theorem length_recorded (inUse : Bool) {attributes : Option Attributes} (duration : ℚ)
    (h : inUse = true → attributes.isSome) :
    (recorded inUse attributes duration).length = inUse.toNat := by
  unfold recorded
  cases inUse with
  | false => rfl
  | true =>
    obtain ⟨a, ha⟩ := Option.isSome_iff_exists.mp (h rfl)
    rw [ha]
    rfl

theorem Complete.withErrorType {stability : SemconvStability} {details : SpanDetails} (name : String)
    (h : details.Complete stability) : (details.withErrorType name).Complete stability :=
  ⟨h.1, fun _ => rfl⟩

theorem Complete.onResponse {stability : SemconvStability} {details : SpanDetails}
    (old stable : Attributes) : (details.onResponse stability old stable).Complete stability := by
  constructor
  · intro h
    simp [SpanDetails.onResponse, h]
  · intro h
    simp [SpanDetails.onResponse, h]

theorem Complete.some {stability : SemconvStability} {details : SpanDetails}
    (h : details.Complete stability) :
    ¬ (details.oldMetricAttributes.isNone ∧ details.stableMetricAttributes.isNone) := by
  rintro ⟨hold, hstable⟩
  rw [Option.isNone_iff_eq_none] at hold hstable
  have hcomplete := h
  unfold SpanDetails.Complete at hcomplete
  rw [hold, hstable] at hcomplete
  cases stability with
  | stable => exact absurd (hcomplete.2 rfl) (by decide)
  | old => exact absurd (hcomplete.1 rfl) (by decide)
  | duplicate => exact absurd (hcomplete.1 rfl) (by decide)

theorem closeHttpSpan_open {stability : SemconvStability} {traced : Traced}
    (h : Open stability traced) (now : ℕ) :
    Closed stability (closeHttpSpan stability now traced).terminal := by
  obtain ⟨details, hdetails, hcomplete⟩ := h.details
  have hclosed : closeHttpSpan stability now traced =
      recordDuration stability (now - details.startTime) details.oldMetricAttributes
        details.stableMetricAttributes
        { traced with spanDetails := none, ends := traced.ends + 1 } := by
    unfold closeHttpSpan
    rw [hdetails]
    exact if_neg (Complete.some hcomplete)
  rw [hclosed]
  unfold recordDuration Traced.terminal
  constructor
  · rfl
  · exact congrArg (· + 1) h.ends
  · rw [h.old, List.nil_append]
    exact length_recorded _ _ hcomplete.1
  · rw [h.stable, List.nil_append]
    exact length_recorded _ _ hcomplete.2
  · simp [h.span]
  · exact h.begun

theorem Untraced.terminal {traced : Traced} (h : Untraced traced) : Untraced traced.terminal :=
  ⟨⟨h.ends, h.old, h.stable, by simp [Traced.terminal, h.terminated, h.noSpan]⟩, h.details, h.noSpan⟩

theorem Closed.terminal {stability : SemconvStability} {traced : Traced}
    (h : Closed stability traced) : Closed stability traced.terminal :=
  ⟨h.details, h.ends, h.old, h.stable, by simp [Traced.terminal, h.terminated], h.begun⟩

theorem closeWith_inv {stability : SemconvStability} {traced : Traced} (h : Inv stability traced)
    (now : ℕ) {change : SpanDetails → SpanDetails}
    (hchange : ∀ details : SpanDetails, details.Complete stability →
      (change details).Complete stability) :
    Inv stability (closeWith stability now change traced).terminal := by
  unfold closeWith
  rcases h with h | h | h
  · rw [h.details]
    exact Or.inl h.terminal
  · obtain ⟨details, hdetails, hcomplete⟩ := h.details
    rw [hdetails]
    right
    right
    apply closeHttpSpan_open
    exact ⟨⟨h.ends, h.old, h.stable, h.terminated⟩, ⟨_, rfl, hchange details hcomplete⟩, h.span,
      h.begun⟩
  · rw [h.details]
    exact Or.inr (Or.inr h.terminal)

theorem closeWith_id (stability : SemconvStability) (now : ℕ) (traced : Traced) :
    closeWith stability now id traced = closeHttpSpan stability now traced := by
  unfold closeWith
  cases hdetails : traced.spanDetails with
  | none => simp [closeHttpSpan, hdetails]
  | some details => simp [closeHttpSpan, hdetails]

theorem Inv.untraced {stability : SemconvStability} {traced : Traced} (h : Inv stability traced)
    (hbegun : traced.begun = false) : Untraced traced := by
  rcases h with h | h | h
  · exact h
  · exact absurd h.begun (by simp [hbegun])
  · exact absurd h.begun (by simp [hbegun])

theorem startSpan_inv {stability : SemconvStability} {traced : Traced} (h : Untraced traced) (now : ℕ)
    {old stable : Option Attributes} (hold : stability.hasOld = true → old.isSome)
    (hstable : stability.hasStable = true → stable.isSome) :
    Inv stability (startSpan { traced with begun := true } now old stable) :=
  Or.inr (Or.inl ⟨⟨h.ends, h.old, h.stable, h.terminated⟩, ⟨_, rfl, hold, hstable⟩, rfl, rfl⟩)

theorem Untraced.begin {stability : SemconvStability} {traced : Traced} (h : Untraced traced) :
    Inv stability { traced with begun := true } :=
  Or.inl ⟨⟨h.ends, h.old, h.stable, h.terminated⟩, h.details, h.noSpan⟩

theorem httpServerRequestStart_complete {env : Platform} {config : InstrumentationConfig}
    {request : IncomingMessage} {span : ServerSpan}
    (h : httpServerRequestStart env config request = .ok (some span)) :
    (config.semconvStability.hasOld = true → span.oldMetricAttributes.isSome) ∧
      (config.semconvStability.hasStable = true → span.stableMetricAttributes.isSome) := by
  unfold httpServerRequestStart at h
  simp only at h
  split at h
  · cases h
  · obtain ⟨attributes, -, h⟩ := bind_eq_ok.mp h
    cases h
    unfold SemconvStability.hasOld SemconvStability.hasStable
    cases config.semconvStability <;> simp

theorem onHttpServerRequestStart_inv (env : Platform) (config : HttpDcInstrumentationConfig)
    {traced : Traced} (h : Untraced traced) (now : ℕ) (request : IncomingMessage) :
    Inv config.semconvStability
      (onHttpServerRequestStart env config { traced with begun := true } now request) := by
  unfold onHttpServerRequestStart
  split
  · rename_i span hspan
    obtain ⟨hold, hstable⟩ := httpServerRequestStart_complete hspan
    exact startSpan_inv h now hold hstable
  · exact h.begin

theorem httpClientRequestCreated_inv (env : Platform) (config : HttpDcInstrumentationConfig)
    {traced : Traced} (h : Untraced traced) (now : ℕ) (request : ClientRequest)
    (tracingSuppressed : Bool) :
    Inv config.semconvStability
      (httpClientRequestCreated env config { traced with begun := true } now request
        tracingSuppressed) := by
  unfold httpClientRequestCreated
  simp only
  split
  · exact h.begin
  · apply startSpan_inv h now
    · intro hold
      simp [hold]
    · intro hstable
      simp [hstable]

/-! ## Runs -/

/-- A response is not closed before it finished or failed. -/
def FinishedBeforeClose (traced : Traced) : ServerEvent → Prop
  | .responseClose => traced.hasSpan = true → traced.terminated = true
  | _ => True

section Runs

variable (env : Platform) (config : HttpDcInstrumentationConfig)

/-- The instrumentation stays enabled. -/
def enabled : HttpDcInstrumentationConfig := { config with enabled := true }

theorem clientStep_inv (traced : Traced) (e : ClientEvent) (traced' : Traced)
    (h : Inv config.semconvStability traced)
    (hstep : clientStep env (enabled config) traced e = some traced') :
    Inv config.semconvStability traced' := by
  unfold clientStep at hstep
  cases e with
  | requestCreated now request tracingSuppressed =>
    simp only at hstep
    split at hstep
    · cases hstep
    · rename_i hbegun
      cases hstep
      exact httpClientRequestCreated_inv env (enabled config)
        (h.untraced (Bool.eq_false_iff.mpr hbegun)) now request tracingSuppressed
  | responseFinish now attributes =>
    cases hstep
    exact closeWith_inv h now fun details _ => Complete.onResponse _ _
  | requestError now name =>
    cases hstep
    exact closeWith_inv h now fun details hcomplete => Complete.withErrorType name hcomplete
  | requestClose now =>
    cases hstep
    have hclose : Inv config.semconvStability
        (closeWith config.semconvStability now id traced).terminal :=
      closeWith_inv h now fun _ hcomplete => hcomplete
    rwa [closeWith_id] at hclose

theorem serverStep_inv (traced : Traced) (e : ServerEvent) (traced' : Traced)
    (h : Inv config.semconvStability traced) (horder : FinishedBeforeClose traced e)
    (hstep : serverStep env (enabled config) traced e = some traced') :
    Inv config.semconvStability traced' := by
  unfold serverStep at hstep
  cases e with
  | requestStart now request =>
    simp only at hstep
    split at hstep
    · cases hstep
    · rename_i hbegun
      cases hstep
      exact onHttpServerRequestStart_inv env (enabled config)
        (h.untraced (Bool.eq_false_iff.mpr hbegun)) now request
  | responseFinish now attributes =>
    cases hstep
    exact closeWith_inv h now fun details _ => Complete.onResponse _ _
  | responseError now name =>
    cases hstep
    exact closeWith_inv h now fun details hcomplete => Complete.withErrorType name hcomplete
  | responseClose =>
    cases hstep
    rcases h with h | h | h
    · exact Or.inl h.terminal
    · exact absurd (horder h.span) (by simp [h.terminated])
    · exact Or.inr (Or.inr h.terminal)

theorem early_close_breaks (traced : Traced) (e : ServerEvent) (traced' : Traced)
    (h : Inv config.semconvStability traced) (horder : ¬ FinishedBeforeClose traced e)
    (hstep : serverStep env (enabled config) traced e = some traced') :
    ¬ MeasuredOnce config.semconvStability traced' := by
  cases e with
  | responseClose =>
    cases hstep
    simp only [FinishedBeforeClose, not_forall] at horder
    obtain ⟨hspan, hterminated⟩ := horder
    have hopen : Open config.semconvStability traced := by
      rcases h with h | h | h
      · exact absurd hspan (by simp [h.noSpan])
      · exact h
      · exact absurd h.terminated hterminated
    rintro ⟨-, -, -, hmeasured⟩
    have hends := (hmeasured (by simp [Traced.terminal, hspan])).1
    simp [Traced.terminal, hopen.ends] at hends
  | requestStart => exact absurd trivial horder
  | responseFinish => exact absurd trivial horder
  | responseError => exact absurd trivial horder

theorem initial_inv : Inv config.semconvStability {} := Or.inl ⟨⟨rfl, rfl, rfl, rfl⟩, rfl, rfl⟩

/-- **Spans of requests.** In every order of events a client request is ended and measured once, and
a server request is just when its response is not closed before it finished or failed. -/
theorem spans_measured_once_iff :
    (∀ events, Always (clientStep env (enabled config)) (MeasuredOnce config.semconvStability) {}
      events) ∧
    ∀ events,
      Always (serverStep env (enabled config)) (MeasuredOnce config.semconvStability) {} events ↔
        Along (serverStep env (enabled config)) FinishedBeforeClose {} events := by
  constructor
  · intro events
    exact (always_of_step (clientStep_inv env config) events {} (initial_inv config)).imp
      fun _ h => h.measuredOnce
  · intro events
    exact always_iff_along (fun _ h => h.measuredOnce) (serverStep_inv env config)
      (early_close_breaks env config) events {} (initial_inv config)

end Runs

theorem onHttpServerRequestStart_hasSpan (env : Platform) (config : HttpDcInstrumentationConfig)
    (traced : Traced) (now : ℕ) (request : IncomingMessage)
    (hhook : config.ignoreIncomingRequestHook = none) (hauthority : AuthorityClosed env request) :
    (onHttpServerRequestStart env (enabled config) traced now request).hasSpan = true ∧
      (onHttpServerRequestStart env (enabled config) traced now request).terminated =
        traced.terminated := by
  obtain ⟨span, hspan⟩ := httpServerRequestStart_ok env (enabled config).toInstrumentationConfig
    request hauthority
  cases span with
  | none =>
    obtain ⟨attributes, hattributes⟩ :=
      (getIncomingRequestAttributes_ok_iff env request _).mpr hauthority
    unfold httpServerRequestStart at hspan
    simp only [enabled, hhook, Option.bind_none, Option.getD_none, not_true, Bool.false_eq_true,
      or_false, if_false] at hspan
    rw [hattributes, ok_bind] at hspan
    cases hspan
  | some span =>
    unfold onHttpServerRequestStart
    rw [hspan]
    exact ⟨rfl, rfl⟩

def localRequest : IncomingMessage :=
  { bracketRequest with headers := { bracketRequest.headers with host := some "localhost" } }

def plainConfig : HttpDcInstrumentationConfig where
  enabled := true
  ignoreIncomingRequestHook := none
  startIncomingSpanHook := none
  serverName := none
  enableSyntheticSourceDetection := false
  semconvStability := .old
  ignoreOutgoingRequestHook := none
  startOutgoingSpanHook := none
  redactedQueryParams := none

/-- The peer disconnects before the response is finished. -/
theorem disconnected_span_left_open :
    ¬ Always (serverStep bracketPlatform (enabled plainConfig)) (MeasuredOnce .old) {}
      [.requestStart 0 localRequest, .responseClose] := by
  intro h
  have horder := along_of_always (serverStep_inv bracketPlatform plainConfig)
    (early_close_breaks bracketPlatform plainConfig) _ _ (initial_inv plainConfig) h
  obtain ⟨hspan, hterminated⟩ := onHttpServerRequestStart_hasSpan bracketPlatform plainConfig
    { begun := true } 0 localRequest rfl (by unfold AuthorityClosed; decide)
  have hclose := horder.2.1 hspan
  rw [hterminated] at hclose
  cases hclose

end SplunkOtel.Http
