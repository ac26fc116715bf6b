import SplunkOtel.Configuration.NullExporters

/-!
# Null nodes of a config

The sampler is exact about nulls too, and with the exporters so are the pipelines of a config.
-/

namespace SplunkOtel.Configuration

open Js Lib Schema

/-! ## Samplers -/

def samplerRoles : List String :=
  ["root", "remote_parent_sampled", "remote_parent_not_sampled", "local_parent_sampled",
    "local_parent_not_sampled"]

def nullRatio (sampler : Value) : Bool := (sampler.property "trace_id_ratio_based").isNull

def nullParentBased (parentBased : Value) : Bool :=
  parentBased.isNull || samplerRoles.any fun role => nullRatio (parentBased.property role)

def nullSampler (sampler : Value) : Bool :=
  nullParentBased (sampler.property "parent_based") || nullRatio sampler

theorem traceIdRatioBased_exact :
    NullExact TraceIdRatioBasedSampler Value.isNull traceIdRatioBased where
  returns v hv := by
    rcases hv with rfl | ⟨⟨properties, rfl⟩, -⟩
    · refine iff_of_false ?_ (by decide)
      rintro ⟨sampler, h⟩
      cases h
    · exact iff_of_true ⟨_, rfl⟩ rfl
  same v w hv hw hvw hnull := by
    have hratio := (hvw.property "ratio").eq_of_scalar
      (scalar_of_number (record_optional hw "ratio" (nullable number) (by simp)))
    rcases hv with rfl | ⟨hv, -⟩
    · cases hnull
    · unfold traceIdRatioBased
      rw [read_of_anyObject hv, read_of_anyObject (hvw.anyObject hv), hratio]

theorem makeSampler_eq {v : Value} (hv : anyObject v) :
    makeSampler v =
      if ¬ (v.property "always_on").isUndefined then .ok (some .alwaysOn)
      else if ¬ (v.property "always_off").isUndefined then .ok (some .alwaysOff)
      else if ¬ (v.property "trace_id_ratio_based").isUndefined then
        some <$> traceIdRatioBased (v.property "trace_id_ratio_based")
      else .ok none := by
  obtain ⟨properties, rfl⟩ := hv
  rfl

theorem makeSampler_exact (depth : ℕ) :
    NullExact (fun v => v = .undefined ∨ samplerTo (depth + 1) v) nullRatio makeSampler where
  returns := by
    rintro v (rfl | hv)
    · exact iff_of_true ⟨none, rfl⟩ rfl
    · rw [makeSampler_eq (oneOf_anyObject hv)]
      unfold nullRatio
      have hratio := oneOf_property hv "trace_id_ratio_based" TraceIdRatioBasedSampler (by simp)
      cases hon : (v.property "always_on").isUndefined with
      | false =>
        rw [oneOf_other hv (show "always_on" ≠ "trace_id_ratio_based" by decide) hon]
        exact iff_of_true ⟨some .alwaysOn, rfl⟩ rfl
      | true =>
        cases hoff : (v.property "always_off").isUndefined with
        | false =>
          rw [oneOf_other hv (show "always_off" ≠ "trace_id_ratio_based" by decide) hoff]
          exact iff_of_true ⟨some .alwaysOff, rfl⟩ rfl
        | true =>
          cases hundefined : (v.property "trace_id_ratio_based").isUndefined with
          | false =>
            have hreturns := traceIdRatioBased_exact.returns _ (valid_of_present hratio hundefined)
            simpa [ok_map_iff] using hreturns
          | true =>
            rw [eq_undefined hundefined]
            exact iff_of_true ⟨none, rfl⟩ rfl
  same := by
    rintro v w hv (rfl | hw) hvw hnull
    · rw [hvw.eq_of_scalar trivial]
    · rcases hv with rfl | hv
      · obtain ⟨properties, rfl⟩ := oneOf_anyObject hw
        cases hvw
      · rw [makeSampler_eq (oneOf_anyObject hv), makeSampler_eq (oneOf_anyObject hw),
          ← (hvw.property "always_on").isUndefined_eq, ← (hvw.property "always_off").isUndefined_eq,
          ← (hvw.property "trace_id_ratio_based").isUndefined_eq]
        cases hundefined : (v.property "trace_id_ratio_based").isUndefined with
        | false =>
          rw [traceIdRatioBased_exact.same_property hvw _ (oneOf_property hv _ _ (by simp))
            (oneOf_property hw _ _ (by simp)) hundefined hnull]
        | true => rfl

theorem parentBased_role {depth : ℕ} {v : Value} (hv : ParentBasedSampler (samplerTo (depth + 1)) v)
    {role : String} (hrole : role ∈ samplerRoles) :
    v.property role = .undefined ∨ samplerTo (depth + 1) (v.property role) := by
  apply record_optional hv role
  unfold samplerRoles at hrole
  rw [List.mem_cons, List.mem_cons, List.mem_cons, List.mem_cons, List.mem_singleton] at hrole
  rcases hrole with rfl | rfl | rfl | rfl | rfl <;> simp

theorem forall_samplerRoles {P : String → Prop} :
    (∀ role ∈ samplerRoles, P role) ↔
      P "root" ∧ P "remote_parent_sampled" ∧ P "remote_parent_not_sampled" ∧
        P "local_parent_sampled" ∧ P "local_parent_not_sampled" := by
  simp [samplerRoles]

theorem parentBasedSampler_returns {v : Value} (hv : anyObject v) :
    (∃ sampler, parentBasedSampler v = .ok sampler) ↔
      ∀ role ∈ samplerRoles, ∃ sampler, makeSampler (v.property role) = .ok sampler := by
  rw [forall_samplerRoles, parentBasedSampler, read_of_anyObject hv, ok_bind]
  constructor
  · rintro ⟨sampler, h⟩
    obtain ⟨root, hroot, h⟩ := bind_eq_ok.mp h
    obtain ⟨remoteSampled, hremoteSampled, h⟩ := bind_eq_ok.mp h
    obtain ⟨remoteNotSampled, hremoteNotSampled, h⟩ := bind_eq_ok.mp h
    obtain ⟨localSampled, hlocalSampled, h⟩ := bind_eq_ok.mp h
    obtain ⟨localNotSampled, hlocalNotSampled, -⟩ := bind_eq_ok.mp h
    exact ⟨⟨root, hroot⟩, ⟨remoteSampled, hremoteSampled⟩, ⟨remoteNotSampled, hremoteNotSampled⟩,
      ⟨localSampled, hlocalSampled⟩, localNotSampled, hlocalNotSampled⟩
  · rintro ⟨⟨root, hroot⟩, ⟨remoteSampled, hremoteSampled⟩, ⟨remoteNotSampled, hremoteNotSampled⟩,
      ⟨localSampled, hlocalSampled⟩, localNotSampled, hlocalNotSampled⟩
    rw [hroot, hremoteSampled, hremoteNotSampled, hlocalSampled, hlocalNotSampled]
    exact ⟨_, rfl⟩

theorem parentBasedSampler_congr {v w : Value} (hv : anyObject v) (hw : anyObject w)
    (h : ∀ role ∈ samplerRoles, makeSampler (v.property role) = makeSampler (w.property role)) :
    parentBasedSampler v = parentBasedSampler w := by
  obtain ⟨hroot, hremoteSampled, hremoteNotSampled, hlocalSampled, hlocalNotSampled⟩ :=
    forall_samplerRoles.mp h
  unfold parentBasedSampler
  rw [read_of_anyObject hv, read_of_anyObject hw, ok_bind, ok_bind, hroot, hremoteSampled,
    hremoteNotSampled, hlocalSampled, hlocalNotSampled]

theorem parentBasedSampler_exact (depth : ℕ) :
    NullExact (ParentBasedSampler (samplerTo (depth + 1))) nullParentBased parentBasedSampler where
  returns v hv := by
    unfold nullParentBased
    have hreturns (role : String) (hrole : role ∈ samplerRoles) :=
      (makeSampler_exact depth).returns _ (parentBased_role hv hrole)
    rcases hv with rfl | ⟨hobject, -⟩
    · refine iff_of_false ?_ (by decide)
      rintro ⟨sampler, h⟩
      cases h
    · have hnotNull : v.isNull = false := by
        obtain ⟨properties, rfl⟩ := hobject
        rfl
      rw [hnotNull, Bool.false_or, List.any_eq_false, parentBasedSampler_returns hobject]
      refine forall₂_congr fun role hrole => ?_
      rw [hreturns role hrole, Bool.not_eq_true]
  same v w hv hw hvw hnull := by
    obtain ⟨hvnull, hroles⟩ := Bool.or_eq_false_iff.mp hnull
    rw [List.any_eq_false] at hroles
    have hobject : anyObject v := by
      rcases hv with rfl | hv
      · cases hvnull
      · exact hv.1
    refine parentBasedSampler_congr hobject (hvw.anyObject hobject) fun role hrole => ?_
    exact (makeSampler_exact depth).same _ _ (parentBased_role hv hrole) (parentBased_role hw hrole)
      (hvw.property role) (Bool.eq_false_iff.mpr (hroles role hrole))

/-- What `configGetSampler` makes of the sampler of the file. -/
def fileSampler (sampler : Value) : Except Thrown (Option Sampler) :=
  configGetSampler (.object [("tracer_provider", .object [("sampler", sampler)])])

theorem configGetSampler_eq (config : Value) :
    configGetSampler config = fileSampler ((config.property "tracer_provider").property "sampler") := by
  unfold fileSampler configGetSampler
  rw [Value.property_single, Value.property_single]

theorem fileSampler_eq {v : Value} (hv : anyObject v) :
    fileSampler v =
      if ¬ (v.property "always_on").isUndefined then .ok (some (.basic .alwaysOn))
      else if ¬ (v.property "always_off").isUndefined then .ok (some (.basic .alwaysOff))
      else if ¬ (v.property "parent_based").isUndefined then
        parentBasedSampler (v.property "parent_based") >>= fun sampler => .ok (some sampler)
      else if ¬ (v.property "trace_id_ratio_based").isUndefined then
        traceIdRatioBased (v.property "trace_id_ratio_based") >>= fun sampler =>
          .ok (some (.basic sampler))
      else .ok none := by
  unfold fileSampler configGetSampler
  rw [Value.property_single, Value.property_single]
  obtain ⟨properties, rfl⟩ := hv
  rfl

theorem fileSampler_exact :
    NullExact (fun v => v = .undefined ∨ Schema.Sampler v) nullSampler fileSampler where
  returns := by
    rintro v (rfl | hv)
    · exact iff_of_true ⟨some (.basic .alwaysOn), rfl⟩ rfl
    · have hv := hv 2
      have hparent := oneOf_property hv "parent_based" (ParentBasedSampler (samplerTo 1)) (by simp)
      have hratio := oneOf_property hv "trace_id_ratio_based" TraceIdRatioBasedSampler (by simp)
      rw [fileSampler_eq (oneOf_anyObject hv)]
      unfold nullSampler nullRatio
      cases hon : (v.property "always_on").isUndefined with
      | false =>
        rw [oneOf_other hv (show "always_on" ≠ "parent_based" by decide) hon,
          oneOf_other hv (show "always_on" ≠ "trace_id_ratio_based" by decide) hon]
        exact iff_of_true ⟨some (.basic .alwaysOn), rfl⟩ rfl
      | true =>
        cases hoff : (v.property "always_off").isUndefined with
        | false =>
          rw [oneOf_other hv (show "always_off" ≠ "parent_based" by decide) hoff,
            oneOf_other hv (show "always_off" ≠ "trace_id_ratio_based" by decide) hoff]
          exact iff_of_true ⟨some (.basic .alwaysOff), rfl⟩ rfl
        | true =>
          cases hparentUndefined : (v.property "parent_based").isUndefined with
          | false =>
            rw [oneOf_other hv (show "parent_based" ≠ "trace_id_ratio_based" by decide) hparentUndefined]
            have hexact := (parentBasedSampler_exact 0).map some
            simpa [Value.isNull] using hexact.returns _ (valid_of_present hparent hparentUndefined)
          | true =>
            rw [eq_undefined hparentUndefined]
            cases hratioUndefined : (v.property "trace_id_ratio_based").isUndefined with
            | false =>
              have hexact := traceIdRatioBased_exact.map fun sampler => some (Sampler.basic sampler)
              have hreturns := hexact.returns _ (valid_of_present hratio hratioUndefined)
              simpa [nullParentBased, nullRatio, Value.isNull] using hreturns
            | true =>
              rw [eq_undefined hratioUndefined]
              exact iff_of_true ⟨none, rfl⟩ rfl
  same := by
    rintro v w hv (rfl | hw) hvw hnull
    · rw [hvw.eq_of_scalar trivial]
    · have hw := hw 2
      rcases hv with rfl | hv
      · obtain ⟨properties, rfl⟩ := oneOf_anyObject hw
        cases hvw
      · have hv := hv 2
        obtain ⟨hparentNull, hratioNull⟩ := Bool.or_eq_false_iff.mp hnull
        rw [fileSampler_eq (oneOf_anyObject hv), fileSampler_eq (oneOf_anyObject hw),
          ← (hvw.property "always_on").isUndefined_eq, ← (hvw.property "always_off").isUndefined_eq,
          ← (hvw.property "parent_based").isUndefined_eq,
          ← (hvw.property "trace_id_ratio_based").isUndefined_eq]
        cases hparent : (v.property "parent_based").isUndefined with
        | false =>
          rw [(parentBasedSampler_exact 0).same_property hvw _ (oneOf_property hv _ _ (by simp))
            (oneOf_property hw _ _ (by simp)) hparent hparentNull]
          rfl
        | true =>
          cases hratio : (v.property "trace_id_ratio_based").isUndefined with
          | false =>
            rw [traceIdRatioBased_exact.same_property hvw _ (oneOf_property hv _ _ (by simp))
              (oneOf_property hw _ _ (by simp)) hratio hratioNull]
            rfl
          | true => rfl

/-! ## Configs -/

/-- The log exporters are ones that the distribution supports. Of spans and metrics, an exporter
that is not supported is skipped with a warning. -/
def SupportedExporters (config : Value) : Prop :=
  ∀ processor ∈ listed ((config.property "logger_provider").property "processors"),
    ∀ kind ∈ ["batch", "simple"], (processor.property kind).isUndefined = false →
      ∃ name ∈ ["console", "otlp_http"],
        (((processor.property kind).property "exporter").property name).isUndefined = false

def SupportedConfiguration : Definition := fun config =>
  OpenTelemetryConfiguration config ∧ SupportedExporters config

/-- A node that a builder reads as an object is null. -/
def hasNullNode (config : Value) : Bool :=
  let tracerProvider := config.property "tracer_provider"
  nullSampler (tracerProvider.property "sampler") ||
    (listed (tracerProvider.property "processors")).any (ofProcessor nullExporter) ||
    (listed ((config.property "meter_provider").property "readers")).any (ofReader nullExporter) ||
    (listed ((config.property "logger_provider").property "processors")).any
      (ofProcessor nullLogExporter)

/-- gRPC refuses a header or the TLS files of a span or a metric exporter. -/
def hasRefusedNode (env : Platform) (config : Value) : Bool :=
  (listed ((config.property "tracer_provider").property "processors")).any
      (ofProcessor (refusedExporter env)) ||
    (listed ((config.property "meter_provider").property "readers")).any
      (ofReader (refusedExporter env))

theorem supported_exporter {v : Value} (hv : LogRecordExporter v)
    (h : ∃ name ∈ ["console", "otlp_http"], (v.property name).isUndefined = false) :
    SupportedLogRecordExporter v := by
  obtain ⟨name, hname, h⟩ := h
  simp only [List.mem_cons, List.not_mem_nil, or_false] at hname
  rcases hname with rfl | rfl
  · exact ⟨hv, Or.inl h⟩
  · exact ⟨hv, Or.inr h⟩

theorem supported_processor {v : Value} (hv : processor LogRecordExporter v)
    (h : ∀ kind ∈ ["batch", "simple"], (v.property kind).isUndefined = false →
      ∃ name ∈ ["console", "otlp_http"],
        (((v.property kind).property "exporter").property name).isUndefined = false) :
    processor SupportedLogRecordExporter v := by
  have hbatch := oneOf_property hv "batch" (batchProcessor LogRecordExporter) (by simp)
  have hsimple := oneOf_property hv "simple" (simpleProcessor LogRecordExporter) (by simp)
  obtain ⟨name, node, rfl, hnode, -⟩ := hv
  refine ⟨name, node, rfl, hnode, ?_⟩
  intro p hp hname
  have hpresent : node.isUndefined = false := by
    rcases hnode with rfl | ⟨properties, rfl⟩ <;> rfl
  simp only [List.mem_cons, List.not_mem_nil, or_false] at hp
  rcases hp with rfl | rfl
  · have hsupported := h "batch" (by simp)
    simp only at hname
    rw [← hname, Value.property_single] at hbatch hsupported
    have hrecord := valid_of_present hbatch hpresent
    refine ⟨hrecord.1, ?_, hrecord.2.2⟩
    intro q hq
    rw [List.mem_singleton.mp hq]
    exact supported_exporter (batch_exporter node hrecord) (hsupported hpresent)
  · have hsupported := h "simple" (by simp)
    simp only at hname
    rw [← hname, Value.property_single] at hsimple hsupported
    have hrecord := valid_of_present hsimple hpresent
    refine ⟨hrecord.1, ?_, hrecord.2.2⟩
    intro q hq
    rw [List.mem_singleton.mp hq]
    exact supported_exporter (simple_exporter node hrecord) (hsupported hpresent)

section Providers

variable (env : Platform)

theorem tracerProvider_valid (config : Value) (h : SupportedConfiguration config) :
    config.property "tracer_provider" = .undefined ∨
      TracerProvider (config.property "tracer_provider") :=
  record_optional (Or.inr h.1) "tracer_provider" _ (by simp)

theorem configGetSampler_exact :
    NullExact SupportedConfiguration
      (fun config => nullSampler ((config.property "tracer_provider").property "sampler"))
      configGetSampler := by
  have hsampler (v : Value) (hv : v = .undefined ∨ TracerProvider v) :
      v.property "sampler" = .undefined ∨ Schema.Sampler (v.property "sampler") := by
    rcases hv with rfl | hv
    · exact Or.inl rfl
    · exact record_optional (Or.inr hv) "sampler" _ (by simp)
  have hexact := (fileSampler_exact.required hsampler).required tracerProvider_valid
  rwa [← funext configGetSampler_eq] at hexact

theorem defaultSpanProcessorFactory_exact :
    NullExact SupportedConfiguration
      (fun config => (listed ((config.property "tracer_provider").property "processors")).any
        (ofProcessor fun v => nullExporter v || refusedExporter env v))
      (defaultSpanProcessorFactory env) := by
  have hexact : NullExact (processor SpanExporter)
      (ofProcessor fun v => nullExporter v || refusedExporter env v) (toSpanProcessor env) :=
    toProcessor_exact (toSpanExporter_exact env) rfl fun _ _ => rfl
  have hprovider (v : Value) (hv : TracerProvider v) :
      anyObject v ∧ arrayOf (processor SpanExporter) (v.property "processors") :=
    ⟨hv.1, hv.2.1 ("processors", arrayOf (processor SpanExporter)) (by simp)⟩
  exact (buildEach_exact hexact hprovider).required tracerProvider_valid

theorem defaultMetricReaderFactory_exact :
    NullExact SupportedConfiguration
      (fun config => (listed ((config.property "meter_provider").property "readers")).any
        (ofReader fun v => nullExporter v || refusedExporter env v))
      (defaultMetricReaderFactory env) := by
  have hprovider (v : Value) (hv : MeterProvider v) :
      anyObject v ∧ arrayOf Schema.MetricReader (v.property "readers") :=
    ⟨hv.1, hv.2.1 ("readers", arrayOf Schema.MetricReader) (by simp)⟩
  have hvalid (config : Value) (h : SupportedConfiguration config) :
      config.property "meter_provider" = .undefined ∨
        MeterProvider (config.property "meter_provider") :=
    record_optional (Or.inr h.1) "meter_provider" _ (by simp)
  have hexact := (buildEach_exact (toMetricReader_exact env) hprovider).required hvalid
  apply hexact.congr
  intro config h
  have hnull : (config.property "meter_provider").isNull = false := by
    rcases hvalid config h with hundefined | hrecord
    · rw [hundefined]
      rfl
    · obtain ⟨properties, hobject⟩ := hrecord.1
      rw [hobject]
      rfl
  rw [defaultMetricReaderFactory, hnull]
  rfl

theorem defaultLogRecordProcessorFactory_exact :
    NullExact SupportedConfiguration
      (fun config => (listed ((config.property "logger_provider").property "processors")).any
        (ofProcessor nullLogExporter))
      (defaultLogRecordProcessorFactory env) := by
  have hexporter : NullExact SupportedLogRecordExporter nullLogExporter
      fun exporter => some <$> toExporter env exporter := by
    apply ((toExporter_exact env).map some).congr
    intro v _
    cases toExporter env v <;> rfl
  have hexact : NullExact (processor SupportedLogRecordExporter) (ofProcessor nullLogExporter)
      (toLogRecordProcessor env) :=
    toProcessor_exact hexporter rfl fun _ => (read_of_anyObject · _)
  have hprovider (v : Value) (hv : anyObject v ∧
      arrayOf (processor SupportedLogRecordExporter) (v.property "processors")) := hv
  apply (buildEach_exact hexact hprovider).required
  intro config h
  rcases record_optional (Or.inr h.1) "logger_provider" LoggerProvider (by simp) with hv | hv
  · exact Or.inl hv
  · obtain ⟨items, hitems, hvalid⟩ := hv.2.1 ("processors", arrayOf (processor LogRecordExporter)) (by simp)
    refine Or.inr ⟨hv.1, items, hitems, ?_⟩
    intro item hitem
    apply supported_processor (hvalid item hitem)
    apply h.2
    simp only at hitems
    rw [hitems]
    exact hitem

theorem any_or {α : Type} (f g : α → Bool) (l : List α) :
    (l.any fun a => f a || g a) = (l.any f || l.any g) := by
  induction l with
  | nil => rfl
  | cons a l ih =>
    rw [List.any_cons, List.any_cons, List.any_cons, ih]
    ac_rfl

theorem ofProcessor_or (f g : Value → Bool) :
    (ofProcessor fun v => f v || g v) = fun v => ofProcessor f v || ofProcessor g v := by
  funext v
  simp only [ofProcessor]
  ac_rfl

theorem fails_eq (config : Value) :
    (nullSampler ((config.property "tracer_provider").property "sampler") ||
      (listed ((config.property "tracer_provider").property "processors")).any
        (ofProcessor fun v => nullExporter v || refusedExporter env v) ||
      (listed ((config.property "meter_provider").property "readers")).any
        (ofReader fun v => nullExporter v || refusedExporter env v) ||
      (listed ((config.property "logger_provider").property "processors")).any
        (ofProcessor nullLogExporter)) = (hasNullNode config || hasRefusedNode env config) := by
  have hreaders : (ofReader fun v => nullExporter v || refusedExporter env v) =
      fun v => ofReader nullExporter v || ofReader (refusedExporter env) v := rfl
  rw [ofProcessor_or, hreaders, any_or, any_or]
  simp only [hasNullNode, hasRefusedNode]
  ac_rfl

theorem buildPipelines_exact :
    NullExact SupportedConfiguration (fun config => hasNullNode config || hasRefusedNode env config)
      (buildPipelines env) where
  returns config h := by
    have hsampler := configGetSampler_exact.returns config h
    have hspans := (defaultSpanProcessorFactory_exact env).returns config h
    have hmetrics := (defaultMetricReaderFactory_exact env).returns config h
    have hlogs := (defaultLogRecordProcessorFactory_exact env).returns config h
    rw [← fails_eq]
    simp only [Bool.or_eq_false_iff]
    rw [← hsampler, ← hspans, ← hmetrics, ← hlogs]
    constructor
    · rintro ⟨pipelines, hbuilt⟩
      obtain ⟨sampler, hsampler, hbuilt⟩ := bind_eq_ok.mp hbuilt
      obtain ⟨spanProcessors, hspans, hbuilt⟩ := bind_eq_ok.mp hbuilt
      obtain ⟨metricReaders, hmetrics, hbuilt⟩ := bind_eq_ok.mp hbuilt
      obtain ⟨logRecordProcessors, hlogs, -⟩ := bind_eq_ok.mp hbuilt
      exact ⟨⟨⟨⟨sampler, hsampler⟩, spanProcessors, hspans⟩, metricReaders, hmetrics⟩,
        logRecordProcessors, hlogs⟩
    · rintro ⟨⟨⟨⟨sampler, hsampler⟩, spanProcessors, hspans⟩, metricReaders, hmetrics⟩,
        logRecordProcessors, hlogs⟩
      exact ⟨⟨sampler, spanProcessors, metricReaders, logRecordProcessors⟩,
        bind_eq_ok.mpr ⟨_, hsampler, bind_eq_ok.mpr ⟨_, hspans, bind_eq_ok.mpr ⟨_, hmetrics,
          bind_eq_ok.mpr ⟨_, hlogs, rfl⟩⟩⟩⟩⟩
  same v w hv hw hvw hfails := by
    rw [← fails_eq] at hfails
    simp only [Bool.or_eq_false_iff] at hfails
    obtain ⟨⟨⟨hsampler, hspans⟩, hmetrics⟩, hlogs⟩ := hfails
    unfold buildPipelines
    rw [configGetSampler_exact.same v w hv hw hvw hsampler,
      (defaultSpanProcessorFactory_exact env).same v w hv hw hvw hspans,
      (defaultMetricReaderFactory_exact env).same v w hv hw hvw hmetrics,
      (defaultLogRecordProcessorFactory_exact env).same v w hv hw hvw hlogs]

end Providers

/-- **Null nodes.** A config builds its pipelines, and the same ones with empty objects for nulls,
exactly when no node that a builder reads as an object is null, and gRPC takes the headers and the
TLS files that it is given. -/
theorem pipelines_built_iff (env : Platform) (config : Value) (h : SupportedConfiguration config) :
    (∃ pipelines, buildPipelines env config = .ok pipelines ∧
        ∀ config', SupportedConfiguration config' → NullAsEmpty config config' →
          buildPipelines env config' = .ok pipelines) ↔
      hasNullNode config = false ∧ hasRefusedNode env config = false := by
  rw [← Bool.or_eq_false_iff]
  constructor
  · rintro ⟨pipelines, hbuilt, -⟩
    exact ((buildPipelines_exact env).returns config h).mp ⟨pipelines, hbuilt⟩
  · intro hfails
    obtain ⟨pipelines, hbuilt⟩ := ((buildPipelines_exact env).returns config h).mpr hfails
    refine ⟨pipelines, hbuilt, ?_⟩
    intro config' h' hrelated
    rw [← (buildPipelines_exact env).same config config' h h' hrelated hfails]
    exact hbuilt

/-! ## One exporter -/

/-- One batch processor with the exporter. -/
def exportingTo (name : String) (node : Value) : Value :=
  .object [("file_format", .string "1.0"),
    ("tracer_provider", .object [("processors", .array [
      .object [("batch", .object [("exporter", .object [(name, node)])])]])])]

/-- The exporter is named without options. -/
def bareExporter (name : String) : Value := exportingTo name .null

def nowhere : Platform where
  constructUrl _ := none
  readFileSync _ := none
  numberToString _ := ""
  grpc := plainGrpc

theorem spanExporter_bare (name : String) : SpanExporter (.object [(name, .null)]) := by
  refine ⟨name, .null, rfl, Or.inl rfl, ?_⟩
  intro p hp _
  simp only [List.mem_cons, List.not_mem_nil, or_false] at hp
  rcases hp with rfl | rfl | rfl
  · exact Or.inl rfl
  · exact Or.inl rfl
  · exact Or.inl rfl

section

variable {exporter : Value} (h : SpanExporter exporter)

include h

theorem batchProcessor_only :
    batchProcessor SpanExporter (.object [("exporter", exporter)]) := by
  refine ⟨⟨_, rfl⟩, List.forall_mem_singleton.mpr h, ?_⟩
  intro p hp
  simp only [List.mem_cons, List.not_mem_nil, or_false] at hp
  rcases hp with rfl | rfl | rfl | rfl
  · exact Or.inl rfl
  · exact Or.inl rfl
  · exact Or.inl rfl
  · exact Or.inl rfl

theorem processor_only :
    processor SpanExporter (.object [("batch", .object [("exporter", exporter)])]) := by
  refine ⟨"batch", _, rfl, Or.inr ⟨_, rfl⟩, ?_⟩
  intro p hp hname
  simp only [List.mem_cons, List.not_mem_nil, or_false] at hp
  rcases hp with rfl | rfl
  · exact batchProcessor_only h
  · exact absurd hname (by decide)

end

theorem supported_exportingTo {name : String} {node : Value}
    (h : SpanExporter (.object [(name, node)])) : SupportedConfiguration (exportingTo name node) := by
  refine ⟨⟨⟨_, rfl⟩, List.forall_mem_singleton.mpr ⟨"1.0", rfl⟩, ?_⟩, ?_⟩
  · intro p hp
    simp only [List.mem_cons, List.not_mem_nil, or_false] at hp
    rcases hp with rfl | rfl | rfl
    · refine Or.inr ⟨⟨_, rfl⟩, List.forall_mem_singleton.mpr ⟨_, rfl, ?_⟩,
        List.forall_mem_singleton.mpr (Or.inl rfl)⟩
      exact List.forall_mem_singleton.mpr (processor_only h)
    · exact Or.inl rfl
    · exact Or.inl rfl
  · intro processor hprocessor
    cases hprocessor

/-- TLS without files, and a header with a value beside one without. -/
def tenantNode : Value :=
  .object [("tls", .object []), ("headers", .array [
    .object [("name", .string "tenant"), ("value", .string "a")],
    .object [("name", .string "no tenant"), ("value", .null)]])]

theorem otlpExporter_tenant : otlpExporter tenantNode := by
  refine Or.inr ⟨⟨_, rfl⟩, by simp, ?_⟩
  intro p hp
  simp only [List.mem_cons, List.not_mem_nil, or_false] at hp
  rcases hp with rfl | rfl | rfl | rfl | rfl | rfl
  · exact Or.inl rfl
  · refine Or.inr (Or.inr ⟨⟨_, rfl⟩, by simp, ?_⟩)
    simpa using ⟨Or.inl rfl, Or.inl rfl, Or.inl rfl⟩
  · refine Or.inr ⟨_, rfl, ?_⟩
    intro header hheader
    simp only [List.mem_cons, List.not_mem_nil, or_false] at hheader
    rcases hheader with rfl | rfl
    · exact ⟨⟨_, rfl⟩, by simpa using ⟨⟨"tenant", rfl⟩, Or.inr ⟨"a", rfl⟩⟩, by simp⟩
    · exact ⟨⟨_, rfl⟩, by simpa using ⟨⟨"no tenant", rfl⟩, Or.inl rfl⟩, by simp⟩
  · exact Or.inl rfl
  · exact Or.inl rfl
  · exact Or.inl rfl

theorem spanExporter_tenant : SpanExporter (.object [("otlp_grpc", tenantNode)]) := by
  refine ⟨"otlp_grpc", tenantNode, rfl, Or.inr ⟨_, rfl⟩, ?_⟩
  intro p hp hname
  simp only [List.mem_cons, List.not_mem_nil, or_false] at hp
  rcases hp with rfl | rfl | rfl
  · exact absurd hname (by decide)
  · exact otlpExporter_tenant
  · exact absurd hname (by decide)

theorem tenant_exporter_builds :
    ∃ pipelines, buildPipelines nowhere (exportingTo "otlp_grpc" tenantNode) = .ok pipelines ∧
      ∀ config', SupportedConfiguration config' →
        NullAsEmpty (exportingTo "otlp_grpc" tenantNode) config' →
          buildPipelines nowhere config' = .ok pipelines :=
  (pipelines_built_iff nowhere (exportingTo "otlp_grpc" tenantNode)
    (supported_exportingTo spanExporter_tenant)).mpr (by decide)

theorem bare_otlp_http_throws :
    SupportedConfiguration (bareExporter "otlp_http") ∧
      buildPipelines nowhere (bareExporter "otlp_http") =
        .error ⟨"TypeError", "Cannot read properties of null (reading 'headers')"⟩ :=
  ⟨supported_exportingTo (spanExporter_bare "otlp_http"), rfl⟩

end SplunkOtel.Configuration
