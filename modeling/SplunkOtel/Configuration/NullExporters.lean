import SplunkOtel.Configuration.NullExact
import SplunkOtel.Configuration.Pipelines

/-!
# Null nodes of exporters

The builders of exporters, processors and readers are exact about nulls.
-/

namespace SplunkOtel.Configuration

open Js Lib Schema

/-! ## Exporters -/

theorem headerPair_exact : NullExact NameStringValuePair (fun _ => false) headerPair where
  returns := by
    rintro v ⟨hv, -⟩
    refine iff_of_true ?_ rfl
    unfold headerPair
    rw [read_of_anyObject hv, read_of_anyObject hv]
    cases hnull : (v.property "value").isNull with
    | true => exact ⟨none, by simp [hnull, ok_bind, pure, Except.pure]⟩
    | false =>
      exact ⟨some (v.property "name", v.property "value"),
        by simp [hnull, ok_bind, pure, Except.pure]⟩
  same := by
    rintro v w hv hw hvw -
    have hname : v.property "name" = w.property "name" :=
      (hvw.property "name").eq_of_scalar
        (scalar_of_text (Or.inr (Or.inr (hw.2.1 ("name", text) (by simp)))))
    have hvalue : v.property "value" = w.property "value" :=
      (hvw.property "value").eq_of_scalar
        (scalar_of_text (Or.inr (hw.2.1 ("value", nullable text) (by simp))))
    unfold headerPair
    rw [read_of_anyObject hv.1, read_of_anyObject hv.1, read_of_anyObject hw.1,
      read_of_anyObject hw.1, hname, hvalue]

def optionalHeaders : Definition := fun v => v = .undefined ∨ arrayOf NameStringValuePair v

theorem eachHeader_exact {α : Type} {fails : Value → Bool}
    {build : Value → Except Thrown (Option α)} (h : NullExact NameStringValuePair fails build) :
    NullExact optionalHeaders (fun v => (listed v).any fails) fun v =>
      (v.or (.array [])).items >>= fun headers =>
        headers.mapM build >>= fun built => .ok built.reduceOption where
  returns := by
    rintro v (rfl | hv)
    · exact iff_of_true ⟨[], rfl⟩ rfl
    · have hreturns := (h.each.map List.reduceOption).returns v hv
      obtain ⟨items, rfl, -⟩ := hv
      exact hreturns
  same := by
    rintro v w hv (rfl | hw) hvw hfails
    · rw [hvw.eq_of_scalar trivial]
    · rcases hv with rfl | hv
      · obtain ⟨items, rfl, -⟩ := hw
        cases hvw
      · have hsame := (h.each.map List.reduceOption).same v w hv hw hvw hfails
        obtain ⟨items, rfl, -⟩ := hv
        obtain ⟨items', rfl, -⟩ := hw
        exact hsame

theorem headerPairs_exact :
    NullExact optionalHeaders (fun _ => false) fun v => headerPairs (v.or (.array [])) := by
  have hexact := eachHeader_exact headerPair_exact
  simp only [List.any_eq_false.mpr fun _ _ => Bool.false_ne_true] at hexact
  exact hexact

/-- A header that `metadata.set` throws for. -/
def refusedHeader (grpc : GrpcModule) (header : Value) : Bool :=
  !(header.property "value").isNull &&
    !(grpc.metadataSet (header.property "name") (header.property "value")).isOk

theorem setMetadata_exact (grpc : GrpcModule) :
    NullExact NameStringValuePair (refusedHeader grpc) (setMetadata grpc) where
  returns := by
    rintro v ⟨hv, -⟩
    unfold setMetadata headerPair refusedHeader
    rw [read_of_anyObject hv, read_of_anyObject hv]
    cases hnull : (v.property "value").isNull with
    | true => exact iff_of_true ⟨none, by simp [hnull, ok_bind, pure, Except.pure]⟩ rfl
    | false =>
      cases hset : grpc.metadataSet (v.property "name") (v.property "value") with
      | ok u =>
        refine iff_of_true ⟨some (v.property "name", v.property "value"), ?_⟩ rfl
        simp [hnull, hset, ok_bind, pure, Except.pure]
      | error e =>
        refine iff_of_false ?_ (by simp [Except.isOk, Except.toBool])
        rintro ⟨pair, hpair⟩
        simp only [hnull, ok_bind, pure, Except.pure, Bool.false_eq_true, if_false, hset] at hpair
        cases hpair
  same v w hv hw hvw _ := by
    unfold setMetadata
    rw [headerPair_exact.same v w hv hw hvw rfl]

theorem setAllMetadata_exact (grpc : GrpcModule) :
    NullExact optionalHeaders (fun v => (listed v).any (refusedHeader grpc))
      fun v => setAllMetadata grpc (v.or (.array [])) :=
  eachHeader_exact (setMetadata_exact grpc)

theorem tls_file_same (env : Platform) {v w : Value} (h : NullAsEmpty v w)
    (hw : w = .undefined ∨ tls w) (name : String) (hname : (name, nullable text) ∈
      [("ca_file", nullable text), ("key_file", nullable text), ("cert_file", nullable text)]) :
    readFileContent env (v.property name) = readFileContent env (w.property name) := by
  have hfile : Scalar (w.property name) := by
    apply scalar_of_text
    rcases hw with rfl | hw
    · exact Or.inl rfl
    · exact record_optional hw name (nullable text) hname
  rw [(h.property name).eq_of_scalar hfile]

theorem tlsFiles_same (env : Platform) {v w : Value} (h : NullAsEmpty v w)
    (hw : w = .undefined ∨ tls w) : tlsFiles env v = tlsFiles env w := by
  unfold tlsFiles
  rw [tls_file_same env h hw "ca_file" (by simp),
    tls_file_same env h hw "cert_file" (by simp),
    tls_file_same env h hw "key_file" (by simp)]

theorem sslArguments_same (env : Platform) {v w : Value} (h : NullAsEmpty v w)
    (hw : w = .undefined ∨ tls w) : sslArguments env v = sslArguments env w := by
  unfold sslArguments
  rw [tls_file_same env h hw "ca_file" (by simp),
    tls_file_same env h hw "cert_file" (by simp),
    tls_file_same env h hw "key_file" (by simp)]

/-- A TLS block whose files `createSsl` throws for. -/
def refusedTls (env : Platform) (tls : Value) : Bool :=
  !tls.isUndefined && !(env.grpc.createSsl (sslArguments env tls)).isOk

/-- `createSsl` gets the CA for a certificate chain: a key with its own certificate is refused where
there is no CA, and so is a CA alone. -/
theorem refusedTls_of_unpaired (env : Platform) {tls : Value} (hthere : tls.isUndefined = false)
    (h : ¬ ((readFileContent env (tls.property "key_file")).isSome ↔
      (readFileContent env (tls.property "ca_file")).isSome)) : refusedTls env tls = true := by
  unfold refusedTls
  rw [hthere]
  cases hssl : env.grpc.createSsl (sslArguments env tls) with
  | ok u => exact absurd (env.grpc.paired _ hssl) h
  | error e => rfl

theorem sslCredentials_exact (env : Platform) :
    NullExact (fun v => v = .undefined ∨ tls v) (refusedTls env) (sslCredentials env) where
  returns v _ := by
    unfold sslCredentials refusedTls
    cases v.isUndefined with
    | true => exact iff_of_true ⟨none, rfl⟩ rfl
    | false =>
      cases hssl : env.grpc.createSsl (sslArguments env v) with
      | ok u => exact iff_of_true ⟨some (sslArguments env v), rfl⟩ rfl
      | error e =>
        refine iff_of_false ?_ (by simp [Except.isOk, Except.toBool])
        rintro ⟨credentials, h⟩
        cases h
  same v w _ hw hvw _ := by
    unfold sslCredentials
    rw [sslArguments_same env hvw hw, hvw.isUndefined_eq]

theorem otlpExporter_same {v w : Value} (h : NullAsEmpty v w) (hw : otlpExporter w) :
    v.property "endpoint" = w.property "endpoint" ∧ v.property "timeout" = w.property "timeout" ∧
      v.property "compression" = w.property "compression" ∧
      v.property "temporality_preference" = w.property "temporality_preference" := by
  refine ⟨?_, ?_, ?_, ?_⟩
  · exact (h.property _).eq_of_scalar
      (scalar_of_text (record_optional hw "endpoint" (nullable text) (by simp)))
  · exact (h.property _).eq_of_scalar
      (scalar_of_number (record_optional hw "timeout" (nullable number) (by simp)))
  · exact (h.property _).eq_of_scalar
      (scalar_of_text (record_optional hw "compression" (nullable text) (by simp)))
  · exact (h.property _).eq_of_scalar
      (scalar_of_text (record_optional hw "temporality_preference" (nullable text) (by simp)))

theorem otlpExporter_headers {v : Value} (hv : otlpExporter v) :
    optionalHeaders (v.property "headers") :=
  record_optional hv "headers" (arrayOf NameStringValuePair) (by simp)

theorem anyObject_of_notNull {v : Value} (hv : otlpExporter v) (hnull : v.isNull = false) :
    anyObject v := by
  rcases hv with rfl | hv
  · cases hnull
  · exact hv.1

theorem otlpExporter_tls {v : Value} (hv : otlpExporter v) :
    v.property "tls" = .undefined ∨ tls (v.property "tls") :=
  record_optional hv "tls" tls (by simp)

theorem otlpNode_exact {α β : Type} {fails : Value → Bool} {parts : Value → Except Thrown β}
    (hparts : NullExact otlpExporter fails parts) (options : Value → β → α)
    (hsame : ∀ v w b, NullAsEmpty v w → otlpExporter w → options v b = options w b) :
    NullExact otlpExporter (fun v => v.isNull || fails v) fun v =>
      v.read "headers" >>= fun _ => parts v >>= fun b => .ok (options v b) where
  returns v hv := by
    rcases hv with rfl | ⟨hobject, hv⟩
    · refine iff_of_false ?_ (by simp [Value.isNull])
      rintro ⟨options, h⟩
      cases h
    · have hnull : v.isNull = false := by
        obtain ⟨properties, rfl⟩ := hobject
        rfl
      rw [read_of_anyObject hobject, hnull, Bool.false_or]
      exact (hparts.map (options v)).returns v (Or.inr ⟨hobject, hv⟩)
  same v w hv hw hvw hfails := by
    obtain ⟨hnull, hfails⟩ := Bool.or_eq_false_iff.mp hfails
    have hobject := anyObject_of_notNull hv hnull
    simp only [read_of_anyObject hobject, read_of_anyObject (hvw.anyObject hobject), ok_bind,
      hparts.same v w hv hw hvw hfails, hsame v w _ hvw hw]

section OtlpExporters

variable (env : Platform) (resourcePath : String)
  (temporality : Value → Option AggregationTemporalityPreference)

theorem otlpHttpExporter_exact :
    NullExact otlpExporter Value.isNull (otlpHttpExporter env resourcePath temporality) := by
  have hheaders := headerPairs_exact.required fun v hv => otlpExporter_headers (v := v) hv
  have hexact := otlpNode_exact hheaders (fun otlpHttp headers => ({
      url := ensureResourcePath env.constructUrl (optionalText (otlpHttp.property "endpoint"))
        resourcePath
      headers := some (headerRecord env headers)
      timeoutMillis := (otlpHttp.property "timeout").orElse .undefined
      compression := toCompression (otlpHttp.property "compression")
      httpAgentOptions := some (tlsFiles env (otlpHttp.property "tls"))
      temporalityPreference := temporality (otlpHttp.property "temporality_preference") } :
      OtlpHttpOptions)) ?_
  · simp only [Bool.or_false] at hexact
    apply hexact.congr
    intro v _
    cases v <;> rfl
  · intro v w pairs hvw hw
    obtain ⟨hendpoint, htimeout, hcompression, htemporality⟩ := otlpExporter_same hvw hw
    have htls := tlsFiles_same env (hvw.property "tls") (otlpExporter_tls hw)
    simp only [hendpoint, htimeout, hcompression, htemporality, htls]

/-- Of an `otlp_grpc` node: a header or the TLS files are refused. -/
def refusedGrpc (cfgGrpc : Value) : Bool :=
  (listed (cfgGrpc.property "headers")).any (refusedHeader env.grpc) ||
    refusedTls env (cfgGrpc.property "tls")

theorem otlpGrpcExporter_exact :
    NullExact otlpExporter (fun v => v.isNull || refusedGrpc env v)
      (otlpGrpcExporter env temporality) := by
  have hmetadata := (setAllMetadata_exact env.grpc).required fun v hv =>
    otlpExporter_headers (v := v) hv
  have hcredentials := (sslCredentials_exact env).required fun v hv => otlpExporter_tls (v := v) hv
  have hexact := otlpNode_exact (hmetadata.andThen hcredentials) (fun cfgGrpc parts => ({
      url := (cfgGrpc.property "endpoint").orElse .undefined
      metadata := parts.1
      timeoutMillis := (cfgGrpc.property "timeout").orElse .undefined
      compression := toCompression (cfgGrpc.property "compression")
      credentials := parts.2
      temporalityPreference := temporality (cfgGrpc.property "temporality_preference") } :
      OtlpGrpcOptions)) ?_
  · apply hexact.congr
    intro v _
    simp only [bind_assoc, ok_bind]
    cases v <;> rfl
  · intro v w parts hvw hw
    obtain ⟨hendpoint, htimeout, hcompression, htemporality⟩ := otlpExporter_same hvw hw
    simp only [hendpoint, htimeout, hcompression, htemporality]

/-- The node of the protocol is null. -/
def nullExporter (exporter : Value) : Bool :=
  (exporter.property "otlp_http").isNull || (exporter.property "otlp_grpc").isNull

def refusedExporter (exporter : Value) : Bool := refusedGrpc env (exporter.property "otlp_grpc")

theorem refusedGrpc_undefined : refusedGrpc env .undefined = false := rfl

theorem toOtlpExporter_eq {v : Value} (hv : anyObject v) :
    toOtlpExporter env resourcePath temporality v =
      if ¬ (v.property "otlp_http").isUndefined then
        otlpHttpExporter env resourcePath temporality (v.property "otlp_http") >>=
          fun options => .ok (some (.otlpHttp options))
      else if ¬ (v.property "otlp_grpc").isUndefined then
        otlpGrpcExporter env temporality (v.property "otlp_grpc") >>=
          fun options => .ok (some (.otlpGrpc options))
      else if ¬ (v.property "console").isUndefined then .ok (some .console)
      else .ok none := by
  unfold toOtlpExporter
  rw [read_of_anyObject hv, read_of_anyObject hv, read_of_anyObject hv]
  rfl

theorem toOtlpExporter_exact :
    NullExact SpanExporter (fun v => nullExporter v || refusedExporter env v)
      (toOtlpExporter env resourcePath temporality) where
  returns v hv := by
    rw [toOtlpExporter_eq env resourcePath temporality (oneOf_anyObject hv)]
    unfold nullExporter refusedExporter
    have hhttp := oneOf_property hv "otlp_http" otlpExporter (by simp)
    have hgrpc := oneOf_property hv "otlp_grpc" otlpExporter (by simp)
    cases hhttpUndefined : (v.property "otlp_http").isUndefined with
    | false =>
      rw [oneOf_other hv (show "otlp_http" ≠ "otlp_grpc" by decide) hhttpUndefined]
      have hexact := (otlpHttpExporter_exact env resourcePath temporality).map
        fun options => some (Exporter.otlpHttp options)
      rw [refusedGrpc_undefined]
      simpa [Value.isNull] using hexact.returns _ (valid_of_present hhttp hhttpUndefined)
    | true =>
      rw [isNull_of_isUndefined hhttpUndefined, Bool.false_or]
      cases hgrpcUndefined : (v.property "otlp_grpc").isUndefined with
      | false =>
        have hexact := (otlpGrpcExporter_exact env temporality).map
          fun options => some (Exporter.otlpGrpc options)
        simpa using hexact.returns _ (valid_of_present hgrpc hgrpcUndefined)
      | true =>
        rw [eq_undefined hgrpcUndefined]
        refine iff_of_true ?_ rfl
        cases (v.property "console").isUndefined with
        | false => exact ⟨some .console, rfl⟩
        | true => exact ⟨none, rfl⟩
  same v w hv hw hvw hfails := by
    obtain ⟨hnull, hrefused⟩ := Bool.or_eq_false_iff.mp hfails
    obtain ⟨hhttpNull, hgrpcNull⟩ := Bool.or_eq_false_iff.mp hnull
    have hgrpcFails := Bool.or_eq_false_iff.mpr ⟨hgrpcNull, hrefused⟩
    rw [toOtlpExporter_eq env resourcePath temporality (oneOf_anyObject hv),
      toOtlpExporter_eq env resourcePath temporality (oneOf_anyObject hw),
      ← (hvw.property "otlp_http").isUndefined_eq, ← (hvw.property "otlp_grpc").isUndefined_eq,
      ← (hvw.property "console").isUndefined_eq]
    cases hhttp : (v.property "otlp_http").isUndefined with
    | false =>
      have hsame := (otlpHttpExporter_exact env resourcePath temporality).same_property hvw
        "otlp_http" (oneOf_property hv _ _ (by simp)) (oneOf_property hw _ _ (by simp)) hhttp hhttpNull
      simp [hsame]
    | true =>
      cases hgrpc : (v.property "otlp_grpc").isUndefined with
      | false =>
        have hsame := (otlpGrpcExporter_exact env temporality).same_property hvw
          "otlp_grpc" (oneOf_property hv _ _ (by simp)) (oneOf_property hw _ _ (by simp)) hgrpc hgrpcFails
        simp [hsame]
      | true => rfl

end OtlpExporters

theorem toSpanExporter_exact (env : Platform) :
    NullExact SpanExporter (fun v => nullExporter v || refusedExporter env v)
      (toSpanExporter env) := toOtlpExporter_exact env _ _

theorem toMetricExporter_exact (env : Platform) :
    NullExact PushMetricExporter (fun v => nullExporter v || refusedExporter env v)
      (toMetricExporter env) := toOtlpExporter_exact env _ _

/-! ## Log exporters -/

/-- The log exporters that are supported. Others make the builder throw. -/
def SupportedLogRecordExporter : Definition := fun v =>
  LogRecordExporter v ∧
    ((v.property "console").isUndefined = false ∨ (v.property "otlp_http").isUndefined = false)

def nullLogExporter (exporter : Value) : Bool := (exporter.property "otlp_http").isNull

/-- What `toExporter` makes of an OTLP node. -/
def otlpLogExporter (env : Platform) (cxp : Value) : Except Thrown Exporter := do
  let url := optionalText (← cxp.read "endpoint")
  let headers ← nameStringValuePairsToRecord env (cxp.property "headers")
  return .otlpHttp {
    url
    headers
    timeoutMillis := (cxp.property "timeout").orElse .undefined
    compression := toCompression (cxp.property "compression") }

theorem toExporter_eq (env : Platform) {v : Value} (hv : anyObject v) :
    toExporter env v =
      if ¬ (v.property "console").isUndefined then .ok .console
      else if ¬ (v.property "otlp_http").isUndefined then otlpLogExporter env (v.property "otlp_http")
      else .error ⟨"Error", "Unsupported log exporter requested: " ++ firstKey v⟩ := by
  unfold toExporter
  rw [read_of_anyObject hv, read_of_anyObject hv]
  rfl

theorem nameStringValuePairsToRecord_exact (env : Platform) :
    NullExact optionalHeaders (fun _ => false) (nameStringValuePairsToRecord env) where
  returns := by
    rintro v (rfl | hv)
    · exact iff_of_true ⟨none, rfl⟩ rfl
    · have hexact := headerPairs_exact.map fun pairs => some (headerRecord env pairs)
      have hreturns := hexact.returns v (Or.inr hv)
      obtain ⟨items, rfl, -⟩ := hv
      exact hreturns
  same := by
    rintro v w hv (rfl | hw) hvw -
    · rw [hvw.eq_of_scalar trivial]
    · rcases hv with rfl | hv
      · obtain ⟨items, rfl, -⟩ := hw
        cases hvw
      · have hexact := headerPairs_exact.map fun pairs => some (headerRecord env pairs)
        have hsame := hexact.same v w (Or.inr hv) (Or.inr hw) hvw rfl
        obtain ⟨items, rfl, -⟩ := hv
        obtain ⟨items', rfl, -⟩ := hw
        exact hsame

theorem otlpLogExporter_exact (env : Platform) :
    NullExact otlpExporter Value.isNull (otlpLogExporter env) where
  returns v hv := by
    constructor
    · rintro ⟨options, h⟩
      rcases v with _ | _ | _ | _ | _ | _ | _
      all_goals first | rfl | cases h
    · intro hnull
      obtain ⟨headers, hheaders⟩ :=
        ((nameStringValuePairsToRecord_exact env).returns _ (otlpExporter_headers hv)).mpr rfl
      unfold otlpLogExporter
      rw [read_of_anyObject (anyObject_of_notNull hv hnull)]
      exact ⟨_, bind_eq_ok.mpr ⟨_, rfl, bind_eq_ok.mpr ⟨headers, hheaders, rfl⟩⟩⟩
  same v w hv hw hvw hnull := by
    have hobject := anyObject_of_notNull hv hnull
    have hheaders := (nameStringValuePairsToRecord_exact env).same _ _ (otlpExporter_headers hv)
      (otlpExporter_headers hw) (hvw.property "headers") rfl
    obtain ⟨hendpoint, htimeout, hcompression, -⟩ := otlpExporter_same hvw hw
    unfold otlpLogExporter
    rw [read_of_anyObject hobject, read_of_anyObject (hvw.anyObject hobject)]
    simp only [ok_bind, hheaders, hendpoint, htimeout, hcompression]

theorem toExporter_exact (env : Platform) :
    NullExact SupportedLogRecordExporter nullLogExporter (toExporter env) where
  returns := by
    rintro v ⟨hv, hsupported⟩
    rw [toExporter_eq env (oneOf_anyObject hv)]
    unfold nullLogExporter
    cases hconsole : (v.property "console").isUndefined with
    | false =>
      rw [oneOf_other hv (show "console" ≠ "otlp_http" by decide) hconsole]
      exact iff_of_true ⟨.console, rfl⟩ rfl
    | true =>
      rcases hsupported with h | hhttp
      · rw [hconsole] at h
        cases h
      · have hnode := valid_of_present
          (oneOf_property hv "otlp_http" otlpExporter (by simp)) hhttp
        simpa [hhttp] using (otlpLogExporter_exact env).returns _ hnode
  same := by
    rintro v w ⟨hv, hsupported⟩ ⟨hw, -⟩ hvw hnull
    rw [toExporter_eq env (oneOf_anyObject hv), toExporter_eq env (oneOf_anyObject hw)]
    rw [← (hvw.property "otlp_http").isUndefined_eq, ← (hvw.property "console").isUndefined_eq]
    cases hconsole : (v.property "console").isUndefined with
    | false => rfl
    | true =>
      cases hhttp : (v.property "otlp_http").isUndefined with
      | false =>
        have hsame := (otlpLogExporter_exact env).same_property hvw
          "otlp_http" (oneOf_property hv _ _ (by simp)) (oneOf_property hw _ _ (by simp)) hhttp hnull
        simp [hsame]
      | true =>
        rcases hsupported with h | h
        · rw [hconsole] at h
          cases h
        · rw [hhttp] at h
          cases h

/-! ## Processors and readers -/

/-- Of the exporter of one of the two kinds of processor. -/
def ofProcessor (p : Value → Bool) (processor : Value) : Bool :=
  p ((processor.property "batch").property "exporter") ||
    p ((processor.property "simple").property "exporter")

theorem batch_exporter {valid : Definition} (v : Value) (hv : batchProcessor valid v) :
    valid (v.property "exporter") := hv.2.1 ("exporter", valid) (by simp)

theorem simple_exporter {valid : Definition} (v : Value) (hv : simpleProcessor valid v) :
    valid (v.property "exporter") := hv.2.1 ("exporter", valid) (by simp)

theorem periodic_exporter (v : Value) (hv : PeriodicMetricReader v) :
    PushMetricExporter (v.property "exporter") := hv.2.1 ("exporter", PushMetricExporter) (by simp)

theorem batchOptions_same {exporter : Definition} {v w : Value} (h : NullAsEmpty v w)
    (hw : w = .null ∨ batchProcessor exporter w) : batchOptions v = batchOptions w := by
  have hsame (name : String) (hname : (name, nullable number) ∈
      [("schedule_delay", nullable number), ("export_timeout", nullable number),
        ("max_queue_size", nullable number), ("max_export_batch_size", nullable number)]) :
      v.property name = w.property name :=
    (h.property name).eq_of_scalar (scalar_of_number (record_optional hw name _ hname))
  unfold batchOptions
  rw [hsame "max_export_batch_size" (by simp), hsame "schedule_delay" (by simp),
    hsame "export_timeout" (by simp), hsame "max_queue_size" (by simp)]

section Processors

variable {valid : Definition} {fails : Value → Bool}
  {build : Value → Except Thrown (Option Exporter)} {simpleExporter : Value → Except Thrown Value}

theorem toProcessor_eq {v : Value} (hv : anyObject v)
    (hbatch : anyObject (v.property "batch") ∨ v.property "batch" = .undefined)
    (hsimple : anyObject (v.property "simple") ∨ v.property "simple" = .undefined)
    (hread : ∀ simple, anyObject simple → simpleExporter simple = .ok (simple.property "exporter")) :
    toProcessor build simpleExporter v =
      if ¬ (v.property "batch").isUndefined then
        build ((v.property "batch").property "exporter") >>= fun exporter =>
          .ok (exporter.map fun exporter => .batch exporter (batchOptions (v.property "batch")))
      else if ¬ (v.property "simple").isUndefined then
        build ((v.property "simple").property "exporter") >>= fun exporter =>
          .ok (exporter.map .simple)
      else .ok none := by
  unfold toProcessor
  rw [read_of_anyObject hv, read_of_anyObject hv, ok_bind, ok_bind]
  rcases hbatch with hbatch | hbatch
  · rw [read_of_anyObject hbatch]
    rcases hsimple with hsimple | hsimple
    · rw [hread _ hsimple]
      rfl
    · rw [hsimple]
      rfl
  · rw [hbatch]
    rcases hsimple with hsimple | hsimple
    · rw [hread _ hsimple]
      rfl
    · rw [hsimple]
      rfl

theorem anyObject_or_undefined {required optional : List (String × Definition)} {v : Value}
    (h : v = .undefined ∨ record required optional v) : anyObject v ∨ v = .undefined :=
  h.symm.imp_left fun h => h.1

theorem toProcessor_exact (h : NullExact valid fails build) (hundefined : fails .undefined = false)
    (hread : ∀ simple, anyObject simple → simpleExporter simple = .ok (simple.property "exporter")) :
    NullExact (processor valid) (ofProcessor fails) (toProcessor build simpleExporter) where
  returns v hv := by
    have hbatch := oneOf_property hv "batch" (batchProcessor valid) (by simp)
    have hsimple := oneOf_property hv "simple" (simpleProcessor valid) (by simp)
    rw [toProcessor_eq (oneOf_anyObject hv) (anyObject_or_undefined hbatch)
      (anyObject_or_undefined hsimple) hread]
    unfold ofProcessor
    cases hbatchUndefined : (v.property "batch").isUndefined with
    | false =>
      rw [oneOf_other hv (show "batch" ≠ "simple" by decide) hbatchUndefined]
      have hexact := (h.required batch_exporter).map fun exporter =>
        exporter.map fun exporter => Processor.batch exporter (batchOptions (v.property "batch"))
      simpa [hundefined] using hexact.returns _ (valid_of_present hbatch hbatchUndefined)
    | true =>
      rw [eq_undefined hbatchUndefined]
      cases hsimpleUndefined : (v.property "simple").isUndefined with
      | false =>
        have hexact := (h.required simple_exporter).map fun exporter => exporter.map Processor.simple
        simpa [hundefined] using hexact.returns _ (valid_of_present hsimple hsimpleUndefined)
      | true =>
        rw [eq_undefined hsimpleUndefined]
        exact iff_of_true ⟨none, rfl⟩ (by simp [hundefined])
  same v w hv hw hvw hfails := by
    obtain ⟨hbatchFails, hsimpleFails⟩ := Bool.or_eq_false_iff.mp hfails
    have hbatch {u : Value} (hu : processor valid u) :=
      oneOf_property hu "batch" (batchProcessor valid) (by simp)
    have hsimple {u : Value} (hu : processor valid u) :=
      oneOf_property hu "simple" (simpleProcessor valid) (by simp)
    rw [toProcessor_eq (oneOf_anyObject hv) (anyObject_or_undefined (hbatch hv))
        (anyObject_or_undefined (hsimple hv)) hread,
      toProcessor_eq (oneOf_anyObject hw) (anyObject_or_undefined (hbatch hw))
        (anyObject_or_undefined (hsimple hw)) hread,
      ← (hvw.property "batch").isUndefined_eq, ← (hvw.property "simple").isUndefined_eq]
    cases hbatchUndefined : (v.property "batch").isUndefined with
    | false =>
      have hsame := (h.required batch_exporter).same_property hvw "batch" (hbatch hv) (hbatch hw)
        hbatchUndefined hbatchFails
      have hpresent : (w.property "batch").isUndefined = false := by
        rw [← (hvw.property "batch").isUndefined_eq]
        exact hbatchUndefined
      have hoptions := batchOptions_same (hvw.property "batch")
        (Or.inr (valid_of_present (hbatch hw) hpresent))
      simp [hsame, hoptions]
    | true =>
      cases hsimpleUndefined : (v.property "simple").isUndefined with
      | false =>
        have hsame := (h.required simple_exporter).same_property hvw "simple" (hsimple hv) (hsimple hw)
          hsimpleUndefined hsimpleFails
        simp [hsame]
      | true => rfl

end Processors

def ofReader (p : Value → Bool) (reader : Value) : Bool :=
  p ((reader.property "periodic").property "exporter")

theorem toMetricReader_eq (env : Platform) {v : Value} (hv : anyObject v)
    (hperiodic : anyObject (v.property "periodic") ∨ v.property "periodic" = .undefined) :
    toMetricReader env v =
      if ¬ (v.property "pull").isUndefined then .ok none
      else if ¬ (v.property "periodic").isUndefined then
        toMetricExporter env ((v.property "periodic").property "exporter") >>= fun exporter =>
          .ok (exporter.map fun exporter => {
            exporter
            exportIntervalMillis := ((v.property "periodic").property "interval").orElse .undefined
            exportTimeoutMillis := ((v.property "periodic").property "timeout").orElse .undefined })
      else .ok none := by
  unfold toMetricReader
  rw [read_of_anyObject hv, read_of_anyObject hv, ok_bind, ok_bind]
  rcases hperiodic with hperiodic | hperiodic
  · rw [read_of_anyObject hperiodic]
    rfl
  · rw [hperiodic]
    rfl

theorem toMetricReader_exact (env : Platform) :
    NullExact Schema.MetricReader (ofReader fun v => nullExporter v || refusedExporter env v)
      (toMetricReader env) where
  returns v hv := by
    have hperiodic := oneOf_property hv "periodic" PeriodicMetricReader (by simp)
    rw [toMetricReader_eq env (oneOf_anyObject hv) (anyObject_or_undefined hperiodic)]
    unfold ofReader
    cases hpull : (v.property "pull").isUndefined with
    | false =>
      rw [oneOf_other hv (show "pull" ≠ "periodic" by decide) hpull]
      exact iff_of_true ⟨none, rfl⟩ rfl
    | true =>
      cases hundefined : (v.property "periodic").isUndefined with
      | false =>
        have hexact := ((toMetricExporter_exact env).required periodic_exporter).map fun exporter =>
          exporter.map fun exporter => ({
            exporter
            exportIntervalMillis := ((v.property "periodic").property "interval").orElse .undefined
            exportTimeoutMillis := ((v.property "periodic").property "timeout").orElse .undefined } :
              MetricReader)
        simpa using hexact.returns _ (valid_of_present hperiodic hundefined)
      | true =>
        rw [eq_undefined hundefined]
        exact iff_of_true ⟨none, rfl⟩ rfl
  same v w hv hw hvw hnull := by
    have hperiodic {u : Value} (hu : Schema.MetricReader u) :=
      oneOf_property hu "periodic" PeriodicMetricReader (by simp)
    rw [toMetricReader_eq env (oneOf_anyObject hv) (anyObject_or_undefined (hperiodic hv)),
      toMetricReader_eq env (oneOf_anyObject hw) (anyObject_or_undefined (hperiodic hw)),
      ← (hvw.property "pull").isUndefined_eq, ← (hvw.property "periodic").isUndefined_eq]
    cases (v.property "pull").isUndefined with
    | false => rfl
    | true =>
      cases hundefined : (v.property "periodic").isUndefined with
      | false =>
        have hsame := ((toMetricExporter_exact env).required periodic_exporter).same_property hvw
          "periodic" (hperiodic hv) (hperiodic hw) hundefined hnull
        have hpresent : (w.property "periodic").isUndefined = false := by
          rw [← (hvw.property "periodic").isUndefined_eq]
          exact hundefined
        have hnode := valid_of_present (hperiodic hw) hpresent
        have hinterval := ((hvw.property "periodic").property "interval").eq_of_scalar
          (scalar_of_number (record_optional (Or.inr hnode) "interval" _ (by simp)))
        have htimeout := ((hvw.property "periodic").property "timeout").eq_of_scalar
          (scalar_of_number (record_optional (Or.inr hnode) "timeout" _ (by simp)))
        simp only [hsame, hinterval, htimeout]
      | true => rfl

theorem buildEach_exact {α : Type} {valid : Definition} {fails : Value → Bool}
    {build : Value → Except Thrown (Option α)} (h : NullExact valid fails build) {list : String}
    {provider : Definition}
    (hprovider : ∀ v, provider v → anyObject v ∧ arrayOf valid (v.property list)) :
    NullExact (fun v => v = .undefined ∨ provider v) (fun v => (listed (v.property list)).any fails)
      fun v => buildEach v list build where
  returns := by
    rintro v (rfl | hv)
    · exact iff_of_true ⟨none, rfl⟩ rfl
    · obtain ⟨⟨properties, rfl⟩, hlist⟩ := hprovider v hv
      have hexact := h.each.map fun built => some built.reduceOption
      refine Iff.trans ?_ (hexact.returns _ hlist)
      simp only [buildEach, Value.isUndefined, Bool.false_eq_true, if_false, Value.read_object,
        ok_bind, bind_assoc]
      rfl
  same := by
    rintro v w hv (rfl | hw) hvw hnull
    · rw [hvw.eq_of_scalar trivial]
    · rcases hv with rfl | hv
      · obtain ⟨⟨properties, rfl⟩, -⟩ := hprovider w hw
        cases hvw
      · have hlist := hvw.property list
        obtain ⟨⟨properties, rfl⟩, hv⟩ := hprovider v hv
        obtain ⟨⟨properties', rfl⟩, hw⟩ := hprovider w hw
        have hsame := (h.each.map fun built => some built.reduceOption).same _ _ hv hw hlist hnull
        simp only [buildEach, Value.isUndefined, Bool.false_eq_true, if_false, Value.read_object,
          ok_bind]
        rw [bind_assoc, bind_assoc] at hsame
        exact hsame

end SplunkOtel.Configuration
