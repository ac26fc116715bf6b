import SplunkOtel.Js.Access
import SplunkOtel.Lib.Except

/-!
# The sampler of rules (`src/tracing/RuleBasedSampler.ts`)

The spans of a trace are a forest, and each is sampled with the context of the one above it.
-/

open Lib SplunkOtel.Js

namespace SplunkOtel.Tracing

/-! ## The samplers of the SDK -/

inductive SpanKind where
  | INTERNAL
  | SERVER
  | CLIENT
  | PRODUCER
  | CONSUMER
deriving DecidableEq

/-- What a sampler is told of a span that starts. -/
structure SpanStart where
  kind : SpanKind
  /-- An attribute that is not set is undefined. -/
  attributes : String → Value

/-- What a span hands down of its sampling. -/
structure SamplingContext where
  sampled : Bool
  /-- The threshold in the trace state. -/
  threshold : Option ℕ

/-- Without a threshold the span is not sampled. -/
structure SamplingIntent where
  threshold : Option ℕ
  thresholdReliable : Bool

abbrev SamplingPredicate := SpanStart → Bool

/-- The composable samplers and what is specified of them. A parent is `none` where there is no valid
one, and `randomness` belongs to the trace. -/
structure SamplerSdk where
  ComposableSampler : Type
  Sampler : Type
  createComposableAlwaysOffSampler : ComposableSampler
  createComposableAlwaysOnSampler : ComposableSampler
  createComposableParentThresholdSampler : ComposableSampler → ComposableSampler
  createComposableRuleBasedSampler : List (SamplingPredicate × ComposableSampler) → ComposableSampler
  createCompositeSampler : ComposableSampler → Sampler
  getSamplingIntent : ComposableSampler → Option SamplingContext → SpanStart → SamplingIntent
  shouldSample : Sampler → ℕ → Option SamplingContext → SpanStart → SamplingContext
  alwaysOff_intent : ∀ parent span,
    (getSamplingIntent createComposableAlwaysOffSampler parent span).threshold = none
  alwaysOn_intent : ∀ parent span,
    getSamplingIntent createComposableAlwaysOnSampler parent span = ⟨some 0, true⟩
  root_intent : ∀ root span,
    getSamplingIntent (createComposableParentThresholdSampler root) none span =
      getSamplingIntent root none span
  /-- The threshold of the parent, else its flag. -/
  parent_intent : ∀ root parent span,
    getSamplingIntent (createComposableParentThresholdSampler root) (some parent) span =
      match parent.threshold with
      | some threshold => ⟨some threshold, true⟩
      | none => ⟨if parent.sampled then some 0 else none, false⟩
  /-- The first rule that matches decides. -/
  rule_intent : ∀ predicate sampler rules parent span,
    getSamplingIntent (createComposableRuleBasedSampler ((predicate, sampler) :: rules)) parent span =
      if predicate span then getSamplingIntent sampler parent span
      else getSamplingIntent (createComposableRuleBasedSampler rules) parent span
  /-- Sampled at a threshold up to the randomness. A threshold is kept where it is reliable. -/
  composite_sample : ∀ sampler randomness parent span,
    shouldSample (createCompositeSampler sampler) randomness parent span =
      let intent := getSamplingIntent sampler parent span
      let sampled := intent.threshold.any (· ≤ randomness)
      ⟨sampled, if sampled ∧ intent.thresholdReliable then intent.threshold else none⟩

/-! ## The sampler -/

section Sampler

variable (sdk : SamplerSdk)

def selectComposableSampler (type : String) : Except Thrown sdk.ComposableSampler :=
  match type with
  | "always_on" => .ok sdk.createComposableAlwaysOnSampler
  | "always_off" => .ok sdk.createComposableAlwaysOffSampler
  | "parentbased_always_on" =>
    .ok (sdk.createComposableParentThresholdSampler sdk.createComposableAlwaysOnSampler)
  | "parentbased_always_off" =>
    .ok (sdk.createComposableParentThresholdSampler sdk.createComposableAlwaysOffSampler)
  | type => .error ⟨"Error", "Unsupported fallback sampler " ++ type⟩

structure SamplerRules where
  dropValues : List String
  fallback : Option sdk.ComposableSampler

variable {sdk} in
def addRule (rules : SamplerRules sdk) (rule : String) : Except Thrown (SamplerRules sdk) :=
  match indexOf rule '=' 0 with
  | none => .ok rules
  | some eqIndex =>
    let key := trim (substring rule 0 eqIndex)
    let value := trim (substringFrom rule (eqIndex + 1))
    if key = "drop" ∧ value.length > 0 then
      .ok { rules with dropValues := rules.dropValues ++ [value] }
    else if key = "fallback" then do
      return { rules with fallback := some (← selectComposableSampler sdk value) }
    else .ok rules

def matchesDrops (dropValues : List String) (span : SpanStart) : Bool :=
  if span.kind ≠ .SERVER then false
  else
    match (span.attributes "url.path").orElse (span.attributes "http.target") with
    | .string target => dropValues.any (includes target ·)
    | _ => false

/-- The rules of an argument that is not blank. -/
def rulesOf (arg : Option String) : List String :=
  match arg with
  | none => []
  | some arg => if (trim arg).length > 0 then split arg ';' else []

def createRuleBasedSampler (arg : Option String) : Except Thrown sdk.Sampler := do
  let rules ← (rulesOf arg).foldlM addRule (⟨[], none⟩ : SamplerRules sdk)
  return sdk.createCompositeSampler (sdk.createComposableRuleBasedSampler
    [(matchesDrops rules.dropValues, sdk.createComposableAlwaysOffSampler),
      (fun _ => true, rules.fallback.getD sdk.createComposableAlwaysOnSampler)])

end Sampler

/-! ## What an argument says -/

/-- The key and the value of a rule, unless it is malformed. -/
def givenRule (rule : String) : Option (String × String) :=
  (indexOf rule '=' 0).map fun eqIndex =>
    (trim (substring rule 0 eqIndex), trim (substringFrom rule (eqIndex + 1)))

def dropOf (rule : String) : Option String :=
  (givenRule rule).bind fun given =>
    if given.1 = "drop" ∧ given.2.length > 0 then some given.2 else none

def fallbackOf (rule : String) : Option String :=
  (givenRule rule).bind fun given => if given.1 = "fallback" then some given.2 else none

def supportedFallbacks : List String :=
  ["always_on", "always_off", "parentbased_always_on", "parentbased_always_off"]

section Rules

variable (sdk : SamplerSdk)

theorem select_ok_iff (type : String) :
    (∃ sampler, selectComposableSampler sdk type = .ok sampler) ↔ type ∈ supportedFallbacks := by
  unfold selectComposableSampler
  constructor
  · rintro ⟨sampler, h⟩
    split at h
    · decide
    · decide
    · decide
    · decide
    · cases h
  · intro h
    simp only [supportedFallbacks, List.mem_cons, List.not_mem_nil, or_false] at h
    rcases h with rfl | rfl | rfl | rfl
    · exact ⟨_, rfl⟩
    · exact ⟨_, rfl⟩
    · exact ⟨_, rfl⟩
    · exact ⟨_, rfl⟩

theorem addRule_cases (rules : SamplerRules sdk) (rule : String) :
    (∃ value, dropOf rule = some value ∧ fallbackOf rule = none ∧
        addRule rules rule = .ok { rules with dropValues := rules.dropValues ++ [value] }) ∨
      (∃ type, dropOf rule = none ∧ fallbackOf rule = some type ∧
        addRule rules rule = selectComposableSampler sdk type >>= fun sampler =>
          .ok { rules with fallback := some sampler }) ∨
      dropOf rule = none ∧ fallbackOf rule = none ∧ addRule rules rule = .ok rules := by
  unfold dropOf fallbackOf givenRule addRule
  cases indexOf rule '=' 0 with
  | none => exact Or.inr (Or.inr ⟨rfl, rfl, rfl⟩)
  | some eqIndex =>
    simp only [Option.map_some, Option.bind_some]
    generalize trim (substring rule 0 eqIndex) = key
    generalize trim (substringFrom rule (eqIndex + 1)) = value
    by_cases hdrop : key = "drop" ∧ value.length > 0
    · left
      refine ⟨value, if_pos hdrop, ?_, if_pos hdrop⟩
      simp [hdrop.1]
    · by_cases hfallback : key = "fallback"
      · right
        left
        refine ⟨value, if_neg hdrop, if_pos hfallback, ?_⟩
        rw [if_neg hdrop, if_pos hfallback]
        rfl
      · right
        right
        refine ⟨if_neg hdrop, if_neg hfallback, ?_⟩
        rw [if_neg hdrop, if_neg hfallback]

theorem foldlM_addRule (list : List String) (rules : SamplerRules sdk)
    (h : ∀ type ∈ list.filterMap fallbackOf, type ∈ supportedFallbacks) :
    list.foldlM addRule rules = .ok ⟨rules.dropValues ++ list.filterMap dropOf,
      ((list.filterMap fallbackOf).getLast?.bind
        fun type => (selectComposableSampler sdk type).toOption).or rules.fallback⟩ := by
  induction list generalizing rules with
  | nil => simp [pure, Except.pure]
  | cons rule list ih =>
    rw [List.foldlM_cons]
    rcases addRule_cases sdk rules rule with ⟨value, hdrop, hnone, hadd⟩ |
      ⟨type, hnone, hfallback, hadd⟩ | ⟨hdrop, hfallback, hadd⟩
    · rw [List.filterMap_cons_none hnone] at h ⊢
      rw [hadd, ok_bind, ih _ h, List.filterMap_cons_some hdrop]
      simp
    · rw [List.filterMap_cons_some hfallback] at h ⊢
      obtain ⟨sampler, hsampler⟩ := (select_ok_iff sdk type).mpr (h type List.mem_cons_self)
      rw [hadd, hsampler, ok_bind, ok_bind, ih _ fun t ht => h t (List.mem_cons_of_mem _ ht),
        List.filterMap_cons_none hnone]
      cases hlast : (list.filterMap fallbackOf).getLast? with
      | none =>
        rw [List.getLast?_eq_none_iff.mp hlast]
        simp [hsampler, Except.toOption]
      | some last =>
        obtain ⟨sampler', hsampler'⟩ := (select_ok_iff sdk last).mpr
          (h last (List.mem_cons_of_mem _ (List.mem_of_getLast? hlast)))
        rw [List.getLast?_cons, hlast]
        simp [hsampler', Except.toOption]
    · rw [List.filterMap_cons_none hfallback] at h ⊢
      rw [hadd, ok_bind, ih _ h, List.filterMap_cons_none hdrop]

theorem supported_of_foldlM {list : List String} {rules rules' : SamplerRules sdk}
    (h : list.foldlM addRule rules = .ok rules') :
    ∀ type ∈ list.filterMap fallbackOf, type ∈ supportedFallbacks := by
  induction list generalizing rules with
  | nil =>
    intro type htype
    cases htype
  | cons rule list ih =>
    rw [List.foldlM_cons] at h
    obtain ⟨next, hnext, hrest⟩ := bind_eq_ok.mp h
    rcases addRule_cases sdk rules rule with ⟨value, -, hnone, -⟩ | ⟨type, -, hfallback, hadd⟩ |
      ⟨-, hfallback, -⟩
    · rw [List.filterMap_cons_none hnone]
      exact ih hrest
    · rw [List.filterMap_cons_some hfallback, List.forall_mem_cons]
      rw [hadd] at hnext
      obtain ⟨sampler, hsampler, -⟩ := bind_eq_ok.mp hnext
      exact ⟨(select_ok_iff sdk type).mp ⟨sampler, hsampler⟩, ih hrest⟩
    · rw [List.filterMap_cons_none hfallback]
      exact ih hrest

end Rules

def dropValuesOf (arg : Option String) : List String := (rulesOf arg).filterMap dropOf

def fallbacksOf (arg : Option String) : List String := (rulesOf arg).filterMap fallbackOf

/-- A server span whose path contains a drop value. -/
def Excluded (arg : Option String) (span : SpanStart) : Prop :=
  span.kind = .SERVER ∧ ∃ target,
    (span.attributes "url.path").orElse (span.attributes "http.target") = .string target ∧
      ∃ value ∈ dropValuesOf arg, includes target value = true

theorem matchesDrops_iff (arg : Option String) (span : SpanStart) :
    matchesDrops (dropValuesOf arg) span = true ↔ Excluded arg span := by
  unfold matchesDrops Excluded
  by_cases hkind : span.kind = .SERVER
  · rw [if_neg (not_not.mpr hkind)]
    simp only [hkind, true_and]
    split
    · rename_i target htarget
      simp [htarget]
    · rename_i htarget
      refine iff_of_false (by simp) ?_
      rintro ⟨target, h, -⟩
      exact htarget target h
  · simp [hkind]

/-! ## Traces -/

/-- Each span with the ones below it and the ones beside it. -/
inductive SpanForest where
  | nil
  | node (span : SpanStart) (below beside : SpanForest)

section Traces

variable (sdk : SamplerSdk)

/-- The last fallback, else `always_on`. -/
def lastFallback (arg : Option String) : sdk.ComposableSampler :=
  ((fallbacksOf arg).getLast?.bind fun type => (selectComposableSampler sdk type).toOption).getD
    sdk.createComposableAlwaysOnSampler

variable (sampler : sdk.Sampler) (arg : Option String) (randomness : ℕ)

def AllUnsampled : Option SamplingContext → SpanForest → Prop
  | _, .nil => True
  | parent, .node span below beside =>
    let context := sdk.shouldSample sampler randomness parent span
    context.sampled = false ∧ AllUnsampled (some context) below ∧ AllUnsampled parent beside

/-- An excluded span is dropped with all that is below it, and any other is left to the fallback. -/
def SampledByRules : Option SamplingContext → SpanForest → Prop
  | _, .nil => True
  | parent, .node span below beside =>
    let context := sdk.shouldSample sampler randomness parent span
    (Excluded arg span →
        context.sampled = false ∧ AllUnsampled sdk sampler randomness (some context) below) ∧
      (¬ Excluded arg span → context =
        sdk.shouldSample (sdk.createCompositeSampler (lastFallback sdk arg)) randomness parent span) ∧
      SampledByRules (some context) below ∧ SampledByRules parent beside

/-- Nothing is sampled under a parent that was dropped. -/
def Quiet (fallback : sdk.ComposableSampler) : Prop :=
  ∀ span, (sdk.getSamplingIntent fallback (some ⟨false, none⟩) span).threshold = none

variable {sdk sampler arg randomness}

theorem shouldSample_none {s : sdk.ComposableSampler} {parent : Option SamplingContext}
    {span : SpanStart} (h : (sdk.getSamplingIntent s parent span).threshold = none) :
    sdk.shouldSample (sdk.createCompositeSampler s) randomness parent span = ⟨false, none⟩ := by
  rw [sdk.composite_sample]
  simp [h]

theorem createRuleBasedSampler_eq
    (h : ∀ type ∈ fallbacksOf arg, type ∈ supportedFallbacks) :
    createRuleBasedSampler sdk arg =
      .ok (sdk.createCompositeSampler (sdk.createComposableRuleBasedSampler
        [(matchesDrops (dropValuesOf arg), sdk.createComposableAlwaysOffSampler),
          (fun _ => true, lastFallback sdk arg)])) := by
  unfold createRuleBasedSampler
  rw [foldlM_addRule sdk (rulesOf arg) _ h, ok_bind, List.nil_append, Option.or_none]
  rfl

theorem supported_of_create (h : createRuleBasedSampler sdk arg = .ok sampler) :
    ∀ type ∈ fallbacksOf arg, type ∈ supportedFallbacks := by
  obtain ⟨rules, hrules, -⟩ := bind_eq_ok.mp h
  exact supported_of_foldlM sdk hrules

theorem rule_sample (randomness : ℕ) (h : createRuleBasedSampler sdk arg = .ok sampler)
    (parent : Option SamplingContext) (span : SpanStart) :
    (Excluded arg span → sdk.shouldSample sampler randomness parent span = ⟨false, none⟩) ∧
      (¬ Excluded arg span → sdk.shouldSample sampler randomness parent span =
        sdk.shouldSample (sdk.createCompositeSampler (lastFallback sdk arg)) randomness parent
          span) := by
  rw [createRuleBasedSampler_eq (supported_of_create h)] at h
  cases h
  constructor
  · intro hexcluded
    apply shouldSample_none
    rw [sdk.rule_intent, if_pos ((matchesDrops_iff arg span).mpr hexcluded), sdk.alwaysOff_intent]
  · intro hexcluded
    rw [sdk.composite_sample, sdk.composite_sample, sdk.rule_intent,
      if_neg (mt (matchesDrops_iff arg span).mp hexcluded), sdk.rule_intent, if_pos rfl]

theorem allUnsampled_of_quiet (h : createRuleBasedSampler sdk arg = .ok sampler)
    (hquiet : Quiet sdk (lastFallback sdk arg)) (forest : SpanForest) :
    AllUnsampled sdk sampler randomness (some ⟨false, none⟩) forest := by
  induction forest with
  | nil => trivial
  | node span below beside ihBelow ihBeside =>
    have hcontext : sdk.shouldSample sampler randomness (some ⟨false, none⟩) span =
        ⟨false, none⟩ := by
      obtain ⟨hdropped, hleft⟩ := rule_sample randomness h (some ⟨false, none⟩) span
      by_cases hexcluded : Excluded arg span
      · exact hdropped hexcluded
      · rw [hleft hexcluded]
        exact shouldSample_none (hquiet span)
    rw [AllUnsampled, hcontext]
    exact ⟨rfl, ihBelow, ihBeside⟩

theorem sampledByRules_of_quiet (h : createRuleBasedSampler sdk arg = .ok sampler)
    (hquiet : dropValuesOf arg = [] ∨ Quiet sdk (lastFallback sdk arg)) (forest : SpanForest)
    (parent : Option SamplingContext) :
    SampledByRules sdk sampler arg randomness parent forest := by
  induction forest generalizing parent with
  | nil => trivial
  | node span below beside ihBelow ihBeside =>
    obtain ⟨hdropped, hleft⟩ := rule_sample randomness h parent span
    refine ⟨fun hexcluded => ?_, hleft, ihBelow _, ihBeside _⟩
    rw [hdropped hexcluded]
    refine ⟨rfl, ?_⟩
    rcases hquiet with hnone | hquiet
    · obtain ⟨-, -, -, value, hvalue, -⟩ := hexcluded
      rw [hnone] at hvalue
      cases hvalue
    · exact allUnsampled_of_quiet h hquiet below

theorem parentThreshold_quiet (root : sdk.ComposableSampler) :
    Quiet sdk (sdk.createComposableParentThresholdSampler root) := by
  intro span
  rw [sdk.parent_intent]
  rfl

theorem lastFallback_quiet {type : String} (hlast : (fallbacksOf arg).getLast? = some type)
    (hsupported : type ∈ supportedFallbacks) (hon : type ≠ "always_on") :
    Quiet sdk (lastFallback sdk arg) := by
  unfold lastFallback
  rw [hlast]
  simp only [supportedFallbacks, List.mem_cons, List.not_mem_nil, or_false] at hsupported
  rcases hsupported with rfl | rfl | rfl | rfl
  · exact absurd rfl hon
  · intro span
    exact sdk.alwaysOff_intent _ span
  · exact parentThreshold_quiet _
  · exact parentThreshold_quiet _

theorem lastFallback_alwaysOn
    (h : (fallbacksOf arg).getLast? = none ∨ (fallbacksOf arg).getLast? = some "always_on") :
    lastFallback sdk arg = sdk.createComposableAlwaysOnSampler := by
  unfold lastFallback
  rcases h with h | h
  · rw [h]
    rfl
  · rw [h]
    rfl

def serverSpan (path : String) : SpanStart where
  kind := .SERVER
  attributes key := if key = "url.path" then .string path else .undefined

def internalSpan : SpanStart where
  kind := .INTERNAL
  attributes _ := .undefined

theorem alwaysOn_breaks (h : createRuleBasedSampler sdk arg = .ok sampler)
    (hon : lastFallback sdk arg = sdk.createComposableAlwaysOnSampler) {value : String}
    (hvalue : value ∈ dropValuesOf arg) :
    ¬ SampledByRules sdk sampler arg randomness none
      (.node (serverSpan value) (.node internalSpan .nil .nil) .nil) := by
  have hexcluded : Excluded arg (serverSpan value) :=
    ⟨rfl, value, rfl, value, hvalue, decide_eq_true (List.infix_refl _)⟩
  rintro ⟨hdropped, -⟩
  obtain ⟨hbelow, -⟩ := (hdropped hexcluded).2
  have hinternal : ¬ Excluded arg internalSpan := fun h => by cases h.1
  rw [(rule_sample randomness h _ internalSpan).2 hinternal, hon, sdk.composite_sample,
    sdk.alwaysOn_intent] at hbelow
  simp at hbelow

variable (sdk arg)

/-- **Whole traces.** The sampler is created, and in every trace an excluded server span is dropped
with all that is below it and any other span is left to the fallback, just when all fallbacks are
supported, and there is nothing to drop or the last of them is given and is not `always_on`. -/
theorem whole_traces_iff :
    (∃ sampler, createRuleBasedSampler sdk arg = .ok sampler ∧
        ∀ randomness parent forest, SampledByRules sdk sampler arg randomness parent forest) ↔
      (∀ type ∈ fallbacksOf arg, type ∈ supportedFallbacks) ∧
        (dropValuesOf arg = [] ∨
          ∃ type, (fallbacksOf arg).getLast? = some type ∧ type ≠ "always_on") := by
  constructor
  · rintro ⟨sampler, hcreate, htraces⟩
    refine ⟨supported_of_create hcreate, ?_⟩
    by_contra hnot
    obtain ⟨hdrop, hlast⟩ := not_or.mp hnot
    obtain ⟨value, hvalue⟩ := List.exists_mem_of_ne_nil _ hdrop
    have hon : (fallbacksOf arg).getLast? = none ∨
        (fallbacksOf arg).getLast? = some "always_on" := by
      cases htype : (fallbacksOf arg).getLast? with
      | none => exact Or.inl rfl
      | some type =>
        right
        by_contra hne
        exact hlast ⟨type, htype, fun heq => hne (congrArg some heq)⟩
    exact alwaysOn_breaks hcreate (lastFallback_alwaysOn hon) hvalue (htraces 0 none _)
  · rintro ⟨hsupported, hquiet⟩
    refine ⟨_, createRuleBasedSampler_eq hsupported, fun randomness parent forest => ?_⟩
    apply sampledByRules_of_quiet (createRuleBasedSampler_eq hsupported)
    rcases hquiet with hnone | ⟨type, hlast, hon⟩
    · exact Or.inl hnone
    · exact Or.inr (lastFallback_quiet hlast (hsupported type (List.mem_of_getLast? hlast)) hon)

end Traces

/-- A composable sampler as the intents that it has. -/
def intentSamplers : SamplerSdk where
  ComposableSampler := Option SamplingContext → SpanStart → SamplingIntent
  Sampler := Option SamplingContext → SpanStart → SamplingIntent
  createComposableAlwaysOffSampler _ _ := ⟨none, false⟩
  createComposableAlwaysOnSampler _ _ := ⟨some 0, true⟩
  createComposableParentThresholdSampler root parent span :=
    match parent with
    | none => root none span
    | some parent =>
      match parent.threshold with
      | some threshold => ⟨some threshold, true⟩
      | none => ⟨if parent.sampled then some 0 else none, false⟩
  createComposableRuleBasedSampler rules parent span :=
    match rules.find? (·.1 span) with
    | none => ⟨none, false⟩
    | some rule => rule.2 parent span
  createCompositeSampler := id
  getSamplingIntent := id
  shouldSample sampler randomness parent span :=
    let intent := sampler parent span
    let sampled := intent.threshold.any (· ≤ randomness)
    ⟨sampled, if sampled ∧ intent.thresholdReliable then intent.threshold else none⟩
  alwaysOff_intent _ _ := rfl
  alwaysOn_intent _ _ := rfl
  root_intent _ _ := rfl
  parent_intent _ _ _ := rfl
  rule_intent predicate sampler rules parent span := by
    simp only [id, List.find?_cons]
    cases predicate span <;> rfl
  composite_sample _ _ _ _ := rfl

/-- The default fallback samples what is below a dropped request. -/
theorem health_check_sampled :
    ∃ sampler, createRuleBasedSampler intentSamplers (some "drop=/health") = .ok sampler ∧
      ¬ SampledByRules intentSamplers sampler (some "drop=/health") 0 none
        (.node (serverSpan "/health") (.node internalSpan .nil .nil) .nil) := by
  have hsupported : ∀ type ∈ fallbacksOf (some "drop=/health"), type ∈ supportedFallbacks := by
    decide
  refine ⟨_, createRuleBasedSampler_eq hsupported, ?_⟩
  exact alwaysOn_breaks (createRuleBasedSampler_eq hsupported)
    (lastFallback_alwaysOn (Or.inl (by decide))) (by decide)

end SplunkOtel.Tracing
