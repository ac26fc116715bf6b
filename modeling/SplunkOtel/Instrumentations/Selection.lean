import SplunkOtel.Configuration.Fetch
import SplunkOtel.Lib.Except

/-!
# The instrumentations to load (`src/instrumentations/index.ts`)
-/

open Lib SplunkOtel.Js SplunkOtel.Configuration

namespace SplunkOtel.Instrumentations

section Code

variable (settings : Settings)

/-- The two instrumentations of `http` exclude each other. -/
def refuseBoth (instrumentations : List InstrumentationInfo) :
    Except Thrown (List InstrumentationInfo) :=
  let httpInstrumentation := instrumentations.find? (·.shortName = "http")
  let httpDcInstrumentation := instrumentations.find? (·.shortName = "httpdc")
  if httpInstrumentation.isSome ∧ httpDcInstrumentation.isSome then
    .error ⟨"Error", "Can not enable both HTTP and the experimental HTTPDC instrumentation."⟩
  else .ok instrumentations

def defaultEnabled (enabledByDefault : Bool) (info : InstrumentationInfo) : Bool :=
  match info.disabledByDefault with
  | none => enabledByDefault
  | some disabledByDefault => ¬ disabledByDefault

def getInstrumentationsToLoad : Except Thrown (List InstrumentationInfo) := do
  let enabledByDefault ←
    settings.getConfigBoolean .OTEL_INSTRUMENTATION_COMMON_DEFAULT_ENABLED true
  let instrumentations ← bundledInstrumentations.filterM fun info =>
    settings.getConfigBoolean (envKey info) (defaultEnabled enabledByDefault info)
  refuseBoth instrumentations

end Code

/-! ## The rule -/

/-- What a file or an environment states. -/
structure Choices where
  useBundled : Option Bool
  /-- By short name: whether the instrumentation is to be on. -/
  explicit : String → Option Bool

/-- The explicit setting, else the own default, else the common one, else on. -/
def keeps (choices : Choices) (info : InstrumentationInfo) : Bool :=
  (choices.explicit info.shortName).getD (defaultEnabled (choices.useBundled.getD true) info)

def asBoolean (value : Value) : Option Bool :=
  match value with
  | .bool b => some b
  | _ => none

/-- `disabled` of an instrumentation in the file. -/
def disabledSetting (config : Value) (shortName : String) : Option Bool :=
  asBoolean ((getInstrumentationConf config shortName).property "disabled")

def useBundledSetting (config : Value) : Value :=
  (splunkConfig config).property "use_bundled_instrumentations"

def choices (settings : Settings) : Choices :=
  match settings.globalConfiguration with
  | none =>
    { useBundled := envChoice settings.env .OTEL_INSTRUMENTATION_COMMON_DEFAULT_ENABLED
      explicit := fun name => envChoice settings.env (.instrumentation name.toUpper) }
  | some config =>
    { useBundled := asBoolean (useBundledSetting config)
      explicit := fun name => (disabledSetting config name).map (!·) }

/-- The instrumentations that the rule keeps are loaded. -/
def LoadedByRule (settings : Settings) : Prop :=
  getInstrumentationsToLoad settings =
    refuseBoth (bundledInstrumentations.filter (keeps (choices settings)))

/-- Two sources state the same about the bundled instrumentations. -/
def SameChoices (a b : Choices) : Prop :=
  a.useBundled = b.useBundled ∧
    ∀ info ∈ bundledInstrumentations, a.explicit info.shortName = b.explicit info.shortName

/-- The file does not switch on an instrumentation that is off by itself, and where it switches the
bundled ones off it says so of each. -/
structure FileByRule (config : Value) : Prop where
  useBundled : useBundledSetting config = .undefined ∨ ∃ b, useBundledSetting config = .bool b
  offByDefault : ∀ info ∈ bundledInstrumentations, info.disabledByDefault = some true →
    disabledSetting config info.shortName ≠ some false
  allOff : useBundledSetting config = .bool false →
    ∀ info ∈ bundledInstrumentations, info.disabledByDefault = none →
      (disabledSetting config info.shortName).isSome

/-! ## The environment -/

theorem env_by_rule (settings : Settings) (h : settings.globalConfiguration = none) :
    LoadedByRule settings := by
  have hread (key : EnvVarKey) (b : Bool) :
      settings.getConfigBoolean key b = .ok ((envChoice settings.env key).getD b) := by
    unfold Settings.getConfigBoolean
    rw [h, ← getEnvBoolean_eq]
  unfold LoadedByRule getInstrumentationsToLoad
  rw [hread, ok_bind, filterM_eq_ok (p := keeps (choices settings)), ok_bind]
  intro info _
  rw [hread]
  unfold keeps choices
  rw [h]
  rfl

/-! ## The file -/

/-- What the file makes of an instrumentation. -/
def fileKeeps (config : Value) (info : InstrumentationInfo) : Bool :=
  disabledSetting config info.shortName ≠ some true ∧ info.disabledByDefault ≠ some true

theorem toLower_toUpper {s : String} (h : ∀ c ∈ s.toList, c.toUpper.toLower = c) :
    s.toUpper.toLower = s := by
  apply String.toList_injective
  unfold String.toLower String.toUpper
  rw [String.toList_map, String.toList_map, List.map_map]
  exact (List.map_congr_left h).trans (List.map_id _)

theorem find_bundled {info : InstrumentationInfo} (h : info ∈ bundledInstrumentations) :
    info.shortName.toUpper.toLower = info.shortName ∧
      bundledInstrumentations.find? (·.shortName = info.shortName) = some info := by
  have hlower : bundledInstrumentations.all fun info =>
      info.shortName.toList.all fun c => c.toUpper.toLower == c := by decide
  simp only [List.all_eq_true, beq_iff_eq] at hlower
  have hfind : ∀ info ∈ bundledInstrumentations,
      bundledInstrumentations.find? (·.shortName = info.shortName) = some info := by decide
  exact ⟨toLower_toUpper (hlower info h), hfind info h⟩

theorem asBoolean_eq_some {value : Value} {b : Bool} :
    asBoolean value = some b ↔ value = .bool b := by
  unfold asBoolean
  cases value with
  | bool c => simp
  | _ => simp

theorem isTrue_iff (value : Value) : value.isTrue = true ↔ asBoolean value = some true := by
  rw [asBoolean_eq_some]
  unfold Value.isTrue
  cases value with
  | bool b => simp
  | _ => simp

theorem fetchConfigValue_instrumentation (numberToString : Number → String) (config : Value)
    {info : InstrumentationInfo} (h : info ∈ bundledInstrumentations) :
    fetchConfigValue numberToString (envKey info) config = .bool (fileKeeps config info) := by
  obtain ⟨hname, hfind⟩ := find_bundled h
  unfold envKey fetchConfigValue
  simp only [hname, hfind]
  unfold fileKeeps disabledSetting
  split
  · rename_i htrue
    simp [(isTrue_iff _).mp htrue]
  · rename_i htrue
    simp [mt (isTrue_iff _).mpr htrue]

theorem keeps_eq_iff (use disabled own : Option Bool) :
    decide (disabled ≠ some true ∧ own ≠ some true) =
        (disabled.map (!·)).getD (defaultEnabled (use.getD true) ⟨"", own⟩) ↔
      (own = some true → disabled ≠ some false) ∧
        (use = some false → own = none → disabled.isSome) := by
  rcases own with _ | _ | _
  all_goals rcases disabled with _ | _ | _
  all_goals rcases use with _ | _ | _
  all_goals decide

theorem fileKeeps_eq_iff (settings : Settings) {config : Value}
    (h : settings.globalConfiguration = some config) (info : InstrumentationInfo) :
    fileKeeps config info = keeps (choices settings) info ↔
      (info.disabledByDefault = some true → disabledSetting config info.shortName ≠ some false) ∧
        (useBundledSetting config = .bool false → info.disabledByDefault = none →
          (disabledSetting config info.shortName).isSome) := by
  rw [← asBoolean_eq_some, ← keeps_eq_iff]
  unfold keeps choices fileKeeps
  rw [h]
  rfl

theorem refuseBoth_eq_ok {l l' : List InstrumentationInfo} (h : refuseBoth l = .ok l') : l = l' := by
  unfold refuseBoth at h
  simp only at h
  split at h
  · cases h
  · exact Except.ok.inj h

theorem refuseBoth_fileKeeps (config : Value) :
    refuseBoth (bundledInstrumentations.filter (fileKeeps config)) =
      .ok (bundledInstrumentations.filter (fileKeeps config)) := by
  have hoff : ∀ info ∈ bundledInstrumentations, info.shortName = "httpdc" →
      info.disabledByDefault = some true := by decide
  have hnone : (bundledInstrumentations.filter (fileKeeps config)).find?
      (·.shortName = "httpdc") = none := by
    rw [List.find?_eq_none]
    intro info hinfo hname
    obtain ⟨hmem, hkeeps⟩ := List.mem_filter.mp hinfo
    have hown := hoff info hmem (by simpa using hname)
    simp [fileKeeps, hown] at hkeeps
  unfold refuseBoth
  simp only [hnone]
  simp

theorem getConfigBoolean_error (settings : Settings) {config : Value}
    (h : settings.globalConfiguration = some config)
    (huse : ¬ (useBundledSetting config = .undefined ∨ ∃ b, useBundledSetting config = .bool b))
    (instrumentations : List InstrumentationInfo) :
    ∃ e, settings.getConfigBoolean .OTEL_INSTRUMENTATION_COMMON_DEFAULT_ENABLED true = .error e ∧
      refuseBoth instrumentations ≠ .error e := by
  have hread : fetchConfigValue settings.numberToString
      .OTEL_INSTRUMENTATION_COMMON_DEFAULT_ENABLED config = useBundledSetting config := rfl
  obtain ⟨hundefined, hbool⟩ := not_or.mp huse
  refine ⟨⟨"Error", "Expected bool value, got " ++ (useBundledSetting config).typeof⟩, ?_, ?_⟩
  · unfold Settings.getConfigBoolean
    rw [h]
    simp only [hread]
    split
    · exact absurd ‹_› hundefined
    · exact absurd ⟨_, ‹_›⟩ hbool
    · rfl
  · unfold refuseBoth
    simp only
    split
    · intro heq
      have htext := congrArg (fun t : Thrown => t.message.toList.head?) (Except.error.inj heq)
      simp at htext
    · intro heq
      cases heq

theorem file_by_rule_iff (settings : Settings) {config : Value}
    (h : settings.globalConfiguration = some config) :
    LoadedByRule settings ↔ FileByRule config := by
  have hread (info : InstrumentationInfo) (hinfo : info ∈ bundledInstrumentations) (b : Bool) :
      settings.getConfigBoolean (envKey info) b = .ok (fileKeeps config info) := by
    unfold Settings.getConfigBoolean
    rw [h]
    simp only [fetchConfigValue_instrumentation settings.numberToString config hinfo]
  have hload : getInstrumentationsToLoad settings =
      settings.getConfigBoolean .OTEL_INSTRUMENTATION_COMMON_DEFAULT_ENABLED true >>= fun _ =>
        .ok (bundledInstrumentations.filter (fileKeeps config)) := by
    unfold getInstrumentationsToLoad
    congr 1
    funext b
    rw [filterM_eq_ok fun info hinfo => hread info hinfo _, ok_bind, refuseBoth_fileKeeps]
  unfold LoadedByRule
  rw [hload]
  by_cases huse : useBundledSetting config = .undefined ∨ ∃ b, useBundledSetting config = .bool b
  · obtain ⟨b, hb⟩ : ∃ b, settings.getConfigBoolean
        .OTEL_INSTRUMENTATION_COMMON_DEFAULT_ENABLED true = .ok b := by
      unfold Settings.getConfigBoolean
      rw [h]
      rcases huse with huse | ⟨b, huse⟩
      · unfold useBundledSetting at huse
        exact ⟨true, by simp only [fetchConfigValue, huse]⟩
      · unfold useBundledSetting at huse
        exact ⟨b, by simp only [fetchConfigValue, huse]⟩
    rw [hb, ok_bind, ← refuseBoth_fileKeeps]
    constructor
    · intro heq
      rw [refuseBoth_fileKeeps] at heq
      have hpoint := filter_eq_filter_iff.mp (refuseBoth_eq_ok heq.symm).symm
      refine ⟨huse, ?_, ?_⟩
      · intro info hinfo
        exact ((fileKeeps_eq_iff settings h info).mp (hpoint info hinfo)).1
      · intro hfalse info hinfo
        exact ((fileKeeps_eq_iff settings h info).mp (hpoint info hinfo)).2 hfalse
    · intro hrule
      rw [List.filter_congr fun info hinfo => (fileKeeps_eq_iff settings h info).mpr
        ⟨hrule.offByDefault info hinfo, fun hfalse => hrule.allOff hfalse info hinfo⟩]
  · obtain ⟨e, he, hne⟩ := getConfigBoolean_error settings h huse
      (bundledInstrumentations.filter (keeps (choices settings)))
    rw [he]
    exact iff_of_false (fun heq => hne heq.symm) fun hrule => huse hrule.useBundled

/-! ## Both sources -/

theorem keeps_congr {a b : Choices} (h : SameChoices a b) {info : InstrumentationInfo}
    (hinfo : info ∈ bundledInstrumentations) : keeps a info = keeps b info := by
  unfold keeps
  rw [h.1, h.2 info hinfo]

/-- **Which instrumentations are loaded.** An environment selects them by the rule. A file does just
when it does not switch on an instrumentation that is off by itself, and where it switches the
bundled ones off says so of each. So it is too for a file and an environment that state the same. -/
theorem loaded_by_rule_iff (env : Env) (numberToString : Number → String) (config : Value) :
    LoadedByRule ⟨none, env, numberToString⟩ ∧
      (LoadedByRule ⟨some config, env, numberToString⟩ ↔ FileByRule config) ∧
      (SameChoices (choices ⟨some config, env, numberToString⟩)
          (choices ⟨none, env, numberToString⟩) →
        (getInstrumentationsToLoad ⟨some config, env, numberToString⟩ =
            getInstrumentationsToLoad ⟨none, env, numberToString⟩ ↔ FileByRule config)) := by
  have henv := env_by_rule ⟨none, env, numberToString⟩ rfl
  have hfile := file_by_rule_iff ⟨some config, env, numberToString⟩ rfl
  refine ⟨henv, hfile, fun hsame => ?_⟩
  rw [← hfile, henv, LoadedByRule, List.filter_congr fun info hinfo => keeps_congr hsame hinfo]

/-- The file is explicit about three instrumentations, one of which is off by itself. -/
def explicitConfig : Value :=
  .object [("distribution", .object [("splunk", .object [
    ("use_bundled_instrumentations", .bool true),
    ("instrumentations", .object [
      ("http", .object [("disabled", .bool true)]),
      ("redis", .object [("disabled", .bool false)]),
      ("httpdc", .object [("disabled", .bool true)])])])])]

/-- The environment states the same. -/
def explicitEnv : Env := fun key =>
  if key = .OTEL_INSTRUMENTATION_COMMON_DEFAULT_ENABLED then some "true"
  else if key = .instrumentation "HTTP" then some "false"
  else if key = .instrumentation "REDIS" then some "true"
  else if key = .instrumentation "HTTPDC" then some "no"
  else none

theorem explicit_sources_load_alike :
    getInstrumentationsToLoad ⟨some explicitConfig, explicitEnv, fun _ => ""⟩ =
      getInstrumentationsToLoad ⟨none, explicitEnv, fun _ => ""⟩ := by
  obtain ⟨-, -, halike⟩ := loaded_by_rule_iff explicitEnv (fun _ => "") explicitConfig
  apply (halike ⟨by decide +kernel, by decide +kernel⟩).mpr
  refine ⟨Or.inr ⟨true, rfl⟩, by decide +kernel, ?_⟩
  intro h
  cases h

def allBundledOff : Value :=
  .object [("distribution",
    .object [("splunk", .object [("use_bundled_instrumentations", .bool false)])])]

/-- The bundled instrumentations are switched off in the file and loaded all the same. -/
theorem all_off_still_loaded : ¬ LoadedByRule ⟨some allBundledOff, fun _ => none, fun _ => ""⟩ := by
  rw [file_by_rule_iff _ rfl]
  intro h
  have hexplicit := h.allOff rfl ⟨"http", none⟩ (by decide) rfl
  cases hexplicit

end SplunkOtel.Instrumentations
