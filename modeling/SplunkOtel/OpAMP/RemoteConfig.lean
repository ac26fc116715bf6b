import SplunkOtel.OpAMP.Client

/-!
# Remote configs over the wire

A server pushes its config again and again. Each distinct config has to be attempted once: by its
hash, or by its body where it has no hash. The decoder has no way to say that there is no hash.
-/

namespace SplunkOtel.OpAMP.RemoteConfig

open Js OpAMPClient

/-- An answer with a remote config, as its fields on the wire, and how the apply settles that it
may start. -/
structure Delivery where
  fields : List AgentRemoteConfig.Field
  flags : ℕ := 0
  newInstanceUid : Bytes := []
  outcome : Except String Unit := .ok ()

namespace Delivery

def config (d : Delivery) : AgentRemoteConfig := AgentRemoteConfig.decode d.fields

/-- No `config_hash` on the wire, or an empty one: both decode to the empty buffer. -/
def CarriesNoHash (d : Delivery) : Prop := d.config.configHash = .bytes []

instance : DecidablePred CarriesNoHash := fun _ => inferInstanceAs (Decidable (_ = _))

end Delivery

variable (parseYaml : String → Except String Value)

def settleApply (s : OpAMPClient) (outcome : Except String Unit) : OpAMPClient :=
  match s.applies with
  | [] => s
  | configHash :: applies => { s with applies }.applySettled configHash outcome

/-- A config arrives, and its apply settles before anything else. -/
def receive (s : OpAMPClient) (d : Delivery) : OpAMPClient :=
  settleApply
    (s.processServerResponse parseYaml
      { remoteConfig := some d.config, flags := d.flags, newInstanceUid := d.newInstanceUid })
    d.outcome

def receiveAll (s : OpAMPClient) (ds : List Delivery) : OpAMPClient :=
  ds.foldl (receive parseYaml) s

def lastAttempted (s : OpAMPClient) : Option AgentRemoteConfig :=
  s.attempts.getLast?.map Attempt.remoteConfig

def BodyAttempted (s : OpAMPClient) (p : Delivery) : Prop :=
  ∃ config ∈ lastAttempted s, config.configHash = .bytes [] ∧ config.body = p.config.body

def AttemptedOnce (s : OpAMPClient) (d : Delivery) : Prop :=
  (receive parseYaml s d).attempts =
    s.attempts ++ [⟨d.config, parseRemoteConfig parseYaml d.config⟩]

def Ignored (s : OpAMPClient) (d : Delivery) : Prop :=
  (receive parseYaml s d).attempts = s.attempts

/-- What has to happen to the config `d` in the state `s`, after the config `prev`. -/
structure Handled (s : OpAMPClient) (prev : Option Delivery) (d : Delivery) : Prop where
  changedBody : ∀ p ∈ prev, p.CarriesNoHash → d.CarriesNoHash → p.config.body ≠ d.config.body →
    BodyAttempted s p ∧ AttemptedOnce parseYaml s d
  sameBody : ∀ p ∈ prev, p.CarriesNoHash → d.CarriesNoHash → p.config.body = d.config.body →
    BodyAttempted s p ∧ Ignored parseYaml s d
  changedHash : (lastAttempted s).map (·.configHash) ≠ some d.config.configHash →
    AttemptedOnce parseYaml s d
  sameHash : ¬ d.CarriesNoHash → (lastAttempted s).map (·.configHash) = some d.config.configHash →
    Ignored parseYaml s d

/-- No config of the sequence is lost, and none is attempted twice. -/
def EveryHandled (s : OpAMPClient) (ds : List Delivery) : Prop :=
  ∀ before d after, ds = before ++ d :: after →
    Handled parseYaml (receiveAll parseYaml s before) before.getLast? d

/-- Two consecutive configs without a hash have the same body. -/
def HashlessBodiesAgree (ds : List Delivery) : Prop :=
  ∀ before p d after, ds = before ++ p :: d :: after → p.CarriesNoHash → d.CarriesNoHash →
    p.config.body = d.config.body

/-! ## The hash that the decoder gives -/

theorem decode_configHash (fields : List AgentRemoteConfig.Field) :
    ∃ hash, (AgentRemoteConfig.decode fields).configHash = .bytes hash := by
  unfold AgentRemoteConfig.decode
  induction fields using List.reverseRecOn with
  | nil => exact ⟨[], rfl⟩
  | append_singleton fields field ih =>
    rw [List.foldl_append, List.foldl_cons, List.foldl_nil]
    rcases field with fields | hash | number
    · exact ih
    · exact ⟨hash, rfl⟩
    · exact ih

/-! ## One config -/

structure Ready (s : OpAMPClient) : Prop where
  optedIn : s.optedIn = true
  notStopping : s.stopping = false
  noApply : s.applyInFlight = false
  applies : s.applies = []

theorem settleApply_attemptRemoteConfig (s : OpAMPClient) (config : AgentRemoteConfig)
    (hash : Option Bytes) (outcome : Except String Unit) (hopted : s.optedIn = true)
    (hstopping : s.stopping = false) (happlies : s.applies = []) :
    let t := settleApply (s.attemptRemoteConfig parseYaml config hash) outcome
    Ready t ∧ t.lastRemoteConfigHash = s.lastRemoteConfigHash ∧
      t.attempts = s.attempts ++ [⟨config, parseRemoteConfig parseYaml config⟩] := by
  obtain ⟨_, _, _, _, _, _, _, hattempt, _, hfailed | hflies⟩ :=
    attemptRemoteConfig_eq parseYaml s config hash
  · obtain ⟨happlies', hinFlight⟩ := hfailed
    rw [happlies] at happlies'
    simp only [hattempt, settleApply, happlies', hinFlight]
    exact ⟨⟨hopted, hstopping, rfl, rfl⟩, trivial, trivial⟩
  · obtain ⟨happlies', -⟩ := hflies
    rw [happlies, List.nil_append] at happlies'
    simp only [hattempt, settleApply, happlies']
    generalize hs' : OpAMPClient.mk .. = s'
    obtain ⟨status, -, hsettled⟩ := applySettled_eq s' hash outcome
    obtain ⟨_, _, _, _, htrigger, _⟩ := triggerPoll_eq { s' with remoteConfigStatus := some status }
    simp only [hsettled, htrigger]
    rw [← hs']
    exact ⟨⟨hopted, hstopping, rfl, rfl⟩, rfl, rfl⟩

theorem handleRemoteConfig_hashed (s : OpAMPClient) (config : AgentRemoteConfig) (hash : Bytes)
    (hs : Ready s) (hhash : config.configHash = .bytes hash) :
    s.handleRemoteConfig parseYaml config =
      if s.lastRemoteConfigHash = some hash then s
      else { s with
        applyInFlight := true
        lastRemoteConfigHash := some hash
        lastHashlessConfig := none }.attemptRemoteConfig parseYaml config (some hash) := by
  unfold handleRemoteConfig
  rw [hhash]
  simp [readHash, alreadyAttempted, AgentRemoteConfig.hashlessBody, hs.notStopping, hs.noApply]

theorem receive_spec (s : OpAMPClient) (d : Delivery) (hash : Bytes) (hs : Ready s)
    (hhash : d.config.configHash = .bytes hash) :
    Ready (receive parseYaml s d) ∧ (receive parseYaml s d).lastRemoteConfigHash = some hash ∧
      if s.lastRemoteConfigHash = some hash then Ignored parseYaml s d
      else AttemptedOnce parseYaml s d := by
  unfold Ignored AttemptedOnce receive
  obtain ⟨backoff, instanceUid, hprocess⟩ := processServerResponse_eq parseYaml s
    { remoteConfig := some d.config, flags := d.flags, newInstanceUid := d.newInstanceUid } rfl
  rw [hprocess]
  simp only
  rw [if_pos hs.optedIn]
  generalize hs' : OpAMPClient.mk .. = s'
  have hready : Ready s' := by
    rw [← hs']
    exact ⟨hs.optedIn, hs.notStopping, hs.noApply, hs.applies⟩
  have hlast : s'.lastRemoteConfigHash = s.lastRemoteConfigHash := by rw [← hs']
  have hattempts : s'.attempts = s.attempts := by rw [← hs']
  rw [handleRemoteConfig_hashed parseYaml s' d.config hash hready hhash, hlast]
  by_cases hseen : s.lastRemoteConfigHash = some hash
  · rw [if_pos hseen, if_pos hseen, settleApply, hready.applies]
    exact ⟨hready, hlast.trans hseen, hattempts⟩
  · rw [if_neg hseen, if_neg hseen]
    obtain ⟨hready', hlast', hattempts'⟩ := settleApply_attemptRemoteConfig parseYaml
      { s' with applyInFlight := true, lastRemoteConfigHash := some hash, lastHashlessConfig := none }
      d.config (some hash) d.outcome hready.optedIn hready.notStopping hready.applies
    exact ⟨hready', hlast', by rw [hattempts', hattempts]⟩

/-! ## A sequence of configs -/

/-- The client after the configs `ds`: it knows the hash of the last one, and the last config that
it attempted has the same hash. -/
structure Settled (s : OpAMPClient) (ds : List Delivery) : Prop where
  ready : Ready s
  known : s.lastRemoteConfigHash.map ConfigHash.bytes = ds.getLast?.map (·.config.configHash)
  last : (lastAttempted s).map (·.configHash) = ds.getLast?.map (·.config.configHash)

theorem settled_new (pollingIntervalMs : ℚ) (uuid : Bytes) (now : ℕ) (c : EffectiveConfig) :
    Settled (new pollingIntervalMs true uuid now c) [] :=
  ⟨⟨rfl, rfl, rfl, rfl⟩, rfl, rfl⟩

variable {s : OpAMPClient} {ds : List Delivery} {d : Delivery}

theorem lastAttempted_of_attemptedOnce (h : AttemptedOnce parseYaml s d) :
    lastAttempted (receive parseYaml s d) = some d.config := by
  unfold lastAttempted
  rw [h, List.getLast?_concat, Option.map_some]

theorem lastAttempted_of_ignored (h : Ignored parseYaml s d) :
    lastAttempted (receive parseYaml s d) = lastAttempted s := by
  unfold lastAttempted
  rw [h]

theorem Settled.receive (hs : Settled s ds) (d : Delivery) :
    Settled (receive parseYaml s d) (ds ++ [d]) ∧
      if (lastAttempted s).map (·.configHash) = some d.config.configHash then Ignored parseYaml s d
      else AttemptedOnce parseYaml s d := by
  obtain ⟨hash, hhash⟩ : ∃ hash, d.config.configHash = .bytes hash := decode_configHash d.fields
  obtain ⟨hready, hknown, hspec⟩ := receive_spec parseYaml s d hash hs.ready hhash
  have hseen : s.lastRemoteConfigHash = some hash ↔
      (lastAttempted s).map (·.configHash) = some d.config.configHash := by
    rw [hs.last, ← hs.known, hhash]
    rcases s.lastRemoteConfigHash with _ | known
    · simp
    · simp
  by_cases hlast : (lastAttempted s).map (·.configHash) = some d.config.configHash
  · rw [if_pos (hseen.mpr hlast)] at hspec
    rw [if_pos hlast]
    refine ⟨⟨hready, ?_, ?_⟩, hspec⟩
    · simp [hknown, hhash]
    · rw [lastAttempted_of_ignored parseYaml hspec, hlast]
      simp
  · rw [if_neg fun h => hlast (hseen.mp h)] at hspec
    rw [if_neg hlast]
    refine ⟨⟨hready, ?_, ?_⟩, hspec⟩
    · simp [hknown, hhash]
    · rw [lastAttempted_of_attemptedOnce parseYaml hspec]
      simp

theorem settled_receiveAll {s₀ : OpAMPClient} (h : Settled s₀ []) (ds : List Delivery) :
    Settled (receiveAll parseYaml s₀ ds) ds := by
  unfold receiveAll
  induction ds using List.reverseRecOn with
  | nil => exact h
  | append_singleton ds d ih =>
    rw [List.foldl_append, List.foldl_cons, List.foldl_nil]
    exact (ih.receive parseYaml d).1

theorem HashlessBodiesAgree.left {ds rest : List Delivery} (h : HashlessBodiesAgree (ds ++ rest)) :
    HashlessBodiesAgree ds := by
  intro before p d after hsplit
  exact h before p d (after ++ rest) (by simp [hsplit])

theorem bodyAttempted_receiveAll {s₀ : OpAMPClient} (h : Settled s₀ []) (ds : List Delivery)
    (hagree : HashlessBodiesAgree ds) :
    ∀ p ∈ ds.getLast?, p.CarriesNoHash → BodyAttempted (receiveAll parseYaml s₀ ds) p := by
  induction ds using List.reverseRecOn with
  | nil => simp
  | append_singleton ds d ih =>
    have hs := settled_receiveAll parseYaml h ds
    have hstep := (hs.receive parseYaml d).2
    intro p hp hnone
    obtain rfl : d = p := by simpa using hp
    unfold receiveAll at hs hstep ih ⊢
    rw [List.foldl_append, List.foldl_cons, List.foldl_nil]
    unfold BodyAttempted
    split at hstep
    · -- Ignored: the config before has no hash either, and so the same body.
      rename_i hlast
      rw [lastAttempted_of_ignored parseYaml hstep]
      rw [hs.last, Option.map_eq_some_iff] at hlast
      obtain ⟨q, hq, hqd⟩ := hlast
      have hqnone : q.CarriesNoHash := hqd.trans hnone
      obtain ⟨before, hbefore⟩ := List.getLast?_eq_some_iff.mp hq
      rw [← hagree before q d [] (by simp [hbefore]) hqnone hnone]
      exact ih hagree.left q hq hqnone
    · rw [lastAttempted_of_attemptedOnce parseYaml hstep]
      exact ⟨d.config, rfl, hnone, rfl⟩

theorem handled_of_agree {s₀ : OpAMPClient} (h : Settled s₀ []) (before after : List Delivery)
    (d : Delivery) (hagree : HashlessBodiesAgree (before ++ d :: after)) :
    Handled parseYaml (receiveAll parseYaml s₀ before) before.getLast? d := by
  have hs := settled_receiveAll parseYaml h before
  have hbody := bodyAttempted_receiveAll parseYaml h before hagree.left
  have hstep := (hs.receive parseYaml d).2
  have hsame : ∀ p ∈ before.getLast?, p.CarriesNoHash → d.CarriesNoHash →
      p.config.body = d.config.body := by
    intro p hp
    obtain ⟨before', hbefore⟩ := List.getLast?_eq_some_iff.mp hp
    exact hagree before' p d after (by simp [hbefore])
  constructor
  · intro p hp hpnone hdnone hne
    exact absurd (hsame p hp hpnone hdnone) hne
  · intro p hp hpnone hdnone _
    refine ⟨hbody p hp hpnone, ?_⟩
    rwa [if_pos] at hstep
    rw [hs.last, hp, Option.map_some, hpnone, hdnone]
  · intro hne
    rwa [if_neg hne] at hstep
  · intro _ heq
    rwa [if_pos heq] at hstep

theorem ignored_of_hashless {s₀ : OpAMPClient} (h : Settled s₀ []) (before : List Delivery)
    {p d : Delivery} (hp : p.CarriesNoHash) (hd : d.CarriesNoHash) :
    Ignored parseYaml (receiveAll parseYaml s₀ (before ++ [p])) d := by
  have hs := settled_receiveAll parseYaml h (before ++ [p])
  have hstep := (hs.receive parseYaml d).2
  rwa [if_pos] at hstep
  rw [hs.last, List.getLast?_concat, Option.map_some, hp, hd]

/-- **No remote config is lost and none is attempted twice** exactly when no two consecutive
configs without a hash have different bodies: the second of two such configs is dropped. -/
theorem every_config_handled_iff (parseYaml : String → Except String Value)
    (pollingIntervalMs : ℚ) (uuid : Bytes) (now : ℕ) (c : EffectiveConfig) (ds : List Delivery) :
    EveryHandled parseYaml (new pollingIntervalMs true uuid now c) ds ↔ HashlessBodiesAgree ds := by
  have hnew := settled_new pollingIntervalMs uuid now c
  constructor
  · intro h before p d after hsplit hp hd
    by_contra hne
    have hd' := h (before ++ [p]) d after (by simp [hsplit])
    obtain ⟨_, honce⟩ := hd'.changedBody p (by simp) hp hd hne
    have hignored := ignored_of_hashless parseYaml hnew before hp hd
    unfold AttemptedOnce at honce
    unfold Ignored at hignored
    have hlength := congrArg List.length (hignored.symm.trans honce)
    rw [List.length_append, List.length_singleton] at hlength
    omega
  · intro hagree before d after hsplit
    rw [hsplit] at hagree
    exact handled_of_agree parseYaml hnew before after d hagree

/-! ## Two configs without a hash -/

def configFields (text : String) : List AgentRemoteConfig.Field :=
  [.config [.configMap [.key REMOTE_CONFIG_KEY,
    .value [.body (encodeText text), .contentType "application/yaml"]]]]

def cpuBody : String := "distribution: {splunk: {profiling: {always_on: {cpu_profiler: null}}}}"

/-- The value of `cpuBody`. -/
def cpuValue : Value :=
  .object [("distribution", .object [("splunk", .object [("profiling",
    .object [("always_on", .object [("cpu_profiler", .null)])])])])]

/-- The config that turns everything off is dropped after one that turned the CPU profiler on. -/
theorem hashless_all_off_dropped :
    ¬ EveryHandled (fun _ => .ok cpuValue)
      (new 30000 true [] 0 { type := .yaml, name := "yaml", content := "" })
      [{ fields := configFields cpuBody }, { fields := configFields "" }] := by
  intro h
  have hoff := h [{ fields := configFields cpuBody }] { fields := configFields "" } [] rfl
  obtain ⟨_, honce⟩ := hoff.changedBody _ rfl (by decide) (by decide) (by decide)
  have hlength := congrArg List.length honce
  revert hlength
  decide

end SplunkOtel.OpAMP.RemoteConfig
