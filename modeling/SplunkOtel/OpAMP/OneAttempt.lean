import SplunkOtel.OpAMP.PollLoop

/-!
# One attempt for each config

Configs arrive, and applies settle, in any order. The dedup keys name the last config that was
attempted. A config whose hash cannot be read takes them over even while an apply is in flight,
and the status that this apply reports in the end then has a hash that the client no longer knows.
-/

open Lib.Run

namespace SplunkOtel.OpAMP.Attempts

open Js OpAMPClient

variable (parseYaml : String → Except String Value)

/-- An answer can also be handed in from outside a poll. -/
inductive Event where
  | received (response : ServerToAgent)
  | client (event : OpAMPClient.Event)

def step (s : OpAMPClient) : Event → Option OpAMPClient
  | .received response => some (s.processServerResponse parseYaml response)
  | .client event => s.step parseYaml event

/-- An attempt at the config begins, or its unreadable hash is reported. -/
def ActedOn (s : OpAMPClient) (config : AgentRemoteConfig) : Prop :=
  s.stopping = false ∧ match readHash config.configHash with
    | .error _ => s.lastHashlessConfig ≠ some config.body
    | .ok configHash =>
      s.alreadyAttempted configHash (config.hashlessBody configHash) = false ∧
        s.applyInFlight = false

structure OneAttempt (s : OpAMPClient) : Prop where
  oneApply : s.applies.length ≤ 1
  /-- A config that is not acted on changes nothing, the dedup keys included. -/
  unchanged : ∀ config, ¬ ActedOn s config → s.handleRemoteConfig parseYaml config = s
  /-- One that was not attempted before is attempted once the apply has settled. -/
  retried : ∀ config configHash, readHash config.configHash = .ok configHash →
    s.stopping = false →
    s.alreadyAttempted configHash (config.hashlessBody configHash) = false →
    ∀ i outcome t, s.step parseYaml (.applyDone i outcome) = some t →
      (t.handleRemoteConfig parseYaml config).attempts =
        t.attempts ++ [⟨config, parseRemoteConfig parseYaml config⟩]
  /-- The config with the reported hash is not applied again. -/
  reported : s.applies = [] → ∀ status ∈ s.remoteConfigStatus, status.lastRemoteConfigHash ≠ [] →
    ∀ config : AgentRemoteConfig, config.configHash = .bytes status.lastRemoteConfigHash →
      (s.handleRemoteConfig parseYaml config).applies = []

/-- The apply of a config with a hash settles while that hash is the dedup key: no config with an
unreadable hash was acted on since it began. -/
def SettlesOwnKey (s : OpAMPClient) : Event → Prop
  | .client (.applyDone i _) =>
    s.stopping = false → ∀ hash ≠ [], s.applies[i]? = some (some hash) →
      s.lastRemoteConfigHash = some hash
  | _ => True

/-! ## The invariant -/

structure Inv (s : OpAMPClient) : Prop where
  oneApply : s.applies.length ≤ 1
  inFlight : s.applyInFlight = true ↔ s.applies ≠ []
  keyed : s.stopping = false → s.applies = [] → ∀ status ∈ s.remoteConfigStatus,
    status.lastRemoteConfigHash ≠ [] → s.lastRemoteConfigHash = some status.lastRemoteConfigHash

/-- The step leaves the remote configuration alone, and may stop the client. -/
structure Untouched (s t : OpAMPClient) : Prop where
  applies : t.applies = s.applies
  applyInFlight : t.applyInFlight = s.applyInFlight
  stopping : t.stopping = false → s.stopping = false
  remoteConfigStatus : t.remoteConfigStatus = s.remoteConfigStatus
  lastRemoteConfigHash : t.lastRemoteConfigHash = s.lastRemoteConfigHash

variable {s t : OpAMPClient}

theorem Untouched.inv (h : Untouched s t) (hs : Inv s) : Inv t := by
  obtain ⟨happlies, hinFlight, hstopping, hstatus, hkey⟩ := h
  constructor
  · rw [happlies]
    exact hs.oneApply
  · rw [happlies, hinFlight]
    exact hs.inFlight
  · rw [happlies, hstatus, hkey]
    intro hrunning
    exact hs.keyed (hstopping hrunning)

theorem Inv.idle (h : Inv s) (hidle : s.applyInFlight = false) : s.applies = [] := by
  by_contra hne
  rw [h.inFlight.mpr hne] at hidle
  cases hidle

theorem poll_untouched (s : OpAMPClient) (now : ℕ) : Untouched s (s.poll now) := by
  unfold poll buildAgentToServerMessage
  split
  · exact ⟨rfl, rfl, id, rfl, rfl⟩
  simp only
  split
  · exact ⟨rfl, rfl, id, rfl, rfl⟩
  · exact ⟨rfl, rfl, id, rfl, rfl⟩

theorem scheduleNextPoll_untouched (s : OpAMPClient) (delayMs : Option ℚ) (random : ℚ) :
    Untouched s (s.scheduleNextPoll delayMs random) := by
  obtain ⟨_, _, _, _, h⟩ := scheduleNextPoll_eq s delayMs random
  rw [h]
  exact ⟨rfl, rfl, id, rfl, rfl⟩

theorem stop_untouched (s : OpAMPClient) : Untouched s s.stop := by
  unfold stop clearPollingTimer sendDisconnect
  refine ⟨rfl, rfl, ?_, rfl, rfl⟩
  simp

theorem commitPending_untouched (s : OpAMPClient) : Untouched s s.commitPending := by
  rw [PollLoop.commitPending_eq]
  exact ⟨rfl, rfl, id, rfl, rfl⟩

/-! ## A config arrives -/

theorem attemptRemoteConfig_status (s : OpAMPClient) (config : AgentRemoteConfig)
    (configHash : Option Bytes) : ∃ status,
      (s.attemptRemoteConfig parseYaml config configHash).remoteConfigStatus = some status ∧
        status.lastRemoteConfigHash = configHash.getD [] := by
  unfold attemptRemoteConfig
  obtain ⟨_, _, _, _, happlying, -⟩ :=
    triggerPoll_eq (s.setRemoteConfigStatus .APPLYING configHash "")
  simp only [happlying]
  rcases parseRemoteConfig parseYaml config with err | parsed
  · simp only
    generalize hs' : reportRemoteConfigFailure _ configHash err = s'
    obtain ⟨_, _, _, _, hfailed, -⟩ := triggerPoll_eq s'
    rw [hfailed, ← hs']
    exact ⟨_, rfl, rfl⟩
  · exact ⟨_, rfl, rfl⟩

theorem attemptRemoteConfig_inv {config : AgentRemoteConfig} {configHash : Option Bytes}
    (happlies : s.applies = []) (hinFlight : s.applyInFlight = true)
    (hkey : s.lastRemoteConfigHash = configHash) :
    Inv (s.attemptRemoteConfig parseYaml config configHash) := by
  obtain ⟨status, hstatus, hhash⟩ := attemptRemoteConfig_status parseYaml s config configHash
  obtain ⟨_, _, _, _, _, _, _, hattempt, -, houtcome⟩ :=
    attemptRemoteConfig_eq parseYaml s config configHash
  rw [hattempt] at hstatus ⊢
  rw [happlies, hinFlight] at houtcome
  rcases houtcome with ⟨rfl, rfl⟩ | ⟨rfl, rfl⟩
  · refine ⟨Nat.zero_le _, by simp, ?_⟩
    intro _ _ status' hstatus' hne
    simp only at hstatus hstatus' ⊢
    obtain rfl : status = status' := Option.some_inj.mp (hstatus.symm.trans hstatus')
    rw [hkey]
    rcases configHash with _ | hash
    · exact absurd hhash hne
    · rw [hhash, Option.getD_some]
  · refine ⟨by simp, by simp, ?_⟩
    intro _ hnil
    simp at hnil

theorem handleRemoteConfig_inv (h : Inv s) (config : AgentRemoteConfig) :
    Inv (s.handleRemoteConfig parseYaml config) := by
  unfold handleRemoteConfig
  split
  · exact h
  rcases readHash config.configHash with err | configHash
  · simp only
    split
    · exact h
    · -- The status has no hash, whatever is in flight.
      generalize hs' : reportRemoteConfigFailure _ none err = s'
      obtain ⟨_, _, _, _, hfailed, -⟩ := triggerPoll_eq s'
      rw [hfailed, ← hs']
      refine ⟨h.oneApply, h.inFlight, ?_⟩
      intro _ _ status hstatus hne
      obtain rfl := Option.some_inj.mp hstatus
      exact absurd rfl hne
  · simp only
    split
    · exact h
    split
    · exact h
    · rename_i hidle
      apply attemptRemoteConfig_inv
      · exact h.idle (by simpa using hidle)
      · rfl
      · rfl

theorem processServerResponse_inv (h : Inv s) (response : ServerToAgent) :
    Inv (s.processServerResponse parseYaml response) := by
  rcases herror : response.errorResponse with _ | err
  · obtain ⟨_, _, hprocess⟩ := processServerResponse_eq parseYaml s response herror
    rw [hprocess]
    simp only
    generalize hs' : OpAMPClient.mk .. = s'
    have hs : Inv s' := by
      rw [← hs']
      exact ⟨h.oneApply, h.inFlight, h.keyed⟩
    rcases response.remoteConfig with _ | config
    · exact hs
    simp only
    split
    · exact handleRemoteConfig_inv parseYaml hs config
    · exact hs
  · obtain ⟨_, hprocess⟩ := processServerResponse_error parseYaml s herror
    rw [hprocess]
    exact ⟨h.oneApply, h.inFlight, h.keyed⟩

/-! ## An apply settles -/

theorem Inv.applies_eq (h : Inv s) {i : ℕ} {configHash : Option Bytes}
    (hi : s.applies[i]? = some configHash) :
    s.applies = [configHash] ∧ s.applies.eraseIdx i = [] := by
  have hone := h.oneApply
  obtain ⟨hlt, -⟩ := List.getElem?_eq_some_iff.mp hi
  obtain ⟨configHash', happlies⟩ := List.length_eq_one_iff.mp (show s.applies.length = 1 by omega)
  obtain rfl : i = 0 := by omega
  rw [happlies, List.getElem?_cons_zero, Option.some_inj] at hi
  rw [happlies, hi]
  exact ⟨rfl, rfl⟩

/-- The client once an apply has settled. -/
structure Settled (s : OpAMPClient) (configHash : Option Bytes) (t : OpAMPClient) : Prop where
  applies : t.applies = []
  applyInFlight : t.applyInFlight = false
  stopping : t.stopping = s.stopping
  status : ∃ status, t.remoteConfigStatus = some status ∧
    status.lastRemoteConfigHash = configHash.getD []
  lastRemoteConfigHash : t.lastRemoteConfigHash = s.lastRemoteConfigHash
  lastHashlessConfig : t.lastHashlessConfig = s.lastHashlessConfig
  attempts : t.attempts = s.attempts

theorem applyDone_settled (h : Inv s) {i : ℕ} {outcome : Except String Unit}
    (hstep : s.step parseYaml (.applyDone i outcome) = some t) :
    ∃ configHash, s.applies[i]? = some configHash ∧ Settled s configHash t := by
  rw [OpAMPClient.step] at hstep
  split at hstep
  · cases hstep
  · rename_i configHash hi
    obtain rfl := Option.some_inj.mp hstep
    obtain ⟨-, herase⟩ := h.applies_eq hi
    refine ⟨configHash, hi, ?_⟩
    rw [herase]
    generalize hs' : OpAMPClient.mk .. = s'
    obtain ⟨status, hhash, hsettled⟩ := applySettled_eq s' configHash outcome
    obtain ⟨_, _, _, _, htrigger, -⟩ := triggerPoll_eq { s' with remoteConfigStatus := some status }
    rw [hsettled, htrigger, ← hs']
    exact ⟨rfl, rfl, rfl, ⟨status, rfl, hhash⟩, rfl, rfl, rfl⟩

theorem Settled.inv {configHash : Option Bytes} (h : Settled s configHash t)
    (hkey : s.stopping = false → ∀ hash ≠ [], configHash = some hash →
      s.lastRemoteConfigHash = some hash) : Inv t := by
  constructor
  · rw [h.applies]
    exact Nat.zero_le _
  · rw [h.applies, h.applyInFlight]
    simp
  · intro hstopping _ status hstatus hne
    obtain ⟨status', hstatus', hhash⟩ := h.status
    obtain rfl : status = status' := Option.some_inj.mp (hstatus.symm.trans hstatus')
    rw [h.lastRemoteConfigHash]
    rcases configHash with _ | hash
    · exact absurd hhash hne
    · rw [hhash, Option.getD_some] at hne ⊢
      exact hkey (h.stopping ▸ hstopping) hash hne rfl

/-! ## The claims about a state -/

theorem handleRemoteConfig_unchanged {config : AgentRemoteConfig} (h : ¬ ActedOn s config) :
    s.handleRemoteConfig parseYaml config = s := by
  unfold ActedOn at h
  unfold handleRemoteConfig
  split
  · rfl
  · rename_i hstopping
    rcases hread : readHash config.configHash with err | configHash
    · rw [hread] at h
      simp only
      rw [if_pos]
      by_contra hbody
      exact h ⟨by simpa using hstopping, hbody⟩
    · rw [hread] at h
      simp only
      split
      · rfl
      split
      · rfl
      · rename_i hnew hidle
        exact absurd ⟨by simpa using hstopping, by simpa using hnew, by simpa using hidle⟩ h

theorem handleRemoteConfig_attempted {config : AgentRemoteConfig} {configHash : Option Bytes}
    (hread : readHash config.configHash = .ok configHash) (hstopping : s.stopping = false)
    (hidle : s.applyInFlight = false)
    (hnew : s.alreadyAttempted configHash (config.hashlessBody configHash) = false) :
    s.handleRemoteConfig parseYaml config =
      { s with
        applyInFlight := true
        lastRemoteConfigHash := configHash
        lastHashlessConfig := config.hashlessBody configHash }.attemptRemoteConfig parseYaml config
          configHash := by
  unfold handleRemoteConfig
  simp [hread, hstopping, hidle, hnew]

theorem attemptRemoteConfig_attempts (s : OpAMPClient) (config : AgentRemoteConfig)
    (configHash : Option Bytes) :
    (s.attemptRemoteConfig parseYaml config configHash).attempts =
      s.attempts ++ [⟨config, parseRemoteConfig parseYaml config⟩] := by
  obtain ⟨_, _, _, _, _, _, _, hattempt, -⟩ :=
    attemptRemoteConfig_eq parseYaml s config configHash
  rw [hattempt]

theorem attemptRemoteConfig_ok (s : OpAMPClient) {config : AgentRemoteConfig}
    (configHash : Option Bytes) {parsed : RemoteProfilingConfig}
    (h : parseRemoteConfig parseYaml config = .ok parsed) :
    (s.attemptRemoteConfig parseYaml config configHash).applies = s.applies ++ [configHash] := by
  unfold attemptRemoteConfig
  obtain ⟨_, _, _, _, happlying, -⟩ :=
    triggerPoll_eq (s.setRemoteConfigStatus .APPLYING configHash "")
  simp only [happlying, h]
  rfl

theorem alreadyAttempted_congr (hhash : t.lastRemoteConfigHash = s.lastRemoteConfigHash)
    (hbody : t.lastHashlessConfig = s.lastHashlessConfig) (configHash : Option Bytes)
    (hashlessBody : Option String) :
    t.alreadyAttempted configHash hashlessBody = s.alreadyAttempted configHash hashlessBody := by
  unfold alreadyAttempted
  rw [hhash, hbody]

theorem Inv.oneAttempt (h : Inv s) : OneAttempt parseYaml s where
  oneApply := h.oneApply
  unchanged _ hnot := handleRemoteConfig_unchanged parseYaml hnot
  retried config configHash hread hstopping hnew i outcome t hstep := by
    obtain ⟨configHash', -, hsettled⟩ := applyDone_settled parseYaml h hstep
    rw [handleRemoteConfig_attempted parseYaml hread (hsettled.stopping.trans hstopping)
      hsettled.applyInFlight, attemptRemoteConfig_attempts]
    rw [alreadyAttempted_congr hsettled.lastRemoteConfigHash hsettled.lastHashlessConfig]
    exact hnew
  reported hidle status hstatus hne config hconfig := by
    by_cases hstopping : s.stopping
    · rw [handleRemoteConfig_unchanged parseYaml fun hacted => by simp [hacted.1] at hstopping]
      exact hidle
    · have hkey := h.keyed (by simpa using hstopping) hidle status hstatus hne
      have hnot : ¬ ActedOn s config := by
        rintro ⟨-, hacted⟩
        simp [hconfig, readHash, alreadyAttempted, hkey] at hacted
      rw [handleRemoteConfig_unchanged parseYaml hnot]
      exact hidle

/-! ## Runs -/

theorem client_inv (h : Inv s) (e : OpAMPClient.Event) (hc : SettlesOwnKey s (.client e))
    (hstep : s.step parseYaml e = some t) : Inv t := by
  cases e with
  | attributesReady attributes now =>
    simp only [OpAMPClient.step, Option.ite_none_right_eq_some, Option.some_inj] at hstep
    obtain ⟨-, rfl⟩ := hstep
    apply (poll_untouched _ now).inv
    exact ⟨h.oneApply, h.inFlight, h.keyed⟩
  | timerFires id now =>
    simp only [OpAMPClient.step, Option.ite_none_right_eq_some, Option.some_inj] at hstep
    obtain ⟨-, rfl⟩ := hstep
    apply (poll_untouched _ now).inv
    exact ⟨h.oneApply, h.inFlight, h.keyed⟩
  | pollDone i result random =>
    simp only [OpAMPClient.step, Option.ite_none_right_eq_some, Option.some_inj] at hstep
    obtain ⟨-, rfl⟩ := hstep
    apply (scheduleNextPoll_untouched _ _ random).inv
    have hpolls : Inv { s with polls := s.polls.eraseIdx i } := ⟨h.oneApply, h.inFlight, h.keyed⟩
    have hanswer : Inv ({ s with polls := s.polls.eraseIdx i }.handleAnswer parseYaml result) := by
      unfold handleAnswer
      split
      · rename_i body
        have hcommit := (commitPending_untouched _).inv hpolls
        rcases body with _ | response
        · exact hcommit
        · have hprocess := processServerResponse_inv parseYaml hcommit response
          exact ⟨hprocess.oneApply, hprocess.inFlight, hprocess.keyed⟩
      · exact ⟨h.oneApply, h.inFlight, h.keyed⟩
      · exact hpolls
    exact ⟨hanswer.oneApply, hanswer.inFlight, hanswer.keyed⟩
  | applyDone i outcome =>
    obtain ⟨configHash, hi, hsettled⟩ := applyDone_settled parseYaml h hstep
    apply hsettled.inv
    intro hstopping hash hne heq
    exact hc hstopping hash hne (heq ▸ hi)
  | effectiveConfigChanges c =>
    obtain rfl := Option.some_inj.mp hstep
    exact ⟨h.oneApply, h.inFlight, h.keyed⟩
  | stop =>
    obtain rfl := Option.some_inj.mp hstep
    exact (stop_untouched s).inv h

theorem step_inv (s : OpAMPClient) (e : Event) (t : OpAMPClient) (h : Inv s)
    (hc : SettlesOwnKey s e) (hstep : step parseYaml s e = some t) : Inv t := by
  rcases e with response | e
  · obtain rfl := Option.some_inj.mp hstep
    exact processServerResponse_inv parseYaml h response
  · exact client_inv parseYaml h e hc hstep

/-- The apply that settled reports a hash that is not the dedup key: the config with that hash
starts a second apply. -/
theorem settle_breaks (s : OpAMPClient) (e : Event) (t : OpAMPClient) (h : Inv s)
    (hc : ¬ SettlesOwnKey s e) (hstep : step parseYaml s e = some t) : ¬ OneAttempt parseYaml t := by
  unfold SettlesOwnKey at hc
  split at hc
  · rename_i i outcome
    push Not at hc
    obtain ⟨hstopping, hash, hne, hi, hkey⟩ := hc
    obtain ⟨configHash, hi', hsettled⟩ := applyDone_settled parseYaml h hstep
    obtain rfl := Option.some_inj.mp (hi.symm.trans hi')
    obtain ⟨status, hstatus, hhash⟩ := hsettled.status
    rw [Option.getD_some] at hhash
    let config : AgentRemoteConfig := { configHash := .bytes hash }
    have hread : readHash config.configHash = .ok (some hash) := rfl
    have hnew : t.alreadyAttempted (some hash) (config.hashlessBody (some hash)) = false := by
      unfold alreadyAttempted
      rw [hsettled.lastRemoteConfigHash]
      simpa using hkey
    have hattempted := handleRemoteConfig_attempted parseYaml hread
      (hsettled.stopping.trans hstopping) hsettled.applyInFlight hnew
    have hparsed : parseRemoteConfig parseYaml config = .ok allOff := rfl
    intro hone
    have hidle := hone.reported hsettled.applies status hstatus (hhash ▸ hne) config (by rw [hhash])
    rw [hattempted, attemptRemoteConfig_ok parseYaml _ _ hparsed] at hidle
    exact absurd hidle (List.append_ne_nil_of_right_ne_nil _ (List.cons_ne_nil _ _))
  · exact absurd trivial hc

theorem start_inv (pollingIntervalMs : ℚ) (optedIn : Bool) (uuid : Bytes) (now : ℕ)
    (c : EffectiveConfig) : Inv ((new pollingIntervalMs optedIn uuid now c).start now) := by
  constructor <;> simp [new, start]

/-- **One attempt for each config.** In every state of a run at most one apply is in flight, a
config that is not acted on leaves the dedup keys alone, and the config with the reported hash is
not applied again, exactly when each apply of the run settles while its own hash is the key. -/
theorem one_attempt_iff (parseYaml : String → Except String Value) (pollingIntervalMs : ℚ)
    (optedIn : Bool) (uuid : Bytes) (now : ℕ) (c : EffectiveConfig) (es : List Event) :
    Always (step parseYaml) (OneAttempt parseYaml)
        ((new pollingIntervalMs optedIn uuid now c).start now) es ↔
      Along (step parseYaml) SettlesOwnKey
        ((new pollingIntervalMs optedIn uuid now c).start now) es := by
  apply always_iff_along (fun _ h => h.oneAttempt parseYaml) (step_inv parseYaml)
    (settle_breaks parseYaml)
  exact start_inv pollingIntervalMs optedIn uuid now c

/-- The config with the hash 7, one with an unreadable hash while it is applied, and the end of the
apply. -/
def badHashEvents : List Event :=
  [.received { remoteConfig := some { configHash := .bytes [7] } },
    .received { remoteConfig := some { configHash := .unreadable "bad hash" } },
    .client (.applyDone 0 (.ok ()))]

theorem applied_twice :
    ¬ Always (step fun _ => .ok .undefined) (OneAttempt fun _ => .ok .undefined)
      ((new 30000 true [] 0 { type := .yaml, name := "yaml", content := "" }).start 0)
      badHashEvents := by
  intro h
  have hlast := h.2.2.2
  have hidle := hlast.reported rfl _ rfl (by decide) { configHash := .bytes [7] } rfl
  exact absurd hidle (by decide)

end SplunkOtel.OpAMP.Attempts
