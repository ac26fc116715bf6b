import SplunkOtel.OpAMP.PollLoop

/-!
# The effective config that the server knows

A message leaves out the effective config when it is the last one that the server acknowledged. So
the client's record of what was sent has to be what the server has: the record is kept when a
message is built, and taken over when an answer arrives.
-/

open Lib Lib.Run

namespace SplunkOtel.OpAMP.EffectiveConfig

open Js OpAMPClient PollLoop

/-- The client, and the effective config in the last message that carried one and was acknowledged
since the last reset. -/
structure Watched where
  client : OpAMPClient
  acked : Option AgentConfigMap := none

def ackedAfter (acked : Option AgentConfigMap) (msg : AgentToServer) :
    TransportResult → Option AgentConfigMap
  | .response 200 body => if resets body then none else msg.effectiveConfig <|> acked
  | .response 409 _ => none
  | _ => acked

variable (parseYaml : String → Except String Value)

def Watched.step (w : Watched) (e : Event) : Option Watched :=
  (w.client.step parseYaml e).map fun client =>
    { client
      acked := match e with
        | .pollDone i result _ => match w.client.polls[i]? with
          | some msg => ackedAfter w.acked msg result
          | none => w.acked
        | _ => w.acked }

/-- What the client takes for sent is what the server acknowledged last, and a message that is
built now carries the current effective config unless the server acknowledged just that. -/
def NeverLost (w : Watched) : Prop :=
  (∀ c ∈ w.client.lastSentEffectiveConfig, w.acked = some c.toConfigMap) ∧
    (w.acked ≠ some w.client.effectiveConfig.toConfigMap →
      w.client.buildAgentToServerMessage.2.effectiveConfig =
        some w.client.effectiveConfig.toConfigMap)

instance : DecidablePred NeverLost := fun _ => inferInstanceAs (Decidable (_ ∧ _))

/-- When a message without an effective config is acknowledged, no effective config of an earlier
message is pending, or the answer asks for the full state. -/
def NothingLeftPending (w : Watched) : Event → Prop
  | .pollDone i (.response 200 body) _ => ∀ msg ∈ w.client.polls[i]?, msg.effectiveConfig = none →
      resets body = false → w.client.pendingEffectiveConfig = none
  | _ => True

/-! ## What a config looks like in a message -/

theorem contentType_injective : Function.Injective contentType := by
  intro a b h
  cases a <;> cases b <;> first | rfl | exact absurd h (by decide)

theorem toConfigMap_injective : Function.Injective EffectiveConfig.toConfigMap := by
  intro c d h
  have hentries := congrArg (fun m => m.configMap.entries) h
  simp only [EffectiveConfig.toConfigMap, OrderedMap.entries_set_empty, List.cons.injEq,
    Prod.mk.injEq, Option.some_inj, AgentConfigFile.mk.injEq, and_true] at hentries
  obtain ⟨hname, hbody, htype⟩ := hentries
  have hcontent := encodeText_injective hbody
  have htype' := contentType_injective htype
  obtain ⟨ctype, cname, ccontent⟩ := c
  obtain ⟨dtype, dname, dcontent⟩ := d
  simp only at hname hcontent htype'
  rw [hname, hcontent, htype']

/-! ## The invariant -/

structure Synced (w : Watched) : Prop where
  loop : OneLoop w.client
  acked : w.acked = w.client.lastSentEffectiveConfig.map EffectiveConfig.toConfigMap
  pending : ∀ c ∈ w.client.pendingEffectiveConfig, w.client.lastSentEffectiveConfig ≠ some c
  carried : ∀ msg ∈ w.client.polls, ∀ m ∈ msg.effectiveConfig,
    w.client.pendingEffectiveConfig.map EffectiveConfig.toConfigMap = some m

theorem synced_neverLost (w : Watched) (h : Synced w) : NeverLost w := by
  constructor
  · intro c hc
    rw [h.acked, hc, Option.map_some]
  · intro hne
    unfold buildAgentToServerMessage
    simp only
    split
    · rename_i hsame
      rw [h.acked, ← hsame, Option.map_some] at hne
      exact absurd rfl hne
    · rfl

theorem Synced.frame {w : Watched} (h : Synced w) {t : OpAMPClient} (hloop : OneLoop t)
    (hlast : t.lastSentEffectiveConfig = w.client.lastSentEffectiveConfig)
    (hpending : t.pendingEffectiveConfig = w.client.pendingEffectiveConfig)
    (hpolls : t.polls = w.client.polls) : Synced ⟨t, w.acked⟩ := by
  constructor
  · exact hloop
  · exact h.acked.trans (by rw [hlast])
  · simp only [hlast, hpending]
    exact h.pending
  · simp only [hpending, hpolls]
    exact h.carried

/-! ## A poll -/

theorem poll_synced {w : Watched} {s : OpAMPClient} (now : ℕ) (hloop : OneLoop (s.poll now))
    (hpolls : s.polls = [])
    (hacked : w.acked = s.lastSentEffectiveConfig.map EffectiveConfig.toConfigMap)
    (hpending : ∀ c ∈ s.pendingEffectiveConfig, s.lastSentEffectiveConfig ≠ some c) :
    Synced ⟨s.poll now, w.acked⟩ := by
  revert hloop
  unfold poll
  split
  · intro hloop
    exact ⟨hloop, hacked, hpending, by simp [hpolls]⟩
  unfold buildAgentToServerMessage
  simp only
  split
  · intro hloop
    exact ⟨hloop, hacked, hpending, by simp [hpolls]⟩
  · rename_i hnew
    intro hloop
    refine ⟨hloop, hacked, ?_, by simp [hpolls]⟩
    rintro c ⟨⟩
    exact fun h => hnew h.symm

theorem result_cases (s : OpAMPClient) (acked : Option AgentConfigMap) (msg : AgentToServer)
    (result : TransportResult) :
    (∃ body, result = .response 200 body) ∨ (∃ body, result = .response 409 body) ∨
      ackedAfter acked msg result = acked ∧ lastSentAfter s result = s.lastSentEffectiveConfig ∧
        pendingAfter s result = s.pendingEffectiveConfig := by
  unfold ackedAfter
  split
  · exact Or.inl ⟨_, rfl⟩
  · exact Or.inr (Or.inl ⟨_, rfl⟩)
  · rename_i h200 h409
    exact Or.inr (Or.inr ⟨rfl, after_other s h200 h409⟩)

theorem pollAnswered_report (s : OpAMPClient) (result : TransportResult) (random : ℚ)
    (hpolling : s.polling = true) :
    let t := s.pollAnswered parseYaml result random
    t.polls = s.polls ∧ t.lastSentEffectiveConfig = lastSentAfter s result ∧
      t.pendingEffectiveConfig = pendingAfter s result := by
  have h := handleAnswer_answered parseYaml s result hpolling
  unfold pollAnswered
  generalize hs' : OpAMPClient.mk .. = s'
  obtain ⟨_, _, _, _, hschedule⟩ :=
    scheduleNextPoll_eq s' (if s'.pollAgainImmediately then some 0 else none) random
  simp only [hschedule]
  rw [← hs']
  exact ⟨h.polls, h.lastSent, h.pending⟩

theorem pollDone_synced {w : Watched} (h : Synced w) {i : ℕ} {msg : AgentToServer}
    (hmsg : w.client.polls[i]? = some msg) {result : TransportResult} {random : ℚ}
    (hc : NothingLeftPending w (.pollDone i result random)) {t : OpAMPClient} (hloop : OneLoop t)
    (ht : t = { w.client with polls := w.client.polls.eraseIdx i }.pollAnswered parseYaml result
      random) :
    Synced ⟨t, ackedAfter w.acked msg result⟩ := by
  obtain ⟨hpolls, herase, hpolling, -, -⟩ := h.loop.polls_eq hmsg
  obtain ⟨hpolls', hlast, hpending⟩ := pollAnswered_report parseYaml
    { w.client with polls := w.client.polls.eraseIdx i } result random hpolling
  rw [← ht] at hpolls' hlast hpending
  have hcarried : ∀ msg ∈ t.polls, ∀ m ∈ msg.effectiveConfig,
      t.pendingEffectiveConfig.map EffectiveConfig.toConfigMap = some m := by
    rw [hpolls']
    simp [herase]
  obtain ⟨body, rfl⟩ | ⟨body, rfl⟩ | ⟨hacked, hlast', hpending'⟩ :=
    result_cases { w.client with polls := w.client.polls.eraseIdx i } w.acked msg result
  · refine ⟨hloop, ?_, by simp [hpending, pendingAfter], hcarried⟩
    simp only [hlast, lastSentAfter, ackedAfter]
    by_cases hresets : resets body = true
    · simp [hresets]
    · simp only [hresets, Bool.false_eq_true, ↓reduceIte]
      rcases hm : msg.effectiveConfig with _ | m
      · have hnone := hc msg hmsg hm (by simpa using hresets)
        simpa [hnone] using h.acked
      · have hsome := h.carried msg (by simp [hpolls]) m hm
        obtain ⟨c, hc', rfl⟩ := Option.map_eq_some_iff.mp hsome
        simp [hc']
  · exact ⟨hloop, by simp [hlast, lastSentAfter, ackedAfter], by simp [hpending, pendingAfter],
      hcarried⟩
  · rw [hacked]
    rw [hlast'] at hlast
    rw [hpending'] at hpending
    constructor
    · exact hloop
    · exact h.acked.trans (by rw [hlast])
    · simp only [hlast, hpending]
      exact h.pending
    · exact hcarried

theorem applySettled_report (s : OpAMPClient) (configHash : Option Bytes)
    (outcome : Except String Unit) :
    let t := s.applySettled configHash outcome
    t.polls = s.polls ∧ t.lastSentEffectiveConfig = s.lastSentEffectiveConfig ∧
      t.pendingEffectiveConfig = s.pendingEffectiveConfig := by
  obtain ⟨status, -, hsettled⟩ := applySettled_eq s configHash outcome
  obtain ⟨_, _, _, _, htrigger, _⟩ := triggerPoll_eq { s with remoteConfigStatus := some status }
  rw [hsettled, htrigger]
  exact ⟨rfl, rfl, rfl⟩

/-! ## Every step -/

theorem step_synced (w : Watched) (e : Event) (v : Watched) (h : Synced w)
    (hc : NothingLeftPending w e) (hstep : w.step parseYaml e = some v) : Synced v := by
  obtain ⟨t, ht, rfl⟩ := Option.map_eq_some_iff.mp hstep
  have hloop := step_oneLoop parseYaml w.client e t h.loop ht
  cases e with
  | attributesReady attributes now =>
    simp only [OpAMPClient.step, Option.ite_none_right_eq_some, Option.some_inj] at ht
    obtain ⟨hstarting, rfl⟩ := ht
    obtain ⟨hpolls, _, _⟩ := h.loop.starting hstarting
    exact poll_synced now hloop hpolls h.acked h.pending
  | timerFires id now =>
    simp only [OpAMPClient.step, Option.ite_none_right_eq_some, Option.some_inj] at ht
    obtain ⟨hid, rfl⟩ := ht
    obtain ⟨hpolls, _, _⟩ := h.loop.timers_eq hid
    exact poll_synced now hloop hpolls h.acked h.pending
  | pollDone i result random =>
    simp only [OpAMPClient.step, Option.ite_none_right_eq_some, Option.some_inj] at ht
    obtain ⟨⟨hi, _⟩, ht⟩ := ht
    obtain ⟨msg, hmsg⟩ := Option.isSome_iff_exists.mp hi
    simp only [hmsg]
    exact pollDone_synced parseYaml h hmsg hc hloop ht.symm
  | applyDone i outcome =>
    rw [OpAMPClient.step] at ht
    split at ht
    · cases ht
    · rename_i configHash hi
      obtain rfl := Option.some_inj.mp ht
      obtain ⟨hpolls, hlast, hpending⟩ := applySettled_report
        { w.client with applies := w.client.applies.eraseIdx i } configHash outcome
      exact h.frame hloop hlast hpending hpolls
  | effectiveConfigChanges c =>
    obtain rfl := Option.some_inj.mp ht
    exact h.frame hloop rfl rfl rfl
  | stop =>
    obtain rfl := Option.some_inj.mp ht
    exact h.frame hloop rfl rfl rfl

theorem step_breaks (w : Watched) (e : Event) (v : Watched) (h : Synced w)
    (hc : ¬ NothingLeftPending w e) (hstep : w.step parseYaml e = some v) : ¬ NeverLost v := by
  obtain ⟨t, ht, rfl⟩ := Option.map_eq_some_iff.mp hstep
  unfold NothingLeftPending at hc
  split at hc
  · rename_i i body random
    simp only [not_forall] at hc
    obtain ⟨msg, hmsg, hnone, hresets, hleft⟩ := hc
    obtain ⟨d, hd⟩ := Option.ne_none_iff_exists'.mp hleft
    obtain ⟨-, -, hpolling, -, -⟩ := h.loop.polls_eq hmsg
    simp only [OpAMPClient.step, Option.ite_none_right_eq_some, Option.some_inj] at ht
    obtain ⟨-, rfl⟩ := ht
    obtain ⟨-, hlast, -⟩ := pollAnswered_report parseYaml
      { w.client with polls := w.client.polls.eraseIdx i } (.response 200 body) random hpolling
    rintro ⟨hacked, -⟩
    have hlast' := hlast.trans (show _ = some d by simp [lastSentAfter, hresets, hd])
    have hmsg' : w.client.polls[i]? = some msg := hmsg
    have hwrong : w.acked = some d.toConfigMap := by
      simpa [hmsg', ackedAfter, hresets, hnone] using hacked d hlast'
    rw [h.acked, Option.map_eq_some_iff] at hwrong
    obtain ⟨c, hc, hcd⟩ := hwrong
    rw [toConfigMap_injective hcd] at hc
    exact h.pending d hd hc
  · exact absurd trivial hc

/-! ## Every run -/

def started (pollingIntervalMs : ℚ) (optedIn : Bool) (uuid : Bytes) (now : ℕ)
    (c : EffectiveConfig) : Watched where
  client := (new pollingIntervalMs optedIn uuid now c).start now

theorem started_synced (pollingIntervalMs : ℚ) (optedIn : Bool) (uuid : Bytes) (now : ℕ)
    (c : EffectiveConfig) : Synced (started pollingIntervalMs optedIn uuid now c) := by
  constructor
  · exact start_oneLoop pollingIntervalMs optedIn uuid now c
  · rfl
  · simp [started, new, start]
  · simp [started, new, start]

/-- **The effective config.** In a run the client's record of the last config sent is what the
server acknowledged, and no config is lost, exactly when no message without a config is
acknowledged while a config of an earlier message is pending. -/
theorem effective_config_never_lost_iff (parseYaml : String → Except String Value)
    (pollingIntervalMs : ℚ) (optedIn : Bool) (uuid : Bytes) (now : ℕ) (c : EffectiveConfig)
    (es : List Event) :
    Always (Watched.step parseYaml) NeverLost (started pollingIntervalMs optedIn uuid now c) es ↔
      Along (Watched.step parseYaml) NothingLeftPending
        (started pollingIntervalMs optedIn uuid now c) es :=
  always_iff_along synced_neverLost (step_synced parseYaml) (step_breaks parseYaml) es _
    (started_synced pollingIntervalMs optedIn uuid now c)

/-! ## A config that a failed poll left pending -/

def configA : EffectiveConfig := { type := .env, name := "environment", content := "a" }

def configB : EffectiveConfig := { type := .env, name := "environment", content := "b" }

/-- The poll with `b` fails, the next one has nothing to send and is acknowledged, and from then on
the client takes `b` for sent. -/
theorem failed_poll_takes_over :
    ¬ Always (Watched.step fun _ => .ok .null) NeverLost (started 30000 false [] 0 configA)
      [.attributesReady [] 1, .pollDone 0 (.response 200 (some {})) 0,
        .effectiveConfigChanges configB, .timerFires 0 2, .pollDone 0 (.response 500 none) 0,
        .effectiveConfigChanges configA, .timerFires 1 3,
        .pollDone 0 (.response 200 (some {})) 0, .effectiveConfigChanges configB] := by
  decide

end SplunkOtel.OpAMP.EffectiveConfig
