import SplunkOtel.Lib.Run
import SplunkOtel.OpAMP.Client

/-!
# The poll loop

The client polls in one loop: a poll in flight, or else a timer for the next one. Each operation
keeps that, whatever the answers are.
-/

open Lib.Run

namespace SplunkOtel.OpAMP.PollLoop

open Js OpAMPClient

variable (parseYaml : String → Except String Value)

/-! ## What an answer does to the two records -/

def lastSentAfter (s : OpAMPClient) : TransportResult → Option EffectiveConfig
  | .response 200 body =>
    if resets body then none else s.pendingEffectiveConfig <|> s.lastSentEffectiveConfig
  | .response 409 _ => none
  | _ => s.lastSentEffectiveConfig

def pendingAfter (s : OpAMPClient) : TransportResult → Option EffectiveConfig
  | .response 200 _ => none
  | .response 409 _ => none
  | _ => s.pendingEffectiveConfig

theorem after_other (s : OpAMPClient) {result : TransportResult}
    (h200 : ∀ body, result = .response 200 body → False)
    (h409 : ∀ body, result = .response 409 body → False) :
    lastSentAfter s result = s.lastSentEffectiveConfig ∧
      pendingAfter s result = s.pendingEffectiveConfig := by
  unfold lastSentAfter pendingAfter
  split
  · exact (h200 _ rfl).elim
  · exact (h409 _ rfl).elim
  · exact ⟨rfl, rfl⟩

theorem commitPending_eq (s : OpAMPClient) : s.commitPending =
    { s with
      lastSentEffectiveConfig := s.pendingEffectiveConfig <|> s.lastSentEffectiveConfig
      pendingEffectiveConfig := none } := by
  unfold commitPending
  split
  · rename_i h
    obtain ⟨⟩ := s
    simp only at h
    subst h
    rfl
  · rename_i c h
    rw [h]
    rfl

/-- The client `t` once the answer to its poll is handled. -/
structure Answered (s : OpAMPClient) (result : TransportResult) (t : OpAMPClient) : Prop where
  polls : t.polls = s.polls
  timers : t.timers = s.timers
  starting : t.starting = s.starting
  effectiveConfig : t.effectiveConfig = s.effectiveConfig
  lastSent : t.lastSentEffectiveConfig = lastSentAfter s result
  pending : t.pendingEffectiveConfig = pendingAfter s result

theorem processServerResponse_lastSent (s : OpAMPClient) (response : ServerToAgent)
    (hpolling : s.polling = true) :
    let t := s.processServerResponse parseYaml response
    t.polls = s.polls ∧ t.timers = s.timers ∧ t.starting = s.starting ∧
      t.effectiveConfig = s.effectiveConfig ∧
      t.lastSentEffectiveConfig =
        (if resets (some response) then none else s.lastSentEffectiveConfig) ∧
      t.pendingEffectiveConfig = s.pendingEffectiveConfig := by
  rcases herror : response.errorResponse with _ | err
  · obtain ⟨_, _, hprocess⟩ := processServerResponse_eq parseYaml s response herror
    rw [hprocess]
    simp only [resets, herror, Option.isNone_none, Bool.true_and]
    generalize hs' : OpAMPClient.mk .. = s'
    have hpolling' : s'.polling = true := by rw [← hs']; exact hpolling
    rcases response.remoteConfig with _ | remoteConfig
    · rw [← hs']
      simp
    simp only
    split
    · obtain ⟨_, _, _, _, _, _, _, _, _, _, hhandle, htimers⟩ :=
        handleRemoteConfig_eq parseYaml s' remoteConfig
      rw [hhandle, htimers hpolling', ← hs']
      simp
    · rw [← hs']
      simp
  · obtain ⟨_, hprocess⟩ := processServerResponse_error parseYaml s herror
    rw [hprocess]
    simp [resets, herror]

theorem handleAnswer_answered (s : OpAMPClient) (result : TransportResult)
    (hpolling : s.polling = true) : Answered s result (s.handleAnswer parseYaml result) := by
  unfold handleAnswer
  split
  · rename_i body
    have hcommit := commitPending_eq s
    rcases body with _ | response
    · rw [hcommit]
      exact ⟨rfl, rfl, rfl, rfl, rfl, rfl⟩
    · obtain ⟨hpolls, htimers, hstarting, hconfig, hlast, hpending⟩ :=
        processServerResponse_lastSent parseYaml s.commitPending response
          (by rw [hcommit]; exact hpolling)
      exact ⟨hpolls.trans (by rw [hcommit]), htimers.trans (by rw [hcommit]),
        hstarting.trans (by rw [hcommit]), hconfig.trans (by rw [hcommit]),
        hlast.trans (by rw [hcommit]; rfl), hpending.trans (by rw [hcommit]; rfl)⟩
  · exact ⟨rfl, rfl, rfl, rfl, rfl, rfl⟩
  · rename_i h200 h409
    obtain ⟨hlast, hpending⟩ := after_other s h200 h409
    exact ⟨rfl, rfl, rfl, rfl, hlast.symm, hpending.symm⟩

/-! ## One loop -/

structure OneLoop (s : OpAMPClient) : Prop where
  onePoll : s.polls.length ≤ 1
  polling : s.polling = true ↔ s.polls ≠ []
  pollAlone : s.polls ≠ [] → s.timers = []
  oneTimer : s.timers.length ≤ 1
  held : ∀ t ∈ s.timers, s.pollingTimer = some t.id
  starting : s.starting = true → s.polls = [] ∧ s.timers = [] ∧ s.applies = []

variable {s : OpAMPClient}

theorem oneLoop_idle (hpolls : s.polls = []) (hpolling : s.polling = false) (htimers : s.timers = [])
    (hstarting : s.starting = false) : OneLoop s := by
  constructor <;> simp [hpolls, hpolling, htimers, hstarting]

theorem OneLoop.not_polling (h : OneLoop s) (hpolls : s.polls = []) : s.polling = false := by
  by_contra hpolling
  exact h.polling.mp (by simpa using hpolling) hpolls

theorem clearPollingTimer_held (h : ∀ t ∈ s.timers, s.pollingTimer = some t.id) :
    s.clearPollingTimer = { s with timers := [], pollingTimer := none } := by
  have hnil : s.timers.filter (s.pollingTimer ≠ some ·.id) = [] := by
    rw [List.filter_eq_nil_iff]
    intro t ht
    simp [h t ht]
  unfold clearPollingTimer
  rw [hnil]

theorem scheduleNextPoll_oneLoop (h : OneLoop s) (hpolls : s.polls = [])
    (hstarting : s.starting = false) (delayMs : Option ℚ) (random : ℚ) :
    OneLoop (s.scheduleNextPoll delayMs random) := by
  unfold scheduleNextPoll
  rw [clearPollingTimer_held h.held]
  split
  · exact h
  · constructor
    · exact h.onePoll
    · exact h.polling
    · simp [hpolls]
    · simp
    · simp
    · simp [hstarting]

theorem triggerPoll_oneLoop (h : OneLoop s) (hstarting : s.starting = false) :
    OneLoop s.triggerPoll := by
  unfold triggerPoll
  split
  · exact h
  split
  · exact ⟨h.onePoll, h.polling, h.pollAlone, h.oneTimer, h.held, h.starting⟩
  · rename_i hpolling
    apply scheduleNextPoll_oneLoop h _ hstarting
    exact not_not.mp fun hpolls => hpolling (h.polling.mpr hpolls)

theorem poll_oneLoop (h : OneLoop s) (hpolls : s.polls = []) (htimers : s.timers = [])
    (hstarting : s.starting = false) (now : ℕ) : OneLoop (s.poll now) := by
  unfold poll
  split
  · exact h
  unfold buildAgentToServerMessage
  simp only
  split
  · constructor <;> simp [hpolls, htimers, hstarting]
  · constructor <;> simp [hpolls, htimers, hstarting]

theorem pollAnswered_oneLoop (hpolling : s.polling = true) (hpolls : s.polls = [])
    (htimers : s.timers = []) (hstarting : s.starting = false) (result : TransportResult)
    (random : ℚ) : OneLoop (s.pollAnswered parseYaml result random) := by
  have h := handleAnswer_answered parseYaml s result hpolling
  have hpolls' := h.polls.trans hpolls
  have hstarting' := h.starting.trans hstarting
  apply scheduleNextPoll_oneLoop
  · exact oneLoop_idle hpolls' rfl (h.timers.trans htimers) hstarting'
  · exact hpolls'
  · exact hstarting'

theorem applySettled_oneLoop (h : OneLoop s) (hstarting : s.starting = false)
    (configHash : Option Bytes) (outcome : Except String Unit) :
    OneLoop (s.applySettled configHash outcome) := by
  obtain ⟨status, -, hsettled⟩ := applySettled_eq s configHash outcome
  have htrigger : OneLoop { s with remoteConfigStatus := some status }.triggerPoll :=
    triggerPoll_oneLoop ⟨h.onePoll, h.polling, h.pollAlone, h.oneTimer, h.held, h.starting⟩
      hstarting
  obtain ⟨_, _, _, _, heq, _⟩ := triggerPoll_eq { s with remoteConfigStatus := some status }
  rw [hsettled]
  rw [heq] at htrigger ⊢
  exact ⟨htrigger.onePoll, htrigger.polling, htrigger.pollAlone, htrigger.oneTimer, htrigger.held,
    htrigger.starting⟩

theorem stop_oneLoop (h : OneLoop s) : OneLoop s.stop := by
  have hclear := clearPollingTimer_held (s := { s with stopping := true }) h.held
  unfold stop sendDisconnect
  simp only [hclear]
  constructor
  · exact h.onePoll
  · exact h.polling
  · simp
  · simp
  · simp
  · intro hstarting
    obtain ⟨hpolls, _, happlies⟩ := h.starting hstarting
    exact ⟨hpolls, rfl, happlies⟩

/-! ## Every step -/

theorem OneLoop.polls_eq (h : OneLoop s) {i : ℕ} {msg : AgentToServer}
    (hi : s.polls[i]? = some msg) :
    s.polls = [msg] ∧ s.polls.eraseIdx i = [] ∧ s.polling = true ∧ s.timers = [] ∧
      s.starting = false := by
  have hone := h.onePoll
  obtain ⟨hlt, _⟩ := List.getElem?_eq_some_iff.mp hi
  have hne : s.polls ≠ [] := List.ne_nil_of_length_pos (by omega)
  obtain ⟨msg', hpolls⟩ := List.length_eq_one_iff.mp (show s.polls.length = 1 by omega)
  obtain rfl : i = 0 := by omega
  rw [hpolls, List.getElem?_cons_zero, Option.some_inj] at hi
  refine ⟨by rw [hpolls, hi], by rw [hpolls]; rfl, h.polling.mpr hne, h.pollAlone hne, ?_⟩
  by_contra hstarting
  exact hne (h.starting (by simpa using hstarting)).1

theorem OneLoop.timers_eq (h : OneLoop s) {id : ℕ} (hid : s.timers.any (·.id = id)) :
    s.polls = [] ∧ s.timers.filter (·.id ≠ id) = [] ∧ s.starting = false := by
  obtain ⟨t, ht, hidt⟩ := List.any_eq_true.mp hid
  have hne : s.timers ≠ [] := List.ne_nil_of_mem ht
  refine ⟨?_, ?_, ?_⟩
  · by_contra hpolls
    exact hne (h.pollAlone hpolls)
  · rw [List.filter_eq_nil_iff]
    intro t' ht'
    have hheld := (h.held t ht).symm.trans (h.held t' ht')
    simp only [decide_eq_true_eq, Option.some_inj] at hidt hheld ⊢
    omega
  · by_contra hstarting
    exact hne (h.starting (by simpa using hstarting)).2.1

theorem step_oneLoop (s : OpAMPClient) (e : Event) (t : OpAMPClient) (h : OneLoop s)
    (hstep : s.step parseYaml e = some t) : OneLoop t := by
  cases e with
  | attributesReady attributes now =>
    simp only [step, Option.ite_none_right_eq_some, Option.some_inj] at hstep
    obtain ⟨hstarting, rfl⟩ := hstep
    obtain ⟨hpolls, htimers, _⟩ := h.starting hstarting
    apply poll_oneLoop
    · exact ⟨h.onePoll, h.polling, h.pollAlone, h.oneTimer, h.held, by simp⟩
    · exact hpolls
    · exact htimers
    · rfl
  | timerFires id now =>
    simp only [step, Option.ite_none_right_eq_some, Option.some_inj] at hstep
    obtain ⟨hid, rfl⟩ := hstep
    obtain ⟨hpolls, htimers, hstarting⟩ := h.timers_eq hid
    apply poll_oneLoop
    · exact oneLoop_idle hpolls (h.not_polling hpolls) htimers hstarting
    · exact hpolls
    · exact htimers
    · exact hstarting
  | pollDone i result random =>
    simp only [step, Option.ite_none_right_eq_some, Option.some_inj] at hstep
    obtain ⟨⟨hi, _⟩, rfl⟩ := hstep
    obtain ⟨msg, hmsg⟩ := Option.isSome_iff_exists.mp hi
    obtain ⟨_, herase, hpolling, htimers, hstarting⟩ := h.polls_eq hmsg
    apply pollAnswered_oneLoop
    · exact hpolling
    · exact herase
    · exact htimers
    · exact hstarting
  | applyDone i outcome =>
    rw [step] at hstep
    split at hstep
    · cases hstep
    · rename_i configHash hi
      obtain rfl := Option.some_inj.mp hstep
      have hstarting : s.starting = false := by
        by_contra hstarting
        rw [(h.starting (by simpa using hstarting)).2.2] at hi
        cases hi
      apply applySettled_oneLoop
      · exact ⟨h.onePoll, h.polling, h.pollAlone, h.oneTimer, h.held, by simp [hstarting]⟩
      · exact hstarting
  | effectiveConfigChanges c =>
    obtain rfl := Option.some_inj.mp hstep
    exact ⟨h.onePoll, h.polling, h.pollAlone, h.oneTimer, h.held, h.starting⟩
  | stop =>
    obtain rfl := Option.some_inj.mp hstep
    exact stop_oneLoop h

theorem start_oneLoop (pollingIntervalMs : ℚ) (optedIn : Bool) (uuid : Bytes) (now : ℕ)
    (c : EffectiveConfig) : OneLoop ((new pollingIntervalMs optedIn uuid now c).start now) := by
  constructor <;> simp [new, start]

end SplunkOtel.OpAMP.PollLoop
