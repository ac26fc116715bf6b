import SplunkOtel.OpAMP.OneAttempt

/-!
# No lost wake-up

A new remote-config status has to reach the server at once. Beside the client stands whether its
status was set after the last message was built: then a poll in flight will poll again, or a timer
fires at once.
-/

open Lib.Run

namespace SplunkOtel.OpAMP.WakeUp

open Js OpAMPClient PollLoop

variable (parseYaml : String → Except String Value)

structure Loop where
  client : OpAMPClient
  /-- The status was set after the last message was built. -/
  statusUnsent : Prop := False

inductive Event where
  | client (event : OpAMPClient.Event)
  /-- A status change from outside, followed by `_triggerPoll`. -/
  | reports (status : RemoteConfigStatus)

/-- The answer brings a config that is acted on. -/
def brings (s : OpAMPClient) (response : ServerToAgent) : Prop :=
  response.errorResponse = none ∧ s.optedIn = true ∧
    ∃ config ∈ response.remoteConfig, Attempts.ActedOn s config

/-- The event sets the status. -/
def setsStatus (s : OpAMPClient) : OpAMPClient.Event → Prop
  | .applyDone _ _ => True
  | .pollDone _ (.response 200 (some response)) _ => brings s response
  | _ => False

/-- Building a message makes the status one that was sent. -/
def Loop.advance (w : Loop) (t : OpAMPClient) (sets : Prop) : Loop where
  client := t
  statusUnsent := t.sent.length = w.client.sent.length ∧ (w.statusUnsent ∨ sets)

def step (w : Loop) : Event → Option Loop
  | .client e => (w.client.step parseYaml e).map fun t => w.advance t (setsStatus w.client e)
  | .reports status =>
    some (w.advance { w.client with remoteConfigStatus := some status }.triggerPoll True)

/-- A poll that goes on at once, or a timer without delay. -/
def Wakes (s : OpAMPClient) : Prop :=
  (s.polls ≠ [] ∧ s.pollAgainImmediately = true) ∨ ∃ timer ∈ s.timers, timer.delay = 0

/-- What holds of the messages: nothing but disconnects follows a disconnect. -/
structure Sent (s : OpAMPClient) : Prop where
  below : ∀ msg ∈ s.sent, msg.sequenceNum < s.sequenceNum
  increasing : s.sent.Pairwise (·.sequenceNum < ·.sequenceNum)
  quiet : s.stopping = false → ∀ msg ∈ s.sent, msg.agentDisconnect = false
  disconnects : s.sent.Pairwise fun a b => a.agentDisconnect = true → b.agentDisconnect = true

structure Inv (w : Loop) : Prop where
  loop : OneLoop w.client
  started : w.client.starting = false
  armed : w.client.stopping = false → w.client.polls = [] → w.client.timers ≠ []
  unsent : w.client.stopping = false → w.statusUnsent → Wakes w.client
  stopped : w.client.stopping = true → w.client.timers = []
  sent : Sent w.client

/-! ## Messages -/

variable {s t : OpAMPClient}

theorem Sent.frame (h : Sent s) (hsent : t.sent = s.sent) (hnum : t.sequenceNum = s.sequenceNum)
    (hstopping : t.stopping = s.stopping) : Sent t := by
  constructor
  · rw [hsent, hnum]
    exact h.below
  · rw [hsent]
    exact h.increasing
  · rw [hsent, hstopping]
    exact h.quiet
  · rw [hsent]
    exact h.disconnects

theorem Sent.append (h : Sent s) {msg : AgentToServer} (hmsg : msg.sequenceNum = s.sequenceNum)
    (hsent : t.sent = s.sent ++ [msg]) (hnum : t.sequenceNum = s.sequenceNum + 1)
    (hquiet : t.stopping = false → s.stopping = false ∧ msg.agentDisconnect = false)
    (hlast : msg.agentDisconnect = true ∨ s.stopping = false) : Sent t := by
  have hmem (m : AgentToServer) (hm : m ∈ t.sent) : m ∈ s.sent ∨ m = msg := by
    rw [hsent] at hm
    simpa using hm
  constructor
  · intro m hm
    rw [hnum]
    rcases hmem m hm with hm | rfl
    · exact Nat.lt_succ_of_lt (h.below m hm)
    · omega
  · rw [hsent]
    refine List.pairwise_append.mpr ⟨h.increasing, List.pairwise_singleton _ _, ?_⟩
    intro a ha b hb
    rw [List.mem_singleton.mp hb, hmsg]
    exact h.below a ha
  · intro hrunning m hm
    rcases hmem m hm with hm | rfl
    · exact h.quiet (hquiet hrunning).1 m hm
    · exact (hquiet hrunning).2
  · rw [hsent]
    refine List.pairwise_append.mpr ⟨h.disconnects, List.pairwise_singleton _ _, ?_⟩
    intro a ha b hb hdisconnect
    rw [List.mem_singleton.mp hb]
    rcases hlast with hlast | hrunning
    · exact hlast
    · rw [h.quiet hrunning a ha] at hdisconnect
      cases hdisconnect

theorem poll_sent (h : Sent s) (now : ℕ) : Sent (s.poll now) := by
  unfold poll
  split
  · exact h
  · rename_i hstopping
    have hrunning : s.stopping = false := by simpa using hstopping
    unfold buildAgentToServerMessage
    simp only
    split
    all_goals
      refine h.append ?_ rfl ?_ ?_ (Or.inr hrunning)
      · rfl
      · rfl
      · exact fun hs => ⟨hs, rfl⟩

theorem stop_sent (h : Sent s) : Sent s.stop := by
  unfold stop clearPollingTimer sendDisconnect
  refine h.append ?_ rfl ?_ ?_ ?_
  · rfl
  · rfl
  · simp
  · exact Or.inl rfl

/-! ## Triggers -/

theorem triggerPoll_frame (s : OpAMPClient) :
    s.triggerPoll.polls = s.polls ∧ s.triggerPoll.stopping = s.stopping ∧
      s.triggerPoll.starting = s.starting ∧ s.triggerPoll.sent = s.sent ∧
      s.triggerPoll.sequenceNum = s.sequenceNum := by
  obtain ⟨_, _, _, _, h, -⟩ := triggerPoll_eq s
  rw [h]
  exact ⟨rfl, rfl, rfl, rfl, rfl⟩

theorem scheduleNextPoll_timers (h : ∀ timer ∈ s.timers, s.pollingTimer = some timer.id)
    (hstopping : s.stopping = false) (delayMs : Option ℚ) (random : ℚ) :
    ∃ timer, (s.scheduleNextPoll delayMs random).timers = [timer] ∧
      ∀ delay ∈ delayMs, timer.delay = delay := by
  unfold scheduleNextPoll
  rw [clearPollingTimer_held h]
  simp only [hstopping, Bool.false_eq_true, ↓reduceIte, List.nil_append]
  refine ⟨_, rfl, ?_⟩
  rintro delay hdelay
  rw [Option.mem_def] at hdelay
  rw [hdelay]

theorem triggerPoll_stopping (h : s.stopping = true) : s.triggerPoll = s := by
  unfold triggerPoll
  rw [if_pos h]

theorem triggerPoll_polling (hstopping : s.stopping = false) (hpolling : s.polling = true) :
    s.triggerPoll = { s with pollAgainImmediately := true } := by
  unfold triggerPoll
  rw [if_neg (by simp [hstopping]), if_pos hpolling]

theorem triggerPoll_wakes (h : OneLoop s) (hstopping : s.stopping = false) :
    Wakes s.triggerPoll ∧ (s.polls = [] → s.triggerPoll.timers ≠ []) := by
  by_cases hpolling : s.polling
  · have hpolls := h.polling.mp hpolling
    rw [triggerPoll_polling hstopping hpolling]
    exact ⟨Or.inl ⟨hpolls, rfl⟩, fun hnil => absurd hnil hpolls⟩
  · obtain ⟨timer, htimers, hdelay⟩ := scheduleNextPoll_timers h.held hstopping (some 0) 0
    unfold triggerPoll
    rw [if_neg (by simp [hstopping]), if_neg hpolling]
    constructor
    · exact Or.inr ⟨timer, by simp [htimers], hdelay 0 rfl⟩
    · simp [htimers]

theorem triggered_inv {w : Loop} (hloop : OneLoop s) (hstarted : s.starting = false)
    (hsent : Sent s) (hstopped : s.stopping = true → s.timers = [])
    (hclient : t = s.triggerPoll ∨ ∃ applyInFlight, t = { s.triggerPoll with applyInFlight })
    (sets : Prop) : Inv (w.advance t sets) := by
  have htrigger := triggerPoll_oneLoop hloop hstarted
  obtain ⟨hpolls, hstopping, hstarting, hmessages, hnum⟩ := triggerPoll_frame s
  have hsent' : Sent s.triggerPoll := hsent.frame hmessages hnum hstopping
  have hwakes (hrunning : s.triggerPoll.stopping = false) := triggerPoll_wakes hloop
    (hstopping ▸ hrunning)
  have hstopped' : s.triggerPoll.stopping = true → s.triggerPoll.timers = [] := by
    intro hstop
    rw [hstopping] at hstop
    rw [triggerPoll_stopping hstop]
    exact hstopped hstop
  rcases hclient with rfl | ⟨_, rfl⟩
  · exact ⟨htrigger, hstarting.trans hstarted, fun hs hnil => (hwakes hs).2 (hpolls ▸ hnil),
      fun hs _ => (hwakes hs).1, hstopped', hsent'⟩
  · refine ⟨?_, hstarting.trans hstarted, fun hs hnil => (hwakes hs).2 (hpolls ▸ hnil),
      fun hs _ => (hwakes hs).1, hstopped', hsent'.frame rfl rfl rfl⟩
    exact ⟨htrigger.onePoll, htrigger.polling, htrigger.pollAlone, htrigger.oneTimer, htrigger.held,
      fun hs => absurd (Eq.trans hs.symm (hstarting.trans hstarted)) (by decide)⟩

/-! ## Answers -/

/-- The client `t` once the answer to its poll is handled: an immediate poll that was asked for
stays asked for, and one is asked for when the status was set. -/
structure Asked (s : OpAMPClient) (sets : Prop) (t : OpAMPClient) : Prop where
  stopping : t.stopping = s.stopping
  sent : t.sent = s.sent
  sequenceNum : t.sequenceNum = s.sequenceNum
  again : s.stopping = false → s.pollAgainImmediately = true ∨ sets → t.pollAgainImmediately = true

theorem attemptRemoteConfig_again (hpolling : s.polling = true) (hstopping : s.stopping = false)
    (config : AgentRemoteConfig) (configHash : Option Bytes) :
    (s.attemptRemoteConfig parseYaml config configHash).pollAgainImmediately = true := by
  have happlying : (s.setRemoteConfigStatus .APPLYING configHash "").triggerPoll =
      { s.setRemoteConfigStatus .APPLYING configHash "" with pollAgainImmediately := true } :=
    triggerPoll_polling hstopping hpolling
  unfold attemptRemoteConfig
  simp only [happlying]
  rcases parseRemoteConfig parseYaml config with err | parsed
  · simp only
    generalize hs' : reportRemoteConfigFailure _ configHash err = s'
    rw [triggerPoll_polling]
    · rw [← hs']
      exact hstopping
    · rw [← hs']
      exact hpolling
  · rfl

theorem handleRemoteConfig_asked (hpolling : s.polling = true) (config : AgentRemoteConfig) :
    Asked s (Attempts.ActedOn s config) (s.handleRemoteConfig parseYaml config) := by
  obtain ⟨_, _, _, _, _, _, _, _, _, _, hhandle, -⟩ := handleRemoteConfig_eq parseYaml s config
  refine ⟨by rw [hhandle], by rw [hhandle], by rw [hhandle], ?_⟩
  clear hhandle
  intro hstopping hasked
  by_cases hacted : Attempts.ActedOn s config
  · obtain ⟨-, hnew⟩ := hacted
    unfold handleRemoteConfig
    rw [if_neg (by simp [hstopping])]
    rcases hread : readHash config.configHash with err | configHash
    · rw [hread] at hnew
      simp only
      rw [if_neg hnew]
      generalize hs' : reportRemoteConfigFailure _ none err = s'
      rw [triggerPoll_polling]
      · rw [← hs']
        exact hstopping
      · rw [← hs']
        exact hpolling
    · rw [hread] at hnew
      simp only
      rw [if_neg (by simp [hnew.1]), if_neg (by simp [hnew.2])]
      apply attemptRemoteConfig_again
      · exact hpolling
      · exact hstopping
  · rw [Attempts.handleRemoteConfig_unchanged parseYaml hacted]
    rcases hasked with hagain | hacted'
    · exact hagain
    · exact absurd hacted' hacted

theorem processServerResponse_asked (hpolling : s.polling = true) (response : ServerToAgent) :
    Asked s (brings s response) (s.processServerResponse parseYaml response) := by
  rcases herror : response.errorResponse with _ | err
  · obtain ⟨_, _, hprocess⟩ := processServerResponse_eq parseYaml s response herror
    rw [hprocess]
    simp only
    generalize hs' : OpAMPClient.mk .. = s'
    have hpolling' : s'.polling = true := by rw [← hs']; exact hpolling
    have hacted (config : AgentRemoteConfig) :
        Attempts.ActedOn s config → Attempts.ActedOn s' config := by
      rw [← hs']
      exact id
    have hframe : s'.stopping = s.stopping ∧ s'.sent = s.sent ∧ s'.sequenceNum = s.sequenceNum ∧
        s'.pollAgainImmediately = s.pollAgainImmediately := by
      rw [← hs']
      exact ⟨rfl, rfl, rfl, rfl⟩
    obtain ⟨hstopping, hsent, hnum, hagain⟩ := hframe
    rcases hconfig : response.remoteConfig with _ | config
    · refine ⟨hstopping, hsent, hnum, ?_⟩
      rintro - (hasked | ⟨-, -, config, hmem, -⟩)
      · exact hagain.trans hasked
      · cases hconfig ▸ hmem
    simp only
    split
    · obtain ⟨hstopping', hsent', hnum', hagain'⟩ :=
        handleRemoteConfig_asked parseYaml hpolling' config
      refine ⟨hstopping'.trans hstopping, hsent'.trans hsent, hnum'.trans hnum, ?_⟩
      intro hrunning hasked
      apply hagain' (hstopping.trans hrunning)
      rcases hasked with hasked | ⟨-, -, config', hmem, hacted'⟩
      · exact Or.inl (hagain.trans hasked)
      · rw [hconfig, Option.mem_some] at hmem
        exact Or.inr (hacted config (hmem ▸ hacted'))
    · rename_i hopted
      refine ⟨hstopping, hsent, hnum, ?_⟩
      rintro - (hasked | ⟨-, hopted', -⟩)
      · exact hagain.trans hasked
      · exact absurd hopted' hopted
  · obtain ⟨_, hprocess⟩ := processServerResponse_error parseYaml s herror
    rw [hprocess]
    refine ⟨rfl, rfl, rfl, ?_⟩
    rintro - (hasked | ⟨hnone, -⟩)
    · exact hasked
    · rw [herror] at hnone
      cases hnone

theorem handleAnswer_asked (hpolling : s.polling = true) (i : ℕ) (result : TransportResult)
    (random : ℚ) :
    Asked s (setsStatus s (.pollDone i result random)) (s.handleAnswer parseYaml result) := by
  have hcommit := commitPending_eq s
  unfold handleAnswer
  split
  · rename_i body
    rcases body with _ | response
    · rw [hcommit]
      exact ⟨rfl, rfl, rfl, fun _ hasked => hasked.resolve_right id⟩
    · obtain ⟨hstopping, hsent, hnum, hagain⟩ := processServerResponse_asked parseYaml
        (s := s.commitPending) (by rw [hcommit]; exact hpolling) response
      rw [hcommit] at hstopping hsent hnum hagain ⊢
      exact ⟨hstopping, hsent, hnum, hagain⟩
  · exact ⟨rfl, rfl, rfl, fun _ hasked => hasked.resolve_right id⟩
  · rename_i h200 _
    refine ⟨rfl, rfl, rfl, ?_⟩
    rintro - (hasked | hsets)
    · exact hasked
    · unfold setsStatus at hsets
      split at hsets
      · rename_i heq
        cases heq
      · rename_i heq
        cases heq
        exact absurd rfl (h200 _)
      · exact hsets.elim

/-! ## Every step -/

variable {w : Loop}

theorem scheduled_inv (hpolls : s.polls = []) (hpolling : s.polling = false)
    (htimers : s.timers = []) (hstarted : s.starting = false) (hsent : Sent s)
    (delayMs : Option ℚ) (random : ℚ) (sets : Prop)
    (hwake : s.stopping = false → w.statusUnsent ∨ sets → delayMs = some 0) :
    Inv (w.advance (s.scheduleNextPoll delayMs random) sets) := by
  have hloop := scheduleNextPoll_oneLoop (oneLoop_idle hpolls hpolling htimers hstarted) hpolls
    hstarted delayMs random
  obtain ⟨_, _, _, _, hschedule⟩ := scheduleNextPoll_eq s delayMs random
  have hframe : (s.scheduleNextPoll delayMs random).starting = s.starting ∧
      (s.scheduleNextPoll delayMs random).stopping = s.stopping ∧
      Sent (s.scheduleNextPoll delayMs random) := by
    rw [hschedule]
    exact ⟨rfl, rfl, hsent.frame rfl rfl rfl⟩
  obtain ⟨hstarting, hstopping, hsent'⟩ := hframe
  have harmed (hrunning : s.stopping = false) :=
    scheduleNextPoll_timers (s := s) (by simp [htimers]) hrunning delayMs random
  refine ⟨hloop, hstarting.trans hstarted, ?_, ?_, ?_, hsent'⟩
  · intro hrunning _
    obtain ⟨timer, htimer, -⟩ := harmed (hstopping ▸ hrunning)
    simp [Loop.advance, htimer]
  · rintro hrunning ⟨-, hunsent⟩
    have hrunning' : s.stopping = false := hstopping ▸ hrunning
    obtain ⟨timer, htimer, hdelay⟩ := harmed hrunning'
    right
    refine ⟨timer, ?_, hdelay 0 (hwake hrunning' hunsent)⟩
    simp [Loop.advance, htimer]
  · intro hstop
    have hstop' : s.stopping = true := hstopping ▸ hstop
    unfold Loop.advance scheduleNextPoll
    rw [if_pos hstop']
    exact htimers

theorem pollDone_inv (h : Inv w) {i : ℕ} {result : TransportResult} {random : ℚ}
    (hstep : w.client.step parseYaml (.pollDone i result random) = some t) :
    Inv (w.advance t (setsStatus w.client (.pollDone i result random))) := by
  simp only [OpAMPClient.step, Option.ite_none_right_eq_some, Option.some_inj] at hstep
  obtain ⟨⟨hi, -⟩, rfl⟩ := hstep
  obtain ⟨msg, hmsg⟩ := Option.isSome_iff_exists.mp hi
  obtain ⟨-, herase, hpolling, htimers, -⟩ := h.loop.polls_eq hmsg
  rw [herase]
  have hasked := handleAnswer_asked parseYaml (s := { w.client with polls := [] }) hpolling i result
    random
  have hanswered := handleAnswer_answered parseYaml { w.client with polls := [] } result hpolling
  unfold pollAnswered
  apply scheduled_inv
  · exact hanswered.polls
  · rfl
  · exact hanswered.timers.trans htimers
  · exact hanswered.starting.trans h.started
  · exact h.sent.frame hasked.sent hasked.sequenceNum hasked.stopping
  · intro hstopping hunsent
    have hrunning : w.client.stopping = false := hasked.stopping ▸ hstopping
    apply if_pos
    apply hasked.again hrunning
    rcases hunsent with hunsent | hsets
    · rcases h.unsent hrunning hunsent with ⟨-, hagain⟩ | ⟨timer, hmem, -⟩
      · exact Or.inl hagain
      · rw [htimers] at hmem
        cases hmem
    · exact Or.inr hsets

theorem poll_running (hstopping : s.stopping = false) (now : ℕ) :
    ∃ msg, (s.poll now).polls = s.polls ++ [msg] ∧ (s.poll now).sent = s.sent ++ [msg] ∧
      (s.poll now).stopping = false ∧ (s.poll now).starting = s.starting := by
  unfold poll buildAgentToServerMessage
  rw [if_neg (by simp [hstopping])]
  simp only
  split
  · exact ⟨_, rfl, rfl, hstopping, rfl⟩
  · exact ⟨_, rfl, rfl, hstopping, rfl⟩

theorem poll_inv (sets : Prop) (hpolls : s.polls = []) (htimers : s.timers = [])
    (hpolling : s.polling = false) (hstarted : s.starting = false) (hstopping : s.stopping = false)
    (hsent : Sent s) (hsame : s.sent = w.client.sent) (now : ℕ) :
    Inv (w.advance (s.poll now) sets) := by
  obtain ⟨msg, hpoll, hmessage, hrunning, hstarting⟩ := poll_running hstopping now
  have hloop := poll_oneLoop (oneLoop_idle hpolls hpolling htimers hstarted) hpolls htimers hstarted
    now
  refine ⟨hloop, hstarting.trans hstarted, ?_, ?_, ?_, poll_sent hsent now⟩
  · intro _ hnil
    rw [Loop.advance, hpoll] at hnil
    exact absurd hnil (by simp)
  · rintro _ ⟨hlength, -⟩
    rw [hmessage, hsame, List.length_append, List.length_singleton] at hlength
    omega
  · intro hstop
    rw [Loop.advance, hrunning] at hstop
    cases hstop

theorem stop_inv (h : Inv w) : Inv (w.advance w.client.stop False) := by
  have hclear := clearPollingTimer_held (s := { w.client with stopping := true }) h.loop.held
  have hstop : w.client.stop.stopping = true ∧ w.client.stop.starting = w.client.starting ∧
      w.client.stop.timers = [] := by
    unfold stop sendDisconnect
    rw [hclear]
    exact ⟨rfl, rfl, rfl⟩
  obtain ⟨hstopping, hstarting, htimers⟩ := hstop
  refine ⟨stop_oneLoop h.loop, hstarting.trans h.started, ?_, ?_, fun _ => htimers,
    stop_sent h.sent⟩
  · intro hrunning
    rw [Loop.advance, hstopping] at hrunning
    cases hrunning
  · intro hrunning
    rw [Loop.advance, hstopping] at hrunning
    cases hrunning

theorem client_inv (h : Inv w) (e : OpAMPClient.Event)
    (hstep : w.client.step parseYaml e = some t) : Inv (w.advance t (setsStatus w.client e)) := by
  cases e with
  | attributesReady attributes now =>
    simp only [OpAMPClient.step, h.started, Bool.false_eq_true, ↓reduceIte] at hstep
    cases hstep
  | timerFires id now =>
    simp only [OpAMPClient.step, Option.ite_none_right_eq_some, Option.some_inj] at hstep
    obtain ⟨hid, rfl⟩ := hstep
    obtain ⟨hpolls, htimers, hstarted⟩ := h.loop.timers_eq hid
    have hstopping : w.client.stopping = false := by
      by_contra hstop
      rw [h.stopped (by simpa using hstop)] at hid
      cases hid
    apply poll_inv
    · exact hpolls
    · exact htimers
    · exact h.loop.not_polling hpolls
    · exact hstarted
    · exact hstopping
    · exact h.sent.frame rfl rfl rfl
    · rfl
  | pollDone i result random => exact pollDone_inv parseYaml h hstep
  | applyDone i outcome =>
    rw [OpAMPClient.step] at hstep
    split at hstep
    · cases hstep
    · rename_i configHash _
      obtain rfl := Option.some_inj.mp hstep
      obtain ⟨status, -, hsettled⟩ :=
        applySettled_eq { w.client with applies := w.client.applies.eraseIdx i } configHash outcome
      rw [hsettled]
      refine triggered_inv ?_ ?_ ?_ ?_ (Or.inr ⟨_, rfl⟩) _
      · exact ⟨h.loop.onePoll, h.loop.polling, h.loop.pollAlone, h.loop.oneTimer, h.loop.held,
          fun hs => absurd (hs.symm.trans h.started) (by decide)⟩
      · exact h.started
      · exact h.sent.frame rfl rfl rfl
      · exact h.stopped
  | effectiveConfigChanges c =>
    obtain rfl := Option.some_inj.mp hstep
    refine ⟨?_, h.started, h.armed, ?_, h.stopped, h.sent.frame rfl rfl rfl⟩
    · exact ⟨h.loop.onePoll, h.loop.polling, h.loop.pollAlone, h.loop.oneTimer, h.loop.held,
        h.loop.starting⟩
    · rintro hrunning ⟨-, hunsent⟩
      exact h.unsent hrunning (hunsent.resolve_right id)
  | stop =>
    obtain rfl := Option.some_inj.mp hstep
    exact stop_inv h

theorem step_inv (w : Loop) (e : Event) (w' : Loop) (h : Inv w)
    (hstep : step parseYaml w e = some w') : Inv w' := by
  rcases e with e | status
  · obtain ⟨t, ht, rfl⟩ := Option.map_eq_some_iff.mp hstep
    exact client_inv parseYaml h e ht
  · obtain rfl := Option.some_inj.mp hstep
    refine triggered_inv ?_ ?_ ?_ ?_ (Or.inl rfl) _
    · exact ⟨h.loop.onePoll, h.loop.polling, h.loop.pollAlone, h.loop.oneTimer, h.loop.held,
        h.loop.starting⟩
    · exact h.started
    · exact h.sent.frame rfl rfl rfl
    · exact h.stopped

/-! ## Runs -/

/-- A client in its first poll. -/
def firstPoll (pollingIntervalMs : ℚ) (optedIn : Bool) (uuid : Bytes) (c : EffectiveConfig)
    (attributes : List (String × Value)) (now : ℕ) : Loop where
  client := ((new pollingIntervalMs optedIn uuid now c).start now).attributesReady attributes now

theorem firstPoll_inv (pollingIntervalMs : ℚ) (optedIn : Bool) (uuid : Bytes) (c : EffectiveConfig)
    (attributes : List (String × Value)) (now : ℕ) :
    Inv (firstPoll pollingIntervalMs optedIn uuid c attributes now) := by
  have hsent : Sent (new pollingIntervalMs optedIn uuid now c) := by
    constructor <;> simp [new]
  have hinv := poll_inv (w := { client := new pollingIntervalMs optedIn uuid now c }) False
    (s := { (new pollingIntervalMs optedIn uuid now c).start now with
      agentDescription := some (attributes.map fun pair => (pair.1, toAnyValue pair.2))
      starting := false }) rfl rfl rfl rfl rfl (hsent.frame rfl rfl rfl) rfl now
  exact ⟨hinv.loop, hinv.started, hinv.armed, fun _ => False.elim, hinv.stopped, hinv.sent⟩

structure NoLostWakeUp (w : Loop) : Prop where
  onePoll : w.client.polls.length ≤ 1
  oneTimer : w.client.timers.length ≤ 1
  armed : w.client.stopping = false → w.client.polls = [] → w.client.timers.length = 1
  unsent : w.client.stopping = false → w.statusUnsent → Wakes w.client
  stopped : w.client.stopping = true → w.client.timers = []
  disconnects : w.client.sent.Pairwise fun a b => a.agentDisconnect = true → b.agentDisconnect = true
  increasing : w.client.sent.Pairwise (·.sequenceNum < ·.sequenceNum)

theorem Inv.noLostWakeUp (h : Inv w) : NoLostWakeUp w where
  onePoll := h.loop.onePoll
  oneTimer := h.loop.oneTimer
  armed hrunning hpolls := by
    have hpos := List.length_pos_iff.mpr (h.armed hrunning hpolls)
    have hone := h.loop.oneTimer
    omega
  unsent := h.unsent
  stopped := h.stopped
  disconnects := h.sent.disconnects
  increasing := h.sent.increasing

/-- **No lost wake-up and no double loop.** In every state of every run from the first poll on
there is one loop; while the client is not stopping, a status that no message carries yet makes it
poll at once; and once it stops, no timer is armed and only further disconnects follow. -/
theorem no_lost_wake_up (parseYaml : String → Except String Value) (pollingIntervalMs : ℚ)
    (optedIn : Bool) (uuid : Bytes) (c : EffectiveConfig) (attributes : List (String × Value))
    (now : ℕ) (es : List Event) :
    Always (step parseYaml) NoLostWakeUp
      (firstPoll pollingIntervalMs optedIn uuid c attributes now) es := by
  have hinv := always_of_step (step_inv parseYaml) es _
    (firstPoll_inv pollingIntervalMs optedIn uuid c attributes now)
  exact hinv.imp fun _ h => h.noLostWakeUp

def polledLoop : Loop := firstPoll 30000 true [] { type := .yaml, name := "yaml", content := "" } [] 0

def appliedEvents : List Event :=
  [.client (.pollDone 0 (.response 200 (some { remoteConfig := some { configHash := .bytes [7] } })) 0),
    .client .stop, .client (.applyDone 0 (.ok ()))]

/-- A status that is set after the `stop()` stays unsent, and a second `stop()` sends a second
disconnect. -/
theorem stopped_client_is_quiet :
    ¬ Always (step fun _ => .ok .undefined) (fun w => w.statusUnsent → Wakes w.client) polledLoop
        appliedEvents ∧
      ¬ Always (step fun _ => .ok .undefined)
        (fun w => w.client.sent.Pairwise fun a _ => a.agentDisconnect = false) polledLoop
        [.client .stop, .client .stop] := by
  constructor
  · intro h
    have hlast := h.2.2.2 ⟨rfl, Or.inr trivial⟩
    rcases hlast with ⟨-, hagain⟩ | ⟨timer, hmem, -⟩
    · exact absurd hagain (by decide)
    · cases hmem
  · intro h
    have hlast : polledLoop.client.stop.stop.sent.Pairwise fun a _ => a.agentDisconnect = false :=
      h.2.2
    exact absurd hlast (by decide)

end SplunkOtel.OpAMP.WakeUp
