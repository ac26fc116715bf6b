import Mathlib.Tactic.NormNum
import SplunkOtel.OpAMP.PollLoop

/-!
# The wait that the server asks for

An error answer may name a time to wait. It becomes a minimum delay of the backoff, but `_poll`
resets the backoff right after, so that the next poll waits for the polling interval alone.
-/

open Lib.Run

namespace SplunkOtel.OpAMP.RetryAfter

open Js OpAMPClient PollLoop

variable (parseYaml : String → Except String Value)

/-- The nanoseconds to wait that an answer with HTTP 200 asks for. -/
def retryAfter : TransportResult → Option ℕ
  | .response 200 (some response) =>
    (response.errorResponse.bind (·.retryAfterNanoseconds)).filter (0 < ·)
  | _ => none

/-- A poll that is answered with a wait arms the next one with at least that delay, unless the
client stops or an immediate poll was asked for meanwhile. -/
def Honoured (s : OpAMPClient) : Event → Prop
  | .pollDone i result random =>
    ∀ n ∈ retryAfter result, s.stopping = false → s.pollAgainImmediately = false →
      ∀ t, s.step parseYaml (.pollDone i result random) = some t →
        ∃ timer ∈ t.timers, t.pollingTimer = some timer.id ∧ (n : ℚ) / 1000000 ≤ timer.delay
  | _ => True

/-- The wait is no longer than the polling interval. -/
def WithinInterval (s : OpAMPClient) : Event → Prop
  | .pollDone _ result _ =>
    ∀ n ∈ retryAfter result, s.stopping = false → s.pollAgainImmediately = false →
      (n : ℚ) / 1000000 ≤ s.pollingIntervalMs
  | _ => True

theorem retryAfter_eq_some {result : TransportResult} {n : ℕ} (h : retryAfter result = some n) :
    ∃ response err, result = .response 200 (some response) ∧ response.errorResponse = some err ∧
      err.retryAfterNanoseconds = some n := by
  unfold retryAfter at h
  split at h
  · rename_i response
    obtain ⟨hbind, -⟩ := Option.filter_eq_some_iff.mp h
    obtain ⟨err, herror, hretry⟩ := Option.bind_eq_some_iff.mp hbind
    exact ⟨response, err, rfl, herror, hretry⟩
  · cases h

theorem nextDelay_reset (b : ExponentialBackoff) (normalIntervalMs random : ℚ) :
    b.reset.nextDelay normalIntervalMs random = (b.reset, normalIntervalMs) := by
  unfold ExponentialBackoff.nextDelay ExponentialBackoff.reset
  rw [if_pos ⟨rfl, rfl⟩]

theorem handleAnswer_retry (s : OpAMPClient) {response : ServerToAgent} {err : ServerErrorResponse}
    {n : ℕ} (herror : response.errorResponse = some err) (hretry : err.retryAfterNanoseconds = some n) :
    s.handleAnswer parseYaml (.response 200 (some response)) =
      { s.commitPending with backoff := s.backoff.reset } := by
  have hcommit := commitPending_eq s
  unfold handleAnswer processServerResponse
  simp only [herror, hretry, hcommit, ExponentialBackoff.setMinDelay, ExponentialBackoff.reset]

theorem pollAnswered_retry {s : OpAMPClient} {result : TransportResult} {n : ℕ}
    (h : retryAfter result = some n) (htimers : s.timers = []) (hstopping : s.stopping = false)
    (hagain : s.pollAgainImmediately = false) (random : ℚ) :
    (s.pollAnswered parseYaml result random).timers =
        [{ id := s.nextTimer, delay := s.pollingIntervalMs }] ∧
      (s.pollAnswered parseYaml result random).pollingTimer = some s.nextTimer := by
  obtain ⟨response, err, rfl, herror, hretry⟩ := retryAfter_eq_some h
  unfold pollAnswered scheduleNextPoll clearPollingTimer
  simp only [handleAnswer_retry parseYaml s herror hretry, commitPending_eq, hstopping, hagain,
    htimers, nextDelay_reset, List.filter_nil, List.nil_append, Bool.false_eq_true, ↓reduceIte,
    and_self]

theorem honoured_iff (s : OpAMPClient) (e : Event) (t : OpAMPClient) (h : OneLoop s)
    (hstep : s.step parseYaml e = some t) : Honoured parseYaml s e ↔ WithinInterval s e := by
  rcases e with _ | _ | ⟨i, result, random⟩ | _ | _ | _
  case pollDone =>
    have hstep' := hstep
    simp only [step, Option.ite_none_right_eq_some, Option.some_inj] at hstep'
    obtain ⟨⟨hi, -⟩, ht⟩ := hstep'
    obtain ⟨msg, hmsg⟩ := Option.isSome_iff_exists.mp hi
    obtain ⟨-, -, -, htimers, -⟩ := h.polls_eq hmsg
    unfold Honoured WithinInterval
    refine forall₂_congr fun n hn => forall₂_congr fun hstopping hagain => ?_
    obtain ⟨htimer, hpending⟩ := pollAnswered_retry parseYaml
      (s := { s with polls := s.polls.eraseIdx i }) hn htimers hstopping hagain random
    rw [ht] at htimer hpending
    constructor
    · intro hall
      obtain ⟨timer, hmem, -, hdelay⟩ := hall t hstep
      rw [htimer, List.mem_singleton] at hmem
      rw [hmem] at hdelay
      exact hdelay
    · intro hle t' ht'
      rw [hstep, Option.some_inj] at ht'
      subst ht'
      exact ⟨_, by rw [htimer]; exact List.mem_singleton_self _, hpending, hle⟩
  all_goals exact Iff.rfl

/-- **The wait that the server asks for.** In every run, each poll that is answered with a wait
arms the next poll with at least that delay exactly when no such wait is longer than the polling
interval. -/
theorem retry_after_honoured_iff (parseYaml : String → Except String Value) (pollingIntervalMs : ℚ)
    (optedIn : Bool) (uuid : Bytes) (now : ℕ) (c : EffectiveConfig) (es : List Event) :
    Along (OpAMPClient.step parseYaml) (Honoured parseYaml)
        ((new pollingIntervalMs optedIn uuid now c).start now) es ↔
      Along (OpAMPClient.step parseYaml) WithinInterval
        ((new pollingIntervalMs optedIn uuid now c).start now) es := by
  apply along_congr (step_oneLoop parseYaml) (honoured_iff parseYaml)
  exact start_oneLoop pollingIntervalMs optedIn uuid now c

/-- A poll that is answered with a wait of two minutes, and an interval of thirty seconds. -/
def waitEvents : List Event :=
  [.attributesReady [] 0,
    .pollDone 0 (.response 200 (some
      { errorResponse := some { retryAfterNanoseconds := some 120000000000 } })) 0]

theorem wait_is_dropped :
    ¬ Along (OpAMPClient.step fun _ => .ok .undefined) (Honoured fun _ => .ok .undefined)
      ((new 30000 true [] 0 { type := .yaml, name := "yaml", content := "" }).start 0)
      waitEvents := by
  intro h
  obtain ⟨timer, hmem, -, hdelay⟩ := h.2.1 120000000000 rfl rfl rfl _ rfl
  have htimer : timer = { id := 0, delay := 30000 } := List.mem_singleton.mp hmem
  rw [htimer] at hdelay
  norm_num at hdelay

end SplunkOtel.OpAMP.RetryAfter
