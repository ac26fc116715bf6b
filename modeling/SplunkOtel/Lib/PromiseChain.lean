import Mathlib.Data.List.Basic

/-!
# A chain of promises

`queue = queue.then(task)`: each task begins once the one that was submitted before it has settled.
A task in progress can be suspended any number of times, at a stage of the type `σ`, and settles
with a result of the type `ρ`. A failure is a result like any other, so it does not break the chain.
-/

namespace Lib

inductive Progress (σ ρ : Type*) where
  | queued
  | running (stage : σ)
  | settled (result : ρ)
deriving DecidableEq

structure Job (τ σ ρ : Type*) where
  task : τ
  /-- The job whose promise this one is chained to. -/
  after : Option ℕ
  progress : Progress σ ρ := .queued
deriving DecidableEq

structure PromiseChain (τ σ ρ : Type*) where
  jobs : List (Job τ σ ρ) := []
  /-- The job whose promise the chain ends with, `none` before the first one. -/
  last : Option ℕ := none
deriving DecidableEq

namespace Progress

variable {σ ρ : Type*}

def isSettled : Progress σ ρ → Bool
  | settled _ => true
  | _ => false

def isQueued : Progress σ ρ → Bool
  | queued => true
  | _ => false

end Progress

namespace PromiseChain

variable {τ σ ρ : Type*}

def IsSettled (c : PromiseChain τ σ ρ) (i : ℕ) : Prop :=
  ∃ job, c.jobs[i]? = some job ∧ job.progress.isSettled = true

def submit (c : PromiseChain τ σ ρ) (task : τ) : PromiseChain τ σ ρ where
  jobs := c.jobs ++ [{ task, after := c.last }]
  last := some c.jobs.length

/-- The promise that the job is chained to has settled. -/
def mayBegin (c : PromiseChain τ σ ρ) (job : Job τ σ ρ) : Bool :=
  job.after.all fun i => c.jobs[i]?.any (·.progress.isSettled)

def advance (c : PromiseChain τ σ ρ) (j : ℕ) (progress : Progress σ ρ) : PromiseChain τ σ ρ :=
  { c with jobs := c.jobs.modify j fun job => { job with progress } }

/-- The job has a turn: it is suspended, or it waits in the queue and may begin. -/
def HasTurn (c : PromiseChain τ σ ρ) (j : ℕ) : Prop :=
  ∃ job, c.jobs[j]? = some job ∧ job.progress.isSettled = false ∧
    (job.progress.isQueued = true → c.mayBegin job = true)

/-- Some job is suspended at the stage. -/
def RunningAt (c : PromiseChain τ σ ρ) (stage : σ) : Prop :=
  ∃ (j : ℕ) (job : Job τ σ ρ), c.jobs[j]? = some job ∧ job.progress = .running stage

/-! ## The invariant -/

/-- Every job is chained to the one before it, and all jobs before one that has begun are settled. -/
structure Linked (c : PromiseChain τ σ ρ) : Prop where
  last : c.last = if c.jobs.length = 0 then none else some (c.jobs.length - 1)
  after : ∀ j (job : Job τ σ ρ), c.jobs[j]? = some job →
    job.after = if j = 0 then none else some (j - 1)
  inOrder : ∀ j (job : Job τ σ ρ), c.jobs[j]? = some job → job.progress.isQueued = false →
    ∀ i < j, c.IsSettled i

theorem linked_empty : Linked ({} : PromiseChain τ σ ρ) where
  last := rfl
  after j job h := by simp at h
  inOrder j job h := by simp at h

theorem not_queued_of_settled {p : Progress σ ρ} (h : p.isSettled = true) : p.isQueued = false := by
  cases p with
  | settled _ => rfl
  | queued | running _ => cases h

theorem getElem?_submit {c : PromiseChain τ σ ρ} {task : τ} {j : ℕ} {job : Job τ σ ρ}
    (h : (c.submit task).jobs[j]? = some job) :
    c.jobs[j]? = some job ∨ j = c.jobs.length ∧ job = { task, after := c.last } := by
  unfold submit at h
  rcases Nat.lt_trichotomy j c.jobs.length with hlt | rfl | hgt
  · rw [List.getElem?_append_left hlt] at h
    exact Or.inl h
  · rw [List.getElem?_concat_length, Option.some_inj] at h
    exact Or.inr ⟨rfl, h.symm⟩
  · rw [List.getElem?_eq_none (by simp; omega)] at h
    cases h

theorem getElem?_submit_old {c : PromiseChain τ σ ρ} (task : τ) {j : ℕ} {job : Job τ σ ρ}
    (h : c.jobs[j]? = some job) : (c.submit task).jobs[j]? = some job := by
  unfold submit
  rw [List.getElem?_append_left (List.getElem?_eq_some_iff.mp h).1]
  exact h

theorem Linked.submit {c : PromiseChain τ σ ρ} (h : Linked c) (task : τ) :
    Linked (c.submit task) := by
  constructor
  · simp [PromiseChain.submit]
  · intro j job hj
    rcases getElem?_submit hj with hj | ⟨rfl, rfl⟩
    · exact h.after j job hj
    · exact h.last
  · intro j job hj hbegun i hi
    rcases getElem?_submit hj with hj | ⟨rfl, rfl⟩
    · obtain ⟨earlier, hearlier, hsettled⟩ := h.inOrder j job hj hbegun i hi
      exact ⟨earlier, getElem?_submit_old task hearlier, hsettled⟩
    · cases hbegun

theorem getElem?_advance (c : PromiseChain τ σ ρ) (j : ℕ) (progress : Progress σ ρ) (i : ℕ) :
    (c.advance j progress).jobs[i]? =
      if j = i then c.jobs[i]?.map fun job => { job with progress } else c.jobs[i]? := by
  unfold advance
  rw [List.getElem?_modify]
  split <;> simp

theorem mayBegin_iff {c : PromiseChain τ σ ρ} (h : Linked c) {j : ℕ} {job : Job τ σ ρ}
    (hj : c.jobs[j]? = some job) : c.mayBegin job = true ↔
      ∀ i < j, c.IsSettled i := by
  unfold mayBegin
  rw [h.after j job hj]
  have hlt := (List.getElem?_eq_some_iff.mp hj).1
  rcases Nat.eq_zero_or_pos j with rfl | hpos
  · simp
  · rw [if_neg (by omega), Option.all_some, Option.any_eq_true]
    constructor
    · rintro ⟨earlier, hearlier, hsettled⟩ i hi
      rcases Nat.lt_or_ge i (j - 1) with hlt' | hge
      · exact h.inOrder (j - 1) earlier hearlier (not_queued_of_settled hsettled) i hlt'
      · obtain rfl : i = j - 1 := by omega
        exact ⟨earlier, hearlier, hsettled⟩
    · intro hall
      exact hall (j - 1) (by omega)

theorem HasTurn.earlier {c : PromiseChain τ σ ρ} (h : Linked c) {j : ℕ} (hturn : c.HasTurn j) :
    ∀ i < j, c.IsSettled i := by
  obtain ⟨job, hj, _, hbegin⟩ := hturn
  cases hqueued : job.progress.isQueued with
  | true => exact (mayBegin_iff h hj).mp (hbegin hqueued)
  | false => exact h.inOrder j job hj hqueued

/-- **One at a time.** Only one job has a turn. -/
theorem HasTurn.unique {c : PromiseChain τ σ ρ} (h : Linked c) {i j : ℕ} (hi : c.HasTurn i)
    (hj : c.HasTurn j) : i = j := by
  have hnot {i j : ℕ} (hi : c.HasTurn i) (hj : c.HasTurn j) : ¬ i < j := by
    intro hlt
    obtain ⟨job, hjob, hsettled, _⟩ := hi
    obtain ⟨earlier, hearlier, hdone⟩ := hj.earlier h i hlt
    rw [hjob, Option.some_inj] at hearlier
    rw [← hearlier, hsettled] at hdone
    cases hdone
  have := hnot hi hj
  have := hnot hj hi
  omega

theorem Linked.advance {c : PromiseChain τ σ ρ} (h : Linked c) {j : ℕ} (hturn : c.HasTurn j)
    (progress : Progress σ ρ) : Linked (c.advance j progress) := by
  have hearlier := hturn.earlier h
  obtain ⟨current, hj, hsettled, _⟩ := hturn
  constructor
  · have := h.last
    simpa [PromiseChain.advance] using this
  · intro i job hi
    rw [getElem?_advance] at hi
    split at hi
    · obtain ⟨old, hold, rfl⟩ := Option.map_eq_some_iff.mp hi
      exact h.after i old hold
    · exact h.after i job hi
  · intro i job hi hbegun k hk
    have hold : c.IsSettled k := by
      rw [getElem?_advance] at hi
      split at hi
      · rename_i hji
        exact hearlier k (hji ▸ hk)
      · exact h.inOrder i job hi hbegun k hk
    obtain ⟨earlier, hk', hdone⟩ := hold
    refine ⟨earlier, ?_, hdone⟩
    rw [getElem?_advance, if_neg, hk']
    rintro rfl
    rw [hj, Option.some_inj] at hk'
    rw [← hk', hsettled] at hdone
    cases hdone

theorem hasTurn_of_running {c : PromiseChain τ σ ρ} {j : ℕ} {job : Job τ σ ρ} {stage : σ}
    (hj : c.jobs[j]? = some job) (hrunning : job.progress = .running stage) : c.HasTurn j := by
  refine ⟨job, hj, ?_, ?_⟩
  · rw [hrunning]
    rfl
  · rw [hrunning]
    rintro ⟨⟩

theorem HasTurn.runningAt_iff {c : PromiseChain τ σ ρ} (h : Linked c) {j : ℕ} (hturn : c.HasTurn j)
    {job : Job τ σ ρ} (hj : c.jobs[j]? = some job) (stage : σ) :
    c.RunningAt stage ↔ job.progress = .running stage := by
  constructor
  · rintro ⟨i, other, hi, hrunning⟩
    obtain rfl := hturn.unique h (hasTurn_of_running hi hrunning)
    rw [hj, Option.some_inj] at hi
    rw [hi, hrunning]
  · intro hrunning
    exact ⟨j, job, hj, hrunning⟩

theorem HasTurn.runningAt_advance {c : PromiseChain τ σ ρ} (h : Linked c) {j : ℕ}
    (hturn : c.HasTurn j) (progress : Progress σ ρ) (stage : σ) :
    (c.advance j progress).RunningAt stage ↔ progress = .running stage := by
  obtain ⟨job, hj, _⟩ := id hturn
  constructor
  · rintro ⟨i, other, hi, hrunning⟩
    rw [getElem?_advance] at hi
    split at hi
    · obtain ⟨old, _, rfl⟩ := Option.map_eq_some_iff.mp hi
      exact hrunning
    · rename_i hne
      exact absurd (hturn.unique h (hasTurn_of_running hi hrunning)) hne
  · rintro rfl
    refine ⟨j, { job with progress := .running stage }, ?_, rfl⟩
    rw [getElem?_advance, if_pos rfl, hj]
    rfl

theorem runningAt_submit (c : PromiseChain τ σ ρ) (task : τ) (stage : σ) :
    (c.submit task).RunningAt stage ↔ c.RunningAt stage := by
  constructor
  · rintro ⟨i, job, hi, hrunning⟩
    rcases getElem?_submit hi with hi | ⟨_, rfl⟩
    · exact ⟨i, job, hi, hrunning⟩
    · cases hrunning
  · rintro ⟨i, job, hi, hrunning⟩
    exact ⟨i, job, getElem?_submit_old task hi, hrunning⟩

/-- **The chain does not get stuck.** As long as a job is not settled, some job has a turn. -/
theorem exists_hasTurn {c : PromiseChain τ σ ρ} (h : Linked c) (j : ℕ) (job : Job τ σ ρ)
    (hj : c.jobs[j]? = some job) (hsettled : job.progress.isSettled = false) : ∃ i, c.HasTurn i := by
  induction j using Nat.strongRecOn generalizing job with
  | ind j ih =>
    by_cases hall : ∀ i < j, c.IsSettled i
    · exact ⟨j, job, hj, hsettled, fun _ => (mayBegin_iff h hj).mpr hall⟩
    · simp only [not_forall] at hall
      obtain ⟨i, hi, hopen⟩ := hall
      have hlt : i < c.jobs.length := Nat.lt_trans hi (List.getElem?_eq_some_iff.mp hj).1
      have hget := List.getElem?_eq_getElem hlt
      refine ih i hi _ hget ?_
      by_contra hdone
      exact hopen ⟨_, hget, by simpa using hdone⟩

end PromiseChain

end Lib
