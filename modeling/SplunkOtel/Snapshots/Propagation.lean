import SplunkOtel.Snapshots.Profiler

/-!
# One selection for a whole request (`src/tracing/snapshots/SnapshotPropagator.ts`)

The first service with an active profiler decides whether a request is profiled, and the decision
travels on in the baggage. A request is a tree of visits to services, each of which may turn its
profiler on and off at any time.
-/

open Lib Lib.Run

namespace SplunkOtel.Snapshots

open Js

def VOLUME_BAGGAGE_KEY : String := "splunk.trace.snapshot.volume"

/-- The entries of a baggage, without their metadata. -/
abbrev Baggage := OrderedMap String String

structure SpanContext where
  traceId : String
  isRemote : Bool

structure Context where
  span : Option SpanContext := none
  baggage : Option Baggage := none

/-- The volume that the baggage states. -/
def volumeOf (baggage : Option Baggage) : Option String := baggage.bind (·.get? VOLUME_BAGGAGE_KEY)

def Context.parentContext (c : Context) : ParentContext where
  isRemote := c.span.map (·.isRemote)
  volume := c.baggage.map (·.get? VOLUME_BAGGAGE_KEY)

def withVolumeBaggage (c : Context) (isSelected : Bool) : Context :=
  let entry := if isSelected then "highest" else "off"
  { c with baggage := some ((c.baggage.getD ∅).set VOLUME_BAGGAGE_KEY entry) }

/-- `Math.min(1.0, Math.max(rate, 0.0))` -/
def normalizeRate : Number → Number
  | .nan => .nan
  | .infinite negative => if negative then .finite 0 else .finite 1
  | .finite rate => .finite (min 1 (max rate 0))

/-- `random < rate`, for a random number from `Math.random`. -/
def below (random : ℚ) : Number → Bool
  | .nan => false
  | .infinite negative => !negative
  | .finite rate => random < rate

/-- `sampler` is whether `TraceIdRatioBasedSampler` samples a trace id. -/
structure SnapshotPropagator where
  selectionRate : Number
  sampler : String → Bool

namespace SnapshotPropagator

/-- `ratioBased` is the `TraceIdRatioBasedSampler` of a rate. -/
def new (ratioBased : Number → String → Bool) (selectionRate : Number) : SnapshotPropagator where
  selectionRate := normalizeRate selectionRate
  sampler := ratioBased (normalizeRate selectionRate)

def attachVolumeBaggage (p : SnapshotPropagator) (random : ℚ) (c : Context) : Context :=
  match c.span with
  | none => withVolumeBaggage c (below random p.selectionRate)
  | some span => withVolumeBaggage c (p.sampler span.traceId)

def extract (p : SnapshotPropagator) (isActive : Bool) (random : ℚ) (c : Context) : Context :=
  if ¬ isActive then c
  else
    match c.baggage with
    | none => p.attachVolumeBaggage random c
    | some baggage =>
      let volumeFromBaggage := baggage.get? VOLUME_BAGGAGE_KEY
      if volumeFromBaggage = some "highest" ∨ volumeFromBaggage = some "off" then c
      else p.attachVolumeBaggage random c

end SnapshotPropagator

/-! ## Requests -/

/-- A request that a service has received, or the first one of its tree. -/
structure Visit (S : Type*) where
  service : S
  /-- The visit that the request was sent from, and the one that its tree began with. -/
  parent : Option ℕ
  root : ℕ
  /-- What the code of the service runs in. -/
  context : Context
  /-- The span of the request, and whether it is one that span processors see. -/
  span : Span
  recorded : Bool
  active : Bool
  /-- The span got the attribute `splunk.snapshot.profiling`. -/
  stamped : Bool

structure Network (S : Type*) where
  profilers : S → SnapshotProfiler
  visits : List (Visit S) := []

/-- From outside with any headers, or from the code of a visit, which may have edited the baggage. -/
inductive Origin where
  | outside (traceId : Option String) (baggage : Option Baggage)
  | call (visit : ℕ) (edits : List (String × Option String))

inductive NetworkEvent (S : Type*) where
  | request (service : S) (origin : Origin) (random : ℚ) (spanId freshTraceId : String)
    (recorded : Bool)
  | profiler (service : S) (e : Event)

/-- The code sets and removes entries of its own. -/
def editBaggage (baggage : Option Baggage) (edits : List (String × Option String)) :
    Option Baggage :=
  edits.foldl (fun baggage edit =>
    match edit.2 with
    | some value => some ((baggage.getD ∅).set edit.1 value)
    | none => baggage.map (·.delete edit.1)) baggage

section Network

variable {S : Type} [DecidableEq S]

-- `carry`: a baggage once `W3CBaggagePropagator` has sent and received it.
variable (carry : Option Baggage → Option Baggage) (propagators : S → SnapshotPropagator)

/-- The context of the headers, with the parent and the root of the visit. -/
def received (net : Network S) : Origin → Option (Context × Option ℕ × ℕ)
  | .outside traceId baggage =>
    some (⟨traceId.map (⟨·, true⟩), baggage⟩, none, net.visits.length)
  | .call i edits =>
    match net.visits[i]? with
    | none => none
    | some v =>
      if ∀ edit ∈ edits, edit.1 ≠ VOLUME_BAGGAGE_KEY then
        some (⟨some ⟨v.span.traceId, true⟩, carry (editBaggage v.context.baggage edits)⟩, some i,
          v.root)
      else none

/-- `onStart` stamps a span when a snapshot begins. -/
def stamps (p : SnapshotProfiler) (span : Span) (c : Context) : Bool :=
  SnapshotProfiler.selected c.parentContext && (p.traceSnapshotBegin span.traceId).2

def visit (net : Network S) (service : S) (received : Context × Option ℕ × ℕ) (random : ℚ)
    (spanId freshTraceId : String) (recorded : Bool) : Visit S :=
  let (headers, parent, root) := received
  let p := net.profilers service
  let context := (propagators service).extract p.active random headers
  let span : Span := ⟨spanId, (headers.span.map (·.traceId)).getD freshTraceId⟩
  { service, parent, root, context, span, recorded
    active := p.active
    stamped := recorded && stamps p span context }

def Network.step (net : Network S) : NetworkEvent S → Option (Network S)
  | .request service origin random spanId freshTraceId recorded =>
    (received carry net origin).map fun received =>
      let v := visit propagators net service received random spanId freshTraceId recorded
      let p := net.profilers service
      { profilers := if recorded then
          Function.update net.profilers service (p.onStart v.span v.context.parentContext)
          else net.profilers
        visits := net.visits ++ [v] }
  | .profiler service e =>
    (SplunkOtel.Snapshots.step (net.profilers service) e).map fun p =>
      { net with profilers := Function.update net.profilers service p }

end Network

/-! ## One visit -/

theorem volumeOf_set (baggage : Option Baggage) (value : String) :
    volumeOf (some ((baggage.getD ∅).set VOLUME_BAGGAGE_KEY value)) = some value :=
  OrderedMap.get?_set_self _ _ _

theorem volumeOf_editBaggage (edits : List (String × Option String)) (baggage : Option Baggage)
    (h : ∀ edit ∈ edits, edit.1 ≠ VOLUME_BAGGAGE_KEY) :
    volumeOf (editBaggage baggage edits) = volumeOf baggage := by
  induction edits generalizing baggage with
  | nil => rfl
  | cons edit edits ih =>
    obtain ⟨hkey, hedits⟩ := List.forall_mem_cons.mp h
    rw [editBaggage, List.foldl_cons]
    refine (ih _ hedits).trans ?_
    rcases edit with ⟨key, _ | value⟩
    · cases baggage with
      | none => rfl
      | some b => simp [volumeOf, OrderedMap.get?_delete, hkey.symm]
    · cases baggage with
      | none => simp [volumeOf, OrderedMap.get?_set_ne hkey.symm]
      | some b => simp [volumeOf, OrderedMap.get?_set_ne hkey.symm]

/-- A decision is there. -/
def Decided (baggage : Option Baggage) : Prop :=
  volumeOf baggage = some "highest" ∨ volumeOf baggage = some "off"

instance : DecidablePred Decided := fun _ => inferInstanceAs (Decidable (_ ∨ _))

/-- The volume of a decision. -/
def verdict (isSelected : Bool) : Option String := some (if isSelected then "highest" else "off")

theorem decided_of_verdict {baggage : Option Baggage} {isSelected : Bool}
    (h : volumeOf baggage = verdict isSelected) : Decided baggage := by
  cases isSelected
  · exact Or.inr h
  · exact Or.inl h

theorem withVolumeBaggage_spec (c : Context) (isSelected : Bool) :
    (withVolumeBaggage c isSelected).span = c.span ∧
      volumeOf (withVolumeBaggage c isSelected).baggage = verdict isSelected :=
  ⟨rfl, volumeOf_set c.baggage _⟩

/-- What a service decides for the trace of a request. -/
def SnapshotPropagator.choice (p : SnapshotPropagator) (random : ℚ) : Option SpanContext → Bool
  | none => below random p.selectionRate
  | some span => p.sampler span.traceId

theorem attachVolumeBaggage_spec (p : SnapshotPropagator) (random : ℚ) (c : Context) :
    (p.attachVolumeBaggage random c).span = c.span ∧
      volumeOf (p.attachVolumeBaggage random c).baggage = verdict (p.choice random c.span) := by
  unfold SnapshotPropagator.attachVolumeBaggage SnapshotPropagator.choice
  split
  · exact withVolumeBaggage_spec c _
  · exact withVolumeBaggage_spec c _

/-- An active service decides where no one has. A decision stays, and a dormant service leaves
everything alone. -/
theorem extract_cases (p : SnapshotPropagator) (isActive : Bool) (random : ℚ) (c : Context) :
    (isActive = false ∨ Decided c.baggage) ∧ p.extract isActive random c = c ∨
      isActive = true ∧ ¬ Decided c.baggage ∧
        volumeOf (p.extract isActive random c).baggage = verdict (p.choice random c.span) := by
  obtain ⟨-, hvolume⟩ := attachVolumeBaggage_spec p random c
  unfold SnapshotPropagator.extract
  cases isActive with
  | false => exact Or.inl ⟨Or.inl rfl, rfl⟩
  | true =>
    rw [if_neg (not_not.mpr rfl)]
    rcases c with ⟨span, _ | baggage⟩
    · exact Or.inr ⟨rfl, by simp [Decided, volumeOf], hvolume⟩
    · by_cases hdecided : Decided (some baggage)
      · exact Or.inl ⟨Or.inr hdecided, if_pos hdecided⟩
      · refine Or.inr ⟨rfl, hdecided, ?_⟩
        rw [← hvolume]
        exact congrArg (fun c : Context => volumeOf c.baggage) (if_neg hdecided)

theorem span_extract (p : SnapshotPropagator) (isActive : Bool) (random : ℚ) (c : Context) :
    (p.extract isActive random c).span = c.span := by
  obtain ⟨hspan, -⟩ := attachVolumeBaggage_spec p random c
  unfold SnapshotPropagator.extract
  split
  · rfl
  · split
    · exact hspan
    · simp only
      split
      · rfl
      · exact hspan

theorem decided_extract (p : SnapshotPropagator) (random : ℚ) (c : Context) :
    Decided (p.extract true random c).baggage := by
  rcases extract_cases p true random c with ⟨hidle, heq⟩ | ⟨-, -, hvolume⟩
  · rw [heq]
    exact hidle.resolve_left (by decide)
  · exact decided_of_verdict hvolume

theorem stamps_iff (p : SnapshotProfiler) (span : Span) (c : Context)
    (hremote : ∀ parent ∈ c.span, parent.isRemote = true) :
    stamps p span c = true ↔ p.active = true ∧ volumeOf c.baggage = some "highest" := by
  have hselected : SnapshotProfiler.selected c.parentContext = true ↔
      volumeOf c.baggage = some "highest" := by
    have hprocess : SnapshotProfiler.shouldProcessContext c.parentContext = true := by
      rcases c with ⟨_ | parent, baggage⟩
      · rfl
      · simp [SnapshotProfiler.shouldProcessContext, Context.parentContext, hremote parent rfl]
    rw [SnapshotProfiler.selected, decide_eq_true_eq, and_iff_right hprocess]
    rcases c with ⟨span, _ | baggage⟩
    · simp [Context.parentContext, volumeOf]
    · simp [Context.parentContext, volumeOf]
  rw [stamps, Bool.and_eq_true, hselected, and_comm, SnapshotProfiler.traceSnapshotBegin]
  cases p.active <;> simp

/-! ## Runs -/

/-- What a visit decides and does. -/
structure Settled {S : Type} (v : Visit S) : Prop where
  decided : v.active = true → Decided v.context.baggage
  stamped : v.stamped = true ↔
    v.recorded = true ∧ v.active = true ∧ volumeOf v.context.baggage = some "highest"

/-- The request of visit `j` was sent from visit `i`. -/
def ChildOf {S : Type} (visits : List (Visit S)) (i j : ℕ) : Prop :=
  ∃ v, visits[j]? = some v ∧ v.parent = some i

/-- A decision is passed on. -/
def PassedOn {S : Type} (visits : List (Visit S)) (v : Visit S) : Prop :=
  ∀ i ∈ v.parent, ∃ u, visits[i]? = some u ∧
    (Decided u.context.baggage → volumeOf v.context.baggage = volumeOf u.context.baggage)

def VisitsInv {S : Type} (net : Network S) : Prop :=
  ∀ v ∈ net.visits, Settled v ∧ PassedOn net.visits v

section Runs

variable {S : Type} {carry : Option Baggage → Option Baggage}
  {propagators : S → SnapshotPropagator}

theorem received_remote {net : Network S} {origin : Origin} {r : Context × Option ℕ × ℕ}
    (h : received carry net origin = some r) : ∀ parent ∈ r.1.span, parent.isRemote = true := by
  cases origin with
  | outside traceId baggage =>
    cases h
    intro parent hparent
    obtain ⟨id, -, rfl⟩ := Option.map_eq_some_iff.mp hparent
    rfl
  | call i edits =>
    simp only [received] at h
    split at h
    · cases h
    · split at h
      · cases h
        intro parent hparent
        cases hparent
        rfl
      · cases h

theorem visit_settled (net : Network S) (service : S) {r : Context × Option ℕ × ℕ} (random : ℚ)
    (spanId freshTraceId : String) (recorded : Bool)
    (hremote : ∀ parent ∈ r.1.span, parent.isRemote = true) :
    Settled (visit propagators net service r random spanId freshTraceId recorded) where
  decided hactive := by
    simp only [visit] at hactive ⊢
    rw [hactive]
    exact decided_extract _ _ _
  stamped := by
    simp only [visit, Bool.and_eq_true]
    rw [stamps_iff _ _ _ (by rwa [span_extract])]

theorem received_call {net : Network S} {i : ℕ} {edits : List (String × Option String)}
    {r : Context × Option ℕ × ℕ} (hcarry : ∀ baggage, volumeOf (carry baggage) = volumeOf baggage)
    (h : received carry net (.call i edits) = some r) :
    ∃ u, net.visits[i]? = some u ∧ r.2 = (some i, u.root) ∧
      r.1.span = some ⟨u.span.traceId, true⟩ ∧ volumeOf r.1.baggage = volumeOf u.context.baggage := by
  simp only [received] at h
  split at h
  · cases h
  · rename_i u hu
    split at h
    · rename_i hedits
      cases h
      refine ⟨u, hu, rfl, rfl, ?_⟩
      rw [hcarry]
      exact volumeOf_editBaggage edits _ hedits
    · cases h

theorem visit_passedOn {net : Network S} {origin : Origin} {r : Context × Option ℕ × ℕ}
    (hcarry : ∀ baggage, volumeOf (carry baggage) = volumeOf baggage)
    (h : received carry net origin = some r) (service : S) (random : ℚ)
    (spanId freshTraceId : String) (recorded : Bool) :
    PassedOn net.visits
      (visit propagators net service r random spanId freshTraceId recorded) := by
  intro i hi
  have hparent : r.2.1 = some i := hi
  cases origin with
  | outside traceId baggage =>
    cases h
    cases hparent
  | call k edits =>
    obtain ⟨u, hu, hr, -, hvolume⟩ := received_call hcarry h
    rw [hr] at hparent
    cases hparent
    refine ⟨u, hu, fun hdecided => ?_⟩
    simp only [visit]
    have hheaders : Decided r.1.baggage := by
      rw [Decided, hvolume]
      exact hdecided
    rcases extract_cases (propagators service) (net.profilers service).active random r.1 with
      ⟨-, heq⟩ | ⟨-, hnot, -⟩
    · rw [heq, hvolume]
    · exact absurd hheaders hnot

theorem PassedOn.append {visits : List (Visit S)} {v : Visit S} (h : PassedOn visits v)
    (w : Visit S) : PassedOn (visits ++ [w]) v := by
  intro i hi
  obtain ⟨u, hu, hsame⟩ := h i hi
  exact ⟨u, by rw [List.getElem?_append_left (List.getElem?_eq_some_iff.mp hu).1, hu], hsame⟩

variable [DecidableEq S]

theorem step_visits {net net' : Network S} {e : NetworkEvent S}
    (h : Network.step carry propagators net e = some net') :
    net'.visits = net.visits ∨ ∃ service origin random spanId freshTraceId recorded r,
      received carry net origin = some r ∧ net'.visits =
        net.visits ++ [visit propagators net service r random spanId freshTraceId recorded] := by
  cases e with
  | request service origin random spanId freshTraceId recorded =>
    obtain ⟨r, hr, rfl⟩ := Option.map_eq_some_iff.mp h
    exact Or.inr ⟨service, origin, random, spanId, freshTraceId, recorded, r, hr, rfl⟩
  | profiler service e =>
    obtain ⟨p, -, rfl⟩ := Option.map_eq_some_iff.mp h
    exact Or.inl rfl

theorem visits_step (hcarry : ∀ baggage, volumeOf (carry baggage) = volumeOf baggage)
    (net : Network S) (e : NetworkEvent S) (net' : Network S) (h : VisitsInv net)
    (hstep : Network.step carry propagators net e = some net') : VisitsInv net' := by
  rcases step_visits hstep with
    heq | ⟨service, origin, random, spanId, freshTraceId, recorded, r, hr, heq⟩
  · rw [VisitsInv, heq]
    exact h
  · intro v hv
    rw [heq] at hv ⊢
    rcases List.mem_append.mp hv with hv | hv
    · exact ⟨(h v hv).1, (h v hv).2.append _⟩
    · rw [List.mem_singleton.mp hv]
      exact ⟨visit_settled net service random spanId freshTraceId recorded (received_remote hr),
        (visit_passedOn hcarry hr service random spanId freshTraceId recorded).append _⟩

omit [DecidableEq S] in
/-- The decision of a visit is that of every visit below it. -/
theorem VisitsInv.volume_below {net : Network S} (h : VisitsInv net) {i j : ℕ} {u : Visit S}
    (hu : net.visits[i]? = some u) (hdecided : Decided u.context.baggage)
    (hbelow : Relation.ReflTransGen (ChildOf net.visits) i j) :
    ∃ v, net.visits[j]? = some v ∧ volumeOf v.context.baggage = volumeOf u.context.baggage := by
  induction hbelow with
  | refl => exact ⟨u, hu, rfl⟩
  | tail _ hchild ih =>
    obtain ⟨w, hw, hsame⟩ := ih
    obtain ⟨v, hv, hparent⟩ := hchild
    obtain ⟨w', hw', hpassed⟩ := (h v (List.mem_of_getElem? hv)).2 _ hparent
    obtain rfl : w = w' := Option.some.inj (hw.symm.trans hw')
    refine ⟨v, hv, ?_⟩
    rw [hpassed (by rw [Decided, hsame]; exact hdecided), hsame]

/-- Two visits have the same decision, and profile alike where span processors see their spans. -/
def Alike (u v : Visit S) : Prop :=
  volumeOf u.context.baggage = volumeOf v.context.baggage ∧
    (u.recorded = true → v.recorded = true → u.stamped = v.stamped)

omit [DecidableEq S] in
theorem Settled.alike {u v : Visit S} (hu : Settled u) (hv : Settled v) (huactive : u.active = true)
    (hvactive : v.active = true)
    (hsame : volumeOf u.context.baggage = volumeOf v.context.baggage) : Alike u v := by
  refine ⟨hsame, fun hurecorded hvrecorded => ?_⟩
  rw [Bool.eq_iff_iff, hu.stamped, hv.stamped, hsame]
  simp [huactive, hvactive, hurecorded, hvrecorded]

/-- Below an active service, every active service does as it does. -/
def FollowsUpstream (net : Network S) : Prop :=
  ∀ i j u v, net.visits[i]? = some u → net.visits[j]? = some v →
    Relation.ReflTransGen (ChildOf net.visits) i j → u.active = true → v.active = true → Alike u v

/-- **One decision downstream.** Whatever the rates of the services, and whenever they turn their
profilers on and off, the decision of an active service is the one of every active service that its
request leads to. -/
theorem one_decision_downstream
    (hcarry : ∀ baggage, volumeOf (carry baggage) = volumeOf baggage)
    (profilers : S → SnapshotProfiler) (es : List (NetworkEvent S)) :
    Always (Network.step carry propagators) FollowsUpstream ⟨profilers, []⟩ es := by
  have hinv : Always (Network.step carry propagators) VisitsInv ⟨profilers, []⟩ es :=
    always_of_step (visits_step hcarry) es _ fun v hv => absurd hv List.not_mem_nil
  refine hinv.imp fun net h i j u v hu hv hbelow huactive hvactive => ?_
  have hsettled := (h u (List.mem_of_getElem? hu)).1
  obtain ⟨v', hv', hsame⟩ := h.volume_below hu (hsettled.decided huactive) hbelow
  obtain rfl : v = v' := Option.some.inj (hv.symm.trans hv')
  exact hsettled.alike (h v (List.mem_of_getElem? hv)).1 huactive hvactive hsame.symm

/-- Three services of the same rate, where the trace with the least id is sampled. -/
def threeServices : Fin 3 → SnapshotPropagator :=
  fun _ => .new (fun _ traceId => traceId = "00000000000000000000000000000001") (.finite (1 / 100))

/-- The first service is dormant and calls the second one. This one turns its profiler off, and
calls the third one. -/
def throughDormant : List (NetworkEvent (Fin 3)) :=
  [.profiler 0 (.setActive false none),
    .request 0 (.outside none none) (1 / 2) "a" "00000000000000000000000000000001" true,
    .request 1 (.call 0 []) (1 / 2) "b" "fresh" true, .profiler 1 (.setActive false none),
    .request 2 (.call 1 [("user", some "u")]) (1 / 2) "c" "fresh" true,
    .request 2 (.call 0 []) (1 / 2) "d" "fresh" true]

def threeActive : Network (Fin 3) := ⟨fun _ => .new 1 true, []⟩

theorem selection_survives_dormant :
    (throughDormant.foldlM (Network.step id threeServices) threeActive).map
        (·.visits.map (·.stamped)) = some [false, true, true, true] ∧
      Always (Network.step id threeServices) FollowsUpstream threeActive throughDormant :=
  ⟨by decide, one_decision_downstream (fun _ => rfl) _ _⟩

/-! ## Services that select alike -/

/-- What the visits of a request decide that began with the visit `root`. -/
def requestVerdict (sampler : String → Bool) (root : Visit S) : Option String :=
  if Decided root.context.baggage then volumeOf root.context.baggage
  else verdict (sampler root.span.traceId)

/-- A visit belongs to the trace of its root, and decides what its request does. -/
structure WithRoot (sampler : String → Bool) (visits : List (Visit S)) (v : Visit S) : Prop where
  exists_root : ∃ root, visits[v.root]? = some root ∧ root.span.traceId = v.span.traceId ∧
    (Decided root.context.baggage → Decided v.context.baggage) ∧
    (Decided v.context.baggage → volumeOf v.context.baggage = requestVerdict sampler root)

omit [DecidableEq S] in
theorem WithRoot.append {sampler : String → Bool} {visits : List (Visit S)} {v : Visit S}
    (h : WithRoot sampler visits v) (w : Visit S) : WithRoot sampler (visits ++ [w]) v := by
  obtain ⟨root, hroot, hrest⟩ := h.exists_root
  exact ⟨root, by rw [List.getElem?_append_left (List.getElem?_eq_some_iff.mp hroot).1, hroot],
    hrest⟩

omit [DecidableEq S] in
theorem visit_withRoot {net : Network S} {origin : Origin} {r : Context × Option ℕ × ℕ}
    {sampler : String → Bool} (hsame : ∀ s, (propagators s).sampler = sampler)
    (hcarry : ∀ baggage, volumeOf (carry baggage) = volumeOf baggage)
    (h : ∀ v ∈ net.visits, WithRoot sampler net.visits v)
    (hr : received carry net origin = some r) (service : S) (random : ℚ)
    (spanId freshTraceId : String) (recorded : Bool) :
    WithRoot sampler
      (net.visits ++ [visit propagators net service r random spanId freshTraceId recorded])
      (visit propagators net service r random spanId freshTraceId recorded) := by
  cases origin with
  | outside traceId baggage =>
    cases hr
    refine ⟨_, List.getElem?_concat_length, rfl, id, fun hdecided => ?_⟩
    rw [requestVerdict, if_pos hdecided]
  | call i edits =>
    obtain ⟨u, hu, hr, hspan, hvolume⟩ := received_call hcarry hr
    obtain ⟨root, hroot, htrace, hdown, hverdict⟩ :=
      (h u (List.mem_of_getElem? hu)).exists_root
    have hheaders : Decided r.1.baggage ↔ Decided u.context.baggage := by
      rw [Decided, Decided, hvolume]
    refine ⟨root, ?_, ?_, ?_⟩
    · simp only [visit, hr]
      rw [List.getElem?_append_left (List.getElem?_eq_some_iff.mp hroot).1, hroot]
    · simp only [visit, hspan]
      exact htrace
    · simp only [visit]
      rcases extract_cases (propagators service) (net.profilers service).active random r.1 with
        ⟨-, heq⟩ | ⟨-, hnot, hchoice⟩
      · rw [heq, hheaders, hvolume]
        exact ⟨hdown, hverdict⟩
      · have hroot' : ¬ Decided root.context.baggage := fun hd => hnot (hheaders.mpr (hdown hd))
        refine ⟨fun hd => absurd hd hroot', fun _ => ?_⟩
        rw [hchoice, requestVerdict, if_neg hroot', hspan, SnapshotPropagator.choice, hsame, htrace]

theorem withRoot_step {sampler : String → Bool} (hsame : ∀ s, (propagators s).sampler = sampler)
    (hcarry : ∀ baggage, volumeOf (carry baggage) = volumeOf baggage) (net : Network S)
    (e : NetworkEvent S) (net' : Network S)
    (h : VisitsInv net ∧ ∀ v ∈ net.visits, WithRoot sampler net.visits v)
    (hstep : Network.step carry propagators net e = some net') :
    VisitsInv net' ∧ ∀ v ∈ net'.visits, WithRoot sampler net'.visits v := by
  refine ⟨visits_step hcarry net e net' h.1 hstep, ?_⟩
  rcases step_visits hstep with
    heq | ⟨service, origin, random, spanId, freshTraceId, recorded, r, hr, heq⟩
  · rw [heq]
    exact h.2
  · intro v hv
    rw [heq] at hv ⊢
    rcases List.mem_append.mp hv with hv | hv
    · exact (h.2 v hv).append _
    · rw [List.mem_singleton.mp hv]
      exact visit_withRoot hsame hcarry h.2 hr service random spanId freshTraceId recorded

/-- Within a request, every active service does as the others do. -/
def AlikeInRequest (net : Network S) : Prop :=
  ∀ u ∈ net.visits, ∀ v ∈ net.visits, u.root = v.root → u.active = true → v.active = true →
    Alike u v

/-- **One decision for a request.** When all services have the same rate, the active services that a
request reaches have the same decision, on whatever branches of its tree they lie. -/
theorem one_decision_per_request (sampler : String → Bool)
    (hsame : ∀ s, (propagators s).sampler = sampler)
    (hcarry : ∀ baggage, volumeOf (carry baggage) = volumeOf baggage)
    (profilers : S → SnapshotProfiler) (es : List (NetworkEvent S)) :
    Always (Network.step carry propagators) AlikeInRequest ⟨profilers, []⟩ es := by
  have hinv := always_of_step (withRoot_step hsame hcarry) es ⟨profilers, []⟩
    ⟨fun v hv => absurd hv List.not_mem_nil, fun v hv => absurd hv List.not_mem_nil⟩
  refine hinv.imp fun net h u hu v hv hroots huactive hvactive => ?_
  have husettled := (h.1 u hu).1
  have hvsettled := (h.1 v hv).1
  obtain ⟨ru, hru, -, -, huverdict⟩ := (h.2 u hu).exists_root
  obtain ⟨rv, hrv, -, -, hvverdict⟩ := (h.2 v hv).exists_root
  rw [hroots, hrv] at hru
  cases hru
  apply husettled.alike hvsettled huactive hvactive
  rw [huverdict (husettled.decided huactive), hvverdict (hvsettled.decided hvactive)]

theorem branches_alike :
    (throughDormant.foldlM (Network.step id threeServices) threeActive).map
        (·.visits.map (·.root)) = some [0, 0, 0, 0] ∧
      Always (Network.step id threeServices) AlikeInRequest threeActive throughDormant :=
  ⟨by decide, one_decision_per_request _ (fun _ => rfl) (fun _ => rfl) _ _⟩

end Runs

end SplunkOtel.Snapshots
