import SplunkOtel.Js.Access
import SplunkOtel.Lib.Run

/-!
# The names of Next.js spans (`src/tracing/NextJsSpanProcessor.ts`)

One processor sees the spans of all requests. Next to it stand the names that the spans should have,
where every page is looked up under the request that it belongs to.
-/

open Lib.Run SplunkOtel.Js

namespace SplunkOtel.Tracing

variable {SpanId : Type} [DecidableEq SpanId] (numberToString : Number → String)

/-! ## Spans -/

structure Span (SpanId : Type) where
  name : String
  /-- An attribute that is not set is undefined. -/
  attributes : String → Value
  /-- `span.parentSpanContext?.spanId` -/
  parentSpanId : Option SpanId
  ended : Bool := false

/-- A span that has ended is not changed any more. -/
def Span.updateName (span : Span SpanId) (name : String) : Span SpanId :=
  if span.ended then span else { span with name }

def Span.setAttribute (span : Span SpanId) (key : String) (value : Value) : Span SpanId :=
  if span.ended then span
  else { span with attributes := fun k => if k = key then value else span.attributes k }

/-- The spans that were started, by their ids. -/
abbrev Spans (SpanId : Type) := SpanId → Option (Span SpanId)

namespace Spans

def change (spans : Spans SpanId) (id : SpanId) (f : Span SpanId → Span SpanId) : Spans SpanId :=
  fun i => if i = id then (spans i).map f else spans i

def insert (spans : Spans SpanId) (id : SpanId) (span : Span SpanId) : Spans SpanId :=
  fun i => if i = id then some span else spans i

def updateName (spans : Spans SpanId) (id : SpanId) (name : String) : Spans SpanId :=
  spans.change id (·.updateName name)

end Spans

/-! ## The processor -/

structure NextJsSpanProcessor (SpanId : Type) where
  spans : Spans SpanId
  handleRequestSpan : Option SpanId

def isHandleRequest (span : Span SpanId) : Bool :=
  (span.attributes "next.span_type").isString "BaseServer.handleRequest"

def isResolvePage (span : Span SpanId) : Bool :=
  (span.attributes "next.span_name").isString "resolve page components"

def hasRoute (span : Span SpanId) : Bool := (span.attributes "next.route").typeof = "string"

/-- The name that a page gives to its request. -/
def routeName (handleRequestSpan span : Span SpanId) : String :=
  let rsc := if (handleRequestSpan.attributes "next.rsc").isTrue then "rsc " else ""
  let method := (handleRequestSpan.attributes "http.method").or (.string "")
  rsc ++ method.toText numberToString ++ " " ++ (span.attributes "next.route").toText numberToString

def onStart (processor : NextJsSpanProcessor SpanId) (id : SpanId) (span : Span SpanId) :
    NextJsSpanProcessor SpanId :=
  if isHandleRequest span then
    let processor := { processor with handleRequestSpan := some id }
    match indexOf span.name '?' 0 with
    | none => processor
    | some queryIndex =>
      { processor with spans := processor.spans.updateName id (substring span.name 0 queryIndex) }
  else
    match processor.handleRequestSpan with
    | none => processor
    | some handleRequestSpan =>
      if isResolvePage span ∧ span.parentSpanId = some handleRequestSpan ∧ hasRoute span then
        match processor.spans handleRequestSpan with
        | none => processor
        | some request =>
          { processor with
            spans := processor.spans.updateName handleRequestSpan
              (routeName numberToString request span) }
      else processor

def onEnd (processor : NextJsSpanProcessor SpanId) (id : SpanId) : NextJsSpanProcessor SpanId :=
  if processor.handleRequestSpan = some id then { processor with handleRequestSpan := none }
  else processor

/-! ## Every request on its own -/

def withoutQuery (name : String) : String :=
  match indexOf name '?' 0 with
  | none => name
  | some queryIndex => substring name 0 queryIndex

/-- The open request that a page belongs to. -/
def requestOf (spans : Spans SpanId) (span : Span SpanId) : Option (SpanId × Span SpanId) :=
  if isResolvePage span ∧ hasRoute span then
    span.parentSpanId.bind fun parent =>
      ((spans parent).filter fun request => isHandleRequest request ∧ ¬ request.ended).map (parent, ·)
  else none

/-- A request starts without its query, and a page names the request that it belongs to. -/
def intendedStart (spans : Spans SpanId) (id : SpanId) (span : Span SpanId) : Spans SpanId :=
  let started := if isHandleRequest span then span.updateName (withoutQuery span.name) else span
  match requestOf spans span with
  | none => spans.insert id started
  | some (parent, request) =>
    (spans.updateName parent (routeName numberToString request span)).insert id started

/-! ## Runs -/

structure Names (SpanId : Type) where
  processor : NextJsSpanProcessor SpanId
  intended : Spans SpanId

def noSpans : Names SpanId := ⟨⟨fun _ => none, none⟩, fun _ => none⟩

inductive SpanEvent (SpanId : Type) where
  | start (id : SpanId) (name : String) (attributes : String → Value) (parentSpanId : Option SpanId)
  | setAttribute (id : SpanId) (key : String) (value : Value)
  | end (id : SpanId)

def spanStep (s : Names SpanId) : SpanEvent SpanId → Option (Names SpanId)
  | .start id name attributes parentSpanId =>
    let span : Span SpanId := { name, attributes, parentSpanId }
    if (s.processor.spans id).isSome then none
    else
      some {
        processor := onStart numberToString
          { s.processor with spans := s.processor.spans.insert id span } id span
        intended := intendedStart numberToString s.intended id span }
  | .setAttribute id key value =>
    -- The type of a span is given when it starts.
    if key = "next.span_type" then none
    else
      some {
        processor :=
          { s.processor with spans := s.processor.spans.change id (·.setAttribute key value) }
        intended := s.intended.change id (·.setAttribute key value) }
  | .end id =>
    let finish := fun span : Span SpanId => { span with ended := true }
    if ((s.processor.spans id).filter (¬ ·.ended)).isNone then none
    else
      some {
        processor := onEnd { s.processor with spans := s.processor.spans.change id finish } id
        intended := s.intended.change id finish }

/-- Every span has the name that it should have. -/
def NamedAsIntended (s : Names SpanId) : Prop :=
  ∀ id, (s.processor.spans id).map (·.name) = (s.intended id).map (·.name)

/-- A page that starts belongs to the request that started last, or its request already has the name
that it gives. -/
def OfCurrentRequest (s : Names SpanId) : SpanEvent SpanId → Prop
  | .start _ name attributes parentSpanId =>
    let span : Span SpanId := { name, attributes, parentSpanId }
    ∀ p ∈ requestOf s.processor.spans span,
      s.processor.handleRequestSpan = some p.1 ∧ isHandleRequest span = false ∨
        p.2.name = routeName numberToString p.2 span
  | _ => True

/-! ## What a start does -/

omit [DecidableEq SpanId] in
theorem updateName_self {span : Span SpanId} {name : String} (h : span.name = name) :
    span.updateName name = span := by
  subst h
  unfold Span.updateName
  split <;> rfl

namespace Spans

theorem insert_updateName_self (spans : Spans SpanId) (id : SpanId) (span : Span SpanId)
    (name : String) :
    (spans.insert id span).updateName id name = spans.insert id (span.updateName name) := by
  funext i
  unfold updateName change insert
  by_cases hi : i = id
  · simp [hi]
  · simp [hi]

theorem insert_updateName (spans : Spans SpanId) {id p : SpanId} (span : Span SpanId)
    (name : String) (h : p ≠ id) :
    (spans.insert id span).updateName p name = (spans.updateName p name).insert id span := by
  funext i
  unfold updateName change insert
  by_cases hi : i = id
  · simp [hi, h.symm]
  · simp [hi]

theorem updateName_eq_self {spans : Spans SpanId} {p : SpanId} {request : Span SpanId}
    {name : String} (h : spans p = some request) (hname : request.name = name) :
    spans.updateName p name = spans := by
  funext i
  unfold updateName change
  by_cases hi : i = p
  · simp [hi, h, updateName_self hname]
  · simp [hi]

end Spans

omit [DecidableEq SpanId] in
theorem ne_of_started {spans : Spans SpanId} {id p : SpanId} {request : Span SpanId}
    (hid : spans id = none) (hp : spans p = some request) : p ≠ id := by
  rintro rfl
  exact absurd (hid.symm.trans hp) (by simp)

/-- The current request is open. -/
def CurrentOpen (processor : NextJsSpanProcessor SpanId) : Prop :=
  ∀ id, processor.handleRequestSpan = some id →
    ∃ request, processor.spans id = some request ∧ isHandleRequest request = true ∧
      request.ended = false

omit [DecidableEq SpanId] in
theorem requestOf_eq_some {spans : Spans SpanId} {span : Span SpanId} {p : SpanId × Span SpanId} :
    requestOf spans span = some p ↔
      (isResolvePage span ∧ hasRoute span) ∧ span.parentSpanId = some p.1 ∧ spans p.1 = some p.2 ∧
        isHandleRequest p.2 = true ∧ p.2.ended = false := by
  obtain ⟨parent, request⟩ := p
  unfold requestOf
  split
  · rename_i hpage
    simp only [Option.bind_eq_some_iff, Option.map_eq_some_iff, Option.filter_eq_some_iff,
      Prod.mk.injEq, hpage, true_and]
    constructor
    · rintro ⟨q, hparent, r, ⟨hspan, hopen⟩, rfl, rfl⟩
      exact ⟨hparent, hspan, by simpa using hopen⟩
    · rintro ⟨hparent, hspan, hopen⟩
      exact ⟨parent, hparent, request, ⟨hspan, by simpa using hopen⟩, rfl, rfl⟩
  · rename_i hpage
    simp [hpage]

theorem intendedStart_request {spans : Spans SpanId} {id : SpanId} {span : Span SpanId}
    {p : SpanId × Span SpanId} (hid : spans id = none) (hp : requestOf spans span = some p) :
    intendedStart numberToString spans id span p.1 =
      some { p.2 with name := routeName numberToString p.2 span } := by
  obtain ⟨-, -, hspan, -, hopen⟩ := requestOf_eq_some.mp hp
  unfold intendedStart
  rw [hp]
  simp [Spans.insert, ne_of_started hid hspan, Spans.updateName, Spans.change, hspan,
    Span.updateName, hopen]

theorem onStart_request (spans : Spans SpanId) (current : Option SpanId) (id : SpanId)
    {span : Span SpanId} (h : isHandleRequest span = true) :
    onStart numberToString ⟨spans.insert id span, current⟩ id span =
      ⟨spans.insert id (span.updateName (withoutQuery span.name)), some id⟩ := by
  unfold onStart withoutQuery
  rw [if_pos h]
  simp only
  split
  · rw [updateName_self rfl]
  · rw [Spans.insert_updateName_self]

theorem onStart_page (spans : Spans SpanId) {current : Option SpanId} {id : SpanId}
    {span : Span SpanId} (hid : spans id = none) (hcurrent : CurrentOpen ⟨spans, current⟩)
    (h : isHandleRequest span = false) :
    onStart numberToString ⟨spans.insert id span, current⟩ id span =
      ⟨match requestOf spans span with
        | none => spans.insert id span
        | some (parent, request) =>
          if current = some parent then
            (spans.updateName parent (routeName numberToString request span)).insert id span
          else spans.insert id span, current⟩ := by
  unfold onStart
  rw [if_neg (by simp [h])]
  simp only
  cases hc : current with
  | none =>
    cases requestOf spans span <;> simp
  | some p =>
    obtain ⟨request, hrequest, htype, hopen⟩ := hcurrent p hc
    have hp : p ≠ id := ne_of_started hid hrequest
    have hread : (spans.insert id span) p = some request := by
      simpa [Spans.insert, hp] using hrequest
    simp only [hread]
    by_cases hpage : isResolvePage span ∧ span.parentSpanId = some p ∧ hasRoute span
    · have hof : requestOf spans span = some (p, request) :=
        requestOf_eq_some.mpr ⟨⟨hpage.1, hpage.2.2⟩, hpage.2.1, hrequest, htype, hopen⟩
      rw [if_pos hpage, hof]
      simp only [if_true, Spans.insert_updateName _ _ _ hp]
    · rw [if_neg hpage]
      cases hof : requestOf spans span with
      | none => rfl
      | some q =>
        obtain ⟨hboth, hparent, -⟩ := requestOf_eq_some.mp hof
        have hq : p ≠ q.1 := by
          rintro rfl
          exact hpage ⟨hboth.1, hparent, hboth.2⟩
        simp [hq]

/-! ## The current request stays open -/

omit [DecidableEq SpanId] in
theorem updateName_ended (span : Span SpanId) (name : String) :
    (span.updateName name).ended = span.ended := by
  unfold Span.updateName
  split <;> rfl

omit [DecidableEq SpanId] in
theorem updateName_isHandleRequest (span : Span SpanId) (name : String) :
    isHandleRequest (span.updateName name) = isHandleRequest span := by
  unfold Span.updateName
  split <;> rfl

omit [DecidableEq SpanId] in
theorem setAttribute_ended (span : Span SpanId) (key : String) (value : Value) :
    (span.setAttribute key value).ended = span.ended := by
  unfold Span.setAttribute
  split <;> rfl

omit [DecidableEq SpanId] in
theorem setAttribute_isHandleRequest (span : Span SpanId) {key : String} (value : Value)
    (h : key ≠ "next.span_type") :
    isHandleRequest (span.setAttribute key value) = isHandleRequest span := by
  unfold Span.setAttribute
  split
  · rfl
  · simp only [isHandleRequest, if_neg h.symm]

theorem CurrentOpen.change {spans : Spans SpanId} {current : Option SpanId}
    (h : CurrentOpen ⟨spans, current⟩) (id : SpanId) {f : Span SpanId → Span SpanId}
    (hf : current = some id → ∀ span, isHandleRequest (f span) = isHandleRequest span ∧
      (f span).ended = span.ended) :
    CurrentOpen ⟨spans.change id f, current⟩ := by
  intro c hc
  obtain ⟨request, hrequest, htype, hopen⟩ := h c hc
  simp only at hc hrequest
  by_cases hid : c = id
  · subst hid
    obtain ⟨htype', hended⟩ := hf hc request
    exact ⟨f request, by simp [Spans.change, hrequest], htype'.trans htype, hended.trans hopen⟩
  · exact ⟨request, by simp [Spans.change, hid, hrequest], htype, hopen⟩

theorem CurrentOpen.insert {spans : Spans SpanId} {current : Option SpanId}
    (h : CurrentOpen ⟨spans, current⟩) {id : SpanId} (span : Span SpanId) (hid : spans id = none) :
    CurrentOpen ⟨spans.insert id span, current⟩ := by
  intro c hc
  obtain ⟨request, hrequest, hopen⟩ := h c hc
  simp only at hc hrequest
  have hne : c ≠ id := ne_of_started hid hrequest
  exact ⟨request, by simp [Spans.insert, hne, hrequest], hopen⟩

/-! ## Steps -/

/-- The spans are as intended and the current request is open. -/
structure NamesInv (s : Names SpanId) : Prop where
  same : s.processor.spans = s.intended
  current : CurrentOpen s.processor

omit [DecidableEq SpanId] in
theorem NamesInv.named {s : Names SpanId} (h : NamesInv s) : NamedAsIntended s :=
  fun id => congrArg (fun spans : Spans SpanId => (spans id).map (·.name)) h.same

theorem intendedStart_inv {spans : Spans SpanId} {current : Option SpanId}
    (hcurrent : CurrentOpen ⟨spans, current⟩) {id : SpanId} {span : Span SpanId}
    (hid : spans id = none) (hopen : span.ended = false)
    (hof : ∀ p ∈ requestOf spans span, current = some p.1 ∧ isHandleRequest span = false ∨
      p.2.name = routeName numberToString p.2 span) :
    NamesInv ⟨onStart numberToString ⟨spans.insert id span, current⟩ id span,
      intendedStart numberToString spans id span⟩ := by
  cases htype : isHandleRequest span with
  | true =>
    rw [onStart_request numberToString spans current id htype]
    refine ⟨?_, ?_⟩
    · unfold intendedStart
      simp only [htype, if_true]
      cases hrequest : requestOf spans span with
      | none => rfl
      | some p =>
        -- The request is not renamed by a page that is a request itself.
        have hname : p.2.name = routeName numberToString p.2 span := by
          rcases hof p hrequest with ⟨-, hpage⟩ | hname
          · exact absurd htype (by simp [hpage])
          · exact hname
        simp only [Spans.updateName_eq_self (requestOf_eq_some.mp hrequest).2.2.1 hname]
    · rintro c hc
      cases hc
      exact ⟨_, if_pos rfl, (updateName_isHandleRequest _ _).trans htype,
        (updateName_ended _ _).trans hopen⟩
  | false =>
    rw [onStart_page numberToString spans hid hcurrent htype]
    unfold intendedStart
    simp only [htype, Bool.false_eq_true, if_false]
    cases hrequest : requestOf spans span with
    | none => exact ⟨rfl, hcurrent.insert span hid⟩
    | some p =>
      obtain ⟨-, -, hspan, -⟩ := requestOf_eq_some.mp hrequest
      by_cases hc : current = some p.1
      · simp only [if_pos hc]
        refine ⟨rfl, CurrentOpen.insert ?_ span ?_⟩
        · exact hcurrent.change p.1 fun _ request =>
            ⟨updateName_isHandleRequest _ _, updateName_ended _ _⟩
        · simp [Spans.updateName, Spans.change, hid]
      · have hname : p.2.name = routeName numberToString p.2 span :=
          (hof p hrequest).resolve_left fun h => hc h.1
        simp only [if_neg hc, Spans.updateName_eq_self hspan hname]
        exact ⟨rfl, hcurrent.insert span hid⟩

theorem spanStep_inv (s : Names SpanId) (e : SpanEvent SpanId) (s' : Names SpanId) (h : NamesInv s)
    (hof : OfCurrentRequest numberToString s e) (hstep : spanStep numberToString s e = some s') :
    NamesInv s' := by
  unfold spanStep at hstep
  cases e with
  | start id name attributes parentSpanId =>
    simp only at hstep
    split at hstep
    · cases hstep
    · rename_i hid
      cases hstep
      rw [← h.same]
      exact intendedStart_inv numberToString h.current (by simpa using hid) rfl hof
  | setAttribute id key value =>
    simp only at hstep
    split at hstep
    · cases hstep
    · rename_i hkey
      cases hstep
      refine ⟨?_, ?_⟩
      · rw [h.same]
      · exact h.current.change id fun _ span =>
          ⟨setAttribute_isHandleRequest span value hkey, setAttribute_ended span key value⟩
  | «end» id =>
    simp only at hstep
    split at hstep
    · cases hstep
    · cases hstep
      unfold onEnd
      simp only
      split
      · exact ⟨by simp only [h.same], fun c hc => by cases hc⟩
      · rename_i hne
        refine ⟨by simp only [h.same], ?_⟩
        exact h.current.change id fun hc => absurd hc hne

theorem other_request_breaks (s : Names SpanId) (e : SpanEvent SpanId) (s' : Names SpanId)
    (h : NamesInv s) (hof : ¬ OfCurrentRequest numberToString s e)
    (hstep : spanStep numberToString s e = some s') : ¬ NamedAsIntended s' := by
  cases e with
  | start id name attributes parentSpanId =>
    simp only [spanStep] at hstep
    split at hstep
    · cases hstep
    rename_i hused
    have hid : s.processor.spans id = none := by simpa using hused
    cases hstep
    simp only [OfCurrentRequest, not_forall] at hof
    obtain ⟨p, hp, hnot⟩ := hof
    obtain ⟨hnotCurrent, hname⟩ := not_or.mp hnot
    obtain ⟨-, -, hspan, -⟩ := requestOf_eq_some.mp hp
    have hne : p.1 ≠ id := ne_of_started hid hspan
    generalize hnew : ({ name, attributes, parentSpanId } : Span SpanId) = span at *
    have hcode : (onStart numberToString
        { s.processor with spans := s.processor.spans.insert id span } id span).spans p.1 =
          some p.2 := by
      cases htype : isHandleRequest span with
      | true =>
        rw [onStart_request numberToString _ _ _ htype]
        simp [Spans.insert, hne, hspan]
      | false =>
        have hother : s.processor.handleRequestSpan ≠ some p.1 := fun hc => hnotCurrent ⟨hc, htype⟩
        rw [onStart_page numberToString _ hid h.current htype, hp]
        simp [Spans.insert, hne, hspan, hother]
    have hintended := intendedStart_request numberToString hid hp
    rw [h.same] at hintended
    intro hnamed
    have hsame := hnamed p.1
    simp only [hcode, hintended, Option.map_some, Option.some.injEq] at hsame
    exact hname hsame
  | setAttribute => exact absurd trivial hof
  | «end» => exact absurd trivial hof

omit [DecidableEq SpanId] in
theorem noSpans_inv : NamesInv (noSpans : Names SpanId) := ⟨rfl, fun _ hc => by cases hc⟩

/-- **The names of request spans.** In a run, every span has the name that it should have just when
every page belongs to the current request or finds its request so named already. -/
theorem requests_named_iff (events : List (SpanEvent SpanId)) :
    Always (spanStep numberToString) NamedAsIntended noSpans events ↔
      Along (spanStep numberToString) (OfCurrentRequest numberToString) noSpans events :=
  always_iff_along (fun _ h => h.named) (spanStep_inv numberToString)
    (other_request_breaks numberToString) events noSpans noSpans_inv

def attributesOf (attributes : List (String × String)) (key : String) : Value :=
  match attributes.lookup key with
  | some value => .string value
  | none => .undefined

/-- A second request starts before the page of the first. -/
theorem page_of_first_request_lost :
    ¬ Always (spanStep fun _ => "") NamedAsIntended (noSpans : Names ℕ)
      [.start 0 "GET /a" (attributesOf [("next.span_type", "BaseServer.handleRequest")]) none,
        .start 1 "GET /b" (attributesOf [("next.span_type", "BaseServer.handleRequest")]) none,
        .start 2 "resolve page components"
          (attributesOf [("next.span_name", "resolve page components"), ("next.route", "/[slug]")])
          (some 0)] := by
  intro h
  exact absurd (h.2.2.2 0) (by decide)

end SplunkOtel.Tracing
