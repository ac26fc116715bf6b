import SplunkOtel.Http.Lookups

/-!
# What the attributes of an outgoing request reveal

Two requests that differ in redacted values alone should get the same attributes. The URL hides
the values of a listed name when the first of them is not empty, and `http.target` hides none.
-/

open Lib SplunkOtel.Js

namespace SplunkOtel.Http

/-- Two parts of a query that may differ in the value of a listed name, empty in neither. -/
def SamePart (names : List String) (part part' : List Char) : Prop :=
  part = part' ∨ ∃ name value value', part = name ++ '=' :: value ∧ part' = name ++ '=' :: value' ∧
    '=' ∉ name ∧ decodeComponent name ∈ names ∧ value ≠ [] ∧ value' ≠ []

def SamePath (names : List String) (path path' : String) : Prop :=
  path = path' ∨ ∃ pathname query query', '?' ∉ pathname ∧
    path = String.ofList (pathname ++ '?' :: query) ∧
    path' = String.ofList (pathname ++ '?' :: query') ∧
    List.Forall₂ (SamePart names) (query.splitOn '&') (query'.splitOn '&')

/-- The requests differ only in values, not empty, of the query parameters in the list. -/
def DifferInRedacted (names : List String) (request request' : ClientRequest) : Prop :=
  request' = { request with path := request'.path } ∧ SamePath names request.path request'.path

/-- The parameters between the first question mark of a path and the second. -/
def queryParams (path : String) : URLSearchParams :=
  match split path '?' with
  | _ :: query :: _ => URLSearchParams.new query
  | _ => []

/-- A name has the same values in both queries, or it is listed and its first value in each of
them is not empty. -/
def ValuesHidden (names : List String) (params params' : URLSearchParams) : Prop :=
  ∀ name, params.getAll name = params'.getAll name ∨
    name ∈ names ∧ sensitive params name ∧ sensitive params' name

/-! ## Redacting aligned parameters -/

theorem sensitive_eq {params : URLSearchParams} {name : String} :
    sensitive params name = match (params.getAll name).head? with
      | none => false
      | some value => decide (value ≠ "") := rfl

theorem sensitive_congr {params params' : URLSearchParams} {name : String}
    (h : params.getAll name = params'.getAll name) :
    sensitive params name = sensitive params' name := by
  rw [sensitive_eq, sensitive_eq, h]

theorem sensitive_of_redacted {params : URLSearchParams} {name : String}
    (h : params.getAll name = [STR_REDACTED]) : sensitive params name = true := by
  rw [sensitive_eq, h]
  decide

theorem getAll_ne_nil {params : URLSearchParams} {name : String} (h : sensitive params name) :
    params.getAll name ≠ [] := by
  intro hnil
  rw [sensitive_eq, hnil] at h
  exact absurd h (by decide)

theorem getAll_redactParam (params : URLSearchParams) (name name' : String) :
    (redactParam params name).getAll name' =
      if name' = name ∧ sensitive params name then [STR_REDACTED] else params.getAll name' := by
  unfold redactParam
  by_cases hs : sensitive params name
  · rw [if_pos hs]
    by_cases hname : name' = name
    · rw [if_pos ⟨hname, hs⟩, hname, MultiMap.getAll_set_self]
    · rw [if_neg (fun h => hname h.1), MultiMap.getAll_set_ne hname]
  · rw [if_neg hs, if_neg (fun h => hs h.2)]

theorem sensitive_redactParam (params : URLSearchParams) (name name' : String) :
    sensitive (redactParam params name) name' = sensitive params name' := by
  have hvalues := getAll_redactParam params name name'
  by_cases h : name' = name ∧ sensitive params name
  · rw [if_pos h] at hvalues
    rw [sensitive_of_redacted hvalues, h.1, h.2]
  · rw [if_neg h] at hvalues
    exact sensitive_congr hvalues

theorem getAll_redact (names : List String) (params : URLSearchParams) (name : String) :
    (names.foldl redactParam params).getAll name =
      if name ∈ names ∧ sensitive params name then [STR_REDACTED] else params.getAll name := by
  induction names generalizing params with
  | nil => simp
  | cons n names ih =>
    rw [List.foldl_cons, ih, sensitive_redactParam, getAll_redactParam]
    by_cases hs : sensitive params name
    · by_cases hn : name = n
      · subst hn
        simp [hs]
      · simp [hs, hn]
    · have : ¬ (name = n ∧ sensitive params n) := by
        rintro ⟨rfl, h⟩
        exact hs h
      simp [hs, this]

theorem aligned_redact (names : List String) {params params' : URLSearchParams}
    (h : params.Aligned params')
    (hsame : ∀ name ∈ names, sensitive params name = sensitive params' name) :
    (names.foldl redactParam params).Aligned (names.foldl redactParam params') := by
  induction names generalizing params params' with
  | nil => exact h
  | cons n names ih =>
    rw [List.foldl_cons, List.foldl_cons]
    apply ih
    · unfold redactParam
      rw [← hsame n List.mem_cons_self]
      split
      · rename_i hs
        exact h.set (getAll_ne_nil hs) (getAll_ne_nil (hsame n List.mem_cons_self ▸ hs)) _
      · exact h
    · intro name hname
      rw [sensitive_redactParam, sensitive_redactParam]
      exact hsame name (List.mem_cons_of_mem _ hname)

theorem redact_eq_iff (names : List String) {params params' : URLSearchParams}
    (h : params.Aligned params') :
    names.foldl redactParam params = names.foldl redactParam params' ↔
      ValuesHidden names params params' := by
  constructor
  · intro heq name
    have hvalues : (names.foldl redactParam params).getAll name =
        (names.foldl redactParam params').getAll name := by rw [heq]
    rw [getAll_redact, getAll_redact] at hvalues
    by_cases hl : name ∈ names ∧ sensitive params name
    · by_cases hr : name ∈ names ∧ sensitive params' name
      · exact Or.inr ⟨hl.1, hl.2, hr.2⟩
      · rw [if_pos hl, if_neg hr] at hvalues
        exact absurd ⟨hl.1, sensitive_of_redacted hvalues.symm⟩ hr
    · by_cases hr : name ∈ names ∧ sensitive params' name
      · rw [if_neg hl, if_pos hr] at hvalues
        exact absurd ⟨hr.1, sensitive_of_redacted hvalues⟩ hl
      · rw [if_neg hl, if_neg hr] at hvalues
        exact Or.inl hvalues
  · intro hhidden
    have hsame (name : String) : sensitive params name = sensitive params' name := by
      rcases hhidden name with hvalues | ⟨-, hl, hr⟩
      · exact sensitive_congr hvalues
      · rw [hl, hr]
    apply (aligned_redact names h fun name _ => hsame name).ext
    intro name
    rw [getAll_redact, getAll_redact, ← hsame]
    rcases hhidden name with hvalues | ⟨hname, hl, -⟩
    · rw [hvalues]
    · rw [if_pos ⟨hname, hl⟩, if_pos ⟨hname, hl⟩]

/-! ## The part of a query that is read -/

/-- The parts up to the next question mark, where the query is cut. -/
def readParts : List (List Char) → List (List Char)
  | [] => []
  | part :: parts =>
    if '?' ∈ part then [part.takeWhile (· ≠ '?')] else part :: readParts parts

theorem readParts_modifyHead {c : Char} (hc : c ≠ '?') (parts : List (List Char)) :
    readParts (parts.modifyHead (List.cons c)) = (readParts parts).modifyHead (List.cons c) := by
  rcases parts with _ | ⟨part, parts⟩
  · rfl
  · rw [List.modifyHead_cons, readParts, readParts]
    by_cases h : '?' ∈ part
    · rw [if_pos h, if_pos (List.mem_cons_of_mem _ h), List.takeWhile_cons_of_pos (by simpa using hc),
        List.modifyHead_cons]
    · have hcons : '?' ∉ c :: part := by
        rw [List.mem_cons, not_or]
        exact ⟨hc.symm, h⟩
      rw [if_neg h, if_neg hcons, List.modifyHead_cons]

theorem splitOn_takeWhile (query : List Char) :
    (query.takeWhile (· ≠ '?')).splitOn '&' = readParts (query.splitOn '&') := by
  induction query with
  | nil => rfl
  | cons c query ih =>
    by_cases hq : c = '?'
    · subst hq
      obtain ⟨part, parts, hparts⟩ := List.exists_cons_of_ne_nil (List.splitOn_ne_nil '&' query)
      rw [List.takeWhile_cons_of_neg (by decide), List.splitOn_cons_eq_if_modifyHead,
        if_neg (by decide), hparts, List.modifyHead_cons, readParts, if_pos List.mem_cons_self,
        List.takeWhile_cons_of_neg (by decide)]
      rfl
    · rw [List.takeWhile_cons_of_pos (by simpa using hq), List.splitOn_cons_eq_if_modifyHead,
        List.splitOn_cons_eq_if_modifyHead, ih]
      by_cases ha : (c == '&') = true
      · rw [if_pos ha, if_pos ha, readParts, if_neg List.not_mem_nil]
      · rw [if_neg ha, if_neg ha, readParts_modifyHead hq]

theorem head_splitOn (query : List Char) (separator : Char) :
    ∃ rest, query.splitOn separator = query.takeWhile (· ≠ separator) :: rest := by
  induction query with
  | nil => exact ⟨[], rfl⟩
  | cons c query ih =>
    rw [List.splitOn_cons_eq_if_modifyHead]
    by_cases hc : c = separator
    · rw [if_pos (by simpa using hc), List.takeWhile_cons_of_neg (by simpa using hc)]
      exact ⟨_, rfl⟩
    · obtain ⟨rest, hrest⟩ := ih
      rw [if_neg (by simpa using hc), List.takeWhile_cons_of_pos (by simpa using hc), hrest]
      exact ⟨rest, rfl⟩

theorem split_path {pathname : List Char} (h : '?' ∉ pathname) (query : List Char) :
    ∃ rest, split (String.ofList (pathname ++ '?' :: query)) '?' =
      String.ofList pathname :: String.ofList (query.takeWhile (· ≠ '?')) :: rest := by
  obtain ⟨rest, hrest⟩ := head_splitOn query '?'
  unfold split
  rw [String.toList_ofList, List.splitOn_append_cons_self_of_not_mem h, hrest]
  exact ⟨_, rfl⟩

theorem new_takeWhile (query : List Char) :
    URLSearchParams.new (String.ofList (query.takeWhile (· ≠ '?'))) =
      parseQuery (query.takeWhile (· ≠ '?')) := by
  unfold URLSearchParams.new
  rw [String.toList_ofList]
  split
  · rename_i rest hrest
    have hmem : '?' ∈ query.takeWhile (· ≠ '?') := hrest ▸ List.mem_cons_self
    exact absurd (List.mem_takeWhile_imp hmem) (by decide)
  · rfl

theorem queryParams_eq {pathname : List Char} (h : '?' ∉ pathname) (query : List Char) :
    queryParams (String.ofList (pathname ++ '?' :: query)) =
      parseQuery (query.takeWhile (· ≠ '?')) := by
  obtain ⟨rest, hrest⟩ := split_path h query
  unfold queryParams
  rw [hrest]
  exact new_takeWhile query

/-! ## Queries that differ in redacted values are aligned -/

def paramsOf (parts : List (List Char)) : URLSearchParams :=
  (parts.filter (· ≠ [])).map parseParam

theorem paramsOf_cons {part : List Char} (h : part ≠ []) (parts : List (List Char)) :
    paramsOf (part :: parts) = parseParam part :: paramsOf parts := by
  unfold paramsOf
  rw [List.filter_cons_of_pos (by simpa using h), List.map_cons]

theorem parseParam_fst {name : List Char} (h : '=' ∉ name) (value : List Char) :
    (parseParam (name ++ '=' :: value)).1 = decodeComponent name := by
  unfold parseParam
  rw [List.takeWhile_append_of_pos (fun c hc => by simpa using fun heq : c = '=' => h (heq ▸ hc)),
    List.takeWhile_cons_of_neg (by decide), List.append_nil]

theorem readParts_value {name : List Char} (h : '?' ∉ name) (value : List Char)
    (parts : List (List Char)) :
    ∃ value' parts', readParts ((name ++ '=' :: value) :: parts) = (name ++ '=' :: value') :: parts' ∧
      (parts' = [] ∨ parts' = readParts parts) := by
  rw [readParts]
  by_cases hv : '?' ∈ value
  · rw [if_pos (List.mem_append_right _ (List.mem_cons_of_mem _ hv)),
      List.takeWhile_append_of_pos (fun c hc => by simpa using fun heq : c = '?' => h (heq ▸ hc)),
      List.takeWhile_cons_of_pos (by decide)]
    exact ⟨_, [], rfl, Or.inl rfl⟩
  · have hpart : '?' ∉ name ++ '=' :: value := by
      simp [h, hv]
    rw [if_neg hpart]
    exact ⟨value, _, rfl, Or.inr rfl⟩

theorem readParts_name {name : List Char} (h : '?' ∈ name) (value : List Char)
    (parts : List (List Char)) :
    readParts ((name ++ '=' :: value) :: parts) = [name.takeWhile (· ≠ '?')] := by
  have hshort : ¬ (name.takeWhile (· ≠ '?')).length = name.length := by
    intro hlen
    have hself := (List.takeWhile_prefix (· ≠ '?')).eq_of_length hlen
    have := List.takeWhile_eq_self_iff.mp hself '?' h
    exact absurd this (by decide)
  rw [readParts, if_pos (List.mem_append_left _ h), List.takeWhile_append, if_neg hshort]

theorem aligned_parts {names : List String} {parts parts' : List (List Char)}
    (h : List.Forall₂ (SamePart names) parts parts') :
    (paramsOf (readParts parts)).Aligned (paramsOf (readParts parts')) := by
  induction h with
  | nil => trivial
  | @cons part part' parts parts' hpart hparts ih =>
    rcases hpart with rfl | ⟨name, value, value', rfl, rfl, heq, -, -, -⟩
    · rw [readParts, readParts]
      by_cases hcut : '?' ∈ part
      · rw [if_pos hcut, if_pos hcut]
        exact MultiMap.Aligned.refl _
      · rw [if_neg hcut, if_neg hcut]
        by_cases hempty : part = []
        · subst hempty
          exact ih
        · rw [paramsOf_cons hempty, paramsOf_cons hempty]
          exact ⟨rfl, ih⟩
    · by_cases hcut : '?' ∈ name
      · rw [readParts_name hcut, readParts_name hcut]
        exact MultiMap.Aligned.refl _
      · obtain ⟨w, rest, hread, hrest⟩ := readParts_value hcut value parts
        obtain ⟨w', rest', hread', hrest'⟩ := readParts_value hcut value' parts'
        rw [hread, hread', paramsOf_cons (by simp), paramsOf_cons (by simp)]
        refine ⟨(parseParam_fst heq w).trans (parseParam_fst heq w').symm, ?_⟩
        rcases hrest with rfl | rfl
        · trivial
        · rcases hrest' with rfl | rfl
          · exact MultiMap.Aligned.nil_right _
          · exact ih

/-! ## The URL -/

theorem parseQuery_read (query : List Char) :
    parseQuery (query.takeWhile (· ≠ '?')) = paramsOf (readParts (query.splitOn '&')) := by
  rw [← splitOn_takeWhile]
  rfl

theorem redactedPath_query {pathname : List Char} (h : '?' ∉ pathname) (query : List Char)
    (names : List String) :
    redactedPath (String.ofList (pathname ++ '?' :: query)) names =
      String.ofList pathname ++ "?" ++ (names.foldl redactParam
        (queryParams (String.ofList (pathname ++ '?' :: query)))).toString := by
  obtain ⟨rest, hrest⟩ := split_path h query
  unfold redactedPath queryParams
  rw [hrest]

theorem redactedPath_eq_iff {names : List String} {path path' : String}
    (h : SamePath names path path') :
    redactedPath path names = redactedPath path' names ↔
      ValuesHidden names (queryParams path) (queryParams path') := by
  rcases h with rfl | ⟨pathname, query, query', hmark, rfl, rfl, hparts⟩
  · exact ⟨fun _ _ => Or.inl rfl, fun _ => rfl⟩
  · have haligned := aligned_parts hparts
    rw [← parseQuery_read, ← parseQuery_read, ← queryParams_eq hmark, ← queryParams_eq hmark]
      at haligned
    rw [← redact_eq_iff names haligned, redactedPath_query hmark, redactedPath_query hmark]
    constructor
    · intro heq
      exact URLSearchParams.toString_injective (String.append_right_inj _ |>.mp heq)
    · intro heq
      rw [heq]

theorem samePath_pathOf {names : List String} {request request' : ClientRequest}
    (h : SamePath names request.path request'.path) :
    pathOf request = request.path ∧ pathOf request' = request'.path ∨ request.path = request'.path := by
  rcases h with heq | ⟨pathname, query, query', -, hpath, hpath', -⟩
  · exact Or.inr heq
  · have hne (rest : List Char) : String.ofList (pathname ++ '?' :: rest) ≠ "" := by
      intro hempty
      have := congrArg String.toList hempty
      rw [String.toList_ofList] at this
      simp at this
    unfold pathOf
    rw [if_neg (hpath ▸ hne query), if_neg (hpath' ▸ hne query')]
    exact Or.inl ⟨rfl, rfl⟩

theorem pathOf_eq_iff {names : List String} {request request' : ClientRequest}
    (h : SamePath names request.path request'.path) :
    pathOf request = pathOf request' ↔ request.path = request'.path := by
  rcases samePath_pathOf h with ⟨hl, hr⟩ | heq
  · rw [hl, hr]
  · unfold pathOf
    rw [heq]
    exact ⟨fun _ => rfl, fun _ => rfl⟩

/-- The list that is used when none is configured is the default one. -/
abbrev listed (redactedQueryParams : Option (List String)) : List String :=
  redactedQueryParams.getD DEFAULT_QUERY_STRINGS_TO_REDACT

theorem getAbsoluteUrl_eq_iff {names : Option (List String)} {request request' : ClientRequest}
    (h : DifferInRedacted (listed names) request request') :
    getAbsoluteUrl request names = getAbsoluteUrl request' names ↔
      ValuesHidden (listed names) (queryParams request.path) (queryParams request'.path) := by
  obtain ⟨hrest, hpath⟩ := h
  have hbase : urlBase request' = urlBase request := by
    rw [hrest]
    rfl
  unfold getAbsoluteUrl
  rw [hbase, String.append_right_inj, ← redactedPath_eq_iff hpath]
  rcases samePath_pathOf hpath with ⟨hl, hr⟩ | heq
  · rw [hl, hr]
  · unfold pathOf
    rw [heq]
    exact ⟨fun _ => rfl, fun _ => rfl⟩

/-! ## The attributes -/

theorem target_of_old (request : ClientRequest) (names : Option (List String)) :
    (getOutgoingRequestAttributesOldSemconv request names).get? "http.target" =
      some (.string (pathOf request)) := by
  unfold getOutgoingRequestAttributesOldSemconv
  simp [OrderedMap.get?_set]

theorem get?_onResponseOld {key : String} (hlength : key ≠ "http.response_content_length")
    (hplain : key ≠ "http.response_content_length_uncompressed") (request : ClientRequest)
    (response : ClientResponse) (names : Option (List String)) :
    (getOutgoingRequestAttributesOnResponseOldSemconv request response names).get? key =
      if key = "net.transport" then some (.string "ip_tcp")
      else if key = "http.flavor" then some (.string response.httpVersion)
      else if key = "http.status_text" then some (.string (response.statusMessage.getD ""))
      else if key = "http.status_code" then some (.ofNat response.statusCode)
      else if key = "net.peer.port" then some (.ofNat response.socket.remotePort)
      else if key = "net.peer.ip" then some (.ofOption response.socket.remoteAddress)
      else if key = "http.url" then some (.string (getAbsoluteUrl request names))
      else none := by
  unfold getOutgoingRequestAttributesOnResponseOldSemconv
  simp only
  split
  · simp only [OrderedMap.get?_set, OrderedMap.get?_empty]
  · split
    · rw [OrderedMap.get?_set_ne hlength]
      simp only [OrderedMap.get?_set, OrderedMap.get?_empty]
    · rw [OrderedMap.get?_set_ne hplain]
      simp only [OrderedMap.get?_set, OrderedMap.get?_empty]

theorem get?_onResponseNew (request : ClientRequest) (response : ClientResponse)
    (names : Option (List String)) (key : String) :
    (getOutgoingRequestAttributesOnResponseNewSemconv request response names).get? key =
      if key = "network.protocol.version" then some (.string response.httpVersion)
      else if key = "network.peer.port" then some (.ofNat response.socket.remotePort)
      else if key = "network.peer.address" then some (.ofOption response.socket.remoteAddress)
      else if key = "http.response.status_code" then some (.ofNat response.statusCode)
      else if key = "url.full" then some (.string (getAbsoluteUrl request names))
      else none := by
  unfold getOutgoingRequestAttributesOnResponseNewSemconv
  simp only [OrderedMap.get?_set, OrderedMap.get?_empty]

theorem string_of_get? {attributes attributes' : Attributes} {key text text' : String}
    (h : attributes.get? key = some (.string text))
    (h' : attributes'.get? key = some (.string text')) (heq : attributes = attributes') :
    text = text' := by
  rw [heq, h'] at h
  exact (AttributeValue.string.inj (Option.some.inj h)).symm

theorem onResponse_eq_iff {names : Option (List String)} {request request' : ClientRequest}
    (response : ClientResponse) (mode : SemconvStability) :
    getOutgoingRequestAttributesOnResponse request response mode names =
        getOutgoingRequestAttributesOnResponse request' response mode names ↔
      getAbsoluteUrl request names = getAbsoluteUrl request' names := by
  have hold (r : ClientRequest) :
      (getOutgoingRequestAttributesOnResponseOldSemconv r response names).get? "http.url" =
        some (.string (getAbsoluteUrl r names)) := by
    rw [get?_onResponseOld (by decide) (by decide)]
    rfl
  have hnew (r : ClientRequest) :
      (getOutgoingRequestAttributesOnResponseNewSemconv r response names).get? "url.full" =
        some (.string (getAbsoluteUrl r names)) := by
    rw [get?_onResponseNew]
    rfl
  have hboth (r : ClientRequest) :
      (assign (getOutgoingRequestAttributesOnResponseOldSemconv r response names)
        (getOutgoingRequestAttributesOnResponseNewSemconv r response names)).get? "http.url" =
        some (.string (getAbsoluteUrl r names)) := by
    rw [get?_assign, get?_onResponseNew, hold]
    rfl
  constructor
  · intro h
    unfold getOutgoingRequestAttributesOnResponse at h
    rcases mode with _ | _ | _
    · exact string_of_get? (hnew request) (hnew request') h
    · exact string_of_get? (hold request) (hold request') h
    · exact string_of_get? (hboth request) (hboth request') h
  · intro h
    unfold getOutgoingRequestAttributesOnResponse getOutgoingRequestAttributesOnResponseOldSemconv
      getOutgoingRequestAttributesOnResponseNewSemconv
    rw [h]

theorem outgoing_eq_iff {env : Platform} {names : Option (List String)}
    {request request' : ClientRequest} (h : DifferInRedacted (listed names) request request')
    (mode : SemconvStability) (detection : Bool) :
    getOutgoingRequestAttributes env request mode names detection =
        getOutgoingRequestAttributes env request' mode names detection ↔
      (mode = .stable ∨ request.path = request'.path) ∧
        getAbsoluteUrl request names = getAbsoluteUrl request' names := by
  have hnew (r : ClientRequest) :
      (getOutgoingRequestAttributesNewSemconv env r detection names).get? "url.full" =
        some (.string (getAbsoluteUrl r names)) := by
    rw [get?_new (by decide) (by decide)]
    rfl
  have htarget (r : ClientRequest) :
      (assign (getOutgoingRequestAttributesOldSemconv r names)
        (getOutgoingRequestAttributesNewSemconv env r detection names)).get? "http.target" =
        some (.string (pathOf r)) := by
    rw [get?_assign, get?_new (by decide) (by decide), target_of_old]
    rfl
  have hpath : pathOf request = pathOf request' → request = request' := by
    intro heq
    rw [h.1, ← (pathOf_eq_iff h.2).mp heq]
  constructor
  · intro heq
    unfold getOutgoingRequestAttributes at heq
    rcases mode with _ | _ | _
    · exact ⟨Or.inl rfl, string_of_get? (hnew request) (hnew request') heq⟩
    · have := hpath (string_of_get? (target_of_old request names) (target_of_old request' names) heq)
      exact ⟨Or.inr (congrArg _ this), congrArg (getAbsoluteUrl · names) this⟩
    · have := hpath (string_of_get? (htarget request) (htarget request') heq)
      exact ⟨Or.inr (congrArg _ this), congrArg (getAbsoluteUrl · names) this⟩
  · rintro ⟨rfl | heq, hurl⟩
    · unfold getOutgoingRequestAttributes getOutgoingRequestAttributesNewSemconv
      rw [h.1] at hurl ⊢
      simp only [hurl]
    · have : request = request' := by
        rw [h.1, ← heq]
      rw [this]

/-- **What the attributes hide.** Of two requests that differ in redacted values, the attributes
on the response are the same exactly when the values are hidden in the URL. The attributes of the
request are the same when, besides, the mode is the stable one or the paths do not differ. -/
theorem redacted_values_hidden_iff (env : Platform) (redactedQueryParams : Option (List String))
    (request request' : ClientRequest) (mode : SemconvStability) (detection : Bool)
    (h : DifferInRedacted (listed redactedQueryParams) request request') :
    (getOutgoingRequestAttributes env request mode redactedQueryParams detection =
        getOutgoingRequestAttributes env request' mode redactedQueryParams detection ↔
      (mode = .stable ∨ request.path = request'.path) ∧
        ValuesHidden (listed redactedQueryParams) (queryParams request.path)
          (queryParams request'.path)) ∧
    ∀ response, (getOutgoingRequestAttributesOnResponse request response mode redactedQueryParams =
        getOutgoingRequestAttributesOnResponse request' response mode redactedQueryParams ↔
      ValuesHidden (listed redactedQueryParams) (queryParams request.path)
        (queryParams request'.path)) := by
  constructor
  · rw [outgoing_eq_iff h, getAbsoluteUrl_eq_iff h]
  · intro response
    rw [onResponse_eq_iff, getAbsoluteUrl_eq_iff h]

example : redactedPath "/p?x=%41+&sig=a&sig=b?c" ["sig"] = "/p?x=A+&sig=REDACTED" := by decide

def requestTo (path : String) : ClientRequest where
  method := some "GET"
  path := path
  host := "example.com"
  protocol := some "https:"
  remotePort := some 443
  authorization := none
  userAgent := none
  hostHeader := some (.string "example.com")

def outgoingPlatform : Platform where
  forwardedParse _ := none
  newUrl _ _ := none
  toUpperCase s := String.ofList (s.toList.map Char.toUpper)
  toLowerCase s := String.ofList (s.toList.map Char.toLower)

theorem samePart_sig {value value' : List Char} (h : value ≠ []) (h' : value' ≠ []) :
    SamePart (listed none) ("sig=".toList ++ value) ("sig=".toList ++ value') :=
  Or.inr ⟨"sig".toList, value, value', rfl, rfl, by decide, by decide, h, h'⟩

theorem differ_of_parts (query query' : String) {parts parts' : List (List Char)}
    (hquery : query.toList.splitOn '&' = parts) (hquery' : query'.toList.splitOn '&' = parts')
    (h : List.Forall₂ (SamePart (listed none)) parts parts') :
    DifferInRedacted (listed none) (requestTo ("/p?" ++ query)) (requestTo ("/p?" ++ query')) := by
  have hpath (q : String) : "/p?" ++ q = String.ofList ("/p".toList ++ '?' :: q.toList) := by
    apply String.toList_inj.mp
    rw [String.toList_append, String.toList_ofList]
    simp
  refine ⟨rfl, Or.inr ⟨"/p".toList, query.toList, query'.toList, by decide, hpath query,
    hpath query', ?_⟩⟩
  rw [hquery, hquery']
  exact h

theorem signatures_differ :
    DifferInRedacted (listed none) (requestTo "/p?sig=a&x=1") (requestTo "/p?sig=b&x=1") := by
  have hparts : List.Forall₂ (SamePart (listed none)) ["sig=".toList ++ ['a'], "x=1".toList]
      ["sig=".toList ++ ['b'], "x=1".toList] :=
    .cons (samePart_sig (by decide) (by decide)) (.cons (Or.inl rfl) .nil)
  exact differ_of_parts "sig=a&x=1" "sig=b&x=1" (by decide) (by decide) hparts

theorem signature_hidden :
    getOutgoingRequestAttributes outgoingPlatform (requestTo "/p?sig=a&x=1") .stable none false =
      getOutgoingRequestAttributes outgoingPlatform (requestTo "/p?sig=b&x=1") .stable none false := by
  have hhidden : ValuesHidden (listed none) (queryParams (requestTo "/p?sig=a&x=1").path)
      (queryParams (requestTo "/p?sig=b&x=1").path) := by
    intro name
    have ha : queryParams (requestTo "/p?sig=a&x=1").path = [("sig", "a"), ("x", "1")] := by decide
    have hb : queryParams (requestTo "/p?sig=b&x=1").path = [("sig", "b"), ("x", "1")] := by decide
    by_cases hname : "sig" = name
    · subst hname
      exact Or.inr (by decide)
    · left
      rw [ha, hb, MultiMap.getAll_cons_ne (e := ("sig", "a")) hname,
        MultiMap.getAll_cons_ne (e := ("sig", "b")) hname]
  exact (redacted_values_hidden_iff outgoingPlatform none _ _ .stable false signatures_differ).1.mpr
    ⟨Or.inl rfl, hhidden⟩

/-- The old mode shows the path as it is, and in the stable mode a first value that is empty shows
the later ones. -/
theorem signature_leaks :
    DifferInRedacted (listed none) (requestTo "/p?sig=a") (requestTo "/p?sig=b") ∧
      getOutgoingRequestAttributes outgoingPlatform (requestTo "/p?sig=a") .old none false ≠
        getOutgoingRequestAttributes outgoingPlatform (requestTo "/p?sig=b") .old none false ∧
      DifferInRedacted (listed none) (requestTo "/p?sig=&sig=a") (requestTo "/p?sig=&sig=b") ∧
      getOutgoingRequestAttributes outgoingPlatform (requestTo "/p?sig=&sig=a") .stable none false ≠
        getOutgoingRequestAttributes outgoingPlatform (requestTo "/p?sig=&sig=b") .stable none
          false := by
  have hsig : SamePart (listed none) ("sig=".toList ++ ['a']) ("sig=".toList ++ ['b']) :=
    samePart_sig (by decide) (by decide)
  refine ⟨?_, by decide, ?_, by decide⟩
  · exact differ_of_parts "sig=a" "sig=b" (by decide) (by decide) (.cons hsig .nil)
  · have hparts : List.Forall₂ (SamePart (listed none)) ["sig=".toList, "sig=".toList ++ ['a']]
        ["sig=".toList, "sig=".toList ++ ['b']] := .cons (Or.inl rfl) (.cons hsig .nil)
    exact differ_of_parts "sig=&sig=a" "sig=&sig=b" (by decide) (by decide) hparts

end SplunkOtel.Http
