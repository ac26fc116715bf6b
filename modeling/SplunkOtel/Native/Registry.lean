import SplunkOtel.Js.Integer
import SplunkOtel.Js.Utf16
import SplunkOtel.Lib.CString
import SplunkOtel.Lib.Except
import SplunkOtel.Lib.Simulation
import SplunkOtel.Native.Profiler

/-!
# The registry of profilers (`src/native_ext/profiling.cpp`)

Profilers are made and found by name, and called by handle. A write outside of a buffer and an
overflow of the counter of handles have no result.
-/

open Lib Lib.CString Lib.Simulation SplunkOtel.Js

namespace SplunkOtel.Native.Registry

/-! ## Options -/

/-- The argument of JavaScript. A property of another type counts as one that is not there. -/
structure CpuProfilerOptions where
  name : Option CodeUnits
  samplingIntervalMicroseconds : Option Number
  recordDebugInfo : Option Bool := none
  onlyFilteredStacktraces : Option Bool := none
  maxSampleCutoffDelayMicroseconds : Option Number := none

def DEFAULT_MAX_SAMPLE_CUTOFF_DELAY_NANOS : ℤ := 500 * 1000 * 1000

/-- `sizeof(name)`, of the options and of a profiler. -/
def nameSize : ℕ := 64

structure NamedOptions where
  options : ProfilingOptions
  name : List UInt8
  nameLength : ℕ

/-- `Length()` counts the units. -/
def checkName : Option CodeUnits → Except String CodeUnits
  | none => .error "CpuProfiler: name required."
  | some name =>
    if name.length = 0 then .error "CpuProfiler: name can't be empty."
    else if name.length > nameSize then .error "StartProfiling: name does not fit 64 bytes."
    else .ok name

def parseOptions (argument : Option CpuProfilerOptions) :
    Except String (CodeUnits × ProfilingOptions) :=
  match argument with
  | none => .error "CpuProfiler: invalid argument."
  | some options => do
    let name ← checkName options.name
    match options.samplingIntervalMicroseconds with
    | none => .error "CpuProfiler: samplingIntervalMicroseconds is not a number."
    | some interval =>
      return (name, {
        samplingIntervalMicros := toInt32 interval
        recordDebugInfo := options.recordDebugInfo.getD false
        onlyFilteredStacktraces := options.onlyFilteredStacktraces.getD false
        maxSampleCutoffDelayNanos :=
          match options.maxSampleCutoffDelayMicroseconds with
          | none => DEFAULT_MAX_SAMPLE_CUTOFF_DELAY_NANOS
          -- The product wraps around at 64 bits.
          | some delay => (toInt64 delay * 1000).bmod (2 ^ 64) })

section

variable (unpaired : UInt16 → List UInt8)

/-- The name is copied last, after all checks. -/
def createCpuProfilingOptions (argument : Option CpuProfilerOptions) :
    Option (Except String NamedOptions) :=
  match parseOptions argument with
  | .error message => some (.error message)
  | .ok (profilerName, options) => do
    let profilerNameUtf8 := utf8Value unpaired profilerName
    let name ← memcpy (List.replicate nameSize 0) profilerNameUtf8
    return .ok { options, name, nameLength := profilerNameUtf8.length }

/-! ## The registry -/

structure Registered where
  handle : ℤ
  name : List UInt8
  profiling : Profiling

structure ProfilingGlobals where
  profilers : List Registered
  handle : ℤ

def init : ProfilingGlobals where
  profilers := []
  handle := 0

/-- The largest `int32_t`. -/
def maxHandle : ℤ := 0x7FFFFFFF

/-- The place in `profilers`. -/
def getProfilingByHandle (globals : ProfilingGlobals) (handle : ℤ) : Option ℕ :=
  globals.profilers.findIdx? fun profiling => profiling.handle = handle

def getProfilingByName (globals : ProfilingGlobals) (name : List UInt8) (nameLength : ℕ) :
    Option ℕ :=
  globals.profilers.findIdx? fun profiling =>
    let len := (text profiling.name).length
    len = nameLength ∧ profiling.name.take len = name.take len

def change (globals : ProfilingGlobals) (i : ℕ) (f : Profiling → Profiling) : ProfilingGlobals :=
  { globals with
    profilers := globals.profilers.modify i fun p => { p with profiling := f p.profiling } }

/-- Whether there is memory for the profiler, and for its first activation period. -/
structure Memory where
  profiling : Bool
  activationPeriod : Bool

/-- The profiler that was registered, if any. -/
def setupProfiling (memory : Memory) (options : NamedOptions) (globals : ProfilingGlobals) :
    Option (Option Registered × ProfilingGlobals) :=
  if ¬ memory.profiling then some (none, globals)
  else if globals.handle ≥ maxHandle then none
  else do
    let name ← snprintf (List.replicate nameSize 0) nameSize (upTo options.nameLength options.name)
    let profiling : Registered :=
      { handle := globals.handle, name, profiling := Native.setupProfiling options.options }
    let handle := globals.handle + 1
    if ¬ memory.activationPeriod then return (none, { globals with handle })
    return (some profiling, { profilers := globals.profilers ++ [profiling], handle })

inductive Answer where
  | handle (handle : ℤ)
  | threw (message : String)
  | other
deriving DecidableEq

/-- What `GetOrCreateCpuProfiler` and `StartProfiling` have in common: `reuse` is what happens to a
profiler that is there, and `begin` to a new one. -/
def callByName (reuse : ProfilingOptions → Profiling → Except String Profiling)
    (begin : Profiling → Profiling) (unable : String) (argument : Option CpuProfilerOptions)
    (memory : Memory) (globals : ProfilingGlobals) : Option (ProfilingGlobals × Answer) := do
  match ← createCpuProfilingOptions unpaired argument with
  | .error message => return (globals, .threw message)
  | .ok opts =>
    match (getProfilingByName globals opts.name opts.nameLength).bind fun i =>
      (globals.profilers[i]?).map (i, ·) with
    | some (i, p) =>
      match reuse opts.options p.profiling with
      | .error message => return (globals, .threw message)
      | .ok profiling => return (change globals i fun _ => profiling, .handle p.handle)
    | none =>
      match ← setupProfiling memory opts globals with
      | (none, globals) => return (globals, .threw unable)
      | (some p, globals) =>
        return (change globals (globals.profilers.length - 1) begin, .handle p.handle)

def getOrCreateCpuProfiler : Option CpuProfilerOptions → Memory → ProfilingGlobals →
    Option (ProfilingGlobals × Answer) :=
  callByName unpaired (fun options p => .ok (Native.getOrCreateCpuProfiler p options)) id
    "GetOrCreateCpuProfiler: unable to allocate profiler."

def startProfiling (readings : StartReadings) : Option CpuProfilerOptions → Memory →
    ProfilingGlobals → Option (ProfilingGlobals × Answer) :=
  callByName unpaired (fun options p => Native.startProfiling p options readings)
    (beginProfile · readings) "StartProfiling: unable to allocate profiler."

/-! ## Runs -/

inductive Call where
  | getOrCreateCpuProfiler (argument : Option CpuProfilerOptions) (memory : Memory)
  | startProfiling (argument : Option CpuProfilerOptions) (memory : Memory)
      (readings : StartReadings)
  /-- Another call, on the profiler with the handle. -/
  | onHandle (handle : ℤ) (event : Event)
  /-- `EnterContext` and `ExitContext` go to all profilers. -/
  | onAll (event : Event)

def step (globals : ProfilingGlobals) : Call → Option (ProfilingGlobals × Answer)
  | .getOrCreateCpuProfiler argument memory =>
    getOrCreateCpuProfiler unpaired argument memory globals
  | .startProfiling argument memory readings =>
    startProfiling unpaired readings argument memory globals
  | .onHandle handle event =>
    match getProfilingByHandle globals handle with
    | none => some (globals, .other)
    | some i => some (change globals i (apply · event), .other)
  | .onAll event =>
    some ({ globals with
      profilers := globals.profilers.map fun p => { p with profiling := apply p.profiling event } },
      .other)

end

/-- The name that a call gets past the checks. -/
def acceptedName : Call → Option CodeUnits
  | .getOrCreateCpuProfiler argument _ => (parseOptions argument).toOption.map Prod.fst
  | .startProfiling argument _ _ => (parseOptions argument).toOption.map Prod.fst
  | _ => none

def Accepted (name : CodeUnits) : Prop := name ≠ [] ∧ name.length ≤ nameSize

/-- The calls of a run that got a handle: it is the same one just for the same name. -/
def UniqueByName (calls : List (Call × Answer)) : Prop :=
  ∀ p ∈ calls, ∀ q ∈ calls, ∀ name ∈ acceptedName p.1, ∀ other ∈ acceptedName q.1,
    ∀ h h', p.2 = .handle h → q.2 = .handle h' → (h = h' ↔ name = other)

/-! ## What a name becomes -/

/-- With its terminator, the name fits into the buffer. -/
def Fits (bytes : List UInt8) : Prop := bytes.length < nameSize ∧ 0 ∉ bytes

/-- What a new profiler keeps of a name. -/
def stored (bytes : List UInt8) : List UInt8 := (text bytes).take (nameSize - 1)

theorem stored_eq_iff (bytes : List UInt8) : stored bytes = bytes ↔ Fits bytes := by
  unfold stored Fits
  constructor
  · intro h
    constructor
    · have hlength := congrArg List.length h
      rw [List.length_take] at hlength
      have : nameSize = 64 := rfl
      omega
    · intro hmem
      rw [← h] at hmem
      exact not_mem_text bytes (List.mem_of_mem_take hmem)
  · rintro ⟨hlength, hzero⟩
    have htext : text bytes = bytes := by
      rw [text, List.takeWhile_eq_self_iff]
      intro b hb
      simpa using ne_of_mem_of_not_mem hb hzero
    rw [htext, List.take_of_length_le (by omega)]

theorem accepted_of_parse {argument : Option CpuProfilerOptions} {name : CodeUnits}
    {options : ProfilingOptions} (h : parseOptions argument = .ok (name, options)) :
    Accepted name := by
  unfold parseOptions at h
  split at h
  · cases h
  · rename_i given
    obtain ⟨checked, hchecked, h⟩ := bind_eq_ok.mp h
    have hname : checked = name := by
      split at h
      · cases h
      · cases h
        rfl
    rw [hname] at hchecked
    unfold checkName at hchecked
    split at hchecked
    · cases hchecked
    · split at hchecked
      · cases hchecked
      · split at hchecked
        · cases hchecked
        · rename_i hempty hlong
          cases hchecked
          exact ⟨by simpa using hempty, not_lt.mp hlong⟩

/-- The options hold the bytes of the name. -/
def Holds (opts : NamedOptions) (bytes : List UInt8) : Prop :=
  opts.nameLength = bytes.length ∧ ∃ rest, opts.name = bytes ++ rest

theorem getProfilingByName_eq {opts : NamedOptions} {bytes : List UInt8} (h : Holds opts bytes)
    (globals : ProfilingGlobals) :
    getProfilingByName globals opts.name opts.nameLength =
      globals.profilers.findIdx? fun p => text p.name = bytes := by
  obtain ⟨hlength, rest, hname⟩ := h
  unfold getProfilingByName
  congr 1
  funext p
  have hbefore : p.name.take (text p.name).length = text p.name :=
    (List.prefix_iff_eq_take.mp (List.takeWhile_prefix _)).symm
  rw [hlength, hname, decide_eq_decide]
  simp only [hbefore]
  constructor
  · rintro ⟨hlen, heq⟩
    rwa [hlen, List.take_left] at heq
  · intro heq
    rw [heq, List.take_left]
    exact ⟨rfl, rfl⟩

/-! ## One call -/

/-- The handles with the names that they are found by. -/
def entries (globals : ProfilingGlobals) : List (ℤ × List UInt8) :=
  globals.profilers.map fun p => (p.handle, text p.name)

theorem entries_change (globals : ProfilingGlobals) (i : ℕ) (f : Profiling → Profiling) :
    entries (change globals i f) = entries globals := by
  unfold entries change
  apply List.ext_getElem?
  intro j
  rw [List.getElem?_map, List.getElem?_map, List.getElem?_modify]
  cases globals.profilers[j]? with
  | none => rfl
  | some p =>
    simp only [Option.map_some]
    split
    · rfl
    · rfl

/-- What a call by name comes to. A `sure` one does not fail. -/
inductive Outcome (bytes : List UInt8) (sure : Prop) (globals : ProfilingGlobals) :
    ProfilingGlobals → Answer → Prop where
  | failed {after : ProfilingGlobals} (message : String) (h : ¬ sure)
      (hentries : entries after = entries globals) (hhandle : globals.handle ≤ after.handle) :
      Outcome bytes sure globals after (.threw message)
  | found {after : ProfilingGlobals} {handle : ℤ} (hfound : (handle, bytes) ∈ entries globals)
      (hentries : entries after = entries globals) (hhandle : after.handle = globals.handle) :
      Outcome bytes sure globals after (.handle handle)
  | made {after : ProfilingGlobals} (hnew : ∀ e ∈ entries globals, e.2 ≠ bytes)
      (hentries : entries after = entries globals ++ [(globals.handle, stored bytes)])
      (hhandle : after.handle = globals.handle + 1) :
      Outcome bytes sure globals after (.handle globals.handle)

section Calls

variable {unpaired : UInt16 → List UInt8} {argument : Option CpuProfilerOptions} {name : CodeUnits}
  {options : ProfilingOptions}

theorem exists_createCpuProfilingOptions (h : parseOptions argument = .ok (name, options))
    (hlength : (utf8Value unpaired name).length ≤ nameSize) :
    ∃ opts, createCpuProfilingOptions unpaired argument = some (.ok opts) ∧
      Holds opts (utf8Value unpaired name) := by
  have hroom : (utf8Value unpaired name).length ≤ (List.replicate nameSize (0 : UInt8)).length := by
    rwa [List.length_replicate]
  have hcopy := memcpy_eq hroom
  unfold createCpuProfilingOptions
  rw [h]
  simp only [hcopy, Option.bind_eq_bind, Option.bind_some]
  exact ⟨_, rfl, rfl, _, rfl⟩

theorem exists_setupProfiling {opts : NamedOptions} {bytes : List UInt8} (h : Holds opts bytes)
    (memory : Memory) {globals : ProfilingGlobals} (hroom : globals.handle < maxHandle) :
    ∃ p : Registered, p.handle = globals.handle ∧ text p.name = stored bytes ∧
      setupProfiling memory opts globals =
        if memory.profiling = false then some (none, globals)
        else if memory.activationPeriod = false then
          some (none, { globals with handle := globals.handle + 1 })
        else some (some p, ⟨globals.profilers ++ [p], globals.handle + 1⟩) := by
  obtain ⟨hlength, rest, hname⟩ := h
  have hargument : upTo opts.nameLength opts.name = text bytes := by
    rw [hlength, hname, upTo, List.take_left]
  have hbuffer : nameSize ≤ (List.replicate nameSize (0 : UInt8)).length := by
    rw [List.length_replicate]
  obtain ⟨written, hwritten, -, htext⟩ :=
    exists_snprintf (show 0 < nameSize by decide) hbuffer (not_mem_text bytes)
  refine ⟨⟨globals.handle, written, Native.setupProfiling opts.options⟩, rfl, htext, ?_⟩
  unfold setupProfiling
  rw [hargument, hwritten]
  cases memory.profiling with
  | false => rfl
  | true =>
    simp only [not_true_eq_false, if_false, not_le.mpr hroom]
    cases memory.activationPeriod with
    | false => rfl
    | true => rfl

theorem exists_callByName {reuse : ProfilingOptions → Profiling → Except String Profiling}
    {begin : Profiling → Profiling} {unable : String} {memory : Memory}
    {globals : ProfilingGlobals} (h : parseOptions argument = .ok (name, options))
    (hlength : (utf8Value unpaired name).length ≤ nameSize) (hroom : globals.handle < maxHandle) :
    ∃ after answer,
      callByName unpaired reuse begin unable argument memory globals = some (after, answer) ∧
        Outcome (utf8Value unpaired name)
          (memory = ⟨true, true⟩ ∧ ∀ options p message, reuse options p ≠ .error message)
          globals after answer := by
  obtain ⟨opts, hopts, hholds⟩ := exists_createCpuProfilingOptions h hlength
  unfold callByName
  rw [hopts]
  simp only [Option.bind_eq_bind, Option.bind_some, getProfilingByName_eq hholds]
  cases hfind : globals.profilers.findIdx? (fun p => text p.name = utf8Value unpaired name) with
  | some i =>
    obtain ⟨hi, hname, -⟩ := List.findIdx?_eq_some_iff_getElem.mp hfind
    have hfound : (globals.profilers[i].handle, utf8Value unpaired name) ∈ entries globals := by
      refine List.mem_map.mpr ⟨_, List.getElem_mem hi, ?_⟩
      rw [of_decide_eq_true hname]
    simp only [Option.bind_some, List.getElem?_eq_getElem hi, Option.map_some]
    cases hreuse : reuse opts.options globals.profilers[i].profiling with
    | error message =>
      refine ⟨_, _, rfl, Outcome.failed message ?_ rfl le_rfl⟩
      rintro ⟨-, hnever⟩
      exact hnever _ _ _ hreuse
    | ok profiling =>
      exact ⟨_, _, rfl, Outcome.found hfound (entries_change _ _ _) rfl⟩
  | none =>
    have hnew : ∀ e ∈ entries globals, e.2 ≠ utf8Value unpaired name := by
      intro e he
      obtain ⟨p, hp, rfl⟩ := List.mem_map.mp he
      simpa using List.findIdx?_eq_none_iff.mp hfind p hp
    obtain ⟨p, hhandle, htext, hsetup⟩ := exists_setupProfiling hholds memory hroom
    simp only [Option.bind_none, hsetup]
    by_cases hprofiling : memory.profiling = false
    · simp only [hprofiling, if_true, Option.bind_some]
      refine ⟨_, _, rfl, Outcome.failed unable ?_ rfl le_rfl⟩
      rintro ⟨rfl, -⟩
      cases hprofiling
    · by_cases hperiod : memory.activationPeriod = false
      · simp only [hprofiling, hperiod, if_true]
        refine ⟨_, _, rfl, Outcome.failed unable ?_ rfl (by simp)⟩
        rintro ⟨rfl, -⟩
        cases hperiod
      · simp only [hprofiling, hperiod]
        refine ⟨_, _, rfl, ?_⟩
        rw [hhandle]
        refine Outcome.made hnew ?_ rfl
        rw [entries_change, entries, List.map_append, List.map_singleton, hhandle, htext]
        rfl

end Calls

/-! ## The registry over a run -/

structure Inv (globals : ProfilingGlobals) : Prop where
  fresh : ∀ e ∈ entries globals, e.1 < globals.handle
  handles : ((entries globals).map Prod.fst).Nodup
  names : ((entries globals).map Prod.snd).Nodup

theorem inv_init : Inv init := ⟨nofun, List.nodup_nil, List.nodup_nil⟩

theorem Inv.congr {globals after : ProfilingGlobals} (h : Inv globals)
    (hentries : entries after = entries globals) (hhandle : globals.handle ≤ after.handle) :
    Inv after := by
  refine ⟨?_, ?_, ?_⟩
  · intro e he
    rw [hentries] at he
    exact (h.fresh e he).trans_le hhandle
  · rw [hentries]
    exact h.handles
  · rw [hentries]
    exact h.names

section Invariant

variable {bytes : List UInt8} {sure : Prop} {globals after : ProfilingGlobals} {answer : Answer}

theorem Outcome.inv (ho : Outcome bytes sure globals after answer) (hfits : Fits bytes)
    (h : Inv globals) : Inv after := by
  cases ho with
  | failed _ _ hentries hhandle => exact h.congr hentries hhandle
  | found _ hentries hhandle => exact h.congr hentries hhandle.ge
  | made hnew hentries hhandle =>
    rw [(stored_eq_iff bytes).mpr hfits] at hentries
    refine ⟨?_, ?_, ?_⟩
    · intro e he
      rw [hentries, List.mem_append, List.mem_singleton] at he
      rcases he with he | rfl
      · have := h.fresh e he
        omega
      · simp only
        omega
    · rw [hentries, List.map_append]
      refine h.handles.append (List.nodup_singleton _) ?_
      intro handle hmem hself
      obtain ⟨e, he, rfl⟩ := List.mem_map.mp hmem
      exact (h.fresh e he).ne (List.mem_singleton.mp hself)
    · rw [hentries, List.map_append]
      refine h.names.append (List.nodup_singleton _) ?_
      intro name hmem hself
      obtain ⟨e, he, rfl⟩ := List.mem_map.mp hmem
      exact hnew e he (List.mem_singleton.mp hself)

theorem Outcome.kept (ho : Outcome bytes sure globals after answer) :
    ∀ e ∈ entries globals, e ∈ entries after := by
  intro e he
  cases ho with
  | failed _ _ hentries _ => rwa [hentries]
  | found _ hentries _ => rwa [hentries]
  | made _ hentries _ =>
    rw [hentries]
    exact List.mem_append_left _ he

theorem Outcome.registered (ho : Outcome bytes sure globals after answer) (hfits : Fits bytes)
    {handle : ℤ} (hanswer : answer = .handle handle) : (handle, bytes) ∈ entries after := by
  cases ho with
  | failed _ _ _ _ => cases hanswer
  | found hfound hentries _ =>
    cases hanswer
    rwa [hentries]
  | made _ hentries _ =>
    cases hanswer
    rw [hentries, (stored_eq_iff bytes).mpr hfits]
    exact List.mem_append_right _ (List.mem_singleton_self _)

end Invariant

section Runs

variable (unpaired : UInt16 → List UInt8)

/-- A handle that was answered is registered under the name. -/
def Answered (globals : ProfilingGlobals) (call : Call) (answer : Answer) : Prop :=
  ∀ name ∈ acceptedName call, ∀ handle, answer = .handle handle →
    (handle, utf8Value unpaired name) ∈ entries globals

variable {unpaired} {globals : ProfilingGlobals}

theorem callByName_spec {reuse : ProfilingOptions → Profiling → Except String Profiling}
    {begin : Profiling → Profiling} {unable : String} {argument : Option CpuProfilerOptions}
    {memory : Memory} (h : Inv globals) (hroom : globals.handle < maxHandle)
    (hfits : ∀ name ∈ (parseOptions argument).toOption.map Prod.fst,
      Fits (utf8Value unpaired name)) :
    ∃ after answer,
      callByName unpaired reuse begin unable argument memory globals = some (after, answer) ∧
        Inv after ∧
          (∀ name ∈ (parseOptions argument).toOption.map Prod.fst, ∀ handle,
            answer = .handle handle → (handle, utf8Value unpaired name) ∈ entries after) ∧
          ∀ e ∈ entries globals, e ∈ entries after := by
  cases hparse : parseOptions argument with
  | error message =>
    refine ⟨globals, .threw message, ?_, h, nofun, fun _ he => he⟩
    unfold callByName createCpuProfilingOptions
    rw [hparse]
    rfl
  | ok parsed =>
    obtain ⟨name, options⟩ := parsed
    have hname := hfits name (by rw [hparse]; rfl)
    obtain ⟨after, answer, hcall, houtcome⟩ :=
      exists_callByName hparse hname.1.le hroom
    refine ⟨after, answer, hcall, houtcome.inv hname h, ?_, houtcome.kept⟩
    rintro other hother handle hanswer
    cases hother
    exact houtcome.registered hname hanswer

theorem step_spec (h : Inv globals) (call : Call) (hroom : globals.handle < maxHandle)
    (hfits : ∀ name ∈ acceptedName call, Fits (utf8Value unpaired name)) :
    ∃ after answer, step unpaired globals call = some (after, answer) ∧ Inv after ∧
      Answered unpaired after call answer ∧ ∀ e ∈ entries globals, e ∈ entries after := by
  cases call with
  | getOrCreateCpuProfiler argument memory =>
    unfold step getOrCreateCpuProfiler
    exact callByName_spec h hroom hfits
  | startProfiling argument memory readings =>
    unfold step startProfiling
    exact callByName_spec h hroom hfits
  | onHandle handle event =>
    simp only [step]
    cases getProfilingByHandle globals handle with
    | none => exact ⟨_, _, rfl, h, nofun, fun _ he => he⟩
    | some i =>
      have hentries := entries_change globals i (apply · event)
      refine ⟨_, _, rfl, h.congr hentries le_rfl, nofun, fun e he => ?_⟩
      rwa [hentries]
  | onAll event =>
    have hentries : entries { globals with
        profilers := globals.profilers.map fun p =>
          { p with profiling := apply p.profiling event } } = entries globals := by
      unfold entries
      rw [List.map_map]
      rfl
    refine ⟨_, _, rfl, h.congr hentries le_rfl, nofun, fun e he => ?_⟩
    rwa [hentries]

/-- Names that fit and that UTF-8 tells apart. -/
def Apart (unpaired : UInt16 → List UInt8) (allowed : Set CodeUnits) : Prop :=
  (∀ name ∈ allowed, Accepted name → Fits (utf8Value unpaired name)) ∧
    ∀ name ∈ allowed, Accepted name → ∀ other ∈ allowed, Accepted other →
      utf8Value unpaired name = utf8Value unpaired other → name = other

/-- The counter of handles has not come to its end before any of the calls. -/
def HasRoom (unpaired : UInt16 → List UInt8) (calls : List Call) : Prop :=
  Meets (step unpaired) (fun globals _ => globals.handle < maxHandle) init calls

/-- All writes are inside of the buffers, and the handles tell the names apart. -/
def NamesUnique (unpaired : UInt16 → List UInt8) (calls : List Call) : Prop :=
  ∃ globals answers, run (step unpaired) init calls = some (globals, answers) ∧
    UniqueByName (calls.zip answers)

theorem accepted_of_mem {call : Call} {name : CodeUnits} (h : name ∈ acceptedName call) :
    Accepted name := by
  have hparsed {argument : Option CpuProfilerOptions}
      (h : name ∈ (parseOptions argument).toOption.map Prod.fst) : Accepted name := by
    cases hparse : parseOptions argument with
    | error message =>
      rw [hparse] at h
      cases h
    | ok parsed =>
      rw [hparse] at h
      cases h
      exact accepted_of_parse hparse
  cases call with
  | getOrCreateCpuProfiler argument memory => exact hparsed h
  | startProfiling argument memory readings => exact hparsed h
  | onHandle handle event => cases h
  | onAll event => cases h

theorem namesUnique_of_apart {allowed : Set CodeUnits} (hapart : Apart unpaired allowed)
    {calls : List Call} (hallowed : ∀ call ∈ calls, ∀ name ∈ acceptedName call, name ∈ allowed)
    (hroom : HasRoom unpaired calls) : NamesUnique unpaired calls := by
  obtain ⟨hfits, htold⟩ := hapart
  obtain ⟨globals, answers, hrun, hinv, hanswered, -⟩ :=
    run_gathers (I := Inv) (F := Answered unpaired)
      (fun globals call hI hC => by
        have hcall : ∀ name ∈ acceptedName call, Fits (utf8Value unpaired name) :=
          fun name hname => hfits name (hC.1 name hname) (accepted_of_mem hname)
        obtain ⟨after, answer, hstep, hI', hthis, hkept⟩ := step_spec hI call hC.2 hcall
        refine ⟨after, answer, hstep, hI', hthis, fun call' answer' hold name hname handle heq => ?_⟩
        exact hkept _ (hold name hname handle heq))
      calls init inv_init (hroom.and_mem hallowed)
  refine ⟨globals, answers, hrun, ?_⟩
  intro p hp q hq name hname other hother handle handle' hanswer hanswer'
  have hentry := hanswered p hp name hname handle hanswer
  have hentry' := hanswered q hq other hother handle' hanswer'
  have hcalls {r : Call × Answer} (hr : r ∈ calls.zip answers) : r.1 ∈ calls :=
    (List.of_mem_zip hr).1
  constructor
  · intro hhandle
    have hsame := List.inj_on_of_nodup_map hinv.handles hentry hentry' hhandle
    exact htold name (hallowed _ (hcalls hp) name hname) (accepted_of_mem hname) other
      (hallowed _ (hcalls hq) other hother) (accepted_of_mem hother) (congrArg Prod.snd hsame)
  · rintro rfl
    exact congrArg Prod.fst (List.inj_on_of_nodup_map hinv.names hentry hentry' rfl)

theorem apart_of_strings (unpaired : UInt16 → List UInt8) :
    Apart unpaired {name | ∃ s : String, name = unitsOf s ∧ Fits (encodeText s)} := by
  constructor
  · rintro name ⟨s, rfl, hfits⟩ -
    rwa [utf8Value_unitsOf]
  · rintro name ⟨s, rfl, -⟩ - other ⟨t, rfl, -⟩ - heq
    rw [utf8Value_unitsOf, utf8Value_unitsOf] at heq
    rw [encodeText_injective heq]

/-! ## Two calls -/

/-- A call with this name, where there is memory. -/
def create (name : CodeUnits) : Call :=
  .getOrCreateCpuProfiler (some { name := some name, samplingIntervalMicroseconds := some 1000 })
    ⟨true, true⟩

theorem parse_create {name : CodeUnits} (h : Accepted name) :
    ∃ options, parseOptions
      (some { name := some name, samplingIntervalMicroseconds := some 1000 }) =
        .ok (name, options) := by
  have hchecked : checkName (some name) = .ok name := by
    simp only [checkName]
    rw [if_neg (by simpa using h.1), if_neg (not_lt.mpr h.2)]
  simp only [parseOptions, hchecked]
  exact ⟨_, rfl⟩

theorem acceptedName_create {name : CodeUnits} (h : Accepted name) :
    acceptedName (create name) = some name := by
  obtain ⟨options, hoptions⟩ := parse_create h
  simp only [acceptedName, create, hoptions]
  rfl

theorem step_create_none {name : CodeUnits} (h : Accepted name)
    (hlong : nameSize < (utf8Value unpaired name).length) :
    step unpaired globals (create name) = none := by
  obtain ⟨options, hoptions⟩ := parse_create h
  have hcopy : memcpy (List.replicate nameSize 0) (utf8Value unpaired name) = none := by
    unfold memcpy
    rw [if_neg (by rw [List.length_replicate]; omega)]
  unfold step create getOrCreateCpuProfiler callByName createCpuProfilingOptions
  simp [hoptions, hcopy]

theorem step_create {name : CodeUnits} (h : Accepted name)
    (hlength : (utf8Value unpaired name).length ≤ nameSize) (hroom : globals.handle < maxHandle) :
    ∃ after answer, step unpaired globals (create name) = some (after, answer) ∧
      Outcome (utf8Value unpaired name) True globals after answer := by
  obtain ⟨options, hoptions⟩ := parse_create h
  unfold step create getOrCreateCpuProfiler
  obtain ⟨after, answer, hcall, houtcome⟩ := exists_callByName hoptions hlength hroom
  refine ⟨after, answer, hcall, ?_⟩
  cases houtcome with
  | failed message hnot _ _ => exact absurd ⟨rfl, by simp⟩ hnot
  | found hfound hentries hhandle => exact .found hfound hentries hhandle
  | made hnew hentries hhandle => exact .made hnew hentries hhandle

theorem first_call {name : CodeUnits} (h : Accepted name)
    (hlength : (utf8Value unpaired name).length ≤ nameSize) :
    ∃ first, step unpaired init (create name) = some (first, .handle 0) ∧
      entries first = [(0, stored (utf8Value unpaired name))] ∧ first.handle = 1 := by
  have hroom : init.handle < maxHandle := by decide
  obtain ⟨first, answer, hfirst, houtcome⟩ := step_create h hlength hroom
  cases houtcome with
  | failed _ hnot _ _ => exact absurd trivial hnot
  | found hfound _ _ => cases hfound
  | made _ hentries hhandle => exact ⟨first, hfirst, hentries, hhandle⟩

theorem two_calls {name other : CodeUnits} (hname : Accepted name) (hother : Accepted other)
    (hlength : (utf8Value unpaired name).length ≤ nameSize)
    (hlength' : (utf8Value unpaired other).length ≤ nameSize) :
    HasRoom unpaired [create name, create other] ∧
      ∃ globals h, run (step unpaired) init [create name, create other] =
          some (globals, [.handle 0, .handle h]) ∧
        (h = 0 ↔ stored (utf8Value unpaired name) = utf8Value unpaired other) := by
  obtain ⟨first, hfirst, hentries, hhandle⟩ := first_call hname hlength
  have hroom : first.handle < maxHandle := by
    rw [hhandle]
    decide
  obtain ⟨second, answer, hsecond, houtcome⟩ := step_create hother hlength' hroom
  obtain ⟨h, rfl, hsame⟩ : ∃ h, answer = .handle h ∧
      (h = 0 ↔ stored (utf8Value unpaired name) = utf8Value unpaired other) := by
    cases houtcome with
    | failed _ hnot _ _ => exact absurd trivial hnot
    | found hfound _ _ =>
      rw [hentries, List.mem_singleton, Prod.mk.injEq] at hfound
      exact ⟨_, rfl, iff_of_true hfound.1 hfound.2.symm⟩
    | made hnew _ _ =>
      have hne := hnew _ (hentries ▸ List.mem_singleton_self _)
      refine ⟨_, rfl, iff_of_false ?_ hne⟩
      rw [hhandle]
      decide
  constructor
  · unfold HasRoom
    rw [meets_cons hfirst, meets_cons hsecond]
    exact ⟨by decide, hroom, trivial⟩
  · refine ⟨second, h, ?_, hsame⟩
    rw [run_cons hfirst, run_cons hsecond]
    rfl

theorem same_of_namesUnique {name other : CodeUnits} (hname : Accepted name) (hother : Accepted other)
    (hlength : (utf8Value unpaired name).length ≤ nameSize)
    (hlength' : (utf8Value unpaired other).length ≤ nameSize)
    (h : NamesUnique unpaired [create name, create other]) :
    stored (utf8Value unpaired name) = utf8Value unpaired other ↔ name = other := by
  obtain ⟨-, globals, handle, hrun, hsame⟩ := two_calls hname hother hlength hlength'
  obtain ⟨after, answers, hrun', hunique⟩ := h
  rw [hrun] at hrun'
  cases hrun'
  rw [← hsame, eq_comm]
  refine hunique (create name, .handle 0) ?_ (create other, .handle handle) ?_ name ?_ other ?_ 0
    handle rfl rfl
  · simp
  · simp
  · rw [acceptedName_create hname]
    rfl
  · rw [acceptedName_create hother]
    rfl

end Runs

/-- **Profilers are unique by name.** In every run under some names, the writes stay inside of the
buffers and the handles tell the names apart, just when each name leaves room for the terminator and
has none inside, and UTF-8 tells the names apart. -/
theorem unique_by_name_iff (unpaired : UInt16 → List UInt8) (allowed : Set CodeUnits) :
    (∀ calls : List Call, (∀ call ∈ calls, ∀ name ∈ acceptedName call, name ∈ allowed) →
        HasRoom unpaired calls → NamesUnique unpaired calls) ↔
      Apart unpaired allowed := by
  constructor
  · intro h
    have hcreate {name : CodeUnits} (hname : name ∈ allowed) (haccepted : Accepted name) :
        ∀ n ∈ acceptedName (create name), n ∈ allowed := by
      rw [acceptedName_create haccepted]
      simpa using hname
    have hlength {name : CodeUnits} (hname : name ∈ allowed) (haccepted : Accepted name) :
        (utf8Value unpaired name).length ≤ nameSize := by
      by_contra hlong
      have hnone : step unpaired init (create name) = none :=
        step_create_none haccepted (not_le.mp hlong)
      have hroom : HasRoom unpaired [create name] := by
        unfold HasRoom Meets
        rw [hnone]
        exact ⟨by decide, trivial⟩
      obtain ⟨globals, answers, hrun, -⟩ :=
        h [create name] (by simpa using hcreate hname haccepted) hroom
      rw [run, hnone] at hrun
      cases hrun
    have hsame {name other : CodeUnits} (hname : name ∈ allowed) (haccepted : Accepted name)
        (hother : other ∈ allowed) (haccepted' : Accepted other) :
        stored (utf8Value unpaired name) = utf8Value unpaired other ↔ name = other := by
      have hshort := hlength hname haccepted
      have hshort' := hlength hother haccepted'
      obtain ⟨hroom, -⟩ := two_calls haccepted haccepted' hshort hshort'
      refine same_of_namesUnique haccepted haccepted' hshort hshort' (h _ ?_ hroom)
      rw [List.forall_mem_cons, List.forall_mem_singleton]
      exact ⟨hcreate hname haccepted, hcreate hother haccepted'⟩
    have hfits : ∀ name ∈ allowed, Accepted name → Fits (utf8Value unpaired name) :=
      fun name hname haccepted =>
        (stored_eq_iff _).mp ((hsame hname haccepted hname haccepted).mpr rfl)
    refine ⟨hfits, fun name hname haccepted other hother haccepted' heq => ?_⟩
    apply (hsame hname haccepted hother haccepted').mp
    rw [(stored_eq_iff _).mpr (hfits name hname haccepted), heq]
  · intro hapart calls hallowed hroom
    exact namesUnique_of_apart hapart hallowed hroom

/-- Sixty-four times the letter `a`: there is no room for the terminator. -/
def fullName : CodeUnits := List.replicate 64 0x61

/-- Twenty-two euro signs: 22 units, and 66 bytes. -/
def wideName : CodeUnits := List.replicate 22 0x20AC

/-- The same name gets two handles, and two names with a zero character get the same one. A wide
name is written outside of the buffer. -/
theorem names_mixed_up :
    (run (step fun _ => []) init [create fullName, create fullName]).map Prod.snd =
        some [.handle 0, .handle 1] ∧
      ¬ NamesUnique (fun _ => []) [create fullName, create fullName] ∧
      (run (step fun _ => []) init [create [0x61, 0, 0x62], create [0x61]]).map Prod.snd =
        some [.handle 0, .handle 0] ∧
      run (step fun _ => []) init [create wideName] = none := by
  have haccepted : Accepted fullName := ⟨by decide, by decide⟩
  have hlength : (utf8Value (fun _ => []) fullName).length ≤ nameSize := by decide
  refine ⟨by decide +kernel, fun h => ?_, by decide +kernel, ?_⟩
  · have hsame := same_of_namesUnique haccepted haccepted hlength hlength h
    exact absurd (hsame.mpr rfl) (by decide +kernel)
  · rw [run, step_create_none ⟨by decide, by decide⟩ (by decide)]
    rfl

end SplunkOtel.Native.Registry
