import Mathlib.Tactic.Common
import SplunkOtel.Profiling.Serializer

/-!
# What a serialized profile resolves to

A reader of the profile follows a sample's location ids through the locations, their lines and the
functions to the string table.
-/

open Lib SplunkOtel.Native

namespace SplunkOtel.Profiling

/-! ## Resolution -/

abbrev Frame := String × String × ℤ

namespace Profile

def string (p : Profile) (index : ℕ) : Option String := p.stringTable[index]?

def resolveLine (p : Profile) (line : Line) : Option Frame := do
  let function ← p.function.find? (·.id = line.functionId)
  let fileName ← p.string function.filename
  let functionName ← p.string function.name
  return (fileName, functionName, line.line)

/-- A location may stand for several frames, one for each of its lines. -/
def resolveLocation (p : Profile) (id : ℕ) : Option (List Frame) := do
  let location ← p.location.find? (·.id = id)
  location.line.mapM p.resolveLine

def resolveFrames (p : Profile) (s : Sample) : Option (List Frame) :=
  (s.locationId.mapM p.resolveLocation).map List.flatten

def resolveLabel (p : Profile) (label : Label) : Option (String × String × ℚ) := do
  let key ← p.string label.key
  let str ← p.string label.str
  return (key, str, label.num)

def resolveLabels (p : Profile) (s : Sample) : Option (List (String × String × ℚ)) :=
  s.label.mapM p.resolveLabel

/-- Every reference in the profile points to an entry. -/
structure ReferencesExist (p : Profile) : Prop where
  locations : ∀ s ∈ p.sample, ∀ id ∈ s.locationId, id ∈ p.location.map Location.id
  functions : ∀ l ∈ p.location, ∀ line ∈ l.line, line.functionId ∈ p.function.map Function.id
  names : ∀ f ∈ p.function, f.name < p.stringTable.length ∧ f.systemName < p.stringTable.length ∧
    f.filename < p.stringTable.length
  labels : ∀ s ∈ p.sample, ∀ l ∈ s.label, l.key < p.stringTable.length ∧ l.str < p.stringTable.length

end Profile

/-- A frame as it was sampled, with line 0 shown as -1. -/
def shownFrame (f : ProfilingStackFrame) : Frame := (f.fileName, f.functionName, shownLine f.lineNumber)

def shownId (key : String) (id : Option (List UInt8)) : List (String × String × ℚ) :=
  id.toList.map fun bytes => (key, toHex bytes, 0)

def shownLabels (options : PProfSerializationOptions) (trace : ProfilingStacktrace) :
    List (String × String × ℚ) :=
  [("source.event.time", "", (timestampMillis trace : ℚ)),
    ("source.event.period", "", options.samplingPeriodMillis)] ++
    shownId "trace_id" trace.traceId ++ shownId "span_id" trace.spanId

/-- The profile shows every sample as it was taken. -/
structure LosesNothing (profile : CpuProfile) (options : PProfSerializationOptions) (out : Profile) :
    Prop where
  frames : out.sample.map out.resolveFrames =
    profile.stacktraces.map fun trace => some (trace.stacktrace.map shownFrame)
  labels : out.sample.map out.resolveLabels =
    profile.stacktraces.map fun trace => some (shownLabels options trace)
  locationIds : (out.location.map Location.id).Nodup
  functionIds : (out.function.map Function.id).Nodup
  references : out.ReferencesExist

def framesOf (profile : CpuProfile) : List ProfilingStackFrame :=
  profile.stacktraces.flatMap ProfilingStacktrace.stacktrace

/-- No two functions of the profile have the same text once their file is joined to them. -/
def FunctionKeysDistinct (profile : CpuProfile) : Prop :=
  ∀ f ∈ framesOf profile, ∀ g ∈ framesOf profile,
    functionKey f.fileName f.functionName = functionKey g.fileName g.functionName →
      f.fileName = g.fileName ∧ f.functionName = g.functionName

/-! ## The tables -/

open OrderedMap

/-- `Named fileName functionName`: the two belong together in some frame of the profile. -/
structure Inv (Named : String → String → Prop) (s : Serializer) : Prop where
  strings : s.stringTable.stringMap.Numbered 0 id
  empty : s.stringTable.stringMap.get? "" = some 0
  functions : s.functionsMap.Numbered 1 Function.id
  locations : s.locationsMap.Numbered 1 Location.id
  function_of : ∀ key f, s.functionsMap.get? key = some f → ∃ fileName functionName,
    Named fileName functionName ∧ key = functionKey fileName functionName ∧
      s.stringTable.stringMap.get? functionName = some f.name ∧ f.systemName = f.name ∧
      s.stringTable.stringMap.get? fileName = some f.filename
  location_of : ∀ key l, s.locationsMap.get? key = some l → ∃ fileName functionName lineNumber f,
    key = locationKey fileName functionName lineNumber ∧
      s.functionsMap.get? (functionKey fileName functionName) = some f ∧
      l.line = [⟨f.id, shownLine lineNumber⟩]

/-- The tables of `t` have what those of `s` have. -/
structure Grew (s t : Serializer) : Prop where
  strings : Extends s.stringTable.stringMap t.stringTable.stringMap
  functions : Extends s.functionsMap t.functionsMap
  locations : Extends s.locationsMap t.locationsMap

theorem Grew.refl (s : Serializer) : Grew s s := ⟨.refl _, .refl _, .refl _⟩

theorem Grew.trans {s t u : Serializer} (h : Grew s t) (h' : Grew t u) : Grew s u :=
  ⟨h.strings.trans h'.strings, h.functions.trans h'.functions, h.locations.trans h'.locations⟩

variable {Named : String → String → Prop}

theorem inv_new : Inv Named {} where
  strings := rfl
  empty := rfl
  functions := numbered_empty
  locations := numbered_empty
  function_of _ _ h := absurd h (by simp [OrderedMap.get?, EmptyCollection.emptyCollection])
  location_of _ _ h := absurd h (by simp [OrderedMap.get?, EmptyCollection.emptyCollection])

theorem getIndex_spec (s : Serializer) (str : String) (h : Inv Named s) :
    Inv Named (s.getIndex str).2 ∧ Grew s (s.getIndex str).2 ∧
      (s.getIndex str).2.stringTable.stringMap.get? str = some (s.getIndex str).1 ∧
      (s.getIndex str).2.functionsMap = s.functionsMap ∧
      (s.getIndex str).2.locationsMap = s.locationsMap := by
  unfold Serializer.getIndex StringTable.getIndex
  rcases hstr : s.stringTable.stringMap.get? str with _ | idx
  · have hext := extends_set_new hstr s.stringTable.stringMap.size
    refine ⟨⟨?_, hext _ _ h.empty, h.functions, h.locations, ?_, h.location_of⟩,
      ⟨hext, .refl _, .refl _⟩, get?_set_new hstr _, rfl, rfl⟩
    · exact h.strings.set_new hstr (by rw [id, Nat.zero_add])
    · intro key f hf
      obtain ⟨fileName, functionName, hnamed, hkey, hname, hsystem, hfile⟩ := h.function_of key f hf
      exact ⟨fileName, functionName, hnamed, hkey, hext _ _ hname, hsystem, hext _ _ hfile⟩
  · exact ⟨h, .refl s, hstr, rfl, rfl⟩

theorem inv_addFunction (s : Serializer) (fileName functionName : String) (f : Function)
    (h : Inv Named s) (hnamed : Named fileName functionName)
    (hnew : s.functionsMap.get? (functionKey fileName functionName) = none)
    (hid : f.id = s.functionsMap.size + 1)
    (hname : s.stringTable.stringMap.get? functionName = some f.name) (hsystem : f.systemName = f.name)
    (hfile : s.stringTable.stringMap.get? fileName = some f.filename) :
    Inv Named
        { s with functionsMap := s.functionsMap.set (functionKey fileName functionName) f } ∧
      Grew s { s with functionsMap := s.functionsMap.set (functionKey fileName functionName) f } := by
  have hext := extends_set_new hnew f
  refine ⟨⟨h.strings, h.empty, ?_, h.locations, ?_, ?_⟩, ⟨.refl _, hext, .refl _⟩⟩
  · exact h.functions.set_new hnew (by rw [hid, Nat.add_comm])
  · intro key g hg
    rcases get?_set_new_cases hnew hg with hg | ⟨rfl, rfl⟩
    · exact h.function_of key g hg
    · exact ⟨fileName, functionName, hnamed, rfl, hname, hsystem, hfile⟩
  · intro key l hl
    obtain ⟨file, name, line, g, hkey, hg, hline⟩ := h.location_of key l hl
    exact ⟨file, name, line, g, hkey, hext _ _ hg, hline⟩

theorem getFunction_spec (s : Serializer) (fileName functionName : String) (h : Inv Named s)
    (hnamed : Named fileName functionName) :
    Inv Named (s.getFunction fileName functionName).2 ∧
      Grew s (s.getFunction fileName functionName).2 ∧
      (s.getFunction fileName functionName).2.functionsMap.get?
        (functionKey fileName functionName) = some (s.getFunction fileName functionName).1 ∧
      (s.getFunction fileName functionName).2.locationsMap = s.locationsMap := by
  unfold Serializer.getFunction
  simp only
  split
  · rename_i f hkey
    exact ⟨h, .refl s, hkey, rfl⟩
  · rename_i hkey
    obtain ⟨h₁, hgrew₁, hname, hfun₁, hloc₁⟩ := getIndex_spec s functionName h
    obtain ⟨h₂, hgrew₂, hfile, hfun₂, hloc₂⟩ := getIndex_spec _ fileName h₁
    have hnew := hkey
    rw [← hfun₁, ← hfun₂] at hnew
    obtain ⟨h₃, hgrew₃⟩ := inv_addFunction _ fileName functionName ⟨_, _, _, _⟩ h₂ hnamed hnew rfl
      (hgrew₂.strings _ _ hname) rfl hfile
    exact ⟨h₃, (hgrew₁.trans hgrew₂).trans hgrew₃, get?_set_new hnew _, hloc₂.trans hloc₁⟩

theorem getLocation_spec (s : Serializer) (fileName functionName : String) (lineNumber : ℤ)
    (h : Inv Named s) (hnamed : Named fileName functionName) :
    Inv Named (s.getLocation fileName functionName lineNumber).2 ∧
      Grew s (s.getLocation fileName functionName lineNumber).2 ∧
      (s.getLocation fileName functionName lineNumber).2.locationsMap.get?
        (locationKey fileName functionName lineNumber) =
          some (s.getLocation fileName functionName lineNumber).1 := by
  unfold Serializer.getLocation
  simp only
  split
  · rename_i l hkey
    exact ⟨h, .refl s, hkey⟩
  · rename_i hkey
    obtain ⟨h₁, hgrew, hfun, hloc⟩ := getFunction_spec s fileName functionName h hnamed
    unfold Serializer.getLine
    have hnew := hkey
    rw [← hloc] at hnew
    have hext := extends_set_new hnew
      ({ id := (s.getFunction fileName functionName).2.locationsMap.size + 1
         line := [⟨(s.getFunction fileName functionName).1.id, shownLine lineNumber⟩] } : Location)
    refine ⟨⟨h₁.strings, h₁.empty, h₁.functions, ?_, h₁.function_of, ?_⟩,
      ⟨hgrew.strings, hgrew.functions, hgrew.locations.trans hext⟩, get?_set_new hnew _⟩
    · exact h₁.locations.set_new hnew (Nat.add_comm _ _)
    · intro key l hl
      rcases get?_set_new_cases hnew hl with hl | ⟨rfl, rfl⟩
      · exact h₁.location_of key l hl
      · exact ⟨fileName, functionName, lineNumber, _, rfl, hfun, rfl⟩

/-! ## Samples -/

/-- The location of the frame is in the table, with this id. -/
def FrameAt (s : Serializer) (frame : ProfilingStackFrame) (id : ℕ) : Prop :=
  ∃ l, s.locationsMap.get? (locationKey frame.fileName frame.functionName frame.lineNumber) = some l ∧
    l.id = id

/-- The key and the text of the label are in the string table. -/
def LabelAt (s : Serializer) (shown : String × String × ℚ) (label : Label) : Prop :=
  s.stringTable.stringMap.get? shown.1 = some label.key ∧
    s.stringTable.stringMap.get? shown.2.1 = some label.str ∧ label.num = shown.2.2

def SampleAt (options : PProfSerializationOptions) (s : Serializer) (trace : ProfilingStacktrace)
    (sample : Sample) : Prop :=
  List.Forall₂ (FrameAt s) trace.stacktrace sample.locationId ∧
    List.Forall₂ (LabelAt s) (shownLabels options trace) sample.label

theorem FrameAt.grew {s t : Serializer} {frame : ProfilingStackFrame} {id : ℕ} (hgrew : Grew s t)
    (h : FrameAt s frame id) : FrameAt t frame id := by
  obtain ⟨l, hl, hid⟩ := h
  exact ⟨l, hgrew.locations _ _ hl, hid⟩

theorem LabelAt.grew {s t : Serializer} {shown : String × String × ℚ} {label : Label}
    (hgrew : Grew s t) (h : LabelAt s shown label) : LabelAt t shown label :=
  ⟨hgrew.strings _ _ h.1, hgrew.strings _ _ h.2.1, h.2.2⟩

theorem SampleAt.grew {options : PProfSerializationOptions} {s t : Serializer}
    {trace : ProfilingStacktrace} {sample : Sample} (hgrew : Grew s t)
    (h : SampleAt options s trace sample) : SampleAt options t trace sample :=
  ⟨h.1.imp fun _ _ hf => hf.grew hgrew, h.2.imp fun _ _ hl => hl.grew hgrew⟩

theorem frameLocation_spec (frame : ProfilingStackFrame) (s : Serializer)
    (hnamed : Named frame.fileName frame.functionName) (h : Inv Named s) :
    Inv Named (Serializer.frameLocation frame s).2 ∧
      Grew s (Serializer.frameLocation frame s).2 ∧
      FrameAt (Serializer.frameLocation frame s).2 frame (Serializer.frameLocation frame s).1 := by
  obtain ⟨hinv, hgrew, hl⟩ :=
    getLocation_spec s frame.fileName frame.functionName frame.lineNumber h hnamed
  exact ⟨hinv, hgrew, _, hl, rfl⟩

theorem frames_spec (frames : List ProfilingStackFrame) (s : Serializer)
    (hnamed : ∀ frame ∈ frames, Named frame.fileName frame.functionName) (h : Inv Named s) :
    Inv Named (mapState Serializer.frameLocation frames s).2 ∧
      Grew s (mapState Serializer.frameLocation frames s).2 ∧
      List.Forall₂ (FrameAt (mapState Serializer.frameLocation frames s).2) frames
        (mapState Serializer.frameLocation frames s).1 :=
  mapState_spec (R := FrameAt) Grew.refl (fun _ _ _ => Grew.trans)
    (fun _ _ _ _ hgrew hf => hf.grew hgrew) frameLocation_spec frames s hnamed h

theorem idLabel_spec (s : Serializer) (text : String) (key : ℕ) (id : Option (List UInt8))
    (h : Inv Named s) (hkey : s.stringTable.stringMap.get? text = some key) :
    Inv Named (Serializer.idLabel key id s).2 ∧ Grew s (Serializer.idLabel key id s).2 ∧
      List.Forall₂ (LabelAt (Serializer.idLabel key id s).2) (shownId text id)
        (Serializer.idLabel key id s).1 := by
  rcases id with _ | bytes
  · exact ⟨h, .refl s, List.Forall₂.nil⟩
  · obtain ⟨hinv, hgrew, hstr, -, -⟩ := getIndex_spec s (toHex bytes) h
    exact ⟨hinv, hgrew, List.Forall₂.cons ⟨hgrew.strings _ _ hkey, hstr, rfl⟩ List.Forall₂.nil⟩

/-- The keys of the labels have their indices. -/
structure KeysAt (s : Serializer) (keys : Serializer.LabelKeys) : Prop where
  timestamp : s.stringTable.stringMap.get? "source.event.time" = some keys.timestamp
  traceId : s.stringTable.stringMap.get? "trace_id" = some keys.traceId
  spanId : s.stringTable.stringMap.get? "span_id" = some keys.spanId
  sourceEventPeriod : s.stringTable.stringMap.get? "source.event.period" = some keys.sourceEventPeriod

theorem KeysAt.grew {s t : Serializer} {keys : Serializer.LabelKeys} (hgrew : Grew s t)
    (h : KeysAt s keys) : KeysAt t keys :=
  ⟨hgrew.strings _ _ h.timestamp, hgrew.strings _ _ h.traceId, hgrew.strings _ _ h.spanId,
    hgrew.strings _ _ h.sourceEventPeriod⟩

theorem internLabelKeys_spec (s : Serializer) (h : Inv Named s) :
    Inv Named s.internLabelKeys.2 ∧ KeysAt s.internLabelKeys.2 s.internLabelKeys.1 := by
  obtain ⟨h₁, hgrew₁, hkey₁, -, -⟩ := getIndex_spec s "source.event.time" h
  obtain ⟨h₂, hgrew₂, hkey₂, -, -⟩ := getIndex_spec _ "trace_id" h₁
  obtain ⟨h₃, hgrew₃, hkey₃, -, -⟩ := getIndex_spec _ "span_id" h₂
  obtain ⟨h₄, hgrew₄, hkey₄, -, -⟩ := getIndex_spec _ "source.event.period" h₃
  refine ⟨h₄, ?_, ?_, ?_, hkey₄⟩
  · exact hgrew₄.strings _ _ (hgrew₃.strings _ _ (hgrew₂.strings _ _ hkey₁))
  · exact hgrew₄.strings _ _ (hgrew₃.strings _ _ hkey₂)
  · exact hgrew₄.strings _ _ hkey₃

theorem forall₂_append {α β : Type*} {R : α → β → Prop} {as cs : List α} {bs ds : List β}
    (h : List.Forall₂ R as bs) (h' : List.Forall₂ R cs ds) :
    List.Forall₂ R (as ++ cs) (bs ++ ds) := List.rel_append h h'

theorem commonLabels_spec (s : Serializer) (keys : Serializer.LabelKeys)
    (options : PProfSerializationOptions) (trace : ProfilingStacktrace) (h : Inv Named s)
    (hkeys : KeysAt s keys) :
    List.Forall₂ (LabelAt s)
      [("source.event.time", "", (timestampMillis trace : ℚ)),
        ("source.event.period", "", options.samplingPeriodMillis)]
      [{ key := keys.timestamp, num := timestampMillis trace },
        { key := keys.sourceEventPeriod, num := options.samplingPeriodMillis }] :=
  .cons ⟨hkeys.timestamp, h.empty, rfl⟩ (.cons ⟨hkeys.sourceEventPeriod, h.empty, rfl⟩ .nil)

theorem serializeSample_spec (keys : Serializer.LabelKeys) (options : PProfSerializationOptions)
    (trace : ProfilingStacktrace) (s : Serializer)
    (hnamed : ∀ frame ∈ trace.stacktrace, Named frame.fileName frame.functionName)
    (h : Inv Named s ∧ KeysAt s keys) :
    (Inv Named (Serializer.serializeSample keys options trace s).2 ∧
        KeysAt (Serializer.serializeSample keys options trace s).2 keys) ∧
      Grew s (Serializer.serializeSample keys options trace s).2 ∧
      SampleAt options (Serializer.serializeSample keys options trace s).2 trace
        (Serializer.serializeSample keys options trace s).1 := by
  obtain ⟨h₀, hkeys⟩ := h
  obtain ⟨h₁, hgrew₁, htrace⟩ := idLabel_spec s "trace_id" keys.traceId trace.traceId h₀ hkeys.traceId
  obtain ⟨h₂, hgrew₂, hspan⟩ := idLabel_spec _ "span_id" keys.spanId trace.spanId h₁
    (hkeys.grew hgrew₁).spanId
  obtain ⟨h₃, hgrew₃, hframes⟩ := frames_spec trace.stacktrace _ hnamed h₂
  have hgrew := (hgrew₁.trans hgrew₂).trans hgrew₃
  have hkeys' := hkeys.grew hgrew
  have hcommon := commonLabels_spec _ keys options trace h₃ hkeys'
  have htrace' := htrace.imp fun _ _ hl => hl.grew (hgrew₂.trans hgrew₃)
  have hspan' := hspan.imp fun _ _ hl => hl.grew hgrew₃
  exact ⟨⟨h₃, hkeys'⟩, hgrew, hframes, forall₂_append (forall₂_append hcommon htrace') hspan'⟩

theorem samples_spec (keys : Serializer.LabelKeys) (options : PProfSerializationOptions)
    (traces : List ProfilingStacktrace) (s : Serializer)
    (hnamed : ∀ trace ∈ traces, ∀ frame ∈ trace.stacktrace,
      Named frame.fileName frame.functionName)
    (h : Inv Named s) (hkeys : KeysAt s keys) :
    Inv Named (mapState (Serializer.serializeSample keys options) traces s).2 ∧
      List.Forall₂ (SampleAt options (mapState (Serializer.serializeSample keys options) traces s).2)
        traces (mapState (Serializer.serializeSample keys options) traces s).1 := by
  obtain ⟨⟨hinv, -⟩, -, hsamples⟩ :=
    mapState_spec (R := SampleAt options) Grew.refl (fun _ _ _ => Grew.trans)
      (fun _ _ _ _ hgrew hs => hs.grew hgrew) (serializeSample_spec keys options) traces s hnamed
      ⟨h, hkeys⟩
  exact ⟨hinv, hsamples⟩

/-! ## Resolving the profile -/

/-- The profile that the tables give. -/
def profileOf (s : Serializer) (sample : List Sample) : Profile where
  sample
  location := s.locationsMap.values
  function := s.functionsMap.values
  stringTable := s.stringTable.serialize

theorem string_profileOf {s : Serializer} (h : Inv Named s) (sample : List Sample) {str : String}
    {index : ℕ} (hstr : s.stringTable.stringMap.get? str = some index) :
    (profileOf s sample).string index = some str :=
  h.strings.getElem?_keys hstr

theorem index_lt {s : Serializer} (h : Inv Named s) (sample : List Sample) {str : String}
    {index : ℕ} (hstr : s.stringTable.stringMap.get? str = some index) :
    index < (profileOf s sample).stringTable.length :=
  (List.getElem?_eq_some_iff.mp (string_profileOf h sample hstr)).1

def tabled (p : Profile) (s : Serializer) (key : String) : String × String :=
  match s.functionsMap.get? key with
  | none => ("", "")
  | some f => ((p.string f.filename).getD "", (p.string f.name).getD "")

theorem tabled_spec {s : Serializer} (h : Inv Named s) (sample : List Sample) {key : String}
    {f : Function} (hf : s.functionsMap.get? key = some f) :
    (profileOf s sample).string f.filename = some (tabled (profileOf s sample) s key).1 ∧
      (profileOf s sample).string f.name = some (tabled (profileOf s sample) s key).2 ∧
      Named (tabled (profileOf s sample) s key).1 (tabled (profileOf s sample) s key).2 ∧
      functionKey (tabled (profileOf s sample) s key).1 (tabled (profileOf s sample) s key).2 =
        key := by
  obtain ⟨fileName, functionName, hnamed, rfl, hname, -, hfile⟩ := h.function_of key f hf
  have hfile' := string_profileOf h sample hfile
  have hname' := string_profileOf h sample hname
  unfold tabled
  rw [hf]
  simp only [hfile', hname', Option.getD_some]
  exact ⟨trivial, trivial, hnamed, trivial⟩

theorem toList_locationKey (fileName functionName : String) (lineNumber : ℤ) :
    (locationKey fileName functionName lineNumber).toList =
      (functionKey fileName functionName).toList ++ ':' :: (toString lineNumber).toList := by
  have hkey : locationKey fileName functionName lineNumber =
      functionKey fileName functionName ++ ":" ++ toString lineNumber := rfl
  rw [hkey, String.toList_append, String.toList_append, List.append_assoc]
  rfl

theorem locationKey_inj {fileName functionName fileName' functionName' : String}
    {lineNumber lineNumber' : ℤ}
    (h : locationKey fileName functionName lineNumber =
      locationKey fileName' functionName' lineNumber') :
    functionKey fileName functionName = functionKey fileName' functionName' ∧
      lineNumber = lineNumber' := by
  have hcolon : ∀ n : ℤ, ':' ∉ (toString n).toList :=
    Text.not_mem_toString (by decide) (by decide)
  have hlist := congrArg String.toList h
  rw [toList_locationKey, toList_locationKey] at hlist
  obtain ⟨hkey, hline⟩ := Text.append_sep_inj (hcolon _) (hcolon _) hlist
  exact ⟨String.toList_injective hkey, Text.toString_injective (String.toList_injective hline)⟩

/-- The frame that a reader sees for a sampled one: the first one with its key gave the names. -/
def tabledFrame (p : Profile) (s : Serializer) (frame : ProfilingStackFrame) : Frame :=
  ((tabled p s (functionKey frame.fileName frame.functionName)).1,
    (tabled p s (functionKey frame.fileName frame.functionName)).2, shownLine frame.lineNumber)

theorem resolveLocation_profileOf {s : Serializer} (h : Inv Named s) (sample : List Sample)
    {frame : ProfilingStackFrame} {id : ℕ} (hframe : FrameAt s frame id) :
    (∃ f, s.functionsMap.get? (functionKey frame.fileName frame.functionName) = some f) ∧
      (profileOf s sample).resolveLocation id =
        some [tabledFrame (profileOf s sample) s frame] := by
  obtain ⟨l, hl, rfl⟩ := hframe
  obtain ⟨fileName, functionName, lineNumber, f, hkey, hf, hline⟩ := h.location_of _ l hl
  obtain ⟨hfun, rfl⟩ := locationKey_inj hkey
  rw [← hfun] at hf
  obtain ⟨hfile, hname, -, -⟩ := tabled_spec h sample hf
  refine ⟨⟨f, hf⟩, ?_⟩
  have hloc : (profileOf s sample).location.find? (·.id = l.id) = some l := h.locations.find? hl
  have hfunction : (profileOf s sample).function.find? (·.id = f.id) = some f :=
    h.functions.find? hf
  unfold Profile.resolveLocation
  rw [hloc]
  simp only [Option.bind_eq_bind, Option.bind_some, hline, List.mapM_cons, List.mapM_nil,
    Profile.resolveLine, hfunction, hfile, hname]
  rfl

theorem resolveFrames_profileOf {s : Serializer} (h : Inv Named s) (sample : List Sample)
    {frames : List ProfilingStackFrame} {smp : Sample}
    (hframes : List.Forall₂ (FrameAt s) frames smp.locationId) :
    (profileOf s sample).resolveFrames smp =
      some (frames.map (tabledFrame (profileOf s sample) s)) := by
  have hids : smp.locationId.mapM (profileOf s sample).resolveLocation =
      some (frames.map fun frame => [tabledFrame (profileOf s sample) s frame]) :=
    mapM_of_forall₂ (hframes.imp fun _ _ hf => (resolveLocation_profileOf h sample hf).2)
  unfold Profile.resolveFrames
  rw [hids, Option.map_some, ← List.flatMap_def, ← List.map_eq_flatMap]

theorem resolveLabels_profileOf {s : Serializer} (h : Inv Named s) (sample : List Sample)
    {shown : List (String × String × ℚ)} {smp : Sample}
    (hlabels : List.Forall₂ (LabelAt s) shown smp.label) :
    (profileOf s sample).resolveLabels smp = some shown := by
  have hresolve : smp.label.mapM (profileOf s sample).resolveLabel = some (shown.map id) := by
    apply mapM_of_forall₂
    refine hlabels.imp fun shown label hl => ?_
    obtain ⟨hkey, hstr, hnum⟩ := hl
    unfold Profile.resolveLabel
    rw [string_profileOf h sample hkey, string_profileOf h sample hstr, hnum]
    rfl
  rwa [List.map_id] at hresolve

theorem references_profileOf {s : Serializer} (h : Inv Named s) {options : PProfSerializationOptions}
    {traces : List ProfilingStacktrace} {sample : List Sample}
    (hsamples : List.Forall₂ (SampleAt options s) traces sample) :
    (profileOf s sample).ReferencesExist where
  locations smp hsmp id hid := by
    obtain ⟨trace, -, hframes, -⟩ := exists_left_of_forall₂ hsamples smp hsmp
    obtain ⟨frame, -, l, hl, rfl⟩ := exists_left_of_forall₂ hframes id hid
    exact List.mem_map_of_mem (mem_values_of_get? hl)
  functions l hl line hline := by
    obtain ⟨key, hkey⟩ := exists_get?_of_mem_values hl
    obtain ⟨fileName, functionName, lineNumber, f, -, hf, hlines⟩ := h.location_of key l hkey
    rw [hlines, List.mem_singleton] at hline
    rw [hline]
    exact List.mem_map_of_mem (mem_values_of_get? hf)
  names f hf := by
    obtain ⟨key, hkey⟩ := exists_get?_of_mem_values hf
    obtain ⟨fileName, functionName, -, -, hname, hsystem, hfile⟩ := h.function_of key f hkey
    rw [hsystem]
    exact ⟨index_lt h sample hname, index_lt h sample hname, index_lt h sample hfile⟩
  labels smp hsmp label hlabel := by
    obtain ⟨trace, -, -, hlabels⟩ := exists_left_of_forall₂ hsamples smp hsmp
    obtain ⟨shown, -, hkey, hstr, -⟩ := exists_left_of_forall₂ hlabels label hlabel
    exact ⟨index_lt h sample hkey, index_lt h sample hstr⟩

/-! ## The serializer -/

/-- The file and the function belong together in a frame of the profile. -/
def NamedIn (profile : CpuProfile) (fileName functionName : String) : Prop :=
  ∃ frame ∈ framesOf profile, frame.fileName = fileName ∧ frame.functionName = functionName

theorem serialize_spec (profile : CpuProfile) (options : PProfSerializationOptions) :
    ∃ s sample, Inv (NamedIn profile) s ∧
      List.Forall₂ (SampleAt options s) profile.stacktraces sample ∧
      serialize profile options = profileOf s sample := by
  obtain ⟨hinv, hkeys⟩ := internLabelKeys_spec {} (inv_new : Inv (NamedIn profile) {})
  have hnamed : ∀ trace ∈ profile.stacktraces, ∀ frame ∈ trace.stacktrace,
      NamedIn profile frame.fileName frame.functionName := fun trace htrace frame hframe =>
    ⟨frame, List.mem_flatMap.mpr ⟨trace, htrace, hframe⟩, rfl, rfl⟩
  obtain ⟨hinv', hsamples⟩ := samples_spec _ options profile.stacktraces _ hnamed hinv hkeys
  exact ⟨_, _, hinv', hsamples, rfl⟩

theorem tabledFrame_eq_iff (p : Profile) (s : Serializer) (frame : ProfilingStackFrame) :
    tabledFrame p s frame = shownFrame frame ↔
      tabled p s (functionKey frame.fileName frame.functionName) =
        (frame.fileName, frame.functionName) := by
  unfold tabledFrame shownFrame
  simp only [Prod.ext_iff, and_true]

theorem frames_iff {profile : CpuProfile} {options : PProfSerializationOptions} {s : Serializer}
    {sample : List Sample} (h : Inv (NamedIn profile) s)
    (hsamples : List.Forall₂ (SampleAt options s) profile.stacktraces sample) :
    ((profileOf s sample).sample.map (profileOf s sample).resolveFrames =
        profile.stacktraces.map fun trace => some (trace.stacktrace.map shownFrame)) ↔
      ∀ frame ∈ framesOf profile, tabled (profileOf s sample) s
        (functionKey frame.fileName frame.functionName) = (frame.fileName, frame.functionName) := by
  have hresolved : (profileOf s sample).sample.map (profileOf s sample).resolveFrames =
      profile.stacktraces.map fun trace =>
        some (trace.stacktrace.map (tabledFrame (profileOf s sample) s)) :=
    map_of_forall₂ (hsamples.imp fun _ _ hs => resolveFrames_profileOf h sample hs.1)
  rw [hresolved, List.map_inj_left]
  simp only [Option.some.injEq, List.map_inj_left, tabledFrame_eq_iff, framesOf, List.mem_flatMap]
  constructor
  · rintro hall frame ⟨trace, htrace, hframe⟩
    exact hall trace htrace frame hframe
  · intro hall trace htrace frame hframe
    exact hall frame ⟨trace, htrace, hframe⟩

theorem exists_tabled {profile : CpuProfile} {options : PProfSerializationOptions} {s : Serializer}
    {sample : List Sample} (h : Inv (NamedIn profile) s)
    (hsamples : List.Forall₂ (SampleAt options s) profile.stacktraces sample)
    (frame : ProfilingStackFrame) (hframe : frame ∈ framesOf profile) :
    ∃ g ∈ framesOf profile,
      tabled (profileOf s sample) s (functionKey frame.fileName frame.functionName) =
          (g.fileName, g.functionName) ∧
        functionKey g.fileName g.functionName = functionKey frame.fileName frame.functionName := by
  obtain ⟨trace, htrace, hmem⟩ := List.mem_flatMap.mp hframe
  obtain ⟨smp, -, hframes, -⟩ := exists_right_of_forall₂ hsamples trace htrace
  obtain ⟨id, -, hat⟩ := exists_right_of_forall₂ hframes frame hmem
  obtain ⟨⟨f, hf⟩, -⟩ := resolveLocation_profileOf h sample hat
  obtain ⟨-, -, ⟨g, hg, hfile, hname⟩, hkey⟩ := tabled_spec h sample hf
  refine ⟨g, hg, ?_, ?_⟩
  · rw [hfile, hname]
  · rw [hfile, hname, hkey]

/-- **The serializer loses no frame.** Every sample resolves to its own frames and labels, exactly
when distinct functions of the profile keep distinct keys. -/
theorem serialize_losesNothing_iff (profile : CpuProfile) (options : PProfSerializationOptions) :
    LosesNothing profile options (serialize profile options) ↔ FunctionKeysDistinct profile := by
  obtain ⟨s, sample, h, hsamples, hout⟩ := serialize_spec profile options
  rw [hout]
  constructor
  · intro hlost f hf g hg hkey
    have hframes := (frames_iff h hsamples).mp hlost.frames
    have hfg := (hframes f hf).symm.trans ((congrArg _ hkey).trans (hframes g hg))
    exact ⟨congrArg Prod.fst hfg, congrArg Prod.snd hfg⟩
  · intro hdistinct
    refine ⟨(frames_iff h hsamples).mpr fun frame hframe => ?_, ?_, h.locations.nodup,
      h.functions.nodup, references_profileOf h hsamples⟩
    · obtain ⟨g, hg, heq, hkey⟩ := exists_tabled h hsamples frame hframe
      obtain ⟨hfile, hname⟩ := hdistinct g hg frame hframe hkey
      rw [heq, hfile, hname]
    · exact map_of_forall₂ (hsamples.imp fun _ _ hs => resolveLabels_profileOf h sample hs.2)

/-- Two frames of different files whose joined texts are the same. -/
def collidingProfile : CpuProfile where
  startTimeNanos := 0
  stacktraces :=
    [{ timestamp := 0
       stacktrace := [⟨"node:fs", "open", 1, 1⟩, ⟨"node", "fs:open", 1, 1⟩]
       traceId := none
       spanId := none }]

theorem serialize_colliding : ¬ LosesNothing collidingProfile ⟨1000⟩ (serialize collidingProfile ⟨1000⟩) :=
  fun h => absurd h.frames (by decide)

end SplunkOtel.Profiling
