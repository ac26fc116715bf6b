import Mathlib.Algebra.Field.Rat
import Mathlib.Data.Rat.Defs
import SplunkOtel.Lib.Interning
import SplunkOtel.Lib.Text
import SplunkOtel.Native.Profiler

/-!
# The pprof serializer (`src/profiling/utils.ts`)

A CPU profile of the native extension becomes a pprof profile, in which strings, functions and
locations are interned. The tables are keyed by text, and the text of a function or of a location
is joined with colons.
-/

open Lib SplunkOtel.Native

namespace SplunkOtel.Profiling

/-! ## The messages of `perftools.profiles` -/

structure Label where
  key : ℕ
  str : ℕ := 0
  num : ℚ := 0
deriving DecidableEq

structure Line where
  functionId : ℕ
  line : ℤ
deriving DecidableEq

structure Location where
  id : ℕ
  line : List Line
deriving DecidableEq

/-- `name`, `systemName` and `filename` are indices of the string table. -/
structure Function where
  id : ℕ
  name : ℕ
  systemName : ℕ
  filename : ℕ
deriving DecidableEq

structure Sample where
  locationId : List ℕ
  value : List ℤ
  label : List Label
deriving DecidableEq

structure Profile where
  sample : List Sample
  location : List Location
  function : List Function
  stringTable : List String
deriving DecidableEq

/-! ## The tables -/

structure StringTable where
  stringMap : OrderedMap String ℕ

namespace StringTable

def getIndex (t : StringTable) (str : String) : ℕ × StringTable :=
  match t.stringMap.get? str with
  | some idx => (idx, t)
  | none => (t.stringMap.size, ⟨t.stringMap.set str t.stringMap.size⟩)

/-- The empty string has index 0. -/
def new : StringTable := (getIndex ⟨∅⟩ "").2

def serialize (t : StringTable) : List String := t.stringMap.keys

end StringTable

structure Serializer where
  stringTable : StringTable := .new
  locationsMap : OrderedMap String Location := ∅
  functionsMap : OrderedMap String Function := ∅

def functionKey (fileName functionName : String) : String := fileName ++ ":" ++ functionName

def locationKey (fileName functionName : String) (lineNumber : ℤ) : String :=
  fileName ++ ":" ++ functionName ++ ":" ++ toString lineNumber

def shownLine (lineNumber : ℤ) : ℤ := if lineNumber ≠ 0 then lineNumber else -1

def hexDigit (n : UInt8) : Char := Nat.digitChar n.toNat

/-- `Buffer.toString('hex')`. -/
def toHex (bytes : List UInt8) : String :=
  String.ofList (bytes.flatMap fun b => [hexDigit (b / 16), hexDigit (b % 16)])

structure PProfSerializationOptions where
  samplingPeriodMillis : ℚ

def timestampMillis (trace : ProfilingStacktrace) : ℤ := trace.timestamp.tdiv 1000000

namespace Serializer

def getIndex (s : Serializer) (str : String) : ℕ × Serializer :=
  let (idx, stringTable) := s.stringTable.getIndex str
  (idx, { s with stringTable })

def getFunction (s : Serializer) (fileName functionName : String) : Function × Serializer :=
  let key := functionKey fileName functionName
  match s.functionsMap.get? key with
  | some function => (function, s)
  | none =>
    let (functionNameId, s) := s.getIndex functionName
    let (filename, s) := s.getIndex fileName
    let function : Function :=
      { id := s.functionsMap.size + 1, name := functionNameId, systemName := functionNameId, filename }
    (function, { s with functionsMap := s.functionsMap.set key function })

def getLine (s : Serializer) (fileName functionName : String) (lineNumber : ℤ) :
    Line × Serializer :=
  let (function, s) := s.getFunction fileName functionName
  (⟨function.id, shownLine lineNumber⟩, s)

def getLocation (s : Serializer) (fileName functionName : String) (lineNumber : ℤ) :
    Location × Serializer :=
  let key := locationKey fileName functionName lineNumber
  match s.locationsMap.get? key with
  | some location => (location, s)
  | none =>
    let (line, s) := s.getLine fileName functionName lineNumber
    let location : Location := { id := s.locationsMap.size + 1, line := [line] }
    (location, { s with locationsMap := s.locationsMap.set key location })

/-! ## CPU profiles -/

structure LabelKeys where
  timestamp : ℕ
  traceId : ℕ
  spanId : ℕ
  sourceEventPeriod : ℕ

def internLabelKeys (s : Serializer) : LabelKeys × Serializer :=
  let (timestamp, s) := s.getIndex "source.event.time"
  let (traceId, s) := s.getIndex "trace_id"
  let (spanId, s) := s.getIndex "span_id"
  let (sourceEventPeriod, s) := s.getIndex "source.event.period"
  ({ timestamp, traceId, spanId, sourceEventPeriod }, s)

/-- The label of an id, if the sample has one. -/
def idLabel (key : ℕ) (id : Option (List UInt8)) (s : Serializer) : List Label × Serializer :=
  match id with
  | none => ([], s)
  | some bytes =>
    let (str, s) := s.getIndex (toHex bytes)
    ([{ key, str }], s)

def frameLocation (frame : ProfilingStackFrame) (s : Serializer) : ℕ × Serializer :=
  let (location, s) := s.getLocation frame.fileName frame.functionName frame.lineNumber
  (location.id, s)

def serializeSample (keys : LabelKeys) (options : PProfSerializationOptions)
    (trace : ProfilingStacktrace) (s : Serializer) : Sample × Serializer :=
  let labels : List Label :=
    [{ key := keys.timestamp, num := timestampMillis trace },
      { key := keys.sourceEventPeriod, num := options.samplingPeriodMillis }]
  let (traceIdLabels, s) := idLabel keys.traceId trace.traceId s
  let (spanIdLabels, s) := idLabel keys.spanId trace.spanId s
  let (locationId, s) := mapState frameLocation trace.stacktrace s
  ({ locationId, value := [], label := labels ++ traceIdLabels ++ spanIdLabels }, s)

def serializeCpuProfile (s : Serializer) (profile : CpuProfile)
    (options : PProfSerializationOptions) : Profile :=
  let (keys, s) := s.internLabelKeys
  let (sample, s) := mapState (serializeSample keys options) profile.stacktraces s
  { sample
    location := s.locationsMap.values
    function := s.functionsMap.values
    stringTable := s.stringTable.serialize }

end Serializer

def serialize (profile : CpuProfile) (options : PProfSerializationOptions) : Profile :=
  Serializer.serializeCpuProfile {} profile options

end SplunkOtel.Profiling
