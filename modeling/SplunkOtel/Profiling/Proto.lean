import SplunkOtel.Lib.Varint

/-!
# Messages of a profile on the wire (`src/profiling/proto/profile.js`)

A field that is not an own property of its message, or is `null`, is `none`. Numbers are what 64
bits of the wire stand for.
-/

open Lib.Wire

namespace SplunkOtel.Profiling.Proto

structure ValueType where
  type : Option Int64 := none
  unit : Option Int64 := none
deriving DecidableEq

structure Label where
  key : Option Int64 := none
  str : Option Int64 := none
  num : Option Int64 := none
  numUnit : Option Int64 := none
deriving DecidableEq

structure Sample where
  locationId : List UInt64 := []
  value : List Int64 := []
  label : List Label := []
deriving DecidableEq

structure Mapping where
  id : Option UInt64 := none
  memoryStart : Option UInt64 := none
  memoryLimit : Option UInt64 := none
  fileOffset : Option UInt64 := none
  filename : Option Int64 := none
  buildId : Option Int64 := none
  hasFunctions : Option Bool := none
  hasFilenames : Option Bool := none
  hasLineNumbers : Option Bool := none
  hasInlineFrames : Option Bool := none
deriving DecidableEq

structure Line where
  functionId : Option UInt64 := none
  line : Option Int64 := none
deriving DecidableEq

structure Location where
  id : Option UInt64 := none
  mappingId : Option UInt64 := none
  address : Option UInt64 := none
  line : List Line := []
deriving DecidableEq

structure Function where
  id : Option UInt64 := none
  name : Option Int64 := none
  systemName : Option Int64 := none
  filename : Option Int64 := none
  startLine : Option Int64 := none
deriving DecidableEq

structure Profile where
  sampleType : List ValueType := []
  sample : List Sample := []
  mapping : List Mapping := []
  location : List Location := []
  function : List Function := []
  stringTable : List String := []
  dropFrames : Option Int64 := none
  keepFrames : Option Int64 := none
  timeNanos : Option Int64 := none
  durationNanos : Option Int64 := none
  periodType : Option ValueType := none
  period : Option Int64 := none
  comment : List Int64 := []
  defaultSampleType : Option Int64 := none
deriving DecidableEq

section Coding

variable (F : Format)

/-! ## `encode` and `decode` -/

def ValueType.encode (m : ValueType) : Bytes :=
  field F 8 F.int64.write m.type ++ field F 16 F.int64.write m.unit

def ValueType.onField : ℕ → UInt32 → ValueType → Bytes → Option (ValueType × Bytes)
  | 1, _ => assign F.int64 fun v m => { m with type := some v }
  | 2, _ => assign F.int64 fun v m => { m with unit := some v }
  | _, wireType => skip F wireType

def ValueType.decode (length : ℕ) (input : Bytes) : Option (ValueType × Bytes) :=
  loopOver (fieldStep F (ValueType.onField F)) length {} input

def Label.encode (m : Label) : Bytes :=
  field F 8 F.int64.write m.key ++ field F 16 F.int64.write m.str ++
    field F 24 F.int64.write m.num ++ field F 32 F.int64.write m.numUnit

def Label.onField : ℕ → UInt32 → Label → Bytes → Option (Label × Bytes)
  | 1, _ => assign F.int64 fun v m => { m with key := some v }
  | 2, _ => assign F.int64 fun v m => { m with str := some v }
  | 3, _ => assign F.int64 fun v m => { m with num := some v }
  | 4, _ => assign F.int64 fun v m => { m with numUnit := some v }
  | _, wireType => skip F wireType

def Label.decode (length : ℕ) (input : Bytes) : Option (Label × Bytes) :=
  loopOver (fieldStep F (Label.onField F)) length {} input

def Sample.encode (m : Sample) : Bytes :=
  packedField F 10 F.uint64 m.locationId ++ packedField F 18 F.int64 m.value ++
    fields F 26 (fun label => fork F (label.encode F)) m.label

def Sample.onField : ℕ → UInt32 → Sample → Bytes → Option (Sample × Bytes)
  | 1, wireType =>
    assignPacked F F.uint64 (fun l m => { m with locationId := m.locationId ++ l }) wireType
  | 2, wireType => assignPacked F F.int64 (fun l m => { m with value := m.value ++ l }) wireType
  | 3, _ => assignMessage F (Label.decode F) fun v m => { m with label := m.label ++ [v] }
  | _, wireType => skip F wireType

def Sample.decode (length : ℕ) (input : Bytes) : Option (Sample × Bytes) :=
  loopOver (fieldStep F (Sample.onField F)) length {} input

def Mapping.encode (m : Mapping) : Bytes :=
  field F 8 F.uint64.write m.id ++ field F 16 F.uint64.write m.memoryStart ++
    field F 24 F.uint64.write m.memoryLimit ++ field F 32 F.uint64.write m.fileOffset ++
    field F 40 F.int64.write m.filename ++ field F 48 F.int64.write m.buildId ++
    field F 56 F.bool.write m.hasFunctions ++ field F 64 F.bool.write m.hasFilenames ++
    field F 72 F.bool.write m.hasLineNumbers ++ field F 80 F.bool.write m.hasInlineFrames

def Mapping.onField : ℕ → UInt32 → Mapping → Bytes → Option (Mapping × Bytes)
  | 1, _ => assign F.uint64 fun v m => { m with id := some v }
  | 2, _ => assign F.uint64 fun v m => { m with memoryStart := some v }
  | 3, _ => assign F.uint64 fun v m => { m with memoryLimit := some v }
  | 4, _ => assign F.uint64 fun v m => { m with fileOffset := some v }
  | 5, _ => assign F.int64 fun v m => { m with filename := some v }
  | 6, _ => assign F.int64 fun v m => { m with buildId := some v }
  | 7, _ => assign F.bool fun v m => { m with hasFunctions := some v }
  | 8, _ => assign F.bool fun v m => { m with hasFilenames := some v }
  | 9, _ => assign F.bool fun v m => { m with hasLineNumbers := some v }
  | 10, _ => assign F.bool fun v m => { m with hasInlineFrames := some v }
  | _, wireType => skip F wireType

def Mapping.decode (length : ℕ) (input : Bytes) : Option (Mapping × Bytes) :=
  loopOver (fieldStep F (Mapping.onField F)) length {} input

def Line.encode (m : Line) : Bytes :=
  field F 8 F.uint64.write m.functionId ++ field F 16 F.int64.write m.line

def Line.onField : ℕ → UInt32 → Line → Bytes → Option (Line × Bytes)
  | 1, _ => assign F.uint64 fun v m => { m with functionId := some v }
  | 2, _ => assign F.int64 fun v m => { m with line := some v }
  | _, wireType => skip F wireType

def Line.decode (length : ℕ) (input : Bytes) : Option (Line × Bytes) :=
  loopOver (fieldStep F (Line.onField F)) length {} input

def Location.encode (m : Location) : Bytes :=
  field F 8 F.uint64.write m.id ++ field F 16 F.uint64.write m.mappingId ++
    field F 24 F.uint64.write m.address ++ fields F 34 (fun line => fork F (line.encode F)) m.line

def Location.onField : ℕ → UInt32 → Location → Bytes → Option (Location × Bytes)
  | 1, _ => assign F.uint64 fun v m => { m with id := some v }
  | 2, _ => assign F.uint64 fun v m => { m with mappingId := some v }
  | 3, _ => assign F.uint64 fun v m => { m with address := some v }
  | 4, _ => assignMessage F (Line.decode F) fun v m => { m with line := m.line ++ [v] }
  | _, wireType => skip F wireType

def Location.decode (length : ℕ) (input : Bytes) : Option (Location × Bytes) :=
  loopOver (fieldStep F (Location.onField F)) length {} input

def Function.encode (m : Function) : Bytes :=
  field F 8 F.uint64.write m.id ++ field F 16 F.int64.write m.name ++
    field F 24 F.int64.write m.systemName ++ field F 32 F.int64.write m.filename ++
    field F 40 F.int64.write m.startLine

def Function.onField : ℕ → UInt32 → Function → Bytes → Option (Function × Bytes)
  | 1, _ => assign F.uint64 fun v m => { m with id := some v }
  | 2, _ => assign F.int64 fun v m => { m with name := some v }
  | 3, _ => assign F.int64 fun v m => { m with systemName := some v }
  | 4, _ => assign F.int64 fun v m => { m with filename := some v }
  | 5, _ => assign F.int64 fun v m => { m with startLine := some v }
  | _, wireType => skip F wireType

def Function.decode (length : ℕ) (input : Bytes) : Option (Function × Bytes) :=
  loopOver (fieldStep F (Function.onField F)) length {} input

def Profile.encode (m : Profile) : Bytes :=
  fields F 10 (fun v => fork F (v.encode F)) m.sampleType ++
    fields F 18 (fun v => fork F (v.encode F)) m.sample ++
    fields F 26 (fun v => fork F (v.encode F)) m.mapping ++
    fields F 34 (fun v => fork F (v.encode F)) m.location ++
    fields F 42 (fun v => fork F (v.encode F)) m.function ++
    fields F 50 F.string.write m.stringTable ++ field F 56 F.int64.write m.dropFrames ++
    field F 64 F.int64.write m.keepFrames ++ field F 72 F.int64.write m.timeNanos ++
    field F 80 F.int64.write m.durationNanos ++
    field F 90 (fun v => fork F (v.encode F)) m.periodType ++
    field F 96 F.int64.write m.period ++ packedField F 106 F.int64 m.comment ++
    field F 112 F.int64.write m.defaultSampleType

def Profile.onField : ℕ → UInt32 → Profile → Bytes → Option (Profile × Bytes)
  | 1, _ =>
    assignMessage F (ValueType.decode F) fun v m => { m with sampleType := m.sampleType ++ [v] }
  | 2, _ => assignMessage F (Sample.decode F) fun v m => { m with sample := m.sample ++ [v] }
  | 3, _ => assignMessage F (Mapping.decode F) fun v m => { m with mapping := m.mapping ++ [v] }
  | 4, _ => assignMessage F (Location.decode F) fun v m => { m with location := m.location ++ [v] }
  | 5, _ => assignMessage F (Function.decode F) fun v m => { m with function := m.function ++ [v] }
  | 6, _ => assign F.string fun v m => { m with stringTable := m.stringTable ++ [v] }
  | 7, _ => assign F.int64 fun v m => { m with dropFrames := some v }
  | 8, _ => assign F.int64 fun v m => { m with keepFrames := some v }
  | 9, _ => assign F.int64 fun v m => { m with timeNanos := some v }
  | 10, _ => assign F.int64 fun v m => { m with durationNanos := some v }
  | 11, _ => assignMessage F (ValueType.decode F) fun v m => { m with periodType := some v }
  | 12, _ => assign F.int64 fun v m => { m with period := some v }
  | 13, wireType => assignPacked F F.int64 (fun l m => { m with comment := m.comment ++ l }) wireType
  | 14, _ => assign F.int64 fun v m => { m with defaultSampleType := some v }
  | _, wireType => skip F wireType

def Profile.decode (length : ℕ) (input : Bytes) : Option (Profile × Bytes) :=
  loopOver (fieldStep F (Profile.onField F)) length {} input

end Coding

/-! ## What a decoder makes of an encoded message -/

variable {F : Format}

theorem decode_of_takes {σ : Type} {onField : ℕ → UInt32 → σ → Bytes → Option (σ × Bytes)}
    {init : σ} {encode : σ → Bytes} {u : σ → σ → σ}
    (h : ∀ m, Takes (fieldStep F onField) (encode m) (u m)) (hinit : ∀ m, u m init = m) (m : σ)
    (rest : Bytes) (hlength : (encode m).length < 2 ^ 32) :
    loopOver (fieldStep F onField) (encode m).length init (encode m ++ rest) = some (m, rest) := by
  rw [(h m).loopOver_eq hlength, hinit]

theorem ValueType.takes_encode (m : ValueType) :
    Takes (fieldStep F (onField F)) (m.encode F) fun a =>
      ⟨m.type.or a.type, m.unit.or a.unit⟩ := by
  have htype := takes_field F (onField F) ValueType.type (fun v a => { a with type := v }) (fun _
    => rfl) 8 F.int64 rfl m.type
  have hunit := takes_field F (onField F) ValueType.unit (fun v a => { a with unit := v }) (fun _
    => rfl) 16 F.int64 rfl m.unit
  exact htype.append hunit

def ValueType.coding (F : Format) : Coding ValueType :=
  delimited F (encode F) (decode F) (decode_of_takes takes_encode fun m => by simp)

theorem Label.takes_encode (m : Label) :
    Takes (fieldStep F (onField F)) (m.encode F) fun a =>
      ⟨m.key.or a.key, m.str.or a.str, m.num.or a.num, m.numUnit.or a.numUnit⟩ := by
  have hkey := takes_field F (onField F) Label.key (fun v a => { a with key := v }) (fun _ => rfl)
    8 F.int64 rfl m.key
  have hstr := takes_field F (onField F) Label.str (fun v a => { a with str := v }) (fun _ => rfl)
    16 F.int64 rfl m.str
  have hnum := takes_field F (onField F) Label.num (fun v a => { a with num := v }) (fun _ => rfl)
    24 F.int64 rfl m.num
  have hnumUnit := takes_field F (onField F) Label.numUnit (fun v a => { a with numUnit := v })
    (fun _ => rfl) 32 F.int64 rfl m.numUnit
  exact ((hkey.append hstr).append hnum).append hnumUnit

def Label.coding (F : Format) : Coding Label :=
  delimited F (encode F) (decode F) (decode_of_takes takes_encode fun m => by simp)

theorem Sample.takes_encode (m : Sample) :
    Takes (fieldStep F (onField F)) (m.encode F) fun a =>
      ⟨a.locationId ++ m.locationId, a.value ++ m.value, a.label ++ m.label⟩ := by
  have hlocationId := takes_packedField F (onField F) Sample.locationId (fun v a => { a with
    locationId := v }) (fun _ => rfl) 10 F.uint64 rfl m.locationId
  have hvalue := takes_packedField F (onField F) Sample.value (fun v a => { a with value := v })
    (fun _ => rfl) 18 F.int64 rfl m.value
  have hlabel := takes_fields F (onField F) Sample.label (fun v a => { a with label := v }) (fun _
    => rfl) (fun _ _ => rfl) (fun _ _ _ => rfl) 26 (Label.coding F) rfl m.label
  exact (hlocationId.append hvalue).append hlabel

def Sample.coding (F : Format) : Coding Sample :=
  delimited F (encode F) (decode F) (decode_of_takes takes_encode fun m => by simp)

theorem Mapping.takes_encode (m : Mapping) :
    Takes (fieldStep F (onField F)) (m.encode F) fun a =>
      ⟨m.id.or a.id, m.memoryStart.or a.memoryStart, m.memoryLimit.or a.memoryLimit,
        m.fileOffset.or a.fileOffset, m.filename.or a.filename, m.buildId.or a.buildId,
          m.hasFunctions.or a.hasFunctions, m.hasFilenames.or a.hasFilenames, m.hasLineNumbers.or
            a.hasLineNumbers, m.hasInlineFrames.or a.hasInlineFrames⟩ := by
  have hid := takes_field F (onField F) Mapping.id (fun v a => { a with id := v }) (fun _ => rfl) 8
    F.uint64 rfl m.id
  have hmemoryStart := takes_field F (onField F) Mapping.memoryStart (fun v a => { a with
    memoryStart := v }) (fun _ => rfl) 16 F.uint64 rfl m.memoryStart
  have hmemoryLimit := takes_field F (onField F) Mapping.memoryLimit (fun v a => { a with
    memoryLimit := v }) (fun _ => rfl) 24 F.uint64 rfl m.memoryLimit
  have hfileOffset := takes_field F (onField F) Mapping.fileOffset (fun v a => { a with fileOffset
    := v }) (fun _ => rfl) 32 F.uint64 rfl m.fileOffset
  have hfilename := takes_field F (onField F) Mapping.filename (fun v a => { a with filename := v
    }) (fun _ => rfl) 40 F.int64 rfl m.filename
  have hbuildId := takes_field F (onField F) Mapping.buildId (fun v a => { a with buildId := v })
    (fun _ => rfl) 48 F.int64 rfl m.buildId
  have hhasFunctions := takes_field F (onField F) Mapping.hasFunctions (fun v a => { a with
    hasFunctions := v }) (fun _ => rfl) 56 F.bool rfl m.hasFunctions
  have hhasFilenames := takes_field F (onField F) Mapping.hasFilenames (fun v a => { a with
    hasFilenames := v }) (fun _ => rfl) 64 F.bool rfl m.hasFilenames
  have hhasLineNumbers := takes_field F (onField F) Mapping.hasLineNumbers (fun v a => { a with
    hasLineNumbers := v }) (fun _ => rfl) 72 F.bool rfl m.hasLineNumbers
  have hhasInlineFrames := takes_field F (onField F) Mapping.hasInlineFrames (fun v a => { a with
    hasInlineFrames := v }) (fun _ => rfl) 80 F.bool rfl m.hasInlineFrames
  exact ((((((((hid.append hmemoryStart).append hmemoryLimit).append hfileOffset).append
    hfilename).append hbuildId).append hhasFunctions).append hhasFilenames).append
      hhasLineNumbers).append hhasInlineFrames

def Mapping.coding (F : Format) : Coding Mapping :=
  delimited F (encode F) (decode F) (decode_of_takes takes_encode fun m => by simp)

theorem Line.takes_encode (m : Line) :
    Takes (fieldStep F (onField F)) (m.encode F) fun a =>
      ⟨m.functionId.or a.functionId, m.line.or a.line⟩ := by
  have hfunctionId := takes_field F (onField F) Line.functionId (fun v a => { a with functionId :=
    v }) (fun _ => rfl) 8 F.uint64 rfl m.functionId
  have hline := takes_field F (onField F) Line.line (fun v a => { a with line := v }) (fun _ =>
    rfl) 16 F.int64 rfl m.line
  exact hfunctionId.append hline

def Line.coding (F : Format) : Coding Line :=
  delimited F (encode F) (decode F) (decode_of_takes takes_encode fun m => by simp)

theorem Location.takes_encode (m : Location) :
    Takes (fieldStep F (onField F)) (m.encode F) fun a =>
      ⟨m.id.or a.id, m.mappingId.or a.mappingId, m.address.or a.address, a.line ++ m.line⟩ := by
  have hid := takes_field F (onField F) Location.id (fun v a => { a with id := v }) (fun _ => rfl)
    8 F.uint64 rfl m.id
  have hmappingId := takes_field F (onField F) Location.mappingId (fun v a => { a with mappingId :=
    v }) (fun _ => rfl) 16 F.uint64 rfl m.mappingId
  have haddress := takes_field F (onField F) Location.address (fun v a => { a with address := v })
    (fun _ => rfl) 24 F.uint64 rfl m.address
  have hline := takes_fields F (onField F) Location.line (fun v a => { a with line := v }) (fun _
    => rfl) (fun _ _ => rfl) (fun _ _ _ => rfl) 34 (Line.coding F) rfl m.line
  exact ((hid.append hmappingId).append haddress).append hline

def Location.coding (F : Format) : Coding Location :=
  delimited F (encode F) (decode F) (decode_of_takes takes_encode fun m => by simp)

theorem Function.takes_encode (m : Function) :
    Takes (fieldStep F (onField F)) (m.encode F) fun a =>
      ⟨m.id.or a.id, m.name.or a.name, m.systemName.or a.systemName, m.filename.or a.filename,
        m.startLine.or a.startLine⟩ := by
  have hid := takes_field F (onField F) Function.id (fun v a => { a with id := v }) (fun _ => rfl)
    8 F.uint64 rfl m.id
  have hname := takes_field F (onField F) Function.name (fun v a => { a with name := v }) (fun _ =>
    rfl) 16 F.int64 rfl m.name
  have hsystemName := takes_field F (onField F) Function.systemName (fun v a => { a with systemName
    := v }) (fun _ => rfl) 24 F.int64 rfl m.systemName
  have hfilename := takes_field F (onField F) Function.filename (fun v a => { a with filename := v
    }) (fun _ => rfl) 32 F.int64 rfl m.filename
  have hstartLine := takes_field F (onField F) Function.startLine (fun v a => { a with startLine :=
    v }) (fun _ => rfl) 40 F.int64 rfl m.startLine
  exact (((hid.append hname).append hsystemName).append hfilename).append hstartLine

def Function.coding (F : Format) : Coding Function :=
  delimited F (encode F) (decode F) (decode_of_takes takes_encode fun m => by simp)

/-- Two profiles as one: lists go on, and other fields count the last time that they are there. -/
def Profile.merge (a m : Profile) : Profile where
  sampleType := a.sampleType ++ m.sampleType
  sample := a.sample ++ m.sample
  mapping := a.mapping ++ m.mapping
  location := a.location ++ m.location
  function := a.function ++ m.function
  stringTable := a.stringTable ++ m.stringTable
  dropFrames := m.dropFrames.or a.dropFrames
  keepFrames := m.keepFrames.or a.keepFrames
  timeNanos := m.timeNanos.or a.timeNanos
  durationNanos := m.durationNanos.or a.durationNanos
  periodType := m.periodType.or a.periodType
  period := m.period.or a.period
  comment := a.comment ++ m.comment
  defaultSampleType := m.defaultSampleType.or a.defaultSampleType

theorem Profile.takes_encode (m : Profile) :
    Takes (fieldStep F (onField F)) (m.encode F) (·.merge m) := by
  have hsampleType := takes_fields F (onField F) Profile.sampleType (fun v a => { a with sampleType
    := v }) (fun _ => rfl) (fun _ _ => rfl) (fun _ _ _ => rfl) 10 (ValueType.coding F) rfl
      m.sampleType
  have hsample := takes_fields F (onField F) Profile.sample (fun v a => { a with sample := v })
    (fun _ => rfl) (fun _ _ => rfl) (fun _ _ _ => rfl) 18 (Sample.coding F) rfl m.sample
  have hmapping := takes_fields F (onField F) Profile.mapping (fun v a => { a with mapping := v })
    (fun _ => rfl) (fun _ _ => rfl) (fun _ _ _ => rfl) 26 (Mapping.coding F) rfl m.mapping
  have hlocation := takes_fields F (onField F) Profile.location (fun v a => { a with location := v
    }) (fun _ => rfl) (fun _ _ => rfl) (fun _ _ _ => rfl) 34 (Location.coding F) rfl m.location
  have hfunction := takes_fields F (onField F) Profile.function (fun v a => { a with function := v
    }) (fun _ => rfl) (fun _ _ => rfl) (fun _ _ _ => rfl) 42 (Function.coding F) rfl m.function
  have hstringTable := takes_fields F (onField F) Profile.stringTable (fun v a => { a with
    stringTable := v }) (fun _ => rfl) (fun _ _ => rfl) (fun _ _ _ => rfl) 50 F.string rfl
      m.stringTable
  have hdropFrames := takes_field F (onField F) Profile.dropFrames (fun v a => { a with dropFrames
    := v }) (fun _ => rfl) 56 F.int64 rfl m.dropFrames
  have hkeepFrames := takes_field F (onField F) Profile.keepFrames (fun v a => { a with keepFrames
    := v }) (fun _ => rfl) 64 F.int64 rfl m.keepFrames
  have htimeNanos := takes_field F (onField F) Profile.timeNanos (fun v a => { a with timeNanos :=
    v }) (fun _ => rfl) 72 F.int64 rfl m.timeNanos
  have hdurationNanos := takes_field F (onField F) Profile.durationNanos (fun v a => { a with
    durationNanos := v }) (fun _ => rfl) 80 F.int64 rfl m.durationNanos
  have hperiodType := takes_field F (onField F) Profile.periodType (fun v a => { a with periodType
    := v }) (fun _ => rfl) 90 (ValueType.coding F) rfl m.periodType
  have hperiod := takes_field F (onField F) Profile.period (fun v a => { a with period := v }) (fun
    _ => rfl) 96 F.int64 rfl m.period
  have hcomment := takes_packedField F (onField F) Profile.comment (fun v a => { a with comment :=
    v }) (fun _ => rfl) 106 F.int64 rfl m.comment
  have hdefaultSampleType := takes_field F (onField F) Profile.defaultSampleType (fun v a => { a
    with defaultSampleType := v }) (fun _ => rfl) 112 F.int64 rfl m.defaultSampleType
  exact ((((((((((((hsampleType.append hsample).append hmapping).append hlocation).append
    hfunction).append hstringTable).append hdropFrames).append hkeepFrames).append
      htimeNanos).append hdurationNanos).append hperiodType).append hperiod).append
        hcomment).append hdefaultSampleType

/-- **Round trip.** A profile of less than 4 GiB is decoded as it was encoded, with all messages in
it. -/
theorem profile_round_trip (F : Format) (m : Profile) (rest : Bytes)
    (hlength : (m.encode F).length < 2 ^ 32) :
    Profile.decode F (m.encode F).length (m.encode F ++ rest) = some (m, rest) :=
  decode_of_takes Profile.takes_encode (fun m => by simp [Profile.merge]) m rest hlength

/-- A profile with one sample, of a negative value. -/
def smallProfile : Profile where
  sample := [{ locationId := [1, 300], value := [-1], label := [{ key := some 1, num := some 5 }] }]
  location := [{ id := some 1, line := [{ functionId := some 1, line := some (-1) }] }]
  stringTable := ["", "source.event.time"]
  periodType := some { type := some 1 }

theorem small_profile_round_trip :
    Profile.decode protobuf (smallProfile.encode protobuf).length
      (smallProfile.encode protobuf ++ []) = some (smallProfile, []) :=
  profile_round_trip protobuf smallProfile [] (by decide)

/-! ## Parts of a profile -/

/-- A field with a number that a profile does not have, and a value of any wire type. -/
structure UnknownField (F : Format) where
  tag : UInt32
  content : Bytes
  number : 14 < (tag >>> 3).toNat
  value : ValueOf F (tag &&& 7) content

def UnknownField.encode (u : UnknownField F) : Bytes := F.uint32.write u.tag ++ u.content

theorem Profile.onField_unknown {number : ℕ} (h : 14 < number) (wireType : UInt32) :
    Profile.onField F number wireType = skip F wireType := by
  obtain ⟨k, rfl⟩ := Nat.exists_eq_add_of_le' h
  rfl

theorem UnknownField.takes_encode (u : UnknownField F) :
    Takes (fieldStep F (Profile.onField F)) u.encode id :=
  takes_unknown F (Profile.onField F) u.tag (Profile.onField_unknown u.number _) u.value

/-- A part of what a decoder is given. -/
def encodePart (F : Format) : Profile ⊕ UnknownField F → Bytes
  | .inl m => m.encode F
  | .inr u => u.encode

def mergePart (a : Profile) : Profile ⊕ UnknownField F → Profile
  | .inl m => a.merge m
  | .inr _ => a

theorem takes_parts (parts : List (Profile ⊕ UnknownField F)) :
    Takes (fieldStep F (Profile.onField F)) (parts.flatMap (encodePart F))
      fun a => parts.foldl mergePart a := by
  induction parts with
  | nil => exact .nil
  | cons part parts ih =>
    rw [List.flatMap_cons]
    cases part with
    | inl m => exact m.takes_encode.append ih
    | inr u => exact u.takes_encode.append ih

/-- **Parts.** Encoded profiles in a row, with unknown fields anywhere between them, are decoded as
the profiles merged in their order. -/
theorem profile_parts_merged (F : Format) (parts : List (Profile ⊕ UnknownField F)) (rest : Bytes)
    (hlength : (parts.flatMap (encodePart F)).length < 2 ^ 32) :
    Profile.decode F (parts.flatMap (encodePart F)).length
      (parts.flatMap (encodePart F) ++ rest) = some (parts.foldl mergePart {}, rest) :=
  (takes_parts parts).loopOver_eq hlength {} rest

/-- Field 16 with three bytes, and field 15 with a group of a fixed number and a varint. -/
def laterFields : List (UnknownField protobuf) :=
  [⟨130, _, by decide, .delimited [1, 2, 3]⟩,
    ⟨123, _, by decide, .group 13 (by decide) (.fixed32 [1, 2, 3, 4] rfl)
      (.group 8 (by decide) (.varint 300) (.endGroup 124 (by decide)))⟩]

theorem newer_profile_merged :
    let parts : List (Profile ⊕ UnknownField protobuf) :=
      .inl { stringTable := [""], period := some 1 } :: laterFields.map .inr ++
        [.inl { stringTable := ["f"], period := some 2 }]
    Profile.decode protobuf (parts.flatMap (encodePart protobuf)).length
      (parts.flatMap (encodePart protobuf) ++ []) =
        some ({ stringTable := ["", "f"], period := some 2 }, []) :=
  profile_parts_merged protobuf _ [] (by decide)

end SplunkOtel.Profiling.Proto
