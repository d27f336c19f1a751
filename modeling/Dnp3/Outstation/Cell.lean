import Mathlib.Data.List.Basic
import Dnp3.App.Parser
import Dnp3.Outstation.SOERecord

/-!
# The cells of the static database

The database holds an array of cells for each type of point.  The templates of the source are
instantiated with the type of the measurement; here a `StaticType` is such an instance, and what the
measurement types define for the templates (the variations, the metadata, the initial values) are
families over it.

A cell holds the current value of a point and, while the point is selected for a response, the value
it had when it was selected.  Points are addressed by a virtual index, which increases along the
array.

The names of the variations and of the metadata are those of the source, so a definition over all
types, like `Cell.updateAny`, can be read against the template it comes from.  An update of a point
in a class of events makes an event when its mode forces one, or when it is to detect events and
`isEvent` finds the value to be one (`EventMetadata.update`).  Types without events have no metadata
of this kind, and updating them makes no event.
-/

namespace Dnp3
namespace Outstation

open App

/-! ## Types of points -/

/-- The types of points, in the order in which they are loaded. -/
inductive StaticType where
  | binary
  | doubleBitBinary
  | counter
  | frozenCounter
  | analog
  | binaryOutputStatus
  | analogOutputStatus
  | timeAndInterval
  | securityStat
  deriving DecidableEq, Repr

/-- The variations of binary inputs. -/
inductive StaticBinaryVariation where
  | group1Var1
  | group1Var2
  deriving DecidableEq, Repr

/-- The variation of double-bit binary inputs. -/
inductive StaticDoubleBinaryVariation where
  | group3Var2
  deriving DecidableEq, Repr

/-- The variations of counters. -/
inductive StaticCounterVariation where
  | group20Var1
  | group20Var2
  | group20Var5
  | group20Var6
  deriving DecidableEq, Repr

/-- The variations of frozen counters. -/
inductive StaticFrozenCounterVariation where
  | group21Var1
  | group21Var2
  | group21Var5
  | group21Var6
  | group21Var9
  | group21Var10
  deriving DecidableEq, Repr

/-- The variations of analog inputs. -/
inductive StaticAnalogVariation where
  | group30Var1
  | group30Var2
  | group30Var3
  | group30Var4
  | group30Var5
  | group30Var6
  deriving DecidableEq, Repr

/-- The variation of binary outputs. -/
inductive StaticBinaryOutputStatusVariation where
  | group10Var2
  deriving DecidableEq, Repr

/-- The variations of analog outputs. -/
inductive StaticAnalogOutputStatusVariation where
  | group40Var1
  | group40Var2
  | group40Var3
  | group40Var4
  deriving DecidableEq, Repr

/-- The variation of times with intervals. -/
inductive StaticTimeAndIntervalVariation where
  | group50Var4
  deriving DecidableEq, Repr

/-- The variation of security statistics. -/
inductive StaticSecurityStatVariation where
  | group121Var1
  deriving DecidableEq, Repr

/-- When an update makes an event. -/
inductive EventMode where
  | detect
  | force
  | suppress
  deriving DecidableEq, Repr

/-- How virtual indices are mapped to positions in the array. -/
inductive IndexMode where
  | contiguous
  | discontiguous
  deriving DecidableEq, Repr

/-! ## Metadata -/

/-- What is needed to make events of a point; the deadband is `Unit` for the types without one. -/
structure EventMetadata (T V D : Type) where
  clazz : PointClass
  lastEvent : T
  variation : V
  deadband : D
  deriving DecidableEq, Repr

/-- The class of the events of a point; one of class 0 has none. -/
def convertToEventClass : PointClass → Option EventClass
  | .class1 => some .ec1
  | .class2 => some .ec2
  | .class3 => some .ec3
  | .class0 => none

/-- The metadata after an update, and the event to record. -/
def EventMetadata.update {T V D : Type} (m : EventMetadata T V D) (isEvent : T → Bool)
    (value : T) (vIndex : UInt16) (mode : EventMode) : EventMetadata T V D × Option (Event T V) :=
  match convertToEventClass m.clazz with
  | some ec =>
    let createEvent :=
      match mode with
      | .force => true
      | .detect => isEvent value
      | .suppress => false
    if createEvent then
      ({ m with lastEvent := value },
        some { value := value, index := vIndex, clazz := ec, variation := m.variation })
    else (m, none)
  | none => (m, none)

namespace StaticType

/-- The measurement type. -/
abbrev Value : StaticType → Type
  | binary => Binary
  | doubleBitBinary => DoubleBitBinary
  | counter => Counter
  | frozenCounter => FrozenCounter
  | analog => Analog
  | binaryOutputStatus => BinaryOutputStatus
  | analogOutputStatus => AnalogOutputStatus
  | timeAndInterval => TimeAndInterval
  | securityStat => SecurityStat

/-- `StaticVariation`. -/
abbrev Variation : StaticType → Type
  | binary => StaticBinaryVariation
  | doubleBitBinary => StaticDoubleBinaryVariation
  | counter => StaticCounterVariation
  | frozenCounter => StaticFrozenCounterVariation
  | analog => StaticAnalogVariation
  | binaryOutputStatus => StaticBinaryOutputStatusVariation
  | analogOutputStatus => StaticAnalogOutputStatusVariation
  | timeAndInterval => StaticTimeAndIntervalVariation
  | securityStat => StaticSecurityStatVariation

instance : (t : StaticType) → DecidableEq t.Variation
  | binary => inferInstanceAs (DecidableEq StaticBinaryVariation)
  | doubleBitBinary => inferInstanceAs (DecidableEq StaticDoubleBinaryVariation)
  | counter => inferInstanceAs (DecidableEq StaticCounterVariation)
  | frozenCounter => inferInstanceAs (DecidableEq StaticFrozenCounterVariation)
  | analog => inferInstanceAs (DecidableEq StaticAnalogVariation)
  | binaryOutputStatus => inferInstanceAs (DecidableEq StaticBinaryOutputStatusVariation)
  | analogOutputStatus => inferInstanceAs (DecidableEq StaticAnalogOutputStatusVariation)
  | timeAndInterval => inferInstanceAs (DecidableEq StaticTimeAndIntervalVariation)
  | securityStat => inferInstanceAs (DecidableEq StaticSecurityStatVariation)

/-- `MetadataType`. -/
abbrev Metadata : StaticType → Type
  | binary => EventMetadata Binary EventBinaryVariation Unit
  | doubleBitBinary => EventMetadata DoubleBitBinary EventDoubleBinaryVariation Unit
  | counter => EventMetadata Counter EventCounterVariation UInt32
  | frozenCounter => EventMetadata FrozenCounter EventFrozenCounterVariation UInt32
  | analog => EventMetadata Analog EventAnalogVariation Double
  | binaryOutputStatus => EventMetadata BinaryOutputStatus EventBinaryOutputStatusVariation Unit
  | analogOutputStatus =>
    EventMetadata AnalogOutputStatus EventAnalogOutputStatusVariation Double
  | timeAndInterval => Unit
  | securityStat => EventMetadata SecurityStat EventSecurityStatVariation UInt32

/-- The value of a new point. -/
def initial : (t : StaticType) → t.Value
  | binary => Binary.initial
  | doubleBitBinary => DoubleBitBinary.initial
  | counter => Counter.initial
  | frozenCounter => FrozenCounter.initial
  | analog => Analog.initial
  | binaryOutputStatus => BinaryOutputStatus.initial
  | analogOutputStatus => AnalogOutputStatus.initial
  | timeAndInterval => TimeAndInterval.initial
  | securityStat => SecurityStat.initial

/-- `DefaultStaticVariation`. -/
def defaultVariation : (t : StaticType) → t.Variation
  | binary => StaticBinaryVariation.group1Var2
  | doubleBitBinary => StaticDoubleBinaryVariation.group3Var2
  | counter => StaticCounterVariation.group20Var1
  | frozenCounter => StaticFrozenCounterVariation.group21Var1
  | analog => StaticAnalogVariation.group30Var1
  | binaryOutputStatus => StaticBinaryOutputStatusVariation.group10Var2
  | analogOutputStatus => StaticAnalogOutputStatusVariation.group40Var1
  | timeAndInterval => StaticTimeAndIntervalVariation.group50Var4
  | securityStat => StaticSecurityStatVariation.group121Var1

/-- The metadata of a new point. -/
def initialMetadata : (t : StaticType) → t.Metadata
  | binary => ⟨.class1, .initial, .group2Var1, ()⟩
  | doubleBitBinary => ⟨.class1, .initial, .group4Var1, ()⟩
  | counter => ⟨.class1, .initial, .group22Var1, 0⟩
  | frozenCounter => ⟨.class1, .initial, .group23Var1, 0⟩
  | analog => ⟨.class1, .initial, .group32Var1, ⟨0⟩⟩
  | binaryOutputStatus => ⟨.class1, .initial, .group11Var1, ()⟩
  | analogOutputStatus => ⟨.class1, .initial, .group42Var1, ⟨0⟩⟩
  | timeAndInterval => ()
  | securityStat => ⟨.class1, .initial, .group122Var1, 0⟩

/-- The metadata with another class. -/
def setClass : (t : StaticType) → PointClass → t.Metadata → t.Metadata
  | binary, clazz, m => { m with clazz := clazz }
  | doubleBitBinary, clazz, m => { m with clazz := clazz }
  | counter, clazz, m => { m with clazz := clazz }
  | frozenCounter, clazz, m => { m with clazz := clazz }
  | analog, clazz, m => { m with clazz := clazz }
  | binaryOutputStatus, clazz, m => { m with clazz := clazz }
  | analogOutputStatus, clazz, m => { m with clazz := clazz }
  | timeAndInterval, _, m => m
  | securityStat, clazz, m => { m with clazz := clazz }

/-- The metadata after an update, and the event to record.  Times and intervals have no events. -/
def updateMetadata : (t : StaticType) → t.Metadata → t.Value → UInt16 → EventMode →
    t.Metadata × Option EventUpdate
  | binary, m, value, i, mode =>
    (m.update m.lastEvent.isEvent value i mode).map id (Option.map .binary)
  | doubleBitBinary, m, value, i, mode =>
    (m.update m.lastEvent.isEvent value i mode).map id (Option.map .doubleBitBinary)
  | counter, m, value, i, mode =>
    (m.update (m.lastEvent.isEvent · m.deadband) value i mode).map id (Option.map .counter)
  | frozenCounter, m, value, i, mode =>
    (m.update (m.lastEvent.isEvent · m.deadband) value i mode).map id
      (Option.map .frozenCounter)
  | analog, m, value, i, mode =>
    (m.update (m.lastEvent.isEvent · m.deadband) value i mode).map id (Option.map .analog)
  | binaryOutputStatus, m, value, i, mode =>
    (m.update m.lastEvent.isEvent value i mode).map id (Option.map .binaryOutputStatus)
  | analogOutputStatus, m, value, i, mode =>
    (m.update (m.lastEvent.isEvent · m.deadband) value i mode).map id
      (Option.map .analogOutputStatus)
  | timeAndInterval, m, _, _, _ => (m, none)
  | securityStat, m, value, i, mode =>
    (m.update (m.lastEvent.isEvent · m.deadband) value i mode).map id (Option.map .securityStat)

/-- `StaticTypeBitmask`. -/
def bitmask : StaticType → UInt16
  | binary => 0x1
  | doubleBitBinary => 0x2
  | counter => 0x4
  | frozenCounter => 0x8
  | analog => 0x10
  | binaryOutputStatus => 0x20
  | analogOutputStatus => 0x40
  | timeAndInterval => 0x80
  | securityStat => 0x100

/-- The types in the order of `Load`. -/
def all : List StaticType :=
  [binary, doubleBitBinary, counter, frozenCounter, analog, binaryOutputStatus, analogOutputStatus,
    timeAndInterval, securityStat]

theorem mem_all (t : StaticType) : t ∈ all := by
  cases t <;> decide

end StaticType

/-- A set of static types. -/
structure StaticTypeBitField where
  mask : UInt16
  deriving DecidableEq, Repr

namespace StaticTypeBitField

/-- Every type is in class 0. -/
def allTypes : StaticTypeBitField := ⟨0xFFFF⟩

/-- A type is in class 0. -/
def isSet (f : StaticTypeBitField) (t : StaticType) : Bool := f.mask &&& t.bitmask != 0

end StaticTypeBitField

/-! ## Cells -/

/-- Whether a value is requested in a response, and what is to be reported. -/
structure SelectedValue (t : StaticType) where
  selected : Bool
  value : t.Value
  variation : t.Variation

/-- A point, with what a READ has selected of it. -/
structure Cell (t : StaticType) where
  value : t.Value
  vIndex : UInt16
  variation : t.Variation
  metadata : t.Metadata
  selection : SelectedValue t

namespace Cell

variable {t : StaticType}

/-- A new cell with the default index. -/
def initial (t : StaticType) (vIndex : UInt16) : Cell t where
  value := t.initial
  vIndex := vIndex
  variation := t.defaultVariation
  metadata := t.initialMetadata
  selection := { selected := false, value := t.initial, variation := t.defaultVariation }

/-- The point is not selected any longer. -/
def deselect (c : Cell t) : Cell t := { c with selection := { c.selection with selected := false } }

/-- The point is assigned to a class, if its type has events. -/
def setClass (c : Cell t) (clazz : PointClass) : Cell t :=
  { c with metadata := t.setClass clazz c.metadata }

/-- `UpdateAny`: the new value, and the event to record. -/
def updateAny (c : Cell t) (value : t.Value) (mode : EventMode) : Cell t × Option EventUpdate :=
  let (metadata, event) := t.updateMetadata c.metadata value c.vIndex mode
  ({ c with value := value, metadata := metadata }, event)

@[simp] theorem vIndex_deselect (c : Cell t) : c.deselect.vIndex = c.vIndex := rfl
@[simp] theorem selected_deselect (c : Cell t) : c.deselect.selection.selected = false := rfl
@[simp] theorem vIndex_setClass (c : Cell t) (clazz : PointClass) :
    (c.setClass clazz).vIndex = c.vIndex := rfl

@[simp] theorem vIndex_updateAny (c : Cell t) (value : t.Value) (mode : EventMode) :
    (c.updateAny value mode).1.vIndex = c.vIndex := rfl

@[simp] theorem selection_updateAny (c : Cell t) (value : t.Value) (mode : EventMode) :
    (c.updateAny value mode).1.selection = c.selection := rfl

end Cell

/-! ## Arrays of cells -/

/-- An array of cells whose virtual indices increase. -/
structure StaticBuffer (t : StaticType) where
  cells : List (Cell t)
  length_lt : cells.length < 65536
  increasing : (cells.map Cell.vIndex).Pairwise (· < ·)

namespace StaticBuffer

variable {t : StaticType}

/-- The virtual indices, in the order of the array. -/
abbrev vIndices (b : StaticBuffer t) : List UInt16 := b.cells.map Cell.vIndex

/-- The cells are replaced by others with the same virtual indices. -/
def replace (b : StaticBuffer t) (cells : List (Cell t))
    (h : cells.map Cell.vIndex = b.vIndices) : StaticBuffer t where
  cells := cells
  length_lt := by
    have hlen := congrArg List.length h
    rw [List.length_map, List.length_map] at hlen
    rw [hlen]
    exact b.length_lt
  increasing := by
    rw [h]
    exact b.increasing

/-- The number of points, as the code counts them. -/
def size (b : StaticBuffer t) : UInt16 := UInt16.ofNat b.cells.length

theorem size_toNat (b : StaticBuffer t) : b.size.toNat = b.cells.length :=
  UInt16.toNat_ofNat_of_lt' b.length_lt

/-- `view[i].vIndex`; the positions of a range of the database are those of cells. -/
def vIndexAt (cells : List (Cell t)) (i : UInt16) : UInt16 :=
  match cells[i.toNat]? with
  | some c => c.vIndex
  | none => 0

/-- Change the cells at the positions of a range, and no virtual index. -/
def updateRange (b : StaticBuffer t) (range : Range) (f : Cell t → Cell t)
    (hf : ∀ c, (f c).vIndex = c.vIndex) : StaticBuffer t :=
  b.replace (b.cells.mapIdx fun i c =>
      if range.start.toNat ≤ i ∧ i ≤ range.stop.toNat then f c else c) (by
    refine List.ext_getElem? fun i => ?_
    rw [List.getElem?_map, List.getElem?_map, List.getElem?_mapIdx]
    cases b.cells[i]? with
    | none => rfl
    | some c =>
      simp only [Option.map_some]
      split
      · rw [hf]
      · rfl)

theorem getElem?_updateRange (b : StaticBuffer t) (range : Range) (f : Cell t → Cell t)
    (hf : ∀ c, (f c).vIndex = c.vIndex) (i : Nat) :
    (b.updateRange range f hf).cells[i]? =
      if range.start.toNat ≤ i ∧ i ≤ range.stop.toNat then b.cells[i]?.map f else b.cells[i]? := by
  show (b.cells.mapIdx _)[i]? = _
  rw [List.getElem?_mapIdx]
  cases b.cells[i]? with
  | none => simp
  | some c =>
    rw [Option.map_some]
    split <;> simp_all

/-- The cells at the positions of a range. -/
def inRange (b : StaticBuffer t) (range : Range) : List (Cell t) :=
  (b.cells.take (range.stop.toNat + 1)).drop range.start.toNat

end StaticBuffer
end Outstation
end Dnp3
