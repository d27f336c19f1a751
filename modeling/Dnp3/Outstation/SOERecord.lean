import Dnp3.App.Objects
import Dnp3.Outstation.EventCount

/-!
# Records of the sequence of events

A record holds the value of an event with the default and the selected variation of its type, and
what all types share.  The source keeps the value in a union beside the type; here the type is that
of the value.  Records have an identity, by which a run can be followed; the source tells them apart
by their place in the array.

There is one type of record for all types of events, `EventValue`, with a constructor for each of
them, as in the union of the source.  A record that is selected remembers the variation it was asked
for in, and a reset forgets the selection.  `id` is not in the source; it numbers the records as
they are stored and lets statements about runs speak of one record over time.  None of these
operations changes the type or the class of a record, which is all that the counters depend on.
-/

namespace Dnp3
namespace Outstation

open App

/-! ## Event variations -/

/-- The variations of events of binary inputs. -/
inductive EventBinaryVariation where
  | group2Var1
  | group2Var2
  | group2Var3
  deriving DecidableEq, Repr

/-- The variations of events of double-bit binary inputs. -/
inductive EventDoubleBinaryVariation where
  | group4Var1
  | group4Var2
  | group4Var3
  deriving DecidableEq, Repr

/-- The variations of events of binary outputs. -/
inductive EventBinaryOutputStatusVariation where
  | group11Var1
  | group11Var2
  deriving DecidableEq, Repr

/-- The variations of events of counters. -/
inductive EventCounterVariation where
  | group22Var1
  | group22Var2
  | group22Var5
  | group22Var6
  deriving DecidableEq, Repr

/-- The variations of events of frozen counters. -/
inductive EventFrozenCounterVariation where
  | group23Var1
  | group23Var2
  | group23Var5
  | group23Var6
  deriving DecidableEq, Repr

/-- The variations of events of analog inputs. -/
inductive EventAnalogVariation where
  | group32Var1
  | group32Var2
  | group32Var3
  | group32Var4
  | group32Var5
  | group32Var6
  | group32Var7
  | group32Var8
  deriving DecidableEq, Repr

/-- The variations of events of analog outputs. -/
inductive EventAnalogOutputStatusVariation where
  | group42Var1
  | group42Var2
  | group42Var3
  | group42Var4
  | group42Var5
  | group42Var6
  | group42Var7
  | group42Var8
  deriving DecidableEq, Repr

/-- The variations of events of security statistics. -/
inductive EventSecurityStatVariation where
  | group122Var1
  | group122Var2
  deriving DecidableEq, Repr

/-! ## Events and records -/

/-- A measurement that is to be recorded. -/
structure Event (T V : Type) where
  value : T
  index : UInt16
  clazz : EventClass
  variation : V
  deriving DecidableEq, Repr

/-- A call of `Update` of the event receiver. -/
inductive EventUpdate where
  | binary (evt : Event Binary EventBinaryVariation)
  | doubleBitBinary (evt : Event DoubleBitBinary EventDoubleBinaryVariation)
  | binaryOutputStatus (evt : Event BinaryOutputStatus EventBinaryOutputStatusVariation)
  | counter (evt : Event Counter EventCounterVariation)
  | frozenCounter (evt : Event FrozenCounter EventFrozenCounterVariation)
  | analog (evt : Event Analog EventAnalogVariation)
  | analogOutputStatus (evt : Event AnalogOutputStatus EventAnalogOutputStatusVariation)
  | securityStat (evt : Event SecurityStat EventSecurityStatVariation)
  deriving DecidableEq, Repr

/-- A value, the variation of its point and the one it was selected with. -/
structure ValueAndVariation (T V : Type) where
  value : T
  defaultVariation : V
  selectedVariation : V
  deriving DecidableEq, Repr

namespace ValueAndVariation

variable {T V : Type}

/-- The event is selected with the variation of its point. -/
def selectDefaultVariation (v : ValueAndVariation T V) : ValueAndVariation T V :=
  { v with selectedVariation := v.defaultVariation }

/-- The event is selected with a variation. -/
def select (v : ValueAndVariation T V) (variation : V) : ValueAndVariation T V :=
  { v with selectedVariation := variation }

end ValueAndVariation

/-- The value of a record, by the type of the event. -/
inductive EventValue where
  | binary (v : ValueAndVariation Bool EventBinaryVariation)
  | doubleBitBinary (v : ValueAndVariation DoubleBit EventDoubleBinaryVariation)
  | binaryOutputStatus (v : ValueAndVariation Bool EventBinaryOutputStatusVariation)
  | counter (v : ValueAndVariation UInt32 EventCounterVariation)
  | frozenCounter (v : ValueAndVariation UInt32 EventFrozenCounterVariation)
  | analog (v : ValueAndVariation Double EventAnalogVariation)
  | analogOutputStatus (v : ValueAndVariation Double EventAnalogOutputStatusVariation)
  | securityStat (v : ValueAndVariation SecurityStatValue EventSecurityStatVariation)
  deriving DecidableEq, Repr

namespace EventValue

/-- The type of the event. -/
def type : EventValue → EventType
  | binary _ => .binary
  | doubleBitBinary _ => .doubleBitBinary
  | binaryOutputStatus _ => .binaryOutputStatus
  | counter _ => .counter
  | frozenCounter _ => .frozenCounter
  | analog _ => .analog
  | analogOutputStatus _ => .analogOutputStatus
  | securityStat _ => .securityStat

/-- The event is selected with the variation of its point, whatever its type. -/
def selectDefaultVariation : EventValue → EventValue
  | binary v => .binary v.selectDefaultVariation
  | doubleBitBinary v => .doubleBitBinary v.selectDefaultVariation
  | binaryOutputStatus v => .binaryOutputStatus v.selectDefaultVariation
  | counter v => .counter v.selectDefaultVariation
  | frozenCounter v => .frozenCounter v.selectDefaultVariation
  | analog v => .analog v.selectDefaultVariation
  | analogOutputStatus v => .analogOutputStatus v.selectDefaultVariation
  | securityStat v => .securityStat v.selectDefaultVariation

@[simp] theorem type_selectDefaultVariation (v : EventValue) :
    v.selectDefaultVariation.type = v.type := by
  cases v <;> rfl

end EventValue

/-- A type of events and a variation of it; no variation stands for the default of each record.
These are the arguments of the templates `SelectByType`. -/
inductive TypeSelection where
  | binary (var : Option EventBinaryVariation)
  | doubleBitBinary (var : Option EventDoubleBinaryVariation)
  | binaryOutputStatus (var : Option EventBinaryOutputStatusVariation)
  | counter (var : Option EventCounterVariation)
  | frozenCounter (var : Option EventFrozenCounterVariation)
  | analog (var : Option EventAnalogVariation)
  | analogOutputStatus (var : Option EventAnalogOutputStatusVariation)
  | securityStat (var : Option EventSecurityStatVariation)
  deriving DecidableEq, Repr

/-- The type of the events that are selected. -/
def TypeSelection.type : TypeSelection → EventType
  | binary _ => .binary
  | doubleBitBinary _ => .doubleBitBinary
  | binaryOutputStatus _ => .binaryOutputStatus
  | counter _ => .counter
  | frozenCounter _ => .frozenCounter
  | analog _ => .analog
  | analogOutputStatus _ => .analogOutputStatus
  | securityStat _ => .securityStat

/-- Set the selected variation; the source only does it for a value of the type. -/
def EventValue.select : EventValue → TypeSelection → EventValue
  | .binary v, .binary (some var) => .binary (v.select var)
  | .doubleBitBinary v, .doubleBitBinary (some var) => .doubleBitBinary (v.select var)
  | .binaryOutputStatus v, .binaryOutputStatus (some var) => .binaryOutputStatus (v.select var)
  | .counter v, .counter (some var) => .counter (v.select var)
  | .frozenCounter v, .frozenCounter (some var) => .frozenCounter (v.select var)
  | .analog v, .analog (some var) => .analog (v.select var)
  | .analogOutputStatus v, .analogOutputStatus (some var) => .analogOutputStatus (v.select var)
  | .securityStat v, .securityStat (some var) => .securityStat (v.select var)
  | v, _ => v.selectDefaultVariation

@[simp] theorem EventValue.type_select (v : EventValue) (s : TypeSelection) :
    (v.select s).type = v.type := by
  unfold select
  split <;> first | rfl | exact v.type_selectDefaultVariation

/-- An event in the buffer, with what was done with it. -/
structure SOERecord where
  /-- The identity of the record. -/
  id : Nat
  value : EventValue
  clazz : EventClass
  selected : Bool
  written : Bool
  index : UInt16
  time : DNPTime
  flags : UInt8
  deriving DecidableEq, Repr

namespace SOERecord

/-- The type of the event. -/
def type (r : SOERecord) : EventType := r.value.type

/-- A record that is neither selected nor written. -/
def ofValue (id : Nat) (value : EventValue) (clazz : EventClass) (index : UInt16) (time : DNPTime)
    (flags : UInt8) : SOERecord :=
  { id := id, value := value, clazz := clazz, selected := false, written := false, index := index,
    time := time, flags := flags }

/-- A record of a new event; the default variation is selected. -/
def ofUpdate (id : Nat) : EventUpdate → SOERecord
  | .binary evt =>
    ofValue id (.binary ⟨evt.value.value, evt.variation, evt.variation⟩) evt.clazz evt.index
      evt.value.time evt.value.quality
  | .doubleBitBinary evt =>
    ofValue id (.doubleBitBinary ⟨evt.value.value, evt.variation, evt.variation⟩) evt.clazz
      evt.index evt.value.time evt.value.quality
  | .binaryOutputStatus evt =>
    ofValue id (.binaryOutputStatus ⟨evt.value.value, evt.variation, evt.variation⟩) evt.clazz
      evt.index evt.value.time evt.value.quality
  | .counter evt =>
    ofValue id (.counter ⟨evt.value.value, evt.variation, evt.variation⟩) evt.clazz evt.index
      evt.value.time evt.value.quality
  | .frozenCounter evt =>
    ofValue id (.frozenCounter ⟨evt.value.value, evt.variation, evt.variation⟩) evt.clazz evt.index
      evt.value.time evt.value.quality
  | .analog evt =>
    ofValue id (.analog ⟨evt.value.value, evt.variation, evt.variation⟩) evt.clazz evt.index
      evt.value.time evt.value.quality
  | .analogOutputStatus evt =>
    ofValue id (.analogOutputStatus ⟨evt.value.value, evt.variation, evt.variation⟩) evt.clazz
      evt.index evt.value.time evt.value.quality
  | .securityStat evt =>
    ofValue id (.securityStat ⟨evt.value.value, evt.variation, evt.variation⟩) evt.clazz evt.index
      evt.value.time evt.value.quality

/-- The event is selected with the variation of its point. -/
def selectDefault (r : SOERecord) : SOERecord :=
  { r with selected := true, value := r.value.selectDefaultVariation }

/-- The event is selected with the variation that was asked for. -/
def select (r : SOERecord) (s : TypeSelection) : SOERecord :=
  { r with selected := true, value := r.value.select s }

/-- The event is neither selected nor written. -/
def reset (r : SOERecord) : SOERecord := { r with selected := false, written := false }

/-- The bytes of the record are in a fragment. -/
def markWritten (r : SOERecord) : SOERecord := { r with written := true }

@[simp] theorem type_selectDefault (r : SOERecord) : r.selectDefault.type = r.type :=
  r.value.type_selectDefaultVariation

@[simp] theorem type_select (r : SOERecord) (s : TypeSelection) : (r.select s).type = r.type :=
  r.value.type_select s

@[simp] theorem type_reset (r : SOERecord) : r.reset.type = r.type := rfl

@[simp] theorem type_markWritten (r : SOERecord) : r.markWritten.type = r.type := rfl

end SOERecord

namespace EventUpdate

/-- The type of the new event. -/
def type : EventUpdate → EventType
  | binary _ => .binary
  | doubleBitBinary _ => .doubleBitBinary
  | binaryOutputStatus _ => .binaryOutputStatus
  | counter _ => .counter
  | frozenCounter _ => .frozenCounter
  | analog _ => .analog
  | analogOutputStatus _ => .analogOutputStatus
  | securityStat _ => .securityStat

/-- The class of the new event. -/
def clazz : EventUpdate → EventClass
  | binary evt => evt.clazz
  | doubleBitBinary evt => evt.clazz
  | binaryOutputStatus evt => evt.clazz
  | counter evt => evt.clazz
  | frozenCounter evt => evt.clazz
  | analog evt => evt.clazz
  | analogOutputStatus evt => evt.clazz
  | securityStat evt => evt.clazz

end EventUpdate

@[simp] theorem SOERecord.type_ofUpdate (id : Nat) (evt : EventUpdate) :
    (SOERecord.ofUpdate id evt).type = evt.type := by
  cases evt <;> rfl

@[simp] theorem SOERecord.clazz_ofUpdate (id : Nat) (evt : EventUpdate) :
    (SOERecord.ofUpdate id evt).clazz = evt.clazz := by
  cases evt <;> rfl

@[simp] theorem SOERecord.selected_ofUpdate (id : Nat) (evt : EventUpdate) :
    (SOERecord.ofUpdate id evt).selected = false := by
  cases evt <;> rfl

@[simp] theorem SOERecord.written_ofUpdate (id : Nat) (evt : EventUpdate) :
    (SOERecord.ofUpdate id evt).written = false := by
  cases evt <;> rfl

@[simp] theorem SOERecord.id_ofUpdate (id : Nat) (evt : EventUpdate) :
    (SOERecord.ofUpdate id evt).id = id := by
  cases evt <;> rfl

end Outstation
end Dnp3
