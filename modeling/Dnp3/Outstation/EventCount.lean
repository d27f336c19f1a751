import Mathlib.Data.UInt
import Dnp3.Library.Tally

/-!
# Event classes and counts

Events are counted in total, by type and by class, in unsigned 32-bit counters that wrap.  An
`EventCount` also remembers whether a counter was ever decremented at zero; the source has no such
flag, and nothing of the model reads it.

`ClassField` is the class of the source with the same masks: three bits for the classes that have
events and one for class 0, which has none.  A request, the classes that are reported unsolicited
and the classes of a point are all of this type.

`EventCount` has a counter for every class and for every type.  `CountKey` names them, so that
`get`, `increment` and `decrement` are described once for all of them (`get_increment`,
`get_decrement`), and the buffer of events can state with `Library.Tally` that every counter has the
number of its records.  A decrement below zero wraps as in the source, and `underflow_decrement`
says when it does not.
-/

namespace Dnp3
namespace Outstation

open Library

/-! ## Classes -/

/-- The kinds of measurements that have events. -/
inductive EventType where
  | binary
  | analog
  | counter
  | frozenCounter
  | doubleBitBinary
  | binaryOutputStatus
  | analogOutputStatus
  | securityStat
  deriving DecidableEq, Repr

/-- The classes that events are read and reported by. -/
inductive EventClass where
  | ec1
  | ec2
  | ec3
  deriving DecidableEq, Repr

/-- The classes of points; those of class 0 have no events. -/
inductive PointClass where
  | class0
  | class1
  | class2
  | class3
  deriving DecidableEq, Repr

/-- The bit of a class in a mask. -/
def PointClass.toType : PointClass → UInt8
  | .class0 => 0x1
  | .class1 => 0x2
  | .class2 => 0x4
  | .class3 => 0x8

/-- A set of classes, one bit for each. -/
structure ClassField where
  bitfield : UInt8
  deriving DecidableEq, Repr

namespace ClassField

/-- The mask of class 0. -/
def CLASS_0 : UInt8 := PointClass.class0.toType

/-- The mask of class 1. -/
def CLASS_1 : UInt8 := PointClass.class1.toType

/-- The mask of class 2. -/
def CLASS_2 : UInt8 := PointClass.class2.toType

/-- The mask of class 3. -/
def CLASS_3 : UInt8 := PointClass.class3.toType

/-- The mask of the classes that have events. -/
def EVENT_CLASSES : UInt8 := CLASS_1 ||| CLASS_2 ||| CLASS_3

/-- The mask of all classes. -/
def ALL_CLASSES : UInt8 := EVENT_CLASSES ||| CLASS_0

/-- No class. -/
def none : ClassField := ⟨0⟩

/-- The three classes that have events. -/
def allEventClasses : ClassField := ⟨EVENT_CLASSES⟩

/-- One class alone. -/
def ofPointClass (pc : PointClass) : ClassField := ⟨pc.toType⟩

/-- The classes of a mask; other bits are dropped. -/
def ofMask (mask : UInt8) : ClassField := ⟨mask &&& ALL_CLASSES⟩

/-- The classes that are said to be in the field. -/
def ofClasses (class0 class1 class2 class3 : Bool) : ClassField :=
  ⟨(if class0 then CLASS_0 else 0) ||| (if class1 then CLASS_1 else 0) |||
    (if class2 then CLASS_2 else 0) ||| (if class3 then CLASS_3 else 0)⟩

/-- No class is in the field. -/
def isEmpty (f : ClassField) : Bool := f.bitfield == 0

/-- Some class is in both fields. -/
def intersects (f other : ClassField) : Bool := f.bitfield &&& other.bitfield > 0

/-- The classes of the field that have events. -/
def onlyEventClasses (f : ClassField) : ClassField := ofMask (f.bitfield &&& EVENT_CLASSES)

/-- The field without the classes of another one. -/
def clear (f field : ClassField) : ClassField := ⟨f.bitfield &&& ~~~field.bitfield⟩

/-- The field with the classes of another one. -/
def set (f field : ClassField) : ClassField := ⟨f.bitfield ||| field.bitfield⟩

/-- Class 0 is in the field. -/
def hasClass0 (f : ClassField) : Bool := f.bitfield &&& CLASS_0 != 0

/-- Class 1 is in the field. -/
def hasClass1 (f : ClassField) : Bool := f.bitfield &&& CLASS_1 != 0

/-- Class 2 is in the field. -/
def hasClass2 (f : ClassField) : Bool := f.bitfield &&& CLASS_2 != 0

/-- Class 3 is in the field. -/
def hasClass3 (f : ClassField) : Bool := f.bitfield &&& CLASS_3 != 0

/-- A class of events is in the field. -/
def hasEventType (f : ClassField) : EventClass → Bool
  | .ec1 => f.hasClass1
  | .ec2 => f.hasClass2
  | .ec3 => f.hasClass3

/-- Some class of events is in the field. -/
def hasEventClass (f : ClassField) : Bool := f.bitfield &&& EVENT_CLASSES != 0

/-- Some class is in the field. -/
def hasAnyClass (f : ClassField) : Bool := f.bitfield != 0

end ClassField

/-! ## Counts -/

/-- How many events there are, of each type and of each class. -/
structure EventCount where
  total : UInt32
  numOfType : EventType → UInt32
  numOfClass : EventClass → UInt32
  /-- Some counter was decremented at zero. -/
  underflow : Bool

/-- What a counter of an `EventCount` counts. -/
inductive CountKey where
  | all
  | ofType (type : EventType)
  | ofClass (clazz : EventClass)
  deriving DecidableEq, Repr

/-- An event of this class and type counts. -/
def CountKey.covers : CountKey → EventClass → EventType → Bool
  | .all, _, _ => true
  | .ofType t, _, type => type == t
  | .ofClass ec, clazz, _ => clazz == ec

namespace EventCount

/-- No event was counted. -/
def initial : EventCount :=
  { total := 0, numOfType := fun _ => 0, numOfClass := fun _ => 0, underflow := false }

/-- `NumOfClass` of a field: the sum over its event classes. -/
def numOfField (c : EventCount) (field : ClassField) : UInt32 :=
  (if field.hasClass1 then c.numOfClass .ec1 else 0) +
    (if field.hasClass2 then c.numOfClass .ec2 else 0) +
    (if field.hasClass3 then c.numOfClass .ec3 else 0)

/-- One event more, of its class and of its type. -/
def increment (c : EventCount) (clazz : EventClass) (type : EventType) : EventCount where
  total := c.total + 1
  numOfType := fun t => if type = t then c.numOfType t + 1 else c.numOfType t
  numOfClass := fun ec => if clazz = ec then c.numOfClass ec + 1 else c.numOfClass ec
  underflow := c.underflow

/-- One event less; the counters wrap below zero, which `underflow` remembers. -/
def decrement (c : EventCount) (clazz : EventClass) (type : EventType) : EventCount where
  total := c.total - 1
  numOfType := fun t => if type = t then c.numOfType t - 1 else c.numOfType t
  numOfClass := fun ec => if clazz = ec then c.numOfClass ec - 1 else c.numOfClass ec
  underflow := c.underflow || c.total == 0 || c.numOfType type == 0 || c.numOfClass clazz == 0

/-- Decrement for an event that was counted. -/
def decrementIf (c : EventCount) (counted : Bool) (clazz : EventClass) (type : EventType) :
    EventCount :=
  if counted then c.decrement clazz type else c

/-- The counter of a key. -/
def get (c : EventCount) : CountKey → UInt32
  | .all => c.total
  | .ofType t => c.numOfType t
  | .ofClass ec => c.numOfClass ec

theorem get_initial (k : CountKey) : initial.get k = 0 := by
  cases k <;> rfl

theorem get_increment (c : EventCount) (clazz : EventClass) (type : EventType) (k : CountKey) :
    (c.increment clazz type).get k =
      if k.covers clazz type then c.get k + 1 else c.get k := by
  cases k with
  | all => rfl
  | ofType t => simp only [get, increment, CountKey.covers, beq_iff_eq]
  | ofClass ec => simp only [get, increment, CountKey.covers, beq_iff_eq]

theorem get_decrement (c : EventCount) (clazz : EventClass) (type : EventType) (k : CountKey) :
    (c.decrement clazz type).get k =
      if k.covers clazz type then c.get k - 1 else c.get k := by
  cases k with
  | all => rfl
  | ofType t => simp only [get, decrement, CountKey.covers, beq_iff_eq]
  | ofClass ec => simp only [get, decrement, CountKey.covers, beq_iff_eq]

@[simp] theorem underflow_increment (c : EventCount) (clazz : EventClass) (type : EventType) :
    (c.increment clazz type).underflow = c.underflow := rfl

/-- Nothing wraps when every counter of the event is positive. -/
theorem underflow_decrement {c : EventCount} {clazz : EventClass} {type : EventType}
    (h : ∀ k : CountKey, k.covers clazz type = true → 0 < (c.get k).toNat) :
    (c.decrement clazz type).underflow = c.underflow := by
  have hne : ∀ k : CountKey, k.covers clazz type = true → (c.get k == 0) = false := by
    intro k hk
    have hpos := h k hk
    rw [beq_eq_false_iff_ne]
    intro hzero
    rw [hzero] at hpos
    exact Nat.lt_irrefl 0 hpos
  have hall : (c.total == 0) = false := hne .all rfl
  have htype : (c.numOfType type == 0) = false := hne (.ofType type) (beq_self_eq_true type)
  have hclass : (c.numOfClass clazz == 0) = false := hne (.ofClass clazz) (beq_self_eq_true clazz)
  simp only [decrement, hall, htype, hclass, Bool.or_false]

end EventCount

end Outstation
end Dnp3
