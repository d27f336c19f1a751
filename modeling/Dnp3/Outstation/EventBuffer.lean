import Dnp3.Openpal.LinkedList
import Dnp3.App.GroupVariation
import Dnp3.App.IINField
import Dnp3.Outstation.EventWriter

/-!
# The event buffer

The buffer keeps the records of all types in the order of the events.  A READ selects records by
class or by type, loading a response writes selected records into it, and a confirm clears the
records that were written.  When there is no room for an event, the oldest event of its type is
discarded.

Three counts follow the records: of all of them, of those selected, and of those written.  The
selectors compute from the first two how many records are left to select, in unsigned arithmetic;
`wrapped` remembers whether that difference ever wrapped, and is not in the source.
-/

namespace Dnp3
namespace Outstation

open App Openpal

/-! ## Configuration -/

/-- The maximum number of events of each type. -/
structure EventBufferConfig where
  maxBinaryEvents : UInt16
  maxDoubleBinaryEvents : UInt16
  maxAnalogEvents : UInt16
  maxCounterEvents : UInt16
  maxFrozenCounterEvents : UInt16
  maxBinaryOutputStatusEvents : UInt16
  maxAnalogOutputStatusEvents : UInt16
  maxSecurityStatisticEvents : UInt16
  deriving DecidableEq, Repr

namespace EventBufferConfig

/-- The same limit for every type. -/
def allTypes (sizes : UInt16) : EventBufferConfig :=
  ⟨sizes, sizes, sizes, sizes, sizes, sizes, sizes, sizes⟩

/-- The limit of a type. -/
def getMaxEventsForType (c : EventBufferConfig) : EventType → UInt16
  | .binary => c.maxBinaryEvents
  | .doubleBitBinary => c.maxDoubleBinaryEvents
  | .binaryOutputStatus => c.maxBinaryOutputStatusEvents
  | .counter => c.maxCounterEvents
  | .frozenCounter => c.maxFrozenCounterEvents
  | .analog => c.maxAnalogEvents
  | .analogOutputStatus => c.maxAnalogOutputStatusEvents
  | .securityStat => c.maxSecurityStatisticEvents

/-- The sum of the maxima; it does not overflow. -/
def totalEvents (c : EventBufferConfig) : Nat :=
  c.maxBinaryEvents.toNat + c.maxDoubleBinaryEvents.toNat + c.maxAnalogEvents.toNat +
    c.maxCounterEvents.toNat + c.maxFrozenCounterEvents.toNat +
    c.maxBinaryOutputStatusEvents.toNat + c.maxAnalogOutputStatusEvents.toNat +
    c.maxSecurityStatisticEvents.toNat

theorem totalEvents_lt (c : EventBufferConfig) : c.totalEvents < 2 ^ 32 := by
  have := c.maxBinaryEvents.toNat_lt
  have := c.maxDoubleBinaryEvents.toNat_lt
  have := c.maxAnalogEvents.toNat_lt
  have := c.maxCounterEvents.toNat_lt
  have := c.maxFrozenCounterEvents.toNat_lt
  have := c.maxBinaryOutputStatusEvents.toNat_lt
  have := c.maxAnalogOutputStatusEvents.toNat_lt
  have := c.maxSecurityStatisticEvents.toNat_lt
  simp only [totalEvents]
  omega

end EventBufferConfig

/-! ## Loops over the records -/

/-- The records and the counts of the selected and the written ones. -/
structure Selection where
  records : List SOERecord
  selectedCounts : EventCount
  writtenCounts : EventCount

/-- The loop of `Unselect`: it stops behind the record with which the selected count becomes zero.
-/
def unselectRecords : List SOERecord → EventCount → EventCount → Selection
  | [], selectedCounts, writtenCounts => ⟨[], selectedCounts, writtenCounts⟩
  | r :: rs, selectedCounts, writtenCounts =>
    let selectedCounts := selectedCounts.decrementIf r.selected r.clazz r.type
    let writtenCounts := writtenCounts.decrementIf r.written r.clazz r.type
    if selectedCounts.total > 0 then
      let s := unselectRecords rs selectedCounts writtenCounts
      { s with records := r.reset :: s.records }
    else ⟨r.reset :: rs, selectedCounts, writtenCounts⟩

/-- The loop of the selectors over the records that match. -/
def selectRecords (isMatch : SOERecord → Bool) (select : SOERecord → SOERecord)
    (remaining max : Nat) : (num : Nat) → EventCount → List SOERecord → List SOERecord × EventCount
  | _, selectedCounts, [] => ([], selectedCounts)
  | num, selectedCounts, r :: rs =>
    if num < remaining ∧ num < max then
      if isMatch r then
        let s := selectRecords isMatch select remaining max (num + 1)
          (selectedCounts.increment r.clazz r.type) rs
        (select r :: s.1, s.2)
      else
        let s := selectRecords isMatch select remaining max num selectedCounts rs
        (r :: s.1, s.2)
    else (r :: rs, selectedCounts)

@[simp] theorem length_unselectRecords (l : List SOERecord) (s w : EventCount) :
    (unselectRecords l s w).records.length = l.length := by
  induction l generalizing s w with
  | nil => rfl
  | cons r l ih =>
    simp only [unselectRecords]
    split
    · rw [List.length_cons, ih, List.length_cons]
    · rw [List.length_cons, List.length_cons]

@[simp] theorem length_selectRecords (isMatch : SOERecord → Bool)
    (select : SOERecord → SOERecord) (remaining max num : Nat) (s : EventCount)
    (l : List SOERecord) :
    (selectRecords isMatch select remaining max num s l).1.length = l.length := by
  induction l generalizing num s with
  | nil => rfl
  | cons r l ih =>
    simp only [selectRecords]
    split
    · split
      · rw [List.length_cons, ih, List.length_cons]
      · rw [List.length_cons, ih, List.length_cons]
    · rfl

/-! ## The buffer -/

/-- The events that were not confirmed, with the counters of them. -/
structure EventBuffer where
  overflow : Bool
  config : EventBufferConfig
  events : LinkedList SOERecord
  totalCounts : EventCount
  selectedCounts : EventCount
  writtenCounts : EventCount
  /-- The identity of the next record. -/
  nextId : Nat
  /-- The difference computed by a selector has wrapped. -/
  wrapped : Bool
  capacity_eq : events.capacity = config.totalEvents

namespace EventBuffer

/-- A buffer without events. -/
def initial (config : EventBufferConfig) : EventBuffer where
  overflow := false
  config := config
  events := .empty config.totalEvents
  totalCounts := .initial
  selectedCounts := .initial
  writtenCounts := .initial
  nextId := 0
  wrapped := false
  capacity_eq := rfl

/-- The records, oldest first. -/
abbrev records (b : EventBuffer) : List SOERecord := b.events.items

theorem length_records_lt (b : EventBuffer) : b.records.length < 2 ^ 32 := by
  have hlen := b.events.length_le
  rw [b.capacity_eq] at hlen
  exact Nat.lt_of_le_of_lt hlen b.config.totalEvents_lt

/-! ### Counts -/

/-- The counters of an event that leaves the buffer. -/
def removeFromCounts (b : EventBuffer) (r : SOERecord) : EventBuffer where
  overflow := b.overflow
  config := b.config
  events := b.events
  totalCounts := b.totalCounts.decrement r.clazz r.type
  selectedCounts := b.selectedCounts.decrementIf r.selected r.clazz r.type
  writtenCounts := b.writtenCounts.decrementIf r.written r.clazz r.type
  nextId := b.nextId
  wrapped := b.wrapped
  capacity_eq := b.capacity_eq

/-! ### Updates -/

/-- Discard the oldest record of a type, if there is one. -/
def removeOldestEventOfType (b : EventBuffer) (type : EventType) : EventBuffer :=
  let isMatch (r : SOERecord) := r.type == type
  match b.records.find? isMatch with
  | some r =>
    { b with events := b.events.removeFirst isMatch, capacity_eq := b.capacity_eq }.removeFromCounts
      r
  | none => b

/-- Append a record; in the source nothing checks that a node is free. -/
def addRecord (b : EventBuffer) (r : SOERecord) : EventBuffer :=
  match h : b.events.add r with
  | some events =>
    { b with
      events := events
      totalCounts := b.totalCounts.increment r.clazz r.type
      nextId := b.nextId + 1
      capacity_eq := by
        rw [LinkedList.add] at h
        split at h
        · cases h
          exact b.capacity_eq
        · cases h }
  | none => b

/-- `Update` of every type. -/
def updateAny (b : EventBuffer) (evt : EventUpdate) : EventBuffer :=
  let maxForType := b.config.getMaxEventsForType evt.type
  if maxForType > 0 then
    let b :=
      if (b.totalCounts.numOfType evt.type).toNat ≥ maxForType.toNat ∨ b.events.isFull then
        { b with overflow := true }.removeOldestEventOfType evt.type
      else b
    b.addRecord (.ofUpdate b.nextId evt)
  else b

/-! ### Selection -/

/-- No event is selected or written any longer. -/
def unselect (b : EventBuffer) : EventBuffer :=
  let s := unselectRecords b.records b.selectedCounts b.writtenCounts
  { b with
    events := b.events.update s.records (length_unselectRecords _ _ _)
    selectedCounts := s.selectedCounts
    writtenCounts := s.writtenCounts }

/-- What the selectors share: how many records there are, how many of them are selected, which
match, and how a record is selected. -/
def selectMatching (b : EventBuffer) (total selected : UInt32) (isMatch : SOERecord → Bool)
    (select : SOERecord → SOERecord) (max : UInt32) : EventBuffer :=
  let s := selectRecords isMatch select (total - selected).toNat max.toNat 0 b.selectedCounts
    b.records
  { b with
    events := b.events.update s.1 (length_selectRecords _ _ _ _ _ _ _)
    selectedCounts := s.2
    wrapped := b.wrapped || total < selected }

/-- Select events of some classes, at most so many. -/
def selectByClass (b : EventBuffer) (field : ClassField) (max : UInt32) : EventBuffer :=
  b.selectMatching (b.totalCounts.numOfField field) (b.selectedCounts.numOfField field)
    (fun r => field.hasEventType r.clazz) SOERecord.selectDefault max

/-- `GenericSelectByType`. -/
def selectByType (b : EventBuffer) (s : TypeSelection) (max : UInt32) : EventBuffer :=
  b.selectMatching (b.totalCounts.numOfType s.type) (b.selectedCounts.numOfType s.type)
    (fun r => r.type == s.type) (fun r => r.select s) max

/-- What is selected by a group and variation. -/
inductive EventSelection where
  | byType (s : TypeSelection)
  | byClass (field : ClassField)
  deriving DecidableEq, Repr

/-- The cases of `SelectMaxCount`. -/
def eventSelection : GroupVariation → Option EventSelection
  | .group2Var0 => some (.byType (.binary none))
  | .group2Var1 => some (.byType (.binary (some .group2Var1)))
  | .group2Var2 => some (.byType (.binary (some .group2Var2)))
  | .group2Var3 => some (.byType (.binary (some .group2Var3)))
  | .group4Var0 => some (.byType (.doubleBitBinary none))
  | .group4Var1 => some (.byType (.doubleBitBinary (some .group4Var1)))
  | .group4Var2 => some (.byType (.doubleBitBinary (some .group4Var2)))
  | .group4Var3 => some (.byType (.doubleBitBinary (some .group4Var3)))
  | .group11Var0 => some (.byType (.binaryOutputStatus none))
  | .group11Var1 => some (.byType (.binaryOutputStatus (some .group11Var1)))
  | .group11Var2 => some (.byType (.binaryOutputStatus (some .group11Var2)))
  | .group22Var0 => some (.byType (.counter none))
  | .group22Var1 => some (.byType (.counter (some .group22Var1)))
  | .group22Var2 => some (.byType (.counter (some .group22Var2)))
  | .group22Var5 => some (.byType (.counter (some .group22Var5)))
  | .group22Var6 => some (.byType (.counter (some .group22Var6)))
  | .group23Var0 => some (.byType (.frozenCounter none))
  | .group23Var1 => some (.byType (.frozenCounter (some .group23Var1)))
  | .group23Var2 => some (.byType (.frozenCounter (some .group23Var2)))
  | .group23Var5 => some (.byType (.frozenCounter (some .group23Var5)))
  | .group23Var6 => some (.byType (.frozenCounter (some .group23Var6)))
  | .group32Var0 => some (.byType (.analog none))
  | .group32Var1 => some (.byType (.analog (some .group32Var1)))
  | .group32Var2 => some (.byType (.analog (some .group32Var2)))
  | .group32Var3 => some (.byType (.analog (some .group32Var3)))
  | .group32Var4 => some (.byType (.analog (some .group32Var4)))
  | .group32Var5 => some (.byType (.analog (some .group32Var5)))
  | .group32Var6 => some (.byType (.analog (some .group32Var6)))
  | .group32Var7 => some (.byType (.analog (some .group32Var7)))
  | .group32Var8 => some (.byType (.analog (some .group32Var8)))
  | .group42Var0 => some (.byType (.analogOutputStatus none))
  | .group42Var1 => some (.byType (.analogOutputStatus (some .group42Var1)))
  | .group42Var2 => some (.byType (.analogOutputStatus (some .group42Var2)))
  | .group42Var3 => some (.byType (.analogOutputStatus (some .group42Var3)))
  | .group42Var4 => some (.byType (.analogOutputStatus (some .group42Var4)))
  | .group42Var5 => some (.byType (.analogOutputStatus (some .group42Var5)))
  | .group42Var6 => some (.byType (.analogOutputStatus (some .group42Var6)))
  | .group42Var7 => some (.byType (.analogOutputStatus (some .group42Var7)))
  | .group42Var8 => some (.byType (.analogOutputStatus (some .group42Var8)))
  | .group60Var2 => some (.byClass (.ofPointClass .class1))
  | .group60Var3 => some (.byClass (.ofPointClass .class2))
  | .group60Var4 => some (.byClass (.ofPointClass .class3))
  | .group122Var0 => some (.byType (.securityStat none))
  | .group122Var1 => some (.byType (.securityStat (some .group122Var1)))
  | .group122Var2 => some (.byType (.securityStat (some .group122Var2)))
  | _ => none

/-- Select what a header asks for, at most so many. -/
def selectMaxCount (b : EventBuffer) (gv : GroupVariation) (maximum : UInt32) :
    EventBuffer × IINField :=
  match eventSelection gv with
  | some (.byType s) => (b.selectByType s maximum, .empty)
  | some (.byClass field) => (b.selectByClass field maximum, .empty)
  | none => (b, .ofBit .funcNotSupported)

/-- Select what a header without a count asks for. -/
def selectAll (b : EventBuffer) (gv : GroupVariation) : EventBuffer × IINField :=
  b.selectMaxCount gv (2 ^ 32 - 1)

/-- Select what a header with a count asks for. -/
def selectCount (b : EventBuffer) (gv : GroupVariation) (count : UInt16) :
    EventBuffer × IINField :=
  b.selectMaxCount gv count.toUInt32

/-- Select all events of some classes. -/
def selectAllByClass (b : EventBuffer) (field : ClassField) : EventBuffer :=
  b.selectByClass field (2 ^ 32 - 1)

/-! ### Responses -/

/-- Some events are selected and not yet written. -/
def hasAnySelection (b : EventBuffer) : Bool := b.selectedCounts.total > b.writtenCounts.total

/-- Write selected events; the result says whether all of them were written. -/
def load (b : EventBuffer) (writer : HeaderWriter) : EventBuffer × HeaderWriter × Bool :=
  let w := EventWriter.write writer b.selectedCounts b.writtenCounts b.records
  ({ b with
      events := b.events.update w.records (EventWriter.write_spec _ _ _ _).length_eq
      writtenCounts := w.writtenCounts },
    w.writer, w.complete)

/-- The events that were written have been confirmed, and leave the buffer. -/
def clearWritten (b : EventBuffer) : EventBuffer :=
  let counted := (b.records.filter SOERecord.written).foldl removeFromCounts b
  { b with
    events := b.events.removeAll SOERecord.written
    totalCounts := counted.totalCounts
    selectedCounts := counted.selectedCounts
    writtenCounts := counted.writtenCounts }

/-- There are events of the class that are in no fragment. -/
def hasUnwrittenEvents (b : EventBuffer) (ec : EventClass) : Bool :=
  b.totalCounts.numOfClass ec - b.writtenCounts.numOfClass ec > 0

/-- The classes with events that are in no fragment. -/
def unwrittenClassField (b : EventBuffer) : ClassField :=
  .ofClasses false (b.hasUnwrittenEvents .ec1) (b.hasUnwrittenEvents .ec2)
    (b.hasUnwrittenEvents .ec3)

/-! ### Overflow -/

/-- There are as many events of the type as there may be. -/
def isTypeOverflown (b : EventBuffer) (type : EventType) : Bool :=
  let max := b.config.getMaxEventsForType type
  if max > 0 then (b.totalCounts.numOfType type).toNat ≥ max.toNat else false

/-- Security statistics are not looked at. -/
def isAnyTypeOverflown (b : EventBuffer) : Bool :=
  b.isTypeOverflown .binary || b.isTypeOverflown .doubleBitBinary ||
    b.isTypeOverflown .binaryOutputStatus || b.isTypeOverflown .counter ||
    b.isTypeOverflown .frozenCounter || b.isTypeOverflown .analog ||
    b.isTypeOverflown .analogOutputStatus

/-- There is room again, in the list and for each type that is looked at. -/
def hasEnoughSpaceToClearOverflow (b : EventBuffer) : Bool :=
  !(b.events.isFull || b.isAnyTypeOverflown)

/-- The overflow indication, cleared first when there is room again. -/
def isOverflown (b : EventBuffer) : EventBuffer × Bool :=
  let b := if b.overflow && b.hasEnoughSpaceToClearOverflow then { b with overflow := false } else b
  (b, b.overflow)

end EventBuffer
end Outstation
end Dnp3
