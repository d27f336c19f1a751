import Dnp3.Library.Memory
import Dnp3.App.Objects

/-!
# Writing object headers

`WSlice` is the rest of a buffer that may be written: a memory with a position in it.  A
`HeaderWriter` writes object headers at the position, and hands out iterators that write the
objects of one header.  An iterator leaves room for the count or the stop index when it is made, and
fills it in when it is finished, from a counter of the width of that field.

An iterator keeps a position in the memory of its writer; here every operation on it takes the
writer's slice and returns it.

The iterators of the source are objects with a destructor, which fills in the count; here `finish`
is called where the source destroys them.  An iterator for which there was no room is `null` and
takes nothing.  `Mark` and `Rollback` take back a header that could be started while nothing behind
it could be written; only the header with a common time of occurrence needs them.
-/

namespace Dnp3
namespace App

open Library

/-! ## Slices -/

/-- A memory and the position from which it may be written. -/
structure WSlice where
  mem : List UInt8
  pos : Nat
  pos_le : pos ≤ mem.length
  deriving DecidableEq, Repr

namespace WSlice

/-- A slice at the beginning of its memory. -/
def ofMemory (mem : List UInt8) : WSlice := { mem := mem, pos := 0, pos_le := Nat.zero_le _ }

/-- The bytes that are left. -/
def size (w : WSlice) : Nat := w.mem.length - w.pos

/-- What stands before the position. -/
def written (w : WSlice) : List UInt8 := w.mem.take w.pos

/-- Advance over bytes as they are. -/
def advance (w : WSlice) (count : Nat) : WSlice where
  mem := w.mem
  pos := w.pos + min count w.size
  pos_le := by
    have := w.pos_le
    simp only [size]
    omega

/-- Write at the position, when there is room. -/
def write (w : WSlice) (bytes : List UInt8) : WSlice :=
  if h : bytes.length ≤ w.size then
    { mem := splice w.mem w.pos bytes
      pos := w.pos + bytes.length
      pos_le := by
        have := w.pos_le
        simp only [size] at h
        rw [length_splice (by omega)]
        omega }
  else w

/-- Overwrite bytes at a place, leaving the position alone. -/
def patch (w : WSlice) (place : Nat) (bytes : List UInt8) : WSlice :=
  if h : place + bytes.length ≤ w.mem.length then
    { mem := splice w.mem place bytes
      pos := w.pos
      pos_le := by
        rw [length_splice h]
        exact w.pos_le }
  else w

/-- Return to a place. -/
def rewind (w : WSlice) (place : Nat) : WSlice where
  mem := w.mem
  pos := min place w.mem.length
  pos_le := Nat.min_le_right _ _

@[simp] theorem length_written (w : WSlice) : w.written.length = w.pos := by
  rw [written, List.length_take]
  exact Nat.min_eq_left w.pos_le

@[simp] theorem pos_patch (w : WSlice) (place : Nat) (bytes : List UInt8) :
    (w.patch place bytes).pos = w.pos := by
  unfold patch
  split <;> rfl

@[simp] theorem length_patch (w : WSlice) (place : Nat) (bytes : List UInt8) :
    (w.patch place bytes).mem.length = w.mem.length := by
  unfold patch
  split
  next h => exact length_splice h
  next => rfl

@[simp] theorem size_patch (w : WSlice) (place : Nat) (bytes : List UInt8) :
    (w.patch place bytes).size = w.size := by
  simp only [size, pos_patch, length_patch]

@[simp] theorem length_mem_write (w : WSlice) (bytes : List UInt8) :
    (w.write bytes).mem.length = w.mem.length := by
  unfold write
  split
  next h =>
    have hpos := w.pos_le
    simp only [size] at h
    exact length_splice (by omega)
  next => rfl

/-- What is written ends with the bytes. -/
theorem written_write {w : WSlice} {bytes : List UInt8} (h : bytes.length ≤ w.size) :
    (w.write bytes).written = w.written ++ bytes := by
  rw [write, dif_pos h]
  exact take_splice_end bytes w.pos_le

theorem size_write {w : WSlice} {bytes : List UInt8} (h : bytes.length ≤ w.size) :
    (w.write bytes).size = w.size - bytes.length := by
  have hpos := w.pos_le
  have hfit : w.pos + bytes.length ≤ w.mem.length := by
    simp only [size] at h
    omega
  rw [write, dif_pos h]
  show (splice w.mem w.pos bytes).length - (w.pos + bytes.length) = w.size - bytes.length
  rw [length_splice hfit, size, Nat.sub_sub]

/-- Overwriting what is written. -/
theorem written_patch {w : WSlice} {place : Nat} {bytes : List UInt8}
    (h : place + bytes.length ≤ w.pos) :
    (w.patch place bytes).written = splice w.written place bytes := by
  have hpos := w.pos_le
  rw [patch, dif_pos (by omega)]
  exact take_splice_of_le h hpos

/-- Overwriting behind the position leaves what is written alone. -/
theorem written_patch_behind {w : WSlice} {place : Nat} (bytes : List UInt8) (h : w.pos ≤ place) :
    (w.patch place bytes).written = w.written := by
  unfold patch
  split
  next hfit => exact take_splice (by omega) h
  next => rfl

/-- Advancing leaves a hole. -/
theorem written_advance {w : WSlice} {count : Nat} (h : count ≤ w.size) :
    (w.advance count).written = w.written ++ (w.mem.drop w.pos).take count := by
  show w.mem.take (w.pos + min count w.size) = _
  rw [Nat.min_eq_left h, List.take_add, written]

theorem size_advance {w : WSlice} {count : Nat} (h : count ≤ w.size) :
    (w.advance count).size = w.size - count := by
  have hpos := w.pos_le
  simp only [advance, size] at h ⊢
  omega

end WSlice

/-! ## Iterators -/

/-- Writes the objects of a range; the stop index is written last. -/
structure RangeWriteIterator (T : Type) where
  type : IndexType
  serializer : DNP3Serializer T
  start : Nat
  count : Nat
  isValid : Bool
  /-- Where the stop index goes. -/
  range : Nat

namespace RangeWriteIterator

variable {T : Type}

/-- An iterator for which there was no room: nothing can be written. -/
def null (t : IndexType) (s : DNP3Serializer T) : RangeWriteIterator T :=
  { type := t, serializer := s, start := 0, count := 0, isValid := false, range := 0 }

/-- Write the start index and leave room for the stop index. -/
def create (t : IndexType) (s : DNP3Serializer T) (start : Nat) (position : WSlice) :
    RangeWriteIterator T × WSlice :=
  if 2 * t.SIZE ≤ position.size then
    ({ type := t, serializer := s, start := start, count := 0, isValid := true,
       range := position.pos + t.SIZE },
      (position.patch position.pos (t.bytes start)).advance (2 * t.SIZE))
  else (null t s, position)

/-- Write a value behind the ones before it, if it fits. -/
def write (it : RangeWriteIterator T) (position : WSlice) (value : T) :
    (RangeWriteIterator T × WSlice) × Bool :=
  if it.isValid ∧ it.serializer.size ≤ position.size then
    (({ it with count := (it.count + 1) % it.type.modulus },
      position.write (it.serializer.write value)), true)
  else ((it, position), false)

/-- The destructor: write the stop index. -/
def finish (it : RangeWriteIterator T) (position : WSlice) : WSlice :=
  if it.isValid ∧ it.count > 0 then
    position.patch it.range (it.type.bytes (it.start + it.count - 1))
  else position

end RangeWriteIterator

/-- Writes the objects of a count; the count is written last. -/
structure CountWriteIterator (T : Type) where
  type : IndexType
  serializer : DNP3Serializer T
  count : Nat
  isValid : Bool
  countPosition : Nat

namespace CountWriteIterator

variable {T : Type}

/-- An iterator for which there was no room: nothing can be written. -/
def null (t : IndexType) (s : DNP3Serializer T) : CountWriteIterator T :=
  { type := t, serializer := s, count := 0, isValid := false, countPosition := 0 }

/-- Leave room for the count, which is filled in at the end. -/
def create (t : IndexType) (s : DNP3Serializer T) (position : WSlice) :
    CountWriteIterator T × WSlice :=
  if t.SIZE ≤ position.size then
    ({ type := t, serializer := s, count := 0, isValid := true, countPosition := position.pos },
      position.advance t.SIZE)
  else (null t s, position)

/-- Write a value behind the ones before it, if it fits. -/
def write (it : CountWriteIterator T) (position : WSlice) (value : T) :
    (CountWriteIterator T × WSlice) × Bool :=
  if it.isValid ∧ it.serializer.size ≤ position.size then
    (({ it with count := (it.count + 1) % it.type.modulus },
      position.write (it.serializer.write value)), true)
  else ((it, position), false)

/-- Fill in how many values were written. -/
def finish (it : CountWriteIterator T) (position : WSlice) : WSlice :=
  if it.isValid then position.patch it.countPosition (it.type.bytes it.count) else position

end CountWriteIterator

/-- Writes the objects of a count, each behind its index; the count is written last. -/
structure PrefixedWriteIterator (T : Type) where
  type : IndexType
  serializer : DNP3Serializer T
  count : Nat
  isValid : Bool
  countPosition : Nat

namespace PrefixedWriteIterator

variable {T : Type}

/-- An iterator for which there was no room: nothing can be written. -/
def null (t : IndexType) (s : DNP3Serializer T) : PrefixedWriteIterator T :=
  { type := t, serializer := s, count := 0, isValid := false, countPosition := 0 }

/-- Leave room for the count, which is filled in at the end. -/
def create (t : IndexType) (s : DNP3Serializer T) (position : WSlice) :
    PrefixedWriteIterator T × WSlice :=
  if t.SIZE ≤ position.size then
    ({ type := t, serializer := s, count := 0, isValid := true, countPosition := position.pos },
      position.advance t.SIZE)
  else (null t s, position)

/-- Write an index and its value behind the ones before them, if both fit. -/
def write (it : PrefixedWriteIterator T) (position : WSlice) (value : T) (index : Nat) :
    (PrefixedWriteIterator T × WSlice) × Bool :=
  if it.isValid ∧ it.serializer.size + it.type.SIZE ≤ position.size then
    (({ it with count := (it.count + 1) % it.type.modulus },
      (position.write (it.type.bytes index)).write (it.serializer.write value)), true)
  else ((it, position), false)

/-- Fill in how many values were written. -/
def finish (it : PrefixedWriteIterator T) (position : WSlice) : WSlice :=
  if it.isValid then position.patch it.countPosition (it.type.bytes it.count) else position

end PrefixedWriteIterator

/-- Writes a range of single bits, eight to a byte; the position is moved behind them last. -/
structure BitfieldRangeWriteIterator where
  type : IndexType
  start : Nat
  count : Nat
  maxCount : Nat
  isValid : Bool
  range : Nat
  deriving DecidableEq, Repr

namespace BitfieldRangeWriteIterator

/-- An iterator for which there was no room: nothing can be written. -/
def null (t : IndexType) : BitfieldRangeWriteIterator :=
  { type := t, start := 0, count := 0, maxCount := 0, isValid := false, range := 0 }

/-- Write the first index and leave room for the last; every byte behind them has room for eight
values. -/
def create (t : IndexType) (start : Nat) (position : WSlice) :
    BitfieldRangeWriteIterator × WSlice :=
  if 2 * t.SIZE ≤ position.size then
    let advanced := (position.patch position.pos (t.bytes start)).advance (2 * t.SIZE)
    ({ type := t, start := start, count := 0, maxCount := advanced.size * 8, isValid := true,
       range := position.pos + t.SIZE }, advanced)
  else (null t, position)

/-- Set the bit of a byte in the memory. -/
def setBit (position : WSlice) (byte bit : Nat) (value : Bool) : WSlice :=
  let place := position.pos + byte
  -- the first bit of a byte clears it
  let position := if bit = 0 then position.patch place [0] else position
  if value then position.patch place [position.mem.getD place 0 ||| (1 <<< UInt8.ofNat bit)]
  else position

/-- Set the next bit; the slice moves on only at the end. -/
def write (it : BitfieldRangeWriteIterator) (position : WSlice) (value : Bool) :
    (BitfieldRangeWriteIterator × WSlice) × Bool :=
  if it.isValid ∧ it.count < it.maxCount then
    (({ it with count := (it.count + 1) % it.type.modulus },
      setBit position (it.count / 8) (it.count % 8) value), true)
  else ((it, position), false)

/-- Fill in the last index, and move behind the bits that were set. -/
def finish (it : BitfieldRangeWriteIterator) (position : WSlice) : WSlice :=
  if it.isValid ∧ it.count > 0 then
    let num := if it.count % 8 > 0 then it.count / 8 + 1 else it.count / 8
    (position.patch it.range (it.type.bytes (it.start + it.count - 1))).advance num
  else position

end BitfieldRangeWriteIterator

/-! ## The header writer -/

/-- A facade for writing object headers at a position. -/
structure HeaderWriter where
  position : WSlice
  /-- The position recorded by `recordMark`. -/
  mark : Option Nat
  deriving DecidableEq, Repr

namespace HeaderWriter

variable {T : Type}

/-- A writer of the memory that is left; nothing is marked. -/
def ofSlice (position : WSlice) : HeaderWriter := { position := position, mark := none }

/-- The bytes that are left. -/
def remaining (w : HeaderWriter) : Nat := w.position.size

/-- `Mark()`. -/
def recordMark (w : HeaderWriter) : HeaderWriter := { w with mark := some w.position.pos }

/-- Go back to the place that was marked, once. -/
def rollback (w : HeaderWriter) : HeaderWriter × Bool :=
  match w.mark with
  | some place => ({ position := w.position.rewind place, mark := none }, true)
  | none => (w, false)

/-- Group, variation and qualifier of a header. -/
def writeHeader (w : HeaderWriter) (id : GroupVariationID) (qc : QualifierCode) :
    HeaderWriter × Bool :=
  if w.position.size < 3 then (w, false)
  else ({ w with position := w.position.write [id.group, id.variation, qc.toType] }, true)

/-- A header is written only if there is room behind it as well. -/
def writeHeaderWithReserve (w : HeaderWriter) (id : GroupVariationID) (qc : QualifierCode)
    (reserve : Nat) : HeaderWriter × Bool :=
  if w.position.size < 3 + reserve then (w, false) else w.writeHeader id qc

/-- One object behind a count of one. -/
def writeSingleValue (w : HeaderWriter) (t : IndexType) (qc : QualifierCode)
    (s : DNP3Serializer T) (value : T) : HeaderWriter × Bool :=
  let (w, ok) := w.writeHeaderWithReserve s.id qc (t.SIZE + s.size)
  if ok then
    ({ w with position := (w.position.write (t.bytes 1)).write (s.write value) }, true)
  else (w, false)

/-- Begin a header of consecutive values, if one of them fits. -/
def iterateOverRange (w : HeaderWriter) (t : IndexType) (qc : QualifierCode)
    (s : DNP3Serializer T) (start : Nat) : HeaderWriter × RangeWriteIterator T :=
  let (w, ok) := w.writeHeaderWithReserve s.id qc (2 * t.SIZE + s.size)
  if ok then
    let (it, position) := RangeWriteIterator.create t s start w.position
    ({ w with position := position }, it)
  else (w, .null t s)

/-- Begin a header of counted values, if one of them fits. -/
def iterateOverCount (w : HeaderWriter) (t : IndexType) (qc : QualifierCode)
    (s : DNP3Serializer T) : HeaderWriter × CountWriteIterator T :=
  let (w, ok) := w.writeHeaderWithReserve s.id qc (t.SIZE + s.size)
  if ok then
    let (it, position) := CountWriteIterator.create t s w.position
    ({ w with position := position }, it)
  else (w, .null t s)

/-- Begin a header of packed values, if one byte of them fits. -/
def iterateOverSingleBitfield (w : HeaderWriter) (t : IndexType) (id : GroupVariationID)
    (qc : QualifierCode) (start : Nat) : HeaderWriter × BitfieldRangeWriteIterator :=
  let (w, ok) := w.writeHeaderWithReserve id qc (2 * t.SIZE + 1)
  if ok then
    let (it, position) := BitfieldRangeWriteIterator.create t start w.position
    ({ w with position := position }, it)
  else (w, .null t)

/-- Begin a header of values with their indices, if one of them fits. -/
def iterateOverCountWithPrefix (w : HeaderWriter) (t : IndexType) (qc : QualifierCode)
    (s : DNP3Serializer T) : HeaderWriter × PrefixedWriteIterator T :=
  let (w, ok) := w.writeHeaderWithReserve s.id qc (2 * t.SIZE + s.size)
  if ok then
    let (it, position) := PrefixedWriteIterator.create t s w.position
    ({ w with position := position }, it)
  else (w, .null t s)

/-- A common time of occurrence in front of the header; it is taken back when no object fits. -/
def iterateOverCountWithPrefixAndCTO (w : HeaderWriter) (t : IndexType) (qc : QualifierCode)
    (s : DNP3Serializer T) (ctoSerializer : DNP3Serializer DNPTime) (cto : DNPTime) :
    HeaderWriter × PrefixedWriteIterator T :=
  let (w, ok) := w.recordMark.writeSingleValue .uint8 .uint8Cnt ctoSerializer cto
  if ok then
    let (w, it) := w.iterateOverCountWithPrefix t qc s
    if it.isValid then (w, it) else (w.rollback.1, it)
  else (w, .null t s)

end HeaderWriter
end App
end Dnp3
