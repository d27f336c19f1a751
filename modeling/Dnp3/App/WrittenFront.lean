import Dnp3.App.APDUBuilders
import Dnp3.App.RoundTrip

/-!
# What a writer leaves alone

A header writer writes behind its position, and an iterator fills in its count or its stop index
where it has left room for it.  So the memory stays as long as it is, and what was written before
the writer was made stays in front.

`WSlice.Extends` is that relation between a slice and one made from it, reflexive and transitive,
and `HeaderWriter.Extends` the same for the writer around it.  An iterator is `Behind` the slice it
was made from when the hole for its count does not reach into what was written, and this is enough
for `finish` to extend it.

Requests and responses are built on it.  The header of a request is written in front of the objects,
before, between or after them: `APDURequest.Starts` says that the two bytes are the control field
and the function code whatever else was written.  `TxBuffer.objects_response` says of a response
that its objects are what was written behind its header.
-/

namespace Dnp3
namespace App

open Library

namespace WSlice

variable {w w' w'' : WSlice}

/-- The memory is as long as it was, and starts with what was written. -/
structure Extends (w w' : WSlice) : Prop where
  length : w'.mem.length = w.mem.length
  pos : w.pos ≤ w'.pos
  front : w'.mem.take w.pos = w.written

theorem Extends.refl (w : WSlice) : w.Extends w := ⟨rfl, Nat.le_refl _, rfl⟩

theorem Extends.trans (h : w.Extends w') (h' : w'.Extends w'') : w.Extends w'' where
  length := h'.length.trans h.length
  pos := h.pos.trans h'.pos
  front := by
    have hfront : (w''.mem.take w'.pos).take w.pos = (w'.mem.take w'.pos).take w.pos := by
      rw [h'.front, written]
    rw [List.take_take, List.take_take, Nat.min_eq_left h.pos] at hfront
    rw [hfront, h.front]

/-- What is written starts with what was. -/
theorem Extends.written (h : w.Extends w') : ∃ bytes, w'.written = w.written ++ bytes := by
  refine ⟨w'.written.drop w.pos, ?_⟩
  have hfront : w'.written.take w.pos = w.written := by
    rw [WSlice.written, List.take_take, Nat.min_eq_left h.pos, h.front]
  rw [← hfront, List.take_append_drop]

/-- Writing leaves what stands in front. -/
theorem extends_write (w : WSlice) (bytes : List UInt8) : w.Extends (w.write bytes) := by
  have hpos := w.pos_le
  unfold write
  split
  next hfit =>
    refine ⟨length_splice ?_, Nat.le_add_right _ _, take_splice hpos (Nat.le_refl _)⟩
    simp only [size] at hfit
    omega
  · exact .refl w

theorem extends_advance (w : WSlice) (count : Nat) : w.Extends (w.advance count) :=
  ⟨rfl, Nat.le_add_right _ _, rfl⟩

/-- Overwriting behind what was written. -/
theorem Extends.patch (h : w.Extends w') {place : Nat} (hplace : w.pos ≤ place)
    (bytes : List UInt8) : w.Extends (w'.patch place bytes) := by
  refine ⟨(length_patch ..).trans h.length, ?_, ?_⟩
  · rw [pos_patch]
    exact h.pos
  · unfold WSlice.patch
    split
    next hfit => exact (take_splice (by omega) hplace).trans h.front
    · exact h.front

theorem extends_setBit (h : w.Extends w') (byte bit : Nat) (value : Bool) :
    w.Extends (BitfieldRangeWriteIterator.setBit w' byte bit value) := by
  have hcleared : w.Extends (if bit = 0 then w'.patch (w'.pos + byte) [0] else w') := by
    split
    · exact h.patch (h.pos.trans (Nat.le_add_right _ _)) _
    · exact h
  unfold BitfieldRangeWriteIterator.setBit
  dsimp only
  split
  · exact hcleared.patch (h.pos.trans (Nat.le_add_right _ _)) _
  · exact hcleared

end WSlice

namespace BitfieldRangeWriteIterator

variable {w position : WSlice}

/-- The iterator has left room behind what was written. -/
def Behind (w : WSlice) (it : BitfieldRangeWriteIterator) : Prop :=
  it.isValid = true → w.pos ≤ it.range

theorem behind_create (h : w.Extends position) (t : IndexType) (start : Nat) :
    w.Extends (create t start position).2 ∧ Behind w (create t start position).1 := by
  unfold create
  split
  · refine ⟨(h.patch h.pos _).trans (WSlice.extends_advance _ _), fun _ => ?_⟩
    exact h.pos.trans (Nat.le_add_right _ _)
  · exact ⟨h, fun hvalid => nomatch hvalid⟩

theorem behind_write (h : w.Extends position) {it : BitfieldRangeWriteIterator}
    (hbehind : Behind w it) (value : Bool) :
    w.Extends (it.write position value).1.2 ∧ Behind w (it.write position value).1.1 := by
  unfold write
  split
  · exact ⟨WSlice.extends_setBit h _ _ _, hbehind⟩
  · exact ⟨h, hbehind⟩

theorem extends_finish (h : w.Extends position) {it : BitfieldRangeWriteIterator}
    (hbehind : Behind w it) : w.Extends (it.finish position) := by
  unfold finish
  split
  next hvalid => exact (h.patch (hbehind hvalid.1) _).trans (WSlice.extends_advance _ _)
  · exact h

end BitfieldRangeWriteIterator

namespace PrefixedWriteIterator

variable {T : Type} {w position : WSlice}

/-- The iterator has left room for its count behind what was written. -/
def Behind (w : WSlice) (it : PrefixedWriteIterator T) : Prop :=
  it.isValid = true → w.pos ≤ it.countPosition

theorem behind_create (h : w.Extends position) (t : IndexType) (s : DNP3Serializer T) :
    w.Extends (create t s position).2 ∧ Behind w (create t s position).1 := by
  unfold create
  split
  · exact ⟨h.trans (WSlice.extends_advance _ _), fun _ => h.pos⟩
  · exact ⟨h, fun hvalid => nomatch hvalid⟩

theorem behind_write (h : w.Extends position) {it : PrefixedWriteIterator T}
    (hbehind : Behind w it) (value : T) (index : Nat) :
    w.Extends (it.write position value index).1.2 ∧
      Behind w (it.write position value index).1.1 := by
  unfold write
  split
  · exact ⟨(h.trans (WSlice.extends_write _ _)).trans (WSlice.extends_write _ _), hbehind⟩
  · exact ⟨h, hbehind⟩

theorem extends_finish (h : w.Extends position) {it : PrefixedWriteIterator T}
    (hbehind : Behind w it) : w.Extends (it.finish position) := by
  unfold finish
  split
  next hvalid => exact h.patch (hbehind hvalid) _
  · exact h

end PrefixedWriteIterator

namespace HeaderWriter

/-- The writer has only written behind its position. -/
abbrev Extends (w w' : HeaderWriter) : Prop := w.position.Extends w'.position

theorem extends_writeHeader (w : HeaderWriter) (id : GroupVariationID) (qc : QualifierCode) :
    w.Extends (w.writeHeader id qc).1 := by
  unfold writeHeader
  split
  · exact .refl _
  · exact WSlice.extends_write _ _

theorem extends_writeHeaderWithReserve (w : HeaderWriter) (id : GroupVariationID)
    (qc : QualifierCode) (reserve : Nat) :
    w.Extends (w.writeHeaderWithReserve id qc reserve).1 := by
  unfold writeHeaderWithReserve
  split
  · exact .refl _
  · exact w.extends_writeHeader id qc

theorem extends_writeSingleValue {T : Type} (w : HeaderWriter) (t : IndexType)
    (qc : QualifierCode) (s : DNP3Serializer T) (value : T) :
    w.Extends (w.writeSingleValue t qc s value).1 := by
  have hheader := w.extends_writeHeaderWithReserve s.id qc (t.SIZE + s.size)
  unfold writeSingleValue
  dsimp only
  split
  · exact (hheader.trans (WSlice.extends_write _ _)).trans (WSlice.extends_write _ _)
  · exact hheader

/-- The iterator over the bits of a header, and the writer behind it. -/
theorem behind_iterateOverSingleBitfield (w : HeaderWriter) (t : IndexType)
    (id : GroupVariationID) (qc : QualifierCode) (start : Nat) :
    w.Extends (w.iterateOverSingleBitfield t id qc start).1 ∧
      BitfieldRangeWriteIterator.Behind w.position
        (w.iterateOverSingleBitfield t id qc start).2 := by
  have hheader := w.extends_writeHeaderWithReserve id qc (2 * t.SIZE + 1)
  unfold iterateOverSingleBitfield
  dsimp only
  split
  · exact BitfieldRangeWriteIterator.behind_create hheader t start
  · exact ⟨hheader, fun hvalid => nomatch hvalid⟩

/-- The iterator over prefixed objects, and the writer behind it. -/
theorem behind_iterateOverCountWithPrefix {T : Type} (w : HeaderWriter) (t : IndexType)
    (qc : QualifierCode) (s : DNP3Serializer T) :
    w.Extends (w.iterateOverCountWithPrefix t qc s).1 ∧
      PrefixedWriteIterator.Behind w.position (w.iterateOverCountWithPrefix t qc s).2 := by
  have hheader := w.extends_writeHeaderWithReserve s.id qc (2 * t.SIZE + s.size)
  unfold iterateOverCountWithPrefix
  dsimp only
  split
  · exact PrefixedWriteIterator.behind_create hheader t s
  · exact ⟨hheader, fun hvalid => nomatch hvalid⟩

end HeaderWriter

namespace build

/-- Headers without objects are written behind each other. -/
theorem extends_writeAllObjects (w : HeaderWriter) (variations : List UInt8) :
    w.Extends (writeAllObjects w variations).1 := by
  induction variations generalizing w with
  | nil => exact .refl _
  | cons variation variations ih =>
    have hheader := w.extends_writeHeader ⟨60, variation⟩ .allObjects
    rw [writeAllObjects]
    cases hwritten : w.writeHeader ⟨60, variation⟩ .allObjects with
    | mk w' written =>
      rw [hwritten] at hheader
      cases written with
      | true => exact hheader.trans (ih w')
      | false => exact hheader

end build

/-! ## Requests -/

namespace APDURequest

/-- The size of the buffer. -/
abbrev room (r : APDURequest) : Nat := r.slice.mem.length

@[simp] theorem room_create (mem : List UInt8) : (create mem).room = mem.length := rfl

@[simp] theorem room_setControl (r : APDURequest) (control : AppControlField) :
    (r.setControl control).room = r.room := WSlice.length_patch ..

@[simp] theorem room_setFunction (r : APDURequest) (code : FunctionCode) :
    (r.setFunction code).room = r.room := WSlice.length_patch ..

theorem room_withWriter {r : APDURequest} {writer : HeaderWriter}
    (h : r.getWriter.Extends writer) : (r.withWriter writer).room = r.room := h.length

/-- The request starts with these two bytes. -/
def Starts (r : APDURequest) (control : AppControlField) (code : FunctionCode) : Prop :=
  ∃ objects, r.toRSlice = control.toByte :: code.toType :: objects

/-- A request whose header is set before anything else is written. -/
theorem written_header {mem : List UInt8} (h : 2 ≤ mem.length) (control : AppControlField)
    (code : FunctionCode) :
    (((create mem).setControl control).setFunction code).toRSlice =
      [control.toByte, code.toType] ∧
    (((create mem).setFunction code).setControl control).toRSlice =
      [control.toByte, code.toType] := by
  obtain ⟨x, y, rest, rfl⟩ : ∃ x y rest, mem = x :: y :: rest := by
    match mem, h with
    | x :: y :: rest, _ => exact ⟨x, y, rest, rfl⟩
  constructor <;>
    simp [create, setControl, setFunction, toRSlice, WSlice.written, WSlice.patch, WSlice.advance,
      WSlice.ofMemory, WSlice.size, splice]

/-- A request whose objects are written behind its header. -/
theorem starts_withWriter {r : APDURequest} {control : AppControlField} {code : FunctionCode}
    (hheader : r.toRSlice = [control.toByte, code.toType]) {writer : HeaderWriter}
    (h : r.getWriter.Extends writer) : (r.withWriter writer).Starts control code := by
  obtain ⟨objects, hwritten⟩ := WSlice.Extends.written h
  refine ⟨objects, ?_⟩
  show writer.position.written = _
  have hfront : r.getWriter.position.written = [control.toByte, code.toType] := hheader
  rw [hwritten, hfront]
  rfl

/-- Setting the header of a request again. -/
theorem Starts.set {r : APDURequest} {control : AppControlField} {code : FunctionCode}
    (h : r.Starts control code) (control' : AppControlField) (code' : FunctionCode) :
    ((r.setFunction code').setControl control').Starts control' code' := by
  obtain ⟨objects, hwritten⟩ := h
  have hpos : 2 ≤ r.slice.pos := by
    rw [← r.slice.length_written]
    show 2 ≤ r.toRSlice.length
    rw [hwritten]
    simp
  refine ⟨objects, ?_⟩
  show ((r.slice.patch 1 [code'.toType]).patch 0 [control'.toByte]).written = _
  have hwritten : r.slice.written = control.toByte :: code.toType :: objects := hwritten
  rw [WSlice.written_patch, WSlice.written_patch, hwritten]
  · rfl
  · exact hpos
  · rw [WSlice.pos_patch]
    exact Nat.le_of_succ_le hpos

theorem room_classRequest (r : APDURequest) (fc : FunctionCode) (classes : Outstation.ClassField)
    (seq : AppSeqNum) : (build.classRequest r fc classes seq).room = r.room := by
  unfold build.classRequest build.writeClassHeaders
  rw [room_withWriter (build.extends_writeAllObjects _ _), room_setFunction, room_setControl]

theorem room_clearRestartIIN (r : APDURequest) (seq : AppSeqNum) :
    (build.clearRestartIIN r seq).room = r.room := by
  unfold build.clearRestartIIN
  dsimp only
  have hiter := HeaderWriter.behind_iterateOverSingleBitfield
    ((r.setFunction .write).setControl (.request seq)).getWriter .uint8 ⟨80, 1⟩ .uint8StartStop
    build.deviceRestartIndex
  have hbit := BitfieldRangeWriteIterator.behind_write hiter.1 hiter.2 false
  rw [room_withWriter (BitfieldRangeWriteIterator.extends_finish hbit.1 hbit.2),
    room_setControl, room_setFunction]

theorem starts_classRequest {mem : List UInt8} (h : 2 ≤ mem.length) (fc : FunctionCode)
    (classes : Outstation.ClassField) (seq : AppSeqNum) :
    (build.classRequest (create mem) fc classes seq).Starts (.request seq) fc :=
  starts_withWriter (written_header h (.request seq) fc).1 (build.extends_writeAllObjects _ _)

end APDURequest

/-! ## Responses -/

/-- Overwriting the front leaves what is behind it. -/
theorem WSlice.drop_written_patch (w : WSlice) {place n : Nat} {bytes : List UInt8}
    (h : place + bytes.length ≤ n) : (w.patch place bytes).written.drop n = w.written.drop n := by
  rw [WSlice.written, WSlice.written, pos_patch, List.drop_take, List.drop_take, patch]
  split
  next hfits => rw [drop_splice (by omega) h]
  · rfl

/-- The objects of a response are what was written behind its header. -/
theorem TxBuffer.objects_response (tx : TxBuffer) (code : FunctionCode) (control : AppControlField)
    (indications : IINField) {w : HeaderWriter} {bytes : List UInt8}
    (hwritten : w.position.written =
      ((tx.start.setFunction code).setControl control).getWriter.position.written ++ bytes)
    (hfits : bytes.length ≤ tx.start.getWriter.remaining) :
    ((((tx.start.setFunction code).setControl control).withWriter w).setIIN
      indications).toRSlice.drop 4 = bytes := by
  have hfront : ((tx.start.setFunction code).setControl control).getWriter.position.written.length =
      min 4 tx.buffer.length := by
    rw [WSlice.length_written]
    refine (WSlice.pos_patch ..).trans ((WSlice.pos_patch ..).trans ?_)
    exact Nat.zero_add _
  rw [APDUResponse.toRSlice, APDUResponse.setIIN, WSlice.drop_written_patch _ (Nat.le_refl 4)]
  show w.position.written.drop 4 = bytes
  rw [hwritten]
  by_cases hbuffer : 4 ≤ tx.buffer.length
  · exact List.drop_left' (hfront.trans (Nat.min_eq_left hbuffer))
  · have hnone : tx.start.getWriter.remaining = 0 := by
      have hpos : tx.start.slice.pos = min 4 tx.buffer.length := Nat.zero_add _
      show tx.buffer.length - tx.start.slice.pos = 0
      omega
    rw [hnone] at hfits
    rw [List.length_eq_zero_iff.mp (Nat.le_zero.mp hfits), List.append_nil]
    exact List.drop_eq_nil_of_le (by omega)

end App
end Dnp3
