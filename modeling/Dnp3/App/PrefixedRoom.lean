import Dnp3.App.HeaderRoom
import Dnp3.App.ParsedHeaders
import Dnp3.App.WrittenFront

/-!
# The room for prefixed objects

A header of prefixed objects that fits into the rest of a buffer is written whole: it is started,
every object is taken, and the count is filled in.

A counted header with a common time of occurrence is written in two steps, and the first is taken
back when nothing fits behind it, so that a writer that could not start a header is where it was.
The lemmas come in three groups.

* `started_of_room` and `written_writeAll`: with room for a header and its objects, the header is
  started and its bytes are those of `PrefixedWriteIterator.Filled`.
* `Follows`: a writer that has been used stands behind the place it stood at, and has no more room
  than before.  All functions of the header writer are shown to keep this.
* `size_lt_of_null`, `size_lt_of_nullCTO` and `Filled.full`: what is refused did not fit into the
  room that was left.  `Outstation.EventLoad` uses these to say why an event stays behind.
-/

namespace Dnp3
namespace App

open Library

variable {T : Type}

namespace WSlice

theorem pos_add_size (w : WSlice) : w.pos + w.size = w.mem.length :=
  Nat.add_sub_cancel' w.pos_le

/-- What is written is taken from the room. -/
theorem Extends.size {w w' : WSlice} (h : w.Extends w') {bytes : List UInt8}
    (hwritten : w'.written = w.written ++ bytes) : w'.size + bytes.length = w.size := by
  have hlength := congrArg List.length hwritten
  rw [List.length_append, length_written, length_written] at hlength
  have hroom := w.pos_add_size
  have hroom' := w'.pos_add_size
  rw [h.length] at hroom'
  omega

end WSlice

namespace PrefixedWriteIterator

variable {front : List UInt8} {t : IndexType} {s : DNP3Serializer T}
  {p : PrefixedWriteIterator T × WSlice} {done : List (Indexed T)}

/-- Give objects to the iterator, whether it takes them or not. -/
def writeAll (p : PrefixedWriteIterator T × WSlice) (values : List (Indexed T)) :
    PrefixedWriteIterator T × WSlice :=
  values.foldl (fun p v => (p.1.write p.2 v.value v.index.toNat).1) p

/-- Objects for which there is room are taken. -/
theorem Filled.writeAll (h : Filled front t s p done) {values : List (Indexed T)}
    (hroom : values.length * (s.size + t.SIZE) ≤ p.2.size) :
    Filled front t s (PrefixedWriteIterator.writeAll p values) (done ++ values) := by
  induction values generalizing p done with
  | nil => rwa [List.append_nil]
  | cons v values ih =>
    rw [List.length_cons, Nat.succ_mul] at hroom
    have hfits : s.size + t.SIZE ≤ p.2.size := by omega
    have hwrite : p.1.write p.2 v.value v.index.toNat =
        ((p.1.write p.2 v.value v.index.toNat).1, true) := by
      rw [write, h.iterator, if_pos ⟨rfl, hfits⟩]
    have hsize : (p.1.write p.2 v.value v.index.toNat).1.2.size =
        p.2.size - (s.size + t.SIZE) := by
      have hindex : (t.bytes v.index.toNat).length ≤ p.2.size := by
        rw [IndexType.length_bytes]
        omega
      have hvalue : (s.write v.value).length ≤ (p.2.write (t.bytes v.index.toNat)).size := by
        rw [WSlice.size_write hindex, IndexType.length_bytes, DNP3Serializer.length_write]
        exact Nat.le_sub_of_add_le hfits
      rw [write, h.iterator, if_pos ⟨rfl, hfits⟩]
      show ((p.2.write (t.bytes v.index.toNat)).write (s.write v.value)).size = _
      rw [WSlice.size_write hvalue, WSlice.size_write hindex, IndexType.length_bytes,
        DNP3Serializer.length_write, Nat.sub_sub, Nat.add_comm t.SIZE]
      rfl
    have htaken := ih (h.taken hwrite) (by omega)
    rwa [List.append_assoc] at htaken

theorem behind_writeAll {w : WSlice} (h : w.Extends p.2) (hbehind : Behind w p.1)
    (values : List (Indexed T)) :
    w.Extends (writeAll p values).2 ∧ Behind w (writeAll p values).1 := by
  induction values generalizing p with
  | nil => exact ⟨h, hbehind⟩
  | cons v values ih =>
    obtain ⟨h', hbehind'⟩ := behind_write h hbehind v.value v.index.toNat
    exact ih h' hbehind'

end PrefixedWriteIterator

namespace HeaderWriter

/-- A header is started when there is room for it and one object. -/
theorem started_of_room {w : HeaderWriter} {t : IndexType} {s : DNP3Serializer T}
    (qc : QualifierCode) (h : 3 + (2 * t.SIZE + s.size) ≤ w.position.size) :
    w.Started t qc s ((w.iterateOverCountWithPrefix t qc s).2,
      (w.iterateOverCountWithPrefix t qc s).1.position) := by
  rcases w.iterateOverCountWithPrefix_started t qc s with hnull | hstarted
  · obtain ⟨w', hwrite, hsize⟩ := writeHeaderWithReserve_of_le s.id qc h
    have hvalid : (w.iterateOverCountWithPrefix t qc s).2.isValid = true := by
      simp only [iterateOverCountWithPrefix, hwrite, if_true]
      rw [PrefixedWriteIterator.create, if_pos (by omega)]
    rw [hnull] at hvalid
    cases hvalid
  · exact hstarted

/-- The bytes of a header of prefixed objects for which there is room. -/
theorem written_writeAll {w : HeaderWriter} {t : IndexType} {s : DNP3Serializer T}
    (qc : QualifierCode) {values : List (Indexed T)} (hpos : 0 < values.length)
    (hlt : values.length < t.modulus)
    (hroom : 3 + t.SIZE + values.length * (s.size + t.SIZE) ≤ w.position.size)
    {p : PrefixedWriteIterator T × WSlice}
    (hp : PrefixedWriteIterator.writeAll ((w.iterateOverCountWithPrefix t qc s).2,
      (w.iterateOverCountWithPrefix t qc s).1.position) values = p) :
    w.position.Extends (p.1.finish p.2) ∧
      (p.1.finish p.2).written = w.position.written ++ (headerBytes s.id qc ++
        (t.bytes values.length ++ values.flatMap (PrefixedWriteIterator.object t s))) := by
  subst hp
  have hone := Nat.mul_le_mul_right (s.size + t.SIZE) hpos
  have hstarted := @started_of_room _ w t s qc (by omega)
  obtain ⟨hextends, hbehind⟩ := w.behind_iterateOverCountWithPrefix t qc s
  constructor
  · obtain ⟨hextends', hbehind'⟩ := PrefixedWriteIterator.behind_writeAll (p :=
      ((w.iterateOverCountWithPrefix t qc s).2,
        (w.iterateOverCountWithPrefix t qc s).1.position)) hextends hbehind values
    exact PrefixedWriteIterator.extends_finish hextends' hbehind'
  · obtain ⟨hole, hlength, hwritten⟩ := hstarted.filled.position
    rw [List.flatMap_nil, List.append_nil, List.append_assoc] at hwritten
    have hsize := hextends.size hwritten
    rw [List.length_append, hlength] at hsize
    have hheader : (headerBytes s.id qc).length = 3 := rfl
    have hfilled := @PrefixedWriteIterator.Filled.writeAll _ _ _ _ _ _ hstarted.filled values (by
      dsimp only
      omega)
    rw [List.nil_append] at hfilled
    rw [hfilled.written_finish hlt]
    simp only [List.append_assoc]

end HeaderWriter

/-! ## The room that is left -/

namespace WSlice

theorem pos_le_write (w : WSlice) (bytes : List UInt8) : w.pos ≤ (w.write bytes).pos := by
  unfold write
  split
  · exact Nat.le_add_right _ _
  · exact Nat.le_refl _

end WSlice

namespace PrefixedWriteIterator

theorem size_finish (it : PrefixedWriteIterator T) (position : WSlice) :
    (it.finish position).size = position.size := by
  unfold finish
  split
  · exact WSlice.size_patch _ _ _
  · rfl

/-- An object takes room. -/
theorem size_write_lt {it it' : PrefixedWriteIterator T} {position position' : WSlice} {v : T}
    {index : Nat} (h : it.write position v index = ((it', position'), true)) :
    position'.size < position.size := by
  rw [write] at h
  split at h
  next hroom =>
    cases h
    have hindex : (it.type.bytes index).length = it.type.SIZE := it.type.length_bytes index
    have hobject : (it.serializer.write v).length = it.serializer.size :=
      it.serializer.length_write v
    have hpos : 0 < it.type.SIZE := by cases it.type <;> decide
    have hsize : (position.write (it.type.bytes index)).size = position.size - it.type.SIZE := by
      rw [WSlice.size_write (by omega), hindex]
    rw [WSlice.size_write (by omega), hsize, hobject]
    omega
  next => cases h

end PrefixedWriteIterator

namespace HeaderWriter

/-- Something may have been written behind what was there. -/
structure Follows (w w' : HeaderWriter) : Prop where
  length_eq : w'.position.mem.length = w.position.mem.length
  pos_le : w.position.pos ≤ w'.position.pos
  mark : w'.mark = w.mark

namespace Follows

variable {w w' w'' : HeaderWriter}

theorem refl (w : HeaderWriter) : Follows w w := ⟨rfl, Nat.le_refl _, rfl⟩

theorem trans (h : Follows w w') (h' : Follows w' w'') : Follows w w'' :=
  ⟨h'.length_eq.trans h.length_eq, Nat.le_trans h.pos_le h'.pos_le, h'.mark.trans h.mark⟩

theorem write (w : HeaderWriter) (bytes : List UInt8) :
    Follows w { w with position := w.position.write bytes } :=
  ⟨w.position.length_mem_write bytes, w.position.pos_le_write bytes, rfl⟩

theorem remaining_le (h : Follows w w') : w'.remaining ≤ w.remaining := by
  simp only [remaining, WSlice.size, h.length_eq]
  have := h.pos_le
  omega

end Follows

theorem follows_writeHeaderWithReserve (w : HeaderWriter) (id : GroupVariationID)
    (qc : QualifierCode) (reserve : Nat) :
    Follows w (w.writeHeaderWithReserve id qc reserve).1 := by
  unfold writeHeaderWithReserve writeHeader
  split
  · exact .refl w
  · split
    · exact .refl w
    · exact .write w _

theorem follows_writeSingleValue (w : HeaderWriter) (t : IndexType) (qc : QualifierCode)
    (s : DNP3Serializer T) (value : T) : Follows w (w.writeSingleValue t qc s value).1 := by
  have hheader := w.follows_writeHeaderWithReserve s.id qc (t.SIZE + s.size)
  unfold writeSingleValue
  generalize w.writeHeaderWithReserve s.id qc (t.SIZE + s.size) = p at hheader ⊢
  obtain ⟨w₁, ok⟩ := p
  cases ok with
  | true => exact hheader.trans ((Follows.write w₁ (t.bytes 1)).trans (.write _ (s.write value)))
  | false => exact hheader

theorem follows_iterateOverCountWithPrefix (w : HeaderWriter) (t : IndexType) (qc : QualifierCode)
    (s : DNP3Serializer T) : Follows w (w.iterateOverCountWithPrefix t qc s).1 := by
  have hheader := w.follows_writeHeaderWithReserve s.id qc (2 * t.SIZE + s.size)
  unfold iterateOverCountWithPrefix
  generalize w.writeHeaderWithReserve s.id qc (2 * t.SIZE + s.size) = p at hheader ⊢
  obtain ⟨w₁, ok⟩ := p
  cases ok with
  | true =>
    refine hheader.trans ?_
    unfold PrefixedWriteIterator.create
    simp only [if_true]
    split
    · exact ⟨rfl, Nat.le_add_right _ _, rfl⟩
    · exact .refl w₁
  | false => exact hheader

/-- A common time that is taken back leaves the room as it was. -/
theorem remaining_iterateOverCountWithPrefixAndCTO_le (w : HeaderWriter) (t : IndexType)
    (qc : QualifierCode) (s : DNP3Serializer T) (ctoSerializer : DNP3Serializer DNPTime)
    (cto : DNPTime) :
    (w.iterateOverCountWithPrefixAndCTO t qc s ctoSerializer cto).1.remaining ≤ w.remaining := by
  have hcto := w.recordMark.follows_writeSingleValue .uint8 .uint8Cnt ctoSerializer cto
  unfold iterateOverCountWithPrefixAndCTO
  generalize w.recordMark.writeSingleValue .uint8 .uint8Cnt ctoSerializer cto = p at hcto ⊢
  obtain ⟨w₁, ok⟩ := p
  cases ok with
  | true =>
    have hheader := hcto.trans (w₁.follows_iterateOverCountWithPrefix t qc s)
    simp only [if_true]
    generalize w₁.iterateOverCountWithPrefix t qc s = p at hheader ⊢
    obtain ⟨w₂, it⟩ := p
    dsimp only
    split
    · exact hheader.remaining_le
    · have hmark : w₂.mark = some w.position.pos := hheader.mark
      have hlength : w₂.position.mem.length = w.position.mem.length := hheader.length_eq
      have hpos := w.position.pos_le
      rw [rollback, hmark]
      simp only [remaining, WSlice.size, WSlice.rewind, hlength]
      omega
  | false => exact hcto.remaining_le

end HeaderWriter

/-! ## No room -/

/-- An object that is refused did not fit into what was left. -/
theorem PrefixedWriteIterator.Filled.full {front : List UInt8} {t : IndexType}
    {s : DNP3Serializer T} {p p' : PrefixedWriteIterator T × WSlice} {values : List (Indexed T)}
    (h : Filled front t s p values) {v : T} {index : Nat}
    (hw : p.1.write p.2 v index = (p', false)) : p'.2.size < s.size + t.SIZE := by
  rw [h.iterator, write] at hw
  split at hw
  · cases hw
  next hfull =>
    cases hw
    exact Nat.lt_of_not_le fun hroom => hfull ⟨rfl, hroom⟩

namespace HeaderWriter

/-- A header that is not started did not fit with an object. -/
theorem size_lt_of_null {w : HeaderWriter} {t : IndexType} {qc : QualifierCode}
    {s : DNP3Serializer T} (hnull : (w.iterateOverCountWithPrefix t qc s).2 = .null t s) :
    w.position.size < 3 + (2 * t.SIZE + s.size) := by
  by_contra hroom
  have hiterator := (started_of_room qc (Nat.le_of_not_lt hroom)).filled.iterator
  rw [hnull] at hiterator
  cases hiterator

/-- A header with a common time that is not started did not fit with an object. -/
theorem size_lt_of_nullCTO {w : HeaderWriter} {t : IndexType} {qc : QualifierCode}
    {s : DNP3Serializer T} {ctoSerializer : DNP3Serializer DNPTime} {cto : DNPTime}
    (hnull : (w.iterateOverCountWithPrefixAndCTO t qc s ctoSerializer cto).2 = .null t s) :
    w.position.size < 3 + (1 + ctoSerializer.size) + (3 + (2 * t.SIZE + s.size)) := by
  by_contra hroom
  have hfits : 3 + (IndexType.uint8.SIZE + ctoSerializer.size) ≤ w.recordMark.position.size := by
    show 3 + (1 + ctoSerializer.size) ≤ w.position.size
    omega
  obtain ⟨w', hheader, hsize⟩ := writeHeaderWithReserve_of_le ctoSerializer.id .uint8Cnt hfits
  have hsize' : w'.position.size = w.position.size - 3 := hsize
  have hcount : (IndexType.uint8.bytes 1).length ≤ w'.position.size := by
    rw [IndexType.length_bytes]
    show 1 ≤ _
    omega
  have hrest : (w'.position.write (IndexType.uint8.bytes 1)).size = w'.position.size - 1 := by
    rw [WSlice.size_write hcount, IndexType.length_bytes]
    rfl
  have hcto : (ctoSerializer.write cto).length = ctoSerializer.size :=
    ctoSerializer.length_write cto
  -- behind the common time there is room for the header, so it is started
  generalize hwritten : ({ w' with position := (w'.position.write
    (IndexType.uint8.bytes 1)).write (ctoSerializer.write cto) } : HeaderWriter) = w''
  have hsize'' : w''.position.size = w.position.size - 3 - 1 - ctoSerializer.size := by
    rw [← hwritten]
    show ((w'.position.write (IndexType.uint8.bytes 1)).write (ctoSerializer.write cto)).size = _
    rw [WSlice.size_write (by omega), hrest, hcto, hsize']
  have hiterator := (started_of_room (w := w'') (t := t) (s := s) qc (by omega)).filled.iterator
  dsimp only at hiterator
  have hvalid : (w''.iterateOverCountWithPrefix t qc s).2.isValid = true := by
    rw [hiterator]
    rfl
  have hsingle :
      w.recordMark.writeSingleValue .uint8 .uint8Cnt ctoSerializer cto = (w'', true) := by
    simp only [writeSingleValue, hheader, if_true, hwritten]
  simp only [iterateOverCountWithPrefixAndCTO, hsingle, hvalid, if_true] at hnull
  rw [hnull] at hvalid
  cases hvalid

end HeaderWriter

end App
end Dnp3
