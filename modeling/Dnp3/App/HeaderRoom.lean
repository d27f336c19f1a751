import Dnp3.App.RoundTrip

/-!
# The room for a header

A header is only started when there is room for it and for one object.  So either the first value is
taken, or the writer is left as it was; and the values that were taken had room behind the header.

`HasRoom` is the invariant of the loop that writes the values of one range: the iterator is valid,
and so many bytes are left for the objects that are still to come.  A value is taken exactly when
the room is not less than its size, so `fill_roomy` says of a whole range that everything is taken,
also when the counter of the iterator goes around.  `writeRange_zero` and `writeBits_zero` are the
other side: a header of which nothing was taken has not been started, and the fragment is as it was.
The static database uses both to show that a response is filled point by point without a hole.
-/

namespace Dnp3
namespace App

open Library

variable {T : Type}

namespace HeaderWriter

theorem writeHeaderWithReserve_of_lt {w : HeaderWriter} {reserve : Nat} (id : GroupVariationID)
    (qc : QualifierCode) (h : w.position.size < 3 + reserve) :
    w.writeHeaderWithReserve id qc reserve = (w, false) := by
  rw [writeHeaderWithReserve, if_pos h]

theorem writeHeaderWithReserve_of_le {w : HeaderWriter} {reserve : Nat} (id : GroupVariationID)
    (qc : QualifierCode) (h : 3 + reserve ≤ w.position.size) :
    ∃ w', w.writeHeaderWithReserve id qc reserve = (w', true) ∧
      w'.position.size = w.position.size - 3 := by
  have hfit : (headerBytes id qc).length ≤ w.position.size := by
    show 3 ≤ w.position.size
    omega
  refine ⟨{ w with position := w.position.write (headerBytes id qc) }, ?_, ?_⟩
  · rw [writeHeaderWithReserve, if_neg (by omega), writeHeader, if_neg (by omega), headerBytes]
  · exact WSlice.size_write hfit

end HeaderWriter

/-! ## Ranges -/

namespace RangeWriteIterator

variable {t : IndexType} {s : DNP3Serializer T}

/-- The iterator is valid, and so much room is left. -/
structure HasRoom (s : DNP3Serializer T) (room : Nat) (p : RangeWriteIterator T × WSlice)
    (values : List T) : Prop where
  isValid : p.1.isValid = true
  serializer : p.1.serializer = s
  room : p.2.size + values.length * s.size = room

variable {p p' : RangeWriteIterator T × WSlice} {values : List T} {room : Nat}

theorem hasRoom_create (start : Nat) {w : WSlice} (h : 2 * t.SIZE ≤ w.size) :
    HasRoom s (w.size - 2 * t.SIZE) (create t s start w) [] := by
  rw [create, if_pos h]
  refine ⟨rfl, rfl, ?_⟩
  rw [List.length_nil, Nat.zero_mul, WSlice.size_advance (by rwa [WSlice.size_patch]),
    WSlice.size_patch, Nat.add_zero]

theorem HasRoom.taken {v : T} (h : HasRoom s room p values) (hw : p.1.write p.2 v = (p', true)) :
    HasRoom s room p' (values ++ [v]) := by
  rw [write] at hw
  split at hw
  next hfit =>
    cases hw
    have hsize : s.size ≤ p.2.size := by
      rw [← h.serializer]
      exact hfit.2
    have hlen : (s.write v).length = s.size := s.length_write v
    refine ⟨h.isValid, h.serializer, ?_⟩
    have hroom := h.room
    rw [h.serializer, WSlice.size_write (by rwa [hlen]), hlen, List.length_append,
      List.length_singleton, Nat.succ_mul]
    omega
  next => cases hw

theorem HasRoom.refused {v : T} (h : HasRoom s room p values)
    (hw : p.1.write p.2 v = (p', false)) : HasRoom s room p' values := by
  rw [write] at hw
  split at hw
  · cases hw
  · cases hw
    exact h

/-- A value is taken when there is room for it. -/
theorem HasRoom.write_taken {v : T} (h : HasRoom s room p values)
    (hfit : (values.length + 1) * s.size ≤ room) : (p.1.write p.2 v).2 = true := by
  have hroom := h.room
  rw [Nat.succ_mul] at hfit
  rw [write, h.serializer, if_pos ⟨h.isValid, by omega⟩]

/-- With room for all of them, all values are written; the count may go around. -/
theorem fill_roomy {it : RangeWriteIterator T} (hvalid : it.isValid = true)
    (hcount : it.count < it.type.modulus) {position : WSlice} {values : List T}
    (hroom : values.length * it.serializer.size ≤ position.size) :
    ∃ position', fill (fun (p : RangeWriteIterator T × WSlice) v => p.1.write p.2 v) (it, position)
        values =
          (({ it with count := (it.count + values.length) % it.type.modulus }, position'),
            values.length) ∧
      position'.written = position.written ++ values.flatMap it.serializer.write := by
  induction values generalizing it position with
  | nil =>
    refine ⟨position, ?_, (List.append_nil _).symm⟩
    rw [List.length_nil, Nat.add_zero, Nat.mod_eq_of_lt hcount]
    rfl
  | cons v values ih =>
    have hlen : (it.serializer.write v).length = it.serializer.size := it.serializer.length_write v
    rw [List.length_cons, Nat.succ_mul] at hroom
    have hsize : it.serializer.size ≤ position.size := by omega
    have hwrite : it.write position v =
        (({ it with count := (it.count + 1) % it.type.modulus },
          position.write (it.serializer.write v)), true) := if_pos ⟨hvalid, hsize⟩
    have hrest := @ih { it with count := (it.count + 1) % it.type.modulus } hvalid
      (Nat.mod_lt _ (Nat.lt_of_le_of_lt (Nat.zero_le _) hcount))
      (position.write (it.serializer.write v)) (by
        rw [WSlice.size_write (by omega)]
        show values.length * it.serializer.size ≤ _
        omega)
    obtain ⟨position', hfill, hwritten⟩ := hrest
    refine ⟨position', ?_, ?_⟩
    · rw [fill_taken values hwrite, hfill]
      simp only [Nat.mod_add_mod, List.length_cons, Nat.add_assoc, Nat.add_comm 1]
    · rw [hwritten, WSlice.written_write (by omega), List.flatMap_cons, List.append_assoc]

end RangeWriteIterator

namespace HeaderWriter

/-- A range has room for the header and one object, or its iterator takes nothing. -/
theorem iterateOverRange_room (w : HeaderWriter) (t : IndexType) (qc : QualifierCode)
    (s : DNP3Serializer T) (start : Nat) :
    w.position.size < 3 + (2 * t.SIZE + s.size) ∧
      w.iterateOverRange t qc s start = (w, .null t s) ∨
    3 + (2 * t.SIZE + s.size) ≤ w.position.size ∧
      RangeWriteIterator.HasRoom s (w.position.size - (3 + 2 * t.SIZE))
        ((w.iterateOverRange t qc s start).2, (w.iterateOverRange t qc s start).1.position) [] := by
  by_cases hroom : 3 + (2 * t.SIZE + s.size) ≤ w.position.size
  · obtain ⟨w', h, hsize⟩ := writeHeaderWithReserve_of_le s.id qc hroom
    have hcreate := RangeWriteIterator.hasRoom_create (t := t) (s := s) start
      (w := w'.position) (by omega)
    refine .inr ⟨hroom, ?_⟩
    simp only [iterateOverRange, h, if_true]
    rwa [hsize, Nat.sub_sub] at hcreate
  · have h := writeHeaderWithReserve_of_lt s.id qc (Nat.lt_of_not_le hroom)
    refine .inl ⟨Nat.lt_of_not_le hroom, ?_⟩
    simp only [iterateOverRange, h, Bool.false_eq_true, if_false]

/-- Nothing is taken only when there is no room, and then nothing is written. -/
theorem writeRange_zero {w : HeaderWriter} {t : IndexType} {qc : QualifierCode}
    {s : DNP3Serializer T} {start : Nat} {v : T} {values : List T}
    (h : (w.writeRange t qc s start (v :: values)).2 = 0) :
    (w.writeRange t qc s start (v :: values)).1 = w ∧
      w.position.size < 3 + (2 * t.SIZE + s.size) := by
  rcases w.iterateOverRange_room t qc s start with ⟨hroom, hnull⟩ | ⟨hroom, hvalid⟩
  · refine ⟨?_, hroom⟩
    rw [writeRange, hnull]
    rfl
  · have htaken := hvalid.write_taken (v := v) (by
      rw [List.length_nil, Nat.zero_add, Nat.one_mul]
      omega)
    simp only [writeRange] at h
    have hrefused := refused_of_fill h
    rw [htaken] at hrefused
    cases hrefused

/-- The values that are taken have room. -/
theorem writeRange_room {w : HeaderWriter} {t : IndexType} {qc : QualifierCode}
    {s : DNP3Serializer T} {start : Nat} {values : List T}
    (hpos : 0 < (w.writeRange t qc s start values).2) :
    3 + 2 * t.SIZE + (w.writeRange t qc s start values).2 * s.size ≤ w.position.size := by
  simp only [writeRange] at hpos ⊢
  have hlen := List.length_take_of_le (fill_le_length
    (fun (p : RangeWriteIterator T × WSlice) v => p.1.write p.2 v)
    ((w.iterateOverRange t qc s start).2, (w.iterateOverRange t qc s start).1.position) values)
  rcases w.iterateOverRange_room t qc s start with ⟨-, hnull⟩ | ⟨hroom, hvalid⟩
  · rw [hnull, fill_of_refuses] at hpos
    · cases hpos
    · intro v
      simp [RangeWriteIterator.write, RangeWriteIterator.null]
  · have hfill := fill_invariant (I := RangeWriteIterator.HasRoom s _)
      (fun hf hw => hf.taken hw) (fun hf hw => hf.refused hw) values hvalid
    have hsize := hfill.room
    rw [List.nil_append, hlen] at hsize
    omega

end HeaderWriter

/-! ## Bits -/

namespace BitfieldRangeWriteIterator

/-- The iterator is valid, and so much room is left for it. -/
structure HasRoom (t : IndexType) (room : Nat) (p : BitfieldRangeWriteIterator × WSlice)
    (values : List Bool) : Prop where
  isValid : p.1.isValid = true
  type : p.1.type = t
  count : p.1.count = values.length % t.modulus
  maxCount : p.1.maxCount = room * 8
  room : values.length ≤ t.modulus → values.length ≤ room * 8

variable {t : IndexType} {room : Nat} {p p' : BitfieldRangeWriteIterator × WSlice}
  {values : List Bool}

theorem hasRoom_create (start : Nat) {w : WSlice} (h : 2 * t.SIZE ≤ w.size) :
    HasRoom t (w.size - 2 * t.SIZE) (create t start w) [] := by
  rw [create, if_pos h]
  refine ⟨rfl, rfl, (Nat.zero_mod _).symm, ?_, fun _ => Nat.zero_le _⟩
  show WSlice.size _ * 8 = _
  rw [WSlice.size_advance (by rwa [WSlice.size_patch]), WSlice.size_patch]

theorem HasRoom.taken {v : Bool} (h : HasRoom t room p values)
    (hw : p.1.write p.2 v = (p', true)) : HasRoom t room p' (values ++ [v]) := by
  rw [write] at hw
  split at hw
  next hfit =>
    cases hw
    have hlt := hfit.2
    rw [h.count, h.maxCount] at hlt
    refine ⟨h.isValid, h.type, ?_, h.maxCount, ?_⟩
    · show (p.1.count + 1) % p.1.type.modulus = _
      rw [h.type, h.count, Nat.mod_add_mod, List.length_append, List.length_singleton]
    · intro hle
      rw [List.length_append, List.length_singleton] at hle ⊢
      rw [Nat.mod_eq_of_lt (by omega)] at hlt
      exact hlt
  next => cases hw

theorem HasRoom.refused {v : Bool} (h : HasRoom t room p values)
    (hw : p.1.write p.2 v = (p', false)) : HasRoom t room p' values := by
  rw [write] at hw
  split at hw
  · cases hw
  · cases hw
    exact h

end BitfieldRangeWriteIterator

namespace HeaderWriter

/-- A range of bits has room for the header and one byte, or its iterator takes nothing. -/
theorem iterateOverSingleBitfield_room (w : HeaderWriter) (t : IndexType) (id : GroupVariationID)
    (qc : QualifierCode) (start : Nat) :
    w.position.size < 3 + (2 * t.SIZE + 1) ∧
      w.iterateOverSingleBitfield t id qc start = (w, .null t) ∨
    3 + (2 * t.SIZE + 1) ≤ w.position.size ∧
      BitfieldRangeWriteIterator.HasRoom t (w.position.size - (3 + 2 * t.SIZE))
        ((w.iterateOverSingleBitfield t id qc start).2,
          (w.iterateOverSingleBitfield t id qc start).1.position) [] := by
  by_cases hroom : 3 + (2 * t.SIZE + 1) ≤ w.position.size
  · obtain ⟨w', h, hsize⟩ := writeHeaderWithReserve_of_le id qc hroom
    have hcreate := BitfieldRangeWriteIterator.hasRoom_create (t := t) start
      (w := w'.position) (by omega)
    refine .inr ⟨hroom, ?_⟩
    simp only [iterateOverSingleBitfield, h, if_true]
    rwa [hsize, Nat.sub_sub] at hcreate
  · have h := writeHeaderWithReserve_of_lt id qc (Nat.lt_of_not_le hroom)
    refine .inl ⟨Nat.lt_of_not_le hroom, ?_⟩
    simp only [iterateOverSingleBitfield, h, Bool.false_eq_true, if_false]

/-- No bit is taken only when there is no room, and then nothing is written. -/
theorem writeBits_zero {w : HeaderWriter} {t : IndexType} {id : GroupVariationID}
    {qc : QualifierCode} {start : Nat} {v : Bool} {values : List Bool}
    (h : (w.writeBits t id qc start (v :: values)).2 = 0) :
    (w.writeBits t id qc start (v :: values)).1 = w ∧
      w.position.size < 3 + (2 * t.SIZE + 1) := by
  rcases w.iterateOverSingleBitfield_room t id qc start with ⟨hroom, hnull⟩ | ⟨hroom, hvalid⟩
  · refine ⟨?_, hroom⟩
    rw [writeBits, hnull]
    rfl
  · have hcount := hvalid.count
    have hmax := hvalid.maxCount
    rw [List.length_nil, Nat.zero_mod] at hcount
    have htaken : (BitfieldRangeWriteIterator.write (w.iterateOverSingleBitfield t id qc start).2
        (w.iterateOverSingleBitfield t id qc start).1.position v).2 = true := by
      rw [BitfieldRangeWriteIterator.write, if_pos ⟨hvalid.isValid, by
        rw [hcount, hmax]
        omega⟩]
    simp only [writeBits] at h
    have hrefused := refused_of_fill h
    rw [htaken] at hrefused
    cases hrefused

/-- The bits that are taken have room. -/
theorem writeBits_room {w : HeaderWriter} {t : IndexType} {id : GroupVariationID}
    {qc : QualifierCode} {start : Nat} {values : List Bool}
    (hpos : 0 < (w.writeBits t id qc start values).2)
    (hle : (w.writeBits t id qc start values).2 ≤ t.modulus) :
    3 + 2 * t.SIZE + ((w.writeBits t id qc start values).2 + 7) / 8 ≤ w.position.size := by
  simp only [writeBits] at hpos hle ⊢
  have hlen := List.length_take_of_le (fill_le_length
    (fun (p : BitfieldRangeWriteIterator × WSlice) v => p.1.write p.2 v)
    ((w.iterateOverSingleBitfield t id qc start).2,
      (w.iterateOverSingleBitfield t id qc start).1.position) values)
  rcases w.iterateOverSingleBitfield_room t id qc start with ⟨-, hnull⟩ | ⟨hroom, hvalid⟩
  · rw [hnull, fill_of_refuses] at hpos
    · cases hpos
    · intro v
      simp [BitfieldRangeWriteIterator.write, BitfieldRangeWriteIterator.null]
  · have hfill := fill_invariant (I := BitfieldRangeWriteIterator.HasRoom t _)
      (fun hf hw => hf.taken hw) (fun hf hw => hf.refused hw) values hvalid
    have hsize := hfill.room
    rw [List.nil_append, hlen] at hsize
    have := hsize hle
    omega

end HeaderWriter
end App
end Dnp3
