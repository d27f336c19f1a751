import Dnp3.App.WrittenHeader

/-!
# Written headers are parsed back

`Contents` is what is written under one object header: values of a range, single bits of a range,
index-prefixed objects, or objects of a count.  `Contents.emit` writes it through the iterator of
the header writer, until the iterator refuses a value, and the parser accepts the bytes by which
the writer has advanced: it consumes all of them and nothing else, and hands over the values that
were taken, in order and under their indices.  A value comes back as its variation transmits it,
which is the image under the codec of the variation.
-/

namespace Dnp3
namespace App

open Library

variable {T : Type}

/-! ## Writing a whole header -/

namespace HeaderWriter

/-- Write a range until a value is refused; the number of values taken. -/
def writeRange (w : HeaderWriter) (t : IndexType) (qc : QualifierCode) (s : DNP3Serializer T)
    (start : Nat) (values : List T) : HeaderWriter × Nat :=
  let (w, it) := w.iterateOverRange t qc s start
  let (p, n) := fill (fun (p : RangeWriteIterator T × WSlice) v => p.1.write p.2 v)
    (it, w.position) values
  ({ w with position := p.1.finish p.2 }, n)

/-- Write a range of bits until one is refused. -/
def writeBits (w : HeaderWriter) (t : IndexType) (id : GroupVariationID) (qc : QualifierCode)
    (start : Nat) (values : List Bool) : HeaderWriter × Nat :=
  let (w, it) := w.iterateOverSingleBitfield t id qc start
  let (p, n) := fill (fun (p : BitfieldRangeWriteIterator × WSlice) v => p.1.write p.2 v)
    (it, w.position) values
  ({ w with position := p.1.finish p.2 }, n)

/-- Write index-prefixed objects until one is refused. -/
def writePrefixed (w : HeaderWriter) (t : IndexType) (qc : QualifierCode) (s : DNP3Serializer T)
    (values : List (Indexed T)) : HeaderWriter × Nat :=
  let (w, it) := w.iterateOverCountWithPrefix t qc s
  let (p, n) := fill (fun (p : PrefixedWriteIterator T × WSlice) (v : Indexed T) =>
    p.1.write p.2 v.value v.index.toNat) (it, w.position) values
  ({ w with position := p.1.finish p.2 }, n)

/-- Write objects of a count until one is refused. -/
def writeCount (w : HeaderWriter) (t : IndexType) (qc : QualifierCode) (s : DNP3Serializer T)
    (values : List T) : HeaderWriter × Nat :=
  let (w, it) := w.iterateOverCount t qc s
  let (p, n) := fill (fun (p : CountWriteIterator T × WSlice) v => p.1.write p.2 v)
    (it, w.position) values
  ({ w with position := p.1.finish p.2 }, n)

/-- The first three bytes of a header. -/
def headerBytes (id : GroupVariationID) (qc : QualifierCode) : List UInt8 :=
  [id.group, id.variation, qc.toType]

theorem writeHeaderWithReserve_spec (w : HeaderWriter) (id : GroupVariationID) (qc : QualifierCode)
    (reserve : Nat) :
    (w.writeHeaderWithReserve id qc reserve = (w, false)) ∨
    ∃ w', w.writeHeaderWithReserve id qc reserve = (w', true) ∧
      w'.position.written = w.position.written ++ headerBytes id qc ∧
      reserve ≤ w'.position.size := by
  unfold writeHeaderWithReserve
  split
  next => exact .inl rfl
  next h =>
    have hfit : (headerBytes id qc).length ≤ w.position.size := by
      show 3 ≤ w.position.size
      omega
    refine .inr ⟨{ w with position := w.position.write (headerBytes id qc) }, ?_, ?_, ?_⟩
    · rw [writeHeader, if_neg (by omega), headerBytes]
    · exact WSlice.written_write hfit
    · show reserve ≤ (w.position.write (headerBytes id qc)).size
      rw [WSlice.size_write hfit]
      show reserve ≤ w.position.size - 3
      omega

/-- A range is not started, or its iterator stands behind the header and the start index. -/
theorem iterateOverRange_spec (w : HeaderWriter) (t : IndexType) (qc : QualifierCode)
    (s : DNP3Serializer T) (start : Nat) :
    (w.iterateOverRange t qc s start).2.isValid = false ∨
    RangeWriteIterator.Filled (w.position.written ++ headerBytes s.id qc) t s start
      ((w.iterateOverRange t qc s start).2, (w.iterateOverRange t qc s start).1.position) [] := by
  rcases w.writeHeaderWithReserve_spec s.id qc (2 * t.SIZE + s.size) with h | ⟨w', h, hw, hroom⟩
  · refine .inl ?_
    simp only [iterateOverRange, h, Bool.false_eq_true, if_false]
    rfl
  · refine .inr ?_
    simp only [iterateOverRange, h, if_true]
    rw [← hw]
    exact RangeWriteIterator.filled_create (by omega)

theorem writeRange_le (w : HeaderWriter) (t : IndexType) (qc : QualifierCode)
    (s : DNP3Serializer T) (start : Nat) (values : List T) :
    (w.writeRange t qc s start values).2 ≤ values.length := by
  rw [writeRange]
  exact fill_le_length _ _ _

/-- The bytes of a range. -/
theorem written_writeRange (w : HeaderWriter) (t : IndexType) (qc : QualifierCode)
    (s : DNP3Serializer T) (start : Nat) (values : List T)
    (hpos : 0 < (w.writeRange t qc s start values).2)
    (hlt : (w.writeRange t qc s start values).2 < t.modulus) :
    (w.writeRange t qc s start values).1.position.written =
      w.position.written ++ headerBytes s.id qc ++ t.bytes start ++
        t.bytes (start + (w.writeRange t qc s start values).2 - 1) ++
        (values.take (w.writeRange t qc s start values).2).flatMap s.write := by
  simp only [writeRange] at hpos hlt ⊢
  have hlen := List.length_take_of_le (fill_le_length
    (fun (p : RangeWriteIterator T × WSlice) v => p.1.write p.2 v)
    ((w.iterateOverRange t qc s start).2, (w.iterateOverRange t qc s start).1.position) values)
  rcases w.iterateOverRange_spec t qc s start with h | h
  · rw [fill_of_refuses] at hpos
    · cases hpos
    · intro v
      simp [RangeWriteIterator.write, h]
  · have hfill := fill_invariant (I := RangeWriteIterator.Filled _ t s start)
      (fun hf hw => hf.taken hw) (fun hf hw => hf.refused hw) values h
    rw [List.nil_append] at hfill
    have hwritten := hfill.written_finish (by rwa [hlen]) (by rwa [hlen])
    rwa [hlen] at hwritten

/-- A range of bits is not started, or its iterator stands behind the header and the start
index. -/
theorem iterateOverSingleBitfield_spec (w : HeaderWriter) (t : IndexType) (id : GroupVariationID)
    (qc : QualifierCode) (start : Nat) :
    (w.iterateOverSingleBitfield t id qc start).2.isValid = false ∨
    BitfieldRangeWriteIterator.Filled (w.position.written ++ headerBytes id qc) t start
      ((w.iterateOverSingleBitfield t id qc start).2,
        (w.iterateOverSingleBitfield t id qc start).1.position) [] := by
  rcases w.writeHeaderWithReserve_spec id qc (2 * t.SIZE + 1) with h | ⟨w', h, hw, hroom⟩
  · refine .inl ?_
    simp only [iterateOverSingleBitfield, h, Bool.false_eq_true, if_false]
    rfl
  · refine .inr ?_
    simp only [iterateOverSingleBitfield, h, if_true]
    rw [← hw]
    exact BitfieldRangeWriteIterator.filled_create (by omega)

theorem writeBits_le (w : HeaderWriter) (t : IndexType) (id : GroupVariationID)
    (qc : QualifierCode) (start : Nat) (values : List Bool) :
    (w.writeBits t id qc start values).2 ≤ values.length := by
  rw [writeBits]
  exact fill_le_length _ _ _

/-- The bytes of a range of bits. -/
theorem written_writeBits (w : HeaderWriter) (t : IndexType) (id : GroupVariationID)
    (qc : QualifierCode) (start : Nat) (values : List Bool)
    (hpos : 0 < (w.writeBits t id qc start values).2)
    (hlt : (w.writeBits t id qc start values).2 < t.modulus) :
    ∃ packed, packed.length = numBytesInBits (w.writeBits t id qc start values).2 ∧
      Packed packed (values.take (w.writeBits t id qc start values).2) ∧
      (w.writeBits t id qc start values).1.position.written =
        w.position.written ++ headerBytes id qc ++ t.bytes start ++
          t.bytes (start + (w.writeBits t id qc start values).2 - 1) ++ packed := by
  simp only [writeBits] at hpos hlt ⊢
  have hlen := List.length_take_of_le (fill_le_length
    (fun (p : BitfieldRangeWriteIterator × WSlice) v => p.1.write p.2 v)
    ((w.iterateOverSingleBitfield t id qc start).2,
      (w.iterateOverSingleBitfield t id qc start).1.position) values)
  rcases w.iterateOverSingleBitfield_spec t id qc start with h | h
  · rw [fill_of_refuses] at hpos
    · cases hpos
    · intro v
      simp [BitfieldRangeWriteIterator.write, h]
  · have hfill := fill_invariant (I := BitfieldRangeWriteIterator.Filled _ t start)
      (fun hf hw => hf.taken hw) (fun hf hw => hf.refused hw) values h
    rw [List.nil_append] at hfill
    have hwritten := hfill.written_finish (by rwa [hlen]) (by rwa [hlen])
    rwa [hlen] at hwritten

/-- Prefixed objects are not started, or their iterator stands behind the header. -/
theorem iterateOverCountWithPrefix_spec (w : HeaderWriter) (t : IndexType) (qc : QualifierCode)
    (s : DNP3Serializer T) :
    (w.iterateOverCountWithPrefix t qc s).2.isValid = false ∨
    PrefixedWriteIterator.Filled (w.position.written ++ headerBytes s.id qc) t s
      ((w.iterateOverCountWithPrefix t qc s).2,
        (w.iterateOverCountWithPrefix t qc s).1.position) [] := by
  rcases w.writeHeaderWithReserve_spec s.id qc (2 * t.SIZE + s.size) with h | ⟨w', h, hw, hroom⟩
  · refine .inl ?_
    simp only [iterateOverCountWithPrefix, h, Bool.false_eq_true, if_false]
    rfl
  · refine .inr ?_
    simp only [iterateOverCountWithPrefix, h, if_true]
    rw [← hw]
    exact PrefixedWriteIterator.filled_create (by omega)

theorem writePrefixed_le (w : HeaderWriter) (t : IndexType) (qc : QualifierCode)
    (s : DNP3Serializer T) (values : List (Indexed T)) :
    (w.writePrefixed t qc s values).2 ≤ values.length := by
  rw [writePrefixed]
  exact fill_le_length _ _ _

/-- The bytes of prefixed objects. -/
theorem written_writePrefixed (w : HeaderWriter) (t : IndexType) (qc : QualifierCode)
    (s : DNP3Serializer T) (values : List (Indexed T))
    (hpos : 0 < (w.writePrefixed t qc s values).2)
    (hlt : (w.writePrefixed t qc s values).2 < t.modulus) :
    (w.writePrefixed t qc s values).1.position.written =
      w.position.written ++ headerBytes s.id qc ++ t.bytes (w.writePrefixed t qc s values).2 ++
        (values.take (w.writePrefixed t qc s values).2).flatMap
          (PrefixedWriteIterator.object t s) := by
  simp only [writePrefixed] at hpos hlt ⊢
  have hlen := List.length_take_of_le (fill_le_length
    (fun (p : PrefixedWriteIterator T × WSlice) (v : Indexed T) =>
      p.1.write p.2 v.value v.index.toNat)
    ((w.iterateOverCountWithPrefix t qc s).2,
      (w.iterateOverCountWithPrefix t qc s).1.position) values)
  rcases w.iterateOverCountWithPrefix_spec t qc s with h | h
  · rw [fill_of_refuses] at hpos
    · cases hpos
    · intro v
      simp [PrefixedWriteIterator.write, h]
  · have hfill := fill_invariant (I := PrefixedWriteIterator.Filled _ t s)
      (fun hf hw => hf.taken hw) (fun hf hw => hf.refused hw) values h
    rw [List.nil_append] at hfill
    have hwritten := hfill.written_finish (by rwa [hlen])
    rwa [hlen] at hwritten

/-- Objects of a count are not started, or their iterator stands behind the header. -/
theorem iterateOverCount_spec (w : HeaderWriter) (t : IndexType) (qc : QualifierCode)
    (s : DNP3Serializer T) :
    (w.iterateOverCount t qc s).2.isValid = false ∨
    CountWriteIterator.Filled (w.position.written ++ headerBytes s.id qc) t s
      ((w.iterateOverCount t qc s).2, (w.iterateOverCount t qc s).1.position) [] := by
  rcases w.writeHeaderWithReserve_spec s.id qc (t.SIZE + s.size) with h | ⟨w', h, hw, hroom⟩
  · refine .inl ?_
    simp only [iterateOverCount, h, Bool.false_eq_true, if_false]
    rfl
  · refine .inr ?_
    simp only [iterateOverCount, h, if_true]
    rw [← hw]
    exact CountWriteIterator.filled_create (by omega)

theorem writeCount_le (w : HeaderWriter) (t : IndexType) (qc : QualifierCode)
    (s : DNP3Serializer T) (values : List T) :
    (w.writeCount t qc s values).2 ≤ values.length := by
  rw [writeCount]
  exact fill_le_length _ _ _

/-- The bytes of objects of a count. -/
theorem written_writeCount (w : HeaderWriter) (t : IndexType) (qc : QualifierCode)
    (s : DNP3Serializer T) (values : List T)
    (hpos : 0 < (w.writeCount t qc s values).2)
    (hlt : (w.writeCount t qc s values).2 < t.modulus) :
    (w.writeCount t qc s values).1.position.written =
      w.position.written ++ headerBytes s.id qc ++ t.bytes (w.writeCount t qc s values).2 ++
        (values.take (w.writeCount t qc s values).2).flatMap s.write := by
  simp only [writeCount] at hpos hlt ⊢
  have hlen := List.length_take_of_le (fill_le_length
    (fun (p : CountWriteIterator T × WSlice) v => p.1.write p.2 v)
    ((w.iterateOverCount t qc s).2, (w.iterateOverCount t qc s).1.position) values)
  rcases w.iterateOverCount_spec t qc s with h | h
  · rw [fill_of_refuses] at hpos
    · cases hpos
    · intro v
      simp [CountWriteIterator.write, h]
  · have hfill := fill_invariant (I := CountWriteIterator.Filled _ t s)
      (fun hf hw => hf.taken hw) (fun hf hw => hf.refused hw) values h
    rw [List.nil_append] at hfill
    have hwritten := hfill.written_finish (by rwa [hlen])
    rwa [hlen] at hwritten

end HeaderWriter

/-! ## Reading objects back -/

/-- Objects that were written one after the other are collected one after the other. -/
theorem collect_flatMap {α R : Type} {size : Nat} (enc : α → List UInt8)
    (read : List UInt8 → Nat → R) (g : α → Nat → R) (values : List α) (tail : List UInt8)
    (pos : Nat) (hsize : ∀ v ∈ values, (enc v).length = size)
    (hread : ∀ v ∈ values, ∀ pos z, read (enc v ++ z) pos = g v pos) :
    collect size read (values.flatMap enc ++ tail) pos values.length =
      (values.zipIdx pos).map fun p => g p.1 p.2 := by
  induction values generalizing pos with
  | nil => rfl
  | cons v values ih =>
    have htail := ih (pos + 1) (fun u hu => hsize u (List.mem_cons_of_mem v hu))
      (fun u hu => hread u (List.mem_cons_of_mem v hu))
    have hv := List.mem_cons_self (a := v) (l := values)
    rw [List.length_cons, collect, List.flatMap_cons, List.append_assoc, hread v hv,
      List.drop_left' (hsize v hv), htail, List.zipIdx_cons, List.map_cons]

/-- Objects that do not know their position. -/
theorem collect_flatMap_map {α R : Type} {size : Nat} (enc : α → List UInt8)
    (read : List UInt8 → R) (g : α → R) (values : List α) (tail : List UInt8)
    (hsize : ∀ v ∈ values, (enc v).length = size)
    (hread : ∀ v ∈ values, ∀ z, read (enc v ++ z) = g v) :
    collect size (fun b _ => read b) (values.flatMap enc ++ tail) 0 values.length =
      values.map g := by
  have hcollect := collect_flatMap enc (fun b _ => read b) (fun v _ => g v) values tail 0 hsize
    fun v hv _ z => hread v hv z
  have hfst := congrArg (List.map g) (List.zipIdx_map_fst 0 values)
  rw [List.map_map] at hfst
  exact hcollect.trans hfst

/-- Items that share the bytes are read by their position. -/
theorem collect_zero {α R : Type} (read : List UInt8 → Nat → R) (g : α → Nat → R)
    (buffer : List UInt8) (values : List α) (pos : Nat)
    (hread : ∀ i (h : i < values.length), read buffer (pos + i) = g values[i] (pos + i)) :
    collect 0 read buffer pos values.length = (values.zipIdx pos).map fun p => g p.1 p.2 := by
  induction values generalizing pos with
  | nil => rfl
  | cons v values ih =>
    have hhead := hread 0 (Nat.succ_pos _)
    have htail := ih (pos + 1) fun i h => by
      have := hread (i + 1) (Nat.succ_lt_succ h)
      rwa [Nat.add_assoc, Nat.add_comm 1 i]
    rw [List.length_cons, collect, List.drop_zero, htail, List.zipIdx_cons, List.map_cons]
    exact congrArg (· :: _) hhead

theorem length_flatMap_const {α : Type} {size : Nat} {enc : α → List UInt8} {values : List α}
    (h : ∀ v ∈ values, (enc v).length = size) :
    (values.flatMap enc).length = values.length * size := by
  induction values with
  | nil => rw [List.flatMap_nil, List.length_nil, List.length_nil, Nat.zero_mul]
  | cons v values ih =>
    have htail := ih fun u hu => h u (List.mem_cons_of_mem v hu)
    rw [List.flatMap_cons, List.length_append, htail, h v List.mem_cons_self, List.length_cons,
      Nat.succ_mul, Nat.add_comm]

theorem DNP3Serializer.length_write (s : DNP3Serializer T) (v : T) :
    (s.write v).length = s.codec.size := s.codec.length_write v

theorem DNP3Serializer.read_write_append (s : DNP3Serializer T) (v : T) (z : List UInt8) :
    s.codec.read (s.write v ++ z) = s.image v := s.codec.read_write_append v z

namespace NumParser

theorem readNum_append (t : NumParser) {n : Nat} (h : n < t.modulus) (z : List UInt8) :
    t.readNum (t.bytes n ++ z) = (UInt16.ofNat n, z) := by
  rw [readNum, t.value_bytes_append h, List.drop_left' (t.length_bytes n)]

theorem parseCount_append (t : NumParser) {n : Nat} (hpos : 0 < n) (h : n < t.modulus)
    (z : List UInt8) : t.parseCount (t.bytes n ++ z) = .ok (UInt16.ofNat n, z) := by
  have hlen : ¬ (t.bytes n ++ z).length < t.SIZE := by
    rw [List.length_append, IndexType.length_bytes]
    omega
  have hne : ¬ UInt16.ofNat n = 0 := by
    intro hzero
    have htoNat := congrArg UInt16.toNat hzero
    rw [UInt16.toNat_ofNat_of_lt' (Nat.lt_of_lt_of_le h t.modulus_le)] at htoNat
    exact Nat.ne_of_gt hpos htoNat
  rw [parseCount, if_neg hlen, t.readNum_append h, if_neg hne]

theorem parseRange_append (t : NumParser) {start stop : Nat} (hle : start ≤ stop)
    (h : stop < t.modulus) (z : List UInt8) :
    t.parseRange (t.bytes start ++ t.bytes stop ++ z) =
      .ok ({ start := UInt16.ofNat start, stop := UInt16.ofNat stop }, z) := by
  have hlen : ¬ (t.bytes start ++ t.bytes stop ++ z).length < 2 * t.SIZE := by
    simp only [List.length_append, IndexType.length_bytes]
    omega
  have hstop := Nat.lt_of_lt_of_le h t.modulus_le
  have hvalid : (Range.mk (UInt16.ofNat start) (UInt16.ofNat stop)).isValid = true := by
    rw [Range.isValid, decide_eq_true_eq, UInt16.le_iff_toNat_le,
      UInt16.toNat_ofNat_of_lt' (Nat.lt_of_le_of_lt hle hstop), UInt16.toNat_ofNat_of_lt' hstop]
    exact hle
  rw [parseRange, if_neg hlen, List.append_assoc, t.readNum_append (Nat.lt_of_le_of_lt hle h)]
  simp only [t.readNum_append h, hvalid, if_true]

end NumParser

theorem Range.count_ofNat (start : Nat) {n : Nat} (hpos : 0 < n) (h : start + n ≤ 65536) :
    (Range.mk (UInt16.ofNat start) (UInt16.ofNat (start + n - 1))).count = n := by
  have hstart : (UInt16.ofNat start).toNat = start := UInt16.toNat_ofNat_of_lt' (by
    show start < 65536
    omega)
  have hstop : (UInt16.ofNat (start + n - 1)).toNat = start + n - 1 :=
    UInt16.toNat_ofNat_of_lt' (by
      show start + n - 1 < 65536
      omega)
  have hvalid : (Range.mk (UInt16.ofNat start) (UInt16.ofNat (start + n - 1))).isValid = true := by
    rw [Range.isValid, decide_eq_true_eq, UInt16.le_iff_toNat_le, hstart, hstop]
    omega
  simp only [Range.count, hvalid, if_true, hstart, hstop]
  omega

theorem process_append {objects : List UInt8} {requiredSize : Nat} (header : ObjectHeader)
    (tail : List UInt8) (h : objects.length = requiredSize) :
    process (objects ++ tail) requiredSize header = .ok (header, tail) := by
  have hlen : ¬ (objects ++ tail).length < requiredSize := by
    rw [List.length_append]
    omega
  rw [process, if_neg hlen, List.drop_left' h]

/-! ## The contents of a header -/

/-- What is written under one header.  Ranges and counts carry the serializer of the objects and
what the handler is given. -/
inductive Contents where
  | range {T : Type} (s : DNP3Serializer T) (wrap : List (Indexed T) → Values) (start : Nat)
      (values : List T)
  | bits {T : Type} (id : GroupVariationID) (ofBit : Bool → T) (wrap : List (Indexed T) → Values)
      (start : Nat) (values : List Bool)
  | prefixed {T : Type} (s : DNP3Serializer T) (wrap : List (Indexed T) → Values)
      (values : List (Indexed T))
  | count {T : Type} (s : DNP3Serializer T) (wrap : List T → Values) (values : List T)

namespace Contents

/-- The group and variation of the header. -/
def id : Contents → GroupVariationID
  | range s _ _ _ => s.id
  | bits id _ _ _ _ => id
  | prefixed s _ _ => s.id
  | count s _ _ => s.id

/-- The qualifier of the contents with indices or counts of a type. -/
def qualifier : Contents → IndexType → QualifierCode
  | range .., .uint8 | bits .., .uint8 => .uint8StartStop
  | range .., .uint16 | bits .., .uint16 => .uint16StartStop
  | prefixed .., .uint8 => .uint8CntUint8Index
  | prefixed .., .uint16 => .uint16CntUint16Index
  | count .., .uint8 => .uint8Cnt
  | count .., .uint16 => .uint16Cnt

/-- Write the header until a value is refused; the number of values taken. -/
def emit (c : Contents) (t : IndexType) (w : HeaderWriter) : HeaderWriter × Nat :=
  match c with
  | range s _ start values => w.writeRange t (c.qualifier t) s start values
  | bits id _ _ start values => w.writeBits t id (c.qualifier t) start values
  | prefixed s _ values => w.writePrefixed t (c.qualifier t) s values
  | count s _ values => w.writeCount t (c.qualifier t) s values

/-- The record of the group and variation. -/
def record (c : Contents) : GroupVariationRecord :=
  GroupVariationRecord.getRecord c.id.group c.id.variation

/-- The parser reads objects of this group and variation under such a qualifier. -/
def Supported : (c : Contents) → Prop
  | c@(range s wrap _ _) => rangeReader c.record.enumeration = some (.fixedSize s.codec wrap)
  | c@(bits _ ofBit wrap _ _) => rangeReader c.record.enumeration = some (.bitfield ofBit wrap)
  | c@(prefixed s wrap _) => prefixReader c.record.enumeration = some (.fixedSize s.codec wrap)
  | c@(count s wrap _) => countReader c.record.enumeration = some (.fixedSize s.codec wrap)

/-- `n` values are within the range of the index type. -/
def Fits (t : IndexType) (n : Nat) : Contents → Prop
  | range _ _ start _ | bits _ _ _ start _ => start + n < t.modulus
  | prefixed _ _ values => n < t.modulus ∧ ∀ v ∈ values, v.index.toNat < t.modulus
  | count _ _ _ => n < t.modulus

/-- `n` values can be counted, and their indices are indices of the type. -/
def Within (t : IndexType) (n : Nat) : Contents → Prop
  | range _ _ start _ | bits _ _ _ start _ => start + n ≤ t.modulus ∧ n < t.modulus
  | prefixed _ _ values => n < t.modulus ∧ ∀ v ∈ values, v.index.toNat < t.modulus
  | count _ _ _ => n < t.modulus

/-- The range of `n` indices. -/
def rangeFrom (start n : Nat) : Range :=
  { start := UInt16.ofNat start, stop := UInt16.ofNat (start + n - 1) }

/-- The first `n` values, in order and under their indices. -/
def header (n : Nat) (record : HeaderRecord) : Contents → ObjectHeader
  | range _ wrap start values => .rangeOf record (rangeFrom start n) (wrap
      ((values.take n).zipIdx.map fun p => ⟨p.1, UInt16.ofNat (start + p.2)⟩))
  | bits _ ofBit wrap start values => .rangeOf record (rangeFrom start n) (wrap
      ((values.take n).zipIdx.map fun p => ⟨ofBit p.1, UInt16.ofNat (start + p.2)⟩))
  | prefixed _ wrap values => .prefixOf record (UInt16.ofNat n) (wrap (values.take n))
  | count _ wrap values => .countOf record (UInt16.ofNat n) (wrap (values.take n))

/-- The same with every value as its variation transmits it. -/
def received (n : Nat) (record : HeaderRecord) : Contents → ObjectHeader
  | range s wrap start values => .rangeOf record (rangeFrom start n) (wrap
      ((values.take n).zipIdx.map fun p => ⟨s.image p.1, UInt16.ofNat (start + p.2)⟩))
  | bits _ ofBit wrap start values => .rangeOf record (rangeFrom start n) (wrap
      ((values.take n).zipIdx.map fun p => ⟨ofBit p.1, UInt16.ofNat (start + p.2)⟩))
  | prefixed s wrap values => .prefixOf record (UInt16.ofNat n) (wrap
      ((values.take n).map fun v => ⟨s.image v.value, v.index⟩))
  | count s wrap values => .countOf record (UInt16.ofNat n) (wrap ((values.take n).map s.image))

/-- The variation transmits all there is to a value. -/
def Lossless : Contents → Prop
  | range s _ _ _ | prefixed s _ _ | count s _ _ => s.codec.Lossless
  | bits .. => True

theorem received_of_lossless {c : Contents} (h : c.Lossless) (n : Nat) (record : HeaderRecord) :
    c.received n record = c.header n record := by
  cases c with
  | range s wrap start values =>
    have h : s.image = fun v => v := funext h
    rw [received, header, h]
  | bits id ofBit wrap start values => rfl
  | prefixed s wrap values =>
    have h : s.image = fun v => v := funext h
    rw [received, header, h]
    exact congrArg (fun vs => ObjectHeader.prefixOf record (UInt16.ofNat n) (wrap vs))
      (List.map_id _)
  | count s wrap values =>
    have h : s.image = fun v => v := funext h
    rw [received, header, h]
    exact congrArg (fun vs => ObjectHeader.countOf record (UInt16.ofNat n) (wrap vs))
      (List.map_id _)

/-- The bytes behind the three bytes of the header. -/
inductive Body (t : IndexType) (n : Nat) : Contents → List UInt8 → Prop where
  | range {T : Type} (s : DNP3Serializer T) (wrap : List (Indexed T) → Values) (start : Nat)
      (values : List T) (hle : n ≤ values.length) :
      Body t n (range s wrap start values)
        (t.bytes start ++ t.bytes (start + n - 1) ++ (values.take n).flatMap s.write)
  | bits {T : Type} (id : GroupVariationID) (ofBit : Bool → T)
      (wrap : List (Indexed T) → Values) (start : Nat) (values : List Bool) {packed : List UInt8}
      (hle : n ≤ values.length) (hlen : packed.length = numBytesInBits n)
      (hpacked : Packed packed (values.take n)) :
      Body t n (bits id ofBit wrap start values)
        (t.bytes start ++ t.bytes (start + n - 1) ++ packed)
  | prefixed {T : Type} (s : DNP3Serializer T) (wrap : List (Indexed T) → Values)
      (values : List (Indexed T)) (hle : n ≤ values.length) :
      Body t n (prefixed s wrap values)
        (t.bytes n ++ (values.take n).flatMap (PrefixedWriteIterator.object t s))
  | count {T : Type} (s : DNP3Serializer T) (wrap : List T → Values) (values : List T)
      (hle : n ≤ values.length) :
      Body t n (count s wrap values) (t.bytes n ++ (values.take n).flatMap s.write)

theorem Within.lt {t : IndexType} {n : Nat} {c : Contents} (h : c.Within t n) :
    n < t.modulus := by
  cases c with
  | range s wrap start values => exact h.2
  | bits id ofBit wrap start values => exact h.2
  | prefixed s wrap values => exact h.1
  | count s wrap values => exact h

theorem Fits.within {t : IndexType} {n : Nat} {c : Contents} (h : c.Fits t n) : c.Within t n := by
  cases c with
  | range s wrap start values =>
    exact ⟨Nat.le_of_lt h, Nat.lt_of_le_of_lt (Nat.le_add_left n start) h⟩
  | bits id ofBit wrap start values =>
    exact ⟨Nat.le_of_lt h, Nat.lt_of_le_of_lt (Nat.le_add_left n start) h⟩
  | prefixed s wrap values => exact h
  | count s wrap values => exact h

/-- What the writer advances by. -/
theorem emit_spec (c : Contents) (t : IndexType) (w : HeaderWriter)
    (hpos : 0 < (c.emit t w).2) (hlt : (c.emit t w).2 < t.modulus) :
    ∃ body, Body t (c.emit t w).2 c body ∧
      (c.emit t w).1.position.written =
        w.position.written ++ (HeaderWriter.headerBytes c.id (c.qualifier t) ++ body) := by
  cases c with
  | range s wrap start values =>
    refine ⟨_, .range s wrap start values (w.writeRange_le ..), ?_⟩
    rw [emit, w.written_writeRange t _ s start values hpos hlt]
    simp only [List.append_assoc, id]
  | bits id ofBit wrap start values =>
    obtain ⟨packed, hlen, hpacked, hw⟩ := w.written_writeBits t id _ start values hpos hlt
    refine ⟨_, .bits id ofBit wrap start values (w.writeBits_le ..) hlen hpacked, ?_⟩
    rw [emit, hw]
    simp only [List.append_assoc, Contents.id]
  | prefixed s wrap values =>
    refine ⟨_, .prefixed s wrap values (w.writePrefixed_le ..), ?_⟩
    rw [emit, w.written_writePrefixed t _ s values hpos hlt]
    simp only [List.append_assoc, id]
  | count s wrap values =>
    refine ⟨_, .count s wrap values (w.writeCount_le ..), ?_⟩
    rw [emit, w.written_writeCount t _ s values hpos hlt]
    simp only [List.append_assoc, id]

theorem Supported.known {c : Contents} (h : c.Supported) : c.record.enumeration ≠ .unknown := by
  intro hunknown
  cases c <;> simp only [Supported, hunknown] at h <;> cases h

theorem indexAt_rangeFrom (start n pos : Nat) :
    RangeParser.indexAt (rangeFrom start n) pos = UInt16.ofNat (start + pos) := by
  rw [RangeParser.indexAt, rangeFrom, UInt16.ofNat_add]

theorem parseRangeOfObjects_fixedSize {s : DNP3Serializer T} {wrap : List (Indexed T) → Values}
    {record : HeaderRecord} (hreader : rangeReader record.enumeration =
      some (.fixedSize s.codec wrap)) (start : Nat) (values : List T) (hpos : 0 < values.length)
    (hfits : start + values.length ≤ 65536) (tail : List UInt8) :
    RangeParser.parseRangeOfObjects (values.flatMap s.write ++ tail) record
        (rangeFrom start values.length) =
      .ok (.rangeOf record (rangeFrom start values.length) (wrap
        (values.zipIdx.map fun p => ⟨s.image p.1, UInt16.ofNat (start + p.2)⟩)), tail) := by
  have hcount : (rangeFrom start values.length).count = values.length :=
    Range.count_ofNat start hpos hfits
  have hcollect := collect_flatMap s.write
    (fun b pos => (⟨s.codec.read b,
      RangeParser.indexAt (rangeFrom start values.length) pos⟩ : Indexed T))
    (fun v pos => ⟨s.image v, UInt16.ofNat (start + pos)⟩) values tail 0
    (fun v _ => s.length_write v) fun v _ pos z => by
      rw [s.read_write_append, indexAt_rangeFrom]
  rw [RangeParser.parseRangeOfObjects, hreader]
  simp only [hcount, hcollect]
  exact process_append _ tail (length_flatMap_const fun v _ => s.length_write v)

theorem parseRangeOfObjects_bitfield {ofBit : Bool → T} {wrap : List (Indexed T) → Values}
    {record : HeaderRecord} (hreader : rangeReader record.enumeration =
      some (.bitfield ofBit wrap)) (start : Nat) {values : List Bool} {packed : List UInt8}
    (hlen : packed.length = numBytesInBits values.length) (hpacked : Packed packed values)
    (hpos : 0 < values.length) (hfits : start + values.length ≤ 65536) (tail : List UInt8) :
    RangeParser.parseRangeOfObjects (packed ++ tail) record (rangeFrom start values.length) =
      .ok (.rangeOf record (rangeFrom start values.length) (wrap
        (values.zipIdx.map fun p => ⟨ofBit p.1, UInt16.ofNat (start + p.2)⟩)), tail) := by
  have hcount : (rangeFrom start values.length).count = values.length :=
    Range.count_ofNat start hpos hfits
  have hcollect := collect_zero
    (fun b pos => (⟨ofBit (getBit b pos),
      RangeParser.indexAt (rangeFrom start values.length) pos⟩ : Indexed T))
    (fun v pos => ⟨ofBit v, UInt16.ofNat (start + pos)⟩) (packed ++ tail) values 0 fun i hi => by
      rw [numBytesInBits_eq] at hlen
      have hbit := hpacked i (by omega)
      rw [List.getD_eq_getElem _ _ hi, getBit_eq, ← List.getD_append _ tail 0 _ (by omega),
        ← getBit_eq] at hbit
      rw [Nat.zero_add, hbit, indexAt_rangeFrom]
  rw [RangeParser.parseRangeOfObjects, hreader]
  simp only [hcount, hcollect]
  exact process_append _ tail hlen

theorem parseCountOfObjects_prefixed {s : DNP3Serializer T} {wrap : List (Indexed T) → Values}
    {record : HeaderRecord} (hreader : prefixReader record.enumeration =
      some (.fixedSize s.codec wrap)) (t : IndexType) (values : List (Indexed T))
    (hlt : values.length < 65536) (hindex : ∀ v ∈ values, v.index.toNat < t.modulus)
    (tail : List UInt8) :
    CountIndexParser.parseCountOfObjects
        (values.flatMap (PrefixedWriteIterator.object t s) ++ tail) record t
        (UInt16.ofNat values.length) =
      .ok (.prefixOf record (UInt16.ofNat values.length) (wrap
        (values.map fun v => ⟨s.image v.value, v.index⟩)), tail) := by
  have hcount : (UInt16.ofNat values.length).toNat = values.length :=
    UInt16.toNat_ofNat_of_lt' hlt
  have hsize : ∀ v ∈ values,
      (PrefixedWriteIterator.object t s v).length = s.codec.size + t.SIZE := fun v _ =>
    PrefixedWriteIterator.length_object t s v
  have hcollect := collect_flatMap_map (PrefixedWriteIterator.object t s)
    (fun b => (⟨s.codec.read (b.drop t.SIZE), (NumParser.readNum t b).1⟩ : Indexed T))
    (fun v => ⟨s.image v.value, v.index⟩) values tail hsize fun v hv z => by
      rw [PrefixedWriteIterator.object, List.append_assoc,
        NumParser.readNum_append t (hindex v hv), List.drop_left' (t.length_bytes _),
        s.read_write_append, UInt16.ofNat_toNat]
  rw [CountIndexParser.parseCountOfObjects, hreader]
  simp only [hcount, hcollect]
  exact process_append _ tail (length_flatMap_const hsize)

theorem parseCountOfObjects_fixedSize {s : DNP3Serializer T} {wrap : List T → Values}
    {record : HeaderRecord} (hreader : countReader record.enumeration =
      some (.fixedSize s.codec wrap)) (values : List T) (hlt : values.length < 65536)
    (tail : List UInt8) :
    CountParser.parseCountOfObjects (values.flatMap s.write ++ tail) record
        (UInt16.ofNat values.length) =
      .ok (.countOf record (UInt16.ofNat values.length) (wrap (values.map s.image)), tail) := by
  have hcount : (UInt16.ofNat values.length).toNat = values.length :=
    UInt16.toNat_ofNat_of_lt' hlt
  have hcollect := collect_flatMap_map s.write s.codec.read s.image values tail
    (fun v _ => s.length_write v) fun v _ z => s.read_write_append v z
  rw [CountParser.parseCountOfObjects, hreader]
  simp only [hcount, hcollect]
  exact process_append _ tail (length_flatMap_const fun v _ => s.length_write v)

/-- The parser reads a body, and nothing behind it. -/
theorem parseQualifier_body {c : Contents} {t : IndexType} {n : Nat} {body : List UInt8}
    (hbody : Body t n c body) (hs : c.Supported) (hpos : 0 < n) (hfits : c.Within t n)
    {record : HeaderRecord} (hrecord : record.toGroupVariationRecord = c.record)
    (hqualifier : record.getQualifierCode = c.qualifier t) (tail : List UInt8) :
    APDUParser.parseQualifier (body ++ tail) record true = .ok (c.received n record, tail) := by
  have hmodulus := t.modulus_le
  have hlt := hfits.lt
  cases hbody with
  | range s wrap start values hle =>
    have hfits : start + n ≤ t.modulus := hfits.1
    have htake := List.length_take_of_le hle
    have hreader : rangeReader record.enumeration = some (.fixedSize s.codec wrap) := by
      rw [hrecord]
      exact hs
    have hobjects := parseRangeOfObjects_fixedSize hreader start (values.take n)
      (by rwa [htake]) (by omega) tail
    rw [htake] at hobjects
    have hparse : RangeParser.parseHeader (t.bytes start ++ t.bytes (start + n - 1) ++
        (values.take n).flatMap s.write ++ tail) t true record =
        .ok ((range s wrap start values).received n record, tail) := by
      rw [List.append_assoc, RangeParser.parseHeader,
        NumParser.parseRange_append t (by omega) (by omega)]
      exact hobjects
    rw [APDUParser.parseQualifier, hqualifier]
    cases t <;> exact hparse
  | bits id ofBit wrap start values hle hlen hpacked =>
    rename_i packed
    have hfits : start + n ≤ t.modulus := hfits.1
    have htake := List.length_take_of_le hle
    have hreader : rangeReader record.enumeration = some (.bitfield ofBit wrap) := by
      rw [hrecord]
      exact hs
    have hobjects := parseRangeOfObjects_bitfield hreader start (by rwa [htake]) hpacked
      (by rwa [htake]) (by omega) tail
    rw [htake] at hobjects
    have hparse : RangeParser.parseHeader (t.bytes start ++ t.bytes (start + n - 1) ++
        packed ++ tail) t true record =
        .ok ((bits id ofBit wrap start values).received n record, tail) := by
      rw [List.append_assoc, RangeParser.parseHeader,
        NumParser.parseRange_append t (by omega) (by omega)]
      exact hobjects
    rw [APDUParser.parseQualifier, hqualifier]
    cases t <;> exact hparse
  | prefixed s wrap values hle =>
    have htake := List.length_take_of_le hle
    have hreader : prefixReader record.enumeration = some (.fixedSize s.codec wrap) := by
      rw [hrecord]
      exact hs
    have hobjects := parseCountOfObjects_prefixed hreader t (values.take n) (by omega)
      (fun v hv => hfits.2 v (List.mem_of_mem_take hv)) tail
    rw [htake] at hobjects
    have hparse : CountIndexParser.parseHeader (t.bytes n ++
        (values.take n).flatMap (PrefixedWriteIterator.object t s) ++ tail) t record =
        .ok ((prefixed s wrap values).received n record, tail) := by
      rw [List.append_assoc, CountIndexParser.parseHeader,
        NumParser.parseCount_append t hpos hlt]
      exact hobjects
    rw [APDUParser.parseQualifier, hqualifier]
    cases t <;> exact hparse
  | count s wrap values hle =>
    have htake := List.length_take_of_le hle
    have hreader : countReader record.enumeration = some (.fixedSize s.codec wrap) := by
      rw [hrecord]
      exact hs
    have hobjects := parseCountOfObjects_fixedSize hreader (values.take n) (by omega) tail
    rw [htake] at hobjects
    have hparse : CountParser.parseHeader (t.bytes n ++ (values.take n).flatMap s.write ++ tail) t
        true record = .ok ((count s wrap values).received n record, tail) := by
      rw [List.append_assoc, CountParser.parseHeader, NumParser.parseCount_append t hpos hlt]
      exact hobjects
    rw [APDUParser.parseQualifier, hqualifier]
    cases t <;> exact hparse

/-- The header of the handler. -/
def headerRecord (c : Contents) (t : IndexType) (count : Nat) : HeaderRecord :=
  { c.record with qualifier := (c.qualifier t).toType, headerIndex := count }

/-- The parser reads a header, and nothing behind it. -/
theorem parseHeader_body {c : Contents} {t : IndexType} {n : Nat} {body : List UInt8}
    (hbody : Body t n c body) (hs : c.Supported) (hpos : 0 < n) (hfits : c.Within t n) (count : Nat)
    {whiteList : Option APDUParser.WhiteList}
    (hallowed : ∀ allowed ∈ whiteList, allowed count c.record.enumeration (c.qualifier t) = true)
    (tail : List UInt8) :
    APDUParser.parseHeader (HeaderWriter.headerBytes c.id (c.qualifier t) ++ body ++ tail) count
      true whiteList = .ok (c.received n (c.headerRecord t count), tail) := by
  have hqualifier : (c.headerRecord t count).getQualifierCode = c.qualifier t :=
    QualifierCode.fromType_toType _
  have hbytes := parseQualifier_body hbody hs hpos hfits rfl hqualifier tail
  have hlen : ¬ (HeaderWriter.headerBytes c.id (c.qualifier t) ++ body ++ tail).length < 3 := by
    rw [List.length_append, List.length_append]
    show ¬ 3 + body.length + tail.length < 3
    omega
  have hknown : (GroupVariationRecord.getRecord c.id.group c.id.variation).enumeration ≠ .unknown :=
    hs.known
  have hforbidden : whiteList.any (fun allowed => !allowed count
      (GroupVariationRecord.getRecord c.id.group c.id.variation).enumeration
      (.fromType (c.qualifier t).toType)) = false := by
    rw [QualifierCode.fromType_toType]
    cases whiteList with
    | none => rfl
    | some allowed =>
      have hallowed := hallowed allowed rfl
      rw [record] at hallowed
      rw [Option.any_some, hallowed]
      rfl
  rw [APDUParser.parseHeader, if_neg hlen]
  simp only [HeaderWriter.headerBytes, List.cons_append, List.nil_append, List.getD_cons_zero,
    List.getD_cons_succ, List.drop_succ_cons, List.drop_zero]
  rw [if_neg hknown, hforbidden]
  exact hbytes

/-- A single header is parsed completely. -/
theorem parse_body {c : Contents} {t : IndexType} {n : Nat} {body : List UInt8}
    (hbody : Body t n c body) (hs : c.Supported) (hpos : 0 < n) (hfits : c.Within t n)
    {whiteList : APDUParser.WhiteList}
    (hallowed : whiteList 0 c.record.enumeration (c.qualifier t) = true) :
    APDUParser.parse (HeaderWriter.headerBytes c.id (c.qualifier t) ++ body) true whiteList =
      (.ok, [c.received n (c.headerRecord t 0)]) := by
  have hpass : ∀ wl : Option APDUParser.WhiteList,
      (∀ allowed ∈ wl, allowed 0 c.record.enumeration (c.qualifier t) = true) →
      APDUParser.parseSinglePass (HeaderWriter.headerBytes c.id (c.qualifier t) ++ body) true wl =
        (.ok, [c.received n (c.headerRecord t 0)]) := by
    intro wl hwl
    have hheader := parseHeader_body hbody hs hpos hfits 0 hwl []
    rw [List.append_nil] at hheader
    rw [APDUParser.parseSinglePass, List.length_append]
    show APDUParser.parseHeaders true wl (3 + body.length) 0 _ = _
    rw [show 3 + body.length = body.length + 2 + 1 from by omega,
      APDUParser.parseHeaders_ok _ hheader, APDUParser.parseHeaders_nil]
  have hfirst := hpass (some whiteList) fun allowed h => by
    cases h
    exact hallowed
  rw [APDUParser.parse, hfirst, hpass none fun allowed h => by cases h]
  rfl

end Contents

/-- What an iterator writes until it refuses a value is parsed back: the parser accepts the bytes by
which the writer has advanced, consumes exactly these, and yields the values that were taken. -/
theorem parse_emit (c : Contents) (t : IndexType) (w : HeaderWriter) (hs : c.Supported)
    (hpos : 0 < (c.emit t w).2) (hfits : c.Fits t (c.emit t w).2) :
    ∃ bytes, (c.emit t w).1.position.written = w.position.written ++ bytes ∧
      (∀ whiteList : APDUParser.WhiteList, whiteList 0 c.record.enumeration (c.qualifier t) →
        APDUParser.parse bytes true whiteList =
          (.ok, [c.received (c.emit t w).2 (c.headerRecord t 0)])) ∧
      ∀ (count : Nat) (whiteList : Option APDUParser.WhiteList) (tail : List UInt8),
        (∀ allowed ∈ whiteList, allowed count c.record.enumeration (c.qualifier t)) →
        APDUParser.parseHeader (bytes ++ tail) count true whiteList =
          .ok (c.received (c.emit t w).2 (c.headerRecord t count), tail) := by
  obtain ⟨body, hbody, hw⟩ := c.emit_spec t w hpos hfits.within.lt
  refine ⟨_, hw, ?_, ?_⟩
  · intro whiteList hallowed
    exact Contents.parse_body hbody hs hpos hfits.within hallowed
  · intro count whiteList tail hallowed
    exact Contents.parseHeader_body hbody hs hpos hfits.within count hallowed tail

/-- Three counters into a buffer with room for two of them. -/
theorem parse_emit_counters :
    ∃ bytes, ((Contents.range group20Var2 .counter 7
        [⟨5, 1, 0⟩, ⟨6, 1, 0⟩, ⟨7, 1, 0⟩]).emit .uint8
        (.ofSlice (.ofMemory (List.replicate 12 0)))).1.position.written = [] ++ bytes ∧
      APDUParser.parse bytes true (fun _ _ _ => true) =
        (.ok, [.rangeOf ⟨.getRecord 20 2, 0, 0⟩ ⟨7, 8⟩
          (.counter [⟨⟨5, 1, 0⟩, 7⟩, ⟨⟨6, 1, 0⟩, 8⟩])]) := by
  obtain ⟨bytes, hw, hparse, -⟩ := parse_emit
    (.range group20Var2 .counter 7 [⟨5, 1, 0⟩, ⟨6, 1, 0⟩, ⟨7, 1, 0⟩]) .uint8
    (.ofSlice (.ofMemory (List.replicate 12 0))) rfl (by decide) (show 7 + _ < 256 by decide)
  exact ⟨bytes, hw, hparse (fun _ _ _ => true) rfl⟩

/-- A variation with 16 bits for the value does not bring 65536 back, so the values themselves are
not always yielded. -/
theorem not_parse_emit_header :
    ¬ ∀ (c : Contents) (t : IndexType) (w : HeaderWriter), c.Supported → 0 < (c.emit t w).2 →
      c.Fits t (c.emit t w).2 → ∀ bytes,
        (c.emit t w).1.position.written = w.position.written ++ bytes →
        APDUParser.parse bytes true (fun _ _ _ => true) =
          (.ok, [c.header (c.emit t w).2 (c.headerRecord t 0)]) := by
  intro h
  have hparse := h (.range group20Var2 .counter 7 [⟨65536, 1, 0⟩]) .uint8
    (.ofSlice (.ofMemory (List.replicate 12 0))) rfl (by decide) (show 7 + _ < 256 by decide)
    [20, 2, 0, 7, 7, 1, 0, 0] (by decide)
  revert hparse
  decide

end App
end Dnp3
