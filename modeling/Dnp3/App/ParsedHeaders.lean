import Dnp3.App.APDUHandler
import Dnp3.App.RoundTrip

/-!
# The headers of a fragment

A handler that keeps something from one header to the next sees more than the objects of a fragment:
it sees the headers, in their order and with their numbers.  `ParsesHeaders` relates bytes to the
headers that the parser hands over, each as a function of its number.

The event writer starts a header of prefixed objects without knowing how many there will be.  When
the header could be started there is room for one object, and what it holds in the end is parsed as
one header; a common time of occurrence in front of it is parsed as another.
-/

namespace Dnp3
namespace App

open Library

/-! ## Bytes and their headers -/

/-- The bytes are these headers. -/
inductive ParsesHeaders : List UInt8 → List (Nat → ObjectHeader) → Prop where
  | nil : ParsesHeaders [] []
  | cons {bytes rest : List UInt8} {header : Nat → ObjectHeader}
      {headers : List (Nat → ObjectHeader)}
      (front : ∀ (count : Nat) (whiteList : Option APDUParser.WhiteList) (tail : List UInt8),
        (∀ allowed ∈ whiteList, ∀ gv qc, allowed count gv qc) →
        APDUParser.parseHeader (bytes ++ tail) count true whiteList = .ok (header count, tail))
      (back : ParsesHeaders rest headers) : ParsesHeaders (bytes ++ rest) (header :: headers)

/-- The headers under their numbers, from `count` on. -/
def numbered : Nat → List (Nat → ObjectHeader) → List ObjectHeader
  | _, [] => []
  | count, header :: headers => header count :: numbered (count + 1) headers

namespace ParsesHeaders

variable {bytes bytes' : List UInt8} {headers headers' : List (Nat → ObjectHeader)}

theorem append (h : ParsesHeaders bytes headers) (h' : ParsesHeaders bytes' headers') :
    ParsesHeaders (bytes ++ bytes') (headers ++ headers') := by
  induction h with
  | nil => exact h'
  | cons front _ ih =>
    rw [List.append_assoc]
    exact .cons front ih

theorem parseHeaders (h : ParsesHeaders bytes headers) (whiteList : Option APDUParser.WhiteList)
    (hallowed : ∀ allowed ∈ whiteList, ∀ count gv qc, allowed count gv qc)
    (count : Nat) {fuel : Nat}
    (hfuel : bytes.length ≤ fuel) :
    APDUParser.parseHeaders true whiteList fuel count bytes = (.ok, numbered count headers) := by
  induction h generalizing count fuel with
  | nil => exact APDUParser.parseHeaders_nil _ _ _ _
  | @cons first rest header _ front _ ih =>
    have hparse := front count whiteList rest fun allowed ha gv qc =>
      hallowed allowed ha count gv qc
    have hne : first ≠ [] := by
      rintro rfl
      have hnil := front count whiteList [] fun allowed ha gv qc => hallowed allowed ha count gv qc
      cases hnil
    have hpos := List.length_pos_iff.mpr hne
    rw [List.length_append] at hfuel
    obtain ⟨fuel, rfl⟩ : ∃ n, fuel = n + 1 := ⟨fuel - 1, by omega⟩
    rw [APDUParser.parseHeaders_ok fuel hparse, ih (count + 1) (by omega), numbered]

/-- A handler that allows everything is handed all the headers. -/
theorem parse (h : ParsesHeaders bytes headers) {whiteList : APDUParser.WhiteList}
    (hallowed : ∀ count gv qc, whiteList count gv qc) :
    APDUParser.parse bytes true whiteList = (.ok, numbered 0 headers) := by
  have hcheck := h.parseHeaders (some whiteList)
    (by rintro allowed ⟨⟩; exact hallowed) 0 (Nat.le_refl _)
  have hpass := h.parseHeaders none (by rintro allowed ⟨⟩) 0 (Nat.le_refl _)
  rw [APDUParser.parse, APDUParser.parseSinglePass, hcheck]
  exact hpass

end ParsesHeaders

/-- The contents of one header. -/
theorem Contents.parsesHeaders {c : Contents} {t : IndexType} {n : Nat} {body : List UInt8}
    (hbody : Body t n c body) (hs : c.Supported) (hpos : 0 < n) (hwithin : c.Within t n) :
    ParsesHeaders (HeaderWriter.headerBytes c.id (c.qualifier t) ++ body)
      [fun count => c.received n (c.headerRecord t count)] := by
  rw [← List.append_nil (HeaderWriter.headerBytes c.id (c.qualifier t) ++ body)]
  refine .cons (fun count whiteList tail hallowed => ?_) .nil
  exact parseHeader_body hbody hs hpos hwithin count
    (fun allowed ha => hallowed allowed ha _ _) tail

/-! ## Starting a header of prefixed objects -/

namespace HeaderWriter

variable {T : Type}

/-- A header of prefixed objects that was started has room for an object. -/
structure Started (w : HeaderWriter) (t : IndexType) (qc : QualifierCode) (s : DNP3Serializer T)
    (p : PrefixedWriteIterator T × WSlice) : Prop where
  filled : PrefixedWriteIterator.Filled (w.position.written ++ headerBytes s.id qc) t s p []
  room : s.size + t.SIZE ≤ p.2.size

/-- Prefixed objects are not started and nothing is written, or their header is started. -/
theorem iterateOverCountWithPrefix_started (w : HeaderWriter) (t : IndexType) (qc : QualifierCode)
    (s : DNP3Serializer T) :
    w.iterateOverCountWithPrefix t qc s = (w, .null t s) ∨
    w.Started t qc s ((w.iterateOverCountWithPrefix t qc s).2,
      (w.iterateOverCountWithPrefix t qc s).1.position) := by
  rcases w.writeHeaderWithReserve_spec s.id qc (2 * t.SIZE + s.size) with h | ⟨w', h, hw, hroom⟩
  · refine .inl ?_
    simp only [iterateOverCountWithPrefix, h, Bool.false_eq_true, if_false]
  · refine .inr ⟨?_, ?_⟩
    · simp only [iterateOverCountWithPrefix, h, if_true]
      rw [← hw]
      exact PrefixedWriteIterator.filled_create (by omega)
    · simp only [iterateOverCountWithPrefix, h, if_true]
      rw [PrefixedWriteIterator.create, if_pos (by omega)]
      show s.size + t.SIZE ≤ (w'.position.advance t.SIZE).size
      rw [WSlice.size_advance (by omega)]
      omega

/-- The first object of a header that was started is taken. -/
theorem Started.taken {w : HeaderWriter} {t : IndexType} {qc : QualifierCode}
    {s : DNP3Serializer T} {p : PrefixedWriteIterator T × WSlice} (h : w.Started t qc s p) (v : T)
    (index : Nat) : (p.1.write p.2 v index).2 = true := by
  have hroom : s.size + t.SIZE ≤ p.2.size := h.room
  rw [PrefixedWriteIterator.write, h.filled.iterator, if_pos ⟨rfl, hroom⟩]

/-- A single value, behind a count of one. -/
theorem writeSingleValue_spec (w : HeaderWriter) (t : IndexType) (qc : QualifierCode)
    (s : DNP3Serializer T) (value : T) :
    w.writeSingleValue t qc s value = (w, false) ∨
    ((w.writeSingleValue t qc s value).2 = true ∧
      (w.writeSingleValue t qc s value).1.mark = w.mark ∧
      (w.writeSingleValue t qc s value).1.position.written =
        w.position.written ++ (headerBytes s.id qc ++ (t.bytes 1 ++ s.write value))) := by
  have hreserve := w.writeHeaderWithReserve_spec s.id qc (t.SIZE + s.size)
  have hmark : ∀ w', w.writeHeaderWithReserve s.id qc (t.SIZE + s.size) = (w', true) →
      w'.mark = w.mark := by
    intro w' h
    rw [writeHeaderWithReserve, writeHeader] at h
    split at h
    · cases h
    · split at h
      · cases h
      · cases h
        rfl
  rcases hreserve with h | ⟨w', h, hw, hroom⟩
  · refine .inl ?_
    simp only [writeSingleValue, h, Bool.false_eq_true, if_false]
  · refine .inr ?_
    have hcount : (t.bytes 1).length ≤ w'.position.size := by
      rw [IndexType.length_bytes]
      omega
    have hvalue : (s.write value).length ≤ (w'.position.write (t.bytes 1)).size := by
      rw [WSlice.size_write hcount, IndexType.length_bytes, DNP3Serializer.length_write]
      exact Nat.le_sub_of_add_le' hroom
    simp only [writeSingleValue, h, if_true]
    refine ⟨trivial, hmark w' h, ?_⟩
    rw [WSlice.written_write hvalue, WSlice.written_write hcount, hw]
    simp only [List.append_assoc]

/-- With a common time: nothing stays written, or the time stands in front of a header that is
started. -/
theorem iterateOverCountWithPrefixAndCTO_started (w : HeaderWriter) (t : IndexType)
    (qc : QualifierCode) (s : DNP3Serializer T) (ctoSerializer : DNP3Serializer DNPTime)
    (cto : DNPTime) :
    ((w.iterateOverCountWithPrefixAndCTO t qc s ctoSerializer cto).2 = .null t s ∧
      (w.iterateOverCountWithPrefixAndCTO t qc s ctoSerializer cto).1.position.written =
        w.position.written) ∨
    ∃ w' : HeaderWriter, w'.position.written = w.position.written ++
        (headerBytes ctoSerializer.id .uint8Cnt ++
          (IndexType.uint8.bytes 1 ++ ctoSerializer.write cto)) ∧
      w'.Started t qc s ((w.iterateOverCountWithPrefixAndCTO t qc s ctoSerializer cto).2,
        (w.iterateOverCountWithPrefixAndCTO t qc s ctoSerializer cto).1.position) := by
  have hsingle := w.recordMark.writeSingleValue_spec .uint8 .uint8Cnt ctoSerializer cto
  rw [iterateOverCountWithPrefixAndCTO]
  rcases hvalue : w.recordMark.writeSingleValue .uint8 .uint8Cnt ctoSerializer cto with ⟨w', ok⟩
  rw [hvalue] at hsingle
  rcases hsingle with h | ⟨hok, hmark, hwritten⟩
  · cases h
    exact .inl ⟨rfl, rfl⟩
  · dsimp only at hok hmark hwritten
    subst hok
    dsimp only
    rw [if_pos rfl]
    rcases w'.iterateOverCountWithPrefix_started t qc s with hnull | hstarted
    · refine .inl ?_
      rw [hnull]
      refine ⟨rfl, ?_⟩
      show (HeaderWriter.rollback w').1.position.written = _
      have hmark : w'.mark = some w.position.pos := hmark
      rw [rollback, hmark]
      show w'.position.mem.take (min w.position.pos w'.position.mem.length) = _
      have hpos : w.position.pos ≤ w'.position.pos := by
        rw [← WSlice.length_written w'.position, hwritten, List.length_append]
        exact Nat.le_trans (Nat.le_of_eq w.position.length_written.symm) (Nat.le_add_right _ _)
      have hfront := congrArg (List.take w.position.pos) hwritten
      rw [show w.recordMark.position = w.position from rfl, WSlice.written, List.take_take,
        Nat.min_eq_left hpos, List.take_left' w.position.length_written] at hfront
      rw [Nat.min_eq_left (Nat.le_trans hpos w'.position.pos_le), hfront]
    · refine .inr ⟨w', hwritten, ?_⟩
      have hvalid : (w'.iterateOverCountWithPrefix t qc s).2.isValid = true := by
        have hiterator := hstarted.filled.iterator
        dsimp only at hiterator
        rw [hiterator]
        rfl
      rw [if_pos hvalid]
      exact hstarted

end HeaderWriter

/-! ## The bytes of a header -/

/-- A header of prefixed objects that is finished. -/
theorem parsesHeaders_prefixed {T : Type} {s : DNP3Serializer T}
    {wrap : List (Indexed T) → Values} {w : HeaderWriter} {p : PrefixedWriteIterator T × WSlice}
    {values : List (Indexed T)}
    (hfilled : PrefixedWriteIterator.Filled
      (w.position.written ++ HeaderWriter.headerBytes s.id .uint16CntUint16Index) .uint16 s p values)
    (hs : (Contents.prefixed s wrap values).Supported) (hpos : 0 < values.length)
    (hlt : values.length < 65536) :
    ∃ bytes, (p.1.finish p.2).written = w.position.written ++ bytes ∧
      ParsesHeaders bytes [fun count => .prefixOf
        ((Contents.prefixed s wrap values).headerRecord .uint16 count)
        (UInt16.ofNat values.length) (wrap (values.map fun v => ⟨s.image v.value, v.index⟩))] := by
  have hbody := Contents.Body.prefixed (t := .uint16) s wrap values (Nat.le_refl values.length)
  rw [List.take_length] at hbody
  have hparses := Contents.parsesHeaders hbody hs hpos ⟨hlt, fun v _ => v.index.toNat_lt⟩
  have hreceived : ∀ record, (Contents.prefixed s wrap values).received values.length record =
      .prefixOf record (UInt16.ofNat values.length)
        (wrap (values.map fun v => ⟨s.image v.value, v.index⟩)) := by
    intro record
    rw [Contents.received, List.take_length]
  simp only [hreceived] at hparses
  refine ⟨_, ?_, hparses⟩
  rw [hfilled.written_finish hlt]
  simp only [List.append_assoc]
  rfl

/-- A common time of occurrence. -/
theorem parsesHeaders_cto {cto : DNPTime} (h : cto.toNat < 2 ^ 48) :
    ParsesHeaders (HeaderWriter.headerBytes group51Var1.id .uint8Cnt ++
        (IndexType.uint8.bytes 1 ++ group51Var1.write cto))
      [fun count => .countOf
        ((Contents.count group51Var1 .group51Var1 [cto]).headerRecord .uint8 count) 1
        (.group51Var1 [cto])] := by
  have hbody := Contents.Body.count (t := .uint8) group51Var1 .group51Var1 [cto]
    (Nat.le_refl 1)
  have hsupported : (Contents.count group51Var1 .group51Var1 [cto]).Supported := by
    show countReader (GroupVariationRecord.getRecord 51 1).enumeration = _
    rfl
  have hparses := Contents.parsesHeaders hbody hsupported Nat.one_pos (by decide : 1 < 256)
  have himage : group51Var1.image cto = cto := by
    show dnpTime.image cto = cto
    rw [image_dnpTime, Nat.min_eq_left (Nat.le_sub_one_of_lt h), UInt64.ofNat_toNat]
  have hreceived : ∀ record, (Contents.count group51Var1 .group51Var1 [cto]).received 1 record =
      .countOf record 1 (.group51Var1 [cto]) := by
    intro record
    show ObjectHeader.countOf record 1 (.group51Var1 [group51Var1.image cto]) = _
    rw [himage]
  simp only [hreceived] at hparses
  rw [List.take_succ_cons, List.take_nil, List.flatMap_singleton] at hparses
  exact hparses

end App
end Dnp3
