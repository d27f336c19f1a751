import Dnp3.App.Parser

/-!
# The layout of object headers

What the bytes of an object section say, apart from how they are parsed.  A header has three bytes
for its object and qualifier, a field with the range, the count or the size that the qualifier asks
for, and behind it the objects the field announces.  Every object takes the same number of bits:
one or two in the packed formats, whole bytes in the others; the last byte is filled up.

The three bytes and the field say how long the objects are, so that a section is divided into
headers in one way at most.

`HeaderBytes` is a header with its objects, part by part, and `HeadersOf` a section that is divided
into headers.  `HeadersOf.unique` says that there is no other division of the same bytes.  This is
what makes it meaningful to say that a parser has handed over all headers of a section and no
others, without saying how it has found them.
-/

namespace Dnp3
namespace App

open Library

/-! ## Sizes -/

namespace QualifierCode

/-- The integers of a range, a count or an index. -/
def number : QualifierCode → NumParser
  | .uint8StartStop | .uint8Cnt | .uint8CntUint8Index => .uint8
  | _ => .uint16

/-- The qualifiers of a range, of a count, and of a count of objects with an index in front. -/
def ranges : List QualifierCode := [.uint8StartStop, .uint16StartStop]

/-- The qualifiers of counted objects. -/
def counts : List QualifierCode := [.uint8Cnt, .uint16Cnt]

/-- The qualifiers of objects with an index in front. -/
def prefixedCounts : List QualifierCode := [.uint8CntUint8Index, .uint16CntUint16Index]

/-- The bytes between the qualifier and the objects. -/
def fieldSize : QualifierCode → Nat
  | .allObjects => 0
  | .uint8Cnt => 1
  | .uint16Cnt => 2
  | .uint8StartStop => 2
  | .uint16StartStop => 4
  | .uint8CntUint8Index => 1
  | .uint16CntUint16Index => 2
  | .uint16FreeFormat => 3
  | .undefined => 0

end QualifierCode

/-- The bits of an object in a range. -/
def rangeBits (gv : GroupVariationRecord) : Nat :=
  match rangeReader gv.enumeration with
  | some (.fixedSize codec _) => 8 * codec.size
  | some (.bitfield _ _) => 1
  | some (.doubleBitfield _ _) => 2
  | some .octetData => 8 * gv.variation.toNat
  | none => 0

/-- The bits of an object behind a count. -/
def countBits (gv : GroupVariationRecord) : Nat :=
  match countReader gv.enumeration with
  | some (.fixedSize codec _) => 8 * codec.size
  | none => 0

/-- The bits of an object and the index in front of it. -/
def prefixBits (n : NumParser) (gv : GroupVariationRecord) : Nat :=
  match prefixReader gv.enumeration with
  | some (.fixedSize codec _) => 8 * (n.SIZE + codec.size)
  | some .octetData => 8 * (n.SIZE + gv.variation.toNat)
  | none => 0

/-! ## Headers -/

/-- The bytes of a header and its objects, part by part. -/
structure HeaderBytes where
  group : UInt8
  variation : UInt8
  qualifier : UInt8
  field : List UInt8
  objects : List UInt8
  deriving DecidableEq, Repr

namespace HeaderBytes

/-- The header as it is transmitted. -/
def bytes (h : HeaderBytes) : List UInt8 :=
  h.group :: h.variation :: h.qualifier :: (h.field ++ h.objects)

/-- What is known of its group and variation. -/
def gv (h : HeaderBytes) : GroupVariationRecord := .getRecord h.group h.variation

/-- Its qualifier. -/
def qualifierCode (h : HeaderBytes) : QualifierCode := .fromType h.qualifier

/-- The record of the header when `index` headers are in front of it. -/
def record (h : HeaderBytes) (index : Nat) : HeaderRecord :=
  { h.gv with qualifier := h.qualifier, headerIndex := index }

/-- The number in front of the field: the start of a range, or a count. -/
def first (h : HeaderBytes) : Nat := h.qualifierCode.number.value h.field

/-- The stop of a range. -/
def second (h : HeaderBytes) : Nat :=
  h.qualifierCode.number.value (h.field.drop h.qualifierCode.number.SIZE)

/-- The number of objects the field announces; a range has its start and its stop. -/
def announced (h : HeaderBytes) : Nat :=
  match h.qualifierCode with
  | .allObjects | .undefined => 0
  | .uint8StartStop | .uint16StartStop => h.second + 1 - h.first
  | .uint8Cnt | .uint16Cnt | .uint8CntUint8Index | .uint16CntUint16Index => h.first
  | .uint16FreeFormat => (h.field.getD 0 0).toNat

/-- The bits each of them takes.  Without contents, ranges and counts have no objects; objects with
an index in front and free-format objects are always there. -/
def objectBits (expectsContents : Bool) (h : HeaderBytes) : Nat :=
  match h.qualifierCode with
  | .allObjects | .undefined => 0
  | .uint8Cnt | .uint16Cnt => if expectsContents then countBits h.gv else 0
  | .uint8StartStop | .uint16StartStop => if expectsContents then rangeBits h.gv else 0
  | .uint8CntUint8Index | .uint16CntUint16Index => prefixBits h.qualifierCode.number h.gv
  | .uint16FreeFormat => 8 * leNat ((h.field.drop 1).take 2)

/-! What the qualifier makes of a field. -/

section Qualifiers

variable {h : HeaderBytes} {expectsContents : Bool}

theorem fieldSize_ranges {qc : QualifierCode} (hqc : qc ∈ QualifierCode.ranges) :
    qc.fieldSize = 2 * qc.number.SIZE := by
  rcases List.mem_pair.mp hqc with rfl | rfl <;> rfl

theorem fieldSize_counts {qc : QualifierCode} (hqc : qc ∈ QualifierCode.counts) :
    qc.fieldSize = qc.number.SIZE := by
  rcases List.mem_pair.mp hqc with rfl | rfl <;> rfl

theorem fieldSize_prefixedCounts {qc : QualifierCode} (hqc : qc ∈ QualifierCode.prefixedCounts) :
    qc.fieldSize = qc.number.SIZE := by
  rcases List.mem_pair.mp hqc with rfl | rfl <;> rfl

theorem announced_ranges (hqc : h.qualifierCode ∈ QualifierCode.ranges) :
    h.announced = h.second + 1 - h.first := by
  rcases List.mem_pair.mp hqc with hqc | hqc <;> rw [announced, hqc]

theorem announced_counts (hqc : h.qualifierCode ∈ QualifierCode.counts) :
    h.announced = h.first := by
  rcases List.mem_pair.mp hqc with hqc | hqc <;> rw [announced, hqc]

theorem announced_prefixedCounts (hqc : h.qualifierCode ∈ QualifierCode.prefixedCounts) :
    h.announced = h.first := by
  rcases List.mem_pair.mp hqc with hqc | hqc <;> rw [announced, hqc]

theorem objectBits_ranges (hqc : h.qualifierCode ∈ QualifierCode.ranges) :
    h.objectBits expectsContents = if expectsContents then rangeBits h.gv else 0 := by
  rcases List.mem_pair.mp hqc with hqc | hqc <;> rw [objectBits, hqc]

theorem objectBits_counts (hqc : h.qualifierCode ∈ QualifierCode.counts) :
    h.objectBits expectsContents = if expectsContents then countBits h.gv else 0 := by
  rcases List.mem_pair.mp hqc with hqc | hqc <;> rw [objectBits, hqc]

theorem objectBits_prefixedCounts (hqc : h.qualifierCode ∈ QualifierCode.prefixedCounts) :
    h.objectBits expectsContents = prefixBits h.qualifierCode.number h.gv := by
  rcases List.mem_pair.mp hqc with hqc | hqc <;> rw [objectBits, hqc]

end Qualifiers

/-- The field and the objects have the lengths that are announced. -/
structure Laid (expectsContents : Bool) (h : HeaderBytes) : Prop where
  field_length : h.field.length = h.qualifierCode.fieldSize
  objects_length : h.objects.length = (h.announced * h.objectBits expectsContents + 7) / 8

theorem length_bytes (h : HeaderBytes) :
    h.bytes.length = 3 + h.field.length + h.objects.length := by
  rw [bytes, List.length_cons, List.length_cons, List.length_cons, List.length_append]
  omega

theorem bytes_ne_nil (h : HeaderBytes) : h.bytes ≠ [] := List.cons_ne_nil _ _

/-- A header is known from the bytes it starts. -/
theorem eq_of_append {expectsContents : Bool} {h h' : HeaderBytes} {z z' : List UInt8}
    (hl : h.Laid expectsContents) (hl' : h'.Laid expectsContents)
    (heq : h.bytes ++ z = h'.bytes ++ z') : h = h' ∧ z = z' := by
  rcases h with ⟨group, variation, qualifier, field, objects⟩
  rcases h' with ⟨group', variation', qualifier', field', objects'⟩
  simp only [bytes, List.cons_append, List.cons.injEq, List.append_assoc] at heq
  obtain ⟨rfl, rfl, rfl, hfields⟩ := heq
  have hfield : field.length = field'.length := hl.field_length.trans hl'.field_length.symm
  obtain ⟨rfl, hrest⟩ := List.append_inj hfields hfield
  have hobjects : objects.length = objects'.length :=
    hl.objects_length.trans hl'.objects_length.symm
  obtain ⟨rfl, rfl⟩ := List.append_inj hrest hobjects
  exact ⟨rfl, rfl⟩

end HeaderBytes

/-! ## Sections -/

/-- The bytes are the headers, one after the other. -/
structure HeadersOf (expectsContents : Bool) (buffer : List UInt8) (headers : List HeaderBytes) :
    Prop where
  laid : ∀ h ∈ headers, h.Laid expectsContents
  bytes : headers.flatMap HeaderBytes.bytes = buffer

theorem headersOf_nil (expectsContents : Bool) : HeadersOf expectsContents [] [] :=
  ⟨fun _ hmem => absurd hmem List.not_mem_nil, rfl⟩

theorem HeadersOf.cons {expectsContents : Bool} {buffer : List UInt8} {h : HeaderBytes}
    {headers : List HeaderBytes} (hlaid : h.Laid expectsContents)
    (hheaders : HeadersOf expectsContents buffer headers) :
    HeadersOf expectsContents (h.bytes ++ buffer) (h :: headers) := by
  refine ⟨?_, ?_⟩
  · intro h' hmem
    rcases List.mem_cons.mp hmem with rfl | hmem
    · exact hlaid
    · exact hheaders.laid h' hmem
  · rw [List.flatMap_cons, hheaders.bytes]

/-- The bytes of the headers add up to the whole section. -/
theorem HeadersOf.length {expectsContents : Bool} {buffer : List UInt8}
    {headers : List HeaderBytes} (h : HeadersOf expectsContents buffer headers) :
    (headers.map fun header => header.bytes.length).sum = buffer.length := by
  rw [← h.bytes, List.length_flatMap]

/-- A section is divided into headers in one way. -/
theorem HeadersOf.unique {expectsContents : Bool} {buffer : List UInt8}
    {headers headers' : List HeaderBytes} (h : HeadersOf expectsContents buffer headers)
    (h' : HeadersOf expectsContents buffer headers') : headers = headers' := by
  obtain ⟨hlaid, hbytes⟩ := h
  obtain ⟨hlaid', hbytes'⟩ := h'
  induction headers generalizing buffer headers' with
  | nil =>
    cases headers' with
    | nil => rfl
    | cons header' headers' =>
      rw [← hbytes, List.flatMap_cons, List.flatMap_nil] at hbytes'
      exact absurd (List.append_eq_nil_iff.mp hbytes').1 header'.bytes_ne_nil
  | cons header headers ih =>
    cases headers' with
    | nil =>
      rw [← hbytes', List.flatMap_cons, List.flatMap_nil] at hbytes
      exact absurd (List.append_eq_nil_iff.mp hbytes).1 header.bytes_ne_nil
    | cons header' headers' =>
      rw [← hbytes', List.flatMap_cons, List.flatMap_cons] at hbytes
      obtain ⟨rfl, hrest⟩ := HeaderBytes.eq_of_append (hlaid _ List.mem_cons_self)
        (hlaid' _ List.mem_cons_self) hbytes
      rw [ih (fun x hx => hlaid x (List.mem_cons_of_mem _ hx)) hrest
        (fun x hx => hlaid' x (List.mem_cons_of_mem _ hx)) rfl]

end App
end Dnp3
