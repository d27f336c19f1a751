import Dnp3.App.APDUHandler
import Dnp3.App.HandledParser
import Mathlib.Algebra.Order.Ring.Nat

/-!
# Collections and their bytes

What the functions of a pass do with a header, with and without a handler.  The required size of
the objects is computed in 32 bits and never wraps; it is what the elements of the collection take
when they are read one after the other, so that a collection stays inside the objects of its header
although it is given all the bytes behind them.

The sizes come from `SizesExact`: the number of objects that a range or a count announces is at most
65536, and an object takes at most 257 bytes, so no product reaches 2 ^ 32.  `StaysInside` is what
is shown of a collection: it has the announced number of values, and the bytes behind the objects
can be anything, or missing, without a change of what it yields.  Elements of fixed size are read
from blocks (`Library.BoundedReads`), packed bits are looked up at their place in the bytes, and the
two rules `staysInside_blocks` and `staysInside_peeks` cover all readers of the source.
-/

namespace Dnp3
namespace App
namespace Handled

open Library

/-! ## Sizes -/

theorem Range.count_le (r : Range) : r.count ≤ 65536 := by
  have hstop := r.stop.toNat_lt
  rw [Range.count]
  split <;> omega

theorem toNat_countUInt32 (r : Range) : r.countUInt32.toNat = r.count := by
  rw [Range.countUInt32, Range.count]
  split
  next hvalid =>
    have hle : r.start.toNat ≤ r.stop.toNat :=
      UInt16.le_iff_toNat_le.mp (of_decide_eq_true hvalid)
    have hstop := r.stop.toNat_lt
    have hsub : (r.stop.toUInt32 - r.start.toUInt32).toNat = r.stop.toNat - r.start.toNat := by
      rw [UInt32.toNat_sub_of_le _ _ (UInt32.le_iff_toNat_le.mpr
        (by rwa [UInt16.toNat_toUInt32, UInt16.toNat_toUInt32])),
        UInt16.toNat_toUInt32, UInt16.toNat_toUInt32]
    rw [UInt32.toNat_add, hsub, UInt32.toNat_one]
    omega
  · rfl

theorem descriptorSize_le (gv : GroupVariation) : (descriptorSize gv).toNat ≤ 15 := by
  cases gv <;> decide

/-- A product of a count of objects and the size of one. -/
theorem toNat_mul_size {count size : UInt32} (hcount : count.toNat ≤ 65536)
    (hsize : size.toNat ≤ 257) : (count * size).toNat = count.toNat * size.toNat := by
  have hle : count.toNat * size.toNat ≤ 65536 * 257 := Nat.mul_le_mul hcount hsize
  rw [UInt32.toNat_mul, Nat.mod_eq_of_lt (by omega)]

theorem toNat_numBytesInBits {numBits : UInt32} (h : numBits.toNat ≤ 65536) :
    (numBytesInBits numBits).toNat = (numBits.toNat + 7) / 8 := by
  have hmod : (numBits % 8).toNat = numBits.toNat % 8 := by
    rw [UInt32.toNat_mod]
    rfl
  have hdiv : (numBits / 8).toNat = numBits.toNat / 8 := by
    rw [UInt32.toNat_div]
    rfl
  rw [numBytesInBits]
  split
  next hzero =>
    rw [hzero] at hmod
    have hmod' : numBits.toNat % 8 = 0 := hmod.symm
    rw [hdiv]
    omega
  next hne =>
    have hmod' : numBits.toNat % 8 ≠ 0 := by
      intro hzero
      exact hne (UInt32.toNat_inj.mp (hmod.trans hzero))
    rw [UInt32.toNat_add, hdiv, UInt32.toNat_one]
    omega

theorem toNat_numBytesInDoubleBits {numBits : UInt32} (h : numBits.toNat ≤ 65536) :
    (numBytesInDoubleBits numBits).toNat = (numBits.toNat * 2 + 7) / 8 := by
  have hmod : (numBits % 4).toNat = numBits.toNat % 4 := by
    rw [UInt32.toNat_mod]
    rfl
  have hdiv : (numBits / 4).toNat = numBits.toNat / 4 := by
    rw [UInt32.toNat_div]
    rfl
  rw [numBytesInDoubleBits]
  split
  next hzero =>
    rw [hzero] at hmod
    have hmod' : numBits.toNat % 4 = 0 := hmod.symm
    rw [hdiv]
    omega
  next hne =>
    have hmod' : numBits.toNat % 4 ≠ 0 := by
      intro hzero
      exact hne (UInt32.toNat_inj.mp (hmod.trans hzero))
    rw [UInt32.toNat_add, hdiv, UInt32.toNat_one]
    omega

/-- The size a descriptor states is what reading it takes. -/
theorem descriptorSize_range {gv : GroupVariation} {T : Type} {codec : Codec T}
    {wrap : List (Indexed T) → Values} (h : rangeReader gv = some (.fixedSize codec wrap)) :
    (descriptorSize gv).toNat = codec.size := by
  cases gv <;> first | (cases h; rfl) | cases h

theorem descriptorSize_count {gv : GroupVariation} {T : Type} {codec : Codec T}
    {wrap : List T → Values} (h : countReader gv = some (.fixedSize codec wrap)) :
    (descriptorSize gv).toNat = codec.size := by
  cases gv <;> first | (cases h; rfl) | cases h

theorem descriptorSize_prefix {gv : GroupVariation} {T : Type} {codec : Codec T}
    {wrap : List (Indexed T) → Values} (h : prefixReader gv = some (.fixedSize codec wrap)) :
    (descriptorSize gv).toNat = codec.size := by
  cases gv <;> first | (cases h; rfl) | cases h

theorem toNat_count (count : UInt16) : count.toUInt32.toNat = count.toNat :=
  UInt16.toNat_toUInt32 count

theorem toNat_count_le (count : UInt16) : count.toUInt32.toNat ≤ 65536 := by
  rw [toNat_count]
  exact Nat.le_of_lt count.toNat_lt

theorem countUInt32_le (range : Range) : range.countUInt32.toNat ≤ 65536 := by
  rw [toNat_countUInt32]
  exact Range.count_le range

theorem toNat_size (n : NumParser) : (UInt32.ofNat n.SIZE).toNat = n.SIZE := by
  cases n <;> rfl

/-- The required sizes of an object, whatever the range or the count is: the bytes all of them take,
as natural numbers. -/
structure SizesExact (record : HeaderRecord) : Prop where
  fixedSize : ∀ {T : Type} {codec : Codec T} {wrap : List (Indexed T) → Values},
    rangeReader record.enumeration = some (.fixedSize codec wrap) → ∀ range,
    (RangeParser.fromFixedSize codec wrap record range).requiredSize.toNat =
      range.count * codec.size
  bitfield : ∀ {T : Type} (ofBit : Bool → T) (wrap : List (Indexed T) → Values) (range : Range),
    (RangeParser.fromBitfieldType ofBit wrap record range).requiredSize.toNat =
      (range.count + 7) / 8
  doubleBitfield : ∀ {T : Type} (ofBits : DoubleBit → T) (wrap : List (Indexed T) → Values)
    (range : Range),
    (RangeParser.fromDoubleBitfieldType ofBits wrap record range).requiredSize.toNat =
      (range.count * 2 + 7) / 8
  octetData : ∀ range : Range,
    (record.variation.toUInt32 * range.countUInt32).toNat = range.count * record.variation.toNat
  counted : ∀ {T : Type} {codec : Codec T} {wrap : List T → Values},
    countReader record.enumeration = some (.fixedSize codec wrap) → ∀ count,
    (CountParser.fromDescriptor codec wrap record count).requiredSize.toNat =
      count.toNat * codec.size
  prefixed : ∀ {T : Type} {codec : Codec T} {wrap : List (Indexed T) → Values},
    prefixReader record.enumeration = some (.fixedSize codec wrap) → ∀ n count,
    (CountIndexParser.fromDescriptor codec wrap record n count).requiredSize.toNat =
      count.toNat * (n.SIZE + codec.size)
  prefixedOctetData : ∀ (n : NumParser) (count : UInt16),
    (count.toUInt32 * (UInt32.ofNat n.SIZE + record.variation.toUInt32)).toNat =
      count.toNat * (n.SIZE + record.variation.toNat)

/-- No required size wraps: there are at most 65536 objects of at most 257 bytes. -/
theorem sizesExact (record : HeaderRecord) : SizesExact record where
  fixedSize := by
    intro T codec wrap hreader range
    have hdescriptor := descriptorSize_le record.enumeration
    rw [RangeParser.fromFixedSize, toNat_mul_size (countUInt32_le range) (by omega),
      toNat_countUInt32, descriptorSize_range hreader]
  bitfield := by
    intro T ofBit wrap range
    rw [RangeParser.fromBitfieldType, toNat_numBytesInBits (countUInt32_le range),
      toNat_countUInt32]
  doubleBitfield := by
    intro T ofBits wrap range
    rw [RangeParser.fromDoubleBitfieldType, toNat_numBytesInDoubleBits (countUInt32_le range),
      toNat_countUInt32]
  octetData := by
    intro range
    have hlt := record.variation.toNat_lt
    rw [UInt32.mul_comm, toNat_mul_size (countUInt32_le range)
      (by rw [UInt8.toNat_toUInt32]; omega), toNat_countUInt32, UInt8.toNat_toUInt32]
  counted := by
    intro T codec wrap hreader count
    have hdescriptor := descriptorSize_le record.enumeration
    rw [CountParser.fromDescriptor, toNat_mul_size (toNat_count_le count) (by omega), toNat_count,
      descriptorSize_count hreader]
  prefixed := by
    intro T codec wrap hreader n count
    have hdescriptor := descriptorSize_le record.enumeration
    have hsize := toNat_size n
    have hSIZE : n.SIZE ≤ 2 := by cases n <;> decide
    have hadd : (descriptorSize record.enumeration + UInt32.ofNat n.SIZE).toNat =
        n.SIZE + codec.size := by
      rw [UInt32.toNat_add, hsize, Nat.mod_eq_of_lt (by omega), descriptorSize_prefix hreader,
        Nat.add_comm]
    have hcodec := descriptorSize_prefix hreader
    rw [CountIndexParser.fromDescriptor, toNat_mul_size (toNat_count_le count) (by omega),
      toNat_count, hadd]
  prefixedOctetData := by
    intro n count
    have hlt := record.variation.toNat_lt
    have hSIZE : n.SIZE ≤ 2 := by cases n <;> decide
    have hadd : (UInt32.ofNat n.SIZE + record.variation.toUInt32).toNat =
        n.SIZE + record.variation.toNat := by
      rw [UInt32.toNat_add, toNat_size, UInt8.toNat_toUInt32, Nat.mod_eq_of_lt (by omega)]
    rw [toNat_mul_size (toNat_count_le count) (by omega), toNat_count, hadd]

/-! ## Collections -/

/-- The collection yields `count` values, and needs no byte but the objects': what stands behind
them may be anything, or nothing. -/
structure StaysInside {T : Type} (c : BufferedCollection T) (objects : List UInt8) (count : Nat)
    (values : List T) : Prop where
  counted : c.COUNT.toNat = count
  length : values.length = count
  front : objects <+: c.buffer
  reads : ∀ z : List UInt8,
    BufferedCollection.foreach { c with buffer := objects ++ z } = some values

theorem StaysInside.yields {T : Type} {c : BufferedCollection T} {objects : List UInt8}
    {count : Nat} {values : List T} (h : StaysInside c objects count values) :
    c.foreach = some values := by
  obtain ⟨z, hz⟩ := h.front
  have hreads := h.reads z
  rw [hz] at hreads
  exact hreads

/-- A collection of blocks in closed form. -/
theorem collect_eq_map {T : Type} (size : Nat) (read : List UInt8 → Nat → T) (count : Nat) :
    ∀ (b : List UInt8) (pos : Nat), collect size read b pos count =
      (List.range count).map fun k => read (b.drop (k * size)) (pos + k) := by
  induction count with
  | zero => exact fun _ _ => rfl
  | succ count ih =>
    intro b pos
    rw [collect, ih, List.range_succ_eq_map, List.map_cons, List.map_map, Nat.zero_mul,
      List.drop_zero, Nat.add_zero]
    congr 1
    refine List.map_congr_left fun k _ => ?_
    rw [List.drop_drop, Function.comp_apply, Nat.succ_mul, Nat.add_comm size, Nat.add_right_comm,
      Nat.add_assoc]

theorem length_collect {T : Type} (size : Nat) (read : List UInt8 → Nat → T) (b : List UInt8)
    (pos count : Nat) : (collect size read b pos count).length = count := by
  rw [collect_eq_map, List.length_map, List.length_range]

/-- Only the objects matter for what is collected from them. -/
theorem collect_append {T : Type} {size : Nat} {value : List UInt8 → Nat → T}
    (hvalue : ∀ b pos, size ≤ b.length → value (b.take size) pos = value b pos) {count : Nat}
    {objects : List UInt8} (hlen : objects.length = count * size) (z : List UInt8) :
    (List.range count).map (fun k => value (Reader.blockAt size objects k) k) =
      collect size value (objects ++ z) 0 count := by
  rw [collect_eq_map]
  refine List.map_congr_left fun k hk => ?_
  have hk := List.mem_range.mp hk
  have hmul : k * size + size ≤ count * size := by
    calc k * size + size = (k + 1) * size := (Nat.succ_mul k size).symm
      _ ≤ count * size := Nat.mul_le_mul_right size hk
  have hrest : size ≤ ((objects ++ z).drop (k * size)).length := by
    rw [List.length_drop, List.length_append]
    omega
  rw [← Reader.blockAt_append z (Nat.le_of_eq hlen.symm) hk, Reader.blockAt, hvalue _ _ hrest,
    Nat.zero_add]

/-- Elements that are read from one block each. -/
theorem staysInside_blocks {T : Type} {read : Nat → Reader T} {size : Nat}
    {value : List UInt8 → Nat → T} (hread : ∀ pos, (read pos).Block size (value · pos))
    (hvalue : ∀ b pos, size ≤ b.length → value (b.take size) pos = value b pos)
    {COUNT : UInt32} {count : Nat} (hcount : COUNT.toNat = count) {objects : List UInt8}
    (hlen : objects.length = count * size) (rest : List UInt8) :
    StaysInside { buffer := objects ++ rest, COUNT := COUNT, readFunc := read } objects count
      (collect size value (objects ++ rest) 0 count) := by
  subst hcount
  refine ⟨rfl, length_collect size value _ 0 _, List.prefix_append objects rest, ?_⟩
  intro z
  have hle : COUNT.toNat * size ≤ (objects ++ z).length := by
    rw [List.length_append]
    omega
  rw [BufferedCollection.foreach, Reader.iterate_blocks hread _ _ _ hle, Option.map_some,
    ← collect_append hvalue hlen rest]
  congr 1
  refine List.map_congr_left fun k hk => ?_
  rw [Nat.zero_add, Reader.blockAt_append z (Nat.le_of_eq hlen.symm) (List.mem_range.mp hk)]

/-- Elements that are looked up in the bytes. -/
theorem staysInside_peeks {T : Type} {read : Nat → Reader T} {value : List UInt8 → Nat → T}
    {COUNT : UInt32} {count : Nat} (hcount : COUNT.toNat = count) {objects : List UInt8}
    (hread : ∀ k, k < count → ∀ z,
      read k (objects ++ z) = some (value objects k, objects ++ z) ∧
        value (objects ++ z) k = value objects k) (rest : List UInt8) :
    StaysInside { buffer := objects ++ rest, COUNT := COUNT, readFunc := read } objects count
      (collect 0 value (objects ++ rest) 0 count) := by
  subst hcount
  refine ⟨rfl, length_collect 0 value _ 0 _, List.prefix_append objects rest, ?_⟩
  intro z
  have hpeeks : ∀ k, k < COUNT.toNat →
      read (0 + k) (objects ++ z) = some (value objects (0 + k), objects ++ z) := by
    intro k hk
    rw [Nat.zero_add]
    exact (hread k hk z).1
  rw [BufferedCollection.foreach, Reader.iterate_peeks COUNT.toNat 0 hpeeks, Option.map_some,
    collect_eq_map]
  congr 1
  refine List.map_congr_left fun k hk => ?_
  rw [Nat.mul_zero, List.drop_zero, Nat.zero_add, (hread k (List.mem_range.mp hk) rest).2]

/-- The bits of a slice are found where its bytes are. -/
theorem getBit_append {objects : List UInt8} {pos : Nat} (z : List UInt8)
    (h : pos / 8 < objects.length) : getBit (objects ++ z) pos = getBit objects pos := by
  rw [getBit, getBit, List.getD_eq_getElem?_getD, List.getElem?_append_left h,
    ← List.getD_eq_getElem?_getD]

theorem getDoubleBit_append {objects : List UInt8} {pos : Nat} (z : List UInt8)
    (h : pos / 4 < objects.length) :
    getDoubleBit (objects ++ z) pos = getDoubleBit objects pos := by
  rw [getDoubleBit, getDoubleBit, List.getD_eq_getElem?_getD, List.getElem?_append_left h,
    ← List.getD_eq_getElem?_getD]

theorem readBit_append {objects : List UInt8} {pos : Nat} (z : List UInt8)
    (h : pos / 8 < objects.length) :
    readBit pos (objects ++ z) = some (getBit objects pos, objects ++ z) := by
  rw [readBit, if_pos (by rw [List.length_append]; omega), getBit_append z h]

theorem readDoubleBit_append {objects : List UInt8} {pos : Nat} (z : List UInt8)
    (h : pos / 4 < objects.length) :
    readDoubleBit pos (objects ++ z) = some (getDoubleBit objects pos, objects ++ z) := by
  rw [readDoubleBit, if_pos (by rw [List.length_append]; omega), getDoubleBit_append z h]

/-- Only the bytes of a number matter for it. -/
theorem value_take {n : NumParser} {b : List UInt8} {k : Nat} (h : n.SIZE ≤ k) :
    n.value (b.take k) = n.value b := by
  rw [IndexType.value, IndexType.value, List.take_take, Nat.min_eq_left h]

theorem value_append {n : NumParser} {b : List UInt8} (z : List UInt8) (h : n.SIZE ≤ b.length) :
    n.value (b ++ z) = n.value b := by
  rw [IndexType.value, IndexType.value, List.take_append_of_le_length h]

theorem block_readNum (n : NumParser) :
    (readNum n).Block n.SIZE fun b => (n.readNum b).1 := by
  intro b hb
  rw [readNum, if_pos hb]
  show some (UInt16.ofNat (n.value b), _) = some (UInt16.ofNat (n.value (b.take n.SIZE)), _)
  rw [value_take (Nat.le_refl _)]

/-- A value and its index take the bytes of both. -/
theorem block_readPrefixed {T : Type} (n : NumParser) {read : Reader T} {size : Nat}
    {value : List UInt8 → T} (h : read.Block size value) :
    (CountIndexParser.readPrefixed n read).Block (n.SIZE + size) fun b =>
      ⟨value (b.drop n.SIZE), (n.readNum b).1⟩ := by
  intro b hb
  rw [CountIndexParser.readPrefixed,
    Reader.block_mapValue (Reader.block_pair (block_readNum n) h) _ b hb]
  show some ((⟨_, UInt16.ofNat (n.value ((b.take (n.SIZE + size)).take n.SIZE))⟩ : Indexed T), _) =
    some ((⟨_, UInt16.ofNat (n.value (b.take (n.SIZE + size)))⟩ : Indexed T), _)
  rw [value_take (Nat.le_refl _)]

end Handled
end App
end Dnp3
