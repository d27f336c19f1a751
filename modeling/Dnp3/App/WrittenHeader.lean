import Mathlib.Data.List.GetD
import Dnp3.Library.Fill
import Dnp3.App.HeaderWriter
import Dnp3.App.Parser

/-!
# What the iterators write

A header is written by asking the writer for an iterator, giving the iterator values until it
refuses one, and finishing it.  Every iterator first leaves a hole where its count or its stop index
goes; while values are written the bytes behind the hole are those of the values taken so far, and
finishing fills the hole.  So the bytes of the header are known from the number of values taken,
whatever stood in the buffer before.

Each iterator has a predicate `Filled` for "these values have been taken", with four lemmas: a new
iterator is filled with nothing, a value that is taken is added, a refused one changes nothing, and
finishing writes the bytes of the header.  They are the hypotheses of the loop rule of
`Library.Fill`.  Single bits are packed, and there the bytes are described by the bits they stand
for (`Packed`), lowest first, since a bit is set in a byte that was cleared before.
-/

namespace Dnp3
namespace App

open Library

variable {T : Type}

theorem IndexType.modulus_le (t : IndexType) : t.modulus ≤ 65536 := by
  cases t <;> decide

/-! ## Holes -/

namespace WSlice

/-- Behind `front` a hole of `width` bytes was left, and behind the hole stand `objects`. -/
def Holds (w : WSlice) (front : List UInt8) (width : Nat) (objects : List UInt8) : Prop :=
  ∃ hole, hole.length = width ∧ w.written = front ++ hole ++ objects

theorem holds_advance {w : WSlice} {width : Nat} (h : width ≤ w.size) :
    (w.advance width).Holds w.written width [] := by
  refine ⟨(w.mem.drop w.pos).take width, ?_, ?_⟩
  · rw [List.length_take, List.length_drop]
    exact Nat.min_eq_left h
  · rw [written_advance h, List.append_nil]

/-- Bytes followed by a hole. -/
theorem holds_patch_advance {w : WSlice} (bytes : List UInt8) (width : Nat)
    (h : bytes.length + width ≤ w.size) :
    ((w.patch w.pos bytes).advance (bytes.length + width)).Holds (w.written ++ bytes) width [] := by
  have hpos := w.pos_le
  have hfit : w.pos + bytes.length ≤ w.mem.length := by
    simp only [size] at h
    omega
  have hmem : (w.patch w.pos bytes).mem = splice w.mem w.pos bytes := by
    rw [patch, dif_pos hfit]
  have hread := take_drop_splice bytes hpos
  refine ⟨((splice w.mem w.pos bytes).drop (w.pos + bytes.length)).take width, ?_, ?_⟩
  · rw [List.length_take, List.length_drop, length_splice hfit]
    simp only [size] at h
    omega
  · rw [written_advance (by rwa [size_patch]), written_patch_behind bytes (Nat.le_refl _),
      pos_patch, hmem, List.take_add, hread, List.drop_drop, List.append_nil, List.append_assoc]

theorem Holds.write {w : WSlice} {front objects bytes : List UInt8} {width : Nat}
    (h : w.Holds front width objects) (hfit : bytes.length ≤ w.size) :
    (w.write bytes).Holds front width (objects ++ bytes) := by
  obtain ⟨hole, hlen, hw⟩ := h
  refine ⟨hole, hlen, ?_⟩
  rw [written_write hfit, hw, List.append_assoc]

/-- The hole is filled. -/
theorem Holds.written_patch {w : WSlice} {front objects bytes : List UInt8}
    (h : w.Holds front bytes.length objects) :
    (w.patch front.length bytes).written = front ++ bytes ++ objects := by
  obtain ⟨hole, hlen, hw⟩ := h
  have hpos : front.length + bytes.length ≤ w.pos := by
    rw [← w.length_written, hw, List.length_append, List.length_append]
    omega
  rw [WSlice.written_patch hpos, hw, splice_append front hole objects hlen]

/-- Overwriting what is written leaves the rest alone. -/
theorem rest_patch_before {w : WSlice} {place : Nat} {bytes : List UInt8}
    (h : place + bytes.length ≤ w.pos) :
    (w.patch place bytes).mem.drop (w.patch place bytes).pos = w.mem.drop w.pos := by
  have hpos := w.pos_le
  rw [pos_patch, patch, dif_pos (by omega)]
  exact drop_splice (by omega) h

end WSlice

/-! ## Ranges -/

namespace RangeWriteIterator

/-- The iterator after `n` objects. -/
def after (t : IndexType) (s : DNP3Serializer T) (start place n : Nat) : RangeWriteIterator T where
  type := t
  serializer := s
  start := start
  count := n % t.modulus
  isValid := true
  range := place

/-- The values have been written behind `front`. -/
structure Filled (front : List UInt8) (t : IndexType) (s : DNP3Serializer T) (start : Nat)
    (p : RangeWriteIterator T × WSlice) (values : List T) : Prop where
  iterator : p.1 = after t s start (front.length + t.SIZE) values.length
  position : p.2.Holds (front ++ t.bytes start) t.SIZE (values.flatMap s.write)

variable {front : List UInt8} {t : IndexType} {s : DNP3Serializer T} {start : Nat}
  {p p' : RangeWriteIterator T × WSlice} {values : List T}

theorem filled_create {w : WSlice} (h : 2 * t.SIZE ≤ w.size) :
    Filled w.written t s start (create t s start w) [] := by
  have hsize : (t.bytes start).length + t.SIZE = 2 * t.SIZE := by
    rw [IndexType.length_bytes, Nat.two_mul]
  have hholds := WSlice.holds_patch_advance (w := w) (t.bytes start) t.SIZE (by rwa [hsize])
  rw [create, if_pos h]
  constructor
  · simp only [after, List.length_nil, Nat.zero_mod, WSlice.length_written]
  · rwa [hsize] at hholds

theorem Filled.taken {v : T} (h : Filled front t s start p values)
    (hw : p.1.write p.2 v = (p', true)) : Filled front t s start p' (values ++ [v]) := by
  rw [h.iterator, write] at hw
  split at hw
  next hfit =>
    cases hw
    constructor
    · simp only [after, Nat.mod_add_mod, List.length_append, List.length_singleton]
    · rw [List.flatMap_append, List.flatMap_singleton]
      refine h.position.write ?_
      rw [DNP3Serializer.write, Codec.length_write]
      exact hfit.2
  next => cases hw

theorem Filled.refused {v : T} (h : Filled front t s start p values)
    (hw : p.1.write p.2 v = (p', false)) : Filled front t s start p' values := by
  rw [write] at hw
  split at hw
  · cases hw
  · cases hw
    exact h

/-- The bytes of a finished header. -/
theorem Filled.written_finish (h : Filled front t s start p values) (hpos : 0 < values.length)
    (hlt : values.length < t.modulus) :
    (p.1.finish p.2).written = front ++ t.bytes start ++ t.bytes (start + values.length - 1) ++
      values.flatMap s.write := by
  have hplace : front.length + t.SIZE = (front ++ t.bytes start).length := by
    rw [List.length_append, IndexType.length_bytes]
  have hholds := h.position
  rw [← t.length_bytes (start + values.length - 1)] at hholds
  rw [h.iterator, finish, if_pos ⟨rfl, by simpa [after, Nat.mod_eq_of_lt hlt] using hpos⟩]
  simp only [after, Nat.mod_eq_of_lt hlt]
  rw [hplace, hholds.written_patch]

end RangeWriteIterator

/-! ## Counts -/

namespace CountWriteIterator

/-- The iterator after `n` objects. -/
def after (t : IndexType) (s : DNP3Serializer T) (place n : Nat) : CountWriteIterator T where
  type := t
  serializer := s
  count := n % t.modulus
  isValid := true
  countPosition := place

/-- The values have been written behind `front`. -/
structure Filled (front : List UInt8) (t : IndexType) (s : DNP3Serializer T)
    (p : CountWriteIterator T × WSlice) (values : List T) : Prop where
  iterator : p.1 = after t s front.length values.length
  position : p.2.Holds front t.SIZE (values.flatMap s.write)

variable {front : List UInt8} {t : IndexType} {s : DNP3Serializer T}
  {p p' : CountWriteIterator T × WSlice} {values : List T}

theorem filled_create {w : WSlice} (h : t.SIZE ≤ w.size) :
    Filled w.written t s (create t s w) [] := by
  rw [create, if_pos h]
  constructor
  · simp only [after, List.length_nil, Nat.zero_mod, WSlice.length_written]
  · exact WSlice.holds_advance h

theorem Filled.taken {v : T} (h : Filled front t s p values)
    (hw : p.1.write p.2 v = (p', true)) : Filled front t s p' (values ++ [v]) := by
  rw [h.iterator, write] at hw
  split at hw
  next hfit =>
    cases hw
    constructor
    · simp only [after, Nat.mod_add_mod, List.length_append, List.length_singleton]
    · rw [List.flatMap_append, List.flatMap_singleton]
      refine h.position.write ?_
      rw [DNP3Serializer.write, Codec.length_write]
      exact hfit.2
  next => cases hw

theorem Filled.refused {v : T} (h : Filled front t s p values)
    (hw : p.1.write p.2 v = (p', false)) : Filled front t s p' values := by
  rw [write] at hw
  split at hw
  · cases hw
  · cases hw
    exact h

/-- The bytes of a finished header. -/
theorem Filled.written_finish (h : Filled front t s p values) (hlt : values.length < t.modulus) :
    (p.1.finish p.2).written = front ++ t.bytes values.length ++ values.flatMap s.write := by
  have hholds := h.position
  rw [← t.length_bytes values.length] at hholds
  rw [h.iterator]
  simp only [finish, after, Nat.mod_eq_of_lt hlt, if_true]
  rw [hholds.written_patch]

end CountWriteIterator

/-! ## Prefixed objects -/

namespace PrefixedWriteIterator

/-- An object behind its index. -/
def object (t : IndexType) (s : DNP3Serializer T) (v : Indexed T) : List UInt8 :=
  t.bytes v.index.toNat ++ s.write v.value

theorem length_object (t : IndexType) (s : DNP3Serializer T) (v : Indexed T) :
    (object t s v).length = s.size + t.SIZE := by
  rw [object, List.length_append, IndexType.length_bytes, DNP3Serializer.write,
    Codec.length_write, DNP3Serializer.size, Nat.add_comm]

/-- The iterator after `n` objects. -/
def after (t : IndexType) (s : DNP3Serializer T) (place n : Nat) : PrefixedWriteIterator T where
  type := t
  serializer := s
  count := n % t.modulus
  isValid := true
  countPosition := place

/-- The values have been written behind `front`. -/
structure Filled (front : List UInt8) (t : IndexType) (s : DNP3Serializer T)
    (p : PrefixedWriteIterator T × WSlice) (values : List (Indexed T)) : Prop where
  iterator : p.1 = after t s front.length values.length
  position : p.2.Holds front t.SIZE (values.flatMap (object t s))

variable {front : List UInt8} {t : IndexType} {s : DNP3Serializer T}
  {p p' : PrefixedWriteIterator T × WSlice} {values : List (Indexed T)}

theorem filled_create {w : WSlice} (h : t.SIZE ≤ w.size) :
    Filled w.written t s (create t s w) [] := by
  rw [create, if_pos h]
  constructor
  · simp only [after, List.length_nil, Nat.zero_mod, WSlice.length_written]
  · exact WSlice.holds_advance h

theorem Filled.taken {v : Indexed T} (h : Filled front t s p values)
    (hw : p.1.write p.2 v.value v.index.toNat = (p', true)) :
    Filled front t s p' (values ++ [v]) := by
  rw [h.iterator, write] at hw
  split at hw
  next hfit =>
    cases hw
    have hsize : s.size + t.SIZE ≤ p.2.size := hfit.2
    have hindex : (t.bytes v.index.toNat).length ≤ p.2.size := by
      rw [IndexType.length_bytes]
      omega
    have hvalue : (s.write v.value).length ≤ (p.2.write (t.bytes v.index.toNat)).size := by
      rw [WSlice.size_write hindex, IndexType.length_bytes, DNP3Serializer.write,
        Codec.length_write]
      simp only [DNP3Serializer.size] at hsize
      omega
    constructor
    · simp only [after, Nat.mod_add_mod, List.length_append, List.length_singleton]
    · rw [List.flatMap_append, List.flatMap_singleton, object, ← List.append_assoc]
      exact (h.position.write hindex).write hvalue
  next => cases hw

theorem Filled.refused {v : Indexed T} (h : Filled front t s p values)
    (hw : p.1.write p.2 v.value v.index.toNat = (p', false)) : Filled front t s p' values := by
  rw [write] at hw
  split at hw
  · cases hw
  · cases hw
    exact h

/-- The bytes of a finished header; the count is that of a field of its width. -/
theorem Filled.written_finish_mod (h : Filled front t s p values) :
    (p.1.finish p.2).written =
      front ++ t.bytes (values.length % t.modulus) ++ values.flatMap (object t s) := by
  have hholds := h.position
  rw [← t.length_bytes (values.length % t.modulus)] at hholds
  rw [h.iterator]
  simp only [finish, after, if_true]
  rw [hholds.written_patch]

theorem Filled.written_finish (h : Filled front t s p values) (hlt : values.length < t.modulus) :
    (p.1.finish p.2).written = front ++ t.bytes values.length ++ values.flatMap (object t s) := by
  rw [h.written_finish_mod, Nat.mod_eq_of_lt hlt]

end PrefixedWriteIterator

/-! ## Single bits -/

/-- A bit of a byte. -/
def bitOf (byte : UInt8) (bit : Nat) : Bool := byte &&& (1 <<< UInt8.ofNat bit) != 0

theorem getBit_eq (buffer : List UInt8) (position : Nat) :
    getBit buffer position = bitOf (buffer.getD (position / 8) 0) (position % 8) := rfl

theorem bitOf_zero (bit : Nat) : bitOf 0 bit = false := by
  simp [bitOf]

theorem toBitVec_shift {bit : Nat} (hbit : bit < 8) :
    ((1 : UInt8) <<< UInt8.ofNat bit).toBitVec = BitVec.twoPow 8 bit := by
  have h : ∀ i : Fin 8, ((1 : UInt8) <<< UInt8.ofNat i).toBitVec = BitVec.twoPow 8 i := by decide
  exact h ⟨bit, hbit⟩

theorem bitOf_eq_getLsbD (byte : UInt8) {bit : Nat} (hbit : bit < 8) :
    bitOf byte bit = byte.toBitVec.getLsbD bit := by
  have hand : (byte &&& ((1 : UInt8) <<< UInt8.ofNat bit)).toBitVec =
      if byte.toBitVec.getLsbD bit then BitVec.twoPow 8 bit else 0 := by
    rw [UInt8.toBitVec_and, toBitVec_shift hbit, BitVec.and_twoPow]
    rfl
  have hpow : BitVec.twoPow 8 bit ≠ 0 := by
    intro h
    have hbits := congrArg (BitVec.getLsbD · bit) h
    simp [hbit] at hbits
  rw [bitOf, Bool.eq_iff_iff, bne_iff_ne, ne_eq, ← UInt8.toBitVec_inj, hand]
  cases byte.toBitVec.getLsbD bit with
  | true => simpa using hpow
  | false => simp

theorem bitOf_or_shift (byte : UInt8) {bit k : Nat} (hbit : bit < 8) (hk : k < 8) :
    bitOf (byte ||| (1 <<< UInt8.ofNat bit)) k = (bitOf byte k || decide (k = bit)) := by
  have hsame : decide (bit = k) = decide (k = bit) := decide_eq_decide.mpr eq_comm
  rw [bitOf_eq_getLsbD _ hk, bitOf_eq_getLsbD _ hk, UInt8.toBitVec_or, toBitVec_shift hbit,
    BitVec.getLsbD_or, BitVec.getLsbD_twoPow, decide_eq_true hbit, Bool.true_and, hsame]

/-- The bytes are the values, lowest bits first, padded with zeros. -/
def Packed (bytes : List UInt8) (values : List Bool) : Prop :=
  ∀ i, i < (values.length + 7) / 8 * 8 → getBit bytes i = values.getD i false

theorem packed_nil (bytes : List UInt8) : Packed bytes [] := fun i hi => by
  rw [List.length_nil] at hi
  omega

theorem numBytesInBits_eq (n : Nat) : numBytesInBits n = (n + 7) / 8 := by
  rw [numBytesInBits]
  split <;> omega

/-- Only the bytes of the values matter. -/
theorem Packed.take {bytes : List UInt8} {values : List Bool} (h : Packed bytes values) :
    Packed (bytes.take (numBytesInBits values.length)) values := by
  intro i hi
  rw [← h i hi, getBit_eq, getBit_eq, numBytesInBits_eq, List.getD_eq_getElem?_getD,
    List.getD_eq_getElem?_getD, List.getElem?_take_of_lt (by omega)]

namespace BitfieldRangeWriteIterator

/-- The byte after one more bit. -/
def setByte (byte : UInt8) (bit : Nat) (value : Bool) : UInt8 :=
  let byte := if bit = 0 then 0 else byte
  if value then byte ||| (1 <<< UInt8.ofNat bit) else byte

/-- Setting a bit; the first one clears the others. -/
theorem bitOf_setByte (byte : UInt8) {bit k : Nat} (value : Bool) (hbit : bit < 8) (hk : k < 8) :
    bitOf (setByte byte bit value) k =
      ((bit != 0 && bitOf byte k) || (value && decide (k = bit))) := by
  have hbase : bitOf (if bit = 0 then 0 else byte) k = (bit != 0 && bitOf byte k) := by
    by_cases h : bit = 0
    · rw [if_pos h, bitOf_zero, h]
      rfl
    · rw [if_neg h, bne_iff_ne.mpr h, Bool.true_and]
  cases value with
  | true =>
    show bitOf ((if bit = 0 then 0 else byte) ||| (1 <<< UInt8.ofNat bit)) k = _
    rw [bitOf_or_shift _ hbit hk, hbase, Bool.true_and]
  | false =>
    show bitOf (if bit = 0 then 0 else byte) k = _
    rw [hbase, Bool.false_and, Bool.or_false]

/-- One more value is packed by one byte. -/
theorem packed_set {bytes : List UInt8} {values : List Bool} (h : Packed bytes values)
    (value : Bool) (hroom : values.length / 8 < bytes.length) :
    Packed (bytes.set (values.length / 8)
      (setByte (bytes.getD (values.length / 8) 0) (values.length % 8) value))
      (values ++ [value]) := by
  intro i hi
  rw [List.length_append, List.length_singleton] at hi
  rw [getBit_eq]
  by_cases hbyte : i / 8 = values.length / 8
  · -- the byte of the new bit: the values before it are kept, what follows it is still zero
    have hset : (bytes.set (values.length / 8)
        (setByte (bytes.getD (values.length / 8) 0) (values.length % 8) value)).getD (i / 8) 0 =
        setByte (bytes.getD (values.length / 8) 0) (values.length % 8) value := by
      rw [hbyte, List.getD_eq_getElem?_getD, List.getElem?_set_self hroom, Option.getD_some]
    have hnew : decide (i % 8 = values.length % 8) = decide (i = values.length) := by
      congr 1
      rw [eq_iff_iff]
      omega
    rw [hset, bitOf_setByte _ _ (Nat.mod_lt _ (by decide)) (Nat.mod_lt _ (by decide)), hnew]
    by_cases hfirst : values.length % 8 = 0
    · have hlt : ¬ i < values.length := by omega
      rw [List.getD_append_right _ _ _ _ (by omega), hfirst, bne_self_eq_false, Bool.false_and,
        Bool.false_or]
      by_cases hi' : i = values.length
      · simp [hi']
      · rw [decide_eq_false hi', Bool.and_false, List.getD_eq_default]
        rw [List.length_singleton]
        omega
    · have hold := h i (by omega)
      rw [getBit_eq, hbyte] at hold
      rw [bne_iff_ne.mpr hfirst, Bool.true_and, hold]
      rcases Nat.lt_trichotomy i values.length with hi' | hi' | hi'
      · rw [List.getD_append _ _ _ _ hi', decide_eq_false (by omega), Bool.and_false,
          Bool.or_false]
      · rw [hi', List.getD_eq_default _ _ (Nat.le_refl _),
          List.getD_append_right _ _ _ _ (Nat.le_refl _), decide_eq_true rfl, Nat.sub_self,
          Bool.and_true, Bool.false_or]
        rfl
      · rw [List.getD_eq_default _ _ (by omega), decide_eq_false (by omega), Bool.and_false,
          List.getD_eq_default]
        · rfl
        · rw [List.length_append, List.length_singleton]
          omega
  · -- an earlier byte
    have hlt : i < values.length := by omega
    have hold := h i (by omega)
    rw [getBit_eq] at hold
    rw [List.getD_eq_getElem?_getD, List.getElem?_set_ne (by omega),
      ← List.getD_eq_getElem?_getD, hold, List.getD_append _ _ _ _ hlt]

end BitfieldRangeWriteIterator

/-- The slices differ in one byte behind the position. -/
structure WSlice.SetByte (w w' : WSlice) (byte : Nat) (x : UInt8) : Prop where
  pos : w'.pos = w.pos
  size : w'.size = w.size
  written : w'.written = w.written
  rest : w'.mem.drop w.pos = (w.mem.drop w.pos).set byte x

namespace WSlice.SetByte

variable {w w' w'' : WSlice} {byte : Nat} {x y : UInt8}

theorem of_patch (x : UInt8) (h : byte < w.size) :
    w.SetByte (w.patch (w.pos + byte) [x]) byte x := by
  have hfit : w.pos + byte < w.mem.length := by
    simp only [WSlice.size] at h
    omega
  refine ⟨w.pos_patch _ _, w.size_patch _ _, written_patch_behind _ (Nat.le_add_right _ _), ?_⟩
  rw [patch, dif_pos (by exact hfit)]
  show (splice w.mem (w.pos + byte) [x]).drop w.pos = _
  rw [splice_singleton x hfit, List.drop_set, if_neg (by omega), Nat.add_sub_cancel_left]

theorem refl (h : byte < w.size) : w.SetByte w byte ((w.mem.drop w.pos).getD byte 0) := by
  have hlt : byte < (w.mem.drop w.pos).length := by
    rwa [List.length_drop]
  refine ⟨rfl, rfl, rfl, ?_⟩
  rw [List.getD_eq_getElem _ _ hlt, List.set_getElem_self]

theorem trans (h : w.SetByte w' byte x) (h' : w'.SetByte w'' byte y) : w.SetByte w'' byte y := by
  refine ⟨h'.pos.trans h.pos, h'.size.trans h.size, h'.written.trans h.written, ?_⟩
  have hrest := h'.rest
  rw [h.pos, h.rest, List.set_set] at hrest
  exact hrest

theorem getD (h : w.SetByte w' byte x) (hlt : byte < w.size) :
    w'.mem.getD (w'.pos + byte) 0 = x := by
  have hlen : byte < (w.mem.drop w.pos).length := by
    rwa [List.length_drop]
  have hget : (w'.mem.drop w.pos).getD byte 0 = x := by
    rw [h.rest, List.getD_eq_getElem?_getD, List.getElem?_set_self hlen, Option.getD_some]
  rw [← hget, h.pos, List.getD_eq_getElem?_getD, List.getD_eq_getElem?_getD, List.getElem?_drop]

end WSlice.SetByte

namespace BitfieldRangeWriteIterator

/-- Setting a bit in the memory changes one byte behind the position. -/
theorem setByte_setBit {w : WSlice} (byte bit : Nat) (value : Bool) (h : byte < w.size) :
    w.SetByte (setBit w byte bit value) byte
      (setByte ((w.mem.drop w.pos).getD byte 0) bit value) := by
  have hclear : w.SetByte (if bit = 0 then w.patch (w.pos + byte) [0] else w) byte
      (if bit = 0 then 0 else (w.mem.drop w.pos).getD byte 0) := by
    split
    · exact .of_patch 0 h
    · exact .refl h
  cases value with
  | false => exact hclear
  | true =>
    have hget := hclear.getD h
    rw [hclear.pos] at hget
    have hset := WSlice.SetByte.of_patch
      ((if bit = 0 then 0 else (w.mem.drop w.pos).getD byte 0) ||| (1 <<< UInt8.ofNat bit))
      (by rwa [hclear.size])
    rw [hclear.pos] at hset
    simp only [setBit, setByte, if_true, hget]
    exact hclear.trans hset

/-- The iterator after `n` bits. -/
def after (t : IndexType) (start place maxCount n : Nat) : BitfieldRangeWriteIterator where
  type := t
  start := start
  count := n % t.modulus
  maxCount := maxCount
  isValid := true
  range := place

/-- The values have been packed behind `front` and a hole; the position is still in front of
them.  Past the modulus of the counter the bits are written over. -/
structure Filled (front : List UInt8) (t : IndexType) (start : Nat)
    (p : BitfieldRangeWriteIterator × WSlice) (values : List Bool) : Prop where
  iterator : p.1 = after t start (front.length + t.SIZE) (p.2.size * 8) values.length
  position : p.2.Holds (front ++ t.bytes start) t.SIZE []
  packed : values.length ≤ t.modulus →
    values.length ≤ p.2.size * 8 ∧ Packed (p.2.mem.drop p.2.pos) values

variable {front : List UInt8} {t : IndexType} {start : Nat}
  {p p' : BitfieldRangeWriteIterator × WSlice} {values : List Bool}

theorem filled_create {w : WSlice} (h : 2 * t.SIZE ≤ w.size) :
    Filled w.written t start (create t start w) [] := by
  have hsize : (t.bytes start).length + t.SIZE = 2 * t.SIZE := by
    rw [IndexType.length_bytes, Nat.two_mul]
  have hholds := WSlice.holds_patch_advance (w := w) (t.bytes start) t.SIZE (by rwa [hsize])
  rw [create, if_pos h]
  refine ⟨?_, ?_, fun _ => ⟨Nat.zero_le _, packed_nil _⟩⟩
  · simp only [after, List.length_nil, Nat.zero_mod, WSlice.length_written]
  · rwa [hsize] at hholds

theorem Filled.taken {v : Bool} (h : Filled front t start p values)
    (hw : p.1.write p.2 v = (p', true)) : Filled front t start p' (values ++ [v]) := by
  rw [h.iterator, write] at hw
  split at hw
  next hfit =>
    have hcount : values.length % t.modulus < p.2.size * 8 := hfit.2
    have hset := setByte_setBit (w := p.2) (values.length % t.modulus / 8)
      (values.length % t.modulus % 8) v (by omega)
    cases hw
    constructor
    · simp only [after, Nat.mod_add_mod, List.length_append, List.length_singleton]
      rw [show (setBit p.2 (values.length % t.modulus / 8) (values.length % t.modulus % 8) v).size =
        p.2.size from hset.size]
    · obtain ⟨hole, hlen, hwritten⟩ := h.position
      exact ⟨hole, hlen, hset.written.trans hwritten⟩
    · intro hle
      rw [List.length_append, List.length_singleton] at hle
      obtain ⟨-, hpacked⟩ := h.packed (by omega)
      rw [Nat.mod_eq_of_lt (by omega)] at hcount hset
      simp only [after, Nat.mod_eq_of_lt (show values.length < t.modulus by omega)]
      constructor
      · rw [hset.size, List.length_append, List.length_singleton]
        omega
      · rw [hset.pos, hset.rest]
        refine packed_set hpacked v ?_
        rw [List.length_drop]
        simp only [WSlice.size] at hcount
        omega
  next => cases hw

theorem Filled.refused {v : Bool} (h : Filled front t start p values)
    (hw : p.1.write p.2 v = (p', false)) : Filled front t start p' values := by
  rw [write] at hw
  split at hw
  · cases hw
  · cases hw
    exact h

/-- The bytes of a finished header. -/
theorem Filled.written_finish (h : Filled front t start p values) (hpos : 0 < values.length)
    (hlt : values.length < t.modulus) :
    ∃ packed, packed.length = numBytesInBits values.length ∧ Packed packed values ∧
      (p.1.finish p.2).written =
        front ++ t.bytes start ++ t.bytes (start + values.length - 1) ++ packed := by
  obtain ⟨hroom, hpacked⟩ := h.packed (Nat.le_of_lt hlt)
  have hplace : front.length + t.SIZE = (front ++ t.bytes start).length := by
    rw [List.length_append, IndexType.length_bytes]
  have hholds := h.position
  rw [← t.length_bytes (start + values.length - 1)] at hholds
  have hbefore : (front ++ t.bytes start).length + (t.bytes (start + values.length - 1)).length ≤
      p.2.pos := by
    obtain ⟨hole, hlen, hw⟩ := hholds
    rw [← p.2.length_written, hw, List.append_nil, ← hlen, ← List.length_append]
  have hnum : (if values.length % 8 > 0 then values.length / 8 + 1 else values.length / 8) =
      numBytesInBits values.length := by
    rw [numBytesInBits_eq]
    split <;> omega
  have hfit : numBytesInBits values.length ≤ p.2.size := by
    rw [numBytesInBits_eq]
    omega
  refine ⟨(p.2.mem.drop p.2.pos).take (numBytesInBits values.length), ?_, hpacked.take, ?_⟩
  · rw [List.length_take, List.length_drop]
    exact Nat.min_eq_left hfit
  · rw [h.iterator, finish, if_pos ⟨rfl, by simpa [after, Nat.mod_eq_of_lt hlt] using hpos⟩]
    simp only [after, Nat.mod_eq_of_lt hlt]
    rw [hnum, hplace, WSlice.written_advance (by rwa [WSlice.size_patch]), hholds.written_patch,
      WSlice.rest_patch_before hbefore, List.append_nil]

end BitfieldRangeWriteIterator

end App
end Dnp3
