import Dnp3.Library.CyclicCode
import Dnp3.Link.Format

/-!
# The frame check sequence detects bursts

The table of the CRC holds what eight shifts of the register do to its low byte, so that the loop
over the table computes the remainder of the bits of the input.  The bytes of the CRC stand behind
the data with their lowest bits first, which is the order in which bits enter the register; a block
with its CRC is then a string of a cyclic code, and a burst of at most sixteen bits is detected
wherever it stands, also where it reaches from the data into the CRC.
-/

namespace Dnp3
namespace Link
namespace CRC

open Library

/-- The polynomial, with its bits reflected. -/
def POLYNOMIAL : UInt16 := 0xA6BC

/-- One bit of the register is shifted out. -/
def shiftBit (crc : UInt16) : UInt16 :=
  if crc &&& 1 = 1 then (crc >>> 1) ^^^ POLYNOMIAL else crc >>> 1

/-- A byte enters the register bit by bit. -/
def bitwiseUpdate (crc : UInt16) (byte : UInt8) : UInt16 := shiftBit^[8] (crc ^^^ byte.toUInt16)

/-- The CRC computed without the table. -/
def bitwiseCrc (input : List UInt8) : UInt16 := ~~~ input.foldl bitwiseUpdate 0

/-- The bits of some bytes, the lowest of each byte first. -/
def bitsOf (input : List UInt8) : List Bool :=
  input.flatMap fun byte => CyclicCode.bitsOf byte.toBitVec

/-! ## The table -/

/-- The polynomial of the checksum, as bits. -/
abbrev polynomial : BitVec 16 := POLYNOMIAL.toBitVec

theorem highest_polynomial : polynomial.getLsbD (16 - 1) = true := by decide

theorem and_one_eq_one_iff (crc : UInt16) : crc &&& 1 = 1 ↔ crc.toBitVec.getLsbD 0 = true := by
  have hand : (crc &&& 1).toBitVec = (BitVec.ofBool (crc.toBitVec.getLsbD 0)).setWidth 16 := by
    rw [UInt16.toBitVec_and]
    exact BitVec.and_one_eq_setWidth_ofBool_getLsbD
  rw [← UInt16.toBitVec_inj, hand]
  cases crc.toBitVec.getLsbD 0 with
  | true => decide
  | false => decide

theorem toBitVec_shiftBit (crc : UInt16) :
    (shiftBit crc).toBitVec = CyclicCode.shift polynomial crc.toBitVec := by
  rw [shiftBit, CyclicCode.shift]
  by_cases hset : crc &&& 1 = 1
  · rw [if_pos hset, if_pos ((and_one_eq_one_iff crc).mp hset), UInt16.toBitVec_xor]
    rfl
  · rw [if_neg hset, if_neg ((and_one_eq_one_iff crc).not.mp hset)]
    rfl

theorem toBitVec_iterate_shiftBit (n : Nat) (crc : UInt16) :
    (shiftBit^[n] crc).toBitVec = (CyclicCode.shift polynomial)^[n] crc.toBitVec := by
  induction n generalizing crc with
  | zero => rfl
  | succ n ih =>
    rw [Function.iterate_succ_apply, ih, toBitVec_shiftBit, Function.iterate_succ_apply]

/-- The table holds what eight shifts do to a byte. -/
theorem crcTable_eq (byte : UInt8) :
    crcTable.getD byte.toNat 0 = shiftBit^[8] byte.toUInt16 := by
  have htable : ∀ b : Fin 256, crcTable.getD b.val 0 =
      shiftBit^[8] (UInt8.ofNat b.val).toUInt16 := by decide +kernel
  simpa using htable ⟨byte.toNat, byte.toNat_lt⟩

/-- The low and the high byte of a register. -/
theorem split_register (x : UInt16) :
    x = x.toUInt8.toUInt16 ^^^ ((x >>> 8) <<< 8) := by
  rw [← UInt16.toBitVec_inj]
  refine BitVec.eq_of_getLsbD_eq fun i hi => ?_
  have hlow : x.toUInt8.toUInt16.toBitVec = (x.toBitVec.setWidth 8).setWidth 16 := rfl
  have hhigh : ((x >>> 8) <<< 8).toBitVec = (x.toBitVec >>> 8) <<< 8 := rfl
  rw [UInt16.toBitVec_xor, BitVec.getLsbD_xor, hlow, hhigh, BitVec.getLsbD_setWidth,
    BitVec.getLsbD_setWidth, BitVec.getLsbD_shiftLeft, BitVec.getLsbD_ushiftRight]
  by_cases hi' : i < 8
  · simp [hi, hi']
  · have hback : 8 + (i - 8) = i := by omega
    simp [hi, hi', hback]

/-- A turn of the loop over the table is eight turns of the loop over bits. -/
theorem update_eq_bitwiseUpdate (crc : UInt16) (byte : UInt8) :
    update crc byte = bitwiseUpdate crc byte := by
  generalize hx : crc ^^^ byte.toUInt16 = x
  have hindex : ((crc ^^^ byte.toUInt16) &&& 0xFF).toNat = x.toUInt8.toNat := by
    rw [hx, UInt16.toNat_and, UInt16.toNat_toUInt8]
    exact Nat.and_two_pow_sub_one_eq_mod x.toNat 8
  have hhigh : crc >>> 8 = x >>> 8 := by
    rw [← hx, ← UInt16.toBitVec_inj]
    refine BitVec.eq_of_getLsbD_eq fun i hi => ?_
    simp
  have hlow : ∀ i < 8, ((x >>> 8) <<< 8).toBitVec.getLsbD i = false := by
    intro i hi
    simp [hi]
  have hshift : shiftBit^[8] ((x >>> 8) <<< 8) = x >>> 8 := by
    rw [← UInt16.toBitVec_inj, toBitVec_iterate_shiftBit, CyclicCode.iterate_shift_of_low _ hlow]
    refine BitVec.eq_of_getLsbD_eq fun i hi => ?_
    by_cases hnext : 8 + i < 16
    · simp [hnext]
    · simp [hnext, BitVec.getLsbD_of_ge x.toBitVec (8 + i) (by omega)]
  have hsplit : shiftBit^[8] x =
      shiftBit^[8] x.toUInt8.toUInt16 ^^^ shiftBit^[8] ((x >>> 8) <<< 8) := by
    rw [← UInt16.toBitVec_inj, UInt16.toBitVec_xor, toBitVec_iterate_shiftBit,
      toBitVec_iterate_shiftBit, toBitVec_iterate_shiftBit, ← CyclicCode.iterate_shift_xor,
      ← UInt16.toBitVec_xor, ← split_register]
  show crcTable.getD ((crc ^^^ byte.toUInt16) &&& 0xFF).toNat 0 ^^^ (crc >>> 8) = _
  rw [hindex, crcTable_eq, hhigh, bitwiseUpdate, hx, hsplit, hshift]

/-- The CRC is that of the bits. -/
theorem calcCrc_eq_bitwiseCrc (input : List UInt8) : calcCrc input = bitwiseCrc input := by
  have hupdate : update = bitwiseUpdate := by
    funext crc byte
    exact update_eq_bitwiseUpdate crc byte
  rw [calcCrc, bitwiseCrc, hupdate]

/-! ## Bits -/

theorem bitsOf_cons (byte : UInt8) (input : List UInt8) :
    bitsOf (byte :: input) = CyclicCode.bitsOf byte.toBitVec ++ bitsOf input := rfl

theorem length_bitsOf (input : List UInt8) : (bitsOf input).length = 8 * input.length := by
  induction input with
  | nil => rfl
  | cons byte input ih =>
    rw [bitsOf_cons, List.length_append, CyclicCode.length_bitsOf, ih, List.length_cons]
    omega

theorem toBitVec_bitwiseUpdate (crc : UInt16) (byte : UInt8) :
    (bitwiseUpdate crc byte).toBitVec =
      CyclicCode.remainder polynomial crc.toBitVec (CyclicCode.bitsOf byte.toBitVec) := by
  have hlength := CyclicCode.length_bitsOf byte.toBitVec
  have hpack : (CyclicCode.pack (CyclicCode.bitsOf byte.toBitVec) : BitVec 16) =
      byte.toUInt16.toBitVec := by
    refine BitVec.eq_of_getLsbD_eq fun i hi => ?_
    rw [CyclicCode.getLsbD_pack, decide_eq_true hi, Bool.true_and, CyclicCode.bitsOf,
      List.getD_eq_getElem?_getD, List.getElem?_map]
    by_cases hlow : i < 8
    · rw [List.getElem?_range hlow]
      simp [hi]
    · rw [List.getElem?_eq_none (by rw [List.length_range]; omega)]
      simp [hi, BitVec.getLsbD_of_ge byte.toBitVec i (by omega)]
  rw [CyclicCode.remainder_eq_shifts _ _ (by omega), hlength, hpack, bitwiseUpdate,
    toBitVec_iterate_shiftBit, UInt16.toBitVec_xor]

/-- The register after some bytes is the remainder of their bits. -/
theorem toBitVec_foldl_bitwiseUpdate (crc : UInt16) (input : List UInt8) :
    (input.foldl bitwiseUpdate crc).toBitVec =
      CyclicCode.remainder polynomial crc.toBitVec (bitsOf input) := by
  induction input generalizing crc with
  | nil => rfl
  | cons byte input ih =>
    rw [List.foldl_cons, ih, toBitVec_bitwiseUpdate, bitsOf_cons, CyclicCode.remainder_append]

theorem zipWith_bitsOf {w : Nat} (s t : BitVec w) :
    List.zipWith xor (CyclicCode.bitsOf s) (CyclicCode.bitsOf t) = CyclicCode.bitsOf (s ^^^ t) := by
  rw [CyclicCode.bitsOf, CyclicCode.bitsOf, CyclicCode.bitsOf, List.zipWith_map,
    List.zipWith_self]
  exact List.map_congr_left fun i _ => (BitVec.getLsbD_xor ..).symm

/-- Adding bytes adds their bits. -/
theorem bitsOf_zipWith {input error : List UInt8} (hlength : input.length = error.length) :
    bitsOf (List.zipWith (· ^^^ ·) input error) =
      List.zipWith xor (bitsOf input) (bitsOf error) := by
  induction input generalizing error with
  | nil =>
    obtain rfl := List.length_eq_zero_iff.mp hlength.symm
    rfl
  | cons byte input ih =>
    cases error with
    | nil => cases hlength
    | cons e error =>
      rw [List.zipWith_cons_cons, bitsOf_cons, ih (Nat.succ.inj hlength), bitsOf_cons, bitsOf_cons,
        UInt8.toBitVec_xor, ← zipWith_bitsOf, List.zipWith_append]
      rw [CyclicCode.length_bitsOf, CyclicCode.length_bitsOf]

/-- The bits of two bytes are those of the number that they are read as. -/
theorem bitsOf_readUInt16 (low high : UInt8) :
    bitsOf [low, high] = CyclicCode.bitsOf (readUInt16 [low, high] 0).toBitVec := by
  refine List.ext_getElem? fun i => ?_
  by_cases hi : i < 16
  · have hvalue : readUInt16 [low, high] 0 = low.toUInt16 ||| (high.toUInt16 <<< 8) := rfl
    rw [bitsOf_cons, bitsOf_cons, hvalue, CyclicCode.bitsOf, CyclicCode.bitsOf, CyclicCode.bitsOf,
      List.getElem?_map, List.getElem?_range hi]
    by_cases hlow : i < 8
    · rw [List.getElem?_append_left (by simpa using hlow), List.getElem?_map,
        List.getElem?_range hlow]
      simp [hi, hlow]
    · rw [List.getElem?_append_right (by simpa using hlow), List.length_map, List.length_range,
        List.getElem?_append_left (by simp; omega), List.getElem?_map,
        List.getElem?_range (by omega)]
      simp [hi, hlow, BitVec.getLsbD_of_ge low.toBitVec i (by omega)]
  · rw [List.getElem?_eq_none (by rw [length_bitsOf]; simp; omega),
      List.getElem?_eq_none (by rw [CyclicCode.length_bitsOf]; omega)]

/-- Errors are added to the number that two bytes are read as. -/
theorem readUInt16_xor (low high low' high' : UInt8) :
    (readUInt16 [low ^^^ low', high ^^^ high'] 0).toBitVec =
      (readUInt16 [low, high] 0).toBitVec ^^^ (readUInt16 [low', high'] 0).toBitVec := by
  have hlength : [low, high].length = [low', high'].length := rfl
  have hbits : CyclicCode.bitsOf (readUInt16 [low ^^^ low', high ^^^ high'] 0).toBitVec =
      CyclicCode.bitsOf ((readUInt16 [low, high] 0).toBitVec ^^^
        (readUInt16 [low', high'] 0).toBitVec) := by
    rw [← bitsOf_readUInt16, ← zipWith_bitsOf, ← bitsOf_readUInt16, ← bitsOf_readUInt16,
      ← bitsOf_zipWith hlength]
    rfl
  rw [← CyclicCode.pack_bitsOf (readUInt16 [low ^^^ low', high ^^^ high'] 0).toBitVec, hbits,
    CyclicCode.pack_bitsOf]

/-! ## Bursts -/

theorem true_mem_bitsOf {error : List UInt8} (h : ∃ byte ∈ error, byte ≠ 0) :
    true ∈ bitsOf error := by
  obtain ⟨byte, hmem, hne⟩ := h
  rw [bitsOf, List.mem_flatMap]
  refine ⟨byte, hmem, ?_⟩
  by_contra hnone
  refine hne (UInt8.toBitVec_inj.mp (BitVec.eq_of_getLsbD_eq fun i hi => ?_))
  cases hbit : byte.toBitVec.getLsbD i with
  | false => simp
  | true => exact absurd (List.mem_map.mpr ⟨i, List.mem_range.mpr hi, hbit⟩) hnone

theorem toBitVec_calcCrc (input : List UInt8) :
    (calcCrc input).toBitVec = ~~~ CyclicCode.remainder polynomial 0#16 (bitsOf input) := by
  rw [calcCrc_eq_bitwiseCrc, bitwiseCrc, UInt16.toBitVec_not, toBitVec_foldl_bitwiseUpdate]
  rfl

/-- A block is correct when the register after its data holds the complement of its CRC. -/
theorem isCorrectCRC_append (data : List UInt8) (low high : UInt8) :
    isCorrectCRC (data ++ [low, high]) data.length = true ↔
      CyclicCode.remainder polynomial 0#16 (bitsOf data) =
        ~~~ (readUInt16 [low, high] 0).toBitVec := by
  have hread : readUInt16 (data ++ [low, high]) data.length = readUInt16 [low, high] 0 := by
    simp [readUInt16]
  rw [isCorrectCRC, beq_iff_eq, List.take_left, hread, ← UInt16.toBitVec_inj, toBitVec_calcCrc]
  constructor
  · intro h
    rw [← h, BitVec.not_not]
  · intro h
    rw [h, BitVec.not_not]

/-- A burst is detected. -/
theorem isCorrectCRC_burst {data error : List UInt8} (hlength : error.length = data.length + 2)
    (hburst : CyclicCode.Burst (bitsOf error) 16) (hset : ∃ byte ∈ error, byte ≠ 0) :
    isCorrectCRC (List.zipWith (· ^^^ ·) (addCrc data) error) data.length = false := by
  have hdrop : (error.drop data.length).length = 2 := by
    rw [List.length_drop]
    omega
  obtain ⟨low, high, htail⟩ := List.length_eq_two.mp hdrop
  obtain ⟨front, rfl⟩ : ∃ front, error = front ++ [low, high] :=
    ⟨error.take data.length, by rw [← htail, List.take_append_drop]⟩
  have hfront : data.length = front.length := by
    rw [List.length_append] at hlength
    exact (Nat.add_right_cancel hlength).symm
  have hreceived : List.zipWith (· ^^^ ·) (addCrc data) (front ++ [low, high]) =
      List.zipWith (· ^^^ ·) data front ++
        [(calcCrc data).toUInt8 ^^^ low, (calcCrc data >>> 8).toUInt8 ^^^ high] := by
    rw [addCrc, List.zipWith_append hfront]
    rfl
  have hdata : (List.zipWith (· ^^^ ·) data front).length = data.length := by
    rw [List.length_zipWith, ← hfront, Nat.min_self]
  have hwritten : readUInt16 [(calcCrc data).toUInt8, (calcCrc data >>> 8).toUInt8] 0 =
      calcCrc data := readUInt16_write (calcCrc data) [] []
  rw [← Bool.not_eq_true]
  intro hcorrect
  rw [hreceived, ← hdata, isCorrectCRC_append, readUInt16_xor, hwritten, toBitVec_calcCrc,
    ← BitVec.not_xor_left, BitVec.not_not] at hcorrect
  have hzero := (CyclicCode.remainder_eq_zero_iff polynomial highest_polynomial _ _).mpr hcorrect
  have hlengths : (bitsOf data).length = (bitsOf front).length := by
    rw [length_bitsOf, length_bitsOf, hfront]
  have hbits : bitsOf (front ++ [low, high]) = bitsOf front ++ bitsOf [low, high] :=
    List.flatMap_append ..
  have hcount : (bitsOf (front ++ [low, high])).length = (bitsOf data).length + 16 := by
    rw [length_bitsOf, length_bitsOf, hlength]
    omega
  have hcode := CyclicCode.remainder_code_ne_zero polynomial highest_polynomial hcount hburst
    (true_mem_bitsOf hset)
  refine hcode ?_
  rw [hbits, List.zipWith_append hlengths, ← bitsOf_zipWith hfront, bitsOf_readUInt16,
    zipWith_bitsOf, CyclicCode.remainder_append]
  exact hzero

/-- The CRC is that of the bits, computed one after the other; and of a block with its CRC behind
it, every burst of at most sixteen bits is detected. -/
theorem crc_detects_bursts :
    (∀ input, calcCrc input = bitwiseCrc input) ∧
    ∀ data error : List UInt8, error.length = data.length + 2 →
      CyclicCode.Burst (bitsOf error) 16 → (∃ byte ∈ error, byte ≠ 0) →
        isCorrectCRC (List.zipWith (· ^^^ ·) (addCrc data) error) data.length = false :=
  ⟨calcCrc_eq_bitwiseCrc, fun _ _ => isCorrectCRC_burst⟩

/-- Sixteen errors from the last bit of the data on. -/
theorem crc_detects_straddling_burst :
    calcCrc [0x05, 0x64] = bitwiseCrc [0x05, 0x64] ∧
      isCorrectCRC (List.zipWith (· ^^^ ·) (addCrc [0x05, 0x64]) [0x00, 0x80, 0xFF, 0x7F]) 2 =
        false := by
  refine ⟨crc_detects_bursts.1 _, crc_detects_bursts.2 _ _ rfl ⟨15, fun i hi => ?_⟩
    ⟨0x80, by decide, by decide⟩⟩
  have hones : ∀ i < 32, (bitsOf [0x00, 0x80, 0xFF, 0x7F])[i]? = some true →
      15 ≤ i ∧ i < 15 + 16 := by decide
  have hlt := (List.getElem?_eq_some_iff.mp hi).1
  rw [length_bitsOf] at hlt
  exact hones i hlt hi

end CRC
end Link
end Dnp3
