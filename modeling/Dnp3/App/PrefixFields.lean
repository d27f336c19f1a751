import Dnp3.App.WrittenFront

/-!
# Length-prefixed fields

Fields of variable length stand behind their lengths: first come all lengths, in two bytes each, and
then all fields.  What the fields take is added up in 32 bits, once, before anything is written or
read; nothing is checked afterwards.

The fields are arguments of a call in the source, so that their number is known when it is compiled.

`write` and `read` are the two templates of the source on lists.  `written_write` says that fields
are written whole or not at all, and `read_append` that they come back from the bytes that were
written, whatever stands behind them.  Both ask for less than 65536 fields, each of a length that 16
bits can hold: with more of them the sum is no longer the size of what is written, although no
object of the protocol comes near that number.
-/

namespace Dnp3
namespace App

open Library

namespace PrefixFields

/-! ## Writing -/

/-- `SumSizes`. -/
def sumSizes : List (List UInt8) → UInt32
  | [] => 0
  | arg1 :: fields => UInt32.ofNat arg1.length + sumSizes fields

/-- `LengthFitsInUInt16`. -/
def lengthFitsInUInt16 : List (List UInt8) → Bool
  | [] => true
  | arg1 :: fields => decide (arg1.length ≤ 65535) && lengthFitsInUInt16 fields

/-- The length of a field, as it is cast to 16 bits. -/
def lengthBytes (field : List UInt8) : List UInt8 := leBytes 2 field.length

/-- The lengths of all fields come before the first field. -/
def writeLengths (dest : WSlice) : List (List UInt8) → WSlice
  | [] => dest
  | arg1 :: fields => writeLengths (dest.write (lengthBytes arg1)) fields

/-- A field for which there is no room is not copied. -/
def writeFields (dest : WSlice) : List (List UInt8) → WSlice
  | [] => dest
  | arg1 :: fields => writeFields (dest.write arg1) fields

/-- `TOTAL_SIZE`. -/
def totalSize (fields : List (List UInt8)) : UInt32 :=
  UInt32.ofNat (fields.length * 2) + sumSizes fields

/-- Lengths and fields are written if all of them fit. -/
def write (dest : WSlice) (fields : List (List UInt8)) : WSlice × Bool :=
  if dest.size < (totalSize fields).toNat then (dest, false)
  else (writeFields (writeLengths dest fields) fields, true)

/-! ## Reading -/

/-- Read some lengths, and advance behind them. -/
def readLengths : Nat → List UInt8 → List UInt16 × List UInt8
  | 0, input => ([], input)
  | n + 1, input =>
    let (lengths, rest) := readLengths n (input.drop 2)
    (UInt16.ofNat (leNat (input.take 2)) :: lengths, rest)

/-- Take the fields of some lengths. -/
def readFields : List UInt16 → List UInt8 → List (List UInt8) × List UInt8
  | [], input => ([], input)
  | length :: lengths, input =>
    let (fields, rest) := readFields lengths (input.drop length.toNat)
    (input.take length.toNat :: fields, rest)

/-- Read `n` fields; the input is advanced behind what was read, also when not all could be. -/
def read (n : Nat) (input : List UInt8) : Option (List (List UInt8)) × List UInt8 :=
  if input.length < n * 2 then (none, input)
  else
    let (lengths, input) := readLengths n input
    if input.length < (lengths.map UInt16.toUInt32).sum.toNat then (none, input)
    else
      let (fields, input) := readFields lengths input
      (some fields, input)

/-! ## What is written -/

/-- The bytes of some fields. -/
def bytes (fields : List (List UInt8)) : List UInt8 := fields.flatMap lengthBytes ++ fields.flatten

/-- What some fields take. -/
def size (fields : List (List UInt8)) : Nat := fields.length * 2 + (fields.map List.length).sum

theorem length_bytes (fields : List (List UInt8)) : (bytes fields).length = size fields := by
  rw [bytes, List.length_append, List.length_flatten, size,
    length_flatMap_const fun field _ => length_leBytes 2 field.length]

theorem sumSizes_eq (fields : List (List UInt8)) :
    sumSizes fields = UInt32.ofNat (fields.map List.length).sum := by
  induction fields with
  | nil => rfl
  | cons arg1 fields ih => rw [sumSizes, ih, List.map_cons, List.sum_cons, UInt32.ofNat_add]

theorem toNat_totalSize (fields : List (List UInt8)) :
    (totalSize fields).toNat = size fields % 2 ^ 32 := by
  rw [totalSize, sumSizes_eq, ← UInt32.ofNat_add, UInt32.toNat_ofNat', size]

theorem sum_length_le {fields : List (List UInt8)} (h : lengthFitsInUInt16 fields = true) :
    (fields.map List.length).sum ≤ fields.length * 65535 := by
  induction fields with
  | nil => exact Nat.le_refl 0
  | cons arg1 fields ih =>
    rw [lengthFitsInUInt16, Bool.and_eq_true, decide_eq_true_eq] at h
    have hrest := ih h.2
    rw [List.map_cons, List.sum_cons, List.length_cons]
    omega

/-- Fewer than 65536 fields whose lengths fit are added up without an overflow. -/
theorem size_lt_of_fits {fields : List (List UInt8)} (h : lengthFitsInUInt16 fields = true)
    (hfew : fields.length ≤ 65535) : size fields < 2 ^ 32 := by
  have hsum := sum_length_le h
  rw [size]
  omega

/-- Writing for which there is room. -/
theorem written_writeLengths {dest : WSlice} {fields : List (List UInt8)}
    (hroom : fields.length * 2 ≤ dest.size) :
    (writeLengths dest fields).written = dest.written ++ fields.flatMap lengthBytes ∧
      (writeLengths dest fields).size = dest.size - fields.length * 2 := by
  induction fields generalizing dest with
  | nil => exact ⟨(List.append_nil _).symm, rfl⟩
  | cons arg1 fields ih =>
    rw [List.length_cons] at hroom
    have hlength : (lengthBytes arg1).length = 2 := length_leBytes 2 arg1.length
    have hfits : (lengthBytes arg1).length ≤ dest.size := by omega
    have hsize := WSlice.size_write hfits
    obtain ⟨hwritten, hrest⟩ := @ih (dest.write (lengthBytes arg1)) (by omega)
    rw [writeLengths, hwritten, hrest, WSlice.written_write hfits, hsize, List.length_cons,
      List.flatMap_cons, List.append_assoc]
    refine ⟨rfl, ?_⟩
    omega

theorem written_writeFields {dest : WSlice} {fields : List (List UInt8)}
    (hroom : (fields.map List.length).sum ≤ dest.size) :
    (writeFields dest fields).written = dest.written ++ fields.flatten ∧
      (writeFields dest fields).size = dest.size - (fields.map List.length).sum := by
  induction fields generalizing dest with
  | nil => exact ⟨(List.append_nil _).symm, rfl⟩
  | cons arg1 fields ih =>
    rw [List.map_cons, List.sum_cons] at hroom
    have hfits : arg1.length ≤ dest.size := Nat.le_of_add_right_le hroom
    have hsize := WSlice.size_write hfits
    obtain ⟨hwritten, hrest⟩ := @ih (dest.write arg1) (by omega)
    rw [writeFields, hwritten, hrest, WSlice.written_write hfits, hsize, List.map_cons,
      List.sum_cons, List.flatten_cons, List.append_assoc, Nat.sub_sub]
    exact ⟨rfl, rfl⟩

/-- Fields are written whole or not at all. -/
theorem written_write {dest : WSlice} {fields : List (List UInt8)} (hsize : size fields < 2 ^ 32)
    (h : (write dest fields).2 = true) :
    size fields ≤ dest.size ∧ (write dest fields).1.written = dest.written ++ bytes fields ∧
      (write dest fields).1.size = dest.size - size fields := by
  rw [write] at h ⊢
  rw [toNat_totalSize, Nat.mod_eq_of_lt hsize] at h ⊢
  split at h
  · cases h
  next hroom =>
    have hfits : size fields ≤ dest.size := Nat.le_of_not_lt hroom
    rw [size] at hfits
    obtain ⟨hlengths, hrest⟩ := @written_writeLengths dest fields (by omega)
    obtain ⟨hfields, hafter⟩ := @written_writeFields (writeLengths dest fields) fields
      (by omega)
    rw [if_neg hroom]
    refine ⟨Nat.le_of_not_lt hroom, ?_, ?_⟩
    · rw [hfields, hlengths, bytes, List.append_assoc]
    · rw [hafter, hrest, size, Nat.sub_sub]

/-! ## What is read -/

/-- The lengths of fields that fit. -/
def lengths (fields : List (List UInt8)) : List UInt16 :=
  fields.map fun field => UInt16.ofNat field.length

theorem toNat_length {field : List UInt8} (h : field.length ≤ 65535) :
    (UInt16.ofNat field.length).toNat = field.length :=
  UInt16.toNat_ofNat_of_lt' (Nat.lt_succ_of_le h)

theorem readLengths_append (fields : List (List UInt8)) (rest : List UInt8) :
    readLengths fields.length (fields.flatMap lengthBytes ++ rest) = (lengths fields, rest) := by
  induction fields with
  | nil => rfl
  | cons arg1 fields ih =>
    have hlength : (lengthBytes arg1).length = 2 := length_leBytes 2 arg1.length
    rw [List.length_cons, readLengths, List.flatMap_cons, List.append_assoc,
      List.drop_left' hlength, List.take_left' hlength, ih, lengthBytes, leNat_leBytes]
    have hsame : UInt16.ofNat (arg1.length % 256 ^ 2) = UInt16.ofNat arg1.length := by
      rw [← UInt16.toNat_inj, UInt16.toNat_ofNat', UInt16.toNat_ofNat']
      exact Nat.mod_mod _ _
    rw [hsame]
    rfl

theorem readFields_append {fields : List (List UInt8)} (h : lengthFitsInUInt16 fields = true)
    (rest : List UInt8) :
    readFields (lengths fields) (fields.flatten ++ rest) = (fields, rest) := by
  induction fields with
  | nil => rfl
  | cons arg1 fields ih =>
    rw [lengthFitsInUInt16, Bool.and_eq_true, decide_eq_true_eq] at h
    have htail := ih h.2
    rw [lengths, List.map_cons, readFields, toNat_length h.1, List.flatten_cons, List.append_assoc,
      List.drop_left' rfl, List.take_left' rfl]
    rw [lengths] at htail
    rw [htail]

/-- The lengths that were read are added up in 32 bits. -/
theorem toNat_sum_lengths {fields : List (List UInt8)} (h : lengthFitsInUInt16 fields = true)
    (hsize : size fields < 2 ^ 32) :
    ((lengths fields).map UInt16.toUInt32).sum.toNat = (fields.map List.length).sum := by
  rw [size] at hsize
  have hsum : ((lengths fields).map UInt16.toUInt32).sum =
      UInt32.ofNat (fields.map List.length).sum := by
    clear hsize
    induction fields with
    | nil => rfl
    | cons arg1 fields ih =>
      rw [lengthFitsInUInt16, Bool.and_eq_true, decide_eq_true_eq] at h
      have htail := ih h.2
      rw [lengths] at htail
      rw [lengths, List.map_cons, List.map_cons, List.sum_cons, htail, List.map_cons,
        List.sum_cons, UInt32.ofNat_add]
      congr 1
      rw [← UInt32.toNat_inj, UInt16.toNat_toUInt32, toNat_length h.1,
        UInt32.toNat_ofNat_of_lt' (by
          show arg1.length < 4294967296
          omega)]
  rw [hsum, UInt32.toNat_ofNat_of_lt' (by
    show _ < 4294967296
    omega)]

/-- Fields are read back, and nothing behind them. -/
theorem read_append {fields : List (List UInt8)} (h : lengthFitsInUInt16 fields = true)
    (hsize : size fields < 2 ^ 32) (rest : List UInt8) :
    read fields.length (bytes fields ++ rest) = (some fields, rest) := by
  have hlengths := readLengths_append fields (fields.flatten ++ rest)
  have htotal := length_bytes fields
  rw [size] at htotal
  have hprefix : ¬ (bytes fields ++ rest).length < fields.length * 2 := by
    rw [List.length_append]
    omega
  have hfields : ¬ (fields.flatten ++ rest).length < (fields.map List.length).sum := by
    rw [List.length_append, List.length_flatten]
    omega
  rw [read, if_neg hprefix, bytes, List.append_assoc, hlengths]
  dsimp only
  rw [toNat_sum_lengths h hsize, if_neg hfields, readFields_append h rest]

theorem readLengths_rest (n : Nat) (input : List UInt8) :
    (readLengths n input).2 = input.drop (n * 2) := by
  induction n generalizing input with
  | zero => rfl
  | succ n ih =>
    rw [readLengths]
    dsimp only
    rw [ih, List.drop_drop, Nat.succ_mul, Nat.add_comm]

theorem readFields_rest (lengths : List UInt16) (input : List UInt8) :
    (readFields lengths input).1.flatten ++ (readFields lengths input).2 = input := by
  induction lengths generalizing input with
  | nil => rfl
  | cons length lengths ih =>
    rw [readFields]
    dsimp only
    rw [List.flatten_cons, List.append_assoc, ih, List.take_append_drop]

/-- What is left is a rest of the input, and the fields stand behind the lengths in front of it. -/
theorem read_takes (n : Nat) (input : List UInt8) :
    ∃ taken, input = taken ++ (read n input).2 ∧
      ∀ fields, (read n input).1 = some fields → fields.flatten = taken.drop (n * 2) := by
  rw [read]
  split
  next hshort => exact ⟨[], rfl, fun fields h => by cases h⟩
  next hprefix =>
    have hrest := readLengths_rest n input
    dsimp only
    split
    next =>
      refine ⟨input.take (n * 2), ?_, fun fields h => by cases h⟩
      rw [hrest, List.take_append_drop]
    next =>
      have hfields := readFields_rest (readLengths n input).1 (readLengths n input).2
      refine ⟨input.take (n * 2) ++ (readFields (readLengths n input).1
        (readLengths n input).2).1.flatten, ?_, ?_⟩
      · dsimp only
        rw [List.append_assoc, hfields, hrest, List.take_append_drop]
      · rintro fields ⟨⟩
        rw [List.drop_left']
        rw [List.length_take, Nat.min_eq_left (Nat.le_of_not_lt hprefix)]

end PrefixFields
end App
end Dnp3
