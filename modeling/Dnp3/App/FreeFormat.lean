import Dnp3.App.Group120

/-!
# Objects in free format are parsed back

An object of variable length that was written behind a free-format header has the size that stands
in the header, so that the parser finds the object, reads it, and goes on behind it.  The parser
knows all objects of group 120 that are written but two: a certificate is not supported, and the
authentication code of the aggressive mode is the trailer of a request, which is parsed apart.

`free_format_round_trip` is the result of the module, in three parts: fields that are written are
read back, reading takes nothing from behind the input, and an object that is written behind a
free-format header is accepted by the parser, whatever stands behind it.  It asks for fewer than
65536 fields; `not_free_format_round_trip` shows what goes wrong with 65536 of them, where the sum
of their sizes comes back to a small number and the check for room passes.
-/

namespace Dnp3
namespace App

open Library

namespace VariableLength

variable {F T : Type} (type : VariableLength F T)

/-! ## The bytes of an object -/

/-- The object as it is transmitted. -/
def bytes (v : T) : List UInt8 :=
  type.fixed.write (type.values v) ++ (PrefixFields.bytes (type.fields v) ++ type.remainder v)

/-- What an object takes. -/
def byteSize (v : T) : Nat :=
  type.fixed.size + (PrefixFields.size (type.fields v) + (type.remainder v).length)

/-- The object as it is transmitted. -/
def image (v : T) : T :=
  type.ofParts (type.fixed.image (type.values v)) (type.fields v) (type.remainder v)

variable {type} {v : T}

theorem length_bytes (v : T) : (type.bytes v).length = type.byteSize v := by
  rw [bytes, List.length_append, List.length_append, Codec.length_write,
    PrefixFields.length_bytes, byteSize]

theorem toNat_size (v : T) : (type.size v).toNat = type.byteSize v % 2 ^ 32 := by
  have hfields : (type.fields v).length * 2 + type.fixed.size = type.MIN_SIZE.toNat := by
    rw [type.minSize_eq, type.length_fields, Nat.add_comm]
  have hsum : type.size v = UInt32.ofNat (type.byteSize v) := by
    rw [size, PrefixFields.sumSizes_eq, ← UInt32.ofNat_toNat (x := type.MIN_SIZE), ← hfields,
      ← UInt32.ofNat_add, ← UInt32.ofNat_add, byteSize, PrefixFields.size]
    congr 1
    omega
  rw [hsum, UInt32.toNat_ofNat']

/-- An object is written whole, or it is refused. -/
theorem written_write {buffer : WSlice} (hsize : type.byteSize v < 2 ^ 32)
    (h : (type.write v buffer).2 = true) :
    PrefixFields.lengthFitsInUInt16 (type.fields v) = true ∧
      (type.write v buffer).1.written = buffer.written ++ type.bytes v := by
  have hbytes : type.byteSize v = type.fixed.size +
      (PrefixFields.size (type.fields v) + (type.remainder v).length) := rfl
  rw [write] at h ⊢
  rw [toNat_size, Nat.mod_eq_of_lt hsize] at h ⊢
  split at h
  · cases h
  next hroom =>
    rw [if_neg hroom]
    split at h
    next hfits =>
      rw [if_pos hfits]
      have hfixed : (type.fixed.write (type.values v)).length ≤ buffer.size := by
        rw [Codec.length_write]
        omega
      have hafter := WSlice.size_write hfixed
      rw [Codec.length_write] at hafter
      have hfields := @PrefixFields.written_write
        (buffer.write (type.fixed.write (type.values v))) (type.fields v) (by omega)
      rcases hwrite : PrefixFields.write (buffer.write (type.fixed.write (type.values v)))
        (type.fields v) with ⟨buffer', ok⟩
      rw [hwrite] at h hfields
      dsimp only at h hfields ⊢
      cases ok with
      | false => cases h
      | true =>
        obtain ⟨-, hwritten, hrest⟩ := hfields rfl
        refine ⟨hfits, ?_⟩
        rw [if_pos rfl, WSlice.written_write (by omega), hwritten, WSlice.written_write hfixed,
          bytes]
        simp only [List.append_assoc]
    · cases h

/-- An object is read as it was transmitted. -/
theorem read_bytes (hsize : type.byteSize v < 2 ^ 32)
    (hfits : PrefixFields.lengthFitsInUInt16 (type.fields v) = true) :
    type.read (type.bytes v) = some (type.image v) := by
  have hlength : (type.bytes v).length = type.byteSize v := length_bytes v
  have hmin : ¬ (type.bytes v).length < type.MIN_SIZE.toNat := by
    rw [hlength, type.minSize_eq, byteSize, PrefixFields.size, type.length_fields]
    omega
  have hfields : PrefixFields.size (type.fields v) < 2 ^ 32 := by
    rw [byteSize] at hsize
    omega
  have hread := PrefixFields.read_append hfits hfields (type.remainder v)
  rw [type.length_fields] at hread
  have hfixed : type.fixed.read (type.bytes v) = type.fixed.image (type.values v) := by
    rw [bytes, Codec.read_write_append]
  rw [read, if_neg hmin, hfixed, bytes, List.drop_left' (type.fixed.length_write _), hread]
  dsimp only
  split
  · rfl
  next hnone =>
    have hnil := type.remainder_nil (Bool.eq_false_of_not_eq_true hnone) v
    rw [image, hnil]
    rfl

end VariableLength

/-! ## Writing behind a header -/

namespace HeaderWriter

variable {F T : Type} {type : VariableLength F T} {v : T}

/-- What stands behind the qualifier: the count and the size of the object, and the object. -/
def freeFormatBody (type : VariableLength F T) (v : T) : List UInt8 :=
  [1] ++ (leBytes 2 (type.byteSize v) ++ type.bytes v)

theorem written_writeFreeFormat {w : HeaderWriter} (hsize : type.byteSize v ≤ 65535)
    (h : (w.writeFreeFormat type v).2 = true) :
    PrefixFields.lengthFitsInUInt16 (type.fields v) = true ∧
      (w.writeFreeFormat type v).1.position.written = w.position.written ++
        (headerBytes type.id .uint16FreeFormat ++ freeFormatBody type v) := by
  have htoNat : (type.size v).toNat = type.byteSize v := by
    rw [VariableLength.toNat_size, Nat.mod_eq_of_lt (by omega)]
  have hreserve : ((3 : UInt32) + (1 + 2 + type.size v)).toNat = 6 + type.byteSize v := by
    simp only [UInt32.toNat_add, htoNat, UInt32.reduceToNat]
    omega
  rw [writeFreeFormat] at h ⊢
  dsimp only at h ⊢
  rw [hreserve] at h ⊢
  split at h
  · cases h
  next hroom =>
    have hheader : (headerBytes type.id .uint16FreeFormat).length ≤ w.position.size := by
      show 3 ≤ w.position.size
      omega
    have hafter : (w.position.write (headerBytes type.id .uint16FreeFormat)).size =
        w.position.size - 3 := WSlice.size_write hheader
    have hwrite : w.writeHeader type.id .uint16FreeFormat =
        ({ w with position := w.position.write (headerBytes type.id .uint16FreeFormat) }, true) := by
      rw [writeHeader, if_neg (by omega), headerBytes]
    rw [if_neg hroom]
    rw [hwrite] at h ⊢
    dsimp only at h ⊢
    rw [if_pos rfl] at h ⊢
    obtain ⟨hfits, hwritten⟩ := VariableLength.written_write (by omega) h
    have hcount : ([1] : List UInt8).length ≤
        (w.position.write (headerBytes type.id .uint16FreeFormat)).size := by
      show 1 ≤ _
      omega
    have hnumber : (leBytes 2 (type.size v).toNat).length ≤
        ((w.position.write (headerBytes type.id .uint16FreeFormat)).write [1]).size := by
      rw [WSlice.size_write hcount, hafter, length_leBytes]
      show 2 ≤ w.position.size - 3 - 1
      omega
    refine ⟨hfits, ?_⟩
    dsimp only
    rw [hwritten, WSlice.written_write hnumber, WSlice.written_write hcount,
      WSlice.written_write hheader, htoNat, freeFormatBody]
    simp only [List.append_assoc]

end HeaderWriter

/-! ## Parsing -/

namespace PrefixFields

theorem map_toNat_readLengths (n : Nat) (input : List UInt8) :
    (readLengths n input).1.map UInt16.toNat =
      (List.range n).map fun i => leNat ((input.drop (2 * i)).take 2) := by
  induction n generalizing input with
  | zero => rfl
  | succ n ih =>
    have hlt : leNat (input.take 2) < 65536 := by
      show leNat (input.take 2) < 256 ^ 2
      refine Nat.lt_of_lt_of_le (leNat_lt _) (Nat.pow_le_pow_right (by decide) ?_)
      rw [List.length_take]
      exact Nat.min_le_left 2 _
    rw [readLengths]
    dsimp only
    rw [List.map_cons, ih, List.range_succ_eq_map, List.map_cons, List.map_map,
      UInt16.toNat_ofNat_of_lt' hlt]
    refine congrArg₂ _ rfl (List.map_congr_left fun i _ => ?_)
    rw [Function.comp_apply, List.drop_drop, Nat.succ_eq_add_one, Nat.mul_add, Nat.mul_one,
      Nat.add_comm 2]

theorem length_readLengths (n : Nat) (input : List UInt8) : (readLengths n input).1.length = n := by
  have h := congrArg List.length (map_toNat_readLengths n input)
  rwa [List.length_map, List.length_map, List.length_range] at h

/-- Few lengths are added up without an overflow. -/
theorem toNat_sum {lengths : List UInt16} (h : lengths.length ≤ 65537) :
    (lengths.map UInt16.toUInt32).sum.toNat = (lengths.map UInt16.toNat).sum := by
  have hbound : ∀ lengths : List UInt16,
      (lengths.map UInt16.toNat).sum ≤ lengths.length * 65535 := by
    intro lengths
    induction lengths with
    | nil => exact Nat.le_refl 0
    | cons length lengths ih =>
      have hlt := length.toNat_lt
      rw [List.map_cons, List.sum_cons, List.length_cons]
      omega
  induction lengths with
  | nil => rfl
  | cons length lengths ih =>
    rw [List.length_cons] at h
    have hrest := ih (by omega)
    have hle := hbound (length :: lengths)
    rw [List.map_cons, List.sum_cons, List.length_cons] at hle
    rw [List.map_cons, List.sum_cons, UInt32.toNat_add, hrest, UInt16.toNat_toUInt32,
      List.map_cons, List.sum_cons, Nat.mod_eq_of_lt (by omega)]

theorem readFields_drop (lengths : List UInt16) (input : List UInt8) :
    (readFields lengths input).2 = input.drop (lengths.map UInt16.toNat).sum := by
  induction lengths generalizing input with
  | nil => rfl
  | cons length lengths ih =>
    rw [readFields]
    dsimp only
    rw [ih, List.drop_drop, List.map_cons, List.sum_cons]

/-- What the parser looks at is what the fields leave. -/
theorem prefixFieldsRest_eq {n : Nat} (h : n ≤ 65537) (input : List UInt8) :
    FreeFormatParser.prefixFieldsRest n input = (read n input).1.map fun _ => (read n input).2 := by
  have hsum := @toNat_sum (readLengths n input).1 (by rwa [length_readLengths])
  rw [FreeFormatParser.prefixFieldsRest, read, Nat.mul_comm 2 n]
  dsimp only
  rw [← map_toNat_readLengths, hsum, readLengths_rest, List.length_drop]
  split
  · rfl
  · split
    · rfl
    · rw [Option.map_some, readFields_drop, List.drop_drop]

end PrefixFields

namespace VariableLength

variable {F T : Type} {type : VariableLength F T} {v : T}

/-- The parser asks whether the object can be read. -/
theorem readsObject_eq (hfew : type.numFields ≤ 65537) (object : List UInt8) :
    FreeFormatParser.readsObject type.MIN_SIZE.toNat type.fixed.size type.numFields
      (!type.hasRemainder) object = (type.read object).isSome := by
  rw [FreeFormatParser.readsObject, read, PrefixFields.prefixFieldsRest_eq hfew]
  split
  · rfl
  · rcases PrefixFields.read type.numFields (object.drop type.fixed.size) with ⟨_ | fields, rest⟩
    · rfl
    · dsimp only [Option.map_some]
      cases type.hasRemainder with
      | true => rfl
      | false => cases rest <;> rfl

/-- The parser reads objects of the type. -/
def Supported (type : VariableLength F T) : Prop :=
  FreeFormatParser.objectReader
      (GroupVariationRecord.getRecord type.id.group type.id.variation).enumeration =
    some (FreeFormatParser.readsObject type.MIN_SIZE.toNat type.fixed.size type.numFields
      (!type.hasRemainder))

/-- The parser accepts the body of a free-format header, and nothing behind it. -/
theorem parseHeader_body (hs : type.Supported) (hfew : type.numFields ≤ 65537)
    (hsize : type.byteSize v ≤ 65535)
    (hfits : PrefixFields.lengthFitsInUInt16 (type.fields v) = true) {record : HeaderRecord}
    (hrecord : record.toGroupVariationRecord =
      GroupVariationRecord.getRecord type.id.group type.id.variation) (tail : List UInt8) :
    FreeFormatParser.parseHeader (HeaderWriter.freeFormatBody type v ++ tail) record =
      .ok (.freeFormat record (type.bytes v), tail) := by
  have hlength : (type.bytes v).length = type.byteSize v := length_bytes v
  have hreads : FreeFormatParser.readsObject type.MIN_SIZE.toNat type.fixed.size type.numFields
      (!type.hasRemainder) (type.bytes v) = true := by
    rw [readsObject_eq hfew, read_bytes (by omega) hfits]
    rfl
  have hreader : FreeFormatParser.objectReader record.enumeration =
      some (FreeFormatParser.readsObject type.MIN_SIZE.toNat type.fixed.size type.numFields
        (!type.hasRemainder)) := by
    rw [hrecord]
    exact hs
  have hnumber : leNat (leBytes 2 (type.byteSize v)) = type.byteSize v := by
    rw [leNat_leBytes]
    exact Nat.mod_eq_of_lt (by omega)
  have hcount : ([1] ++ leBytes 2 (type.byteSize v) : List UInt8).length = 3 := rfl
  have hobjects : (HeaderWriter.freeFormatBody type v ++ tail).drop 3 = type.bytes v ++ tail := by
    rw [HeaderWriter.freeFormatBody, ← List.append_assoc, List.append_assoc]
    exact List.drop_left' hcount
  have hfield : ((HeaderWriter.freeFormatBody type v ++ tail).drop 1).take 2 =
      leBytes 2 (type.byteSize v) := by
    rw [HeaderWriter.freeFormatBody, List.append_assoc, List.append_assoc]
    exact List.take_left' (length_leBytes 2 _)
  have hfirst : (HeaderWriter.freeFormatBody type v ++ tail).getD 0 0 = 1 := rfl
  have henough : ¬ (HeaderWriter.freeFormatBody type v ++ tail).length < 3 := by
    have hdrop := congrArg List.length hobjects
    rw [HeaderWriter.freeFormatBody, ← List.append_assoc, List.length_append, List.length_append,
      hcount]
    omega
  rw [FreeFormatParser.parseHeader, if_neg henough]
  dsimp only
  rw [hfirst, hfield, hobjects, hnumber, if_neg (by decide), if_neg (by
    rw [List.length_append]
    omega), hreader]
  dsimp only
  rw [List.take_left' hlength, List.drop_left' hlength, if_pos hreads]

end VariableLength

/-! ## Round trips -/

/-- The types of objects that are written in free format. -/
inductive IsGroup120 : {F T : Type} → VariableLength F T → Prop where
  | var1 : IsGroup120 group120Var1
  | var2 : IsGroup120 group120Var2
  | var5 : IsGroup120 group120Var5
  | var6 : IsGroup120 group120Var6
  | var7 : IsGroup120 group120Var7
  | var8 : IsGroup120 group120Var8
  | var9 : IsGroup120 group120Var9
  | var10 : IsGroup120 group120Var10
  | var11 : IsGroup120 group120Var11
  | var12 : IsGroup120 group120Var12
  | var13 : IsGroup120 group120Var13
  | var14 : IsGroup120 group120Var14
  | var15 : IsGroup120 group120Var15

theorem IsGroup120.supported {F T : Type} {type : VariableLength F T} (h : IsGroup120 type)
    (hcertificate : type.id ≠ ⟨120, 8⟩) (htrailer : type.id ≠ ⟨120, 9⟩) :
    type.Supported ∧ type.numFields ≤ 3 := by
  cases h with
  | var8 => exact absurd rfl hcertificate
  | var9 => exact absurd rfl htrailer
  | _ => exact ⟨rfl, by decide⟩

namespace PrefixFields

/-- When the fields are written, they are read from these bytes, whatever stands behind them. -/
def RoundTrips (fields : List (List UInt8)) (dest : WSlice) : Prop :=
  (write dest fields).2 = true →
    ∃ written, (write dest fields).1.written = dest.written ++ written ∧
      ∀ rest, read fields.length (written ++ rest) = (some fields, rest)

theorem roundTrips {fields : List (List UInt8)} (hfew : fields.length ≤ 65535)
    (hfits : lengthFitsInUInt16 fields = true) (dest : WSlice) : RoundTrips fields dest := by
  intro hwrite
  have hsize := size_lt_of_fits hfits hfew
  obtain ⟨-, hwritten, -⟩ := written_write hsize hwrite
  exact ⟨bytes fields, hwritten, read_append hfits hsize⟩

theorem extends_write (dest : WSlice) (fields : List (List UInt8)) :
    dest.Extends (write dest fields).1 := by
  have hlengths : ∀ dest' : WSlice, dest'.Extends (writeLengths dest' fields) := by
    induction fields with
    | nil => exact WSlice.Extends.refl
    | cons arg1 fields ih => exact fun dest' => (WSlice.extends_write _ _).trans (ih _)
  have hfields : ∀ dest' : WSlice, dest'.Extends (writeFields dest' fields) := by
    clear hlengths
    induction fields with
    | nil => exact WSlice.Extends.refl
    | cons arg1 fields ih => exact fun dest' => (WSlice.extends_write _ _).trans (ih _)
  rw [write]
  split
  · exact .refl dest
  · exact (hlengths dest).trans (hfields _)

/-- Fields that do not fit into the memory cannot be read from it. -/
theorem not_roundTrips {fields : List (List UInt8)} {dest : WSlice}
    (hwrite : (write dest fields).2 = true)
    (hlarge : dest.mem.length < (fields.map List.length).sum) : ¬ RoundTrips fields dest := by
  intro h
  obtain ⟨written, hwritten, hread⟩ := h hwrite
  have hmem := (extends_write dest fields).length
  have hpos := (write dest fields).1.pos_le
  have hlength := congrArg List.length hwritten
  rw [WSlice.length_written, List.length_append] at hlength
  obtain ⟨taken, htaken, hfields⟩ := read_takes fields.length (written ++ [])
  have hflat := congrArg List.length (hfields fields (congrArg Prod.fst (hread [])))
  have hall := congrArg List.length htaken
  rw [List.length_flatten, List.length_drop] at hflat
  rw [List.append_nil, List.length_append] at hall
  omega

end PrefixFields

/-- An object that is written in free format is parsed from the bytes that were written, whatever
stands behind them, and it can be read. -/
def VariableLength.Accepted {F T : Type} (type : VariableLength F T) (v : T) (w : HeaderWriter) :
    Prop :=
  (w.writeFreeFormat type v).2 = true →
    ∃ body object, (w.writeFreeFormat type v).1.position.written = w.position.written ++
        (HeaderWriter.headerBytes type.id .uint16FreeFormat ++ body) ∧
      (∀ record : HeaderRecord, record.toGroupVariationRecord =
          GroupVariationRecord.getRecord type.id.group type.id.variation →
        ∀ tail, FreeFormatParser.parseHeader (body ++ tail) record =
          .ok (.freeFormat record object, tail)) ∧
      type.read object = some (type.image v)

/-- Fewer than 65536 fields whose lengths fit are read back from what was written; reading takes
nothing from behind the input; and an object of at most 65535 bytes, of a type that the parser
knows, is accepted from what was written. -/
theorem free_format_round_trip :
    (∀ (fields : List (List UInt8)) (dest : WSlice), fields.length ≤ 65535 →
      PrefixFields.lengthFitsInUInt16 fields = true → PrefixFields.RoundTrips fields dest) ∧
    (∀ (n : Nat) (input : List UInt8),
      ∃ taken, input = taken ++ (PrefixFields.read n input).2 ∧
        ∀ fields, (PrefixFields.read n input).1 = some fields →
          fields.flatten = taken.drop (n * 2)) ∧
    ∀ {F T : Type} (type : VariableLength F T), IsGroup120 type → type.id ≠ ⟨120, 8⟩ →
      type.id ≠ ⟨120, 9⟩ → ∀ (v : T) (w : HeaderWriter), type.byteSize v ≤ 65535 →
        type.Accepted v w := by
  refine ⟨fun fields dest hfew hfits => PrefixFields.roundTrips hfew hfits dest,
    PrefixFields.read_takes, ?_⟩
  intro F T type htype hcertificate htrailer v w hsize hwrite
  obtain ⟨hsupported, hfew⟩ := htype.supported hcertificate htrailer
  obtain ⟨hfits, hwritten⟩ := HeaderWriter.written_writeFreeFormat hsize hwrite
  refine ⟨_, type.bytes v, hwritten, fun record hrecord tail => ?_, ?_⟩
  · exact VariableLength.parseHeader_body hsupported (by omega) hsize hfits hrecord tail
  · exact VariableLength.read_bytes (by omega) hfits

/-- A name and a challenge are read back, and a user is added by an object of 25 bytes. -/
theorem free_format_round_trip_user :
    PrefixFields.RoundTrips [[0x4A, 0x6F], [1, 2, 3]] (.ofMemory (List.replicate 9 0)) ∧
    (PrefixFields.write (.ofMemory (List.replicate 9 0)) [[0x4A, 0x6F], [1, 2, 3]]).2 = true ∧
    group120Var11.Accepted ⟨.aes128Sha1Hmac, [0x4A, 0x6F], [1, 2, 3]⟩
      (.ofSlice (.ofMemory (List.replicate 16 0))) ∧
    ((HeaderWriter.ofSlice (.ofMemory (List.replicate 16 0))).writeFreeFormat group120Var11
      ⟨.aes128Sha1Hmac, [0x4A, 0x6F], [1, 2, 3]⟩).2 = true :=
  ⟨free_format_round_trip.1 _ _ (by decide) (by decide), by decide +kernel,
    free_format_round_trip.2.2 group120Var11 .var11 (by decide) (by decide) _ _ (by decide),
    by decide +kernel⟩

theorem PrefixFields.lengthFitsInUInt16_replicate (n : Nat) {m : Nat} (h : m ≤ 65535) :
    lengthFitsInUInt16 (List.replicate n (List.replicate m 0)) = true := by
  induction n with
  | zero => rfl
  | succ n ih =>
    rw [List.replicate_succ, lengthFitsInUInt16, ih, List.length_replicate, decide_eq_true h]
    rfl

theorem FreeFormatParser.parseHeader_ne_ok {buffer rest : List UInt8} {record : HeaderRecord}
    {header : ObjectHeader} (hreader : objectReader record.enumeration = none) :
    parseHeader buffer record ≠ .ok (header, rest) := by
  intro h
  rw [parseHeader, hreader] at h
  split at h
  · cases h
  · dsimp only at h
    split_ifs at h

/-- What 65536 full fields take is 65536 in 32 bits, so that they are written where they do not
fit; and the parser does not know the authentication code of the aggressive mode. -/
theorem not_free_format_round_trip :
    (¬ ∀ (fields : List (List UInt8)) (dest : WSlice),
      PrefixFields.lengthFitsInUInt16 fields = true → PrefixFields.RoundTrips fields dest) ∧
    ¬ ∀ {F T : Type} (type : VariableLength F T), IsGroup120 type → ∀ (v : T) (w : HeaderWriter),
      type.byteSize v ≤ 65535 → type.Accepted v w := by
  constructor
  · intro h
    obtain ⟨n, hn⟩ : ∃ n, n = 65536 := ⟨_, rfl⟩
    obtain ⟨m, hm⟩ : ∃ m, m = 65535 := ⟨_, rfl⟩
    obtain ⟨k, hk⟩ : ∃ k, k = 131072 := ⟨_, rfl⟩
    let fields : List (List UInt8) := List.replicate n (List.replicate m 0)
    let dest := WSlice.ofMemory (List.replicate k 0)
    have hsum : (fields.map List.length).sum = n * m := by
      simp [fields]
    have hsize : PrefixFields.size fields = n * 2 + n * m := by
      rw [PrefixFields.size, hsum, List.length_replicate]
    have hroom : dest.size = k := by
      simp [dest, WSlice.ofMemory, WSlice.size]
    have hmem : dest.mem.length = k := by
      simp [dest, WSlice.ofMemory]
    have hwrite : (PrefixFields.write dest fields).2 = true := by
      rw [PrefixFields.write, if_neg]
      rw [PrefixFields.toNat_totalSize, hsize, hroom, hn, hm, hk]
      decide
    refine PrefixFields.not_roundTrips hwrite ?_
      (h fields dest (PrefixFields.lengthFitsInUInt16_replicate n (by omega)))
    rw [hsum, hmem, hn, hm, hk]
    decide
  · intro h
    obtain ⟨body, object, -, hparse, -⟩ := h group120Var9 .var9 ⟨[]⟩
      (.ofSlice (.ofMemory (List.replicate 6 0))) (by decide) (by decide +kernel)
    exact FreeFormatParser.parseHeader_ne_ok rfl (hparse ⟨.getRecord 120 9, 0x5B, 0⟩ rfl [])

end App
end Dnp3
