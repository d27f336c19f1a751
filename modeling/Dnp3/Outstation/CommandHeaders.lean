import Dnp3.App.ParsedHeaders
import Dnp3.App.ParserPasses
import Dnp3.Outstation.SelectBeforeOperate

/-!
# The headers of commands

The objects of a SELECT, an OPERATE or a DIRECT_OPERATE are accepted when each of their headers is a
header of commands: of one of five types, behind a count and indices of one or two bytes.  There is
at least one command in a header, there are no more than its count can say, and the number of bytes
it was read from is known.

`IsCommands` says of a header that it is one of commands: which of the five types the commands are
of, how many bytes the indices take, and that the bytes are those of the commands themselves.  The
parser yields nothing else for a request that the white-list of commands accepts
(`areCommands_of_parse`), so the proofs about command handlers go by the type of the commands and
never by a group and variation.
-/

namespace Dnp3
namespace App

open Library

/-! ## The bytes of a header -/

theorem QualifierCode.eq_toType {qualifier : UInt8} {qc : QualifierCode}
    (h : QualifierCode.fromType qualifier = qc) (hknown : qc ≠ .undefined) :
    qualifier = qc.toType := by
  subst h
  rw [← UInt8.toNat_inj]
  unfold fromType at hknown ⊢
  revert hknown
  generalize qualifier.toNat = n
  intro hknown
  split at hknown
  all_goals first | rfl | exact absurd rfl hknown

/-- The group and the variation of commands. -/
theorem GroupVariation.fromType_command {arg : UInt16} {gv : GroupVariation}
    (h : GroupVariation.fromType arg = gv) :
    (gv = .group12Var1 → arg.toNat = 0x0C01) ∧ (gv = .group41Var1 → arg.toNat = 0x2901) ∧
    (gv = .group41Var2 → arg.toNat = 0x2902) ∧ (gv = .group41Var3 → arg.toNat = 0x2903) ∧
    (gv = .group41Var4 → arg.toNat = 0x2904) := by
  subst h
  unfold GroupVariation.fromType
  generalize arg.toNat = n
  refine ⟨?_, ?_, ?_, ?_, ?_⟩
  all_goals
    intro h
    split at h
    all_goals first | rfl | cases h

theorem GroupVariationRecord.toNat_getGroupVar (group variation : UInt8) :
    (getGroupVar group variation).toNat = 2 ^ 8 * group.toNat + variation.toNat := by
  have hgroup := group.toNat_lt
  rw [getGroupVar, UInt16.toNat_or, UInt16.toNat_shiftLeft, UInt8.toNat_toUInt16,
    UInt8.toNat_toUInt16, Nat.two_pow_add_eq_or_of_lt variation.toNat_lt]
  simp only [UInt16.reduceToNat, Nat.reduceMod]
  rw [Nat.shiftLeft_eq, Nat.mod_eq_of_lt (by omega), Nat.mul_comm]

theorem GroupVariationRecord.fromType_of_getEnum {group variation : UInt8} {gv : GroupVariation}
    (h : getEnum group variation = gv) (hoctets : gv ≠ .group110Var0 ∧ gv ≠ .group111Var0 ∧
      gv ≠ .group112Var0 ∧ gv ≠ .group113Var0) (hknown : gv ≠ .unknown) :
    GroupVariation.fromType (getGroupVar group variation) = gv := by
  rw [getEnum] at h
  split at h
  · obtain ⟨h110, h111, h112, h113⟩ := hoctets
    split at h
    · exact absurd h.symm h110
    · exact absurd h.symm h111
    · exact absurd h.symm h112
    · exact absurd h.symm h113
    · exact absurd h.symm hknown
  · exact h

end App

namespace Outstation

open App Library

/-! ## Types of commands -/

/-- A type of commands, and the values its commands are handed over in. -/
inductive CommandKind : {T : Type} → CommandType T → (List (Indexed T) → Values) → Prop where
  | controlRelayOutputBlock :
      CommandKind .controlRelayOutputBlock .controlRelayOutputBlock
  | analogOutputInt16 : CommandKind .analogOutputInt16 .analogOutputInt16
  | analogOutputInt32 : CommandKind .analogOutputInt32 .analogOutputInt32
  | analogOutputFloat32 : CommandKind .analogOutputFloat32 .analogOutputFloat32
  | analogOutputDouble64 : CommandKind .analogOutputDouble64 .analogOutputDouble64

namespace CommandKind

variable {T : Type} {type : CommandType T} {wrap : List (Indexed T) → Values}

/-- The parser reads commands of the type. -/
theorem supported (h : CommandKind type wrap) (values : List (Indexed T)) :
    (Contents.prefixed type.serializer wrap values).Supported := by
  show prefixReader (GroupVariationRecord.getRecord type.serializer.id.group
    type.serializer.id.variation).enumeration = some (.fixedSize type.serializer.codec wrap)
  cases h <;> rfl

theorem lossless_vs {S : Type} {c : Codec S} (hc : c.Lossless) :
    ((Layout.vs c).map (fun r => analogOutputFactory r.1 r.2) convertQS).Lossless :=
  (hc.prod Codec.lossless_uint8).map fun analog => by
    rw [convertQS, analogOutputFactory, CommandStatus.fromType_toType]

/-- Commands are transmitted as they are. -/
theorem lossless (h : CommandKind type wrap) : type.serializer.codec.Lossless := by
  cases h with
  | controlRelayOutputBlock =>
    have hfields : (Codec.uint8.prod (Codec.uint8.prod (Codec.uint32.prod
        (Codec.uint32.prod Codec.uint8)))).Lossless :=
      Codec.lossless_uint8.prod (Codec.lossless_uint8.prod (Codec.lossless_uint32.prod
        (Codec.lossless_uint32.prod Codec.lossless_uint8)))
    intro crob
    have himage := hfields.map (f := fun r => (⟨r.1, r.2.1, r.2.2.1, r.2.2.2.1,
      .fromType r.2.2.2.2⟩ : ControlRelayOutputBlock)) (g := fun crob => (crob.rawCode, crob.count,
        crob.onTimeMS, crob.offTimeMS, crob.status.toType)) fun crob => by
          rw [CommandStatus.fromType_toType]
    exact himage crob
  | analogOutputInt16 => exact lossless_vs Codec.lossless_int16
  | analogOutputInt32 => exact lossless_vs Codec.lossless_int32
  | analogOutputFloat32 => exact lossless_vs lossless_single
  | analogOutputDouble64 => exact lossless_vs lossless_double

/-- The group variations of commands are known by their bytes. -/
theorem eq_id {group variation : UInt8} (h : CommandKind type wrap)
    (henum : GroupVariationRecord.getEnum group variation =
      GroupVariationRecord.getEnum type.serializer.id.group type.serializer.id.variation) :
    group = type.serializer.id.group ∧ variation = type.serializer.id.variation := by
  have hvariation := variation.toNat_lt
  have hcode : (GroupVariationRecord.getGroupVar group variation).toNat =
      2 ^ 8 * type.serializer.id.group.toNat + type.serializer.id.variation.toNat := by
    have hfrom := GroupVariationRecord.fromType_of_getEnum henum (by cases h <;> decide)
      (by cases h <;> decide)
    obtain ⟨h1, h2, h3, h4, h5⟩ := GroupVariation.fromType_command hfrom
    cases h with
    | controlRelayOutputBlock => exact h1 rfl
    | analogOutputInt16 => exact h3 rfl
    | analogOutputInt32 => exact h2 rfl
    | analogOutputFloat32 => exact h4 rfl
    | analogOutputDouble64 => exact h5 rfl
  have hv := type.serializer.id.variation.toNat_lt
  rw [GroupVariationRecord.toNat_getGroupVar] at hcode
  rw [← UInt8.toNat_inj, ← UInt8.toNat_inj]
  omega

/-- An allowed header is a header of commands. -/
theorem exists_of_isAllowed {count : Nat} {group variation : UInt8} {qc : QualifierCode}
    (h : CommandResponseHandler.isAllowed count (GroupVariationRecord.getEnum group variation) qc) :
    ∃ (T : Type) (type : CommandType T) (wrap : List (Indexed T) → Values),
      CommandKind type wrap ∧ group = type.serializer.id.group ∧
        variation = type.serializer.id.variation := by
  unfold CommandResponseHandler.isAllowed at h
  split at h
  · split at h
    next hgv =>
      exact ⟨_, _, _, .controlRelayOutputBlock, eq_id .controlRelayOutputBlock hgv⟩
    next hgv =>
      exact ⟨_, _, _, .analogOutputInt32, eq_id .analogOutputInt32 hgv⟩
    next hgv =>
      exact ⟨_, _, _, .analogOutputInt16, eq_id .analogOutputInt16 hgv⟩
    next hgv =>
      exact ⟨_, _, _, .analogOutputFloat32, eq_id .analogOutputFloat32 hgv⟩
    next hgv =>
      exact ⟨_, _, _, .analogOutputDouble64, eq_id .analogOutputDouble64 hgv⟩
    next => cases h
  · cases h

end CommandKind

/-! ## The headers of a request -/

/-- The qualifier of commands behind indices of a type. -/
def prefixQualifier : IndexType → QualifierCode
  | .uint8 => .uint8CntUint8Index
  | .uint16 => .uint16CntUint16Index

/-- A header of commands in the place `count`, and the number of bytes it was read from. -/
inductive IsCommands (count : Nat) : ObjectHeader → Nat → Prop where
  | intro {T : Type} {type : CommandType T} {wrap : List (Indexed T) → Values}
      (kind : CommandKind type wrap) (t : IndexType) (values : List (Indexed T))
      (hpos : 0 < values.length) (hlt : values.length < t.modulus)
      (hindices : ∀ v ∈ values, v.index.toNat < t.modulus) :
      IsCommands count
        (.prefixOf ((Contents.prefixed type.serializer wrap values).headerRecord t count)
          (UInt16.ofNat values.length) (wrap values))
        (3 + t.SIZE + values.length * (type.serializer.size + t.SIZE))

theorem value_lt (t : IndexType) (buffer : List UInt8) : t.value buffer < t.modulus := by
  refine Nat.lt_of_lt_of_le (leNat_lt _) (Nat.pow_le_pow_right (by decide) ?_)
  rw [List.length_take]
  exact Nat.min_le_left _ _

/-- What is read of prefixed objects. -/
theorem parseHeader_prefixed {T : Type} {s : DNP3Serializer T} {wrap : List (Indexed T) → Values}
    {buffer rest : List UInt8} {t : IndexType} {record : HeaderRecord} {header : ObjectHeader}
    (hreader : prefixReader record.enumeration = some (.fixedSize s.codec wrap))
    (h : CountIndexParser.parseHeader buffer t record = .ok (header, rest)) :
    ∃ values : List (Indexed T),
      header = .prefixOf record (UInt16.ofNat values.length) (wrap values) ∧
      0 < values.length ∧ values.length < t.modulus ∧ (∀ v ∈ values, v.index.toNat < t.modulus) ∧
      buffer.length = t.SIZE + values.length * (s.size + t.SIZE) + rest.length := by
  have hmodulus := t.modulus_le
  have hvalue : ∀ b, (UInt16.ofNat (t.value b)).toNat = t.value b := fun b =>
    UInt16.toNat_ofNat_of_lt' (Nat.lt_of_lt_of_le (value_lt t b) hmodulus)
  rw [CountIndexParser.parseHeader, NumParser.parseCount] at h
  split at h
  · cases h
  next heq =>
    split at heq
    · cases heq
    next hlength =>
      split at heq
      · cases heq
      next hzero =>
        cases heq
        rw [CountIndexParser.parseCountOfObjects, hreader] at h
        dsimp only at h
        rw [process] at h
        split at h
        · cases h
        next hroom =>
          cases h
          rw [hvalue] at hroom ⊢
          rw [List.length_drop] at hroom
          have hpos : 0 < t.value buffer := by
            refine Nat.pos_of_ne_zero fun h0 => hzero ?_
            show UInt16.ofNat (t.value buffer) = 0
            rw [h0]
            rfl
          refine ⟨collect (s.codec.size + t.SIZE)
            (fun b _ => ⟨s.codec.read (b.drop t.SIZE), (NumParser.readNum t b).1⟩)
            (buffer.drop t.SIZE) 0 (t.value buffer), ?_, ?_, ?_, ?_, ?_⟩
          · rw [Handled.length_collect]
          · rwa [Handled.length_collect]
          · rw [Handled.length_collect]
            exact value_lt t buffer
          · intro v hv
            rw [Handled.collect_eq_map, List.mem_map] at hv
            obtain ⟨k, -, rfl⟩ := hv
            show (UInt16.ofNat (t.value _)).toNat < t.modulus
            rw [hvalue]
            exact value_lt t _
          · rw [Handled.length_collect, List.length_drop, List.length_drop, DNP3Serializer.size]
            omega

/-- A header that passes the white-list is a header of commands. -/
theorem isCommands_of_parseHeader {buffer rest : List UInt8} {count : Nat} {header : ObjectHeader}
    (h : APDUParser.parseHeader buffer count true (some CommandResponseHandler.isAllowed) =
      .ok (header, rest)) :
    ∃ size, IsCommands count header size ∧ buffer.length = size + rest.length := by
  rw [APDUParser.parseHeader] at h
  split at h
  · cases h
  next hlength =>
    dsimp only at h
    split at h
    · cases h
    · split at h
      · cases h
      next hallowed =>
        rw [Option.any_some, Bool.not_eq_true', Bool.not_eq_false] at hallowed
        obtain ⟨T, type, wrap, kind, hgroup, hvariation⟩ :=
          CommandKind.exists_of_isAllowed hallowed
        obtain ⟨t, hqualifier⟩ : ∃ t, QualifierCode.fromType (buffer.getD 2 0) =
            prefixQualifier t := by
          unfold CommandResponseHandler.isAllowed at hallowed
          split at hallowed
          next hqc =>
            rcases hqc with hqc | hqc
            · exact ⟨.uint8, hqc⟩
            · exact ⟨.uint16, hqc⟩
          · cases hallowed
        generalize hrecord :
          ({ GroupVariationRecord.getRecord (buffer.getD 0 0) (buffer.getD 1 0) with
            qualifier := buffer.getD 2 0, headerIndex := count } : HeaderRecord) = record at h
        have hsame : ∀ values, record =
            (Contents.prefixed type.serializer wrap values).headerRecord t count := by
          intro values
          rw [← hrecord, hgroup, hvariation, QualifierCode.eq_toType hqualifier
            (by cases t <;> decide)]
          cases t <;> rfl
        have hcode : record.getQualifierCode = prefixQualifier t := by
          rw [← hrecord]
          exact hqualifier
        have hreader : prefixReader record.enumeration =
            some (.fixedSize type.serializer.codec wrap) := by
          rw [hsame []]
          exact kind.supported []
        have hparse :
            CountIndexParser.parseHeader (buffer.drop 3) t record = .ok (header, rest) := by
          rw [APDUParser.parseQualifier, hcode] at h
          cases t <;> exact h
        obtain ⟨values, rfl, hpos, hlt, hindices, hbytes⟩ := parseHeader_prefixed hreader hparse
        rw [hsame values]
        refine ⟨_, .intro kind t values hpos hlt hindices, ?_⟩
        rw [List.length_drop] at hbytes
        omega

/-- Headers of commands from the place `count` on, and the number of bytes they were read from. -/
inductive AreCommands : Nat → List ObjectHeader → Nat → Prop where
  | nil (count : Nat) : AreCommands count [] 0
  | cons {count size sizes : Nat} {header : ObjectHeader} {headers : List ObjectHeader}
      (head : IsCommands count header size) (tail : AreCommands (count + 1) headers sizes) :
      AreCommands count (header :: headers) (size + sizes)

/-- The second pass reads what the first one has. -/
theorem parseHeader_none {buffer rest : List UInt8} {count : Nat} {header : ObjectHeader}
    {expectsContents : Bool} {whiteList : APDUParser.WhiteList}
    (h : APDUParser.parseHeader buffer count expectsContents (some whiteList) =
      .ok (header, rest)) :
    APDUParser.parseHeader buffer count expectsContents none = .ok (header, rest) := by
  rw [APDUParser.parseHeader] at h ⊢
  split at h
  · cases h
  next hlength =>
    rw [if_neg hlength]
    dsimp only at h ⊢
    split at h
    · cases h
    next hknown =>
      rw [if_neg hknown, Option.any_none, if_neg Bool.false_ne_true]
      split at h
      · cases h
      · exact h

/-- A header that is rejected does not end the parsing well. -/
theorem ne_ok_of_parseHeader {buffer : List UInt8} {count : Nat} {expectsContents : Bool}
    {whiteList : Option APDUParser.WhiteList} {result : ParseResult}
    (h : APDUParser.parseHeader buffer count expectsContents whiteList = .error result) :
    result ≠ .ok := by
  rcases Handled.APDUParser.parseHeader_cases expectsContents count buffer with
    hfails | ⟨_, _, _, hstarts⟩
  · obtain ⟨e, he, -, -, hparsed⟩ := hfails.handled false whiteList
    rw [hparsed] at h
    cases h
    exact he
  · have hparsed := hstarts.parsed whiteList
    rw [h] at hparsed
    split at hparsed
    · cases hparsed
    · cases hparsed
      decide

theorem areCommands_of_parseHeaders {fuel count : Nat} {buffer : List UInt8}
    {headers : List ObjectHeader} (hfuel : buffer.length ≤ fuel)
    (h : APDUParser.parseHeaders true (some CommandResponseHandler.isAllowed) fuel count buffer =
      (.ok, headers)) :
    APDUParser.parseHeaders true none fuel count buffer = (.ok, headers) ∧
      AreCommands count headers buffer.length := by
  induction fuel generalizing count buffer headers with
  | zero =>
    cases h
    rw [List.length_eq_zero_iff.mp (Nat.le_zero.mp hfuel)]
    exact ⟨rfl, .nil count⟩
  | succ fuel ih =>
    rw [APDUParser.parseHeaders] at h
    split at h
    next hempty =>
      cases h
      rw [List.isEmpty_iff.mp hempty]
      exact ⟨rfl, .nil count⟩
    next hne =>
      cases hparse : APDUParser.parseHeader buffer count true
          (some CommandResponseHandler.isAllowed) with
      | error e =>
        rw [hparse] at h
        exact absurd (congrArg Prod.fst h) (ne_ok_of_parseHeader hparse)
      | ok parsed =>
        obtain ⟨header, rest⟩ := parsed
        have hheaders := APDUParser.parseHeaders_ok fuel hparse
        obtain ⟨size, hcommands, hlength⟩ := isCommands_of_parseHeader hparse
        have hsize : 3 ≤ size := by
          cases hcommands
          omega
        rcases htail : APDUParser.parseHeaders true (some CommandResponseHandler.isAllowed) fuel
          (count + 1) rest with ⟨result, tail⟩
        rw [APDUParser.parseHeaders, if_neg hne, h, htail] at hheaders
        cases hheaders
        obtain ⟨hpass, hare⟩ := ih (by omega) htail
        rw [APDUParser.parseHeaders_ok fuel (parseHeader_none hparse), hpass, hlength]
        exact ⟨rfl, .cons hcommands hare⟩

/-- The objects of a request that is accepted. -/
theorem areCommands_of_parse {objects : List UInt8} {headers : List ObjectHeader}
    (h : APDUParser.parse objects true CommandResponseHandler.isAllowed = (.ok, headers)) :
    AreCommands 0 headers objects.length := by
  rw [APDUParser.parse] at h
  rcases hcheck : APDUParser.parseSinglePass objects true
    (some CommandResponseHandler.isAllowed) with ⟨result, checked⟩
  rw [hcheck] at h
  dsimp only at h
  split at h
  next hok =>
    subst hok
    obtain ⟨hpass, hare⟩ := areCommands_of_parseHeaders (Nat.le_refl _) hcheck
    rw [APDUParser.parseSinglePass, hpass] at h
    cases h
    exact hare
  next hbad =>
    exact absurd (congrArg Prod.fst h) hbad

end Outstation
end Dnp3
